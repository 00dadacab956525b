import GraphProbe.Text.CodePoint
import GraphProbe.Text.PackedTable
/-!
# Character classes of Unicode text

The kit quotes text in messages and reads numbers written with any decimal digits, so it needs
three classes of characters beyond ASCII:

* *blanks*, the characters that trimming removes;
* *decimal digits* (general category Nd), each with its value;
* *hidden* characters, which a quoted literal writes as an escape: the control, format,
  surrogate, private-use and unassigned characters, and every separator but the space.

The tables list closed ranges of code points in increasing order.
-/

namespace GraphProbe.Text

/-- A closed range of code points. -/
abbrev CodeRange := Nat × Nat

/-- Whether a code point lies in one of the ranges. -/
def inRanges (rs : List CodeRange) (n : Nat) : Bool :=
  rs.any fun r => r.1 ≤ n && n ≤ r.2

/-- Blanks: the characters that trimming removes at either end of a text. -/
def isBlank (c : Char) : Bool :=
  let n := c.toNat
  (0x09 ≤ n && n ≤ 0x0D) || (0x1C ≤ n && n ≤ 0x20) || n == 0x85 || n == 0xA0 ||
    n == 0x1680 || (0x2000 ≤ n && n ≤ 0x200A) || n == 0x2028 || n == 0x2029 ||
    n == 0x202F || n == 0x205F || n == 0x3000

/-- Ranges of decimal digits; each range is a run of whole decades starting at a zero. -/
def digitRanges : List CodeRange := [
  (0x30, 0x39), (0x660, 0x669), (0x6F0, 0x6F9), (0x7C0, 0x7C9), (0x966, 0x96F), (0x9E6, 0x9EF),
  (0xA66, 0xA6F), (0xAE6, 0xAEF), (0xB66, 0xB6F), (0xBE6, 0xBEF), (0xC66, 0xC6F), (0xCE6, 0xCEF),
  (0xD66, 0xD6F), (0xDE6, 0xDEF), (0xE50, 0xE59), (0xED0, 0xED9), (0xF20, 0xF29), (0x1040, 0x1049),
  (0x1090, 0x1099), (0x17E0, 0x17E9), (0x1810, 0x1819), (0x1946, 0x194F), (0x19D0, 0x19D9), (0x1A80, 0x1A89),
  (0x1A90, 0x1A99), (0x1B50, 0x1B59), (0x1BB0, 0x1BB9), (0x1C40, 0x1C49), (0x1C50, 0x1C59), (0xA620, 0xA629),
  (0xA8D0, 0xA8D9), (0xA900, 0xA909), (0xA9D0, 0xA9D9), (0xA9F0, 0xA9F9), (0xAA50, 0xAA59), (0xABF0, 0xABF9),
  (0xFF10, 0xFF19), (0x104A0, 0x104A9), (0x10D30, 0x10D39), (0x11066, 0x1106F), (0x110F0, 0x110F9), (0x11136, 0x1113F),
  (0x111D0, 0x111D9), (0x112F0, 0x112F9), (0x11450, 0x11459), (0x114D0, 0x114D9), (0x11650, 0x11659), (0x116C0, 0x116C9),
  (0x11730, 0x11739), (0x118E0, 0x118E9), (0x11950, 0x11959), (0x11C50, 0x11C59), (0x11D50, 0x11D59), (0x11DA0, 0x11DA9),
  (0x16A60, 0x16A69), (0x16AC0, 0x16AC9), (0x16B50, 0x16B59), (0x1D7CE, 0x1D7FF), (0x1E140, 0x1E149), (0x1E2F0, 0x1E2F9),
  (0x1E950, 0x1E959), (0x1FBF0, 0x1FBF9)
]

/-- The value of a decimal digit of any script, or `none` for other characters. -/
def digitValue? (c : Char) : Option Nat :=
  let n := c.toNat
  (digitRanges.find? fun r => r.1 ≤ n && n ≤ r.2).map fun r => (n - r.1) % 10

/-- Whether a character is a decimal digit of some script. -/
def isDecimalDigit (c : Char) : Bool := (digitValue? c).isSome

/-- The hidden characters, packed as `unpackRanges` reads them. -/
def hiddenRanges : List CodeRange := unpackRanges "%!Q:%S$V*%Q(@%c$t(%,:%16%%(%;Q!%Y:dN%MQL%Q0R:%),%Q4S!%IQ:%0Q(%MQ(%T?Y,%Q+R6%Q9RL%R9U:%QERL%Q.R8%
7F%CQ8%&(%2F%JQL%QOS>%SJWD%.:%(,%>Q(%,6%%,%+2%1<%(,%*>%.0%**%*4%AQ2%),%+:%*,%>Q(%,6!%&*%&,%&(%*8
%*,%)2%(6%10%%6%>Q2%3,%0:%(,%=Q(%,6%&*%*4%2<%(,%(0%&F%92%4L%46%(,%.:%(,%>Q(%,6%&*%*4%1<%(,%):%04
%**%*4%:Q4%2*%+8%*,%)4%)*%%(%&0%)0%*2%5F%.6%*,%)2%&4%+D%IQ0%8B%(,%>Q*%7J%1:%(,%)<%.*%(0%&*%*2%2H
%CQ(%(,%>Q*%1<%*4%1:%(,%)<%.6%,*%)2%2<%&D%@B%(,%Q0R:%(,%+:%:J%BQ2%(,%9Q!%AQ,%0:%%*%.:%(0%04%%(%.
B%6>%)D%QBRN%GS*%M*%%(%*2%?Q,%%(%>Q,%+2%%(%+6%2>%*QD%R:S:%KQL%Q$QL%KQF%6F%4R6%U?Y:%%2%**%Y$d!%)2
%.6%%(%)2%Q$R!%)2%IQ@%)2%.6%%(%)2%7F%Q6RF%)2%QAS2%HQB%CQ<%R,T,%,6%a2p<%CQ:%R,T>%CQ:%GQ>%CQ<%?B%(
,%&B%R<T>%2F%6F%:D%2H%R1T>%Q,R2%QGSH%OQ<%3F%6F%),%Q&R(%+F%Q3R2%DQ<%7B%Q=S%%Q?S*%DQ:%3H%6F%:F%GSH
%S!SH%Q,R2%RGUL%Q@S!%8J%Q;S,%Q,R*%3L%Q.R2%]Ik<%,6%NQL%,6%08!&%(%FQ>%Q3R>%6F%5F%,4%:Q!%),%0Q0%OQ<
%Q3S%%9,%CQ4%4F%JR2%Q*R2%SCVJ%aKrF%JQ<%QQARR6%HQ>%X4bJ%Q,R,%%2%**%Q6S!%.F%LQ>%66!+,6%S$W@%Q8Q2%R
*TH%U6[8%LH%Q@S%%R&T,%R;U*%Q*R(%R1T<%R$T>%Q7R2%bk:sY%%Q6S%%X;c<%TJY*%U$YL%+*%%(%*Q6%QORN%3F%Q:S%
%QJSD%:J%RLV%%OQ>%QMSF%2D%KQ@%Q4S%%=F%2>%R;V%%Q0QH%66%,6%,D%66%,6%Q9S%%S(V(%2F%V_*]n>%IQ2%Q1YlH%
T|Nc<%R>VJ%Q&L%7:%EQ2%*2%%(!%&*%S!VD%ZOg2%Q4RL%,Q>%QFR2%Q5R:%:N%)6%.2%S0V@%T@Y,%.6!%,6%)2%06%,N%
5,%4@%AQ2%:N%&*%6H%6R2%SEV(%,4%Q+R2%R+T0%4F%(R2%R.X6%SGQ<%Q0S%%Q$Q<%NR*%MQB%Q*R2%IQ:%LQN%8RB%TFW
@%2F%Q!QL%NQL%Q%R2%Q8S!%=@%6F%,6%&*%2>%6F%,6%&S2%Y!a0%EQ<%8Q<%D4%Q$R%%0SD%QG6%&(%Q&R*%&0%(*%?Q*%
QESH%7RD%Q?N%&4%LQD%DQ<%*S(%RJRJ%>Q%%Q0R8%&4%38%(,%DQ:%)4%4H%6F%QCT>%QCR%%6Q!%Q;RD%FQ:%CQ<%EQ>%1
F%9T*%SAV(%R<S%%Q<RF%Q1R>%8_:%WEQ<%Q$R%%(0%(SH%RHR2%Q,S%%Q*S%%Q>R2%Q$Q<%R&SL%NR*%QCS!%*J%LQ<%7F%
Q7R>%9Q0%Q)R2%R;T@%;Q:%CL%Q&U,%QD6%%(%)0%6F%2H%Q=S%%5F%00%.:%(,%>Q(%,6%&*%*2%1>%(,%)0%&4%+2%28%.
:%,VJ%U;T8%*QB%R8SH%8X6%U0RB%NS8%R9SH%;F%9Q<%QIS%%6S%%QMQ6%7L%AYL%UIW@%T5T<%::%&*%08%&*%EQ:%&,%4
Q!%9SH%QJ:%Q*R2%3QH%R5SH%R+T>%R%b!%V::%Q(R,%5Q*%MQ<%IQ@%>Q(%5T*%QL6%&*%Q&R0%((%&*%0H%8F%24%&*%LQ
H%&*%+@%7a0%WOYL%T6F%Q=S!%h2QVH%U&U4%*F%TMSXJ%Qi)U4%kHUsH%Rl2ZdJ%UY(m8%LQ<%1B%R$SL%1F%JQ<%,F%QLS
H%:<%,6%<Q0%>sB%d=Y*%T,SF%Q9S%%>SJ%QAF%3F%Sf8Vz>%oBQdN%Q.ZUL%URI0%,6%&*%VNb!%Q*N%;>%Y@SRF%Qa;U4%
8F%2F%7>%*U_,%Ro(R2%?Q<%ROX6%W2],%Q+QN%QHSL%RJV4%R+ZB%T*Q<%R5T>%HW@%U0T(%QDS8%&,%&*%(,%*0%3@%%(%
,6%Q>S*%)2%08%,6%CQ6%)0%*2%%,%06%X)b2%W!_!%bFt*%:2%6Q[2%m$],%U<6%8L%.6%&*%*Z6%V*R2%7F%2B%*a4%X5R
2%QGS!%*Qc:%oK6%)0%&*%6F%TDY:%8RD%RGSH%4B%*w:%f3VJ%S1]*%TD0%BQ4%&*%%*%&(%1<%)0%%(%%4%+0%)(!%%(%(
,%&*%%*%&(!(%(%&*%%*%*0%,6!%)0%%(%1<%8Q%%,,%*2%8S2%Q2]N%W:R2%R:U4%AH%7F%6F%LR0%T6ZN%R$R!%Q5R2%3F
%.F%:W@%m(QU(%;L%6F%RIV(%R7T>%9F%)F%AF%Q8S%%8F%Q(R2%LQ<%(SH%YNbF%@F%+6%,6%0F%LQ<%4F%1F%:F%4F%5F%
SDW%%Q4T6%Q)QW<%jsBQVeH%RaATp(%U9ZB%S[0Vi%%TZ1[|@%RRGR^<%Sm9eel>%YnV7U]l("

/-- Whether a character is hidden: a quoted literal writes it as an escape. -/
def isHidden (c : Char) : Bool :=
  let n := c.toNat
  inRanges hiddenRanges n

end GraphProbe.Text
