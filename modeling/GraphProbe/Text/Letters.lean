import GraphProbe.Text.Unicode
import GraphProbe.Text.PackedTable

/-!
# Letters, digits and numerals of Unicode text

More classes of characters, each a table of closed ranges of code points in
increasing order:

* *letters*: the characters of the general categories Lu, Ll, Lt, Lm and Lo;
* *digits* other than decimal ones: characters with a digit value that are no decimal digit
  (superscripts, circled digits);
* *numerals* other than digits: characters with a numeric value that have no digit value
  (fractions, Roman numerals, ideographs of numbers);
* the characters that may start and continue a *name*.
-/

namespace GraphProbe.Text

/-- Ranges of letters. -/
def letterRanges : List CodeRange := unpackRanges "%Q=Q,%FQ<%QER2%1<%)0%*Q4%>Q<%FgJ%[!F%@L%26%%(%S(V6%**%(2%)(%+4%%,%((%%Q!%;T!%R!VB%S;X2%SOQJ%N*%+
R0%RBTB%E6%Q+T,%QJQF%&TF%R6(%6H%.8%2@%)*%7H%%Q:%Q7U@%R6>%?RD%Q!<%*0%*Q2%@0%0:%(,%>R2%FJ%6Q6%?4%=
RH%R6U4%Q5,%9L%,H%?Q:%:>%0,%(Q*%=6%,(%(4%+,%7H%4D%&,%7F%2<%.B%02%(Q*%=6%,*!%&*%GQB%)(%:Q%%9Q,%0,
%(Q(%=6%,*%&2%,,%9L%6H%?Q*%2L%0,%(Q*%=6%,*%&2%,,%EQ<%&,%8F%8J%%4%.2%(0%+0%&(%%*%)0%)2%*D%HQ(%Q1R
J%.,%(Q*%>H%9,%AQ6%)*%&,%FQ:%)>%.,%(Q*%><%12%,,%FQ>%&*%7H%9Q0%0,%(R!%Q$*%7H%*6%1<%AQ8%1Q(%;Q2%?:
%0(%&8%Q=U%%Q+*%4L%Q=RJ%&(%%2%*Q,%?(%%<%1*%1:%&4%*(%<Q,%JQ>%Q<S6%.QF%Q;Q<%RJW<%Q;Q!%7Q%%06%+,%(0
%.:%+H%?@%8R@%M(%*2%&R*%Q%aL%WN0%*8%,(%%0%*R%%Q!0%*QB%H0%*8%,(%%0%*H%6RF%Q60%*S2%R:R<%FTJ%R(6%.o
B%_HL%8Q2%ESH%QMB%5Q,%EQ<%GQ<%FQ2%4,%8S,%R&QD%)0%Q@W8%R2>%+QD%I(%*S>%QLQN%QLSF%F4%6R@%Q*Q8%QLSB%
FRN%S.SN%R0VB%Q<Q,%Q:T!%Q$D%2R>%QBRN%QIR(%3R,%L<%6R6%Q&0%Q%R*%)4%+*%),%*Y6%V(b2%VB6%,QL%N6%,:%.(
!%%(%%Q<%GR@%Q26%,(%(2%(6%04%*6%0H%86%(6%RMU>%4B%7Q6%RDTJ%)0%&>%1(%(6%14!%%(%%0%)>%32%.:%.0%Q1R>
%QgMS]B%U?:%+0%4R6%M(%*2%&RF%Q;6%7QJ%FF!+,6%R&SJ%[,h8%Q%R0%04%*T2%R,8%(T4%R+0%.R2%Q%T<%RAR4%QLS%
%]>XR2%Sr:kX*%]k*U6%Q*]L%V:L%@>%<S,%Q;R0%GS8%RIRF%1U!%R;S*%QA4%&(%%2%CQL%7,%(0%)Q*%Q0SJ%Q>S%%RBS
0%.,%%*%3QJ%LQ>%Q*R>%JR>%QGQ6%7Q!%*<%:D%*R!%Q<Q0%(8%BR%%@,%(R<%Q.(%(0%(4%+*%%(%?Q2%)@%8:%5J!%,6%
5F%,6%,R(%Q%D%:UF%S8]o6%V_2QB%AR<%Tt7Y|L%XFU*%S8R*%9H%02%%<%1B%42%*(%%*%&*%&U,%S5dJ%Y&SL%Q>RB%R0
R:%S%UF%*V:%T&RN%FQ<%KTF%R,8!%,6%,0%LR0%3Q2%AN%:*%&F%7F%Q*W:%],eL%FR:%R2SF%Q&Q>%;8%4R(%Q*QL%FQH%
N>%Q4YH%T,R>%NQL%NR(%Q*RJ%Q<Q(%2F%66%,*%&>%2F%66%,*%QAd!%W@Q:%FJ%FQ8%+R%%Q$:%QJS>%,*%%R*%Q&*%),%
&Q,%GQ>%FQL%R2T!%:*%2Q<%FQD%R2V!%Q:6%Q>S(%6L%),%(Q8%QCS6%FQ<%Q<R%%.Q6%Q3SJ%Q<Q<%FQ6%FQ:%S%XD%S%U
%%Q<S%%Q<R4%Y*d>%Q*6%QLU(%M<%.Q8%Q<RJ%Q<S,%Q*R6%IS(%R@RH%(*%4RF%QIRD%Q.RN%Q=Q8%&*%.R%%L,%3RJ%Q:J
%?Q%%%(%JR<%9Q0%R?T4%,(%%0%)F%6<%7R>%R$R,%0,%(Q*%=6%,*%&2%,,%9L%3H%SKZ%%QCQ%%>Q(%GSD%Q@Q%%&(%T7[
!%R(R*%NT!%Q@Q!%Q8TJ%Q4B%QDTB%Q<R(%T>ZL%SHX>%R1QJ%0*%&:%.*%&Q,%MF%%(%R1TJ%0QN%Q3H%%(%CQ6%1R6%Q)6
%<Q%%2RD%Q=N%9T4%X!]N%0QH%Q2J%Q,SF%S6UB%,*%&QJ%Q7Q%%@Q:%+*%&Q>%Q(D%WHb:%TNY%%QLQUB%m8f2%Qk8ST*%R
BQYD%RwLUZ>%UY8Zd,%^DQH%Q*T>%R2R0%Q*S*%Q<N%IR:%@Q*%bIuH%T>YB%QL2%Q?SF%QIS*%&(%CV|<%Sf2Qc4%p:R8%U
RNZUB%)6%,*%&^L%X!R2%:Q!%2e0%Qh6Rq!%RBJ%6>%6H%SbJVw2%R%S8%QD*%(*%&,%(2%)@%3(%%6%,S*%Q>0%*:%.6%,Q
6%C0%)2%*(%(:%,b0%X*Q2%@Q0%@Q<%FQ0%@Q<%FQ0%@Q<%FQ0%@Q<%FQ0%@8%QR(RU2%],k%%Q3H%=H%WBbD%Q*RN%q0QdD
%,0%)*%&F%6Y8%V(V%%QG6%nCQa<%)Q4%B*%&(%&*%%<%10%)(%%(%+4%)0!%%(%%,%(*%&(%&*!(%(%%*%&(%&2%)6%,0%)
0%)(%%<%1J%<6%(2%*J%RgAQ[dF%jYLTq2%Ra%ZL%U4Vh:%S[<Xf<%U|HTU>%QVFW]L"

/-- Ranges of digits that are no decimal digits. -/
def otherDigitRanges : List CodeRange := [
  (0xB2, 0xB3), (0xB9, 0xB9), (0x1369, 0x1371), (0x19DA, 0x19DA), (0x2070, 0x2070),
  (0x2074, 0x2079), (0x2080, 0x2089), (0x2460, 0x2468), (0x2474, 0x247C), (0x2488, 0x2490),
  (0x24EA, 0x24EA), (0x24F5, 0x24FD), (0x24FF, 0x24FF), (0x2776, 0x277E), (0x2780, 0x2788),
  (0x278A, 0x2792), (0x10A40, 0x10A43), (0x10E60, 0x10E68), (0x11052, 0x1105A), (0x1F100, 0x1F10A)
]

/-- Ranges of numerals that are no digits. -/
def numeralRanges : List CodeRange := unpackRanges "%T:(%Q_,Rn<%Y(d,%S!UJ%S0VB%U4ZB%>Q0%Z<g(%l(QZ0%g0QP(%V*]@%Qa*Rr0%Q14%c@u<!%:N%R*T0%9:%a1p<!%0:%s
!Qj!%d<w%%@Q@%=H%X0b<%S6W%%NQH%.F%Q)R!%Q+R>%X(a<%S!V!%h1QR<%e)x0%RoOUcN%&*%(,%%(%R!T!%Q)R0%,6%%(
%OR!%FQ:%.8%KQF%R5TD%Y@e0%Q>S*%IQB!%%(%[*h2%%,%.4%RGUD%dLwB%]Dk8%,6%s=Qk(%S*V4%4D%((%iNQUL%QJSD%
m>Q^*%QQLRSH%mHQ^@%cDu8%Qe*Rx2%h0QR:%QYJReD%)0%ROUN%Q];Rk!%KQF%*2%Q%R(%S!V!%R^*TlD%WJa<%[s)ij!%,
6%)0%Q6RF%EQ:%%(%Q!R!%QPLRSL%Q5S2%QFL%X+c<%Q;QL%GQ8%.8%S.V@%m?Q^4%GQ<%Q(R2%R!SH%AQ4%SNWD%(J%8R2%
RDS:%Q5R>%FQ>%QJSH%R?U4%FQ<%Q+R2%X$b!%XEd0%T2X!%Q0R,%RFUB%S>W4%Y2e!%r?Qh4%Z2fL%fNQP6%fD|<%kLQ_(%
Z_MfjL%e+y(%_iHoU:%S%V4%ST9VX*%h4QU%%Q8,%(0%QLUF%Q(F%i<QT8%RW,T_4%R5TD%S!V!%Q;S!%QVOR^N%R)T0%.8%
6F%WNaL%9L%BQ4%Si)WT0%vFQq<%RhEUS:%UoB[c4%gs)QQj0"

/-- Whether a code point lies in one of a sorted list of ranges, by bisection. -/
def inSorted (rs : Array CodeRange) (n : Nat) : Bool :=
  go 0 rs.size (rs.size + 1)
where
  /-- Bisect the ranges from `lo` to `hi`, at most `fuel` steps. -/
  go (lo hi : Nat) : Nat → Bool
    | 0 => false
    | fuel + 1 =>
      if lo ≥ hi then false else
      let mid := (lo + hi) / 2
      match rs[mid]? with
      | none => false
      | some (a, b) =>
        if n < a then go lo mid fuel
        else if n > b then go (mid + 1) hi fuel
        else true

/-- The letters as an array. -/
def letterArray : Array CodeRange := letterRanges.toArray

/-- Whether a code point is a letter. -/
def isLetterPoint (n : Nat) : Bool := inSorted letterArray n

/-- Whether a code point is a digit: decimal, or with a digit value. -/
def isDigitPoint (n : Nat) : Bool :=
  (digitValue? (Char.ofNat n)).isSome || inRanges otherDigitRanges n

/-- Whether a code point is numeric: a digit, or with a numeric value. -/
def isNumericPoint (n : Nat) : Bool := isDigitPoint n || inRanges numeralRanges n

/-- Ranges of characters that may start a name. -/
def nameStartRanges : List CodeRange := unpackRanges "%Q=Q,%D0%%Q2%QER2%1<%)0%*Q4%>Q<%FgJ%[!F%@L%26%%(%S(V6%**%)2%((%+4%%,%((%%Q!%;T!%R!VB%S;X2%SOQJ%N
*%+R0%RBTB%E6%Q+T,%QJQF%&TF%R6(%6H%.8%2@%)*%7H%%Q:%Q7U@%R6>%?RD%Q!<%*0%*Q2%@0%0:%(,%>R2%FJ%6Q6%?
4%=RH%R6U4%Q5,%9L%,H%?Q:%:>%0,%(Q*%=6%,(%(4%+,%7H%4D%&,%7F%2<%.B%02%(Q*%=6%,*!%&*%GQB%)(%:Q%%9Q,
%0,%(Q(%=6%,*%&2%,,%9L%6H%?Q*%2L%0,%(Q*%=6%,*%&2%,,%EQ<%&,%8F%8J%%4%.2%(0%+0%&(%%*%)0%)2%*D%HQ(%
Q1RJ%.,%(Q*%>H%9,%AQ6%)*%&,%FQ:%)>%.,%(Q*%><%12%,,%FQ>%&*%7H%9Q0%0,%(R!%Q$*%7H%*6%1<%AQ8%1Q(%;Q2
%?:%0(%&8%Q=U%%Q+(%4N%Q=RJ%&(%%2%*Q,%?(%%<%1(%1<%&4%*(%<Q,%JQ>%Q<S6%.QF%Q;Q<%RJW<%Q;Q!%7Q%%06%+,
%(0%.:%+H%?@%8R@%M(%*2%&R*%Q%aL%WN0%*8%,(%%0%*R%%Q!0%*QB%H0%*8%,(%%0%*H%6RF%Q60%*S2%R:R<%FTJ%R(6
%.oB%_HL%8Q2%ESH%QJB%8Q,%EQ<%GQ<%FQ2%4,%8S,%R&QD%)0%Q@W8%R2R2%Q!(%*S>%QLQN%QLSF%F4%6R@%Q*Q8%QLSB
%FRN%S.SN%R0VB%Q<Q,%Q:T!%Q$D%2R>%QBRN%QIR(%3R,%L<%6R6%Q&0%Q%R*%)4%+*%),%*Y6%V(b2%VB6%,QL%N6%,:%.
(!%%(%%Q<%GR@%Q26%,(%(2%(6%04%*6%0H%86%(6%RMU>%4B%7Q6%RDTJ%)0%&>%1(%&6%24!%%(%%H%82%.:%.0%8RF%Qh
FS]:%U?:%+0%4R6%M(%*2%&RF%Q;6%7QJ%FF!+,6%^1l4%BQ@%6>%+4%.T2%R,8%(T4%R+0%.R2%Q%T<%RAR4%QLS%%]>XR2
%Sr:kX*%]k*U6%Q*]L%V:L%@>%<S,%Q;R0%GSL%RIR2%1U!%R;S*%QA4%&(%%2%CQL%7,%(0%)Q*%Q0SJ%Q>S%%RBS0%.,%%
*%3QJ%LQ>%Q*R>%JR>%QGQ6%7Q!%*<%:D%*R!%Q<Q0%(8%BR%%@,%(R<%Q.(%(0%(4%+*%%(%?Q2%)@%8:%5J!%,6%5F%,6%
,R(%Q%D%:UF%S8]o6%V_2QB%AR<%Tt7Y|L%XFU*%S8R*%9H%02%%<%1B%42%*(%%*%&*%&U,%S5X,%S9ZB%U@SL%Q>RB%R0R
6%S&UD%%(%(,!&%(%%V%%SJRN%FQ<%KS,%Q6Q>%H8!%,6%,0%LR0%3Q2%AN%:*%&F%7F%Q*W:%T>UH%W@_(%FR:%R2SF%Q&R
%%IR%%Q*QL%FQH%N>%.2%Q)Y<%T,R>%NQL%NR(%Q*RJ%Q<Q(%2F%66%,*%&>%2F%66%,*%QAd!%W@Q:%FJ%FQ8%+R%%Q$:%Q
JS>%,*%%R*%Q&*%),%&Q,%GQ>%FQL%R2T!%:*%2Q<%FQD%R2V!%Q:6%Q>S(%6L%),%(Q8%QCS6%FQ<%Q<R%%.Q6%Q3SJ%Q<Q
<%FQ6%FQ:%S%XD%S%U%%Q<S%%Q<R4%Y*d>%Q*6%QLU(%M<%.Q8%Q<RJ%Q<S,%Q*R6%IS(%R@RH%(*%4RF%QIRD%Q.RN%Q=Q8
%&*%.R%%L,%3RJ%Q:J%?Q%%%(%JR<%9Q0%R?T4%,(%%0%)F%6<%7R>%R$R,%0,%(Q*%=6%,*%&2%,,%9L%3H%SKZ%%QCQ%%>
Q(%GSD%Q@Q%%&(%T7[!%R(R*%NT!%Q@Q!%Q8TJ%Q4B%QDTB%Q<R(%T>ZL%SHX>%R1QJ%0*%&:%.*%&Q,%MF%%(%R1TJ%0QN%
Q3H%%(%CQ6%1R6%Q)6%<Q%%2RD%Q=N%9T4%X!]N%0QH%Q2J%Q,SF%S6UB%,*%&QJ%Q7Q%%@Q:%+*%&Q>%Q(D%WHb:%TNY%%Q
LQUB%j6Z*%S%Z*%Qk8ST*%RBQYD%RwLUZ>%UY8Zd,%^DQH%Q*T>%R2R0%Q*S*%Q<N%IR:%@Q*%bIuH%T>YB%QL2%Q?SF%QIS
*%&(%CV|<%Sf2Qc4%p:R8%URNZUB%)6%,*%&^L%X!R2%:Q!%2e0%Qh6Rq!%RBJ%6>%6H%SbJVw2%R%S8%QD*%(*%&,%(2%)@
%3(%%6%,S*%Q>0%*:%.6%,Q6%C0%)2%*(%(:%,b0%X*Q2%@Q0%@Q<%FQ0%@Q<%FQ0%@Q<%FQ0%@Q<%FQ0%@8%QR(RU2%],k%
%Q3H%=H%WBbD%Q*RN%q0QdD%,0%)*%&F%6Y8%V(V%%QG6%nCQa<%)Q4%B*%&(%&*%%<%10%)(%%(%+4%)0!%%(%%,%(*%&(%
&*!(%(%%*%&(%&2%)6%,0%)0%)(%%<%1J%<6%(2%*J%RgAQ[dF%jYLTq2%Ra%ZL%U4Vh:%S[<Xf<%U|HTU>%QVFW]L"

/-- Ranges of characters that may continue a name. -/
def nameContinueRanges : List CodeRange := unpackRanges "%Q*8%7Q>%D0%%Q2%QER2%1<%%(%&*%*Q4%>Q<%FgJ%[!F%@L%26%%(%8V6%RH*%)2%((%+<%*(%%Q!%;T!%R!VB%S42%+X!%
SOQJ%N*%+R0%Q+R<%Q((%%*%&*%&(%.QB%E6%GQL%6SF%QJU%%R98%0>%1N%;*%7S>%Q9TL%RES0%Q60%&*%&R2%Q<R,%FD%
6Q6%?4%5SN%QGV,%S)>%1N%:8%0,%(Q*%=6%,(%(4%*<%1,%(2%28%)2%&2%+B%<<%%(%&0%(4%02%(Q*%=6%,*!%&*%(*%%
2%.2%(0%*,%,<%)(%,Q(%AB%(:%0,%(Q(%=6%,*%&2%+>%1,%(,%)*%6L%*>%9F%,,%(8%0,%(Q*%=6%,*%&2%+<%1,%(0%0
:%+2%&2%+>%1(%7J%&4%.2%(0%+0%&(%%*%)0%)2%*D%68%,2%(0%**%+4%5Q*%@Q6%4,%(Q*%>H%8<%0,%(0%18%&,%)*%&
2%*>%@N%)8%.,%(Q*%><%12%+<%0,%(0%18%,6%&0%*>%1*%5Q0%4,%(R:%Q0,%(2%08%1>%+>%:F%+,%(L%;Q2%?:%0(%&8
%0,%):%+(%%8%4F%2,%5S6%Q;N%6<%Q+QN%&(%%2%*Q,%?(%%Q*%?4%*(%%4%,>%22%JQ>%>Q,%,F%;>!%%(%)B%1QF%NQ*%
;L%9QF%Q&:%Q6V0%QLT!%QLQL%M(%*2%&R*%Q%aL%WN0%*8%,(%%0%*R%%Q!0%*QB%H0%*8%,(%%0%*H%6RF%Q60%*S2%QA0
%2J%=Q8%FTJ%R(6%.oB%_HL%8Q2%ESH%QJB%8Q6%EQ:%GQ:%FQ,%4,%(*%4T>%R&,%)2%(>%Q$QD%(>%7T<%R2R6%Q*S>%QL
QN%F@%6F%<R6%Q!4%6R@%Q*Q8%FH%Q*S(%FS,%Q<Q8%E@%7F%=B%.Q%%5H%Q=V!%QL@%AQ0%;V(%S%S0%Q<J%3R:%Q.<%6R6
%Q&0%9L%(QL%Q%kB%]F6%,QL%N6%,:%.(!%%(%%Q<%GR@%Q26%,(%(2%(6%04%*6%0H%86%(6%QES0%;N%CQ6%4B%7Q6%Q<S
%%70%(D%CJ%)0%&>%1(%&6%24!%%(%%H%82%.:%.0%8RF%QhFS]:%U?D%;R6%M(%*2%&RF%Q;6%6QJ%GF!+,6%,Q>%^&jF%B
QL%62%+4%.T2%R(,%(0%(T4%R+0%.R2%Q%T<%RAR4%QLS%%]>XR2%Sr:kX*%]k*U6%Q*]L%V:Q:%Q*S0%Q0B%1U<%S@R,%1U
!%R;S*%QA4%&(%%2%CSD%Q60%:S6%Q<SL%QLN%6Q8%A,%%R6%Q.QH%Q*QN%FS0%QKQ,%7QF%FRB%Q<Q(%6>%6Q6%@S@%R3Q2
%)J%84%5F!%,6%5F%,6%,R(%Q%D%:V*%RN*%(>%6]n2%V_2QB%AR<%Tt7Y|L%XFU*%S8R*%9H%0H%3B%42%*(%%*%&*%&U,%
S5X,%S9ZB%U@SL%Q>RB%R0R6%6Q%%FQ<%90%@Q2%JQ@%%(%(,!&%(%%V%%S9Q6%7Q>%D0%%Q2%KTF%R,8!%,6%,0%LR0%3Q2
%AN%:*%&F%7F%Q*W:%T>UH%T;V<%S)W>%FR:%Q<F%FS!%Q&R%%IR2%Q*QB%FQH%N>%.2%Q)Y<%SH>%6R!%NQL%NR(%Q*RJ%Q
<Q(%2F%66%,*%&>%2F%66%,*%QAd!%W@Q:%FJ%FQ8%+R%%Q$:%QJS>%,*%%R*%Q&*%),%&Q,%GQ>%FQL%R2T!%:*%2Q<%FQD
%R2V!%Q:6%Q>S0%)*%+@%.,%(Q8%E0%+0%GRL%FQ<%Q<R%%.Q:%Q3SF%Q<Q<%FQ6%FQ:%S%XD%S%U%%Q<S%%Q<R<%Q*J%X!c
<%Q$*%)0%QLU(%M<%.QN%Q<R<%Q<S!%Q*R6%FSH%R8R0%?S2%Q?6%4QH%FH%6RH%Q2<%46%2R(%L*%0SD%QE6%)B%4(%JR<%
9QH%Q$4%Q>S8%,(%%0%)F%6<%7S*%Q<D%6:%)8%0,%(Q*%=6%,*%&2%*<%2,%(0%)*%+4%*>%.8%06%S8Z,%QLD%46%HTF%Q
C(%.J%T,Z:%Q4<%FQ6%NTD%Q@,%2Q!%Q*T<%Q<H%Q<SJ%CH%9B%6@%T>[@%SHX4%R1Q6%0*%&:%.*%&Q:%E*%(<%;Q%%QLSD
%0R2%Q*:%.*%CT2%QC8%.SL%QI,%9T4%X!]N%0R,%Q(:%>Q,%HR>%FQ*%=D%R&SH%,*%&R*%Q),%%*%&:%7J%6>%+*%&QH%L
*%&4%3H%W@aJ%TNXJ%QLQUB%j6Z*%S%Z*%Qk8ST*%RBQYD%RwLUZ>%UY8Zd,%^DQH%F<%6T%%QL<%6QD%F4%6S*%Q<@%6Q%%
9Q8%@Q*%bIuH%T>YB%QKRL%Q<Q*%QMS*%&*%3@%6VzJ%Sf2Qc4%p:R8%URNZUB%)6%,*%&^L%X!R2%:Q!%2e0%Qh6Rq!%RBJ
%6>%6H%30%Rn&Ub0%Q*Q,%^9l%%,8%4F%08%KQ@%S@W,%Z@k*%R%S8%QD*%(*%&,%(2%)@%3(%%6%,S*%Q>0%*:%.6%,Q6%C
0%)2%*(%(:%,b0%X*Q2%@Q0%@Q<%FQ0%@Q<%FQ0%@Q<%FQ0%@Q<%FQ0%@8%0R:%^6m!%Q7R>%Q68%5D%=Q2%*F%lAQ]%%V([
%%,J%98%,*%&2%U,]2%Q*H%6>%40%WBbF%Q*S>%q0Qd%%,0%)*%&F%6Y8%TNJ%Q*U>%QLB%n>Q_J%)Q4%B*%&(%&*%%<%10%
)(%%(%+4%)0!%%(%%,%(*%&(%&*!(%(%%*%&(%&2%)6%,0%)0%)(%%<%1J%<6%(2%*J%QxKSu8%jFQWk4%jYLTq2%Ra%ZL%U
4Vh:%S[<Xf<%U|HTU>%QVFW]L%Ypt2e_]H"

/-- The ranges of name starts as an array. -/
def nameStartArray : Array CodeRange := nameStartRanges.toArray

/-- The ranges of name characters as an array. -/
def nameContinueArray : Array CodeRange := nameContinueRanges.toArray

/-- Whether a code point may start a name. -/
def isNameStartPoint (n : Nat) : Bool := inSorted nameStartArray n

/-- Whether a code point may continue a name. -/
def isNameContinuePoint (n : Nat) : Bool := inSorted nameContinueArray n

end GraphProbe.Text
