import GraphProbe.Text.PackedTable

/-!
# Case mapping data

The case mapping of every code point, from the Unicode character database (version 14.0):
the upper and lower case of a character as runs of characters that move by the same
distance, either all characters of a range or every second one, and the characters whose
case is more than one character. A character in no run keeps its case.

A character is upper (or lower) case when it has a lower (or upper) case partner and is no
title-case letter, or when it lies in one of the ranges of cased letters without a partner,
such as the mathematical alphanumerics and the modifier letters.
-/

namespace GraphProbe.Text

/-- A run of case mappings: every `stride`-th code point from `lo` to `hi` maps to itself
moved by `delta`. -/
structure CaseRun where
  lo : Nat
  hi : Nat
  delta : Int
  stride : Nat

/-- Runs of case mappings packed as `unpackRows` reads them: rows of the first and last
code point, the code point the first maps to, and the stride. -/
def unpackCaseRuns (code : String) : List CaseRun :=
  (unpackRows code).toList.map fun r =>
    ⟨r.headD 0, r.getD 1 0, (r.getD 2 0 : Int) - r.headD 0, r.getD 3 0⟩

/-- Mappings to several characters packed as `unpackRows` reads them: rows of a code point
and the code points it maps to. -/
def unpackSpecial (code : String) : List (Nat × List Nat) :=
  (unpackRows code).toList.map fun r => (r.headD 0, r.tail)

/-- The runs of upper-case mappings to one character. -/
def upperRuns : List CaseRun := unpackCaseRuns "(R3Q,RCS$(R!RHzL!(Q$S(tI!(>6Q*!(+%W@!(%R2UC%(Q*(XC$(%2[(%(+H4!(7R0H!(Q)4R0!()%^O$($%i@!(&0Y+%()*
0$((,,!(*22!(&*TH!((,T9!($%WJ!((,Q5!(&4V&%(+*4$()00!(&**!((2,%()*0$((,,!(%(RH!(*2R7!($%!!(%(*!($
%!!(%(*!($%!!(%F*%(5%RO$(%JSH%(9*L$($%!!(%(*!((R!,%(Q!NR!!(?8Q,$(&,][,!(&(]ZK!()@0%(.%]YN$($%&!(
$%*!($%]e5!($%0!(%**!(&(2!(%(%!($%QVXL!((,QVXE!($%QVXH!(%(QVXE!(%(QVW2!($%Q6!(%(QVX;!($%$!($%QVX
F!($%us$!($%us!!(&*QVX7!(%(]d!!($%]cM!(&*(!(,6]c6!(&*]c$!(%(QVY(!($%QVXM!((,QVX!!($%QVWE!($%W*!(
$(VO!(%%W%!(*2VE!(1<QVW6!($%&!(SOWNQUl3!(Q%R,QM%(*,2$((2V8!(Q+R0UA!($*(!((J8!(7%J!($8!!(.%Q&!($(
(!(&(,!($%2!((,B!($%1!($%R0!(%Q*8%(=%RM$($%4!($%T,!($%UG!(%(Q%!(&*TB!(&**!(Q1T!Q%!(FFE!(7Q@T>%(Q
!RNR!!(Q3DR@!(3%$$(%T>F%(S8T*T@$(QmCS^@VrL!(Q&0R*!(d+v:Ri1!(QZ!ReFTk7!($%(!($%:!($(*!(%%%!($%6!(
$%RB!($%QT|D!(UE[:_@!((,upA!(7Hut*!(RE]<y|;%(SB2T>$(*TFS%%(R16TN$(6BF!(6JF!(6FF!(6BF!(7JH%(5FD$(
6:SL!(%,B!(((J!(%(Q8!(%(A!(%(F!(Q0R:S)!(4@XVG!(8LXX4!(6FF!(),,!(X?c,a<!(HR4R,!(:0QB!(f(|6y!!(QRN
RVNRTJ!(Q+(T>!((,]YG!($%,!(%2]YN%(14<$(&**!(1U,<%(R=<U(!(+04$(3R6XY.!(M(QJ!(*22!(cj!uX(QQaJ%(Q<R
,S%!(SJW%WD!(6S%F!(QC@S6!()<0!(30@$()40%(&%R:$(&Q!R+%(DQ0Q8!(94L!(.48$(*62%(EQ6Q:$(f;|!S)!(CU*QP
|&!(]VKj[,Ql_L!(oKQd8Qc6!(T,X,X6!(T=Y*Y*%($Q.%$(1F<!(66F!(,*6!(QPGRSLRP6!(Qq*Se6SgH!(]cLjuHjuH!(
ct0ul>ul6!"

/-- The upper-case mappings to several characters. -/
def upperSpecial : List (Nat × List Nat) := unpackSpecial "&U3VA!&R<o6.&SOoGs8(YLz4+3(F>!!&[.e%mL&SlEQd$kM&$>QM&$*(&$(!&$Q)S?&T4|4T%(%!!K(%!!%(%!!S(&Q!WyJV
6!+$%!&$3!!+$%!&$Q,!!+$%!&$3!!+$%!&$RD!!+$%!&$3!!+$%!&&S>!&$XW1!&$;!&%<T)($!!T*&)!T*&*XX%!&$XWE!
&$A!&%BT)($!!T*&)!T*(*(VK5($!!%&&!RF($!RERF(1>!S)($!!%&$+<&%,R0($!RERF&1XY6VL&$XY+!&$Q.!&%Q0T)($
!!T*&)!T*&qrN|1z;!%$!*($!1*($!!*&$@B&$!!&3Qd0Qd2&$!G&$!2&$:<&$97"

/-- The runs of lower-case mappings to one character. -/
def lowerRuns : List CaseRun := unpackCaseRuns "(Q=Q,4T=(S$ULV%!(>6Q*!(NSH8%(Q,6R6!(+H4!(7R0H!(Q((S?$($0UJ%(,,Z4$($*YK%(((YN$($%YC!(%*YH!(%%Y?!(
&*SJ!($%UL!($%(!($%Y=!(%(YH!($%*!(%(2!($%$!($%YI!((,Z,!($%*!(%(*!($0Z&%(*(Z@$($%Z1!(%(Z8!(&*Z+!(
%(Z8!($%Z1!(%*Z6!(%*Z+%(((Z>$($%Z3!((,,!(,68!($%!!(%(*!($%!!(%(*!($H!%(9LL!(9*N$($*!%(((T9$($%R!
!($QJRF%(N(T3$(%JV4%(>6][*$($%]YM!(%(WC!($%]cD!(&*]YC!(%(Y.!($%]@!($%*!($8S1%(W(^L_,!(*,2$(.8UL!
(+4S5!(%,%!(((Q:!(%*%!(&JQ3!(8:J!(Q%QDN!(.Q:(%(B2Q=$(&*S%!(%(1!($%8!(&0V&!(&FZ*!(6Q<Q;!(QLSJR4%(
Q!RNR!!(Q2(S0$($@?%(5T@D!(R3QLVJ$(QmCS^6[g!!(M(QJ!(*22!(c.x,vm,!(QL2QQz9!(QZ>RhLx9!(Q&0R*!(WCh4S
rB%(SF:Xe)$(%T>XlF%(R:HT<$(6BF!(6JF!(6FF!(6BF!(7JH%(5FD$(FQ<Q<!!%6FF!(6:F!(%(S$!(%%S,!(2DS&!((%S
J!(2@@!(%(T1!(4BU%!(%(TI!(%%U(!(2@U+!(%(,!(%%UB!(W(_,XW3!((,|$!($%UH!(+4Yc(!(Q(RLQ@!(INN!(e;z,z,
!(QR8RULRUL!(R2R4R4!(%(]W;!($%Wv!!($%Wu)!(&4]W!%(*(]Y&$($%Q<!($%Q=!($%(!(%(]Y>!(&**!(.:]Z?!(%TD]
[*%(R=<U(!(+04$(ck6uZJuXF%(Q<R,S%!(SJW%WD!(6S%F!(QC@S6!(((zR3$($8zR>%(30@$(%(QUy1!(&0QUy<%(*Q%2!
(:(QUyE$($%9!($%0!($%<!($%&!(%(R:!($%Q&!($%Q%!($%QVzB!($DQR&%(6(Q=$($%QUx1!($%WuD!($*zU%%(.48$(*
62%(EQ6Q:$(]m4k^Jk_*!(oCQd%QcF!(T,X,X6!(T>Y,Y(%($Q.%$(1F<!(66F!(,*6!(QP,RRDRQ>!(QqLSfLSf2!(]cLju
HjuH!(ct,ul:ul:!"

/-- The lower-case mappings to several characters. -/
def lowerSpecial : List (Nat × List Nat) := [
  (0x130, [0x69, 0x307])]

/-- The upper-case characters. -/
def upperCaseRanges : List (Nat × Nat) := unpackRanges "%Q=Q,%S$UL%>6%NQ@!A%(%&*!+%(%&*!<%(%%*%&(%%(%(0%&(%%*%&,%)2%)*%&,%*0%&*%&(%%(%%*%&(%&*%%*%&,%((%
%*%),%,6!&&*!+%(%&*!,%(!%&*%%,%((!B%(%,8%&*%(*%%0%)(!&%(%VL^H%%(%(,%.8%+4%%,%((%%*%&J%8:%Q%QD%&0
%*,!1%(%*2%&*%%*%(R<%R5R4!6%(%0:!@%(%%*%&(!)%(%&*!Q)%(%&QL%QmCS^6%M(%*2%c.x:%Q]:RhL%Q&0%WCa2!QF%
(%0:!Q*%(%0H%6B%6J%6F%6B%7>!&%(%.F%QLS@!%6F%6H%6D%V4]<%)0%(2%)0%)*%(6%14!%%(%%0%*2%4>%+2%AR!%IN%
e;z,%QR8RUL%R2R4%%,%)*!%%(%%0%)(%&*%.<%((!Q*%(%.8%%(%)0%ck6uXF!<%(%:N!3%(%S0V:!*%(%(,!D%(%1<%%(%
%*%&(!&%(%)0%%(%&*%%(%(,!.%(%%2%*2%*(!*%(%%0%)(%+4%*2%%(%CQ6%]m4k^J%oCQd%%T,X,%T>WN%2F%66%,*%QP,
RRD%QqLSfL%]cLjuH%_r,oh(!%Q0R:%Q0Q2%%*%(*%&,%(2%)8%HR:%Q0Q4%&0%*:%.6%HQ6%&0%)2%*(%(:%HR<!)Q0R:%Q
4R@!(Q6RF%Q6Q@%RfLUQ6%QWLRa8!%FQ<"

/-- The lower-case characters. -/
def lowerCaseRanges : List (Nat × Nat) := unpackRanges "%R3Q,%QER2%1<%)0%KRJ%?8%.(!@%(%%*%&(!*%(%%*%&(!<%(%&*%%(%%,%)*%%(%&*%(0%*0%&*%(2%)*%&*!%%(%&*%%*
%&(%&*%(,%%(%&,%(0%.4!%&*!+%(%%*%&(!+%(%%*%(*%%(%(,!B%(%%6%.*%&,%&(%)0!&%(%%S4%QBQF%Q$8%FQB%R7T@
%Q%R(%%(%(,%&2%<L%BRN%J*%)2%((!0%(%%2%*(%&*%&,%Q1TD%Q+(!6%(%0:!@%(%&*!)%(%%*%&(!Q)%(%Q+T0%QmDS^<
%Q&0%d+v:%QZ!Rf*%S%_H%V)S*!QE%(%%:%0(!Q)%(%%:%7B%6J%6F%6B%6J%6F%6Q%%6:!%6F%6@%**%,4%(2%(*%0>%*,%
0F%8@%(*%RMUH%4B%7Q6%RLU0%(0%),%BQ4!%)0%&,%0>%,0%HR4%:0%f(|6%QRNRVN%Q+(%(0%&(!%%(%)0%%*%&8%1,!Q*
%(%%*%.6%%(%)0%3R6%M(%*2%cj!uV!!<%(%:N!2%(%%,%S0V6!)%(%%,%((!C%(%%<%1(%%(%&*!(%(%)0%%(%&*%%,%((!
.%(!%*2!+%(%)0%%(%+4!(%(%CQ6%%,%e@|*%Q%B%:T*%[hNiP8%9H%k:QYN%oKQd8%T,X,%T=WL%2F%66%,*%ZGg<%&0%(R
%%Q$:%pHQg@%Qq*Se6%]cLjuH%_r%ogH%Q0Q>%,L%Q%R:%Q0Q8%)(%%6%,>%KR:!+Q0R:%Q0R>%Q4R<%@4%FR8%@4%FR8%@4
%FR8%@4%FR8%@4%+(%QQMRT2%1Q!%Qe;RyB"

/-- The title-case letters. -/
def titleCaseRanges : List (Nat × Nat) := [
  (0x1C5, 0x1C5), (0x1C8, 0x1C8), (0x1CB, 0x1CB), (0x1F2, 0x1F2), (0x1F88, 0x1F8F),
  (0x1F98, 0x1F9F), (0x1FA8, 0x1FAF), (0x1FBC, 0x1FBC), (0x1FCC, 0x1FCC), (0x1FFC, 0x1FFC)]

/-- The case-ignorable characters: marks, format characters, modifier letters and
symbols, and the quotes and stops that may stand inside a word. -/
def caseIgnorableRanges : List (Nat × Nat) := unpackRanges "%M!%+4%2>%JQD%%(%QDS8%)0%%(%)0%&,%]$s(%TB2%*0%0<%&(%V!]2%U(YL%*2%Q,T:%Q((%%*%&*%&(%Q&R*%2H%6Q!%2
(%JQD%1Q:%KH%R8U,%.<%10%KQ@%%(%ERD%RHTJ%QAS2%50%&*%?R2%Q?R,%Q)R*%,8%,B%Q+TD%RCRB%%(%)>%20%(:%7>%
5B%6F%Q7RH%)6%28%;Q%%BQ2%&,%Q7RF%)2%*2%(0%*,%EQ<%),%2@%Q7RF%)8%**%*0%;Q%%>Q4%+(%Q7RH%&*%%0%28%,8
%3@%FQ:%Q:RN%3@%Q.R8%(,%Q4RB%%,%,6%(0%18%3@%EQ8%Q7RH%&*%+4%*4%<Q%%DQ8%Q7RH%*6%28%;Q%%EQ8%QES:%,:
%((%R+T4%&8%8N%R=TD%&<%8:%%4%QLS@%CQ4!%%(%Q4S2%52%**%+F%2QF%Q&:%R9U%%)4%+*%(,%AQ2%*4%9N%7B%&,%,4
%6F%R1T<%_;o(%h?QS,%FQ:!%FQ<%Q>S*%&6%58%&@%4,%*2%Q(R6%Q4R:%Q>S,%JQB%RIUF%+2%1:%+8%U2Z<%(*%Q7RH%%
6%,(%%(%&:%4F%2*%NQL%.QJ%QLR<%Q0R4%%2%*(%*2%OR4%;B%HQD%*,%&,%Q7RD%%*%),%%,%Q9S*%0,%Q>S4%R(T%%(B%
46%10%+4%(0%Q0U6%QHB%IV8%^!g0%%,%4B!%6F%6D%4H%3:%2<%&*%&4%Q2R>%*<%1(%4B%7Q6%Q<T!%Qo*S_H%REU<%S%V
!%6F%R3V(%QKR2%[,h6%KQL%+6%02%R0TD%R5T>%bU+rZ0%oGQcH%V>]L%R5TJ%)<%1(%CQ<%R!SL%6R2%RBSF%>Q0%R<U%%
*0%08%(,%)0%@Q2%+2%S@W2%BR(%EB%MR,%GQD%Q5R4%Q.R4%&2%*,%9J%<Q(%Q@S8%,,%(,%4@%.8%JQD%2>%Q0R:%%,%),
%+4%&(%BQ4%5F%+4%&(%R7U!%4>%RNUH%&*%)0%[fCh|6%S<WH%_%n%%9,%3Q4%Q,QB%&*%T%X(%,6%+4%2>%JQD%%(%Q*R2
%Q(R0%QAS0%<Q*%]2j:%U7ZH%S>W4%j@QW2%+R%%Q$:%_&mJ%(*%+8%Q%R%%+0%SNWN%^Cm:%Y3d<%SCWH%Q8R<%S$UL%Q3S
2%Q4R!%&,%2@%Q0R<%*,%(*%)0%1<%Q.R<%MQN%*8%QBS!%3B%Q2RL%9B%**%R2TB%)*%%*%,4%SIWB%(<%CQ(%Q7RH%),%L
R(%06%TFYB%00%((%>Q*%R$T2%+(%)2%&*%UD[<%06%&*%CQ6%R&T8%0*%%*%R>U(%%(%&6%+(%R8TN!%)2%V2]F%0*%V*]2
%&(%)0%S9W%%*,%*0%GR!%Q,R,%,2%28%0D%,0%Q+RH%4*%YDeB%,4%+(%QOTN%>8%,*%&*%RNV(%.,%%*%&6%,(%QES<%),
%%(%X2b@%SS9VW0%WyDaw0%Q<S*%6@%jEQW4%Q<SH%QMS*%&*%Y]7djL%)6%,*%QtNSmL%&0%Rn!Ub!%Q*Q,%^;l%%2Q,%88
%KQ@%S@W,%QU,R]J%Q7R>%Q68%5D%=Q2%*F%rEQi(%,J%98%,*%&2%V4^(%Y(c>%Q:S(%uLQoN%RFU>%Qi3ST:%ZmiJg^U<%
EV!%U4c<"

end GraphProbe.Text
