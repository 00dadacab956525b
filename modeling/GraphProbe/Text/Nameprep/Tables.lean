import GraphProbe.Text.PackedTable

/-!
# Tables of the nameprep profile

The data that preparing a domain label needs, from the Unicode character database as the
profile fixes it (version 3.2, with the case mapping and combining classes of version 14.0
where the preparation takes them from there). Each table is a text of rows of code points,
packed as `Text.unpackRows` reads them:

* `mappedAwayRows`: the code points mapped to nothing;
* `foldRows`: a code point and the code points its case fold maps it to;
* `decompositionRows`: a code point and its full compatibility decomposition, in canonical
  order (Hangul syllables are decomposed by rule and are not listed);
* `combiningRows`: the first and last code point of a range and their combining class;
* `compositionRows`: two code points and the one they compose to;
* `prohibitedRows`, `rightToLeftRows` and `leftToRightRows`: the first and last code
  point of ranges of code points that may not appear, that are written right to left, and
  that are written left to right.
-/

namespace GraphProbe.Nameprep

/-- The code points mapped to nothing. -/
def mappedAwayRows : String := "$T)$b%$SP1$)!%$$QVD!%$$QO$rVJ!5$$UD"

/-- The case fold of the code points it changes. -/
def foldRows : String := Text.expandText "%Q=Q<!?$%%R+yD%1tI!<$%%%(!*$%&$V?!%GVF!=%(&%Y7qL%%Y@!%%(%&
*!+5 cDn&%$c=!<%(%%UC%$UJA!%]C%%hJ%$YK/!Y+ C%%YH%$%%$YA%&SJ%$UL%$(%$Y=:#*%%2%$$%$YI%(Z,1!*%$Z&
u#Z8%$Z1(!&Z+0(6v!Z.F#:%$Z3%(,%,8%$!%%*&&!,	#' ,%(&%d;r(%$dD%$!X!T=%$R!%$RF!90 V)%%V4S!,]Z6
%$]YM%%WC%$]cD%&]YC%%Y.%$]@%$*%$S1!(%(%UKc0%Q$S7u (,&(zCQQJ%)QT@%+S5%%%!%$%%%Q6%%%%$%($OX73%$5!6
	%/ ,$%()1XO3%8&%3N%$QE%$2%$@%$6%$&%$.%$1%%Q,!1%(%%R;%$4%$(%%;%$)%%S,4#RB%&V&!	$) %!5( R.!E$%%Q+J!
6%(%0:!@d F%$?!*	$* Q)( R6!K$%&Q+Q=Q6%QkA[fH2 %%(%*2%c.vm,!QKu QRR.!)w Z9xC!Q!$%i %$%%WASr>!QF
%(&%XqIsN&$>QM&$*(&$(!&$Q)S?%$XoD&&XnI!%%XqL	!G 0%!+$%%.8|!1<.$5(&&W|.X9(%!!K% %% S(%&W|H!&%(
N$&7TKWx;+ !&$3!)$Q,!3-RD3-&8!&$XR.!&$.!&%0UA($!!UB%$XU2%$%%$S&%$%D 16%%6&(XR%XR$1 )!&$7!&%8
U(R%!&O#+((*(X75; %&&!RF($!RERF%$XV8~!T3%$%(+XQ?XOH$$+<&%,R0L(@L#K'!U%&*TOXR7&$XQA!&$0!&%.
	!G&Q:H!*	!~ QCE&T(zCyK%R*C&$SBSA%(f4&%f3S;%%S7!%$!%&%%$!U &(&$!%%&(!%$%; &&%1($%54&$!6%%2%%z4%%z
3%%C%$UH%$V.%$Q 	,* i*%$YhG%1yL%$@%*zM%AYjJ!5$%%:0%e;z,!?$%%QQIRTD!Q), +(%%]W;%$Wv!%$Wu)%&]W!	-?!Y
1%$Q<%$Q=%$0!>%&*%.]Z?%$%%$][(!Q+%(%.8P )0(y?]xO6C&%30&%B%&1%O&$&!&$z2% 3!.#!%	(D 1!&&8,B'(z=N(
$*IJ($(!!($1% @!!&;+3($.DC8'&,82~/x#*%:5&z:)!%;zE)&%Yr(Yr5+($!Yr+RK&$%?&$*Q(&%%7&%*.&$!(&.0.(%
!6)-!%*,&$,M%bk.QVU%!<%(%:N!3%(%S0V:!*%(%(,!D%(%1<%%(%%zR7%$zR>!(%(%)0%%QUy1%&QUy<%M#.%(6 z?%$9%$
0%$<%$&%%R:%$Q&%$Q%%$QVzB%$QR&!+M R.%$QUx1%$WuD%$zU%l +4%*2) CQ6&]R+QVlA!!%$!*($!1% !*&$@B&$!!&3
Qe!Qe%&$!G&$!2&$:<&$97%j@Qpg	'' o(Qb>!M$%%S1V<!I) EW8!0	/o 4'#*'!%$%%QP+RQ<!Q,, pDScL!E$%%]c+jt4
+!_q9Rh[)!?$%%AQ+(-i#!%&*%	.g &	!) +G,6#&D#+	!M%BQ)<#Y%($%	$u ?%d%(BEy,!6$%%$7%$<c!91%5I
4lRg1S_vL!G$%"

/-- The full compatibility decompositions, in canonical order. -/
def decompositionRows : String := Text.expandText "%SHV&&,!u8%%S(&)S&u0%&J%$%&$Ku(%$QR!&&QQOvL%$H%$R
N(%RMY^!Y]I($!!&($(!(&%BXfE!&$!%&$!0&$3 (Q6&$(QI!%7#2&$,5-'%0.&$%)U'&25K)3&&6$tn%!4&$RA+&$Q<!&
$Q;(*&Q@+%7QI6&%*&0*/9!*#&Q95s']0Q>+'3+%795&,T1<+%9QE	!.$%J'	#/8;Q=&%!s50 k!9q@q'F
+#%Q9QGR'H+'1+&n7	!B#7mLL:n(qK&&o=q<	!a.0g%59f:Q9;	#x/FJ1Q26.&Q97a0(	$|96	&T%G+&!@&2&$%3
.'	#?*%$3&GQCt(8#4Q.Z#(:R3s=rJ($!. 3 9 )R1&2 	!9%;0)R)r(;%)!*%.**p#;++v!,!!),(<,(=
,$%R9!,8'$	!W$TH)	$K!W=	#t$3!*&Q4	!7$!QCV%a@Q3&$Z8!&$l1H GrI	#B(5pHx$Q+$c$R):7	!=%7K$A!)$XC
B	%g-3&4C.4054D?Q!	+f,R&Q.+#+QI.	#z%<	#z#$Q9	%5&.	&;%;,	$A%)6&$)6!%ROG%$j2%$j+%$6%$jD%$(%$1 I
%$(&FT.u4	.B!*&$!Q8% E&$!6%&m>%$iM%$4%$0%$kF%R,U(%$%%%J&$;3%Q*SE&*qAx4%(Q2&*Q1u(($!43&$|N3%$tE&$tNW
$!%$(!!%%2!&$,!($F43&@Q;!&$>$ 36 D!($>; =:$13&$T#%%Q&%$2%$K&$!WG&$!4%$Q>%$1%@1%$4%$%%%QO%$Q6&1
T>^+&$!6&%&3&(?4&)N3&$! <2&1;!&FQ<!&=)1E'QB4&)Q3G'>R48&$%!&QFT;7	*Y#G!	&(+&Q1&*$WF(R!$Y1!	1#.+
	,L-.>%X(![#XM[&OQ0;**%3)z$	**$S6^8p,&SCY0YN	&, Q>< =* B$&QKQAQ<6$V%!&$UM!&QDV@Q;&%M!&7H!&_
0n:u8&,6!&&*!&JQ7!!%$%% 0	!k!8!&$,!&R>W0V,&$!Q,&6QGQ1>!%@!&R!V0V(&&2!&IQ?V#_ &D!&U>^<^8&&!Q)[-Q
3U4W6&Q2R:Q+U#$Q,&RNV(V%&RJUFV%&+4	5t %!M($!!L&S$V(ULO'S6W!U:&%!0@ .&$!F&R$U<SN&S%V(V(&OQ?Q+&$!6%
Q)T>&Q3R@U>&0:!!&)0!&3Q1&&0R4S+&%!(&$S(>($!CD&$%D)#,S)D&8Q>R@V,R?W(UF&RP8TkCSrK	2P%7	1o%4+&B	+L#9
9QG	+M$9Q;M2*&9*&2b&QM	0j'%n&;QN	';)A!7Q=	!5/9)*&*	!I&	6P/Q:+&4U&(	!'$QK3	!'$73	8#/BV&A
	1b&9V!A+;+K&R&5&2	!h.9Q3	$J9+	$@%O&	$@&4,'%5	$X,	$+);2	6].Q4	#0:9QOM1Q?2	!5%<!,'Q(-#	#BF&$
	9%'>*&)	!4$	#a(%4	!'%$	=20A	9T.4*&$	%61T+	!$)9.T'>	#3,I!&$>QM&$*(&$(; )S?&$JS:&)R5	(+'.	#=$3$
	%d&,)8,(1,'Q>$-(5_M6*-!	9K);Q.+&1	!a$$	!aM	!!%s(Q0	;x%	#nm5^L!Q<	!l$.6	!U/JQ.tW3	->'B	$q5
&+y0F&$!%($!$K($!%!* %*&S(+ R!$HCDH6&&Q;=9@$	!PiqoH	#ETH	!(@%Q;!(%!!M% %% S(&$QD	#2j6M	9l 
,$(#((,2(&H)(&Q)JR6e!)p 1S2)- .!%!,'S(-!	D^!*RLH$*	!*~R6	!*~&$6A&$!&($!+S2&$!S2($!S.S0&%!
S(($!!*&$Q;RIF &$!+	CB!S0&$|MR5%$QQJ&$QQIuN&$!R0($!RERF($QQF5*s6?S)	&'#s&($QP.R5KD %($	'T!QJ?
	!i!,5:!&&!RF	!-!&$Q;&	!b'(%QP3LMd+R8Ad,$+<	'3!R,l3E!L($QPC=U#%$S%(&|>Y=	$:6O	#C#:$	$:&QQ&S.&$
!L%%!!0$!%+Y[4&*Y[3w:%3B&$!!b !%.A&(Y]N.#&%**)#)Y^$Y^$&%$u0&.Q:sG&$!Q7&$Q7Q8)4Y]LY[:!!%,Y]M%7F%$R
D%&R;!)$%%$A%$Yu2%$Yt7%$O%3 S2%$RM!.?2&@QNQ>(R(DS.R:($!!F%$Q7&$U,U+(%SAMS%6 2%$_4&%ZAU$%$S9%$Q9!%
$!%$Q<%$Y(%$Z=/!*2!%c !Q>%&(!%$%J &&%1($%54&$!6%%2%%z4%%z3%%C&$9sN%$%	H' @%$Q;+!4%$.!i>!&$%) 
O%(z(@#@%$Xu(%)Yt$%$Q<`!,%$%(0RCY^!Y]K($%!!($$!(!&+#)!%($,* +5!(!!&$1!%$Q*	%K$&$!@%$@&$!?0!)$!
6!?D%$D&$!C6!%$=%$7%$%%$8%$Q4`X&AYkNXsK&$(!&9(!&ERJ	F| $&!&Q1R4!&)0	GL >Q*!&%(!&*2X|2	'7*7BX|7&&4
!&&(7 !&=YvO!&%Yx,!&1M!&$Yw1!	;_ Yx2	GV &@($*(#+*0$48+IQQ U!d#Q+R..$N[$Q<!*!%Q8Sv8%$%%W6^
w.!,$%&$5$!.$!%&$%7($9%5!,	.=!543: -#%7!&$8+S !($5(&!.	2A %7!($9R4.!?1 %$Q,!?$%%$4'#S;)q2Yv0!!!
(R:YuE#!?&$	$/#R8]a@v4%hMdu@%R!aQD%3inO%$QL%$B	&# 0%$R(%$4%$N.#pD%$QH%$2%$Q(6#!%$R<(#<%$W6%$T:%$
Q	QT Q8j#2%$@%$Q,%$R:%$J2#v!%$S8%$gLo#6%$<=!S@%$hD%$R2%$UD=#D %%$R>%$*%$c0%$:%$>x!U<]!0%$U>
7!@0!RL%$Hq#H%$mB%$R,	!o u0N!SN%$F%$@5#QJ5!]D%$Q*	*2 QV6%$S*	!G RF9#8%$4	#2 0F$Y6%$g2%$>3!,
%$6%$J%$(%$SJ%$Z27!b*%$:%$R6`!8E!T4-!ZJt#4	eQ 0%$[2%$.#a>%$V!%$2%$XB%$T*	#1 d!%$V4%$m4	$[ RD%$
R8%$S0%$<N!Q>	$X :%$b:%$4!%$8%$F%$D%$,%$SF%$,I#TD	%^ h4%$>	#W ^	$U S6	!4 m!!X!QB%$QF%$Y:J!S,%$[H
%$Q:%$Y	&f!0%$Z:%$XF%$UN%$22!QR:%$8%$W$ 4%$*	#Q U!%$@%$,%$4%$TB%$Q@R!B%$WN%$R8<!XDQ!L%$]!%$R2
N!S4%$:8!:	#( dH%$e%/#H	'* 6%$:c!QL'!H%$0%$@	$A D@!RH	#~!Q$QT]5%Q2^x:%%ZXL%$*%$%&8ZV5SD!1%(!&&
*!!%%(!	RI%*$(:=R;$&+^zMO$_S($&$OC&3QBuZ&S:!	-A (<!&$S;R0%Q,YX	/k X%%$WO%$X(/#&!(#*	4t W5%$M3 
	+# Q)	4l SF!:( O%$S?Q#:	2]#(%$0)%XO%$Y+#Y.	4- (H#	[T + *M!:	]q#WJ%	!? !(!R%%E$8)!(	&%!(cg
N%$VB%$V.%$Ri<% 9	'v!?%$[a2%$[[=%$S$%$Q)%$SZ!%$j$%$Re)(R3hsGTw4Tw1($!(!	@q#(!!%+ !%6,	=Y#IT|LT|K)
5 	=U%(!X%!%:/(-%1@!((!co%UP;($!VB!& .& Ri<'!bK' tD& |?&!9!wF!Qc@' Uq(M!p85!Y5'!e;
' ]b%' cQ.!T]J!mB& ^E^![N' ZsV!XtJ' WjJ<!jI' [Y1s!T;'!l0' RP2J!|(C!j+' cy%' bn35!
R8' ]]~!_qu!8!&4:wmG!,	4!!!)$!%%$TvH	&i#(!	&w%	&s!&$IT@&$(	59#	^5#2)(U )cnF	&d+bK%$tD%$|?%$|<%$
w.%$Qc@%$Uq(%$Rp8%$QY5%$Qe;%$]b%%$cQ;%$T](	1m ^E%$U[N%$Zs5%$XtJ%$WjJ%$UjI%$[Y1%$[a*%$Q_7%$XR9%$az!%$
d_O%$mD%$Wb:%$]g>%$gW3%$p` f6%$XgE	(E%Tk2%$Rw1%$XE%$RcL%$R3%$W|(%$[j+%$cy%%$bn3%$Qn:&$ksI*!&	$S!
	7^$&$+ouD	7A#ouCouD	(. %)_R<!($(%$%!1' ` (!)$%!)$*!($%0%	$f!*%SGR*R;TBR9)$!Q4RHT3*$!6*36($!8L*$(
R36S.Q$($!QLR5($(S;R6+$(FS.SBR9R.)$!S,+!($(7BU QJ($%T+:8 2QI0)$!,QJR0!O*7)$!!2O)$(!S7S1. Q<TD= 
@Q:!+$!S?%RKQGTD&$!T1 !RMQ$SH7+!6TDQ=<*$!!BRC!)$(SO1Q6; !!Q)R%b LR+S5QC1)$!(S(R:($(DS+($(GH)$!HH
S&)$(T+R&SJ*$!SFJHQ3*$(7R6SAS5($,8R5($!!4)$,T1R:] 4!S1($(!R:&$!T2&$(QE($,;0($%Q9++$!9RBS&RBR$)$!!!8
*$!$!QL$+$*%T1R7QAQB: @R6($!!,($!$RB+$*6&QG0R.)$!(L0i!CGES0($!SHR2*$*RER9RLG($!O&c B4< J3)$!SIR0
RE*$!!8&Q7)$!$!6*$*%T+R:R$0 S6R$&$!T2*$!T.T0R$R.($!TB5($!!6)$*T+S.RN. RJ($!Q:Q3' LQ;*$!66R2>)$%S.
R>>&$!RH+$!!Q1R=TDG($(ROR=*$!!!R0R%)$!SJR0QB)$*!!SK(K B($(T16)$,Q>R$QB&$!QH)$%Q&RATB*$!R!RHTCSL&$%Q
3+$!LR$Q&Q)T2($*R1!&$_V.diD!.	); rmIrmJ	?`&	1%#R>Q4rk;&$+H&$QA=($Q>>H&$@;&$%@&)m]%n_D&$RZ,SxE&$SrEVl
8&$Sq2b6)$kDSzATl;]YD&$pT9mgC&$&!&$z2% 3!.#Q;%	.& 1!($Q4Q:<)$6(;<&$0Q5Q(!Q>V)AL($QBR5R6($Q7!!($1
% @!!&$|<QDL$7!&$4!&$.%&$6	!B(9!2 ($(!RG($9X :* &RHRG7 %6&E6 F' (Yr2S%)$!!!S&&$Q5YrI($Q2GH
	!L(R%H**E YrDYqO+$!!R$&J	#p+*Q53-&	eM$B%<78z:+!)$NQP7S!RO&$Q9S,&$Q>A&$!%)$Q;YrDYr5+($!Yr+RK< 
R)&$Q5R@, Q, ;G+!8o QZ (&$Q<QJ&$%3	W+!%5&$!8&$%Q$($!4*($!2!h QI)L .S!RO($Q;Q@Q;c$BQ<	qh!,M&&
QGoe:	01$gIog	's'+'	(  %njHzmB%$Zu$%$[i@%$j9%$Xo1%$YeA%$Qm:%$g|	N& fbK%$bbF%$cfM%$QSF%$RgH%$Uy2%$Rm
%%$Qz!%$d%%$a*%$RX<%$[WM%$wFO @%$vH%$Tq>%$St@%$ReN%$gw=%$Qd4%$Vu,%$RR8%$UtB%$VyJ%$dsO%$UbH%$V_f QF
%$[X?%$YP@%$Qt<%$[|I%$Rc,%$Qu(%$QkL%$Xm<%$dyG%$lD%$_%%$UXA qJ%$RT0%$Qc!%$RlN4 6%$T(%$RX4%$RnL%$QYB
%$q!%$Zv1%$[>%$Q< Qs(%$TcB%$S^N%$UoA%$_g&%$QrL%$XgLH ,%$TSO%$Qv(%$Us8%$Rz8%$dQ1%$QQ*%$SzH T%%$_D%
$TT,%$]>%$V|<%$ej;%$^[6%$^i&%$E%$[o8%$QR2%$Qs>%$UaD%$SW=%$[t$%$RSF%$Yj(%$clG~ F%$QXH%$Um,%$i2%$YzC%
$Z|L%$[zA%$Tl!%$UTA%$XxH%$RU3%$Vv:%$]P3%$Q_*%$Xw:%$SuL%$QuF%$X|)%$Zd6%$ZX=%$Rr1%$YZL%$YS+%$UV@%$[YM%
$s2%$T>%$VjN%$UxB%$Qk8%$Rd0%$RQ,%$dZ+%$aJ%$Qg2%$QjD%$Q|:%$Rz@%$RmH%$X[>%$QaF%$QXL%$R@%$hTK%$UuJ8 ,%
$ZcJ%$_X9%$wL%$U4%$qD%$SR8%$l,%$y@%$Qh%a F%$p0%$T[6%$Rz=%$SZ@%$x8%$dxG	;i k@%$XUJ%$Vz2%$i0%$]pK%$_2
%$QPN%$RaN%$TsL%$Ri&%$ZkE%$R_<%$Qd(%$h0%$o%%$UnF	Gl SZ8%$X,%$UX>%$Qb!%$SL%$YL%$gR7%$]YB%$VzJ%$Qe*%$a
l3%$U^E%$n6%$SY%	L. Rp!%$Q[F%$R[%%$Q]2%$T[<%$S_,%$TaB%$bi&%$^tJ%$el?%$VS4	Nq!h= <%$Qj*%$b!%$w8%$Q_@
%$WxJ%$fjG%$Tv0%$aW8%$fbO%$Sq@%$Tw!%$Ym4w ;%$g!%$Q|,%$S^8%$ZV@%$eu5%$i*%$Rc@%$Rt!%$a!%$b:	)v!RRL%$h
) rL%$Ro	Og RjD%$Qf!%$el;%$W|!%$Wp7%$Xl%%$sL%$UQL%$Tu(%$Qm<%$mH%$azI%$Qs@%$U	,G C%$T%%$c@%$RuC%$l.%
$Wr2 jA%$aY<%$_Y)%$R7%$SmJ	'<!Wi(%$Yn)%$UT<%$Qv+%$[V RP;%$TRD%$So;%$]bE%$Sy9%$Q]J%&qD%%TSL%&UzM%$Y
mL%$QR,%$oH%$Q@	P; !%$Xm!%$Wp+%$v<%%Qu,%%QcD%&Qh!%$Y6%(R]J%$@	Tg Q^8%&hm)%$_L%$TJ%$d(	M* U,%$n!%$U!
	NJ h:%$TN%$QS<	Mp X>%$Z(	My TF%$|!%$W!%$X4%$iH%$Qd2%$WF%$]>k#Y!%$ic ]%%$X	QF $%$6%$2	#( 2	K6$S(%$
a,%$lJ	V7!B%$_<	!& i0	)m !%$hF%$Qa>%$V6%$c2H#e<	Vh rB%$V,%$Qy2%$^5 J&S>QRRK!!%$!*($!1*	cM!@B&$!!&3
Qe!Qe%&$!G&$!2&$:<&$97&*THS6&%Q,*%$E%$I%$*%	Y1 '!<%$(%$Qn$&$Qn!QK	56!10	eL!Q+.	dG!,!*$%!&%	Fq 	ON!
2$&:)&$O)&$+2&$:!(X MQ6%$W	#d :!&' *'#('#1'#0.*R%D*Q?(#$b*D$2%;!%P!%f!&!F&!3%b!*
L$'#,'#&'#8%o&&$Q0V)&$!!%$M>#)'#N%$) UO=!HQE7#Q0	!D*&$$SM%$,	!O$,%4Q#V7%$!($%:R)($!	b] X
2+&VC+'%+&$*&(*&6!%J&7,#%$V,!&$!($V+:Q	kN%Q*& ,	&1#?QK!@L!Q(&$!,	l5!Q771	g+!,2)52 ** +
<!*%%8$0Q+l)(Q)Q%9+%9'!o'*)4Q)	!I-2)A&$!0M&%7 ?(	#H'7?	#wC*I3Q.QH	#? Q*!($Qs&QC0	TP$
%Q:4 **RO	%X$L*&*	%]%A&~#L($*	%_#+93%95Q%$B$$	$>'Q6	$5*.	$a+Q8&$%Mv3*QH&$%RO>1($!:QK!%	(&$(
& (	( -4 (Q13-%&	&x%	&t/	'c0.%	'g1%Q*	'c@%	(Q0%	$s$	!r,	#)'B5	'6#R%&$*S.B+($!@C	$0$CU#(&^$
($60,D	#[ 	l&!4#,&p#94*!%	~? 73G#(	&[*304$$P+4H,&	):*M&$$!	X=%%Q*a*	!6~&.>)$(6#*&&$+	%=$%
&)$*Q@$G2&$!!(9*Q9Q,($!%Q+	0#$Q,	+:#Q(Q+	(g#(	0O$%!Q6	0`!2Q)Q5!$K!!Q4T ,Q3	1')Q,0$(Q)Q)<%Q*Q*(
$$Q)!2%$0`-Q(Z'f %+0$%Q(k$	1N%0G +.e!!<&,($%!+@!	!W!4Q&h*c%(Q)!H)!$Q5h%(Q,+%S `&)
	#L&0S'Q*T!+=$&!&Q&($(Q,&O#	#d 	VB$+	!u'!Q,%	!H!,!:%Q?Q&0($(&	$g$(%*%Q+$	Pc!!Q)6!*!($4QQ ($
%($$!!(	`J B$!	$4#2	!L 1'.A )% ,;!+Q*Q5	%o *($;Q*0($:? *Q+9 $(Q6($$&.($$b!%Q+!($(!Q)($Q.%> %
$!($Q*!p D!Q+Q)' 2Q*.($9Q+:&&Q&0($L&!(OGQ*V:($@!!)$Q1!VE*)$!$Q3Q$)$Q8Q$Q6&)$EQ(=Q%)$+GD$)$6H(*)$
DG1&($KH09$!!!Qs&Qq:Q6!*QrOQr4<2)) s%OH%.$7@#DQ6Q5!!)$0V:N *&Q0Qq1QxA%$YZJ%$$%$YX9%$!%$R?%$%	G# (
%$^t*/!.&!3&!)%$%	<) %&)^x3u2!	;1 S!!d#7%$^w_ vO%%@%$$	p_ 7%$Y[:% )	!*/^x9	kZ 	k5#D&!$%%Q:%$R
A7!Q2&)Q;Qs,&$QrB!& A%!%%!%1(,H%$Q9&$2R(&$!!	2v!A >!)$=2%B$	#R!QA%	>n&%-%'>%&4!&'R4XI
	!;0($1Q5R	>A%%*,&$$#%)QrG!R.] [x*e!Qw%%$:+!=%$[L%$7%$SI	g) RF!	D( C	wv T1	gAD%$,P z!YRA%$T=
	rxU(SF?!&%'+I!(Tw&Q!8&$VAu0%$V6	)S ]2%%Q[!%$|O!&t!W6%$R%&pb>RzT!B&$%!($!!8!	<Q R&T@!5#$!8
!)J#%*!%^DSYT3!$F'RC/%*$%%%(!76#E,%%(%$%!%&*%$%%&*!&N#+F!. 	GF#J <#0k2=$&h#+.!	!B 6
C-'#(u#(,F&y*/n)wB!6/ 7%$<!** Xt,%$XsG!>.!r8. 5%$*%$(%$>%$.%$$%$R.YBY~Y~)QQ7	zp '8|s9h
m%R!8%$SPY6%$R|wC%$SD!$v 	V:!:3 	yg XWA%$SYV!R t3%$4%$F%$L/ dD%$SXs&%$X^@	Q^ SPeL&!7s!tA%$u%
	!6 |YD& VA%$B%$Xe.	_L!<%$R	~S Xh+%$Xl!%$	S!!Q%?!%%$H%$R6%$6l!Q	~O (	2c SQ^B%$RtxI%$X^.%$Q5!iL
&!3%$23#W0%$TI%$F%$Q<%$RF%$T	M9!S,7#>%$!M#J%$6%$D%$b,%$]M%$^!%$Y7	u[![M%$RP*%$^C%$QH	!X V+%$WN%$
$%$UJ%$SRy0& uK%$0l!Nu!S%%$SSZ(%$S** VA%$R0%$>%$SE%$VF%$Z]5%$S]]3 Qt9%$R>	#U Sk<& e+	!l DV#Sr
L&!	%R xD%$w5%$Zl;%$Zo:%$B%$SL	X[!	cl TXO& Y(& W$%$)%$H%$TH%$%%$Zy=%$ZzJ%$R%	Uh!(%$[Q=%$SazD& y9
%$[SD!%$*%$N%$TPj!& g;%$SUZ<	74 wSC%$ZU&.![Ua fuB%$^n>%$Si^?%$8%$[WC%$[Y!*U :	YH V:%$[bG	7c [e*
x u<& s&%$V*!&_!&%$R,%$N%$QD%$A	'M 01!,	&6 <	$z T!	%r UL%$SV[@& ];%$S&%$U*	'o T6!a:<%T7%$Q3%$
]QA%$]ZH%$Q!	)h QG%$]X;%$]d6 6%$SWTFX |&%$^,%$XX h9%$]kL%$]lC	4L Vj:%$*%$VY(%$TE%$WiF%$cm;%$ZY@
!/0!RL%$;u lN%$SfcG%$]zH%$U=%$YF	$9 SWf:&!$%$U1%$[B%$^X.%$^Z8%$T	+c!Y%D g6& dM%$^j$%$^m0!z,& 
wE1 X nB%$R	#w!W X_!%$XiC%$XnL0 ]+& s@& n.%$B%$TI	]] QL	6s R=,#	-.!Xi:& m3%$[N%$S!%$_])%$_b>
%$+i!J& xA%$cFK!@	]u SXkC%$U:%$Q1%$S mI%$_p(	#j 1	)_ RsbB& Y7%$SYP!X wI%$^_$%$^fD!01#SYqD& o
7	,X!ZPF%$Z@*!9%$H%$a_;%$aaF% +%$!%$ahL!O#N%$S2%$aj7%$anDV p>& o3& s2!q3%$Rz[F& T)%$S[e` (
	_e Sm^O%$>%$ay<< j0%$$%$QJ	-a![k1	;_ 	*f a|1%$bR6%$bQE%$SH%$Sn[>%$S]T3%$RN	-' bY=9 rD9 b=& h(
c#S]g7%$Tc e?%$biB%$:%$0%$S^S6%$_0	-2 ^^&%$bdI%$SpR41 ])%$*%$bp=4 ZD4 Y;%$bw7%$bx:%$.	)>!_R,= 
y9%$byC%$cR:%$RH	/z cV$%$SqjJ	2i!qj=& q<Y ];& c4& b$	-Y 9!p3 :* o9& uH&!l PZ%%$SctI%$cmN
	ja co.%$cr%%$[WE%$Sla4%$B%$aU;%$8%$R|u	bS SyH%$gtC%$dQ@%$1%$J%$^x&%$^y!1m#Qw aq%&!&	d> S4%$S<%$V
=%$W	gA!U4%$]5%$UBZ!FP!0	r* W)%$StU$%$dg8?!Qg cj&!fM%$SbVBD q+%$,) w4%$^f uX?%$du(%$>	dE 
	&@ Q=	>M R&%$WR I%$S,	)# bw1%$b|@	46 eVM%$e[:	#_ cb2& ZE%$4%$e_?%$eaN%$jdO%$TP^J%$XF%$Sw^$%$8%$eo
(%$SB%$W:%$YB%$SdR8c z3	67 T2	'Q Sde8%$tjC%$RkrC%$) :- |4& p9	i; SevN	*p!egA%$T8	!n Seq!& p;%$^
>%$W>%$%%$T5%$d*%$Q4%$SfZDC tK%$hQO%$hT(6 XN%$TPY+%$h^!%$biA%$bn0; x!%$Z*%$TQc.%$6%$hed gfF4 w?
%$TRR22 k5	79 8- wB& nI%$hhO%$hl6%$V!	#! RJ%$ho)%$TSm0%$ShlM%$_6	k>![9	)$ ia%%$Sik!%$TTy;%$TUP*%$
]@%$V0: p1%$il.%$io,%$0%$4!9.!QF%$Sjj%"

/-- The ranges of code points of one nonzero combining class. -/
def combiningRows : String := "&d2Nl=&;%(&$,=&(%>&$%E&$0,&)(I&%,J&((I&%<J&10Z7&),Z8&(6:&,%:&$%9&$*9&&*:&&(9&&,:&&,9&(%:&$%(&$(=
&%%:&$%*&$(%&%%$&$(%&%%$&$@)&VJ^4!&V8]B9&$,:&(%9&$*:&&%5&$%&&$2:&*29&*(:&%%9&$(:&%%5&$%2&$%(&$%Z
9!,$%%&$(%&%%%!%$%%!%%(%&$%%&%(YF&$%9&%(Y?&QESHZ(&,%Y;!%$%%&Q+R4.!+$%%&$(Y4&%(9&%0:&)%9&$(:&%%9&
7HXG&R8U*Y2&.2!&(%9&$%:&&,!&&(9&$(:&%%9&JQDXE&EQ:Y0&$%9&$(:&%%9&$(:&%*9&&%:&$(9&%%:&$%9&$*:&&%9&
$%:&$%9&$%:&$%9&$%:&$%9&$(:&SJWN!&+%9&$%:&0:9&?Q4:&):!&0,!&(2!&Q*R,9&Q;RL:&$*9&&,:&Q(R0!&)09&)B:
&5(9&$(:&%%9&$(:&%%9&$*:&&*9&&%Y+!%$%%&$*Y>&&%9&$(:&%(9&%0:&Q=RLZ?&7H(&(,Z<&$%9&$(:&R;TNZ?&7H(&Q
+R4Z<&Q:RNZ?&7H(&RAU2&&7H(&RAU2&&7H(&S%V(!&RAU2&&7H(&,6S>&$%4&R8TJSO&7H(&R@U2!&8H!&ROUN!&R@U2T:&
%%T9&4HTB&RBU0<&%%U+&4HU6&QLSDTB&CQ4!&%(!&%(+&Q4RBT)&$%%&%((&*8&&**!&%*TF&%%Z;&%*Z<&Q<S!9&RCU6Z)
&%*(&R!SNZ%&c*t6:&hAQS0Z;&FQ:!&SFW<!&1<Z<&TJYD&&S8VJ1&$%6&$%9&U0Z::&$%9&QDS8Z$&;Q4Z<&0*9&Q+R<:&)
29&*(:&%%9&%*!&%(:&%(9&%0:&)%9&$,:&R;TJZ?&6F(&MQJZ<&$%9&$4:&Q9RBZ;&Q8RH&&2@(&QAS0&&SAW6Z@&((ZK&$
0Z8&)(:&%,9&(%:&%6ZK&10Z8&+4:&(0!&TFY<!&%%9&$4:&+%9&$(:&%%,&$%M&$%2&$%I&$QFQ4&K%(&$(+&%%5&$%&&$%
>&$%*&$%?&$%:&$%9&c+t6:&%(ZK&%,ZL&(*ZK&&(ZL&*0!&(0ZK&%%ZL&$%9&$%:&$(ZK&%,Z8&(%:&Qq)Sf4!&S8VFZ;&R
3V(Z<&^Nl8=&$%:&$%,&$%9&$((&R=U(Z1&cT0tX8Z>&)B!&Q!Q@!&QNSL!&V@^,Z;&LQH!&S@W0!&BR*Z<&QGRJ9&NQHZ$&
R2T>&&3@(&UD[8Z<&%*!&%%9&&,:&+4!&&(!&Q1R<Z;&UK[F!&[fCh|6H&d4vNYD&+49&+(:&i.QT69&U7ZH!&S>W4:&z+Qx
*9&%(:&OQN!&$%ZK&$%Z8&)0Z$&SNWLZ<&$%9&^Bm::&Y3d<!&SCW69&%*:&&%9&$%:&$,9&Q1R6:&$%9&$%:&$%9&T?Y,Z$
&Q!R!!&5D!&Q6RF!&$%&&QBS8Z@&Q.R6Z;&Q<S!&&QISB(&0:&&R=U((&$%&&T1X<!&$%(&QMSL&&8H(&?Q:Z<&06!&U!YHZ
;&(,&&>Q*Z@&R6TFZ;&$%&&V!]!(&$%&&S$V%(&RIUB!&$%&&RFU<(&V8]J!&$%&&V+]6(&*0&&SEW:(&R!T!!&9L!&QNSL!
&Z%f(!&V+]4&&%*(&QOSL!&[Y9he(5&Q<S*ZL&nNQaBZA&[U6hZD.&SPAVQ4Z0&%*Z.&*,ZD&$09&3F,&04:&)(9&FQ@:&S@
W,!&Q|FS|D!&,J!&98!&,*!&&2!&V4]F!&Y(cL!&Q:S(!&uLQoN9&RFU::&*%Z?"

/-- The pairs that compose, with what they compose to. -/
def compositionRows : String := Text.expandText "&Q8v6YR:&$!A&$!D&&RAYr?&!%%$(RL&!((&!%^L&!%bI&!%Xn
(&!$&!(]>&!*R8D#JX]J&!(W?&!*Xc3&$Q=Xc8&!Q4(&!B(&$R1Xc;&!%(&!0$$Q2S1&$Q;XfD&!0V !Q(V!,,&!2(&!,+&
$R3XfI	!]&Xo&!k?	!d!$ S=3 nL&!*Xk)&!*[*	!^#^H&!,X]+&!%]M&!0Xc<&!*(&$QM,&$1XW3&!%Z1&!(XcD&!?v#0Y
8&!Q2Y3&$QE(Z!8&!%,p UC&!Q(XU@	!r 4(&$R+XgO	!n&T2h#((U#%Ty Xo6&!*Xc+&!*RD	!k#_:&!0XjM&!6Xc8m!c
)&$$Xc4&!<XXE&!Q(XXJ&!,Xc3&!:F#1Xc1&!<,>!c,&!,1!2Xc>&!,&B 	$X!Q4(&$QAXXI&!%X?&!(U7O i!&!0Xc5c#
:c!=c!Fc$3Xi)	&r*UB	#A!ZB&!%b5t o4&!(Xi;&!%V*&!*RHD#:U.&!6Xe@&!0Xb&&$QIXZ6&!2(&%1Xc?&!2Xc	&X ;&
!*XF	$##* ,XcC&!:XcL	#X C	%N!R&	#! @&!*	#E!I&$Q;XdE#G?#L? Y.? E&!2Xd,	#F$j	);'VD	%g%(Vp!p,& 
i.9#%TD&!*SC$:TK&!6Xf[ 	$^ c;	!c#*&&$R)6&!Q<(&$QA(b$Xd+C d6&!%&&!Q2,&$Q3>#$5TJC pC&!%W2+ iD
& _E&!*XYDa!=8!<&!Q0&&$Q?Xi58!@y!;	*F!(Xd<&!B(&+R3Xl&	%v*Q8	+k'ab!l@&!=&!([(	+k]QG&$Q;Xe0	+k9
e5	+k'm>	+k,R&9!8	+k5	+k~!*U(&$R3Xk?	/@'H	'*&RM&!%XmL	+lD!:XL&$;XX8	+qtSMO g<	+q=gA	&x*T,	+q'_Kt 
mJ	+qJ	+q~%R(b eK	+v3	.?1U0	%m&U5P nD	+vy(L&!Q,C	+z-o.v H	+z1j	/|$%T9b T6	,$>Q(R3b6B Z1&!S(XX,&
@S)^9	!Q!2&!2&&%.X_M&$)Q4&$!(&!*Q.&$)XW*&&$XFK*)5W$&)$WH6*$5V9&!*XVI&!,XVN&$+XW$&%)R&&($QA&!%+&!*&
&!6,&*=Xa*	!F:	!F~<`+7$0*57W=	%O $$(!Q5$RD2*32H&$!%&)!%(!+10#$40#:$Q<&G3S(z*!Q0,&$QA.6/4QA4
LE+Q&XcA&Q.5&&$!%&Q7!?)!$(XX**!)&XT7*!R56S)&V&=Xm,&!%XWG&!*XWF&!($&!@X	0<!R4X<&(S1>D 5 JXP!;!
%MX85!75!DP%WF&%S1B; Y)u Y(u#(XW;&!<W|LK!*MY(E Z9a R(v#!WF&(M&_!C_!B_%X.&!>XQ8&(MWBZ!7
Z S:	!@$!&&!S7&%!F&&S1SOE R9g U>	#C+,X@&!*)&(S1S&I!;&!JWyJ	#H!TD5!=5 z>U%WJU!%S1SA@!?&!*XVN
	!k#U?&!<Wz!P(*S)T9L Q3m!B<!%$WF)!(MU&>!5k!2k%V3k |:k&(&(S)U$L!	%( (<(!*)&$S1Q=@ X9	+i 
D&$S)<2 WC2!WN&&*@&(S.XVK&!4%&Q0!R8&0&Y>&!((&&3YI&%$)&!2Z,&!(Z)&$&Y*&!(Q2&$!(&$5YM&!,Z3 Y=% B&%3
Z1&(4Z6&)+6U A% F&!*(&()(&(!,&%!=&&&Q1	!,!V&	!,!V8&!(V5&$&U6	!,'V+&!,V3 X&% ,&%3V;&(4V@	!,!VK&!(
W!	!,,.!W)&D4Q:	)0!3TD*!5!(#W>z*_H	1X!(&G$$&%!(&RI!W8&7!H&&!K&_+u8o6&,!6&&!*&S<V,W,&!Q,%&Y*c(d0&!Q
*)&!%,&QGV(S8&Q0Q+R>C (&$Q+$&S$W0UN&RKV%UD&+K:&!L)	&M $*&RNU!V%O):VBVH	0v F(&&O$&^Mo*mJ&Qj2SX8SV>!
(%!	#S O!QN&- %!*&$	,A &d!WPKv%0!I!QB)!+*<(!Q9.S,&!,:&$+7(!=+D:!9!HB#.&QN	3V S((&!*UH&$S1UM
4+!*$!%9#MJ	/N(+$00-Y*T#+4+n'+MT$S)).'+S)*<9	!y;]5,S),	!,3!*RF&$S1RK4+	!v$RKMF!*&(!F&,
!R2&Q6!RG&.S1Q	9Z!S(%&+*5&Q*? ,S1Q.9'Y>9g(&%!%&%!L&Q8!Q:	'M!$&Q)!R>&)!0&&!*&>!Q*;!=!Q2&+!- *&&!(
&)!QD&:!;&&!	'j 3	(/#(&4&	!o T<	4u!T7B*0!T0)!6!R?&*	58!%!%&+!RH!.!QzC^W,Sz8&)!S7!1%!(a !%) +!4
&!%%&&$((:H$Q>&.!T(fY:$Q0	!Z 1!,&rdNQiR0QhwL&g 0!D&S4U,V0C!]Ck:kD	,j XHb8c<&!:$&!**&V&[<]j#g0QP
DQP<"

/-- The ranges of code points that may not appear in a prepared label. -/
def prohibitedRows : String := "%S%Q<%bFr%%h$QR!%Q,R6%RZ)Tf0%Y:dN%QV8R^>%NQ<%Q3R:%1>%RZ@Tg<%60%jb!Qb_0%Uf:Qd,%W.]N%UN],%pbHQdsB%
VqC^g(!2wV6Qr]F%&(%EV!%wU>U]r,"

/-- The ranges of code points written right to left. -/
def rightToLeftRows : String := "%u!!%%(%&*%3QJ%F:%Q$QJ%(,%%Q2%EF%Q&QF%(TJ%R>6%,8%;Q*%*D%6*%%Q4%R@UF%Q+>%Sh<WS%%qs,Qgj6%%<%1B%42%
*(%%*%&*%&U,%S5dJ%Y&SL%Q>RB%R0R<%S%UD%*V:"

/-- The ranges of code points written left to right. -/
def leftToRightRows : String := "%Q=Q,%FQ<%QER2%1<%)0%*Q4%>Q<%F_,%W(L%Q(UH%R2<%18%;F%6L%4:%S4VB%2>%%,%((%%Q!%;R*%Q&QJ%Q*VD%S2S@%Q
BQJ%N,%,Q%%Q+S6%N8%,QL%N(%g,QP6%%R>%Q44%2>%+,%,H%2D%DL%&8%0,%(Q*%=6%,(%(4%,4%.6%(,%2<%)2%&,%+F%4
8%7F%02%(Q*%=6%,*!%&*%*4%AQ4%)(%,H%20%7D%%6%,(%%,%(Q(%=6%,*%&2%,4%28%%*%),%6F%*D%BN%&8%0,%(Q*%=6
%,*%(2%+0%&(%+6%(,%2<%)2%&,%+D%CL%%4%.2%(0%+0%&(%%*%)0%)2%*<%.,%+2%&*%)2%(,%3<%6Q2%@H%(8%.,%(Q*%
><%12%2<%EQ6%*B%BN%&8%.,%(Q*%><%12%.0%%2%+,%&*%1<%.6%%*%*B%BN%&8%.,%(Q*%>H%:4%,6%(,%3<%.:%*B%BN%
&L%;Q2%?:%0(%&8%5<%.B%@Q!%5RJ%Q+*%4L%5Q!%Q,QJ%&(%&,%&(%&*%+:%)6%,,%((%%(%&,%&0%)*%1:%&4%*(%0L%2,
%JRF%@Q6%B(%%(%*D%1QB%Q2Q!%*2%&2%Q2RF%.4%,*%Q+SL%I2%**%&(%)0%+4%,Q:%R2U0%Q*R8%Q$*%)T:%R1S:%QET*%
R(@%,S%%Q<(%%0%*8%,(%%0%*QN%N(%%0%*Q>%F(%%0%*8%,(%%0%*8%,6%,Q*%>Q<%F(%%0%*8%,QL%NN%?Q@%Q;UD%R3p>
%a0QD%ET(%R2Q4%40%8Q<%;0%1Q2%FQ2%4,%8S4%Q:D%.*%3J%,(%(@%Q*R2%6T:%R2R4%s<Qp<%SHT:%R2Q4%>6%,QL%N6%
,:%.(!%%(%%Q<%GR@%Q26%,(%(2%(6%04%*6%0H%86%(6%>J%R5TD%4B%S)V0%)0%&>%1(%(6%14!%%(%%0%),%(6%02%,:%
ARF%[,iN%R1Q2%V1b,%Qm=SY<%BQ@%6>%+4%.T2%R,8%(T4%R+0%.R*%Q%TB%R1QN%R2TH%Q*QJ%Q<RB%ER<%Q=Q2%6R8%Q*
UD%RMTL%R7Q>%FWe:%Sr:irJ%[wHQcF%Qq*_tH%Vb,ZQ%%Tz6RL%TNW8%9H%jDQX8%FQ<%KTF%R,8!%,6%,0%e,yD%F0%6QJ
%TNZ8%NQL%oj:QcbJ%V(R4%Q!S%%Q<>%?J%.QF%HR:%_*p%%R%S8%QD*%(*%&,%(2%)@%3(%%0%)*%&S*%Q>0%*:%.6%,Q6%
C0%)2%*(%(:%,b*%X*_!%VP!QdT%%u|@jW,%Zl|4iQm<%wV6Qr]F"

end GraphProbe.Nameprep
