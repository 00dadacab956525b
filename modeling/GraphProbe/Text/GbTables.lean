import GraphProbe.Text.PackedTable

/-!
# The Chinese character tables

GBK writes a character with a lead octet from 0x81 to 0xFE and a second octet from 0x40 to
0xFE. Its cells with both octets from 0xA1 to 0xFE are those of GB 2312, which GB 2312 reads
the same but for a few pairs (`gb2312Departures`). GB 18030 fills cells GBK leaves empty
(`gb18030Code`) and reaches every other code point with four octets: those below U+10000 in
runs (`gb18030Runs`), the others in order from U+10000. The tables are packed as
`unpackTable` reads them.
-/

namespace GraphProbe.Text

/-- GBK packed: 126 lead octets (0x81 to 0xFE) of 191 cells (second octet 0x40 to 0xFE). -/
def gbkCode : String :=
  expandText "|%hx<;;C=?B;;<==?;<<<<?>;;<<>A><=;A~%<;<~(=<~,<~)<=p@@;<=;;?A?;;=<~%=;;D>=;<B;;><>;<>
k >;k!~)=;@~&@;><?;=P   =~&u!@<<E;><<;<;=l#=;F&;! ;(#AS!~+<;;>~%<;;?~&=<?= >b ~%<L ~0p;
=<;<G '#=>>~.<A!|!i N!~*<~(<~+4 u#7 ~9<<>;<D )=~7<~(x!.=~%D 9!,=p;;^!2<~A>?=<<e!;;@ 
	#! ?=B>;>	#B ~%<;><=? =~&=;@>;;!;<=<=T +<<;=s!0 =A@;>Y!;;A<H!;;=<=+ A<@~(<=;W ;p~%<@#<=
	#+ ,<	#J )<;% B~%A;;>~,=;G!	$7$<~(+ ~.<~*=B %=<~%g >=;<;=w#;s >;=<<<?;;=>>;<<B=<<;?>O!;	&F 
p~(<;<#!===x )> 	$~ Ai <?<;;=;?G@>6 <>C( @<;?@==;==^ 	#0!C=~&<<<<~*>?;>;+!%=><>;><~&=C<<=;
M!?<?;E<=?~&A;=;;=~(<=L!<~&>;	#L!>;pL#;;/ =<=<;	&Z &#<;?;<>~(?;=<@;@	'm!	(/ )<~+<	(Q#=;;<;=;;?<
~&=r >0 <. =~(=;<=~*<C#=;<~%	(h ;	(8!>~&<;>;<~&p2 @~%<#!=~*=~)=D 3<~.	$I!~1<~+n!A<~(<<;=x#>
u >~5<;w!%>@;	#W <	%B A~&<;C;<<?<<;	!R!~%p;@~%=~&=~)<~%@=	$Q c!+=~)G <=;>;7!~*m#0 E!L%;;
	$S#	)f &, ~2<~)	%D ;7#(<~&=~5<=U$p~(	$M =~*=~6	&r!~.<;;_!(	&U!	!@ e!<~%>;=, %=<>>= ?,!;><
8 @<~&K!1=<	(~ ?>N!	,y ` p;?	*=!	)P ;;=~%@;=<=[!	%I 	)Q B;T 	!_!;=	$)!)=	+] ;&!=~,<	(|%<~+?;
0!6I ~2<;p~(=<L%(*#<<s!	*9 o!~;<~0=~><	#Y ~3=>B<;@;=F 	%y!;=>>=	+> CB;	,s ?=;;>;<?, ;p<=~+><
;=	$<!)@	*i K!<;>	*3 =<~%r$;F;<;?;?;;	)M%~)=<~)I!~&	)8 ;<B~&. >;;<f#y ~(#%)<	0t!<~,<~&pU ~(
	%g!	#_ =<;	*K *=~*<;>~.<;<<~.<=;	(~#:<;;<~=,!)& =;=;@<;p=?d =;>=	/s!>Ah &=7$~%<=~(<~)=	0- =~3>
<<?=;;d!;>@=<>~%>	(@ @~%<~,=~(>	!@ 0<<~+<=;<;;B;;	)J <0 	)l >=;	3e <	*y =?~%<	+T ==;6!T >=A	,Y 
w$(<	&J 	-+ ?;<;=?;;?	'H!;^!<;*!<E( >	/X!=;;B;	*6!=;<>~)<<z!	,v!>;B=	4T p	&_ %!<	1x ;K!><=~!
=~*=	%+ ;9!==~&?A;	.j V =;;>~&	-L!;==;;<~7<~*<<	)S#)=$)#<~7	&( p~*<~+>	&J (	)U!v <~5<~2<~+7 <D
;	%: =~%	0x H @<;;>	'u 	*p =C;<!#>;;F ~(>?=;] 	#H 	(C ><;p<B><>B7 @;?y!?	6&!;	6o!D;<=|#(=;
	8' <A~%<~*	8i 	0O$=	+o ?<>	4T )<=<?>	8_ <<	,D#?<;;<#~&Y!<	/y 	(6 	)1 =<=;;p;J 	)?!;<<<;@X 	/##*
<	56!m#+=;o#	3$!>	*l 	9k!~)=	'7!	6B!=b ~*N!+p~%	-+!%>	3n!;=	0_$<<	3 &<o!39!	(O#H =<<<	3P E ?
~%=	)8!*<<;@;A	%`!<=;	)($;	#K!%	,7#>	$3 <~)F Ap;<~%1!<~&>;;]!	<*#	43#	<. &!&5%><>~*	-+ >M!>~)?
<	/E!p!(	3q =	.6 <=#!?	(- ?	*)!==<pp 	/z!<~%.#>h ==R!~*<=~,A;;>><<	*l#>=7!%<A=<<	)v#~)	6$ >;>
B><<=>~,E<H!+	$H 	:>#	>C!	21 p~*<<~(	5x#	<y#~,	3F!=8!	/5!<~0	5Y 	6[#	$;!	6m 	;I!j%~&>	<+!?;	)#!;=
~,=	6)!d!	<| 	+O!;	+) =~0<5 ,<$ ~0	-o (	@-#	/Y$~*+ 	46 	8` 	<m%+<=~&B!(p;;<=~~~B@;<	4W =	#& 
	6= 0<~*A;<~2<=~%?=p>	,* ;;b%*>| =	4d!;A<<9!=	''#	-P!>~&<>??;;<=<@;;>	29!;>;;==~&	&u!B;<;	() 	/D#
>==	@p$r!@>=;>~%=@~%	)I#;@p	>F#<=;?<?@;<;	'n$	=C 	;;#<;>4 ?;<<?=>?~%=	D' 	:~#(!<	3.!	(`!&<@=A] 
	-a#;?L!	$=!==;<	9I <	A[!*: >=;<T#	Eo!@ p;;<	54 =~%=	0^#.y 3=;Q!	<A ;	/g#<	6o!	3R 	/b%<>^!@>
	9F!	(f!	&J >~,	=`!<<<<	1e!p	,x!~,	%O'(=-$<	:x!;>~1	.H#.	#_!<<	65!.<=~0=~E<~*=v )p	<d!6<	<i 0>=~%=
3 >	F|$;;	@Y ~1@<<;;>>;?~%<<~1	%T#?>	0#$.	(b =>~.<~*>;;py!	3' 1<<~&<>~&	#v 	9I 	-T$5 	$M$~(q#+
	9W 	$5!<~(0!0<~8p	,% 	?l!@	JG 	$s$	8$ 	J~#<;F#	28 <	)c!0=	06 )?	4C 	*r!z$$|$cV;;|!%3|!,G8|!$||$cY
<|$1Z|.(.|$1]J*;=;|$cl;+~*A;3O +bZ|$8&);if8U9iZjUi_k]hP5lphWhd=jYih6.i[jkH;.;i4Q9|$D98|!%*|$1z;lL|.
&(|!$w|.)];|$1x|!$z|$4^|$CR9iA>939iV9M9|$2*n&8;<|$ckz$$|$5d~,u|$?%~8iT$!,q|$iz'!5R~0z$&|.&$;;l_gE~
~~%kWY!dB~yz$2H~~z$.|!0g~5<~)wB'!v|.!Z;=;?;7;=~%q1;5;3p<;z$0|!2:~(!O~>z!(~)Vib* %eJ;H|$1Y<JJlL>k_
~%kMD>jUN;k&|$AF~HH~)p~+>;;c;a~%_|$93|$cjE;z!!|!&%i[lkg7jYiQjXiHjki=lagAk2hxl[gEkJhalVgJlY<<<gE%n9pf
o>pm@s|$f]~Iz!0ft~+|$kQli;G;;=^D=;=|.!Uo.<p|$4j|$j4p|$1Vr|$fShq;k2;g+kj;|.!p	+#!+p~(<~%z!%|$c^'!@K~
rz!(|()w;<=~(=;D;=>	(< 	.,$;?;=	9?!<	Op =~+p	8v 	+~ ~.=<;z!|~1	91$	6:$;	+D#;>	JP 	P/ p>;<>	<y!	>, 
Q#&h 0<=H =~+=~(<	Rg!;?	*F!0p~*<<?=~1<	:_ ;T %	>b!;	BX!<~*>~4<~1p~.	K| ><~)M#;<=~)<	4)$~%>	F6#>
@<==;	Ea$	/~ p?~*=	<* <	?b&z!|	O+!T!>>~&=C	KX ??	$L 	1h!>>=~%	2w!	Dv p	K4 E$;=<>;><!	-| 	!# *=~(<
	E5#	-#!*<	CH!>~!	2A!p~+<~+<;=<~,<;<|&$r|)AQ|&.A|&Q]|&!Ijci2|(7,i6|(e=|(;7|([$|(=*|(&v|)BUls|&ng|&:
b|%nr|&Q=|&[||&>;|(VL|&c*|(UU|&Z9|(7m|%ts|&X7|(%D|(SB|(o3|%q&|&4:|&MR|&yI|([V|&R)g)|%zijb|(DR|%s8|(4
@|&Az|&P^|)%(|)E4|&Oj|(Sl|&,0|)DK|(Q^|((!|(6q|&a^|(6r|&U!|%m;|)!,|&Pg|(Ad|&Xt|(.2|&Tcdm|(Z(|)H@|&_d|
((6|&OLk.|%lT|(2&|%xpg||(Oq|)0^|&B^|&clm=|(X%|(Ox|&dc|(=f|(i9|)>d|%pY|(z*|(]2|(V0|%x&|(pn|%v3|(7c=<<
;A<>;	AA$==	@;!;	&C!~.	39#=;p;<<~&?<	7V!	5~!|(f0|)Cc|%nS|&0J|)K1|&:v|&P:,|&]A|(|*|)TP|(&I|&_R|(=0|&J
9|%xwiA|)+>|(Uu|)!!|)<]|%o,|()c|&31|&Jt|(![|(oZ|&4&|(]C|&^f|(Dv|&?W|(PG|(2u|&q3|)&rnfjl|)]V|&mh|)2!|
(Db|&FW|(=F|(d*k8|&mi>7|&B0kW|(5@|)@T|&X>|&E:l7|)+U|&2@|(Xl|)06|)Aom||)+q|(Ph|)!5|&Nv|%n5|%zRhV|)+_;
<ku|&b@|&FE|(X@|(nn|)UD|&Lj|%uN|(5s|&FG|&Xo|&yjg;|&;@|&U%|%sBjc|&aR|%i8|(@k|)K<|&~J|(9P	Dh#0<	:[!(>
. =<;<	,b!<	VV 	V6 	6U!|(4c|&CP|(,U|(a5|&V8da|)<r|&pw|%y&h9|&TD|)=%|(F6|%lO|&BJ|(Z4fZkE|&teew|)N4|&
R4|%y)nr|(nk|&._|%i*|&B2|&lL|(H7|)1J|&HG|&Vs|(*b|(or|&_3|&O)|)!)|(9a|)&3|)4(|&FD|(a1mn|)I~|%z<|(iB|&
lt|&Jv5|&|m|([xh4|%kH|&p:|(g!|&VX|(J$|&h8|&^1|(^H|%yf|(EM|%mtod|&r4|&<q|)&y|&S]|%zC|(^)D|&au|(=S|&Tt
|&;cl1n*|(yD|&PO|&b+|(|+|&T5i5|(kL|)KK|(yv|(Pr|)=X|%js|)@y|)He|&ZC|(*Z|(;.<<?~%	2L A~(<	Ht ><=	LP!
	Gl!A<	2+%<;>;;p;;<~0@~*	/. |&+d|&<J|&Bi|)?;|%pK|(UG|%yQ|&X?|(36|&$W|%oB|)$9|&Od|)<Y|&^U|&(Y|&xY|&Ah
|%|Z|&~&|)*s|&OM|&V.f||&FV|&xu|)1V|(Y6|)+h|&<E|&[J|&Gy|&os|)AZ|)$5|(nr|&Us|(A;|&.L|&i?|&NC|%|o|%iy|(
AV|&Jr|&xq|(y7|&O^|).(|)NL|(A.|%|%|(5;|&Q5|%x=|&oH|),@|&EK|)N1|(T7|)^E|%mS|&<i|)!o|(Rm|&Y1|&~T|%rik>
|(ho|&?5ej|&PF|)2||(3g|)%m|(Am|&K3|(Er|%k<|(PH|(9z|%i0|(Y@|%u@iX|&iW|%yy|)(<|)=loH|&vV|)Ax|&f?|(<z;;
<<;>	gf!;<	c! @	Xu$# 	@y%~,p	[;$> 	8>#)gY|%pv|(:w|&TE|(sA|&3,|&So|&Ac|(Bw|&ey|%l@|(Z7|&%k|%iQ|(4J|
(C8|&C<jN|)@V|%u>|%|_|&|x|&RU|)>5|&,U|&Z]|&e||)3?|&$+|&t2|(OT|(n!|&Nh|(P@|(4Q|(^$|(=b|)C4|)+T|&K~|(2
=|(y(|&lK|%u^|)!Y|&k^|(Th|(bs|&*p|%x(|%kCgt|%tI|(I:|)3C|(GT|%n9|)(4|(G,f5|&UG|&?B|%pz|(VX|(5H|(I]|&t
)|(S1|&_4|&:.ks|(=l|&V9h5hihQ|)>(|&Td|)+v|(EK|(5r|&O1|&3Q|%|m|&lb|%pq|&Ni|&BU|&lo|%kX|)!@|(o:|&Fb|).
:|(>W	Cb!&<~3<~&>	Qd!+<;=;B<p;0!	Lf!=;=	<1#|&HQ|(T9|&PN|%iX|%x||)1Z|&SB|(Uo|&Yt|&nm|%lh|&Jw|&sw|(y;
|&Ek|(iz|&F,|&QU|%s$|(^b|&cG|%tz|&RB|)&R|%o3|&=u|(?n|&<&|%uS|(B1|&JC|).a|(7v|&G=i[|(6x|)&x|&|, o|(E
@|(:H|%tm|)0J|&0M|%lp|&w4|),K|&X+|(Di|()^|&s8|(S0|&8d|&P>|&Cq|&+X|(cD z|&BLm&|),u|(Pf|)Ha|&Rc|&v]|(
=7|&~P|%sE|)Dp|&.&|(3!|%le|(3&|&Cs|&Jo|&45|&sT|&mQ|(=%|%zx|)C=|%tCj]|&Rj|%|.|)<N|(yboF|(($|(=>|(k||)
,6 l|%zZ|(@3~)<~0<~.<~&>=	TX 	WR!	Qp#=<p<<=~): ;	On!=	pK#|%hw|(87|%zj|)<D|)H5|)]&|)>>|&:s|(xT|%iA4
|%s||(be|&MJ|%vx|&bD|%md|&IG|%t3|&q]|%s&|&Ov|&Xz|)Au|(zN|),z|(4v|)1a|(9V|&mf|((zk3|(yX|&0_|(9n|)!U|&
_?|)>Q|(UA|&D)|&tb|&4i|(D;|(;6|)>L|&mG|&Y9|(P_|&0.|%ru|)A1|&<!|&2%|%|M|)($|&XG|)H>|&*c|)<X|(8F|).M|&
Rh|&!A|&3DZe0|)(i|&^o|)%Y|(Z3|%uf|&Jy|&0>|(jV|&>m|)Ya|%n:|)H]|(xm|&6P|&IR|%yS|&OZ|).[l.|)K?|&IE|(S^|
%rc|(T.|&<A|)K5|&qq|%jV|(Aj	[o 	P[!	*T%5p	PZ @~%>=	v.$?;;==;|)!9|%zK|(QU|(EF|%l0gf|)@i|&pj|(,l|(g@|&
B5|(3[|(SL|&hE|(;G|)<M|(N;|%tY|(!%|%zG|),5|(]W|)!2|()H|)K+|&pp|&+t|([]|&YE|(UQ|&Nt|)AD|&5%|%kv|(xs|(
Oa|&Wv|(aG|)Ds|&%2|)IH|(UL|%xN|(yZ|%|a c|&C||&pK|)!B|([U|)2i|%|N|&nX|%u&|(O]|&,2|(!]|&oh|(I*|&3w|%k
t|&H0mL|(IM|%iO|&<,|&a9|(jZ|&>u|)=s|)I8|(4K|(!?|).,|%t$|(Po|(xq|&3u|%t]|%m!|%|K|&3U|&XX|(UK|&:L|&OTj
t|)+F|&Bv|&n]|(Dt|%l.lE|&^E|(CD;	k7$.#!,<	gp <	hm!p~(	[Z 	r=$& 	|3#>|&rWjd|(@.|(ob|&EG|(2s|&Oz|)+;
|%ng|)4?|&Y3|(W*]|&Cx|(WM|)$%|%v=|(r6|)!T|&37|%pQdy|)A,|(&||(Wx|)!%|&;N|(xU|)AV|&4]|(Pl|%~boehj|(yB|
&Wq|&fi|)<T|(7u|&uu|&CL|(2_|&_&k]|(DK|(UD|)$(|&KQ|(@h|&XC|)!n|%sUke|)<^|(Q3n5d;|&=q|&tp|&_C|(G!|(7%|
)OD|(X7d&|(Iz|&TS|)>c|(B5|%|qkn|&l3|&T6d)|)YW|(VE|(45|%v@|)E$|(b[|&bw|(j<|)@jkfe$|%iI|%|&|(P&|&bt|)%
>|(Sh|&^*|&Cv|(Ra|(E!;	<g 	b(!=;?& 	M4!;=	Zy 	K'$p<	V>#;=;;C	v0!	Z< |&.@|(T;|&d!|&Ak|&Ws|%vo|&II|)^
b|%mh|)(c|%s9|&;+|&ECfP|&oF|&P~|)!(|%s>|)<f|%wy|&p2|(]3|()r|&,w|&_i|)!6|&3I|)+R|(_s|%~g|(F.|%lP|&pP|
&:;e<|)],|%z_|(iy|)Nk|(z?|(UH|&X!|)H=|&*y|)C.|%uQ|(1y|%uu|&;e|&Q6|(p]|%iw|&PY|&H[|&e4|%s@|&:q|%so|(r
t|(FC|)KF|(QK|&Jx|&|8|)!8|%rm|&CY|).$|(0b|(rv|&+U|(<9|&F+|)^g|)@c|)*u|)PS|(y>|(6l|&c!hl|)%Igr|%ub|)+
@|&vq|&d]|)=m|)1O|&*~|&a(|(pS|),%|&!C|(Fi	8!!<~&	ia#=	R-#!( #	my!(	zX 	nB!1<~(>|)N||&:@|&rbf&|%jq|&
;5|)NH|)2r|&M0|)0h|)FR|%|P|&sI|&;T|%tw|&%[|(QPkn|&VGeb|&Z%|&MFfI|(!L|&o?*|&3Y|&_P|(; 2T|&)b|(zt|&n%
|)1?|&4R|(Sj|%zs|&rR|%~EmO|(^xk&|&bs|(@_|%~]|%lw|%|+|(7q|(|<|)@k|&pFm*|)!v|(pl|)Z&|)!C|&(h|)[A|(4s|&
Fe|()||&ID|&!y|%jt|&hg|(ng|&I,|)+!|&!?|&~q|(i!|)YY|&qj|&:h|&EH|(OG|&%Z|%m~|(*z|%|ch,|%o:|%|3k?|%io|&
H,|(0J|&2w|(bm|(V3|(ky|()k|(Io|&u@|(H;~,<~I=~(>~,p;	nZ 	`D 	`e 	nv ;|&EW|(hP|&$R|&P+|%j]|&p=|&Nl|([Z
|&!ReF|(++|&vh|(3*|%u5m)|(y:|&gb|&FgkG|&t+|&+y|&k_|(,I|&c7|),9|(Pe|&RA|&J(|&$J|(51|(zl|(!W|&s7|&;%|&
CU|(^Q|&L&|)[4|(>D|(kZ|(Gv|(6||%tj|&K%|($9|&Z~|&C!|&I&|(ym|&|]|&QY|)+?|&GCkx|(j*|&*[|&mS|&IrlO|%xo|&
Ji|&[H|)!H|(AH|%l:|(!)|&o.|(xgjg|(P%|(^e|&ZF|&70|)PY|&r:ky|(zI|&q||%l9|&|W|(_c|&NIf5|)Cw|)!0|(?o|%tu
|&+hl8|&^t|(3k|(B3i+nzmQ;	YZ!~)>	~X )<~(<~*	g8!(p~4<<~%	lk$|(U3|)J~|),Z|&yV|(xW|)Y;|&5n|(P9Z|%|,|&_f
n&|)+G|(HE|)C,|%zD|&HV|(4Z|&oZ|%yB|&8J|(OL|&QX|%tX|(V]|&Aw|(d5|&O_|%sM|&::|%l,|(?d|%ug|&J?|&r7|&;F8|
(xSI|&Yp|&GR|)AW|&4j|(P7i>|&(0|&aE|&3e|%m>|&;8|%vp|(^Y|)HI|)!G|(2z|)<||%oj|(B2|%kn|&aD|)N?|&8B|&le|(
7p|&,+|&<C|(E1|)@[|($;|%sI|(UPoD|&4M|(PT|(^!|&dOgQ|(=PiA|&PnkO|(Ey|%ne|%v8h5|(^O|&gm|)6+|)%Tgc|(rs|)
>?|(FO|%km|(K0~[<~*p<~E|%p1|(Z,|%uv|)K.|&tOkFgG|&E(|%qn|&5]|&<3|&r.g>|(3y|(c6|&cL|&4)|(xf|%xD|)3&|)A
a|(eJ|&eL|(>K|(!j|(VH|%jp|)1*|&r0|)NE|&62|&*9|&T:|)=V|(;4|%mr|(Vn|()~|(s+|)K:|(Q.h~|%vM|&X:|)3+d,>|%
zg|(C7|&Syi3|(6z|(AC|(n[|)AH|&N^|%v||([)|&c8gA|&RV|(9_|(D9|&q?|(Oz|(s>|&5P|&NE|(fw|([N|(3=|%o@f!|(4A
|(yH|&<yo1|(EB|&Y0|)44|%k?|&qe|(qf|(Jw|)>7|%k:|(z0|),<|)E1|&[+|(?x|),2|(!,|&rc|(L=!)Z Op~F|&<l|%w)|
(^E|%s.|(]d|(9N|&[X|)U!|%jx|&JQ|(Ic.|(Ov|%ja|(wo|&[Q|)HGfK|&1W|&XM|)>o|&Fa|(4g|)Dk|(D)9|%t8|&~F|(C9|
&Sv|(Bn|(OE|(,0|)FV|%if|&|f|%j$|)2a|%yz|&X2ki|(YOC|%~_|&<_|(46|)E_|&Pc|()t|(4Y|&<t|)N:|(_v|&<o|%~P|(
;2|%i^|&pA|(TV|&P[ko|&An|%sD|)%<ji|)>@|%ni|%za|&Jp|&~C|%v5|&R.|)Y^|&6J|%oG|(9(|%yF|(P2|&Ugky|&Oim6|%
o5|(&z|(r||%t)|(xt|(P+|&+q|(_x|)<d|%sj|%|@|&?&|(MJ~ep!4+#:|%n@|(D.|&rC|)1C|)NP|&%Qg;fEmw|&E0|&Su|&f
]|%ti|&LE|%u+|&0S|%wQ|&+x|(;Vfz|&D<|&LT|(J,|&O9jd|%jn|&~*|(ST|&Q)|(!!|)Du|&,J|(].|&b%m+|(=v|)HV|(@s|
&2t|&!,gc|&tu|%roln|&:||(y[|(UV|&$k|&,||&IO|&+||%|R|(Br|&I*|&:)|&S1fu|%z^|&OA|&;I|&a=|&!j|(C@|(]:|)3
.|&Co|(p>|&3deE|&QB|)%G|(VA|&,(|(Ep|%mv|&Gs|&;?|&k~|%xE|(EG|()[|&c(|(;Hg]|&Z,|%t+|%jY|(7s|&>B|(CF|(b
w|&3z|)PX|%pL|(NX~H<~<<;;pJ@A;THBGK@HS<<~)<=~,=;|)KH|&KY|&uo|&,7|&Z=|&Q~|&*o|&PwhM|&DX|)A!|&,V|&PR|&
%X|(j||(WG|)+Y|&%7|(_[|&_H|)!a|(d3|&7@|&bH|&Pq|(G;|)@z|%s=|&y2|(z8|&T2|(rz|&MZ|(PV|&~YdG|(.J|&f||(*@
|&DO|)10|&^O|&rS|&R=|%w*|((P|(SR|%m7|&5g|)2y|&~r|&s1|%wK|%iq|)CaeE|(f(|(=k|(K%|%rC|&,g|&VM|(U2|(Hu|&
q%|&e)k>|%t.o_|&d7|((q|)[>|(G>|(*<|(@[|&wS|(.K|&_1|)4.|)Ti|(?1|(_3iF|%|4|&bP|%i]|%yXgM|(<2|%yUete,g%
jm|(QQ=	Q-!>;;<;=	r2#	pM 	)X ;>	Zs )=p	VF 	oH#	?H!~(>;|(5&|(CnoD|&p8|)Bu|%vk|(0u|&!f|%na|(TP|(_]|),?
|)?*|&DNm~|&s3|&BG|&X<|(W5|)=f|&I$|&~S|(Oj|(IQ|%tA|&cg|(IT|(Zo|%iC|)+<|)42|&[b|%jz|(yd|&V4|(TF|%qQ|(
43|(%h|&;i|)+u|&xQ|%jP|&Ud|)>v|&D[|&X~|%u:|(os|&~a|%vs|(*RmL|&_~|(>A|)D&|%iS|)0t|)UL|&sa|%tS|)!J|%|B
|&PW|(,L|(aF|)C_|)^J|)=&|%lV|(R@|%tD|&|c|)B2|&>0|)HE|%zb|%kY|&v1|(.N|&gD|(<a|)KO|(3J|%u;|(5m|&r(|&b*
|%s:|)^a|(TG|%~k|(E3hS|(S5	V !	uB =?~%>;<<A!*G A~(<<?;<<<	wt!~%<<;;p<<~2=~(<~0|)BC|&,W|&Pm|)AY|&fc|
&6.|&T7|(Fw|&wO|)A^|([O|%y1|)HD|&Cl|&|w|&S=|%y3|(hQ|)TD|)ZX|(=)|)DE|)%Ngz|)ZD|&xI|(?||&F0|)AX|&Nc|)N
5|%|:|)=C|%mp|&YQ|&==6|(Pg|(hS|&nn|&Fh|(+x|&v||(PO|&>k|&QO|&:A|&w!|%yD|%j;|&S(|(3V|&P(|)*||%lFi!|&p9
|(O[|(xn|(at|(lj|(QR|).G|)>4|(FK|)Nd|(pR|(b=|&qY|)NG|(P*|&4^|)[)|(,5|(;J|(i.|)N+P|&(B|%|<|&.I|%j:|)Z
m|%x~|),&|(V[|(:0|)KR|(jF|&vx|(dk|&^4|&L?|&wm|(T~=;==<=~(<;<<??=;;>>	[A D<~&>~)=A;<;=BA<<	D$$=p;C
	|h!1	xU#~&<|(z1|([;kl|(8:|&nP|&Ga|(_i|(*q|(]Y|)>)|&mo|(:||)=*|%y>|(]V|%sa|&Bn|(|?l%|%ii|(,E|&a%li|)
3,|)Cs|($Q|&p4|(8Q|&7j|)>R|&mc|(R4|&Z_|&;R|&59l^|)@OI|%kc|(ack_|&j=|(8$|)>A|(*a|&d5|&:6|(8y|)3R|)Dv|
(J(|),X|(y||&EU|(Hm|(@z|(rw|&pa|(jv|&;H|&Bs|&dX|(8j|(PE|%sdi3nN|&6T|(PU|)Dw|(])|&SY|(9y|(g$|(@t|&t||
&Cu|&4p|(di|&|Y|&X PH|(7]|&X0|&J6|)@f|&ZE|(lM|)Y=|)=S|%|2kA|(z4|&UX|(W=~(<<>;;=>	Vf !A8!=;<~%C<~&
	o:!(	Hc!p<!TH =~%?;!>8 |&UY|(gj|&h]|(XD|(>2|&UI|)Pm|&PB|&^e|(_U|&2$|)[H|&p>|&wb|&;b|)A_|(yj|((M|&
a_|&PP|((O|%ju|&5F|&ma|&1i|&];|&C.|%wX|&L2|&^b|(86kI|((U|(B<|&Q3|&!gh6|)<[|)0Z|&6G|(OX|&nS|%id|&4K|(
Sc|&3t|%y!|(3%|)C!|&*G|&QT|(Ve|&IX|)@b|&sl|%~2|)KA|%sR|&8l|(VO|&5,|)D!|%oK|&pz|&<k|&Pj|%m)|%xe|(Wz|)
,i|&vO|(e*|&PQ|&CN|(=^|&V@f@|&H!|&6C|)37|)Y9|&<n|&R,|(T>|&:T|&%?|)>[=|&rp|&J.|&ap|()y|%tU|&:X|(Y$~3
	Qp =~&=~(=<>>~&=;<<<~(==>~%<?>B<;<p!)k !PV#' |&Pr|&ps|((I|&OK|)<k|(Od|(Vg|&r<|%sk|&E4|&4I|%vz|&H
C|&4H|&[z|(hR|(4;|&Q_f6|(J=|(yW|&!c|&ke|)Y?|&mF|(g*|%|~|%pB|&p7|&%;|)$j|(&q|&BD|&HF|(0!|&PVlA|((:|&F
u|&u+fw|&W6|&xC|(7wowdPe$|%uGo4|%it|&Cz|&YM|(T!l%|&O||%~V|%uK|&~E|(o<|)%0|&pv|%~H|(V*|&.y|(pN|)!^|)B
$|)2Z|%m4|&p,|&&3|(7en<|&P1|(!;ef|&FH|(dB|&dk|(<r|(GD|(XP|&^C|)Yk|&RF|(=O|&,B|(;[|)DL|&OWjX|%vV|(.~|
&mk|(Zj~%>>~%=	sz!<=>=~%>;=<<;>E6 !Kg!A@=;=??~%!_m#p<<~&D;<=<;=<;>~,=;><<?><|&%5|(W;|(4Nlz|%x^|(4
~|%qt|&<p|(wu|(Fk|%or|((5|)NXdg|&wB|(2%|(?^|&Ui|(:C|&Q0|)HP|)!4|&!<|(TT|%is|&,=|(]Mm;|&CM|%tg|(2<|(x
x|&=$|&,4|&q:|)HF|&6s|(<%|)P[|),L|(I8|%u||&O.|)=b|%k;|(_0lWhXlE|&.R|&^n|&+)|&[P|&rO|(z9|&]l|&z< W|&
kx|&bO|&NM|&5;|%hy|%t<|&wF|&ab|&oy|%sC|&dZ|&3s|&lN|(3W|&?<|(Vd|)]m|&Ye|(?=3|)NR|)$)|&=Z|%j%kv|%|T|&4
!|(;U|&):|&nQ|)+~|&E3|&ogk7|(x^|&Rq|(^	%O!<~&?<~&>?H~)=;>~)	9) !@D!<<~)?;;p;@@=	e|%	/j$>	]/#|&IL|&r
!|((e|&OD|)<Ij^|%xi|)+y|(Ew|%kT|(z,|%jH|)[B n<|%ur|&xG|).q|&r,|(z<|&0:|&?~|&k]jO|&a8|%~)|(WQd]|&1o|
(e8|&El|&P)|&i+|)>J|&XS|&Ib|&cI|(:E|%iun!|&Am|)EV|&V7|(S&|&>r|%nE|(C,|%u(|(]X|%i3|&Hb|(B||)<c|%n)fy|
(A1|(.||%w^|([d|&V^|(@^|&;a|&ok|)Dg|)+1|&na|%oa|%yN|&tD|&VYnz|&no|&JL|)H6|(yT|&Cb|(0*|(Bog||%i7|)0j|
(.H|&o(|&*W|)2X|&pX|)$?|%x_|(iu|&^(|)(f|&<w|)N2|&ta|(aC;>~&=;	WM!~%@	t(!~(@~*,%*!Je ~&<?~%<<!Y<!=
<<;|%zP|&6c|)^Q|)$W|%z5|&+0|)Hh|&_!|)3S|&p]|%s5|(4h|&Q$|()E|%u[k6|(Q5|&~)|(6(|%yC|)Yf|&gG|(<d|)C%|(p
3|(RJ|(!zk_|%sV|&ac|(2(|&2e|&WN|&*4|(x[|)K6|&ON|(O~|&K)|(!.|&2m|%k63|&GS|)FP|%kr|(xV|%u!|&4a|(OP|&O2
|%kB|&Ys|&NA|(^7neek|(l;|(%*|&vK|&;;|(Oy|%sf|&SS|&ad|(U0|(^8|(mp|%r4|&:Qd*|)+i|%j=|&oE|%s2|(q(|)*~|)
A@|(eK|(0N|)=xl]|&s:|(]9|&Ec|&Ut|&qP|(b%|(Wm|)U1|&12|)!f|%i%|%z;|(c%~&<~%>=<~*	*%!~1	o.!;<2#!j#!p~
(<=;<=~&!Ht#;;|%l>|&XD|&c5|&&O|%iF|&TI|)N[|&OI|&8C|(0O|(Zr|&s=|&e%|%q_|(_8|(;K|&^z|%u]|&p*|(OV|%q2|
&%6|($K|(ER|&[4|(,f|(]?|&_*|&=I|%uC|($l|(nq|)@Qk<|&VP|)!l|(X[|&%U|&o=|&N~|(Q&|&1h|%lD|&$n|)!X|&[,|%i
&|&<G|(pM|&d1|&R+|(AX|(!&|([6|%wu|)Fa|&<>|&!e|)0n|(Ot|&47|)!S|(iv|(Ya;|)!q|&T||&<1|&L,|&rt|(?3|(xr|(
<)|(2||%~K|%lX|)(b|&t0|&6K|(Ol|(?S|&or|&:zfO|(2b|(Ug|&L)|&tV|&2q|(2g@|((b|%xm|(PC|(dY~+<	F_ 	.i!~+=~
,B	&  ~.p6#	%Y!+<	tV ;;|(8IiU|%v7|(V,|&+K|&B7|&3[|(*2|&YI|&uk|(y4|&<g|(hu|%xg|(;<|&Q2|&Z+|%k5|)II|(
i+|&:w|(xz|%zn|(;)|%mJ|&=!|)N7|&5K|&E?|(?.|&2l|%i5|&b8|%jU|&Px|(uD|).&|%w8|&Zh|&&Xkc|),e|%kJl4|)4+|)
K0|&nL|&B1|&Hv|&;!|(rx|(y2|&Wn|&O&|)KV|&:akH|&Ri|&$Tez|(5o|%sJ|(e+|&a0m8|&ls|&Or|)+I|%zN|(Yg|&sg|(4)
|%j0|)!W|&:G|(%7|(f[|&[ujp|(Qo|(jX|)[=j||&=6|&^i|),Q|&bJgu|&N@|(Cy|&1Y|&D;|&XQ|&ws|(f,!p+ .=~)<;
	*8 ~(<<~)#!&=;p<<~(!bb!3|&I1|%uZ|(S_|&U4|(nv|(2q|&B4|&bL|&Q%|)D.|%zF|(()|(y_|&ns|(9T|(AY|%|S|(:J|
)H9|(Yq|(yQ|(<I|&^L|&~X|&Y;fb|&(^|&HN|(@c|%zt|%i<|&ld|(U+|&<$|&&alv|%lZ<|)K2|&Ay|&_c|(T4|&H3|)HA|),d
|&:d|(xpja|&TQ|(ZV|&Vk|&&||([z|)2t|%nM|(Jp|).)|(IB|%ql|&0~|&vD|&;A|(y!|(U(|)30|(cG|(F9|(i(|)BH>|(P5|
)O?|(=+|&=Y|(BM|).N|)Bf|(?T|&:0|&R>|(DW|(d$|&d<|&$*|(P||(.U|(Jr|)=i|&Nu|&0w|%kK|&:Z|&4NfU|(gP!Ax#.<
~%<~4<<~23!%p~1@; 	jx#*|(+]|&QR|)&Ui?|(Uw|(]%|&P5|%zl|&q,|)2m|&3T|&H2|&oX|&+w|&U(|)!3|(5t|&w&|&,,|
&ih|(57|&xX|(z5iV|&,9|&n*|(oA|(=R|&S*|%zu|&~D|&oL|&1*|&Ta|&0)|&dq|(XC|&$6|(I||%o9|)(q|&sb|)$S|(!+|&R
p|&s.mb|(P6|(aY|&c$|),f|&sn|)B3|(xZ|&4*|((i|(g;|(X!|(4X|(u;|&d>|%uy|)&*|)=y|&SZ|)HW|)&N|&%M|%lu|&^7|
&)c|&J]|&s&|%uh|&<x|&3S|&t:|&1?|(2x!|&IH|(YigW|&QE|&_D|),C|(9+|)%Rgh|)=$|&BE|%yTkz|&~Z|(hq<;<~)E~)?~
&<<!u^ ?<;>;>;	%J#=>;?;<;;=<p!3z$=@;-!	t>!~%=<|&o%|&E$|%p%dw|&D2|&Qp|(ZE|).!|&c4|)3!|(:Q|%|1|)=B|
&F?|(D1|&cZ|&Q||(EI|(P.|(4y|%pC|&Ou|&3_|),r|%tr|(@el:|&+!|&Fo|),w|&rm|&=8|&+G|%|5|%rx|&u7|&*a|&S2|)H
R|(X$|(jo|(q.|),c|%|C|&=G|(Xj|&PahR|(W,|)YO|)AR|)N.H|&ei|&4~|&P]|&$f|&QJ|&!B|(j1|&q~|&6,|(2*|(oK|&lQ
|&3@|(zT|&Ea|&uj|(,C|)H<|%iW|(!9|&:e|(=6|&Qs|&[<|(73|&JR|&:tf%|%i!|(WR|&oR|(+~|%jm|&_n|(QL|&F[|&Z1mH
|&G_|&4YkN|(js<<<;>	^u!;!#	tE >;	t6!	P!!!l| p<~%?!x-%!pr!&|&AQo_|%y@|)FO|),>|&c&|&*sda|&Jh|%iY|&
x8|(PD|([rmp|&5T|%l?E|&<m|(OQ|&^d|(dr|%~C|(3@|(Ul|&%S|)Ph|%lo|&tn|(yr|&<6|&LM|%y:|(5h|&tj|(i7|&Xj|)@
d|(O_|%|b|(B&|(JX|)@U|&&^|(Ri|(24|&QQ|(jq|&s5|(C>|&ND|&Y+|%y6|&Sm|&om|&Aq|%~*|)<e|%i4 I|(yI|&<z|&Yn
|([E|&d6|%|e0|&m^hm|%j_|&Qx|%xn|(Ys|%l+kt|&,1|&N=|)Ch|&[F|((W|%wzht|&J!|(yL|&ZK|(%1|&_u|(r.|(<Fi!|&[
R|&(d|%|^|)>2|((j|(lS;;	%g!	%h#!b( &>	3L 	*G#<~,p0#	yH!=* &=|(AK|&IK|&B;|&Ig|(XE|&3?|&Je|($sh;|&v
?|&o8|((p|&il|(o]|&B]|%j(|&84|&%o|)=I|&qU|(JI|)BV|&NB|(Om|(:*|(i)|%xG|)D1|)+L|&[k|&>f|%mm|(*1|%i(|%y
w|&39|%|8|&Ra|)>9|%rl|%kN|)Ta|(OI|&!3|)!+|(nX|(Z5|)@Y|&ry|&EV|&8M|&Zw|)B!|(,JhN|%z9|(Wy|)KE|(RG|&;*|
)B4iT|(Of|(8@|%ys|)?2|)KY|(FS|(qI|&uB|%j)|(R~|(?Z|(yC|&J~|&!H|%jw|)H8|&B!|&iG|%qF|%|6|(zk|(b$|(<Q|)C
n|%uo|&!ko2|)=h|&rs|&;7|&sZ|&[5|(n%~2<~(#/`#~(	_M!~)@;==<	*V!p;!lz <!pt$	/u |&<<gu|&bZ|(U=|&%I|(D
^|&X&|&f9|%jg|&l,|(kQ|)EI|%xu|&QSmB|)0c|&Y%|(Uj|(yo|%sh|&d?|%yG|(mR|&MP|&pWj^|(z(|&=&|(fV|([X|)=t|&k
a|)+Q|&Y<|&H*iC|%nW|(nI|&ZV|(Wd|(*o|&K*|%sAkp|&,_|&F=|)0Y|(nP|)3J|&CR|&_2|&HX|&5S|%rhl,|(VJ|%x*|&oc|
)C*|($y|%l1lY|(RD|&^w|&&A|)=p|(@b|(oE|(P3|&1u|&N?|)Cj|(h]|&(?|)H:|&Fm|(xl|(cq|)2f|%zS|&Y||&Ck|(3M|&I
@|(Ki|&7U|(P:=|)*v|&%z|&:~|&J3|&YW|(+u|(o[<;;<#!d$	Oq#<=;=~&<;?;<~)==;#+*#(p#!K!>	/2!%=R#<|),l|(
6UlB|(P(|)E2|(fG|&:=|(Bl|)CR|(nD|%wD|(%$|&G0|&Yz|(y?|&<%|)N0|&Ag|&lrlN|(xar mi6|%yZ|&PE|)Y@A|%|g|%i
J|([h|((G|(iI|&?D|(n^|&sC|)C+|&!L|%jf|(xj|(!K|&!8|)@r|&~x|&t8|(7o|%iD|(;^|(jl|&>*|&E!|(s[|)H[|)@w|&|
~|&pR|&3p|&S3|(9.|(nQ|&wT|(Zs|&0Y|(%o|%y[|(;e|)C&|&$$|&FA|(!t|&;6|(yy|)NM|&ll|&3X|)YI|(A2|&_K|&OJ|%m
:|(4=|(R0|&qI|)AE|&nf|%kg|(4p|%sH|&br|&x&|)07|(Wo|&4m|(0h|(q=~+<;<~==~(<~8<p;	K0!?|&U$|&<T|).s|(C2|(
z)|&5Z|&!$|(YSnA|(r1|(SQ|&el|&(w|(T2|(&~|)41|%t,|%j&|)H4|&Rw|%i9|%zr|&^)|(WH|&3F|&sF|%hv|&2z|%xa|&Sb
|)=W|%mjh=|(ni|)HO|&3c|).e|(AF|%ka|(VB|(4+|&ol|&:udr|&F8|&e?|(i,|%o;|&Ax|%iz|(;*|%kZ|(Zz|&Oq|&ZJ|)0H
|&=Q|%k4|&FT|(Xp|).D|(U)|(4G|%jr|(p,|&KA|&mW|&GL|%ij|(7i|&v7|(y@iFk+iB|&E2|(SMiKg$|(^4j]|&*^|&mI|)F]
dg|&6!|%|D|)=]|&t(|&;G|)K,|&<h|&EE|)BM|(rR~C=D@#<^%=!/F%p#1$ :|%y?|(]E|&hn|&7J|)Z5|&Cp|(Pz|(_ek<;
gi|(kJ|),.|)!m|(7g|&FL|)HU|(<b|&ZW|&!Z|&Pp|%m,|(Xm|(4f|&D=|)C5|)%k|(jQ|%~a|&q1klf!|&I[|%w@|(2p|&CW|%
l8|&J$gn|&<Q|(2y|)0g|)=!|()R|&pLnQ|)2V|&^A|%zEjN|%ls|)4*|(yN|%zB|&CV|)+z|&sz|%jX|(7a|&fm|(hb|&KL|(YY
|%l|kV|).J|)T?|&K;|&t]1|)BB|%jR|&6]|)CP|%i+|&=W|(@Y|&:_|(yJ|(Re|(+z|&.^|([4|)0z|%|!|).S|&&7|&>o|&G$n
9|&kp|(*5|(UY|(u:hg~D<~+<~:p~?<~)|&r^|&;U|(p.|)HC|(zu|)N,|)YM|&tI|%sshq|&,x|(o0|%yp|&T&|)+K|&*l|%~%|
&+,|(+,|&u~|(Pj|),=|([~|&Ksfe|)Av|&^%|(OK|)$>ja|)<b|&>6|(IG|&^@|&J+|)@n|(Sk|%j[|)1I|%w||)A~|%re|),1|
(ew|)2l|&[7|)F_|&:*|%xA|(<*|&^~ly|&!D|&|l|&;2|)+3|%sZ|&+P|&!*|&WHnB|)!iib|(Vc|(bn|).||(J+|%ty|(gR|&a
1dl|&y7|(iQ|)(6|&)<|).*|(6v|&|dnA|)m Pt|%u<|&q;|)!E|&H?|&1t|&Lm|&^6|)!k|&O*|&&.|&td|&^g|)*t|(u2~*=~
*<~Sp~F|)=Gm>|(8r|&b>nw|%~[|%in|&~O|(x~|&U8mZ|&:]|(B~|%o[|&;l|(:Y|&mu|(u(|(I;|&pQ|(7n|&Y5|)+M|&?[gM|
(h:|&bA|%y.|&NK|(C~|&uE|(PM|&hZ|(D*|&FK|&wu|&EP|&Rm|&s<|&_9|%i$|&B?|)!.|%kL|(Ui|(6!|)BY|&Pf|&Zf|&O]|
&pO|)$&|($T|(Qf|%rj|(U,|%zh|).~|&Ox|&!o|(jH|)+O|(SV|)>%|(do|),:|&rB|(,i|&Y)|(8i|(2J|(;r|(YN|)!$|)<C|
%ms|&_z|(4U|(y$|)Cq|&Qe|)>Xll|(ce|&QW|(94|&F]|(*4|%jS|&HE|&XU|&Pz|&lJ|&Ww|(v@~G<~@p;;<~C|&BV|(4e|)13
|(xu|([F|&a)|&Wg|%|V|(jr|(;,|(UIk1|&o&|%il|(OnnW|(8<|&eG|&m%|&OE|%o^go|&+j|&Q;|&lI|)$t|%zf|&Yv|(O^|&
G^|&QNkp|(YF;|(Qk|&BKf7|%uY|&[]|(A4jW|)!1|&~0|(4r|&vu|&pN|(C3|%iL|(7d|&Gh|)<Z|(o!|(Oo|(@o|(Uh|)40|%k
ia|(Yt|%~8|&Ad|&qr|(y&|(IH|)+(|(U?|&BI|%~d|(7N|&:r|&Zu|)Ng|(,~|&be|(j3|&^k|(*p|(yUi_|),s|(DE|&~tkf|&
PM|(:G|&(X|%iZ|(bW|&b(|%vy|(io|)!7|)=_|(EH|(wM~D<~&<~>p~>G?DFCTYO|%lq|&q!|(?R|)N<|&Os|(&o|&Q1|%i2|(;
a|)*y|&V;|)!e|(Fj|&cM|&C_|(ov|&4[|&V&|&2o|()O|&eH|)>6|),_|)!c|&,3|(PP|(ye|%t>|&R%hb|%xy|&c0|(.i|(]U|
)2Y|&$l|(93|&|j|&r3|%sF|%~z|)!M|&6(|&vbfu|&:3|(J||%kI|(Hw|&vj|&:$|(Y=|&tL|&:,|)Oq|&df|)&4|&:p|(PL|&H
n|(OZ|)0r|)!||&3||&SW|(A(|)$i|%xx|&Y[|(?K|(xy|)AM|(Ok|)<x|(O$|&([|)3A|&^8|(Qg|&<7|)0*|&Za|&Al|%lr|&a
n|%p!g$|&+z|&D*t|(z@~+#1: ~*	Gy =~)=~)<~%>~)<;<;p;=# <!9|%jWhO|%rd|%i.|&E.|%xk|%i4kThV|)PI|&:C|&);
|%iG|(@Z|%i_|%x9|%ih|&3W|((&|%y=|&nM|&*]|(V6|)KW|&mg|(9s|)]2|%iUk:|)])|%j!GjP|([1|&:2|&%=kv|%k9|%y]J
@<C|)Dz|)!h|%x>lWgVBJ|)!g|%y57ep@@Y@F;FL=5|(cZ|%vK?9I=fk|(QO|%k0B@3b3D+jeiSjUjjhcjV<i^]jYC|&Wp|%l~=|
(|c~ep~F|%m(2iVEja8W24F&7jUiMjViejz<<iVOC3.HSjW^hyjai_Y9iLX(S=k$i@L+@XIjP<<KVjVid94BS>|%kR|&n~|%lzGk
:|)^h|&o,|(Hn|%s;|&B*|)[9|)KX|%sN|&3>|%wtN|(sd|%x4fU|&3C|%ry|%jl|%rz|%k%|(ntj]|%k(|(Vh|(p*|(?w|&9b|(
m]|(R_|%sz@F9|(~n~3>jW;?B@=	xm!@~+<;=~%=#<w!;p;<~1<>;#2-%=<;;|%t?iJF=|(xR@;=D;<E;B>9>i!==;>>;?<=
  ;<<=?=<	X6 7?<;;><=;! <;|%y8K|)A.?9J3M9@AEEB?@<N?DS|)0N><6M.M9=>|)%4=;=>;;=;;<>	=; @	(6 =	gt!*>;
=~&=<=<	u|!<p;><;@~&=~(<~0<;<;==|)0q2Y03L,=FM645>J>I@X6?H8DD=|%u0|&3n|%vrD;K|&!~|%wI@Tlm|(&1|(:m|&D|
|%toA|)PF|%z0|&E1|(3K|&Au|&+vk,2lYjfCFe$=8C@.;jSiZAcVicU09$?C7jb1iebWiSGiZGj[=<93icjd5C!3|)(%	VG <
	R@ )#,H!~0=;<+!~*p~0<~:|&04<((MX5jQiWjmAOBKic|)Kj|)]4|&N2|(Zy><J5XiWD=@<LG@*R<Si0Y1W;.ieE$C.aDiQj
ejN%$jQ2iPRiY@jZ&iSjfC!H;iF.joj[D;i$k[h~27k;i>iLZ26Vi]iRjqiHG3jY9|))E	)j (^ii,jv=8=;jjiCjc;!DifCif1j
b+iOjci>W@DL<?jhia+|&00|(ao+iMZiTjnViT.iIEjV,.;)iV5k7iE)kL.C9TN;*I&i?D^GP<hujdj~F=PiRP1.5bi<R5i_jv8j
O|(2S|(e9i3jqicU|)*P~E?PF@E=	Ky 	L  #]#!=p=~&<=>;=@;<>	(I!>;;<;B;><?<=|(eWibi?7k,&Z64V|(:@|(eDjUCjO
>iZBigj[%ifjZ83^%U^jNiY_$b|&E,D|&3h?|(T3|&4(?8|%x3|&<O=AB|&O(Xj[VIJ7QjZiOjkL2k;jqhKCNbi4jgiYiZjmHj]@
ieYi@T(kUhD2kX6iEJ?!T5jebifjO|),~=A;;<~(>~&=<;# 	XN @!^A / #]=#=p=~%@# #;;	*9!???;<;|&UZje;i][
@JAG8cVC|&E;lC|(2a|&EA|%y,keF!9MQ>(jmA;;<$iYj]<iEIjxLi_4+j];if*(j^jYiXO*XiP9jS;hpjWjXic>GG;<iH;4ja*I
jeiGjaiXQiZjU;!<P=jejNbhf_iONigK!|)0|;=#P&$;;	,8 #_|##N;#~8<;;p	VO .<#b2 |&$^YY;;i77jRjUjoi*jTBi
J3XiZk&i6igk5iY;iQ?jyGiMk$i+T;ieL1idjQ0G;iT;UG&|)+J|&(Eig>.^9iV<c@jQi]XiP[O1=(BjXiYG4J;CHVa=@>N0H@?@
9M|&B>D57ZD;|)2R<;C	^#!=;@;;=<@A#H3!>;>~)	XO#>	(B p~0<=?<~,<~+|&BhGJA==dO%M=@*J;2C<S$U&9@*X0GHLidTW
;_9B04ieOjeic0CjU&N%Hi[9YEHQ>|(|!|&A;Ho)>E?<=C>=F?BA|(nh|&F<|()F=>=;E8G9?PA4C<=D*J1|)4I	+h!*?V6HifN9
2GQ!AF3Y7DCF=I|(Yp|&3O|)IQ|&3NiY|)Jz>~(B=@=>	1l ;;|&CZK4EI5S6C.|)!]|&DW9DG<|(Xd|&GJ?G3jZihPiX=TA;ia=
E[V).,8V<iZj[i^k%;<9iC|)5T~R<~5p~+<~=|&IFMS>M(icI4IjyiJ0jR5%NiUk=@&HiLFHWYjQj^ieMJW[|&Ge|)Brg[<@<<;@
<?	Nq#=;;<;|%iK|((+|&NH|&ntYB%k(i^E>2iW;E<J^c>iTjr;3iciVjT0_)=i>]VI|)6c~(<~=<~Dp~F|&qy%ibj^?i:7O.W]i
]Aibj[=<iZk.iYjU<i9j[;iC>Vidl3i%8SjVi*[jWiP16jehgk2htkNjki[Wjoi%ciH;iY+YkniMidjpjui0i><P86ZiXUi;jYiX
l?ia;iX)iaj]AOjOi1iZZk1>9!4D8k%|)7p~X<~.p~E<|&yaiYL7FYG(<IjQC2X6TI|&:W>K8LM|(2w|)Na|&Tk|&;hD|(q5|&;t
|)&Q|(ve|)+nW<JC0?7G.W9AUih6CEN;1<OG;8R(D3|&]F|)0)C?@5B|&F)A9<|&<j|&!!|&=%Cg=lp=|(Rd|&EZ9>|(Zt|&En|)
PR|&=F|&4V<DV;3|)9!	Fy ~C<;;|&4njYi]+@jTi[7jNidjo;iRjQiV.[M7jO<iXL(jSci_EidbM|(V>|&8))iW=jljSiBZ<iaj
N=HibJ*>jSH9V?ClQAgeEHiY<I|)N6<;<?8=;>=<@<;=<=;;	ld |(OD<<<=;|):3~*<~[p~F|(OR=H<;;A<;>>=>?;A==;<;Uif
>;==;;>;=;=<;?<=9><~)	hi <|&CT|(3r|&Aa|(3.|)0L|(,%=W,7jV+Iic6GC9W,|)H;|(.OiZ81iWj_WUjWiF9=B88|);?~3<
~P<~%p~:G?<jUB>;@FO[>|(.b9cU58>X0KX**;@>MD;idQjQie|)FS;;|&_.AEig[jdi^i_CaIiIjY0IiY!?kESiJjXiZiBk+iHi
WaiTjP^i>.jPjRi,jdj[;jS;$Ni^ZYhlj_KiVbiT8F9i[k^iUib=ViSk%l%h_^;iT|)>8FD@?=D?@H@;<~*!_p!e_iGU0k$h]jS
k2iCci^UcidORi[i7kki6;jni6iX7P]FN(<ciXJCOi1jsi%kCjVi9jP;juh^jz4k3i)EiUk(ihi?ihjV_O9S%N|(+!U|&lj;?7H;
4G;@C|)*x<>;;<;<9<;<<=;<=>|)@3~@?MBF?==<#U,!A~%>=<A>	8  p	d^!<;?<~&<?~1=<;|)+C;;C<gY|&N>F>>=9>9B|(Y
:|(25?EJ<<|&Wll6;;TIn)ebLih|&|s|&^.gKQ7?9|(SW|&[A.$HAE0ZGBU0[W;D=|)!;;=?<=?;<;8@B>|(ry	9_ |((]jWi9CC
I;?A<<=|&Q<jPkO|)BI	(X #gh *	tw#>=;?<;?;<8#)>p	]o!=#s@ ?	:6 	7l ;|&Tvkl|(SU|&n$CD2>F<9AB=;;AB5@B|
&WmZP|((;?>iU|(hf|%u9|(UF71jO|&^B|(Uf,4<A=jV~%)id<O,D|&^H|(V.H@=3Z;ia1 M|(Vf|(zd|(W3ieH!TP>A[ib;Q&C
M;(4|&0x|&86|(X04I|&vl|(XKA]|&^_|(Xt)|)D4~+	v|#=~%<~7=.!	C2#~*p;=<#_' &#El$&|(Xkib|&kbM<D=M|)I;;
U |&mE|&Er|&mT|(sN|&Xs|)]n|&XvjOD89C<>>|&|nV4AX?1,@j^i^jn==S<jjifFiXjSiSjT<XU<+2jh,ML_Edjl%jvj||&Ns
9@?;|(?0?@=L;1AB.CI2ME?JGF|&GW9|)E]	BR #!h Sp;;=@~&<=~<|&Ho[7GiURDjpk*Ajxjt,jT@j[|(U$9|&p!k4m+|(;?<
BCH;3|&Y7|(;x&;V;;iaWifA1@aYif;iJjP1?XjW2A$O?<IA!jU?(^@M&YK4P|)^ch,<;|(89MC!H;LB1N3I=R;06QH|)Fz	7n!9
U=TH(=F?H;J?B|(3)@H77MQAD|(QSC8|(tN|(QeF7BB7|(7lR|(n6|)<@;;>9	(A 8?;;A;A9=9=;<	EV!?>~)<	H4 9=	J-#<|)
H,~(Q=>=>D?~J<;><;>;;=~&p& C|)=O<=;>;	+o >9>#bC #uV!B;8=?$)&!=+I;;==B!	)R 8>;<~+J iB|(;0?|)C1|
(@wR0BU|&?w|(AN9V0|)It	KV A<~?p~.=~1<<G?;<=>;@|(B.8T|)[?|)Kg|(Bh|(6~@?@Ed_<jt|)Y:<@~&@9?<9<;>=	zN#=>
<=;;<?=~)?6@|(4,<<D7I1J;>F$9M9N1P?88A6V%E=K(?AE+U+7>|)KL<F~.<;<~Tp~F|(5d[ic8Z$=I0H5.TK0B4O>|(Rr|(D2h
d;A@<GK4F6?@|(nj?CE<=Z_)?GS!O<FjOi^!P*jW24B&jP1EEaO|(4$|(V7|(7O<mO|(Se<<@	!u 9CiUjPH=A?QB|(r3|)H7B=n
	=l dT=;<?@;=;<;=;|(hOAR<K5<9jSib8[)D6AifPGH)Si^D18T@ibj[B;5@iXjkiFPih33jX>)J<=6TRi_AC!_D!72HBjkhrk*
;7ibJiW]WiCJSie.FjTV3jP|)Mr~6AK@>;@;>G=~)=~%>	EF 	,a!	u, p;;*$<<<~+<	Nv |(lvi=7jNig!jNjbiBC8RBigN&D
KI0HjN7ihFK@R=|(Q1F<;|(Ye|(DF=E5;K.[iaj_)*&O=&?9IEi[jb<ihjViRK=HGidJ9YP;K,)EiXa*@CCW(EK7E;>]*8MA.|)O
u$/Z#&%<~*=~%@>	r/#(p~F|(GnE6LC9|(YQ=;<ie|(nH|(Yv;;D<3=G=2;D@?<>E?C|(o+A=jxAkP|(RC<BB;<|(Hv|&X(|(I
4F9<>JD;>@?;57LK|(Zn|&]5|(RgIAJ6?=??|(JFkPjUBklj~|)[%6|)$$KJ7Zi1@fT<|)2W@8;O|)Q>	,S )2q9I3@H;,<?M3E7
>K;A=;;@9@|(z^|)ZC|)$njYTj~JgsD78DL;=>(;FihbE;ihP<ifa,QC<G<.FE@36B,R2;I;2b@@+?KD?6F<|(|)DB5M6|&Y$|(s
1B6<|)R	Dl#s@@>jwlf|)DhhhD6Q5AA9V==H|)^F=<~(<hBG<|)Bx=;K>|(:^|)CH|)6GZTkGjRk1i@l)jS|)TB==~%|(Ap|)TN
	Te ?$%v!	%V#A~%=;hA~ep;<;<=;?!SZ!G<=D?~&@;B;B;?;ih~&=	UK#=|)E:CF;<U62I<|)Nt9A|)Yt|)Ny><?9?7C;?kE8
><9?>|)IRa[c9n^<?C6J*FIA>F>|)[+;|(N5|)ZG?;=A|):;|)Zd<jd;;=9=A88??jYD=D8@;@|)UQ~ep~Fz!|~f(,A@=A<>A;>
G=<;;<=><~%=C;=<~,=p;<~%	N| ~+$4c T ,J $7g!	0' 2!>=$3O!~+<=	uQ!==!_!<	6f z!|- a#.=~Kp~)=;E
~0	1K |,nLjuVjzDz!|U~%<<;>A;	1I z$w"

/-- The cells GB 18030 adds to GBK, packed in the same layout: 0 where GBK holds, else the code
point. -/
def gb18030Code : String :=
  expandText "zoj|,.$~ep~Fz!|~fp~Fyo_~(z!M|$3H|,7!y;;z!$;;d9G*z!pmT~.fD6$slT~*gG.$3kQ~*z!3~*]!t;
q~,h7=$<jc~3z!<~2z!s~0z!6;q|!)xp|,8+~%z!@~:z!3;q;p. D|$d?i+~0@ X~1z!i~4z$$|+w]~~~+z$$~~~,':~~z(W
|,8v~&zpv|,$=ZE!)|$^)|,8~;;|$^,|$pziO|$^2=|,9+|$tOkM,|$^6E|%%zh~|,95|%(.Jkgh+|,9:;|%,ZmGkC|$^Q|,9@
i T|%=im0|$^X|%FK|$^^=;|,9J|%Gr5|$^g|%HGlwn^ih|,9Rp|%R;@j|J v|%XcjY=?;<;S6V9|,9e;|%dm6;;iQjQkB~)k
V u|,+u~~~+"

/-- The pairs of the GB 2312 rows that GB 2312 reads otherwise than GBK: each pair as one
number (first octet times 256 plus second) and the code point it stands for in GB 2312, 0 for
none. -/
def gb2312Departures : List (Nat × Nat) := [
  (0xA1A4, 0x30FB), (0xA1AA, 0x2015), (0xA2A1, 0x0000), (0xA2A2, 0x0000), (0xA2A3, 0x0000),
  (0xA2A4, 0x0000), (0xA2A5, 0x0000), (0xA2A6, 0x0000), (0xA2A7, 0x0000), (0xA2A8, 0x0000),
  (0xA2A9, 0x0000), (0xA2AA, 0x0000), (0xA6E0, 0x0000), (0xA6E1, 0x0000), (0xA6E2, 0x0000),
  (0xA6E3, 0x0000), (0xA6E4, 0x0000), (0xA6E5, 0x0000), (0xA6E6, 0x0000), (0xA6E7, 0x0000),
  (0xA6E8, 0x0000), (0xA6E9, 0x0000), (0xA6EA, 0x0000), (0xA6EB, 0x0000), (0xA6EE, 0x0000),
  (0xA6EF, 0x0000), (0xA6F0, 0x0000), (0xA6F1, 0x0000), (0xA6F2, 0x0000), (0xA6F4, 0x0000),
  (0xA6F5, 0x0000), (0xA8BB, 0x0000), (0xA8BD, 0x0000), (0xA8BE, 0x0000), (0xA8C0, 0x0000)]

/-- The runs of code points the four-octet sequences of GB 18030 stand for below U+10000: each
run as the place of its first sequence (counted in the order of the sequences from 0x81 0x30
0x81 0x30) and its first code point, packed as `unpackRows` reads them. -/
def gb18030Runs : List (Nat × Nat) :=
  (unpackRows "%!V(%JQF%%,%+8%)2%EQ<%,:%*8%$*%(2%&,%$*%$(%(0%7J%+6%5F%>Q,%&,%(0%CQ8%R4TD!+$(%BQ6%R&T,%5F%R7TJ%$
,%3B%T5Y<%$6%+Q*%$6%Q3RB%4SD%$(%TQ(XR0%%2%$*%%,%+8%.:%$*%$(%)2%RBU6%R%T*%$(%&,%2@%0<%Q:S<%(B%<Q0
%%2%R@U2%*4%$(%&,%(0%%2%%*%$(%$2%%*%)8%)2%0<%&,%)2%3D%%2%*6%KQH%&,%1>%?Q0%QNSN%WMb4%0R6%R6X6%(QL
%3Q4%&2%0>%6J!%,:%&,%%,%8Q%%EQ>%%*%Q2R@%$(%QX0Rb<%%*%&,%%,%0<%5F%%*%&,%(0%%,%&,%4D%VO_<%(6%$N%)4
%%<%:Q!%%T%%+<%%T,%)6%*R%%UJ],%+6%RCU8%U>[0%2D%%*%HQB%.:%%,%%*%RCU8%Q$R(%W(_0%RAU4%1>%d.v:%R$T(%
R2TB%4D%S;W%%U,Z8%VI^D%RCU8%g&QP,%V2]@%[.h:%RFU>%(0%Q$R(%UL[J%XKcH%:Q!%T?Y0%)2%QNSN%6H%Z;g%%Q,R8
%%*%(2%$*%:Q!%&,%<Q*%bEs<%MR(%RAU@%S<W(%QMis,%XW:ftN%$T6%$Q:%3R,%$,%)2%+6!%(2%,8%+6%6J%4D%Rd1Tv>
%QHSB%AQ4%QMSL%.:%@Q8%$(%$*%&,%*8%$*%%0%j<QW*%$L%(B%$0%$D%$0%S=[>%S&V8").toList.map fun r => (r.headD 0, r.getD 1 0)

/-- GBK, cell by cell. -/
def gbkTable : Array Nat := unpackTable gbkCode

/-- The cells GB 18030 adds to GBK, cell by cell. -/
def gb18030Additions : Array Nat := unpackTable gb18030Code

end GraphProbe.Text
