import GraphProbe.Text.PackedTable

/-!
# The Japanese character tables

JIS X 0208 is the main table of Japanese characters: 94 rows of 94 cells, a row and a cell
each named by an octet from 0x21 to 0x7E. JIS X 0212 is a supplement laid out the same way.
EUC-JP and ISO-2022-JP write a cell with these octets (EUC-JP with the high bit set, and
JIS X 0212 after 0x8F); Shift JIS folds two rows into one lead octet.

The Windows variant of Shift JIS keeps the rule of Shift JIS but departs from it in some
cells (the NEC and IBM extensions, a few symbols read otherwise), and reads the lead octets
0xF0 to 0xF9 as the private use area from U+E000. The tables are packed as `unpackTable`
reads them.
-/

namespace GraphProbe.Text

/-- JIS X 0208 packed: 94 rows of 94 cells, row by row, from row and cell 0x21. -/
def jisCode : String :=
  "|$cV;;|.&2<|$fR|.&@;>i^|$eG;|!%0|.&h|!$||.&fkxh*|$fT;hq;h5|%kR|$c[;;ls|$1[5|.&5jS|$ct|$1]|.(+|$
1n9+;=;|.&,;|$cl;|.&c<X<|$c_~,|.&1|$7Z|!%+bZ|.&C|$8S|.&B<|$8Y;i2P|$D98|!%*|$1z;lL|.)cgD|!$u;|.&)
8=>P|!$z|$CR9iA>939iV9M9E9|$2*|$cj|$6.8;<|$ckz!!|$7P=kL;5;hy9w8;|!%%|$6q<jR=z!!WkVk>fl?k))R;i(^i
[R0;vf|g(|$Dh87|$1h;|!%2s|$C;z!(|.&6~,vB~>uA~>s|$dB~yz!!H~~w|!0g~5<~)wB~5<~)z!Ajo~(!O~>z!(~)Vib~
>z!%|$@K<D>B6BJ2JBi@<F>B6FJ2JJiPI3IBiYM.MDz,C|%jh|&$<|&6,|)AQ|&!;|&KM|&Q]|&5x|).,|(bwex|(BF|&J1|
&Sm|&tf|&Y||(bhdf|)Rd|&cy|&+O|&Y+|&OO|&:tdY|(i%|)I_|(K[k+|)QP|&NI|(IB|(oh|&:b|&D:|&Q=|&[|o,|)@
,oC|&_2|%kZajkjxl%|&*q|&3ckpjS|&<6|&JhjVk2|&ZJ|&e?|&~Q|(3@[|(AF|(LQjj|(Ul|(ae|(ni|(v_|).ca|%xa|
%jaJ|&.^|(UY|)0z|(>9|%hv|&2r|&v7|).D|(B%|(^$h3|)SG|%re|%y?mv_|&*^|&6!|&EE|)I]|&t(|(V6|(e,|
)AvHjVn+|%|0ie|&:_|&~h|(Re|)+z|)CP|%y>|)Vw|(C[|%i0|(=2|(YO|&tg|&(?fh|&kY|(dr|)SS|&5g|%yz|&rO|(1y
|)?K|&(k|%j[|).W|)CZ|(^N|)Ix|%z[oR|&9]|&FL|&ZWlOm8|&nwl7j]|(0K|(7g|(BD|)GH|(]E|(na|(th|)7Q|&sF|(
4GmF|)L0|&J+|(v^|)$>|)?p|&fu|%z$|%sS|&+:mEm;|&;6|&E!mY|&S3js|&pR|&wTnLkWjmkMn<|(MP|(Zvk*|(fC|)
.noz|)V4|&1=|&YH|&oB|(2m|%ts|&3Xj^|&F[k+|&PE|&Z1|&hgl|k_|(+~|(Ri|(q[|)VEi^o3|&=||&p&|(^~|%r!|&<z
|&M>|(Xp|&cZ|((O|%iznu|%yG|&IE|&tj|(BE|)F]|%i(|%x:|%kek8iek5iM|%vpmx|&(0|&39o.lsjQ|(@s|&[km<T|&l
3n9|&|W|(,]|(@+jWkOmt|([ZjPjOkDkIia|(kk|(ue|&(P|(|[|),Gk9|)D1|(i7|%n:|&>m|&ND|((G|(3*|(Y8lT|(jV|
(|u|)C+|)J%l>|%k@jw|(s>|&*[n>kQ|&E)lnjgk;iIn@jjl:|&Wq|)PX|&[H|&d?|&rb|&|]|(3=mc|(Kp|([N|(mR|)?Gm
(|(|P|%tklI|&3@|&!,|&;5n5|&LE|&fi|&sC|(=*|(cx|(n[|(tz|)9c|)N||&rU|)Kj|(j1|&,x|&b8|(j!|)4s|%vQ|&
)Y|%|&|&DX|&PloU|&bw6|&mM|(+c|(=Yo,|(rJj_|)!vnloi|)?alolQ|&:=mv|&fd|)Gc;|&R~|(Dn|&hhj~d[|)R~|&xJ
|%v@|&%p|&IL|&Pw|&q|lHlF|(b[|(pl|)*O|%i3|)SQ|%zr|&eUmF|)EB|&be|%s&|(Cf|(c^|)4?o+|&)+|)VA|&b[|(
]YmS|(IH|%u)|([p|(2*|%jHm*|%so|&;T|%u+lJI|&B(|&%m|&0So9nzFjk|&CLA|&J(kMjlk*|&SgnY|&aakSkz|&k~Om)
|&wdkFi&|(1Kk9oHjN|(DKkukQoEmvl6l&oFma|(rem@o]|)0;|);cmk8Kl?n@n$|(Ym|%iW|%|P|&>;m;|(,C|(6>ln|&>*
|(S<|(~k|)C&myjk>|%kxG|%y@|&%olHnfmvo?l7lHnNkCmw|&Sz|&^tenEmfo&3no|&Ba|&mWjzk7|(3r|(?=|&::|(AK|
(JN|&GC|(r?kZ|(|il?n$jy|)ILmSmU|%jJo~kT|&4j|&:u|&Ndjy|&Vy|&kx|()9|(4+|(?<|(RO|(mT|(uol0|&S6|(_v|
)E_|%|,4n~|&c8|&i>|(tx|(;r|&_X|)[=|%yC|&:||(Vn|(hR|),i|%i7jSkSjr|%zDk?|&;0|&ECm9|&X2ok|&o(jVkB|&
|f|(.H|(Bnj_k)|(Jjiak9|&Yu|((I|%z5|&<tnw|&P[Hja|&ta|(h]|(t7|)%<|)7]|&wA|(@F|)Ps|%jt=;lm?mXkG|(DB
|%s>kVn0iHk.k=o>|&1W|&>f|&EiMlc[W|&QS|&X:|&i1|&pT|()[jQ|(;8|(VJGm(|(eO|)1Y|):F|)Fjn(m(|%kg|%tU|&
<Z|&[e|&fR|&<o|&^(|&fZ|(+z|&c4|(H||%q<|%w^|&+q|&B+|)85|&Y0|&kaT|(.||(?xjdnb|(Lp|([dm:|(o,l]oW|),
2|)44|%|D|)69|%j$oV|%zag~|()rl;|(;2|(]:|)(f|)L1<D|%sD|&KL|(hb|&&*|(Br|%pB|&;U|).S|)BB|%iQ|&jn|)
4J|&=&1|&Ry|(C@|&p!|)E2|)*n|(CK|($y|)BE|(H~|&bP|(Nl|&c5|)9!|%wmmP|(fW|(sp|(RJ|))+|)1C|%y5|(o7|(?
6|%n8lzm~gX|&$|oW|(..|&,_oC|&F=]lom%)jj|&S<kYmYm(oP|&tR|(3W|(B3|(JIjyjul,mG|(]djd|(i~|(sek*m(|))
^|)G,|)WS|([c|),.|)RU|%vU|&NR|&Ue|&yV|)BV|&b~|%p^|&k]n*|&x?|(Bl|(KI|(nDob|&^@|%kmml$jgm>l8jQ|&
%zn:lt|&8M|&E(|&M:jnlykP|&eVm4|((mjUkS|(;^k*|(Kt|(8T|(UP|(r;nboFoone|)9.|)B7oXo;|)Z=|%rg|%ypN|
&CUl$|&tZkF|(+ukK|(K<|(Z5|(s[lx|)Ad|%ioo:|%z_kk|&*y|&5Qng|&Awl6kM|&Nm|&X!|&a=|&u@|()k|(Io|(oe|
(UHjh|(aE|(hP|(u8|)%G|)5E|)C.nt|)],|%j_8kL|%xnm%.|&6Z|&FiOl~|&d6of|(0J|(<w|(uO@lO|)3H|%j%|)R6|
%jplTjYk;7mZ^mZTjmkojqjT7nMoEjyoXoTCjX|&Ak<JkREQWk2mclxmtjilKnhlCjil+kJl0kGm[|&oGlGjglBk?|(2zn
$odoP|(J,aMjnj||(Sh%l%<kvjcknmO|(nPO|(vynYk)|)1*l$lz|(<3|)7b|)?bk~o5nhmh|)VT|%v&jxmuK|&2T|&Q)|
&yx|(zt|)*l|)[&|%roln|%|q|&*~|(B6|)3.|)V|nD|(+3|&wI|(Wo|(2W|&H,lY|)Nk|()v|)+t|&lK|)Fn|%k?|&*okEn
*np|&IDn1|&ZF1|&btkI|&t6|(4s|(K3|(Zn|)PY|%jgl1|%zCmf|&@HkHB|&b4|&p*|(0e|(;K|(tV|)9P|(p9|&+z|&D*|
&Qa|%q*1l^|&^8|&!D|&12n.ot|&FD|&O)n!|&bx|&lZ|&tG|&|k|)4(|((p|(;_Kmp|&Xq|(K&|(a1|(or|))k|)BX|%v2|
&+P|&_3|(Qg|(|T|%t*|&+l|)A<|&0e|&fq|(U[|&!+|&?<|&.~|(=4|)Xk|%m$|%uo|%~[|&Tuoiljl^|(B~lNoI|)8>|&c
@|)Qq|(E0|%x=e@l&|&;c|&Q(o5j_|&^g|&mL|(fU|)C9|(7+|)RC|&R)|)7l|)Qo|(7]|&[4|%i%|%pf|%z<|&=I|&Jq|
&UtlM|&cC|(&&ocn)|(F9|(O$|(iB|(x5n(|)30|)I~|&Y8m!|&lt|%kJ9k7jm|%u^o;4oplv|&2ll]8j]mzl|o2jOo&jn|
&Q;|&Wg|&:3|&Y;HjQo2|&lISkg|(+4|(?>kI|(JF[L|(UIk1lo|(rFlDE7bk3oVO|)C4|)Ih|&lV|%jUl+jyo@|&:,kv|&K
~o6|&Z||&k^|&vb|&pN|((*|(1Xm>|(=bkJ|(S^co4|(c?|)+T|&o8|)ZD|&E?|(wa|)VD|(DF|))X|&:f|)CS|%hy|%zm|&
.wmcnllW|&Ig|&ukkX|(4Z|(~H|&:x|(dV|(G+|%p>|&b+|([F|&=9|(eK|(Mo|(Yc|%sh|&<1|&RG|)!q|&Y%|($[|(?3|
(Jg|(SV|(v||))(nx|(iv|)0c|%o@|%wu|&<i|&_6|&|jo6|)2YkMn5|(]9|&;D|&EcoE|%iZ|%zP|&:a|&O&|&^k|&ls|(*
+lu|(A||(Wj|)$W|)2a|)KV|%r4|%zQkf|&<*|&Ri|&hv|(LP|)Cj|&*W|%zHkm|&:pkmo(|%nf|&K3o~|&qr|(@bE|(K;m
2nW|(Y@jX|(c;|(nJmS|(xB|)(&l7m&mA[|)C,|)3T|%k5kbouo||&Fp|&NA|&ad|&o&oG|(+R|(Mw|)40l2|%zN|&3C|&;A
|&sg|(?R|(N%e<|&1R|(%7|%tt|(nW|),Q|%n@|&?&|&Z]|(:J|(D.|(Yq|)Ll|%t>|&G0|&Yz|&fT|&lr|&t2kvlJ|(8F|
(Jd|&Ag|)0*m9|)Fq|%t_j^|&Nu|&[ujp|&tY|&D;|(Lxnt|&^0|(f[jp|(vT|%vymW|&4H|&Ckm%lA|)7H|)Ax|%q,k9o
;jkckxlzk.ihld|&4=k$kOnKjyC<C|&C_@k$kc|&O^?k%l+ih|&Z>?[jqm.mKnOP|&pOlHkRjw|($&igji|(4emcn,kwk5k
]lnjWnjke|(U=|(a)l1l:|(nckimSWRYomkN|)3]l>m?km|)BYlz|%i&8Pja|%sflU|&.Lk7kk|&9N|&Bi|&JL|&W4|&_D.|
&r+|()O|(3f|(BY|(ce|(w||)3rn:|&(Xo@|)Ij|&Px|&eG|&m%|(&0|(NN|(Tuoz|(sA|)II|(kX|)+i|&<j|%lXk~iO|&$
+|&6Ko:F|&GIn^o_|&Y<kn|&e%l&|&rckJ|(2|kWn8|(?SkY|(K*|(Y6lH|(fV|(rZkc|)(blnkjo%|)Cq|%k.A|%u!|&
1IkH|&<8|(2b|&<l|(WK|(sg|),!|)Awm1|(Ds|(v)|)Fs|)2q|&*r|%yy|),z|%|_|&,U|&BT|&S2|&ns|&|x|(9T|(I,|
(S1|(nv|).Nm9o9B|)BL|(0N|)O0|&?5k3|&XQ|&a0|)$]|)CC|&RM|&_*oM|(_q|)G)ez|(pX|&xq|&UZ|&;~|%i5|&zo|(
3N|&Zh|%t<kCl%|&5S|&F]kyoh|&Wwj[l$k!|&e*gI|&lJ|&tD|((b|(2go9|(Ic|(TR|&2q|(pWkSmH+j_|).&nG|)DgA|
&Xl|(AY|(VX|)Bz|&B]|&Jemg|&Y1k@nN|(;<|(BC|(HEop|(V]|(|al4kNkO|(=H|%u(|&PdlHkpd~|(t3|(B|mf|(u^|
)CR|(Kq|(Ya|(kL|%kN|%rlozW|&:~k0NoD|&NY[|&V;|&bL[|&p]kMiM|&ac|&xGoqjU|&YW|(BwmU|(M&kAn0oOktX|(fR
|(tv|(~*mN|)0.9|)6hia|)??|)Qr|%ur|&%U|&wz|(!z|%s5|(?~|(NO|(X[|(Is|&(u|&0~|&>)|&S4|&^69|&f?|()t|(
4)9|(>XjpkZ|(I:kZ_|(g_|(t:|)AM|).o|)];|%q_nbn&P|%o(|&&!|&2ok2|(()|&:dlU|%xA|&JlJ|&R;ci7kMm9mCm7|
&Ai|&g^jV|&wU|(&%|%jS|(50m6|(C4|(J+lniH|(T^|(^HIm;jxmh|(ov|)!||),dk=|)9Q|)D.|)M%|%qF|&1m|&Lm|(Y!
|(e6|(~h|).*|%n9l+oPmS|&IK|&R%|&_B|&tm|)$i|).)|%nM|&=6|(~%|&Y[|(L>|%xx|(oE|%sC|&SM|&:.Mkr|&TB|&_
4|).j|%kK|&3DJ|&oX|(tW|&$f|&0>nd|&Jyn5|&aO|(Z3|&f:|)AR|)L.k5|%lu|&0.|&<)|(Sc|&>4nPn%knmRlg|&^7|
&q,om|(Uwl+n$|(o:|(|m|),cjT|)BG|)[K|)RH|%kX|%zl|&3Q|(Dz|)3E|)Gb|)Xj|&vtms|%xyop|&:]|&O6jnj[|&p5|
&z0|(.i|(st|);H|&yW|(vZ|(^7|%ta|(jP|%zf9|%lh|).bh*|&4?|(W,|&B*|(D6|)+w|&dk|(z?|(*<|)Sb|&hz|(uc|
%iX|%y$|&(+n2|&PNlY|&Yt|&l5|&swkK|&~D|(;6|(D;l7|(La|(T9kZ|(iz|(uF|)8l|&*boc|&Ep|&Y9lg|&ihm]|(3%|
(uz|%oE|(;,|&+X|&EKms|&[]|&oH|(5;|(Ag|(Qk|(YG|(jr|).Q|)Ku|(Fm|(3M|(DEk&|(cq|),s|(A4k~|(^5|&8d|(9
3|%iLlA|&:r|&Gh|&PF|&Zuo2|&q!|(ho|(o!oA|)2[ny|)L;|&hR|&zi|(*p|(];nB|(|d|%hw|%rjkV|&%]|&;y|
&BEWjvkf[j]jq|&M~mF|&].kL|&xY|((@|(3)|(9+|(TrlAjg|(k||(urW|)$9k?|)6S|)?3|)Fm|)US|%w>|&R6|(8<|&^M
|&or|(,i|(|x|)9j|)B0|&qe|&1r|&eHl:|),_|)9T|(4y|).!|&1,|&b;|&S>|&h6|%le|&wn|&ah|)+s|(e$|(LX|)8e|
&e||&x[|&,=na|&9X|(J~|(&o|%|.|)4F|)Wz|%jyktm5SoK|(|Q|%|o|&0M|&:s|&BLkIRjrjNn?|&P>kVki|&d>|&o%|(=
!m,kN|(M.|(ZE|(s^lb|)&NoLkxkFl$|)]&|&pz|&U8k[kf|&w4|(6x|(Di|).w|):6|&vO|&!o|&G?|&V.|)*Xks|)5R|
%sE|&1?l:|&=+|&Cs|&t:|(O4|(2d|(|q|))B|)Gq|&~P|%l=|&mQ|&yG|(2x|)Ce|%rr|%|5|&0_]n$|&=8|&Fo|&XzoB|
&tb|(6o|(a4|(~K|),wlg|)8]|(;pO|%vz|&D)|&+G|&4I|&HC|%o3mqjz[jY|&$6|&1%>m!|&:nn3kh|&JCoVnl|&_TlNkJ
^|(7v|&snkjgQ|&|[n)|&F,|(4v|(?noOE8nVkn|%uS|(bem+kL|(skltmkoFosF|);&|)B3o4|)MF|)@?|%qD|%wNm_|&0)
|&<;|&M.|&V&|&q]|(:Q|(D1|(VF|(aY|).a|)6>|&>e|)Uw|%xe|&FtV|&s0|((i|(9V|(@a|(G1|&mf|(*0|(u_|&b<|
&iG|%tr|(By|&ep|&<y|)Uf|(]?|&;G|)2V|&za|&)J|&=G|&JN|&XG|&ov|(zd|).M|)G$|%|x|&]T|)4r|&3t|)0Z|%sR|
%in|%td|(fE|(vl|&|D|&RY|)8Z|&fG|)Kv|(MS|(3j|%y!|&fE|))?|)CK|&oE|%jV|&<k|&E@|),J|%x!|(~.|(U0|(i!|
&E.|&Ys|%j=|%s2|&4W|&<n|)FW|%kr|&4a|&GS|(u>|&yy|(@Pi+|&;k|(bs|(*qeU|&CNnS|&RZmF|(%[|(I;|%id|&E*|
%il|&.Zf@|&J0|&yY|(J[|(VOj]k^|)+j|(rG|(iQ|&Az|&Oj|&V8|(r7|&_Z|&pwk+|(0!|(<%|&6s|(Qr|([V|)Kn|%nk|
&DH|&Phl1oB|&_R|(7b|((:|(Uu%|)*4|)2Z|%o,|&.y|&7j|&ckll|($Qnm|(|l|&2s|(~>|)B$|),~|(l+|(A.d$|(b&|
%lO|%v3ls|&PV|&a^|&p^|(6q|(F6m%|(Z4|(f0|),L|&]l|&wb|(&I|(Ml|(_U|)L*|)Zm|%tw|(FS|(<h|(FZ|(U,|(E?|
&j||&C;|(U3|(3BI|%s8|)5r|&ux|(6n|)3O|)OV|%l0|(Qm|&O~|(EF|)?c|)UW|&)Lo]|(j<|)B||%lT|%uGmMkTH|&B5|
&Tcn7om|&o!J|((6k8mgn9|(N;|(Z(|(g@|(|]|(Fh|)4&|($V|)G!lY|&Qs|&[K|(3[nLok|(eDo%|%xNclQ|&4X|&Cclsm
^nkjVjX|&Xs|&mhlv|(4Nlzobmp|(Lqo&mU|(oZ|(ul|(|p|)06|)DsnO|&hF|(H0|%pg|&<m|&G4|&_l|&ml|(.~|(8Q|(R
4|)]V|&aX|(Ad|%x^|(4$|)OY|&FA|(XE|(aF|(U?|&EnkZ|(3S|(E=|).H|&cK|&5ml*|(J_|(6r|(w3|%nm|&FE|&hT|
&nv|&wB|(2%|(?^|(nnol|(|*|&Df|&SY|(4c|(@t|(])|)87iE|(cG|(jE|)SE|&!<|&FG|&Xo|&rE|&zV|(|ZjR|)GO|&X
0|(2<|%i*lG|&._mtmdn8|%sw|&B2klnL|&OT|&XXjVlC|&rW|(&||(Dt|(WMjrm!|(wemmjnka|)A,jN|%m||&V6|&lM|
(Ys|(bcm0|)1J|&<,|&f8|)Hi|(b~lY|%l.|%v=|&G.em|&^E|(@.|(Wx|(pckP|&t4|&EG|&O3|&pK|%kD|((W|)QT|%u&|
%|b|&)F|&22|&M*lF|(!]|&4C|(I*k!je|)CX|&Xj|(TZ|%i8n,|%sB|&0k|&C=Jkj|&aR|%iE|(e>|)?ElN|(Hm|)Fl|%qt
|&2@|(6H|(=F|%uH|(:C|(di|(F%|%or|&33|((5|(Fk|(M7|)+rTkJ|%n5|%wB|&6T|&E1|)Em|%nS|(Yl|)7N|&+)|&R4|
&lP|(2s|(p6|))v|(B8|%wX|&1i|&L2l1|&];|&ma|(H7|(a>|%oDiP|%x&mj|&0Zm?|&:vm~9jbn?|&P:l2oTkLm||&pjF|
(!;|(<!|(M~|(V0oRn)l]|(jZ|(pnm?|(zR|)0^|)76|)Ii|)UckJ|%ipjzokoF|&+t|&5%|&Bnno;|&Nt|&]Ak8l1m&|%sa
|(Jq|(UQl~|(v]n_jY|)67|)AD|%|E|)G@|%x;|%qL|%y)|&2$|&V=|&^n|((U|(9Y|(B<|)4I|%w<|&p4fa|&0&|&C!|&4&
|&^f|(SL|%tY|(7e|&UI|(>2|)Pm|)[)|&.Iom|&Z_nE|&mb|&!f|&gk|&C.|(XD|&_z|)Qn|&b7|)Sl|&cA|%jrmf|%zB|
&PB|&^e|&p>|)+~|%mz|(Ni|)[.|%i!|&L?|&ull$|(dk|%~C|&^d|)P]|&Ay|(F7|&>.g?|(jv|&u4|(d$|(Aa|(VZ|&4p|
(I0|&nN|(8j|%wR|&3L|(!emg|(:||)D:|)V~|&eE|&7Uhk|%st|%|2kA|&ZE|(8$|),X|)6Q|)Ud|&5l|((K|&vZ|%rq|
&dX|(LejS|)Dw|)[(|&UX|&h]|(]V|&4YoX|&mo|(*a|(8:|(LV|(Sj|(cD|%rT|&^b|)[I|(86|&_E|%wz|)Iq|&<Q|&Np|
(Hx|(|e|&$w|&J=|(JY|)?<|%w~|%j&|%t,|&3F|((%|(T2|)41|&EU|(;)|%yS|&FT|(JR|(fX|(t9|)(B|)Dk|&b*|(fZ|
);e|&K;9|&pL|(6D|(vI|)*C|&$U|%lsoVnqm)|&;$|&CW|&J$l_|&Sb|&^AlM|&uQgJ|(*~;oy|(?E|(p.o@|).Vjok5|)C
*|(l;|&3?|%jRlMf.|(u:|)*J|)F||%p||&CV|&4m|&;;|&D=|&SfZlC|&]k|&f.ka|&qIo%|(%*|(2p|(CP|(R0kG|(bIkQ
|(r1nt|)%k|).s|)B:|)Iv|&L[m:|&kpmzlo|(RtjV|&sT|(R)|(ljmg|&_H|(_[|)GPf5|&qY|(KZ|(b=|)2y|%j;|%yD|&
@&|&k@|&z*|(f|k1|(rW|%uLoe|&==|&_1n*|(.KkNn1|(p&L|)4.|)CJhh|&Fh|(+x|(Cn|(bN|&S(|(3V|%vW|&r(n+|(
.Nmy|(<a|(I5|)BC|(D%|)^S|%n*|&LK|&YQ|(h_|%jPjN|%qQ|%i@|%tD|&;r|&X~|&cg|&sP|(*e|(64n=|(Ai|(J5|(Zo
|(v,|)03m~|)B2nw|%vk|(Lw|%oL|%yi|&_~|&sa|(%j|(.z|(Y;|)*5|)Bb|)Sq|)Zf|(0P|&0l|&s+|(K%|)Gt|%kYjzk!
|%t.lx|&A>|&HM|(,L|(?1|(]$|)5B|)BvjgN|)Z]lG|&]3|&l[|%u:k^|&~a|(os|&DNnTmn|&we|($6|(H6o3|(Tm|(dD|
)..|)8;|%|i|)Q1|&jf|&|w|(|wmT|)DE|%w+|&6n|&DOjb|&^O|&fcR|&rSny|((Pkm|(G:|(SRkN|(kN|)10|%s:|)ZX|(
?||(U2|)8A|(v2|%oN|%~]|(ty|&lQ|(|y|(VY|&JX|&a,|)Xc|%je9|)S%|(ts|(fohy|&e:|&uj|(=6|(WRz!F|&E<|%i.
?OA?@==N<jP=|(zu|%jT|(Yg|&E=|%jXJ;;<H==R91<6OAI*RLjyiQjQ<4(jULACi_%A[iYQJnTf6E&D=0C0N;j[H!P5i[g
<lVjQB=iM)].je>|&^;|%ox52L6PFBTihjU8Q;ifINBAB0EE6N2;N99@AS7?9>;L4BH|(DD|%s6;>L<|&*U|%sY7@<<<;H<
6A;;B8;8?BB>L?|(hW|%tc>=?C@AC4S=>?@P.A;L0PD.DF8JA8iZQC|)+_9|%v~;I3FFDA?=|)IW|%wYM<=;G<|(3&|%x1=9
@?CF<<?B@9|%i6|%xo>eXnZE?|&3B|%yJ6END@9C<@G|(Ga|)CA|%zY|&^4|(&1|%zj4?GAjd=!;I*B+,jWjiicSiLL@3]if
?0HF0jiiVP$AR>i[=Qi^T8VG;jO?if)9Giek%A^ifi^jTifK;i]5jPjdidgTlWOiW=T@JiIAbiY[jXihTibRB(jhi_Yie
9XiYk!<|(%y|&([<6@jY3iFje8V4DP,5PCB8H4?<7B@=<>QEA9??9=<@?8f)n$DK;P$?ITk%iCiTXDDGM)@@M=H8;j
^iGGjNH>k!i(jiifa|&mR|&1!ihjdFjZicFI_iX70QH8@<9G1B5JE9<;;?B@E|&d5|&3OA;?@@|(Cu|&4(58F8D8A?7ICV|
%m&ju|&4zIN],i*jt;js4*E$KbjRiX!;jRBjV]<G15b,I=$_;K9EVhpk)FB?<5K>?;D>A=<=|&Xk|&:Q@=^LE><E6N<66A@?
@7L<;?@G<@J;B?B?79gGly<|%j*|&=N=M?=|&4r|&>,J5@5H3CLJN7+krh,[D<jmi>60=H299jZ@67[A=K78Z5I<IiNc?G>@
9>?JA=PI92DU;G97HC7E=<i_jT;>|)[*|&CY[[;@B9AG47;A9A;=?<7>>@?@j~9i(@?M>ECA><i]]?;<BF@>F97E8C0Q59BB
?ITaifN3!lRgs]jgi41Sib^ig4P5ifjQZidjOGieih6APi[[iYjP9%jNFk)hnQigQ5;5Oiak$iRjN+i]gclIC&^kFiC)(;C,
@CXiU0V;ja1ig9^.7(BC?<jU>i];;KC50F%80]_7)aie@(AT=X89jTiL5=,K|(Qv|&MUS7M>4E89<<B;>9BA==C><<;HGJ?2
?BN@A.N;=jfi(Kjk4igNjViB|&Va|&PQN(82?iOjTjki^=j]iV@id@k*%IlKgXjo2*jQiFjS!4PPi18k!jQiR@WicC
_iIjzXiMGMJlefvKidk&BAiSlXh;8L>iZjZX2+<,WigjU0|(Y]|&Vm;|&P5|&VpFjeiE88B@7U>ifY9BC;<9<|(3<|&X&H9
2E@9O@D;|(x<|&Y$>FFF=5=B@C8A;JnSei32nJf<;8iejY.?2W9A=;1=HM?@55N?_2J.8B,X>@h.kz=A?<RABB;|)DK|&^hK
1E19IR<3D;aidjaiN%]9U5iajXj_i@j_iBj]iJjR49?FiFO2[|&j+|&bWjNi_QGibVk6hHjTDNBZ(XidC8ie|&j?d.i
6jiihTk!hN)kTiDjfiKjr>i6jQi<AM%k2iW*iNFjjiOidIja<(C8hwl.8ibV+ifjP(iFjciDViRjW79_ifjp6]&<LihJ|&;l
|&gZMiYBiakXh3I63YjPDTSiam2fk3.Xi$k>iJciRYBl)h2(jWiCk7i?jjiJU1Gi^(igk?7MiaX;,|(gp|&jLB9053jX
+HiFjVJKD|(go|&k6R>|)PH|&k[S9|(7||&kw|)IX|&l,6@AC5A><Q;@;>9DE7C@@;>=9<>?D?BFG9B6|)[,|&nEE;AC9jc
1GBREGidTi_igEY8jZjSi^igT%RiL=G6[NigKj[|(nQ|&qv.L5i]V8iZ4k%jViL0Yi[j[A|&y~|&rpkEV.i!LYiMHb*%Vig
+j[iZE)O>jgjii;ihk($iZibjpi;jsiRiM_1NiQlWgCUjrjN%jW%Vig*O%];i5PWiXkuiKmdeqF@jii,jgi9jkhlkCiPiakb
,8C9&!kkhJO4iWj]=jWhvju(8=OGiaj[0Qie>S7$jT<&Q(H&W9h(k~5AKH,YLj]3Wjji6F55jW!L6jV,Y7jt(jYiY6igDP^k
=hYKM>jQi^?N1E4LF5HA7@H=EG?9><C;=;@?GVD>9@E>F?L3K=8D>J8;R8|%o0|(*[+L4AQ546SJ;|)[H|(+FM8BB7@
9jvihU$?aC(l@h3k;i1iNjbBUigZ4ieUGA+AFBGMC^??gBlm=><?>8;A9G9<A<9B8EB@JBC79LihNI5=><E8J;$P93L@=B8Y
)J*B5>.V7BAD5Z;7?&D2;R<6PB3;;<J6EF;8P6C;@;;7?><><>>=?==B7@;P>>;;BEC6F=><=|(h1|(8CG97a54A;.V;IMH=
(DT95O7@I8L@=@7;8F@D=<AEHJ@m;fvm1g@jqicL0X*QL.?].?Cig8C?]5+^1ME9BM9OZ1B558c?EMD|)]h|(@J>?@;IFL?.
<a?E;A9h1l+D=3FN*R;A|)^e|(BhC>EI8=8MYie@I95|)0:|(Cj==<@8@;=>;>A=LG56jSib;?Q+HTjPhZjqi9ji3jV(I+C;
5<jU5A%I8)A7iIjdjX0E=ibLQFjN=iM9kLhrAFi[>Z0ifjS>=.R,LI1K5)JBA?*IACHGNC.C0AE997E>=?7P4D@|)PR|(J==
<<>F6T3.jc@i_>G0KjSi_2_0@i]NjV0iMjZ%XY,.LL0%keh5GjSiWidKjN?A4W1&_?S8)Y%ig<Q_ZiP4>D,5BjS03B5;Y)9M
9Bgyk||)+f|(N|C;=@8=;<2G;ko<EA;;<;>9>A;B;8KD>7?9?BD97CF=A.B<|(wz|(Rm;>E9G?=D@|)IF|(SW8AA@;=?AQ6I
6F@<?=@E98@=><?<9P2AM|%s^|(USjUD,>idP6jYic<jPH4FV|)BH|(WC2O8i!kF71;HI?<0<X.I9i7jZPA?C4?=<2I>>B9
(L?;AM;==;=<===@M<G5GS9?7??8@<;i>jk@;@I?S,V)j[<6+]9Aklh@28ibjNiQjSiKk+9i^V9I3Q.ig6!;k>OJ.=,h^k<3
=*jai9<jQifYjtYiSi_jU@iPjYi1j]JiTLUO8hokLlJfqkCi8LmEgO+,jji<NidiXicjkDi7khhjk%@i[jb,%Y0)?JiFkQiY
.^;N+09iejl^.(3l=gpDjQ_iaC3Xi@cAjwhoOiVALja)OigQ?BB1WKC2+6FV2PIH|%iv|(hVEBD]J@;i];jP3O<igSn
*eWjODE=+6N^,<2=2P2>!KjPE2>ig>)jn9SiO<bi_K@ih4JAknho7i_jSV*=J|)C>|(lYS&N9.jZ=%jU8)2;Qi?jg?9G9J?=
%NC8JA?>CP7ZiRBj_i8JO5VihCihQFI*L;J>;>VC42,DLB8CjViVA?;P=15<NiLjk8B8C7??=A??<C?CB7@==B=<;T<;DG
>EM46I<BKET1,<jZ)90^7<_3(N;,C[C.RKB,7G^iG<Oid7jW5MiBj[4ACM|)Ek|(w+?MigSE=95G?9K,G=?C=F<>;==;ksA
8C><<?GDF<BA6?=;@ieV|&NP|(|b7M.;5BL3^91^7;C;?7B8=|)]k|(~si5jo<jy@><HRjO66OE60I(Y;,>SF;0X;*I^+5>P
7<=>2KE6iEja*[6D?@89A9C8=?K1E>PihGA==JBS9(MF5J7A4C=6)TGB8F76H77BC?@;;j_=>D<B^E7B?kkh=K,;Q>F!K2
.VI9>i:k%~%i7jc.R<@DAA|)Bg|)0&J5>9D9@SA<>jS<|&O!|)1=cJAS8TF<E<>D9S83ZC>5E9@@;B<?@C<4[3;jNi]ORif
6ju3%>Uiajuh~F?jt47Bi:kFig8jXbihjrigihC2CQ5@[>V*iek)6;idaW;K7+ihT+2Vj]49(>Cb.D!SAK*Q?<6F|)57|)<)
?<@iX]<=8m(?=D<<;AB9@I98?F|&z7|)@(D9C9<@?>7jgA@;MD=6jRib<9<AF4[E7<M7D;8><<;O78>|(qR|)CDjWiC_E<<E
5=8A=E@@C>;@<<4AM>><<|%wK|)E&@BF1?3F?>;FF87J;I=<=KK|)]l|)F[|(D)|)Fa9T7jR!7P@CC6Z>;;=9j^?<?H9=^<R
@C<>C6;@6F<I;>A6E5@;4Cjj;GB;H^6<53V;=;C7CH0iXj^LFH78=5Q2H6B==9?<9jk=F>I<<;D;=;=C6=@7@>EL<?=;<<~%
>;=L9F8;=AVY(H?;B;BFFD&GC<;K9<(Gk(i399a9.D34<D24jP$D97IQihN2V@AI<k@?>S9i_R=_6kZhD6aiL7jU89B<O;@$
9CSQ8_i?EZD?CL747<FC+Q4a%A<HW;=k%>>>A=;@=6FB>I*=|)Dv|)[<<;;>B<9=?=A?<;<<;;D;|(7T|)]0FELFB<I6;;?;
?8G5>YA>|&0X|&gW|).g|(0T|%tT|(%1z1z"

/-- JIS X 0212 packed, laid out as JIS X 0208. -/
def jisSupplementCode : String :=
  expandText "z$2|!,V&|!%4|!,W>|!%)|!,Y9|!$O|!0X;w|!$t?Sz!A5(9?|$4k|!$w|$4^z(,|!0Z<;;Zpi^p<WpiasW~%U
iAjd0E8ibXz!>jZ~.<;) k)#||!%BjrpPpFpI8pEh_kKpNhHz!)BjQiZj^D<?D8C<i%k*h]kYhiz!Ii>9>8jhlGgX>i<8jk<>i
6jk>i69=9jx66@p><>8>h|9=9m%h14>4F<=>8B>8h]<9>8l|hO6hYkP>8J @8hH9=9kdk8ho4B64k@>86hqh9kn8=>8vh69>8[
	!7 [8_<>iU_>iU9=9jW66@lXgM<p<>iC9=9l_ph)	!7%i!<9>8lZhO6hzk1	!7$i9=9kC	!7+X<kI=>8z(F|%hx<;A@G>;>==;;
?E;==DC<A?;E;>@HC;@LDDGD;?;;@A<<<B~%<;?=;@=;;<O=jUiN<<<<=<<@;<;@<<<A>A<<=@~%=;=;<;>;@ ;;=+ M?<<~%
5!;<;;<=D><H<D;@ ==i >;=~%>?A<<;<E;;=;><<=;;><@;<;=F ;iEjn<;<>>;e!?;<~&B?;C=!=?P >>;<p ;@<?>
>?=;w iaXA<<~%?>;>;	!Z ;CB?><<;A?<R?;A=D?><DE< =@A<;;<=@>=C>;;=D;=G;<;<D@C;=AC>F<;<<=;;?BC;;A<=?<A
<~%<<B~%B;@;K =><<>=<=<?;?>=;;<>;=<;C=A;;?<?=;<;@<I ;=<4 >D9H<@<<A;?A??>;@W >=@;>=<p!=?D=;Y!@;
HGKAA@;<?<=;H;=@<I><<;<<<;@E<	#n >;@=<?	$F @<;;>A>=;LD<=A@<~%>=;=;;AO;A=;?;;>@<;==;A<;=# S<	%' ~%=F
;C?G<<==<;<=;;>;==>AGC@=<=~(AM>=	&9 # 	%) ?DW =><<;=Iv C>;=;;A~%<;;><>AA>h 6;F=;<<=~&C4<C;D;?=<?
>?e ~%>;<<;>;C;;@;@;?J=<;=<~&<;;<<~%<=<CB=<;+ ,L;;=F?D;>=@B;@<;<>=?;<?;;>;>;iSjQ;H=h!?A@D=;<;?D<=
=;J>6 ~%<;<;><A=;;>=B;L2@@?;<<<<>=>;ADL;?;@;;|(hC|&3G><;>A;=<;C>=F;@<<;;<<B<<==5 I;<>=<B?=@~%=>=<?
| =?E;;>;=A;<;<=C>B. E?;=;<==N;<;>>?C?<<@D=;=G?====w ???;;<=<;>?<<AE<>??>A;A=;AIWib<<>>BECD;@>BD@
;G~%<=<>><;<;<L~ <;?=<>;F<A~&@I<=CIEA;>~ <<<=;^;<@;>;;>=>;?~%D;<?=E_ =>B<;?I<AE4Q=;<G?A?S2;<;D=?>
<=;=<G6B)O~%<@==C;>;<<?<B~%><>;A>?>>;D>>?8D- I;AA@?<;=A;H4D=CG?3B?<=;<D<~&<JE=N<;=a D;;A@9==;<;A<A
@Q>;;@E=;>~%>=;<<><?<<;>;<@=>>=?=;=B=Z =;E><A@;??>3B=;;AF=;;<?~&D=;@;;<~%=;=><E==@;=;<??C@<EA;;=?=<
;@>@DG;	+4!<=?;><;=B;@>=><>Z 2 <;>=G==>;??=<>~&<;<=<>B< ;;<B>;=O<F@@=;=;;<;A<8 >;<;?=<=E;=>;;F;@
A~%<;?<6A;<L<;=F<A><;><<H>?;;<@k <><BC<>A=J~%P<E=[ ?DA;>JB<B;@;@;<===<K;=B;==?~%<>C ;>=D;@;>P!<=
<==@>;>;>@<A;;H>>=@=<;;A>??<c ;J;@<<>@<<<;>;?;?B<F><~%@~%<;;<D@;A<B<B;;A;<	1C >AD;;??~%R <G;>;==?<
>><=>;;?	!: ;=>=?=C<;@><A<<E;A>I=>>?B==?===B>;;E=@;?<><<AKj ?;;>># =;A;=~%<$ <;<@8C?;><?7C;;<;>;k
mh?;;L.<D2;;<?6I;;=<A~%=;>C>;=@>;<;?><;?A>C=;<FE<A?@=><KEA<;>B;BC@<@<?@=D;<<=<;<O;;=@;;jdiB<;<=;C?<=
??D<>;k*i=?><C9?;<;;<B>?;?<C<;=J=~&=>~%@<<<H<<<?<<>;>>CD=>=;;<===;B=<~%=;>;?;;C=;@| T<<==A=>?C>B~%<
;=>;;B;>;G?><C	3U B;<<C=C?;E=C;<<<C<;<F<>?==>>B<<=>l =;><;;=;?C==A<E=<=;<<@D<;;@@>;;=C;;A=9>>>;;@;A
=?>;;D;?;=;<@;;@>=@>=;=@;?>A>=?><?=A>=<?B;>=L>>;<K!;<B	&j =D>A<=;A=@<@=<;A <A@A;;><?<;>;>E;<<=, I
<<?<<;<D;;<E;<;>=K<<H>	4a ><>A= ><J==e!F;;gflC;<B==RA: B;F@?D;<<;;L<B=<><?><>;Aw!=>@;><@>>T>?E>=
<;B;=U ~%=?;;>;?EB<J@@AA@;=<B>;;<>;<=;;V<;E<<A><<;C<<;E=;?;==?;)]<;;><;=;=;@>K;?>;=;;=<Y ?;?~%@;;?
;@C<;<J>D;A?>=;=?;;@DC=F?=<=A;>~%C;B;(P;A<A;B=>;H~&=CA?;==MA<~%<>BPC~&>;=I<E<<;;AC>;;=;?<?=<<<BKA?<?
@B;?<G;<;A?;;=A;A==;<V@<A;;D>==<?A>?>;B;;<C	:m <<<=?E @;=;=??>;?BG?;==D=@<=C;<A@H;@;=><;<><?;?;?><=
;>?;=?;<@D=6 ~%@;<<;<;<@<=>+ B<=<<;><;;M ;<B<<	!* <;==;==>>0 E;<B 	<  AC;C<<~,BA=;[ >;?@?>;S!
;H;>;;<@~%@s!	6l H =><>C;=>=?G ?><;>?@;;=AF>;C;==<;?A=>~%=>;@<<?A;<H<B~(=>E<;<>=@<J@?;;=<@<;B?=;;
=j <BA<;;=;<<==;<;=<~%?<;=>?	!B H0;<;;><D>@?;B;;<=G>A;B	;u ~)<=J>>><;<@?A@<>>;?==>@3#6 @?;;?;;=>;
>=;>=*!?<;;<<==<><;;@==>B;A;;>?=?=>;<>C?@B;=>?;;><><>;=>=DW =F>;;D;<?<F;=< D<<	$M F>F??>C6;;?>>;=
~%B<<B;;=<>;<;H1>8 B;G0W A@X!;?<<>>=;@<	9t!<=>=;E<<AA<;<G;?<~%<=;?A;<;!A<=;<??<>=;<<=?;<>A>@;><;
<?>@==@><<;>;=;;D;<;>C;==;<;?<==B=@<<	.Q =D<=CA<><;D==<=DGC =A<;CGE>><;;<~&=C<;;@AAE	7n =;>G??<;??=
<?A=;1 ~%?==<D<;<;;G<B<;=;;<<=~%<=4 D<??;<>?<M F>E6;;@~(=<><>;<<A=;C;B?D<@D@Y =?=;;><>d ;=C=<DH
>;;@<;;=A;?=>=>E;;<;@;?><><;<;B<=@B	)7 	?7!?;@;B] ;<C~&@;;C<ci^=;>;<>>;=;HB;><?;=A2!=C?;<A<<@A<;=@
=;>?@=?;==>>=<=;kq9<;;>;=B=;B;;><~%A>F~%E<<;;?;??;>>=AB=;=?@;F>><=><M!;B	(S <;<A~%><@<<>;	B' >V><A>
>FA@H<B;>G;I?	$: BGB ==;>?BE;;><<>=?>??<C<=<@?C;@5 BDI,;;?=B<==>F><AJ2<?>;@<>] A;>;;	+W ;=F>;?;=>
;@D<@C~%?=;<?@>=>@AA	B8 =<;>==<<<;?. ~%><<<1 ;AD??@<<><=<A;@;<$!jqiBX!D;;<=>=W ;=@;=>;;SB?<;<<<
A?<;=;<;;C;<=L;;A<@;;=ChFkh<F<;=??>?<>>hfkSDF<;	.-%>>;<=@=;	6, G;<CB<;;?4$?;>=>CE=?~%?jciC;2 ?<<F<
>~%	HT!CAC~&===~)<A>D;;<<	G0 =>??<;<=<G<;;>~%=?=;=iZjQ<?;@<?@=@=;>;B;<;	;n @<G<<<;=<>F;=~%>=~&?==@;;
=M>?<<<??;;?><;Q#;<<F;=<=<>=<<hskC<;A;<>=;;=;??;<<?@;<;A	KA <BE?>=;D<;CB~)<;>=<	#P >?;;=>C;<A;;>A
	CH ;;@;<><?<?<.!?C3;	)2!Cz =:#~%==>;	HX ?BB<?R<;;=;B<J=;<D~&=;;B=CB[ D?Av d >@;;B	/0 Z =@=?=
;;?L <=<?~%F>=>;@;=;?E>~%?R~&G><<><==><?;<B<;<;C<<<<?;=@<@	H` >;g >;>><H;;<;;	1G >;<>;<@B<?	0C ?=<
;;A<;;<@<G>>;;@=@;?@E<;ih^=A?@~&<D;;?,K?DC<;=<=	/A T kl;>;A<<<><<;=;=<6D;<<;>@<;?=B;>?<;@<;BO;E;=<>
A9>>>A>=;<=<;@;<<@C?>jr>=<K=<>?=;>C;;@?	Oe!??~%<>==;<<E;<?>iGj[;<C>=;;?@=<D~%=;D<=~%	%z ;?A2 A=;<;;
B;;A;@A<=?;<;>?<>;?<?	*F B<=BF@<;@<;+M<?H ;- 	Al ;@~%=@;<>B<~&=?;Aj_=;=;;I;<@<	AH!;<E=;>@=>;?=><>>
F=G;@5<;@;=B>;BI<?>;?>>?F==;<<?	QG ;=E) AI*?;;<;G	5] @$_.>;>D;;>F =>D <<<?7;><?;<	OS ;@>;A>	4r!@A
?;;@<<;>>=f @=?<>;;	<:!<=;<H;=<;>@;>;<~(@<<<=;=~%<;<><;=<>;@~%<@;E 	!4 	SE ;;<A;=	@!!?;;?~&<	:]!;>
?<p!;=>=><<~%<~&<~%w =	S5 k#;><<C<>;<@?>=;A? ;<<;C;<;J;;A	!: >@4 =	2: >=<~%@<;<<= !*!C;;>&R=~
%<~&@@=<;=>;L8O!# >;;@;;BI;<~%A>8@<=<<C>==<<?w#L9ls;?@>>;;I;;6!B<>=<A<;<?~%@	0) j^;><;;@?<>~%<;>
K<<;;CG@A;<| ?B?>=<?;;=?;>AJB|&A6|)C@<=;;D@<CB;<>K;<>;;?C<H<A>;@<;<;B>=	VL <<;CF	FW =D<=	$4#;	$# 
	1d =;;>;<5@=E<==;<G=I,;@<@<<==?=B <(S@==A;_!Bn <jg<;<>=, ===>O<<;;=C=F?;C>	+w!>;>@~&>~%>;?;;?;@
	Y:!jc<<AD;;=>;=<>@D;?;<<C=	Hh#>;;A;>;?Bt!@;?<;<I4=@;;<==<Aju	%m!	Ep =<@<<	-=!/ @	Wb ~)=;	DK =<;>@
?<@	82 E=;C;	4A ;<<~&?<<;;@;>	KC K =;B;<=>;	FN ;<@;@<A;?<@	WO ~%=<;<C><?Q!>;=~&A>;;@><	U# 	>z - @
;*I7@- >k<F?<L1I@A K;<;;@<C2?;>=C;E>9=>;;?< <?;<>=) ~%CC<<=>>==>><;D~%E!<p =;DF2?A<;	)~ k,	8| 
<A;A<==@>>:!;K<=DD?=?;	^7 A=;@@~%	&P >=>>;><	+o#<<~&F	>  D;>~&<<?=LL!A=;;<z8~"

/-- The cells in which the Windows variant of Shift JIS departs from its rule, packed: 60 lead
octets (0x81 to 0x9F, then 0xE0 to 0xFC) of 189 cells (second octet 0x40 to 0xFC); a cell holds
0 where the rule holds, 1 where the pair stands for nothing, else the code point. -/
def windowsJisCode : String :=
  expandText "z!;|.(.|$7oz!5|.&3z!.lO;z!R;z1W|$>U~8|$5R~,p|$mMiFHjQiFIiWjYU@i1S7BY)k2;;(;j[iXwiUp|$c
u<|$4^|$o$|$4j|$kR~&hY;Amn99|$8EIiE=i_Ck]hK9kshF,;z|=|(O.|(px|)8Wgg|(d2|%n?|&~R|&Zj|&dW|)7^|&^3|&Ew|
%iGl5U>=j]Wjd2J4jakDi^iXYjNjPiMjzk1iakCTja[jTjOkXDTUaAWjv[YjQ|,q.|%~n%Yk$kXoPFjoV9|,q0p;|&1tNk(jpB<@
jiPnpk;|(2w|&;ZNjXkYNjcjXjR|,q2|&?rjQjs;QmzMjYjxckPjN?j~1jsiMYb3k9kLkfmxk<jejWkQl,ObiIa(@ji*<|,q3|&[
UbALGjcN|,nI|&_Ik!kjh>jijkk]|,q4|&fM|,q5|&g%jrjvjciVjSEk5<lpk:WjPifk<jPkTiecP^jO4Dje^iFOkTlEjSjhJ<[k
,bk5.k&ig;|,q6|(%Yjel.Gk7|,q7|(+hjnFGG&j[%jW>9?jZcPk3k?m:T<7E|,q8|(99|%w%|(;ljSPPl2|,q9;;|(@4|,q<|(@
;m^P|,q=|(D7l.|,q>|(KANk*ifj]kMlsk)|,q?|(]Uk2WjpjUjzk=kr@pL|,q@|(f]|,qA;|(mbllmDajjjTQ[|,qC|(vRk,jRn
C>Xk5|,qD|)).|,qE;|).ukH|,qG|)1yLl.7AI;0;[D4jV@6LE2iejTjhiK;k@(<1|,qH|)79E+jz6iU|,qI|)8+i]Xibk?idju]
RTjaN=ms|,pRju|)BZLkUBBD<<>m&H|,qK;|)J<|,qM|)K_l*k]=kl7W]DjmnB5|,qN|)Y3l4q|$5d~,|.)_<gH5z>B1#i5(|$
j4|$4^Em;	)Hrp	)IJ	)H(	)H~	)H~	)H~p	)Ia	)H2	)H~	)H~z$y"

/-- JIS X 0208, cell by cell. -/
def jisTable : Array Nat := unpackTable jisCode

/-- JIS X 0212, cell by cell. -/
def jisSupplementTable : Array Nat := unpackTable jisSupplementCode

/-- The departures of the Windows variant of Shift JIS from its rule, cell by cell. -/
def windowsJisDepartures : Array Nat := unpackTable windowsJisCode

end GraphProbe.Text
