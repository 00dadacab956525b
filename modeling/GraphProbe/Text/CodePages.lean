import GraphProbe.Text.PackedTable

/-!
# Code pages

The single-octet character sets of the common code pages, from the tables of their
standards: for each, the characters octets stand for, the noncharacter U+FFFE marking an
octet that stands for nothing. Most pages keep ASCII in their lower half and list only
octets 128 to 255; the others list all 256. The pages are packed as `pageChars` reads them.

`codecAliases` lists the other names the character sets go by, after the rule that spells
a name in lower case with runs of other characters than letters, digits and `.` made one `_`.
-/

namespace GraphProbe.Text

/-- A single-octet code page: its name, whether it keeps ASCII in its lower half, and the
characters of its octets (from 128 when it keeps ASCII, else from 0). -/
structure CodePage where
  name : String
  keepsAscii : Bool
  chars : String

/-- The characters of a packed code page: its cells, packed as `unpackTable` reads them, each
hold one more than the code point of a character, and an empty cell stands for U+FFFE. -/
def pageChars (code : String) : String :=
  String.ofList ((unpackTable code).toList.map fun v =>
    if v == 0 then Char.ofNat 0xFFFE else Char.ofNat (v - 1))

/-- The code pages. -/
def codePages : List CodePage := [
  ⟨"cp037", false, pageChars "~&klh=kN3R0;hM~+k[iehSkPhc;kJ7h^~%k2~&hVG>k>~&hI;;kZ;hUkN~%h>kg~%h
I;kZhL@kQjj<6;<<<Di*h]H!=jyh~l?;;7?;;7+gi=@9LkBhQ<kf<6;<<<DiPhV3jbiZ;l5iL;;7?;;7hfiUifWidPibl2hY
~+jjJj[G;i,9i5~+j_JjRiMHiYKiD.~*cXKG;iKi)jm<L*8I@;;ho<jz3F^hviA~+k5jo<6;<hXiH~+k8jj;7;?h+knh*~*k
&]<6;<h)~,kKjN;7;i@"⟩,
  ⟨"cp1006", true, pageChars "kR~E|!:u~,g8I|!%(|!8L|.$RF;:;<|,t|<|.$f<<|,u4<|.$l<<<|,uH<|.$t<<<<
|,uR|.%$<|,uZ|.%)|,uX|.%+<<<<<<<<>>~+<<<<<|,ub<|.%Y<;;<|,un|.%c<hpk9|,uv<;;|.$QC;;k7;;|,v&8|.$M;"⟩,
  ⟨"cp1026", false, pageChars "~&klh=kN3R0;hM~+k[iehSkPhc;kJ7h^~%k2~&hVG>k>~&hI;;kZ;hUkN~%h>kg~%
hI;kZhL@kQjj<6;<<hhkGiQh7H!=0?l?;;7?;;7+jgLfv9L^iJ<kf<6;<<hhkGkafG3jbiZ;l5iL;;7?;;7k6g,kokYfCPkr
6hY~+jjJi=i_jnE9i5~+j_JjRiMHiYKjihM~*cXhpiBVk?,;<L*8I@;;%iKjY3F^Jh(~+k5johZkE;<jPgP~+k8jjh1kp;?7
5h*~*k&]gvl);<h)~,kKjNgnl3;i@"⟩,
  ⟨"cp1125", true, pageChars "|!2;~T|$B3;;h?]je;,9H%@@99i0>Z2(iajd];54O74(V5;6;,94;R9i&,kM6B>(|!
2m~4i+jxjg;hCjxi+jxi*jx|!%4|$7efx|!$x|$BB|!$t"⟩,
  ⟨"cp1140", false, pageChars "~&klh=kN3R0;hM~+k[iehSkPhc;kJ7h^~%k2~&hVG>k>~&hI;;kZ;hUkN~%h>kg~%
hI;kZhL@kQjj<6;<<<Di*h]H!=jyh~l?;;7?;;7+gi=@9LkBhQ<kf<6;<<<DiPhV3jbiZ;l5iL;;7?;;7hfiUifWidPibl2h
Y~+jjJj[G;i,9i5~+j_JjRiMH|$3I|!%2iD.~*cXKG;iKi)jm<L*8I@;;ho<jz3F^hviA~+k5jo<6;<hXiH~+k8jj;7;?h+k
nh*~*k&]<6;<h)~,kKjN;7;i@"⟩,
  ⟨"cp1250", true, pageChars "|$3Iph>p>B4;pI|!(3|$2)|!(+DS6p|$1a;=;?);pm5|!(4|$2*|!(,DS6gK|!,FKe
8h3k1ht~%l1gt~%lIgZ;|!,Ze6hB~&juk)h*kSnte0jfiSh=;jhi=kFiHi<jmi8jwi,jwi,;jh<jY>h];kMhV;kRPh<kih<;
kVhMkGh];[i]k$iHi[biWjViMjViM;[<jY>i!;k,hw;k3Ph[kHh[;k7nH"⟩,
  ⟨"cp1251", true, pageChars "|!2+;|$1c|!3&|$1gB4;k]hT|!24|$2)|!25<9>jk|$1a;=;?);pm5|!3.|$2*|!30
<9>|!$t|!29jxh~|!$x|!3h|!$z;|!2*|!%!|!2.|!%%~%|!22|!%+;|!21jxjc|!%2;;|!3$|$4_|!3(|!%8|!3,i%jx<i4
~f"⟩,
  ⟨"cp1252", true, pageChars "|$3Iph>|!(g|$1gB4;|!,E|$1y|!(3|$2)|!&~pjQq|$1a;=;?);|!,[|$4l|!(4|$
2*|!(!pjQ4gM~~~."⟩,
  ⟨"cp1253", true, pageChars "|$3Iph>|!(g|$1gB4;pIpCtiZ;=;?);pm5pg=s|!$t|!0Z;|!$w~)p<~%|$1]|!%+~
%|!0Y|!%2;;|!0^;;|!%8|!0c|!%:|!0e~8p<~Pp"⟩,
  ⟨"cp1254", true, pageChars "|$3Iph>|!(g|$1gB4;|!,E|$1y|!(3|$2)|!&~s|$1a;=;?);|!,[|$4l|!(4|$2*|
!(!qagM~Tjwi,~0j~jThQ~5jViM~0j[jThr"⟩,
  ⟨"cp1255", true, pageChars "|$3Iph>|!(g|$1gB4;|!,E|$1ypCtiZ;=;?);|!,[|$4lpg=s|!$t~%|$3G|!$y~&j
TiO~3jfi?~&|!72~,p<~+jS~&viW~?q|$1U;p"⟩,
  ⟨"cp1256", true, pageChars "|$3I|!9V|$1c|!(g|$1gB4;|!,E|$1y|!9Q|$2)|!&~|!9_L(c|$1a;=;?);|!:*|$
4l|!9k|$2*|!(!|$1S;|!:=|!$t|!89|!$v~*|!:A|!%%~3|!8H|!%8~%|!8Lkuh0~:|!%T|!8f~%@~%|!%^|!8s|!%a|!8t
~%|!%f~&|!8x;|!%m;|!8z~%|!%s|!9$;|!%v|!9&|!%x|!9(|!%z;|$1U;|!:U"⟩,
  ⟨"cp1257", true, pageChars "|$3Iph>p>B4;pIpCp|!$~|!,F|!%5p|$1a;=;?);pm5pg=p|!%*|!,Zp|!$tp<;;p<
;jWiLl&g~~%Rig~*jii<kqh4~%jNXjPiM@i9;j|44i8l*hoFN,Kai_<h_kJhY;;kniJSJhBkr<h2bjPiM@iX;jZ44iWkdhoF
N,Kai_<i%k)hz;;kMiJSJhckQ<n+"⟩,
  ⟨"cp1258", true, pageChars "|$3Iph>|!(g|$1gB4;|!,E|$1ypC|!&~s|$1a;=;?);|!,[|$4lpg=|!(!qagM~Gjh
i=~*|!.(|!%J;;jii<|!.3|!%P;lHg[~)lOn!|!%]~%[i]~*|!.)|!%l;;]i[|!.M|!%r;l&g~~)l0|$3H|!&$"⟩,
  ⟨"cp273", false, pageChars "~&klh=kN3R0;hM~+k[iehSkPhc;kJ7h^~%k2~&hVG>k>~&hI;;kZ;hUkN~%h>kg~%h
I;kZhL@kQjjhkk6;<<<DiNh:H!=0?l?;;7?;;7hdk.go@9L^iJ<kfhkk6;<<<Dag[3jbiZ;l5iL;;7?;;7hfiUifkUhPPibl
2hY~+jjJj[G;i,9i5~+j_JjRiMHiYKjPhf~*cXKG;iK,;<L*hikG@;;%iK|$20|!$~F^Gh+~+k5joi+jt;<Agu~+k8jjhRkM
;?iR[h*~*k&]hXkG;<h)~,kKjNhRkM;i@"⟩,
  ⟨"cp424", false, pageChars "~&klh=kN3R0;hM~+k[iehSkPhc;kJ7h^~%k2~&hVG>k>~&hI;;kZ;hUkN~%h>kg~%h
I;kZhL@|!7R~+|!$vh]H!=jyh~|!7[~+|!!H=@9LkBhQ<|!7f~*|!$zhV3jbiZ;p|!7nq|!$tr|$1_|!$2iUifWidPibpjg~
+jjJr09i5~+rjnp!KiD.~*tjZi)jm<L*8I@;;ho<jz3F^hviA~+k5tiKiH~+k8thuknh*~*k&thN~,kKs!"⟩,
  ⟨"cp437", true, pageChars "lDj[$3<6?<=;7A98iS;>Wi[jT<6C8@iR@iA;<|$3D|!(ggvF@A1i[iTJ?|$:Z|!%&K9
ibDJ|$B3;;h?]je;,9H%@@99i0>Z2(iajd];54O74(V5;6;,94;R9i&,kM6B>(|!11|!%]|!0jjSi_Z|!%2|!1Di^*KE|$7i
|!1F&|$7tj_|!%,|$8Y9l8;|!%v|$8<|!%+|$7d|!%4|$7ee4|!%.|$BB|!$t"⟩,
  ⟨"cp500", false, pageChars "~&klh=kN3R0;hM~+k[iehSkPhc;kJ7h^~%k2~&hVG>k>~&hI;;kZ;hUkN~%h>kg~%h
I;kZhL@kQjj<6;<<<Dh:iNH!=0?l?;;7?;;7+hNiB@9L^iJ<kf<6;<<<DiPhV3jbiZ;l5iL;;7?;;7hfiUifWidPibl2hY~+
jjJj[G;i,9i5~+j_JjRiMHiYKiD.~*cXKG;iK,;<L*8I@;;%iKjY3F^hviA~+k5jo<6;<hXiH~+k8jj;7;?h+knh*~*k&]<6
;<h)~,kKjN;7;i@"⟩,
  ⟨"cp720", true, pageChars "kR;k93htk+hxk2=;7A9hq~%|!9&;|!%si)|!8o|!%z8|!8N~%|!$w|!8R~5|!%%J|$B
3;;h?]je;,9H%@@99i0>Z2(iajd];54O74(V5;6;,94;R9i&,kM6B>(|!8e~&A|!%2|!8q~+|$8U|!8z~(|$8<|!%+|$7d|!
%4|$7ee4|!%.|$BB|!$t"⟩,
  ⟨"cp737", true, pageChars "|!0h~5<~)B~5<9<~&|$B3;;h?]je;,9H%@@99i0>Z2(iajd];54O74(V5;6;,94;R9i
&,kM6B>(|!1Ii_;;VibW;8=i3<;;<<;|!%,|$8Y9|!1(;|!%v|$8<|!%+|$7d|!%4|$7ee4|!%.|$BB|!$t"⟩,
  ⟨"cp775", true, pageChars "m,0$Ri_jgi=]jciLjk;iOjvgr;>Wi[kXh|jRhPl4;hK@Vi!j[9iHk+jPiDkY;8|$1f|
!$z=?8K9kVh:J|$B3;;h?]|!&*BF8|$AZ%@@|!&VjX|$@]>Z2(iajd|!(E2|$AQ4O74(V|!(PhXBF8RjXL2M|$@f,kM6B>(|
!%PFk>1i+i[i[kb*;>;DiGjY|$1b|!%(>|$1e|!%;2)jx|$1g|!%+|$7d|!%4<49|$BB|!$t"⟩,
  ⟨"cp850", true, pageChars "lDj[$3<6?<=;7A98iS;>Wi[jT<6C8@iR@Vi!j[9l7gvF@A1i[iTJ?&8K9ibDJ|$B3;;
h?]|!%>;8if|$AZ%@@|!$v=|$@]>Z2(iajd|!%bi[|$AQ4O74(V|!$xjti[4;7k:hn;;|$@f,kM6|!$zb|$Ay|!%PF.8^i[i
[jqi[6;8_i[iM?3>|$1_|!%;2)jxi<22I<49|$BB|!$t"⟩,
  ⟨"cp852", true, pageChars "lDj[$3<k]hji[k*h|k6;hok]grjji>kA;i5<jo;V;hK@kY;iWhhj]iOF@AD;kI;hl;h
elJhdj|gsJ|$B3;;h?]|!%>;k&jl|$AZ%@@|!(N;|$@]>Z2(iajd|!&(;|$AQ4O74(V|!$xk>98i8jlj_hV;ju|$@f,kM6|!
(5F|$Ay|!%PF.k@;>R;+hVkLUh^i[kWgx3|!,]8!K|!$|jxi<22|!,Xeiid;|$BB|!$t"⟩,
  ⟨"cp855", true, pageChars "|!3%i)jyi)jvi)j|i)jyi)jyi)jyi)jyi)jyi)jyi)jyi)jyi)jzi)jyi)jgi[Vi[@i
[[i[j[i[Hi[[i[jUi[Ii[|!%%J|$B3;;h?]|!2ri[Mi[|$AZ%@@|!2fi[|$@]>Z2(iajd|!2gi[|$AQ4O74(V|!$x|!2hi[[
i[[i[[i[[|$@f,kM6|!2JjV|$Ay|!2ZKi[[i[[i[[i[Mi[Vi[jbi[|$4_|!%(|!2xi[Fi[jWi[ai[Vi[Xi[|!$||$BB|!$t"⟩,
  ⟨"cp856", true, pageChars "|!7R~?p|!$wpjZyiR8K9p&J|$B3;;h?]r|!%!|$AZ%@@|!$v=|$@]>Z2(iajdqX4O74
(V|!$xx|$@f,kM6|!$zp|$Ayu|!%2v4?3>|$1_|!%;2)jxi<22I<49|$BB|!$t"⟩,
  ⟨"cp857", true, pageChars "lDj[$3<6?<=;7A9jkhe;>Wi[jT<6C8j^hx@Vi!j[kW;hRF@A1i[ju;hr&8K9ibDJ|$B
3;;h?]|!%>;8if|$AZ%@@|!$v=|$@]>Z2(iajd|!%bi[|$AQ4O74(V|!$xP(Z;7p?;;|$@f,kM6|!$zb|$Ay|!%PF.8^i[i[
p]=;8MMi)?3>pG2)jxi<22I<49|$BB|!$t"⟩,
  ⟨"cp858", true, pageChars "lDj[$3<6?<=;7A98iS;>Wi[jT<6C8@iR@Vi!j[9l7gvF@A1i[iTJ?&8K9ibDJ|$B3;;
h?]|!%>;8if|$AZ%@@|!$v=|$@]>Z2(iajd|!%bi[|$AQ4O74(V|!$xjti[4;7|$3I|!%J;;|$@f,kM6|!$zb|$Ay|!%PF.8
^i[i[jqi[6;8_i[iM?3>|$1_|!%;2)jxi<22I<49|$BB|!$t"⟩,
  ⟨"cp860", true, pageChars "lDj[$3;7i]b=i[XibARiR9A1BjR;7ieYiNCAiA;j]|$3D|!%PHF@A1i[iTJ?MiUK9ib
DJ|$B3;;h?]je;,9H%@@99i0>Z2(iajd];54O74(V5;6;,94;R9i&,kM6B>(|!11|!%]|!0jjSi_Z|!%2|!1Di^*KE|$7i|!
1F&|$7tj_|!%,|$8Y9l8;|!%v|$8<|!%+|$7d|!%4|$7ee4|!%.|$BB|!$t"⟩,
  ⟨"cp861", true, pageChars "lDj[$3<6?<=;7ieZ%ic;>Wi[jT<B7i^ZiT@Vi!j[|$3D|!(ggvF@AiBF@Aib|$:Z|!%
&K9ibDJ|$B3;;h?]je;,9H%@@99i0>Z2(iajd];54O74(V5;6;,94;R9i&,kM6B>(|!11|!%]|!0jjSi_Z|!%2|!1Di^*KE|
$7i|!1F&|$7tj_|!%,|$8Y9l8;|!%v|$8<|!%+|$7d|!%4|$7ee4|!%.|$BB|!$t"⟩,
  ⟨"cp862", true, pageChars "|!7R~?|!$v;<|$3D|!(ggvF@A1i[iTJ?|$:Z|!%&K9ibDJ|$B3;;h?]je;,9H%@@99i
0>Z2(iajd];54O74(V5;6;,94;R9i&,kM6B>(|!11|!%]|!0jjSi_Z|!%2|!1Di^*KE|$7i|!1F&|$7tj_|!%,|$8Y9l8;|!
%v|$8<|!%+|$7d|!%4|$7ee4|!%.|$BB|!$t"⟩,
  ⟨"cp863", true, pageChars "lDj[$3i[XiQjW=;7A9|$1_|!%=id]9<jPiR>jR8i!jVBiA;j]<l3g9HjgAi&J56Y|$:
Z|!%&K9<$J|$B3;;h?]je;,9H%@@99i0>Z2(iajd];54O74(V5;6;,94;R9i&,kM6B>(|!11|!%]|!0jjSi_Z|!%2|!1Di^*
KE|$7i|!1F&|$7tj_|!%,|$8Y9l8;|!%v|$8<|!%+|$7d|!%4|$7ee4|!%.|$BB|!$t"⟩,
  ⟨"cp864", false, pageChars "~J|!9B|!!M~~~&jWA|$7d;|$B4h><jbieB(RiW6B>|!12|$7i|!1F|!%,F9|$8<|!%
%J|.%u;q=;p|!$tG|.$S|!$w;|.$UqD;@>|!89|.$p>>|!98~,|.%M|!8H|.%+>>|!8L|!$v|.$Q;<<jmi<<><>>>>><<<<>
>>><>@>|!$z@jsi[|.%E|!8o|.%O>>>>>><<>iEI<9Nhn|!9&|.%c>=><iY?Z;id6R|$BBp"⟩,
  ⟨"cp865", true, pageChars "lDj[$3<6?<=;7A98iS;>Wi[jT<6C8@iR@Vi!j[|$3D|!(ggvF@A1i[iTJ?|$:Z|!%&K
9ibD3|$B3;;h?]je;,9H%@@99i0>Z2(iajd];54O74(V5;6;,94;R9i&,kM6B>(|!11|!%]|!0jjSi_Z|!%2|!1Di^*KE|$7
i|!1F&|$7tj_|!%,|$8Y9l8;|!%v|$8<|!%+|$7d|!%4|$7ee4|!%.|$BB|!$t"⟩,
  ⟨"cp866", true, pageChars "|!2;~T|$B3;;h?]je;,9H%@@99i0>Z2(iajd];54O74(V5;6;,94;R9i&,kM6B>(|!2
m~4i+jxi,jxi,jxi2jx|!%+|$7d|!%4|$7efx|!$x|$BB|!$t"⟩,
  ⟨"cp869", true, pageChars "u|!0[p|!%4.4|$1a;|!0^|$1]|!0_;Zi^q<W|!%!|!0f|!%.;|!1*|!$w|!1+;;UiAj
d;i?~)|!%:|!0o;|!%%J|$B3;;h?]|!0q~%|$AZ%@@|!0u;|$@]>Z2(iajd|!0w;|$AQ4O74(V|!0z~)B;;|$@f,kM6|!14;
|$Ay|!16~0<9<i;|!%(>|!1E;;|!$||!1Hi8|!%+2|!1I<ibX|$BB|!$t"⟩,
  ⟨"cp874", true, pageChars "|$3IshJz!!*;=;?);w|!$t|!P6~_s?~As"⟩,
  ⟨"cp875", false, pageChars "~&klh=kN3R0;hM~+k[iehSkPhc;kJ7h^~%k2~&hVG>k>~&hI;;kZ;hUkN~%h>kg~%h
I;kZhL@|!0h~+|!$+iNH!=0?|!0q~*<|!$.iB@9L^iJ<|!0|~*|!$Ni)3jbiZ;k:|!0[<;|!$t|!0a<<;|!$2iUifWidPib|
!0Z|!$3~+|!11~(|!%+i5~+|!17~(|!%1iE.~*|!1=~&<|!$w|!1*;;VibW;8=,<~&|!$MiA~+k5|!1IiBZ|$1a7|!$OiH~+
k0Fh+|!0]|$1b|!$zi1i9ja~*k&.hC:kd;hT~,kK0hA:ktia"⟩,
  ⟨"hp_roman8", true, pageChars "kR~EZ<@<;=;ib|!,J5|!$~|!,[|!%V<|$3A|!%*jTZi,QZigZi)Xib9<<lig5jh
BDAicBDAicBDAihAE@iDjOig%YBE%iYjNig@$b(.$<Z$ZiX9A9=Zk<;hIkqhWiZZi48;B|$1[|!%9;$J)|$BB|!%80p"⟩,
  ⟨"iso8859_1", true, pageChars "kR~~~O"⟩,
  ⟨"iso8859_10", true, pageChars "kR~Ek5HJB8HhAkgiPjx@QgUl9i[h6k!HJB8HhPkViPjx@Q|$1]|!(>i[i0i<~(
k9iYi8jwi,jsi2~%kFAhW~%keh@kmh8~(]i[~(jqiYiWjViMjRiQ~%k$Ahx~%kDhakLhW~&jb"⟩,
  ⟨"iso8859_11", true, pageChars "kR~E|!P6~_s?~As"⟩,
  ⟨"iso8859_13", true, pageChars "kR~E|$1f|!$v;;|$1g|!$z;jWiLl&g~~%Rig~%|$1e|!%2;;jii<kqh4~%jNXj
PiM@i9;j|44i8l*hoFN,Kai_<h_kJhY;;kniJSJhBkr<h2bjPiM@iX;jZ44iWkdhoFN,Kai_<i%k)hz;;kMiJSJhckQ<|$1b"⟩,
  ⟨"iso8859_14", true, pageChars "kR~E|$)G;|!$wk8;|$)O|!$||$*r|!%!|$*thYle|!%(;lF|$)e;|!&H;|$*0;
|!%3|$*FjQiQjRiXkfhc;iW|!%=~4kxh+~(|$*Z|!%U~(klh9~5kWhL~(|$*[|!%w~(kKhX"⟩,
  ⟨"iso8859_15", true, pageChars "kR~H|$3I|!$yl7gnl6go~.lFg^;;lCgb;;kj;agn~g"⟩,
  ⟨"iso8859_16", true, pageChars "kR~Ek5;jd|$3IhB|!(3gnl6gonAedlJgYlI;gZ;k*j]jc|$1f|!%3;lCham3es
kj;a>gk;;jhi=jji;~,jijYha;;kMhVkUPh9~%jdm&f?~%[i]^iZ~,]jYi&;;k,hwk6PhX~%Wm&f_"⟩,
  ⟨"iso8859_2", true, pageChars "kR~Ek5oQe8h3klWgt;l48@OgYlL8gZk!oSe6hBk[Wn>|!%5k~8@On5er8iSh=;j
hi=kFiHi<jmi8jwi,jwi,;jh<jY>h];kMhV;kRPh<kih<;kVhMkGh];[i]k$iHi[biWjViMjViM;[<jY>i!;k,hw;k3Ph[kH
h[;k7nH"⟩,
  ⟨"iso8859_3", true, pageChars "kR~EkWo.|!$w;pkQhS;kYjTi;PhIplJgZkHh[~%kAhd;kJjTi;PhXpl;gk;;p<j
n8i:~+p<~%jti1;jmi8~%kc(hS~%p<c8iY~+p<~%jSiP;biW~%kB(nN"⟩,
  ⟨"iso8859_4", true, pageChars "kR~Ek5jZXgukUMh<;l4i+JjlgnlLgW;k!oSeKh+kFMn^|!%5k~i+Jjli_jZiHi0
i<~(k9iYi8jwi,jsi2;k+icj[Aighp~&kmh8;;k^<hE]i[~(jqiYiWjViMjRiQ;jeicj[Aigi8~&kLhW;;k><n@"⟩,
  ⟨"iso8859_5", true, pageChars "kR~E|!2*~0|!%(|!29~h|$4_|!3$~0|!$||!34;"⟩,
  ⟨"iso8859_6", true, pageChars "kR~Er>v|!89|!%(z!%|!8Hr>p<~>t@~7z!%"⟩,
  ⟨"iso8859_7", true, pageChars "kR~E|$1a;|!$w|$3I=|!$z~%|!0O|!%%;;p|$1]|!%+~%|!0Y;;|!%4|!0^;;|!
%8|!0c|!%:|!0e~8p<~Pp"⟩,
  ⟨"iso8859_8", true, pageChars "kR~Ep<~*jTiO~3jfi?~%z!;|$1_|!7R~?q|$1U;p"⟩,
  ⟨"iso8859_9", true, pageChars "kR~vjwi,~0j~jThQ~5jViM~0j[jThr"⟩,
  ⟨"koi8_r", true, pageChars "|$@L<D>>>>BBBBjl>>>>~%|$:l|$BB|$7d;jTV;|!$t|$:m|!%+<?jh|$AG;;|!3$|
$AJ~3|!2*|$AY~.|!%!|!2|i^;O%;I&L+~*J)~%+6T9!K?68=iai^;O%;I&L+~*J)~%+6T9!K?68="⟩,
  ⟨"koi8_t", true, pageChars "|!3s2|$1c|!3j|$1gB4;pI|!44|$2)|!43?9pia|$1a;=;?);pm5pg=t|!4r9h3|!$
x|!4f|!$z;r>~%p<;;|!2*pl^|!%3;p|$4_p|!%8r%|!2|i^;O%;I&L+~*J)~%+6T9!K?68=iai^;O%;I&L+~*J)~%+6T9!K
?68="⟩,
  ⟨"koi8_u", true, pageChars "|$@L<D>>>>BBBBjl>>>>~%|$:l|$BB|$7d;jTV;|!$t|$:m|!%+<?jh|$AG;;|!3$=
|$AK|!3*;|$AN~&|!3i|$AT~&|!2*=|$AZ|!21;|$A^~&|!3h|$Ae|!%!|!2|i^;O%;I&L+~*J)~%+6T9!K?68=iai^;O%;I
&L+~*J)~%+6T9!K?68="⟩,
  ⟨"kz1048", true, pageChars "|!2+;|$1c|!3&|$1gB4;k]hT|!24|$2)|!25kcZg~jk|$1a;=;?);pm5|!3.|$2*|!
30jiZhv|!$t|!41;c|!$x|!4k|!$z;|!2*|!%!|!3j|!%%~%|!4.|!%+;|!21jxkf|!%2;;|!3$|$4_|!3k|!%8|!4ZiD;Fh
1~f"⟩,
  ⟨"mac_arabic", true, pageChars "lAiWc<B?@?9<<|!:=|!%%jd<9<;<|$1o|!%m;<<iCja<;=9<;gI~&|!9B|!!M~
(|!89|!!T;;|!98~,|!!c|!8H|!!e;;|!8L|$GC|!8N~>|!$+~&|!8o~7jR5GjwiJEiTC|!$M;;|!9rjb"⟩,
  ⟨"mac_croatian", true, pageChars "lA;<<B?@?9<<9<<<9<;<9<;<<9<<9?9<;|$1i|!%+*;>|$1k|!%3jOiJl,|$
4l|!%1,|$8T|!(Ph)|$7i|!%,|$8X;hs|!%2|$7KI8|!(4|$7v|!%$J|!1&|!(QhJiBi^E|$7e|!(g|$8<|!&,hwk2|$1o|!
$tZ=LkN;i8|$1[B;5;|!%v|$Bn|,mw|!%!|$26k9h^;|!%C.|$1Z|!%4|$1c>L|!%?jmi5jti6?;;7A;jei<B;8k&niP|!%*
|!1@|!%H|!,Y|!%5LVo_"⟩,
  ⟨"mac_cyrillic", true, pageChars "|!2;~D|$1i|!%+|!3h|!$w>|$1k|!%3|!21|!%)5|$4l|!2+jx|$8T|!2,jx
|$7i|!%,|$8X;|!3*|!%2|!3ihG6jxi,jxi+jxi*jx8i%|!%&|$7e|!(g|$8<i9|!%%J|$1o|!$t|!26jxi*jx3|$1Z;B;5;
|!%v|$1g|!29jxi*jx|$4_|!2*jx8i]~C|$3I"⟩,
  ⟨"mac_farsi", true, pageChars "lAiWc<B?@?9<<|!:=|!%%jd<9<;<|$1o|!%m;<<iCja<;=9<;gI~&|!9B|!!M~(
|!89|!!T;;|!:u~,|!!c|!8H|!!e;;|!8L|$GC|!8N~>|!$+~&|!8o~7jR5GjwiJEiTC|!$M;;|!9rjb"⟩,
  ⟨"mac_greek", true, pageChars "lA.3Qig^@|!0Z|!%^<<|!0Y|!$~jg<9<;i3|$4l|!%m;|$1k|!%:|$1y|!%s<i)
|$3I|!%x<;|$1i|!0j;>==<|!%]iJ5|!0zA|!$||$8T|!%+A|!0h|!%,|$8X;|!$y|!0i=;;<;<D?7;=)|!%&|!0v<|$8<|!
0||!%%J|$1o|!$t|!0~<iZ<|!(!|$1Z<A;5;|!%v|!0_;<<Y;;Wi>jfia;P!;K$><?6~%<;H+<;,K3?8)N;i@Z|!%("⟩,
  ⟨"mac_iceland", true, pageChars "lA;<<B?@?9<<9<<<9<;<9<;<<9<<9?9<;i]iN*;>|$1k|!%3jOiJ5|$4l|!%1
,|$8T|!%CL|$7i|!%,|$8X;|!$yJ|$7KI8|!1@|$7v|!%$J|!1&|!%eLiBi^E|$7e|!(g|$8<i9|!%%J|$1o|!$tZ=LkN;|$
1Z;B;5;|!%v|$Bn|!&$kJ|$26k9|!%MZ%Z9i5|$1c>L|!%?B1D7?;;7A;|,mw|!%OB;8k&niP|!%*|!,W;;|!%5|!,]8!"⟩,
  ⟨"mac_latin2", true, pageChars "lAjd;iCjciM@?_AiSjO3;i^kc;hfiZ]=;=iX_iX<9?Z;i]|$1i|!%+k9h[>|$1
k|!%3jOiJ5|$4l|!&Aha|$8T|!&KE;5|$8X;|!&SE|$7KI|!&l3~%5;E;7h9|$7e|!&n=|$7O|!%%J|$1o|!$tk|BhUkM5|$
1Z;B;5;|!%v|$Bn|!&wA;=|$2);|!(*7;C|$1c>|!(43;h6kv;h8l*;!h9;kj=h<kh~&h:ZjbjliAjchxny"⟩,
  ⟨"mac_roman", true, pageChars "lA;<<B?@?9<<9<<<9<;<9<;<<9<<9?9<;|$1i|!%+*;>|$1k|!%3jOiJ5|$4l|!
%1,|$8T|!%CL|$7i|!%,|$8X;|!$yJ|$7KI8|!1@|$7v|!%$J|!1&|!%eLiBi^E|$7e|!(g|$8<i9|!%%J|$1o|!$tZ=LkN;
|$1Z;B;5;|!%v|$Bn|!&$kJ|$26k9h^;|,s|;|$1j|!%4|$1c>L|!%?B1D7?;;7A;|,mw|!%OB;8k&niP|!%*|!,W;;|!%5|
!,]8!"⟩,
  ⟨"mac_romanian", true, pageChars "lA;<<B?@?9<<9<<<9<;<9<;<<9<<9?9<;|$1i|!%+*;>|$1k|!%3jOiJ5|$4
l|!%1,|$8T|!&(m=|$7i|!%,|$8X;|!$yJ|$7KI8|!1@|$7v|!%$J|!1&|!&)m=ewi^E|$7e|!(g|$8<i9|!%%J|$1o|!$tZ
=LkN;|$1Z;B;5;|!%v|$Bn|!&$kJ|$26k9h^;|!*C;|$1j|!%4|$1c>L|!%?B1D7?;;7A;|,mw|!%OB;8k&niP|!%*|!,W;;
|!%5|!,]8!"⟩,
  ⟨"mac_turkish", true, pageChars "lA;<<B?@?9<<9<<<9<;<9<;<<9<<9?9<;|$1i|!%+*;>|$1k|!%3jOiJ5|$4l
|!%1,|$8T|!%CL|$7i|!%,|$8X;|!$yJ|$7KI8|!1@|$7v|!%$J|!1&|!%eLiBi^E|$7e|!(g|$8<i9|!%%J|$1o|!$tZ=Lk
N;|$1Z;B;5;|!%v|$Bn|!&$kJhx;K;jS;|$1j|!%4|$1c>L|!%?B1D7?;;7A;|,mw|!%OB;8|,lm|!,EP|!%*|!,W;;|!%5|
!,]8!"⟩,
  ⟨"palmos", true, pageChars "|$3I|!$S|$1c|!(g|$1gB4;|!,E|$1y|!(3|$2)|!&~|$D_7<5|$1a;=;?);|!,[|$
4l|!(4gal4gq;lVgM~~~."⟩,
  ⟨"ptcp154", true, pageChars "|!3n6k+hw|$1gB|!472>7)jji;2Z8iZ|$1a;=;?);|!44>igjji;2Z8|!$t|!29jx
h~l]i)R|!$||!2*|!%!|!4Y|!%%;|!4r|!%)|!3t|!%+|!42g~jxjkjx|!%3;|!3$|$4_|!4Z|!%8|!3,jz;*hC~f"⟩,
  ⟨"tis_620", true, pageChars "kR~Dp|!P6~_s?~As"⟩]

/-- Other names of character sets, with the name each stands for. -/
def codecAliases : List (String × String) := [
  ("037", "cp037"), ("1026", "cp1026"), ("1125", "cp1125"), ("1140", "cp1140"),
  ("1250", "cp1250"), ("1251", "cp1251"), ("1252", "cp1252"), ("1253", "cp1253"),
  ("1254", "cp1254"), ("1255", "cp1255"), ("1256", "cp1256"), ("1257", "cp1257"),
  ("1258", "cp1258"), ("273", "cp273"), ("424", "cp424"), ("437", "cp437"), ("500", "cp500"),
  ("646", "ascii"), ("775", "cp775"), ("850", "cp850"), ("852", "cp852"), ("855", "cp855"),
  ("857", "cp857"), ("858", "cp858"), ("860", "cp860"), ("861", "cp861"), ("862", "cp862"),
  ("863", "cp863"), ("864", "cp864"), ("865", "cp865"), ("866", "cp866"), ("869", "cp869"),
  ("8859", "latin_1"), ("932", "cp932"), ("936", "gbk"), ("949", "cp949"), ("950", "cp950"),
  ("ansi", "mbcs"), ("ansi_x3.4_1968", "ascii"), ("ansi_x3.4_1986", "ascii"),
  ("ansi_x3_4_1968", "ascii"), ("arabic", "iso8859_6"), ("asmo_708", "iso8859_6"),
  ("base64", "base64_codec"), ("base_64", "base64_codec"), ("big5_hkscs", "big5hkscs"),
  ("big5_tw", "big5"), ("bz2", "bz2_codec"), ("chinese", "gb2312"), ("cp1051", "hp_roman8"),
  ("cp1361", "johab"), ("cp154", "ptcp154"), ("cp367", "ascii"), ("cp65001", "utf_8"),
  ("cp819", "latin_1"), ("cp866u", "cp1125"), ("cp936", "gbk"), ("cp_gr", "cp869"),
  ("cp_is", "cp861"), ("csHPRoman8", "hp_roman8"), ("csascii", "ascii"), ("csbig5", "big5"),
  ("csibm037", "cp037"), ("csibm1026", "cp1026"), ("csibm273", "cp273"), ("csibm424", "cp424"),
  ("csibm500", "cp500"), ("csibm855", "cp855"), ("csibm857", "cp857"), ("csibm858", "cp858"),
  ("csibm860", "cp860"), ("csibm861", "cp861"), ("csibm863", "cp863"), ("csibm864", "cp864"),
  ("csibm865", "cp865"), ("csibm866", "cp866"), ("csibm869", "cp869"),
  ("csiso2022jp", "iso2022_jp"), ("csiso2022kr", "iso2022_kr"), ("csiso58gb231280", "gb2312"),
  ("csisolatin1", "latin_1"), ("csisolatin2", "iso8859_2"), ("csisolatin3", "iso8859_3"),
  ("csisolatin4", "iso8859_4"), ("csisolatin5", "iso8859_9"), ("csisolatin6", "iso8859_10"),
  ("csisolatinarabic", "iso8859_6"), ("csisolatincyrillic", "iso8859_5"),
  ("csisolatingreek", "iso8859_7"), ("csisolatinhebrew", "iso8859_8"), ("cskoi8r", "koi8_r"),
  ("cspc775baltic", "cp775"), ("cspc850multilingual", "cp850"), ("cspc862latinhebrew", "cp862"),
  ("cspc8codepage437", "cp437"), ("cspcp852", "cp852"), ("csptcp154", "ptcp154"),
  ("csshiftjis", "shift_jis"), ("cyrillic", "iso8859_5"), ("cyrillic_asian", "ptcp154"),
  ("dbcs", "mbcs"), ("ebcdic_cp_be", "cp500"), ("ebcdic_cp_ca", "cp037"),
  ("ebcdic_cp_ch", "cp500"), ("ebcdic_cp_he", "cp424"), ("ebcdic_cp_nl", "cp037"),
  ("ebcdic_cp_us", "cp037"), ("ebcdic_cp_wt", "cp037"), ("ecma_114", "iso8859_6"),
  ("ecma_118", "iso8859_7"), ("elot_928", "iso8859_7"), ("euc_cn", "gb2312"),
  ("euc_jis2004", "euc_jis_2004"), ("euccn", "gb2312"), ("eucgb2312_cn", "gb2312"),
  ("eucjis2004", "euc_jis_2004"), ("eucjisx0213", "euc_jisx0213"), ("eucjp", "euc_jp"),
  ("euckr", "euc_kr"), ("gb18030_2000", "gb18030"), ("gb2312_1980", "gb2312"),
  ("gb2312_80", "gb2312"), ("greek", "iso8859_7"), ("greek8", "iso8859_7"),
  ("hebrew", "iso8859_8"), ("hex", "hex_codec"), ("hkscs", "big5hkscs"), ("hz_gb", "hz"),
  ("hz_gb_2312", "hz"), ("hzgb", "hz"), ("ibm037", "cp037"), ("ibm039", "cp037"),
  ("ibm1026", "cp1026"), ("ibm1051", "hp_roman8"), ("ibm1125", "cp1125"), ("ibm1140", "cp1140"),
  ("ibm273", "cp273"), ("ibm367", "ascii"), ("ibm424", "cp424"), ("ibm437", "cp437"),
  ("ibm500", "cp500"), ("ibm775", "cp775"), ("ibm819", "latin_1"), ("ibm850", "cp850"),
  ("ibm852", "cp852"), ("ibm855", "cp855"), ("ibm857", "cp857"), ("ibm858", "cp858"),
  ("ibm860", "cp860"), ("ibm861", "cp861"), ("ibm862", "cp862"), ("ibm863", "cp863"),
  ("ibm864", "cp864"), ("ibm865", "cp865"), ("ibm866", "cp866"), ("ibm869", "cp869"),
  ("iso2022jp", "iso2022_jp"), ("iso2022jp_1", "iso2022_jp_1"), ("iso2022jp_2", "iso2022_jp_2"),
  ("iso2022jp_2004", "iso2022_jp_2004"), ("iso2022jp_3", "iso2022_jp_3"),
  ("iso2022jp_ext", "iso2022_jp_ext"), ("iso2022kr", "iso2022_kr"), ("iso646_us", "ascii"),
  ("iso8859", "latin_1"), ("iso8859_1", "latin_1"), ("iso_2022_jp", "iso2022_jp"),
  ("iso_2022_jp_1", "iso2022_jp_1"), ("iso_2022_jp_2", "iso2022_jp_2"),
  ("iso_2022_jp_2004", "iso2022_jp_2004"), ("iso_2022_jp_3", "iso2022_jp_3"),
  ("iso_2022_jp_ext", "iso2022_jp_ext"), ("iso_2022_kr", "iso2022_kr"),
  ("iso_646.irv_1991", "ascii"), ("iso_8859_1", "latin_1"), ("iso_8859_10", "iso8859_10"),
  ("iso_8859_10_1992", "iso8859_10"), ("iso_8859_11", "iso8859_11"),
  ("iso_8859_11_2001", "iso8859_11"), ("iso_8859_13", "iso8859_13"),
  ("iso_8859_14", "iso8859_14"), ("iso_8859_14_1998", "iso8859_14"),
  ("iso_8859_15", "iso8859_15"), ("iso_8859_16", "iso8859_16"),
  ("iso_8859_16_2001", "iso8859_16"), ("iso_8859_1_1987", "latin_1"),
  ("iso_8859_2", "iso8859_2"), ("iso_8859_2_1987", "iso8859_2"), ("iso_8859_3", "iso8859_3"),
  ("iso_8859_3_1988", "iso8859_3"), ("iso_8859_4", "iso8859_4"),
  ("iso_8859_4_1988", "iso8859_4"), ("iso_8859_5", "iso8859_5"),
  ("iso_8859_5_1988", "iso8859_5"), ("iso_8859_6", "iso8859_6"),
  ("iso_8859_6_1987", "iso8859_6"), ("iso_8859_7", "iso8859_7"),
  ("iso_8859_7_1987", "iso8859_7"), ("iso_8859_8", "iso8859_8"),
  ("iso_8859_8_1988", "iso8859_8"), ("iso_8859_9", "iso8859_9"),
  ("iso_8859_9_1989", "iso8859_9"), ("iso_celtic", "iso8859_14"), ("iso_ir_100", "latin_1"),
  ("iso_ir_101", "iso8859_2"), ("iso_ir_109", "iso8859_3"), ("iso_ir_110", "iso8859_4"),
  ("iso_ir_126", "iso8859_7"), ("iso_ir_127", "iso8859_6"), ("iso_ir_138", "iso8859_8"),
  ("iso_ir_144", "iso8859_5"), ("iso_ir_148", "iso8859_9"), ("iso_ir_157", "iso8859_10"),
  ("iso_ir_166", "tis_620"), ("iso_ir_199", "iso8859_14"), ("iso_ir_226", "iso8859_16"),
  ("iso_ir_58", "gb2312"), ("iso_ir_6", "ascii"), ("jisx0213", "euc_jis_2004"),
  ("korean", "euc_kr"), ("ks_c_5601", "euc_kr"), ("ks_c_5601_1987", "euc_kr"),
  ("ks_x_1001", "euc_kr"), ("ksc5601", "euc_kr"), ("ksx1001", "euc_kr"), ("kz_1048", "kz1048"),
  ("l1", "latin_1"), ("l10", "iso8859_16"), ("l2", "iso8859_2"), ("l3", "iso8859_3"),
  ("l4", "iso8859_4"), ("l5", "iso8859_9"), ("l6", "iso8859_10"), ("l7", "iso8859_13"),
  ("l8", "iso8859_14"), ("l9", "iso8859_15"), ("latin", "latin_1"), ("latin1", "latin_1"),
  ("latin10", "iso8859_16"), ("latin2", "iso8859_2"), ("latin3", "iso8859_3"),
  ("latin4", "iso8859_4"), ("latin5", "iso8859_9"), ("latin6", "iso8859_10"),
  ("latin7", "iso8859_13"), ("latin8", "iso8859_14"), ("latin9", "iso8859_15"),
  ("mac_centeuro", "mac_latin2"), ("maccentraleurope", "mac_latin2"),
  ("maccyrillic", "mac_cyrillic"), ("macgreek", "mac_greek"), ("maciceland", "mac_iceland"),
  ("macintosh", "mac_roman"), ("maclatin2", "mac_latin2"), ("macroman", "mac_roman"),
  ("macturkish", "mac_turkish"), ("ms1361", "johab"), ("ms932", "cp932"), ("ms936", "gbk"),
  ("ms949", "cp949"), ("ms950", "cp950"), ("ms_kanji", "cp932"), ("mskanji", "cp932"),
  ("pt154", "ptcp154"), ("quopri", "quopri_codec"), ("quoted_printable", "quopri_codec"),
  ("quotedprintable", "quopri_codec"), ("r8", "hp_roman8"), ("rk1048", "kz1048"),
  ("roman8", "hp_roman8"), ("rot13", "rot_13"), ("ruscii", "cp1125"), ("s_jis", "shift_jis"),
  ("s_jis_2004", "shift_jis_2004"), ("s_jisx0213", "shift_jisx0213"), ("shiftjis", "shift_jis"),
  ("shiftjis2004", "shift_jis_2004"), ("shiftjisx0213", "shift_jisx0213"), ("sjis", "shift_jis"),
  ("sjis_2004", "shift_jis_2004"), ("sjisx0213", "shift_jisx0213"), ("strk1048_2002", "kz1048"),
  ("thai", "iso8859_11"), ("tis620", "tis_620"), ("tis_620_0", "tis_620"),
  ("tis_620_2529_0", "tis_620"), ("tis_620_2529_1", "tis_620"), ("u16", "utf_16"),
  ("u32", "utf_32"), ("u7", "utf_7"), ("u8", "utf_8"), ("u_jis", "euc_jp"), ("uhc", "cp949"),
  ("ujis", "euc_jp"), ("unicode_1_1_utf_7", "utf_7"), ("unicodebigunmarked", "utf_16_be"),
  ("unicodelittleunmarked", "utf_16_le"), ("us", "ascii"), ("us_ascii", "ascii"),
  ("utf", "utf_8"), ("utf16", "utf_16"), ("utf32", "utf_32"), ("utf7", "utf_7"),
  ("utf8", "utf_8"), ("utf8_ucs2", "utf_8"), ("utf8_ucs4", "utf_8"), ("utf_16be", "utf_16_be"),
  ("utf_16le", "utf_16_le"), ("utf_32be", "utf_32_be"), ("utf_32le", "utf_32_le"),
  ("uu", "uu_codec"), ("windows_1250", "cp1250"), ("windows_1251", "cp1251"),
  ("windows_1252", "cp1252"), ("windows_1253", "cp1253"), ("windows_1254", "cp1254"),
  ("windows_1255", "cp1255"), ("windows_1256", "cp1256"), ("windows_1257", "cp1257"),
  ("windows_1258", "cp1258"), ("x_mac_japanese", "shift_jis"), ("x_mac_korean", "euc_kr"),
  ("x_mac_simp_chinese", "gb2312"), ("x_mac_trad_chinese", "big5"), ("zip", "zlib_codec"),
  ("zlib", "zlib_codec")]

end GraphProbe.Text
