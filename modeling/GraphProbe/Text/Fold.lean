import GraphProbe.Text.Case

/-!
# Title case and case folding

Two more case mappings of Unicode, each kept as the characters where it differs from a
mapping already at hand:

* the *title case* of a character is its upper case except for the characters listed in
  `titleSpecial` (digraphs such as `ǆ`, whose title case is `ǅ`, and letters with marks);
* the *case folding* of a character is its lower case except for the characters listed in
  `foldSpecial` (`ß` folds to `ss`, the final sigma to `σ`).
-/

namespace GraphProbe.Text

/-- Characters whose title case differs from their upper case. -/
def titleSpecial : List (Nat × List Nat) := unpackSpecial "&U3VAQ<%U9c@!%$!%$*!%$!%$*!%$!%KQJ!%$!&gHyFSB%QlGSa:!Q!$%%&*!%$%%RT7TY,!+$%%$3!+$%%$8!+$%%$3!+$%
%$8!+$%%$3!+$%&&<XZK%$(&$XWKS&(&<)*%)XW6&*BX[A%$(&$XX;S.(&B)*%)XWJ&LR,X^M%$(&$XZ;S;(&Q0)*%)XY2&q
rNYX=Q<!%$!*($!1*($!!*&$@B&$!!&3Qd0Qe%&$!G&$!2&$:<&$97"

/-- Characters whose case folding differs from their lower case. -/
def foldSpecial : List (Nat × List Nat) := unpackSpecial "%T3vL&Q!z$!&R<mJ.%Q2mI&RC7r(%X)z4(QG!X73(F>!!%8&%4G%$2%(B%$1%@1%$4%(=&Y>f>Q6%RQMTU:!R$$%%&.!)$%%
QYKTj)%$(%$:%$*%$%%$!%$6%$Q,%$QT|D&]<QVV.sN&$>QM&$*(&$(!&$Q)S?%$XoD&&XnI!&T0z:r!(%!!K(%!!%(%!!S(
&Q!WwNWL!+$%!&$3!!+$%!&$Q,!!+$%!&$3!!+$%!&$RD!!+$%!&$3!!+$%!&&8!&$XR.!&$.!&%0UA($!!UB&)!UB%%6&(X
R%XR$&$XR)!&$7!&%8UA($!!UB&)!UB(*(X75($!!%&&!RF($!RERF(1>!S)($!!%&$+<&%,R0($!RERF&1XQJX8&$XQA!&$
0!&%.UA($!!UB&)!UB%fZ!Tk(!QK$%&[g&Un)!!%$!*($!1*($!!*&$@B&$!!&3Qe!Qe%&$!G&$!2&$:<&$97"

/-- The title case of a character. -/
def titleChar (c : Char) : List Char :=
  match titleSpecial.lookup c.toNat with
  | some ms => ms.map Char.ofNat
  | none => upperChar c

/-- The case folding of a character. -/
def foldChar (c : Char) : List Char :=
  match foldSpecial.lookup c.toNat with
  | some ms => ms.map Char.ofNat
  | none => lowerChar c

end GraphProbe.Text
