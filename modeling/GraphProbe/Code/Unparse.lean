import GraphProbe.Code.Tree
import GraphProbe.Text.Quote
import GraphProbe.Number.Text

/-!
# Expressions written back as source

Under `from __future__ import annotations` an annotation is kept as the text the compiler
writes back from its tree, not as its value. The compiler writes each expression at a
binding strength, and brackets it when the place needs a stronger one than it has:

0 a tuple, 1 a conditional expression, 2 `or`, 3 `and`, 4 `not`, 5 a comparison, 6 `|`,
7 `^`, 8 `&`, 9 shifts, 10 `+` and `-`, 11 `*` and the other products, 12 a unary sign,
13 `**`, 14 `await`, 15 an atom.

Only the expressions annotations are mostly made of are written here: names, attributes,
subscripts and slices, calls, lambdas, displays of lists and tuples, literals other than
imaginary numbers, and the operators. For the others there is no text.
-/

namespace GraphProbe.Code

namespace Expr

/-- The text and binding strength of a binary operator. -/
def binaryText : BinaryOp -> String × Nat
  | .bitOr => (" | ", 6)
  | .bitXor => (" ^ ", 7)
  | .bitAnd => (" & ", 8)
  | .shiftLeft => (" << ", 9)
  | .shiftRight => (" >> ", 9)
  | .add => (" + ", 10)
  | .sub => (" - ", 10)
  | .mul => (" * ", 11)
  | .matMul => (" @ ", 11)
  | .div => (" / ", 11)
  | .floorDiv => (" // ", 11)
  | .mod => (" % ", 11)
  | .pow => (" ** ", 13)

/-- The text of a comparison operator. -/
def compareText : CompareOp -> String
  | .eq => " == "
  | .ne => " != "
  | .lt => " < "
  | .le => " <= "
  | .gt => " > "
  | .ge => " >= "
  | .isIn => " in "
  | .notIn => " not in "
  | .is => " is "
  | .isNot => " is not "

/-- The texts of parameters with `/` after the last positional-only one. -/
def slashAfter (params : List Param) (texts : List String) : List String :=
  let k := (params.filter (·.kind == .positionalOnly)).length
  if k == 0 then texts else texts.take (k - 1) ++ [String.join (texts.drop (k - 1) |>.take 1) ++
    ", /"] ++ texts.drop k

/-- The texts of parameters with a bare `*` before the first keyword-only one, when no
parameter gathers the positional arguments left over. -/
def starBefore (params : List Param) (texts : List String) : List String :=
  if params.any (·.kind == .varPositional) then texts
  else
    match params.findIdx? (·.kind == .keywordOnly) with
    | some i => texts.take i ++ ["*"] ++ texts.drop i
    | none => texts

/-- Brackets around a text when the place needs a stronger binding than it has. -/
def bracketIf (cond : Bool) (s : String) : String := if cond then "(" ++ s ++ ")" else s

/-- The source text of an expression at a place that needs binding strength `level`, if
it is one written here; `fuel` bounds the depth. -/
def unparseAt : Nat -> Nat -> Expr -> Option String
  | 0, _, _ => none
  | fuel + 1, level, e =>
    let sub := unparseAt fuel
    match e with
    | .name n => some n
    | .noneLit => some "None"
    | .trueLit => some "True"
    | .falseLit => some "False"
    | .ellipsis => some "..."
    | .int n => some (toString n)
    -- a literal too large for a double is written as one that is still too large
    | .float x => some (Number.floatText ⟨"nan", "1e309"⟩ x)
    | .str s => some (Text.quote s)
    | .bytes bs => some (Text.quoteBytes bs)
    | .attribute o a => do
      -- an integer needs a space before the dot, which would otherwise start a fraction
      let dot := if o matches .int _ then " ." else "."
      pure ((<- sub 15 o) ++ dot ++ a)
    | .subscript o i => do
      pure ((<- sub 15 o) ++ "[" ++ (<- sub 0 i) ++ "]")
    | .slice lo hi step => do
      let part (x : Option Expr) : Option String := match x with
        | some x => sub 1 x
        | none => some ""
      let stepText <- match step with
        | some x => do pure (":" ++ (<- sub 1 x))
        | none => pure ""
      pure ((<- part lo) ++ ":" ++ (<- part hi) ++ stepText)
    | .call f args kws => do
      let fn <- sub 15 f
      let parts <- args.mapM (sub 1)
      let named <- kws.mapM fun (k, v) => do
        let t <- sub 1 v
        pure (match k with
          | some k => k ++ "=" ++ t
          | none => "**" ++ t)
      pure (fn ++ "(" ++ ", ".intercalate (parts ++ named) ++ ")")
    | .starred x => do pure ("*" ++ (<- sub 6 x))
    | .list items => do pure ("[" ++ ", ".intercalate (<- items.mapM (sub 1)) ++ "]")
    | .tuple [] => some "()"
    | .tuple items => do
      let parts <- items.mapM (sub 1)
      let body := ", ".intercalate parts ++ (if parts.length == 1 then "," else "")
      pure (bracketIf (level > 0) body)
    | .binary op l r => do
      let (text, pr) := binaryText op
      let right := op == .pow
      let lt <- sub (if right then pr + 1 else pr) l
      let rt <- sub (if right then pr else pr + 1) r
      pure (bracketIf (level > pr) (lt ++ text ++ rt))
    | .unary op x => do
      let (text, pr) := match op with
        | .not => ("not ", 4)
        | .minus => ("-", 12)
        | .plus => ("+", 12)
        | .invert => ("~", 12)
      pure (bracketIf (level > pr) (text ++ (<- sub pr x)))
    | .and l r => do
      -- a chain of `and` is one operation, read as a nest to the left: only a nest on the
      -- right was bracketed
      let left := sub (if l matches .and .. then 3 else 4) l
      pure (bracketIf (level > 3) ((<- left) ++ " and " ++ (<- sub 4 r)))
    | .or l r => do
      let left := sub (if l matches .or .. then 2 else 3) l
      pure (bracketIf (level > 2) ((<- left) ++ " or " ++ (<- sub 3 r)))
    | .compare first rest => do
      let head <- sub 6 first
      let tail <- rest.mapM fun (op, x) => do pure (compareText op ++ (<- sub 6 x))
      pure (bracketIf (level > 5) (head ++ String.join tail))
    | .ifElse test body orelse => do
      let t := (<- sub 2 body) ++ " if " ++ (<- sub 2 test) ++ " else " ++ (<- sub 1 orelse)
      pure (bracketIf (level > 1) t)
    | .lambda params defaults body => do
      -- each parameter with a default takes the next of the defaults
      let start : List String × List Expr := ([], defaults)
      let (texts, _) <- params.foldlM (fun (acc, ds) p => do
          let mark := match p.kind with
            | .varPositional => "*"
            | .varKeyword => "**"
            | _ => ""
          if p.hasDefault then
            match ds with
            | d :: rest => pure (acc ++ [mark ++ p.name ++ "=" ++ (<- sub 1 d)], rest)
            | [] => none
          else pure (acc ++ [mark ++ p.name], ds)) start
      let texts := slashAfter params texts
      let texts := starBefore params texts
      let positional := params.any fun p => p.kind == .positionalOnly || p.kind == .normal
      let head := if positional then "lambda " else "lambda"
      pure (bracketIf (level > 1) (head ++ ", ".intercalate texts ++ ": " ++ (<- sub 1 body)))
    | _ => none

/-- The source text the compiler keeps for an annotation, if it is one written here. -/
def unparse? (e : Expr) : Option String := unparseAt 1000 1 e

end Expr

end GraphProbe.Code
