import Mathlib
import GraphProbe.Response.Path

/-!
# Reading a path by longest tokens

A path expression is read from the left, each time taking the longest token that starts
where the reading stands. This module states that reading on its own terms, as a grammar of
token texts and a relation, and proves that `Path.parse` carries it out:

* `Lexeme t s`: `t` is the text of a name, an index or a quoted key, and stands for the step
  `s`;
* `Tokenizable cs`: `cs` is a concatenation of token texts, cut in any way;
* `Reads cs ts r`: reading `cs` by longest tokens takes the tokens `ts` and stops before `r`,
  which is empty or starts with no token.

The three kinds of token never compete for a longer text. A name can only grow by name
characters, which start no other token, and an index or a quoted key has no token as a proper
prefix. So the reading never cuts a text that splits into tokens in some other way
(`Reads.tokenizable_iff`), and where it stops is the end of the longest prefix that it reads
whole (`Reads.length_le`).

On the side of the implementation, `token_lexeme` and `token_eq_none` say what the first
token found is, and `tokens_of_reads` follows a reading to the end. The main statement is
`parse_by_longest_tokens`: every expression has its reading, and `Path.parse` returns the
reading's steps, or stops at its end with the position counted in code points, provided that
the reading takes no index with more digits than a number may have.
-/

namespace GraphProbe

namespace Text

/-- Code points of a spelling split where the first part does not end in the escape
character. -/
theorem points_append : ∀ {a b : List Char}, (∀ x ∈ a.getLast?, x ≠ escapeMark) →
    points (a ++ b) = points a ++ points b
  | [], _, _ => rfl
  | [_], [], _ => by simp [points]
  | [c], d :: b, h => by
    have hc : c ≠ escapeMark := h c (by simp)
    simp [points, hc]
  | c :: d :: a, b, h => by
    have hda : ∀ x ∈ (d :: a).getLast?, x ≠ escapeMark := fun x hx =>
      h x (by simpa [List.getLast?_cons_cons] using hx)
    by_cases hc : c = escapeMark
    · -- the escape character and the next one spell one code point
      have ha : ∀ x ∈ a.getLast?, x ≠ escapeMark := by
        cases a with
        | nil => simp
        | cons e a => simpa [List.getLast?_cons_cons] using hda
      simp [points, hc, points_append ha]
    · have hrest := points_append (b := b) hda
      simp only [List.cons_append] at hrest ⊢
      simp only [points, beq_iff_eq, hc, ↓reduceIte, hrest, List.cons_append]

end Text

namespace Path

/-! ### The token grammar -/

/-- The text of a name token: an optional dot, a name start, name characters. -/
def nameText (dot : Bool) (c : Char) (cs : List Char) : List Char :=
  (if dot then ['.'] else []) ++ c :: cs

/-- The text of an index token: `[`, an optional minus, the digits, `]`. -/
def indexText (neg : Bool) (ds : List Char) : List Char :=
  '[' :: ((if neg then ['-'] else []) ++ ds ++ [']'])

/-- The text of a quoted-key token: `[`, a quote, the key, a quote, `]`. -/
def keyText (q q' : Char) (ks : List Char) : List Char := '[' :: q :: (ks ++ [q', ']'])

/-- The number an index token stands for: the value of its digits, negated after a minus. -/
def indexValue (neg : Bool) (ds : List Char) : Int :=
  let v := Number.digitsValue (ds.map fun c => (Text.digitValue? c).getD 0)
  if neg then -(v : Int) else v

/-- Token texts and the steps they stand for. -/
inductive Lexeme : List Char → Step → Prop
  | name (dot : Bool) (c : Char) (cs : List Char) (hc : isNameStart c)
      (hcs : ∀ d ∈ cs, isNameChar d) : Lexeme (nameText dot c cs) (.key (String.ofList (c :: cs)))
  | index (neg : Bool) (ds : List Char) (hne : ds ≠ [])
      (hds : ∀ d ∈ ds, Text.isDecimalDigit d) : Lexeme (indexText neg ds) (.index (indexValue neg ds))
  | key (q q' : Char) (ks : List Char) (hq : isQuote q) (hq' : isQuote q') (hne : ks ≠ [])
      (hks : ∀ k ∈ ks, isQuote k = false) : Lexeme (keyText q q' ks) (.key (String.ofList ks))

/-- A text is a run of tokens when it is a concatenation of token texts. -/
def Tokenizable (cs : List Char) : Prop :=
  ∃ ts : List (List Char × Step), (∀ x ∈ ts, Lexeme x.1 x.2) ∧ ts.flatMap Prod.fst = cs

/-- `t` is at least as long as every token text at the front of `cs`. -/
def Longest (t cs : List Char) : Prop :=
  ∀ t' s', Lexeme t' s' → t' <+: cs → t'.length ≤ t.length

/-- Reading by longest tokens: `Reads cs ts r` when taking, each time, the longest token at
the front turns `cs` into the tokens `ts` (text and step) followed by `r`, where no token
starts. -/
inductive Reads : List Char → List (List Char × Step) → List Char → Prop
  | stop {r : List Char} (hr : ∀ t s, Lexeme t s → ¬ t <+: r) : Reads r [] r
  | take {t rest r : List Char} {s : Step} {ts : List (List Char × Step)} (ht : Lexeme t s)
      (hlong : Longest t (t ++ rest)) (hrest : Reads rest ts r) : Reads (t ++ rest) ((t, s) :: ts) r

/-- An index token with more digits than a number may have. -/
def LongIndex (t : List Char) : Prop :=
  ∃ neg ds, t = indexText neg ds ∧ (∀ d ∈ ds, Text.isDecimalDigit d) ∧
    Number.maxIntDigits < ds.length

/-! ### Runs of characters of one class -/

section Runs

variable {p : Char → Bool} {u v w : List Char}

/-- A prefix made of characters of a class lies inside the longest such prefix. -/
theorem prefix_takeWhile (hu : u <+: v) (hp : ∀ x ∈ u, p x) : u <+: v.takeWhile p := by
  obtain ⟨w, rfl⟩ := hu
  rw [List.takeWhile_append_of_pos hp]
  exact List.prefix_append u _

/-- A run followed by a character outside the class is the longest prefix of the class. -/
theorem takeWhile_run (hu : ∀ x ∈ u, p x) (hw : ∀ x ∈ w.head?, p x = false) :
    (u ++ w).takeWhile p = u := by
  rw [List.takeWhile_append_of_pos hu]
  cases w with
  | nil => simp
  | cons a w => simp [List.takeWhile_cons_of_neg, hw a rfl]

end Runs

/-! ### Tokens by their first characters -/

@[simp] theorem isNameStart_dot : isNameStart '.' = false := by decide
@[simp] theorem isNameStart_bracket : isNameStart '[' = false := by decide
@[simp] theorem isNameChar_dot : isNameChar '.' = false := by decide
@[simp] theorem isNameChar_bracket : isNameChar '[' = false := by decide
@[simp] theorem isDecimalDigit_bracket : Text.isDecimalDigit ']' = false := by decide
@[simp] theorem isDecimalDigit_minus : Text.isDecimalDigit '-' = false := by decide
@[simp] theorem isQuote_minus : isQuote '-' = false := by decide

theorem isNameChar_of_isNameStart {c : Char} (h : isNameStart c) : isNameChar c := by
  simp [isNameChar, h]

theorem not_isDecimalDigit_of_isQuote {c : Char} (h : isQuote c) : Text.isDecimalDigit c = false := by
  simp only [isQuote, Bool.or_eq_true, beq_iff_eq] at h
  rcases h with rfl | rfl <;> decide

/-- A minus is no digit, so two signed runs of digits agree in their signs. -/
theorem sign_eq {neg neg' : Bool} {d d' : Char} {x y : List Char} (hd : Text.isDecimalDigit d)
    (hd' : Text.isDecimalDigit d')
    (h : (if neg then ['-'] else []) ++ d :: x = (if neg' then ['-'] else []) ++ d' :: y) :
    neg = neg' ∧ d :: x = d' :: y := by
  cases neg <;> cases neg' <;>
    simp only [Bool.false_eq_true, ↓reduceIte, List.nil_append, List.cons_append,
      List.cons.injEq, true_and] at h ⊢
  · exact h
  · obtain ⟨rfl, -⟩ := h; simp at hd
  · obtain ⟨rfl, -⟩ := h; simp at hd'
  · exact h

namespace Lexeme

variable {t t' : List Char} {s s' : Step} {c : Char} {u : List Char}

theorem ne_nil (h : Lexeme t s) : t ≠ [] := by
  cases h with
  | name dot => cases dot <;> simp [nameText]
  | index => simp [indexText]
  | key => simp [keyText]

/-- A token ends in a character that is no escape character. -/
theorem getLast_ne_escape (h : Lexeme t s) : ∀ x ∈ t.getLast?, x ≠ Text.escapeMark := by
  intro x hx
  cases h with
  | name dot c cs hc hcs =>
    have hmem : x ∈ c :: cs := by
      simp only [nameText, List.getLast?_append] at hx
      simp at hx
      exact List.mem_of_getLast? hx
    have hname : isNameChar x := by
      rcases List.mem_cons.1 hmem with rfl | hx
      · exact isNameChar_of_isNameStart hc
      · exact hcs x hx
    rintro rfl
    exact absurd hname (by decide)
  | index =>
    simp [indexText, List.getLast?_cons, List.getLast?_append] at hx
    subst hx; decide
  | key =>
    simp [keyText, List.getLast?_cons, List.getLast?_append] at hx
    subst hx; decide

/-- Every token starts with a name start, a dot or a bracket. -/
theorem head_cases (h : Lexeme t s) (ht : t = c :: u) : isNameStart c ∨ c = '.' ∨ c = '[' := by
  cases h with
  | name dot c' cs hc' =>
    cases dot <;> simp [nameText] at ht <;> obtain ⟨rfl, -⟩ := ht
    · exact .inl hc'
    · exact .inr (.inl rfl)
  | index => simp [indexText] at ht; simp [← ht.1]
  | key => simp [keyText] at ht; simp [← ht.1]

/-- A token that starts with a name start is a name without a dot. -/
theorem of_isNameStart (h : Lexeme t s) (ht : t = c :: u) (hc : isNameStart c) :
    ∀ d ∈ u, isNameChar d := by
  cases h with
  | name dot c' cs _ hcs =>
    cases dot <;> simp [nameText] at ht <;> obtain ⟨rfl, rfl⟩ := ht
    · exact hcs
    · simp at hc
  | index => simp only [indexText, List.cons.injEq] at ht; simp [← ht.1] at hc
  | key => simp only [keyText, List.cons.injEq] at ht; simp [← ht.1] at hc

/-- Past its first character, a name holds only name characters. -/
theorem name_tail {dot : Bool} {c : Char} {cs : List Char} (hc : isNameStart c)
    (hcs : ∀ d ∈ cs, isNameChar d) : ∀ d ∈ (nameText dot c cs).tail, isNameChar d := by
  cases dot
  · simpa [nameText] using hcs
  · simpa [nameText, isNameChar_of_isNameStart hc] using hcs

/-- No token is a proper prefix of a token that starts with a bracket: the digits of an index
and the key of a quoted key run up to the first character that cannot continue them. -/
theorem eq_of_isPrefix (h : Lexeme t s) (h' : Lexeme t' s') (hp : t' <+: t)
    (hb : t.head? = some '[') : t' = t := by
  obtain ⟨z, hz⟩ := hp
  cases h with
  | name dot c cs hc =>
    cases dot <;> simp [nameText] at hb
    subst hb; simp at hc
  | index neg ds hne hds =>
    obtain ⟨d, ds, rfl⟩ := List.exists_cons_of_ne_nil hne
    have hd := hds d List.mem_cons_self
    cases h' with
    | name dot c' cs' hc' =>
      cases dot <;> simp [nameText, indexText] at hz
      obtain ⟨rfl, -⟩ := hz
      simp at hc'
    | index neg' ds' hne' hds' =>
      obtain ⟨d', ds', rfl⟩ := List.exists_cons_of_ne_nil hne'
      simp only [indexText, List.cons_append, List.cons.injEq, true_and, List.append_assoc] at hz
      obtain ⟨rfl, hrun⟩ := sign_eq (hds' d' List.mem_cons_self) hd hz
      -- both runs of digits end at the same bracket
      have hrun' : (d' :: ds') ++ ']' :: z = (d :: ds) ++ [']'] := by simpa using hrun
      have := congrArg (List.takeWhile Text.isDecimalDigit) hrun'
      rw [takeWhile_run hds' (by simp), takeWhile_run hds (by simp)] at this
      rw [this]
    | key q q' ks hq =>
      cases neg <;> simp [keyText, indexText] at hz <;> obtain ⟨rfl, -⟩ := hz
      · simp [not_isDecimalDigit_of_isQuote hq] at hd
      · simp at hq
  | key q q' ks hq hq' hne hks =>
    cases h' with
    | name dot c' cs' hc' =>
      cases dot <;> simp [nameText, keyText] at hz
      obtain ⟨rfl, -⟩ := hz
      simp at hc'
    | index neg' ds' hne' hds' =>
      obtain ⟨d, ds', rfl⟩ := List.exists_cons_of_ne_nil hne'
      have hd := hds' d List.mem_cons_self
      cases neg' <;> simp [keyText, indexText] at hz <;> obtain ⟨rfl, -⟩ := hz
      · simp [not_isDecimalDigit_of_isQuote hq] at hd
      · simp at hq
    | key r r' ks' hr hr' hne' hks' =>
      -- the same opening quote, then both keys run up to the first quote
      simp only [keyText, List.cons_append, List.cons.injEq, List.append_assoc, true_and] at hz
      obtain ⟨rfl, hrun⟩ := hz
      have := congrArg (List.takeWhile fun k => !isQuote k) hrun
      rw [takeWhile_run (by simpa using hks') (by simp [hr']),
        takeWhile_run (by simpa using hks) (by simp [hq'])] at this
      subst this
      simp only [List.append_cancel_left_eq, List.cons.injEq] at hrun
      rw [hrun.1]

/-- A token that starts with a name character is a name made of name characters only. -/
theorem all_nameChar (h : Lexeme t s) (ht : t = c :: u) (hc : isNameChar c) :
    ∀ d ∈ t, isNameChar d := by
  have hstart : isNameStart c := by
    rcases h.head_cases ht with hs | rfl | rfl
    · exact hs
    · simp at hc
    · simp at hc
  subst ht
  simpa [hc] using h.of_isNameStart rfl hstart

end Lexeme

/-- A name is taken whole: when it is the longest token at the front, the text goes on with
no name character. -/
theorem Longest.next_of_name {dot : Bool} {c : Char} {cs rest : List Char} (hc : isNameStart c)
    (hcs : ∀ d ∈ cs, isNameChar d) (hlong : Longest (nameText dot c cs) (nameText dot c cs ++ rest)) :
    ∀ d ∈ rest.head?, isNameChar d = false := by
  intro d hd
  cases rest with
  | nil => simp at hd
  | cons e rest =>
    simp only [List.head?_cons, Option.mem_def, Option.some.injEq] at hd
    subst hd
    by_contra he
    -- the name with `e` added would be a longer token at the front
    have hcs' : ∀ d ∈ cs ++ [e], isNameChar d := by
      intro d hd
      rcases List.mem_append.1 hd with hd | hd
      · exact hcs d hd
      · rw [List.mem_singleton.1 hd]
        simpa using he
    have hlen := hlong _ _ (Lexeme.name dot c (cs ++ [e]) hc hcs') ⟨rest, by simp [nameText]⟩
    have hlonger : (nameText dot c cs).length < (nameText dot c (cs ++ [e])).length := by
      simp [nameText]
    omega

/-! ### Readings -/

/-- A text that is a run of tokens stays one when a run of name characters is cut from its
front and what follows starts with no name character. -/
theorem Tokenizable.drop_names {m rest : List Char} (hm : ∀ d ∈ m, isNameChar d)
    (hrest : ∀ d ∈ rest.head?, isNameChar d = false) (h : Tokenizable (m ++ rest)) :
    Tokenizable rest := by
  obtain ⟨ts, hts, hcat⟩ := h
  -- induction on the tokens: the first one lies inside the run, so the run gets shorter
  induction ts generalizing m with
  | nil =>
    simp only [List.flatMap_nil, List.nil_eq_append_iff] at hcat
    exact ⟨[], by simp, by simp [hcat.2]⟩
  | cons x ts ih =>
    cases m with
    | nil => exact ⟨x :: ts, hts, hcat⟩
    | cons c m =>
      have hx := hts x List.mem_cons_self
      obtain ⟨c', u, hx1⟩ := List.exists_cons_of_ne_nil hx.ne_nil
      have hcat' : x.1 ++ ts.flatMap Prod.fst = c :: m ++ rest := by simpa using hcat
      have hc' : c' = c := by
        rw [hx1] at hcat'
        exact (List.cons.inj hcat').1
      subst hc'
      have hall := hx.all_nameChar hx1 (hm c' List.mem_cons_self)
      have hpre : x.1 <+: c' :: m := by
        have := prefix_takeWhile ⟨_, hcat'⟩ hall
        rwa [takeWhile_run hm hrest] at this
      obtain ⟨m', hm'⟩ := hpre
      refine ih (m := m') (fun d hd => hm d (hm' ▸ List.mem_append_right _ hd))
        (fun y hy => hts y (List.mem_cons_of_mem _ hy)) ?_
      rw [← hm', List.append_assoc] at hcat'
      exact List.append_cancel_left hcat'

/-- Taking the longest token at the front keeps a run of tokens a run of tokens. -/
theorem Tokenizable.drop_longest {t rest : List Char} {s : Step} (h : Tokenizable (t ++ rest))
    (ht : Lexeme t s) (hlong : Longest t (t ++ rest)) : Tokenizable rest := by
  obtain ⟨ts, hts, hcat⟩ := h
  cases ts with
  | nil =>
    simp only [List.flatMap_nil, List.nil_eq_append_iff] at hcat
    exact absurd hcat.1 ht.ne_nil
  | cons x ts =>
    have hx := hts x List.mem_cons_self
    have hcat' : x.1 ++ ts.flatMap Prod.fst = t ++ rest := by simpa using hcat
    -- the first token of the run is no longer than the longest one, so it lies inside it
    obtain ⟨m, hm⟩ : x.1 <+: t :=
      List.prefix_of_prefix_length_le ⟨_, hcat'⟩ (List.prefix_append t rest)
        (hlong x.1 x.2 hx ⟨_, hcat'⟩)
    have hrest : ts.flatMap Prod.fst = m ++ rest := by
      rw [← hm, List.append_assoc] at hcat'
      exact List.append_cancel_left hcat'
    have hts' : ∀ y ∈ ts, Lexeme y.1 y.2 := fun y hy => hts y (List.mem_cons_of_mem _ hy)
    cases ht with
    | name dot c cs hc hcs =>
      -- what the first token leaves of the name is a run of name characters
      have hm' : ∀ d ∈ m, isNameChar d := by
        obtain ⟨c', u, hx1⟩ := List.exists_cons_of_ne_nil hx.ne_nil
        intro d hd
        apply @Lexeme.name_tail dot c cs hc hcs
        rw [← hm, hx1]
        exact List.mem_append_right _ hd
      exact Tokenizable.drop_names hm' (Longest.next_of_name hc hcs hlong) ⟨ts, hts', hrest⟩
    | index neg ds hne hds =>
      have hxt := (Lexeme.index neg ds hne hds).eq_of_isPrefix hx ⟨m, hm⟩ (by simp [indexText])
      rw [hxt, List.append_right_eq_self] at hm
      exact ⟨ts, hts', by simpa [hm] using hrest⟩
    | key q q' ks hq hq' hne hks =>
      have hxt := (Lexeme.key q q' ks hq hq' hne hks).eq_of_isPrefix hx ⟨m, hm⟩ (by simp [keyText])
      rw [hxt, List.append_right_eq_self] at hm
      exact ⟨ts, hts', by simpa [hm] using hrest⟩

/-- When some token starts a text, a longest one does. -/
theorem exists_longest {cs : List Char} (h : ∃ t s, Lexeme t s ∧ t <+: cs) :
    ∃ t s rest, Lexeme t s ∧ cs = t ++ rest ∧ Longest t cs := by
  classical
  let P : ℕ → Prop := fun n => ∃ t s, Lexeme t s ∧ t <+: cs ∧ t.length = n
  obtain ⟨t₀, s₀, h₀, hp₀⟩ := h
  obtain ⟨t, s, ht, ⟨rest, hrest⟩, hlen⟩ : P (Nat.findGreatest P cs.length) :=
    Nat.findGreatest_spec hp₀.length_le ⟨t₀, s₀, h₀, hp₀, rfl⟩
  refine ⟨t, s, rest, ht, hrest.symm, fun t' s' h' hp' => ?_⟩
  rw [hlen]
  exact Nat.le_findGreatest hp'.length_le ⟨t', s', h', hp', rfl⟩

/-- Every text has its reading by longest tokens. -/
theorem exists_reads (cs : List Char) : ∃ ts r, Reads cs ts r := by
  induction hn : cs.length using Nat.strong_induction_on generalizing cs with
  | _ n ih =>
    by_cases h : ∃ t s, Lexeme t s ∧ t <+: cs
    · obtain ⟨t, s, rest, ht, rfl, hlong⟩ := exists_longest h
      have hlt : rest.length < n := by
        have := List.length_pos_of_ne_nil ht.ne_nil
        simp only [List.length_append] at hn
        omega
      obtain ⟨ts, r, hr⟩ := ih _ hlt rest rfl
      exact ⟨_, _, .take ht hlong hr⟩
    · simp only [not_exists, not_and] at h
      exact ⟨[], cs, .stop h⟩

namespace Reads

variable {cs r : List Char} {ts : List (List Char × Step)}

/-- A reading cuts its text into its tokens and what it stops before. -/
theorem split (h : Reads cs ts r) :
    (∀ x ∈ ts, Lexeme x.1 x.2) ∧ cs = ts.flatMap Prod.fst ++ r := by
  induction h with
  | stop => simp
  | take ht _ _ ih =>
    refine ⟨?_, by simp [ih.2]⟩
    simpa [ht] using ih.1

/-- Each token takes at least one character. -/
theorem length_le_length (h : Reads cs ts r) : ts.length ≤ cs.length := by
  induction h with
  | stop => simp
  | take ht _ _ ih =>
    have := List.length_pos_of_ne_nil ht.ne_nil
    simp only [List.length_cons, List.length_append]
    omega

/-- A reading gets to the end of its text exactly when the text is a run of tokens, cut in
any way. -/
theorem tokenizable_iff (h : Reads cs ts r) : Tokenizable cs ↔ r = [] := by
  constructor
  · intro htok
    induction h with
    | @stop r hr =>
      obtain ⟨ts, hts, hcat⟩ := htok
      cases ts with
      | nil => simpa using hcat.symm
      | cons x ts =>
        have hcat' : x.1 ++ ts.flatMap Prod.fst = r := by simpa using hcat
        exact absurd ⟨_, hcat'⟩ (hr x.1 x.2 (hts x List.mem_cons_self))
    | take ht hlong _ ih => exact ih (htok.drop_longest ht hlong)
  · rintro rfl
    obtain ⟨hts, hcat⟩ := h.split
    exact ⟨ts, hts, by simp [hcat]⟩

/-- What a reading takes is the longest prefix of its text that a reading takes whole. -/
theorem length_le (h : Reads cs ts r) {u : List Char} {us : List (List Char × Step)}
    (hu : u <+: cs) (hread : Reads u us []) : u.length ≤ (ts.flatMap Prod.fst).length := by
  induction h generalizing u us with
  | stop hr =>
    cases hread with
    | stop => simp
    | take ht' _ _ => exact absurd ((List.prefix_append _ _).trans hu) (hr _ _ ht')
  | @take t rest r s ts ht hlong hrest ih =>
    cases hread with
    | stop => simp
    | @take t' rest' _ s' us' ht' hlong' hrest' =>
      simp only [List.flatMap_cons, List.length_append]
      by_cases hlen : t'.length + rest'.length ≤ t.length
      · omega
      · -- the prefix reaches past `t`, so both readings start with the same token
        have htu : t <+: t' ++ rest' :=
          List.prefix_of_prefix_length_le (List.prefix_append t rest) hu (by simp; omega)
        have h₁ := hlong t' s' ht' ((List.prefix_append t' rest').trans hu)
        have h₂ := hlong' t s ht htu
        have htt : t' = t :=
          List.IsPrefix.eq_of_length (List.prefix_of_prefix_length_le
            (List.prefix_append t' rest') htu (by omega)) (by omega)
        subst htt
        have := ih ((List.prefix_append_right_inj t').1 hu) hrest'
        omega

end Reads

/-! ### The first token the implementation finds -/

section Front

variable {cs rest : List Char} {x : Token}

theorem nameToken_bracket (rest : List Char) : nameToken ('[' :: rest) = none := by
  simp [nameToken]

theorem nameToken_nameText {dot : Bool} {c : Char} {cs : List Char} (hc : isNameStart c)
    (hcs : ∀ d ∈ cs, isNameChar d) (hnext : ∀ d ∈ rest.head?, isNameChar d = false) :
    nameToken (nameText dot c cs ++ rest) = some (.key (String.ofList (c :: cs)), rest) := by
  have hrun : (cs ++ rest).takeWhile isNameChar = cs := takeWhile_run hcs hnext
  cases dot <;> simp [nameToken, nameText, hc, hrun]

theorem indexToken_indexText {neg : Bool} {ds : List Char} (hne : ds ≠ [])
    (hds : ∀ d ∈ ds, Text.isDecimalDigit d) :
    indexToken (indexText neg ds ++ rest) = some (if Number.maxIntDigits < ds.length
      then .error ds.length else .ok (.index (indexValue neg ds), rest)) := by
  obtain ⟨d, ds, rfl⟩ := List.exists_cons_of_ne_nil hne
  have hd : d ≠ '-' := by
    rintro rfl
    simpa using hds '-' List.mem_cons_self
  have hrun : (d :: (ds ++ ']' :: rest)).takeWhile Text.isDecimalDigit = d :: ds :=
    takeWhile_run (u := d :: ds) hds (by simp)
  cases neg <;> simp [indexToken, indexText, hd, hrun, indexValue] <;> split <;> rfl

theorem indexToken_keyText {q q' : Char} {ks : List Char} (hq : isQuote q) :
    indexToken (keyText q q' ks ++ rest) = none := by
  have hq₀ : q ≠ '-' := by
    rintro rfl
    simp at hq
  have hq₁ : q ≠ ']' := by
    rintro rfl
    simp [isQuote] at hq
  simp [indexToken, keyText, hq₀, hq₁, not_isDecimalDigit_of_isQuote hq]

theorem keyToken_keyText {q q' : Char} {ks : List Char} (hq : isQuote q) (hq' : isQuote q')
    (hne : ks ≠ []) (hks : ∀ k ∈ ks, isQuote k = false) :
    keyToken (keyText q q' ks ++ rest) = some (.key (String.ofList ks), rest) := by
  have hrun : (ks ++ q' :: ']' :: rest).takeWhile (fun c => !isQuote c) = ks :=
    takeWhile_run (by simpa using hks) (by simp [hq'])
  simp [keyToken, keyText, hq, hq', hrun, hne]

/-- Whatever the name reader finds, a name token starts the text. -/
theorem nameToken_front {y : Token} (h : nameToken cs = some y) : ∃ t s, Lexeme t s ∧ t <+: cs := by
  match cs, h with
  | c :: cs', h =>
    by_cases hc : isNameStart c
    · exact ⟨_, _, .name false c [] hc (by simp), ⟨cs', by simp [nameText]⟩⟩
    · -- otherwise only a dot followed by a name start gives a name
      simp only [nameToken, hc, Bool.false_eq_true, ↓reduceIte] at h
      split_ifs at h with hdot
      · cases cs' with
        | nil => simp at h
        | cons d cs'' =>
          by_cases hd : isNameStart d
          · simp only [beq_iff_eq] at hdot
            subst hdot
            exact ⟨_, _, .name true d [] hd (by simp), ⟨cs'', by simp [nameText]⟩⟩
          · simp [hd] at h

/-- Whatever the index reader finds, an index token starts the text. -/
theorem indexToken_front {y : Except Nat Token} (h : indexToken cs = some y) :
    ∃ t s, Lexeme t s ∧ t <+: cs := by
  unfold indexToken at h
  split at h
  · rename_i R
    split at h
    rename_i neg body hsign
    have hR : R = (if neg then ['-'] else []) ++ body := by
      split at hsign <;> cases hsign <;> rfl
    simp only at h
    split at h
    · rename_i after hafter
      by_cases hempty : (body.takeWhile Text.isDecimalDigit).isEmpty
      · simp [hempty] at h
      · -- the digits before the bracket make an index
        refine ⟨_, _, .index neg _ (by simpa using hempty) fun d hd => List.mem_takeWhile_imp hd,
          after, ?_⟩
        have hbody := List.prefix_iff_eq_append.1 (List.takeWhile_prefix Text.isDecimalDigit (l := body))
        rw [hafter] at hbody
        generalize body.takeWhile Text.isDecimalDigit = digits at hbody ⊢
        subst hbody
        simp [indexText, hR]
    · simp at h
  · simp at h

/-- Whatever the key reader finds, a quoted-key token starts the text. -/
theorem keyToken_front {y : Token} (h : keyToken cs = some y) : ∃ t s, Lexeme t s ∧ t <+: cs := by
  unfold keyToken at h
  split at h
  · rename_i q rest'
    split_ifs at h with hq
    simp only at h
    split at h
    · rename_i q' after hafter
      -- the key runs up to the first quote, which the bracket follows
      have hbody := List.prefix_iff_eq_append.1
        (List.takeWhile_prefix (fun c => !isQuote c) (l := rest'))
      have hks : ∀ k ∈ rest'.takeWhile (fun c => !isQuote c), isQuote k = false :=
        fun k hk => by simpa using List.mem_takeWhile_imp hk
      rw [hafter] at hbody
      generalize rest'.takeWhile (fun c => !isQuote c) = ks at hbody hks h
      subst hbody
      split_ifs at h with hok
      simp only [Bool.and_eq_true, Bool.not_eq_eq_eq_not, Bool.not_true,
        List.isEmpty_eq_false_iff] at hok
      exact ⟨_, _, .key q q' ks hq hok.1 hok.2 hks, after, by simp [keyText]⟩
    · simp at h
  · simp at h

/-- The implementation finds no token exactly where no token starts. -/
theorem token_eq_none (h : ∀ t s, Lexeme t s → ¬ t <+: cs) : token cs = none := by
  have hfront : ¬ ∃ t s, Lexeme t s ∧ t <+: cs := fun ⟨t, s, ht, hp⟩ => h t s ht hp
  have hn : nameToken cs = none := by
    cases hx : nameToken cs with
    | none => rfl
    | some _ => exact absurd (nameToken_front hx) hfront
  have hi : indexToken cs = none := by
    cases hx : indexToken cs with
    | none => rfl
    | some _ => exact absurd (indexToken_front hx) hfront
  have hk : keyToken cs = none := by
    cases hx : keyToken cs with
    | none => rfl
    | some _ => exact absurd (keyToken_front hx) hfront
  simp [token, hn, hi, hk]

/-- The implementation takes the longest token at the front of a text, and refuses it only
when it is an index with too many digits. -/
theorem token_lexeme {t : List Char} {s : Step} (h : Lexeme t s) (hlong : Longest t (t ++ rest))
    (hshort : ¬ LongIndex t) : token (t ++ rest) = some (.ok (s, rest)) := by
  cases h with
  | name dot c cs hc hcs =>
    simp [token, nameToken_nameText hc hcs (Longest.next_of_name hc hcs hlong)]
  | index neg ds hne hds =>
    have hfits : ¬ Number.maxIntDigits < ds.length := fun hlt => hshort ⟨neg, ds, rfl, hds, hlt⟩
    have hn : nameToken (indexText neg ds ++ rest) = none := by simp [indexText, nameToken_bracket]
    simp [token, hn, indexToken_indexText hne hds, hfits]
  | key q q' ks hq hq' hne hks =>
    have hn : nameToken (keyText q q' ks ++ rest) = none := by simp [keyText, nameToken_bracket]
    simp [token, hn, indexToken_keyText hq, keyToken_keyText hq hq' hne hks]

end Front

/-! ### The implementation follows the reading -/

/-- Along a reading that takes no overlong index, the implementation returns the reading's
steps when the reading gets to the end, and otherwise stops where the reading stops, at the
position counted in code points. The fuel only has to cover the tokens. -/
theorem tokens_of_reads {cs r : List Char} {ts : List (List Char × Step)} (h : Reads cs ts r)
    (hshort : ∀ x ∈ ts, ¬ LongIndex x.1) (pos fuel : Nat) (hfuel : ts.length ≤ fuel) :
    tokens cs pos fuel = if r = [] then .ok (ts.map Prod.snd)
      else .error (.invalidAt (pos + (Text.points (ts.flatMap Prod.fst)).length)) := by
  induction h generalizing pos fuel with
  | @stop r hr =>
    cases r with
    | nil => cases fuel <;> simp [tokens]
    | cons c r => cases fuel <;> simp [tokens, Text.points, token_eq_none hr]
  | @take t rest r s ts ht hlong hrest ih =>
    obtain ⟨fuel, rfl⟩ : ∃ f, fuel = f + 1 := ⟨fuel - 1, by simp at hfuel; omega⟩
    have hnext := ih (fun x hx => hshort x (List.mem_cons_of_mem _ hx)) (pos + (Text.points t).length)
      fuel (by simpa using hfuel)
    have hstep : tokens (t ++ rest) pos (fuel + 1) =
        (tokens rest (pos + (Text.points t).length) fuel).map (s :: ·) := by
      rw [tokens.eq_3 _ _ _ (by simp [ht.ne_nil]),
        token_lexeme ht hlong (hshort _ List.mem_cons_self)]
      simp
    rw [hstep, hnext]
    split_ifs <;> simp [Except.map, Text.points_append ht.getLast_ne_escape, Nat.add_assoc]

/-- Reading a path text: every expression has its reading by longest tokens, and when that
reading takes no index with more digits than a number may have, `parse` returns the steps of
the reading if it gets to the end, and otherwise the position where it stops, counted in code
points. The reading gets to the end exactly when the expression is a concatenation of tokens,
and where it stops is the end of the longest prefix of the expression that a reading takes
whole. -/
theorem parse_by_longest_tokens (text : String)
    (hshort : ∀ ts r, Reads (expression text) ts r → ∀ x ∈ ts, ¬ LongIndex x.1) :
    ∃ ts r, Reads (expression text) ts r ∧
      parse text = (if r = [] then .ok (ts.map Prod.snd)
        else .error (.invalidAt (Text.points (ts.flatMap Prod.fst)).length)) ∧
      (Tokenizable (expression text) ↔ r = []) ∧
      ∀ u us, u <+: expression text → Reads u us [] → u.length ≤ (ts.flatMap Prod.fst).length := by
  obtain ⟨ts, r, h⟩ := exists_reads (expression text)
  refine ⟨ts, r, h, ?_, h.tokenizable_iff, fun u us hu hread => h.length_le hu hread⟩
  simpa [parse] using tokens_of_reads h (hshort ts r h) 0 _ h.length_le_length

/-- The reading of a path with a name, a quoted key and a negative index: no index in it can
be too long, since the whole expression has eighteen characters. -/
theorem parse_by_longest_tokens_mixed :
    (∀ ts r, Reads (expression "$.data[\"items\"][-1]") ts r → ∀ x ∈ ts, ¬ LongIndex x.1) ∧
    ∃ ts r, Reads (expression "$.data[\"items\"][-1]") ts r ∧
      parse "$.data[\"items\"][-1]" = (if r = [] then .ok (ts.map Prod.snd)
        else .error (.invalidAt (Text.points (ts.flatMap Prod.fst)).length)) ∧
      (Tokenizable (expression "$.data[\"items\"][-1]") ↔ r = []) ∧
      ∀ u us, u <+: expression "$.data[\"items\"][-1]" → Reads u us [] →
        u.length ≤ (ts.flatMap Prod.fst).length := by
  have hshort : ∀ ts r, Reads (expression "$.data[\"items\"][-1]") ts r →
      ∀ x ∈ ts, ¬ LongIndex x.1 := by
    rintro ts r h x hx ⟨neg, ds, hx₁, -, hlong⟩
    have hin : x.1 <:+: ts.flatMap Prod.fst := by
      rw [List.flatMap_def]
      exact List.infix_of_mem_flatten (List.mem_map_of_mem hx)
    have hle := (hin.trans (List.prefix_append _ r).isInfix).length_le
    rw [← h.split.2, hx₁] at hle
    have hsize : (expression "$.data[\"items\"][-1]").length = 18 := by decide
    simp only [indexText, List.length_cons, List.length_append, hsize] at hle
    unfold Number.maxIntDigits at hlong
    omega
  exact ⟨hshort, parse_by_longest_tokens _ hshort⟩

end Path

end GraphProbe
