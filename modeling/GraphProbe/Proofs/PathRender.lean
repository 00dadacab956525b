import GraphProbe.Proofs.PathTokens

/-!
# Writing a path and reading it back

`Step.render` writes a step the way the path syntax spells it: a key that is a name as `.k`,
any other key as `['k']`, an index in decimal between brackets. `Path.render` writes the
steps one after another. Keys must not be empty or hold a quote, and indices must not have
more digits than a number may have (`Step.Writable`).

Main statement: `parse_render`, every path of writable steps reads back from its text, with
or without a leading `$` and with blanks around it. The text is read one written step at a
time (`token_render`): each step is found whole at the front, because the next one starts
with a dot or a bracket, neither of which continues a name. Blanks go because the text starts
with `$`, a dot or a bracket, and ends in a bracket or a name character.
-/

namespace GraphProbe

namespace Path

/-- Whether a key is written as a name: a name start followed by name characters. -/
def isNameKey (k : String) : Bool :=
  match k.toList with
  | c :: cs => isNameStart c && cs.all isNameChar
  | [] => false

end Path

/-- The text of a step. -/
def Step.render : Step → List Char
  | .key k =>
    if Path.isNameKey k then '.' :: k.toList
    else Path.keyText (Char.ofNat 0x27) (Char.ofNat 0x27) k.toList
  | .index i => Path.indexText (decide (i < 0)) (Nat.toDigits 10 i.natAbs)

/-- The steps that read back from their text: keys that are not empty and hold no quote, and
indices of at most `maxIntDigits` digits. -/
def Step.Writable : Step → Prop
  | .key k => k ≠ "" ∧ ∀ c ∈ k.toList, Path.isQuote c = false
  | .index i => (Nat.toDigits 10 i.natAbs).length ≤ Number.maxIntDigits

namespace Path

/-- The text of a path: its steps written one after another. -/
def render (p : Path) : String := String.ofList (p.flatMap Step.render)

/-! ### Decimal digits -/

theorem digitValue_digitChar : ∀ d < 10, Text.digitValue? (Nat.digitChar d) = some d := by
  decide

/-- The decimal digits of a number are decimal digits, and their value is the number. -/
theorem toDigits_decimal (n : Nat) :
    (∀ c ∈ Nat.toDigits 10 n, Text.isDecimalDigit c) ∧
      Number.digitsValue ((Nat.toDigits 10 n).map fun c => (Text.digitValue? c).getD 0) = n := by
  induction n using Nat.strong_induction_on with
  | _ n ih =>
    by_cases hn : n < 10
    · rw [Nat.toDigits_of_lt_base hn]
      simp [Text.isDecimalDigit, Number.digitsValue, digitValue_digitChar n hn]
    · -- the last digit goes after the digits of the number divided by ten
      have hsplit : Nat.toDigits 10 n = Nat.toDigits 10 (n / 10) ++ [Nat.digitChar (n % 10)] := by
        rw [← Nat.toDigits_of_lt_base (Nat.mod_lt n (by omega)),
          Nat.toDigits_append_toDigits (by omega) (by omega) (Nat.mod_lt n (by omega))]
        congr 1
        omega
      obtain ⟨hdigits, hvalue⟩ := ih (n / 10) (by omega)
      have hlast := digitValue_digitChar (n % 10) (Nat.mod_lt n (by omega))
      rw [hsplit]
      refine ⟨fun c hc => ?_, ?_⟩
      · rcases List.mem_append.1 hc with hc | hc
        · exact hdigits c hc
        · simp [List.mem_singleton.1 hc, Text.isDecimalDigit, hlast]
      · simp only [Number.digitsValue, List.map_append, List.foldl_append] at hvalue ⊢
        simp [hvalue, hlast]
        omega

/-- An index written in decimal reads back as itself. -/
theorem indexValue_render (i : Int) :
    indexValue (decide (i < 0)) (Nat.toDigits 10 i.natAbs) = i := by
  have hvalue := (toDigits_decimal i.natAbs).2
  simp only [indexValue, hvalue]
  by_cases hi : i < 0
  · simp only [hi, decide_true, ↓reduceIte]
    omega
  · simp only [hi, decide_false, Bool.false_eq_true, ↓reduceIte]
    omega

/-! ### Each written step is read whole -/

theorem isBlank_of_isNameChar {c : Char} (h : isNameChar c) : Text.isBlank c = false := by
  have hle : ∀ a b : Char, a ≤ b ↔ a.toNat ≤ b.toNat := fun _ _ => Iff.rfl
  simp only [isNameChar, isNameStart, Bool.or_eq_true, Bool.and_eq_true, decide_eq_true_eq,
    beq_iff_eq, hle] at h
  rcases h with ((h | h) | rfl) | h
  · simp [Text.isBlank] at h ⊢; omega
  · simp [Text.isBlank] at h ⊢; omega
  · decide
  · simp [Text.isBlank] at h ⊢; omega

/-- A key written as a name is a dot followed by its name. -/
theorem nameKey_text {k : String} (h : isNameKey k) :
    ∃ c cs, k.toList = c :: cs ∧ isNameStart c ∧ ∀ d ∈ cs, isNameChar d := by
  unfold isNameKey at h
  split at h
  · rename_i c cs hk
    simp only [Bool.and_eq_true, List.all_eq_true] at h
    exact ⟨c, cs, hk, h.1, h.2⟩
  · simp at h

/-- A written step starts with a dot or a bracket and ends in a name character or a
bracket. -/
theorem render_ends (s : Step) (hs : s.Writable) :
    (∀ c ∈ s.render.head?, c = '.' ∨ c = '[') ∧
      ∀ c ∈ s.render.getLast?, isNameChar c ∨ c = ']' := by
  cases s with
  | key k =>
    by_cases hname : isNameKey k
    · obtain ⟨c, cs, hk, hc, hcs⟩ := nameKey_text hname
      refine ⟨by simp [Step.render, hname], fun d hd => .inl ?_⟩
      simp only [Step.render, hname, ↓reduceIte, hk, List.getLast?_cons_cons] at hd
      rcases List.mem_cons.1 (List.mem_of_getLast? hd) with rfl | hd
      · exact isNameChar_of_isNameStart hc
      · exact hcs d hd
    · simp [Step.render, hname, keyText, List.getLast?_cons, List.getLast?_append]
  | index i => simp [Step.render, indexText, List.getLast?_cons, List.getLast?_append]

theorem render_ne_nil (s : Step) : s.render ≠ [] := by
  cases s with
  | key k => by_cases h : isNameKey k <;> simp [Step.render, h, keyText]
  | index i => simp [Step.render, indexText]

theorem length_le_render (p : Path) : p.length ≤ (p.flatMap Step.render).length := by
  induction p with
  | nil => simp
  | cons s p ih =>
    have := List.length_pos_of_ne_nil (render_ne_nil s)
    simp only [List.length_cons, List.flatMap_cons, List.length_append]
    omega

/-- The implementation finds a written step whole at the front of a text, when what follows
starts with no name character. -/
theorem token_render {s : Step} {rest : List Char} (hs : s.Writable)
    (hnext : ∀ d ∈ rest.head?, isNameChar d = false) :
    token (s.render ++ rest) = some (.ok (s, rest)) := by
  cases s with
  | key k =>
    obtain ⟨hne, hq⟩ := hs
    by_cases hname : isNameKey k
    · obtain ⟨c, cs, hk, hc, hcs⟩ := nameKey_text hname
      have htext : (Step.key k).render = nameText true c cs := by
        simp [Step.render, hname, hk, nameText]
      have hkey : k = String.ofList (c :: cs) := by rw [← hk, String.ofList_toList]
      rw [htext, hkey]
      simp [token, nameToken_nameText hc hcs hnext]
    · have hquote : isQuote (Char.ofNat 0x27) := by decide
      have hks : k.toList ≠ [] := by simpa using hne
      have hn : nameToken ((Step.key k).render ++ rest) = none := by
        simp [Step.render, hname, keyText, nameToken_bracket]
      simp only [token, hn]
      simp [Step.render, hname, indexToken_keyText hquote,
        keyToken_keyText hquote hquote hks hq]
  | index i =>
    have hdigits := (toDigits_decimal i.natAbs).1
    have hn : nameToken ((Step.index i).render ++ rest) = none := by
      simp [Step.render, indexText, nameToken_bracket]
    simp only [token, hn]
    simp only [Step.render, indexToken_indexText Nat.toDigits_ne_nil hdigits, indexValue_render]
    simp [Step.Writable] at hs
    simp [Nat.not_lt.2 hs]

/-- The implementation reads the written steps back, one token each. -/
theorem tokens_render (p : Path) (hp : ∀ s ∈ p, s.Writable) (pos fuel : Nat)
    (hfuel : p.length ≤ fuel) : tokens (p.flatMap Step.render) pos fuel = .ok p := by
  induction p generalizing pos fuel with
  | nil => cases fuel <;> simp [tokens]
  | cons s p ih =>
    obtain ⟨fuel, rfl⟩ : ∃ f, fuel = f + 1 := ⟨fuel - 1, by simp at hfuel; omega⟩
    have hs := hp s List.mem_cons_self
    -- the next written step starts with a dot or a bracket
    have hnext : ∀ d ∈ (p.flatMap Step.render).head?, isNameChar d = false := by
      intro d hd
      cases p with
      | nil => simp at hd
      | cons s' p =>
        rw [List.flatMap_cons, List.head?_append_of_ne_nil _ (render_ne_nil s')] at hd
        rcases (render_ends s' (hp s' (by simp))).1 d hd with rfl | rfl <;> rfl
    have hne : s.render ++ p.flatMap Step.render ≠ [] := by
      simp [render_ne_nil s]
    rw [List.flatMap_cons, tokens.eq_3 _ _ _ hne, token_render hs hnext]
    simp [Except.map, ih (fun x hx => hp x (List.mem_cons_of_mem _ hx)) _ fuel (by simpa using hfuel)]

/-! ### Blanks around the text -/

/-- Trimming drops blanks around a text that neither starts nor ends with one. -/
theorem trimBlanks_around {w m w' : List Char} (hw : ∀ c ∈ w, Text.isBlank c)
    (hw' : ∀ c ∈ w', Text.isBlank c) (hhead : ∀ c ∈ m.head?, Text.isBlank c = false)
    (hlast : ∀ c ∈ m.getLast?, Text.isBlank c = false) : Number.trimBlanks (w ++ m ++ w') = m := by
  cases m with
  | nil =>
    have hall : (w ++ w').dropWhile Text.isBlank = [] :=
      List.dropWhile_eq_nil_iff.2 fun c hc => (List.mem_append.1 hc).elim (hw c) (hw' c)
    simp [Number.trimBlanks, hall]
  | cons c m =>
    -- blanks go at the front up to `c`, and at the back up to the last character
    have hfront : (w ++ (c :: m ++ w')).dropWhile Text.isBlank = c :: m ++ w' := by
      rw [List.dropWhile_append_of_pos hw]
      simp [hhead c rfl]
    have hback : (c :: m ++ w').reverse.dropWhile Text.isBlank = (c :: m).reverse := by
      rw [List.reverse_append, List.dropWhile_append_of_pos (by simpa using hw')]
      rw [← List.head?_reverse] at hlast
      cases hm : (c :: m).reverse with
      | nil => simp at hm
      | cons d m' => simp [hlast d (by simp [hm])]
    simp only [Number.trimBlanks, List.append_assoc, hfront, hback, List.reverse_reverse]

/-- The written text neither starts nor ends with a blank. -/
theorem render_ends_blank (p : Path) (hp : ∀ s ∈ p, s.Writable) :
    (∀ c ∈ (p.flatMap Step.render).head?, c = '.' ∨ c = '[') ∧
      ∀ c ∈ (p.flatMap Step.render).getLast?, Text.isBlank c = false := by
  induction p with
  | nil => simp
  | cons s p ih =>
    have hs := render_ends s (hp s List.mem_cons_self)
    have ih := ih (fun x hx => hp x (List.mem_cons_of_mem _ hx))
    refine ⟨?_, fun c hc => ?_⟩
    · rw [List.flatMap_cons, List.head?_append_of_ne_nil _ (render_ne_nil s)]
      exact hs.1
    · rw [List.flatMap_cons, List.getLast?_append] at hc
      cases hl : (p.flatMap Step.render).getLast? with
      | some d =>
        rw [hl] at hc
        simp only [Option.some_or, Option.mem_def, Option.some.injEq] at hc
        exact hc ▸ ih.2 d hl
      | none =>
        rw [hl, Option.none_or] at hc
        rcases hs.2 c hc with h | rfl
        · exact isBlank_of_isNameChar h
        · decide

/-- A path of writable steps reads back from its text, with or without the leading `$`, and
with any blanks around it. -/
theorem parse_render (p : Path) (hp : ∀ s ∈ p, s.Writable) (w w' : String)
    (hw : ∀ c ∈ w.toList, Text.isBlank c) (hw' : ∀ c ∈ w'.toList, Text.isBlank c) :
    parse (w ++ "$" ++ render p ++ w') = .ok p ∧ parse (w ++ render p ++ w') = .ok p := by
  obtain ⟨hhead, hlast⟩ := render_ends_blank p hp
  have hread := tokens_render p hp 0 _ (length_le_render p)
  -- with the `$`: trimming keeps the `$`, which `expression` then drops
  have hlast' : ∀ c ∈ ('$' :: p.flatMap Step.render).getLast?, Text.isBlank c = false := by
    intro c hc
    rw [List.getLast?_cons] at hc
    cases hl : (p.flatMap Step.render).getLast? with
    | none =>
      simp only [hl, Option.getD_none, Option.mem_def, Option.some.injEq] at hc
      subst hc
      decide
    | some d =>
      simp only [hl, Option.getD_some, Option.mem_def, Option.some.injEq] at hc
      exact hc ▸ hlast d hl
  have htrim₁ := trimBlanks_around (m := '$' :: p.flatMap Step.render) hw hw'
    (fun c hc => by
      simp only [List.head?_cons, Option.mem_def, Option.some.injEq] at hc
      subst hc
      decide) hlast'
  have hexpr₁ : expression (w ++ "$" ++ render p ++ w') = p.flatMap Step.render := by
    simp only [expression, render, String.toList_append, String.toList_ofList]
    simp only [List.append_assoc, List.cons_append] at htrim₁
    simp [htrim₁]
  -- without it: the text starts with a dot or a bracket, so there is no `$` to drop
  have hhead' : ∀ c ∈ (p.flatMap Step.render).head?, Text.isBlank c = false := by
    intro c hc
    rcases hhead c hc with rfl | rfl <;> decide
  have htrim₂ := trimBlanks_around hw hw' hhead' hlast
  have hexpr₂ : expression (w ++ render p ++ w') = p.flatMap Step.render := by
    simp only [expression, render, String.toList_append, String.toList_ofList, htrim₂]
    cases hR : p.flatMap Step.render with
    | nil => rfl
    | cons c R =>
      have hc : c ≠ '$' := by
        rintro rfl
        simpa [hR] using hhead '$'
      simp [hc]
  constructor
  · simp only [parse, hexpr₁]
    exact hread
  · simp only [parse, hexpr₂]
    exact hread

/-- A name, a key that is no name and a negative index, written between a space and a
newline. -/
theorem parse_render_between_blanks :
    (∀ s ∈ ([.key "data", .key "first name", .index (-12)] : Path), s.Writable) ∧
    (∀ c ∈ " ".toList, Text.isBlank c) ∧ (∀ c ∈ "\n".toList, Text.isBlank c) ∧
    parse (" " ++ "$" ++ render [.key "data", .key "first name", .index (-12)] ++ "\n") =
      .ok [.key "data", .key "first name", .index (-12)] ∧
    parse (" " ++ render [.key "data", .key "first name", .index (-12)] ++ "\n") =
      .ok [.key "data", .key "first name", .index (-12)] := by
  have hp : ∀ s ∈ ([.key "data", .key "first name", .index (-12)] : Path), s.Writable := by
    intro s hs
    simp only [List.mem_cons, List.not_mem_nil, or_false] at hs
    rcases hs with rfl | rfl | rfl
    · exact ⟨by decide, by simp [isQuote]⟩
    · exact ⟨by decide, by simp [isQuote]⟩
    · show (Nat.toDigits 10 12).length ≤ Number.maxIntDigits
      decide
  have hw : ∀ c ∈ " ".toList, Text.isBlank c := by simp [Text.isBlank]
  have hw' : ∀ c ∈ "\n".toList, Text.isBlank c := by simp [Text.isBlank]
  exact ⟨hp, hw, hw', parse_render _ hp _ _ hw hw'⟩

end Path

end GraphProbe
