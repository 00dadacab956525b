import GraphProbe.Site.Consumer
import Mathlib.Tactic.Common
import Mathlib.Data.List.Pairwise

/-!
# Operation ids of the subscription endpoint

A client names each subscription it starts by an operation id, and stops it by the same id.
The endpoint keeps its streams under their ids as keys, and two ids are the same key when
they are equal texts or equal integers, a truth value counting as the integer 1 or 0
(`sameId`). That is an equivalence on texts, integers and truth values (`sameId_comm`,
`sameId_trans`).

`Consumer.Sound` is what every state of the endpoint on one connection keeps
(`Reachable.sound`): its streams stand apart, no two under the same key or with the same
token, every token is below the next one, and every stream runs under an id a start accepts,
a text or an integer. In such a state a stop cancels exactly the streams under the stop's key,
at most one, each sending its `complete` (`stopStream_eq`).

The main statement, `stop_cancels_same_key`: in every state a connection reaches, a stop frame
cancels the stream whose key is the same as the stop's id, sending its `complete` and keeping
every other stream, and when no stream has that key it changes nothing; for a stop whose id is
no truth value, the key is the same exactly when the ids are the same value. A truth value
is the same key as the integer equal to it, so on a connection that initialized and started a
subscription under id `1`, a stop with id `true` cancels it (`stop_true_cancels_one`).
-/

namespace GraphProbe.Site

/-! ### Keys -/

theorem sameId_comm (a b : Value) : sameId a b = sameId b a := by
  cases a <;> cases b <;> simp [sameId, eq_comm]

/-- Two truth values count as the same integer only when they are equal. -/
theorem truthValue_eq_iff {x y : Bool} : ((if x then 1 else 0 : Int) = if y then 1 else 0) ↔ x = y := by
  cases x <;> cases y <;> decide

theorem sameId_trans {a b c : Value} (hab : sameId a b = true) (hbc : sameId b c = true) :
    sameId a c = true := by
  cases a <;> cases b <;> simp [sameId] at hab <;> cases c <;> simp_all [sameId, truthValue_eq_iff]

/-- Two ids with the same key as a third have the same key. -/
theorem sameId_of_same {a b v : Value} (ha : sameId a v = true) (hb : sameId b v = true) :
    sameId a b = true :=
  sameId_trans ha (by rw [sameId_comm]; exact hb)

/-! ### Sound states -/

/-- Two streams stand apart: different keys and different tokens. -/
def Apart (s t : Stream) : Prop := sameId s.id t.id = false ∧ s.token ≠ t.token

theorem Apart.symm {s t : Stream} (h : Apart s t) : Apart t s :=
  ⟨by rw [sameId_comm]; exact h.1, h.2.symm⟩

instance : Std.Symm Apart := ⟨fun _ _ h => h.symm⟩

/-- The ids a start accepts: texts and integers. -/
def acceptedId : Value → Bool
  | .str _ | .int _ => true
  | _ => false

/-- The streams of the endpoint stand apart, every token is below the next one, and every
stream runs under an id a start accepts. -/
structure Consumer.Sound (c : Consumer) : Prop where
  apart : c.streams.Pairwise Apart
  below : ∀ s ∈ c.streams, s.token < c.nextToken
  accepted : ∀ s ∈ c.streams, acceptedId s.id

/-- A key that no stream is under picks out none. -/
theorem filter_sameId_of_none {l : List Stream} {v : Value} (h : ∀ s ∈ l, sameId s.id v = false) :
    l.filter (fun t => sameId t.id v) = [] ∧ l.filter (fun t => !sameId t.id v) = l :=
  ⟨List.filter_eq_nil_iff.2 fun s hs => by simp [h s hs],
    List.filter_eq_self.2 fun s hs => by simp [h s hs]⟩

/-- In streams that stand apart, a key picks out the one stream under it. -/
theorem filter_sameId_of_mem {l : List Stream} (hl : l.Pairwise Apart) {s : Stream} (hs : s ∈ l)
    {v : Value} (hv : sameId s.id v = true) :
    l.filter (fun t => sameId t.id v) = [s] ∧
      ∃ l₁ l₂, l = l₁ ++ s :: l₂ ∧ l.filter (fun t => !sameId t.id v) = l₁ ++ l₂ := by
  induction l with
  | nil => simp at hs
  | cons t l ih =>
    obtain ⟨ht, hl⟩ := List.pairwise_cons.1 hl
    rcases List.mem_cons.1 hs with rfl | hs
    · -- `s` leads, and no later stream is under its key
      have hrest : ∀ u ∈ l, sameId u.id v = false := fun u hu => by
        by_contra hu'
        have := (ht u hu).1
        simp_all [sameId_of_same hv (Bool.not_eq_false _ ▸ hu')]
      have hnone := filter_sameId_of_none hrest
      exact ⟨by simp [hv, hnone.1], [], l, rfl, by simp [hv, hnone.2]⟩
    · -- `s` comes later, so the leading stream is under another key
      have htv : sameId t.id v = false := by
        by_contra htv'
        have := (ht s hs).1
        simp_all [sameId_of_same (Bool.not_eq_false _ ▸ htv') hv]
      obtain ⟨hone, l₁, l₂, rfl, hkept⟩ := ih hl hs
      exact ⟨by simp [htv, hone], t :: l₁, l₂, rfl, by simp [htv, hkept]⟩

namespace Consumer

variable {c : Consumer}

/-- In a sound state, a token names one stream. -/
theorem Sound.eq_of_token (hc : c.Sound) {s t : Stream} (hs : s ∈ c.streams) (ht : t ∈ c.streams)
    (h : s.token = t.token) : s = t := by
  by_contra hne
  exact (hc.apart.forall hs ht hne).2 h

/-- Changing streams without touching their keys and tokens keeps a state sound. -/
theorem Sound.map (hc : c.Sound) (f : Stream → Stream)
    (hf : ∀ s ∈ c.streams, (f s).id = s.id ∧ (f s).token = s.token) :
    ({ c with streams := c.streams.map f } : Consumer).Sound := by
  refine ⟨List.pairwise_map.2 (hc.apart.imp_of_mem fun ha hb hab => ?_), fun t ht => ?_,
    fun t ht => ?_⟩
  · simpa [Apart, (hf _ ha).1, (hf _ hb).1, (hf _ ha).2, (hf _ hb).2] using hab
  · obtain ⟨s, hs, rfl⟩ := List.mem_map.1 ht
    simpa [(hf s hs).2] using hc.below s hs
  · obtain ⟨s, hs, rfl⟩ := List.mem_map.1 ht
    simpa [(hf s hs).1] using hc.accepted s hs

/-- Dropping streams keeps a state sound. -/
theorem Sound.filter (hc : c.Sound) (p : Stream → Bool) :
    ({ c with streams := c.streams.filter p } : Consumer).Sound :=
  ⟨hc.apart.filter p, fun s hs => hc.below s (List.mem_filter.1 hs).1,
    fun s hs => hc.accepted s (List.mem_filter.1 hs).1⟩

/-- Changing the stream with a token, keeping its key and token, keeps a state sound. -/
theorem Sound.update (hc : c.Sound) (token : Nat) (f : Stream → Stream)
    (hf : ∀ s, (f s).id = s.id ∧ (f s).token = s.token) :
    ({ c with streams := c.streams.map fun t => if t.token == token then f t else t } :
      Consumer).Sound :=
  hc.map _ fun t _ => by by_cases htok : t.token = token <;> simp [htok, hf]

/-- In a sound state, a stop cancels the streams under the stop's key, at most one, each
sending its `complete`, and keeps the others. -/
theorem stopStream_eq (hc : c.Sound) (v : Value) :
    c.stopStream v = ({ c with streams := c.streams.filter (fun t => !sameId t.id v) },
      (c.streams.filter (fun t => sameId t.id v)).map (completeFrame ·.id)) := by
  unfold stopStream
  cases hfind : c.streams.find? (fun t => sameId t.id v) with
  | none =>
    have hnone := filter_sameId_of_none (l := c.streams) (v := v)
      (by simpa using List.find?_eq_none.1 hfind)
    simp [hnone.1, hnone.2]
  | some s =>
    have hv : sameId s.id v = true := by simpa using List.find?_some hfind
    obtain ⟨hone, l₁, l₂, hsplit, hkept⟩ := filter_sameId_of_mem hc.apart
      (List.mem_of_find?_eq_some hfind) hv
    -- the other streams stand apart from `s`, so none has its token
    have hap := hc.apart
    rw [hsplit] at hap
    obtain ⟨-, hl₂, hcross⟩ := List.pairwise_append.1 hap
    have hdrop : c.streams.filter (fun t => t.token != s.token) = l₁ ++ l₂ := by
      rw [hsplit, List.filter_append, List.filter_cons_of_neg (by simp),
        List.filter_eq_self.2 fun t ht => by simpa using (hcross t ht s (List.mem_cons_self ..)).2,
        List.filter_eq_self.2 fun t ht => by simpa using ((List.pairwise_cons.1 hl₂).1 t ht).2.symm]
    simp [hdrop, hkept, hone]

/-- What a start does to a sound state: nothing, or, for an accepted id, it stops the streams
under the id's key and adds a stream under the id with the next token. -/
theorem start_shape (hc : c.Sound) {content : List (String × Value)} {c' : Consumer}
    {out : List Outgoing} (h : c.start content = .ok (c', out)) :
    c' = c ∨ acceptedId ((content.lookup "id").getD .null) ∧ ∃ s : Stream,
      c' = { c with streams := c.streams.filter (fun t => !sameId t.id s.id) ++ [s],
                    nextToken := c.nextToken + 1 } ∧
      s.id = (content.lookup "id").getD .null ∧ s.token = c.nextToken := by
  unfold start at h
  simp only [stopStream_eq hc] at h
  -- every branch but the one that registers a stream leaves the state as it is
  repeat' split at h
  all_goals cases h <;> first
    | exact .inl rfl
    | exact .inr ⟨by simp_all [acceptedId],
        { id := _, source := _, doc := _, body := _, operationName := _, vars := _, token := _ },
        rfl, rfl, rfl⟩

/-- A frame's text the endpoint handles is a frame's content it handles. -/
theorem receive_ok {text : String} {r : Consumer × List Outgoing} (h : c.receive text = .ok r) :
    ∃ content, c.receiveJson content = .ok r := by
  unfold receive at h
  by_cases he : text.isEmpty
  · simp [he, throw, throwThe, MonadExceptOf.throw, bind, Except.bind] at h
  · rcases hread : Json.read text with e | v
    · simp [he, hread, throw, throwThe, MonadExceptOf.throw, bind, Except.bind] at h
    · cases v <;> simp [he, hread, throw, throwThe, MonadExceptOf.throw, bind, Except.bind] at h
      exact ⟨_, h⟩

/-! ### Every step keeps a state sound -/

theorem stopStream_sound (hc : c.Sound) (v : Value) : (c.stopStream v).1.Sound := by
  rw [stopStream_eq hc]
  exact hc.filter _

theorem start_sound (hc : c.Sound) {content : List (String × Value)} {c' : Consumer}
    {out : List Outgoing} (h : c.start content = .ok (c', out)) : c'.Sound := by
  rcases start_shape hc h with rfl | ⟨hid, s, rfl, hsid, hstok⟩
  · exact hc
  · -- the new stream stands apart from those left after the stop of its key, and its token is
    -- the next one
    have hkept := hc.filter (fun t => !sameId t.id s.id)
    refine ⟨List.pairwise_append.2 ⟨hkept.apart, by simp, fun t ht u hu => ?_⟩,
      fun t ht => ?_, fun t ht => ?_⟩
    · obtain ⟨htc, hts⟩ := List.mem_filter.1 ht
      rw [List.mem_singleton.1 hu]
      exact ⟨by simpa using hts, by have := hc.below t htc; omega⟩
    · rcases List.mem_append.1 ht with ht | ht
      · exact Nat.lt_succ_of_lt (hkept.below t ht)
      · simp [List.mem_singleton.1 ht, hstok]
    · rcases List.mem_append.1 ht with ht | ht
      · exact hkept.accepted t ht
      · rw [List.mem_singleton.1 ht, hsid]
        exact hid

theorem receiveJson_sound (hc : c.Sound) {content : List (String × Value)} {c' : Consumer}
    {out : List Outgoing} (h : c.receiveJson content = .ok (c', out)) : c'.Sound := by
  unfold receiveJson at h
  split at h
  · -- an initialisation changes the acknowledgement alone
    split at h <;> cases h <;> exact ⟨hc.apart, hc.below, hc.accepted⟩
  · exact start_sound hc h
  · split at h <;> simp only [pure, Except.pure, Except.ok.injEq] at h
    any_goals rw [show c' = (c', out).1 from rfl, ← h]; exact stopStream_sound hc _
    cases h
    exact hc
  · cases h
    exact hc
  · cases h
    exact hc

theorem stepStream_sound (hc : c.Sound) (token : Nat) : (c.stepStream token).1.Sound := by
  unfold stepStream
  cases hfind : c.streams.find? (·.token == token) with
  | none => exact hc
  | some s =>
    have hs := List.mem_of_find?_eq_some hfind
    have hstok : s.token = token := by simpa using List.find?_some hfind
    dsimp only
    split
    · -- the stream under the token is `s`, which keeps its key and token
      refine hc.map _ fun t ht => ?_
      by_cases htok : t.token = token
      · obtain rfl := hc.eq_of_token hs ht (hstok.trans htok.symm)
        simp [htok]
      · simp [htok]
    · exact hc.filter _
    · exact hc.filter _
    · exact hc.update token (fun t => { t with ready := false }) fun _ => ⟨rfl, rfl⟩

theorem wake_sound (hc : c.Sound) (token : Nat) : (c.wake token).Sound :=
  hc.update token (fun t => { t with ready := true }) fun _ => ⟨rfl, rfl⟩

theorem disconnect_sound : c.disconnect.1.Sound :=
  ⟨List.Pairwise.nil, by simp [disconnect], by simp [disconnect]⟩

/-- The states of the endpoint on one connection: a fresh one, and those that the frames the
client sends, the steps and wake-ups of its streams and the end of the session lead to. -/
inductive Reachable : Consumer → Prop
  | fresh : Reachable {}
  | receive {c c' : Consumer} {text : String} {out : List Outgoing} :
      Reachable c → c.receive text = .ok (c', out) → Reachable c'
  | step {c : Consumer} (token : Nat) : Reachable c → Reachable (c.stepStream token).1
  | wake {c : Consumer} (token : Nat) : Reachable c → Reachable (c.wake token)
  | disconnect {c : Consumer} : Reachable c → Reachable c.disconnect.1

theorem fresh_sound : ({} : Consumer).Sound :=
  ⟨List.Pairwise.nil, by simp, by simp⟩

/-- Every state a connection reaches is sound. -/
theorem Reachable.sound (h : c.Reachable) : c.Sound := by
  induction h with
  | fresh => exact fresh_sound
  | receive _ hr ih =>
    obtain ⟨content, hj⟩ := receive_ok hr
    exact receiveJson_sound ih hj
  | step token _ ih => exact stepStream_sound ih token
  | wake token _ ih => exact wake_sound ih token
  | disconnect _ _ => exact disconnect_sound

/-- The connection after the frames of a list, taken one at a time; the first frame that
breaks the endpoint down ends the list. -/
def afterFrames (c : Consumer) : List String → Consumer
  | [] => c
  | t :: ts =>
    match c.receive t with
    | .ok (c', _) => c'.afterFrames ts
    | .error _ => c

/-- Frames lead a reachable connection to a reachable one. -/
theorem Reachable.afterFrames (h : c.Reachable) (ts : List String) :
    (c.afterFrames ts).Reachable := by
  induction ts generalizing c with
  | nil => exact h
  | cons t ts ih =>
    unfold Consumer.afterFrames
    split
    · exact ih (.receive h ‹_›)
    · exact h

/-! ### Stopping an operation -/

/-- An id that is no text, integer or truth value is the key of no stream. -/
theorem sameId_eq_false_of_not_key {a v : Value} (hs : ∀ x, v ≠ .str x) (hi : ∀ n, v ≠ .int n)
    (hb : ∀ b, v ≠ .bool b) : sameId a v = false := by
  cases a <;> cases v <;> simp_all [sameId]

/-- A stop frame stops the streams under its id's key. -/
theorem receiveJson_stop {content : List (String × Value)}
    (htype : content.lookup "type" = some (.str "stop")) :
    c.receiveJson content = .ok (c.stopStream ((content.lookup "id").getD .null)) := by
  simp only [receiveJson, htype, Option.getD_some]
  split
  · rfl
  · rfl
  · rfl
  · -- an id of another kind picks out no stream
    rename_i hs hi hb
    have hnone : c.streams.find? (sameId ·.id ((content.lookup "id").getD .null)) = none :=
      List.find?_eq_none.2 fun t _ => by
        simp [sameId_eq_false_of_not_key (a := t.id) hs hi hb]
    simp [stopStream, hnone, pure, Except.pure]

/-- For an id that is no truth value, an accepted id is under its key exactly when the two ids
are the same value. -/
theorem sameId_iff_eq {k v : Value} (hk : acceptedId k) (hv : ∀ b, v ≠ .bool b) :
    sameId k v = true ↔ k = v := by
  cases k <;> cases v <;> simp_all [acceptedId, sameId]

/-- Stopping an operation, in every state a connection reaches. A stop frame cancels the one
stream under the same key as the stop's id, which sends its `complete`, and keeps every other
stream in its order; when no stream is under that key it changes nothing. For a stop whose id
is no truth value, a stream is under the stop's key exactly when it was started with that
very id. -/
theorem stop_cancels_same_key (hc : c.Reachable) (content : List (String × Value))
    (htype : content.lookup "type" = some (.str "stop")) :
    let v := (content.lookup "id").getD .null
    (∀ s ∈ c.streams, sameId s.id v = true →
      ∃ l₁ l₂, c.streams = l₁ ++ s :: l₂ ∧
        c.receiveJson content = .ok ({ c with streams := l₁ ++ l₂ }, [completeFrame s.id])) ∧
    ((∀ s ∈ c.streams, sameId s.id v = false) → c.receiveJson content = .ok (c, [])) ∧
    ((∀ b, v ≠ .bool b) → ∀ s ∈ c.streams, sameId s.id v = true ↔ s.id = v) := by
  intro v
  have hs := hc.sound
  refine ⟨fun s hmem hv => ?_, fun hnone => ?_, fun hv s hmem => sameId_iff_eq (hs.accepted s hmem) hv⟩
  · obtain ⟨hone, l₁, l₂, hsplit, hkept⟩ := filter_sameId_of_mem hs.apart hmem hv
    exact ⟨l₁, l₂, hsplit, by rw [receiveJson_stop htype, stopStream_eq hs, hone, hkept]; rfl⟩
  · have hnone := filter_sameId_of_none hnone
    rw [receiveJson_stop htype, stopStream_eq hs, hnone.1, hnone.2]
    rfl

/-- The frame that initializes a connection. -/
def initFrame : String := "\x7b\"type\": \"connection_init\"\x7d"

/-- The frame that starts the subscription `silence`, which never emits, under id 1. -/
def startSilence : String :=
  "\x7b\"type\": \"start\", \"id\": 1, \"payload\": \x7b\"query\": \"subscription \x7b silence \x7d\"\x7d\x7d"

/-- A connection that was initialized and then started `silence` under id 1. -/
def silenceStarted : Consumer := ({} : Consumer).afterFrames [initFrame, startSilence]

theorem silenceStarted_reachable : silenceStarted.Reachable := Reachable.fresh.afterFrames _

/-- It runs one stream, under the id 1 and the first token. -/
theorem silenceStarted_streams :
    ∃ s, silenceStarted.streams = [s] ∧ s.id = .int 1 ∧ s.token = 0 := by
  have hc := silenceStarted_reachable
  have hlen : silenceStarted.streams.length = 1 := by decide +kernel
  have hkey : silenceStarted.streams.map (sameId ·.id (.int 1)) = [true] := by decide +kernel
  have htok : silenceStarted.streams.map (·.token) = [0] := by decide +kernel
  obtain ⟨s, hs⟩ := List.length_eq_one_iff.mp hlen
  rw [hs] at hkey htok
  simp only [List.map_cons, List.map_nil, List.cons.injEq, and_true] at hkey htok
  -- a start takes only texts and integers, and the integer under the key of 1 is 1
  have hacc := hc.sound.accepted s (by simp [hs])
  exact ⟨s, hs, (sameId_iff_eq hacc (by simp)).mp hkey, htok⟩

/-- On a connection that started `silence` under id 1, a stop with id 1 cancels it: the
stream sends its `complete` and none is left. -/
theorem stop_one_cancels_silence :
    silenceStarted.Reachable ∧
      silenceStarted.receiveJson [("type", .str "stop"), ("id", .int 1)] =
        .ok ({ silenceStarted with streams := [] }, [completeFrame (.int 1)]) := by
  have hc := silenceStarted_reachable
  obtain ⟨s, hs, hid, -⟩ := silenceStarted_streams
  obtain ⟨hcancel, -, -⟩ := stop_cancels_same_key hc [("type", .str "stop"), ("id", .int 1)] rfl
  obtain ⟨l₁, l₂, hsplit, hrun⟩ := hcancel s (by simp [hs]) (by rw [hid]; rfl)
  -- the one stream is `s`, so nothing stands before or after it
  obtain ⟨rfl, rfl⟩ : l₁ = [] ∧ l₂ = [] := by
    rw [hs] at hsplit
    cases l₁ <;> simp_all
  exact ⟨hc, by simpa [hid] using hrun⟩

/-- The integer 1 and the truth value `true` are one key: on a connection that started
`silence` under id 1, a stop with id `true` cancels it. -/
theorem stop_true_cancels_one :
    silenceStarted.Reachable ∧ (∃ s ∈ silenceStarted.streams, s.id = .int 1) ∧
      silenceStarted.receiveJson [("type", .str "stop"), ("id", .bool true)] =
        .ok ({ silenceStarted with streams := [] }, [completeFrame (.int 1)]) := by
  obtain ⟨s, hs, hid, htok⟩ := silenceStarted_streams
  refine ⟨silenceStarted_reachable, ⟨s, by simp [hs], hid⟩, ?_⟩
  have hv : (([("type", .str "stop"), ("id", .bool true)] : List (String × Value)).lookup
      "id").getD .null = .bool true := rfl
  rw [receiveJson_stop rfl, hv]
  simp [stopStream, hs, hid, htok, sameId]

end Consumer

end GraphProbe.Site
