import ModuleScript.Proofs.Pattern.Ends

/-!
# What nodes read

From a place a node reads a piece of the text and may keep parts of it. The ends of the nodes
that the forms of lines are made of are given by the texts that they read: letters, runs of
characters of a set, quoted parts, and one node after the other.
-/

namespace ModuleScript.Pattern

namespace State

/-- The place after reading `w` with `rest` still to come, further parts having been kept. -/
def after (s : State) (w rest : List Char) (found : List (Nat × Span)) : State where
  offset := s.offset + w.length
  before := w.getLast?.or s.before
  rest
  captures := found ++ s.captures

@[simp] theorem rest_start (text : List Char) : (start text).rest = text := rfl

@[simp] theorem rest_after (s : State) (w rest : List Char) (found : List (Nat × Span)) :
    (s.after w rest found).rest = rest := rfl

@[simp] theorem captures_after (s : State) (w rest : List Char) (found : List (Nat × Span)) :
    (s.after w rest found).captures = found ++ s.captures := rfl

/-- Reading nothing stays in place. -/
theorem after_nil {s : State} {rest : List Char} (h : s.rest = rest) : s.after [] rest [] = s := by
  rw [← h]
  rfl

/-- Reading goes on where it stopped. -/
@[simp] theorem after_after (s : State) (v w rest rest' : List Char)
    (found found' : List (Nat × Span)) :
    (s.after v rest found).after w rest' found' = s.after (v ++ w) rest' (found' ++ found) := by
  simp only [after, List.length_append, List.getLast?_append, Option.or_assoc,
    List.append_assoc, Nat.add_assoc]

/-- What is kept of a read text is that text. -/
theorem capture_after (s : State) (index : Nat) (w rest : List Char)
    (found : List (Nat × Span)) :
    (s.after w rest found).capture index s =
      s.after w rest ((index, ⟨s.rest, w.length⟩) :: found) := by
  simp [capture, after]

end State

/-- A piece that starts with a text of its length is that text. -/
theorem Span.text_append (w rest : List Char) :
    Span.text ⟨w ++ rest, w.length⟩ = String.ofList w := by
  simp [Span.text]

namespace Node

variable {s s' : State}

/-! ### Sequences and alternatives -/

theorem mem_ends_seq (first second : Node) :
    s' ∈ (seq first second).ends s ↔ ∃ t ∈ first.ends s, s' ∈ second.ends t := by
  simp [ends]

theorem mem_ends_alt (first second : Node) :
    s' ∈ (alt first second).ends s ↔ s' ∈ first.ends s ∨ s' ∈ second.ends s := by
  simp [ends]

/-- Any of several nodes reads what the first or any of the others does. -/
theorem mem_ends_anyOf_cons (n m : Node) (nodes : List Node) :
    s' ∈ (anyOf (n :: m :: nodes)).ends s ↔ s' ∈ n.ends s ∨ s' ∈ (anyOf (m :: nodes)).ends s :=
  mem_ends_alt n (anyOf (m :: nodes))

theorem mem_ends_anyOf_singleton (n : Node) : s' ∈ (anyOf [n]).ends s ↔ s' ∈ n.ends s := .rfl

/-- Nothing is read where there are no nodes. -/
theorem mem_ends_concat_nil : s' ∈ (concat []).ends s ↔ s' = s := by
  simp [concat, ends]

/-- Nodes are read one after the other. -/
theorem mem_ends_concat_cons (n : Node) (nodes : List Node) :
    s' ∈ (concat (n :: nodes)).ends s ↔ ∃ t ∈ n.ends s, s' ∈ (concat nodes).ends t :=
  mem_ends_seq n (concat nodes)

/-- Two runs of nodes are read one after the other. -/
theorem mem_ends_concat_append (nodes more : List Node) :
    s' ∈ (concat (nodes ++ more)).ends s ↔
      ∃ t ∈ (concat nodes).ends s, s' ∈ (concat more).ends t := by
  induction nodes generalizing s with
  | nil => simp [mem_ends_concat_nil]
  | cons n nodes ih =>
    simp only [List.cons_append, mem_ends_concat_cons, ih]
    constructor
    · rintro ⟨t, ht, u, hu, hs⟩
      exact ⟨u, ⟨t, ht, hu⟩, hs⟩
    · rintro ⟨u, ⟨t, ht, hu⟩, hs⟩
      exact ⟨t, ht, u, hu, hs⟩

/-! ### Single characters and texts -/

theorem ends_char_nil (set : CharSet) (h : s.rest = []) : (char set).ends s = [] := by
  rw [ends, h]

theorem ends_char_cons (set : CharSet) {c : Char} {rest : List Char} (h : s.rest = c :: rest) :
    (char set).ends s = if set.contains c then [s.after [c] rest []] else [] := by
  rw [ends, h]
  rfl

/-- A set reads one of its characters. -/
theorem mem_ends_char (set : CharSet) :
    s' ∈ (char set).ends s ↔
      ∃ c rest, s.rest = c :: rest ∧ set.contains c = true ∧ s' = s.after [c] rest [] := by
  cases h : s.rest with
  | nil => simp [ends_char_nil set h]
  | cons c rest =>
    rw [ends_char_cons set h]
    constructor
    · intro h
      split at h
      next hc => exact ⟨c, rest, rfl, hc, List.mem_singleton.mp h⟩
      next => exact absurd h List.not_mem_nil
    · rintro ⟨d, rest', hd, hc, rfl⟩
      rw [List.cons.injEq] at hd
      obtain ⟨rfl, rfl⟩ := hd
      rw [if_pos hc]
      exact List.mem_singleton_self _

/-- The set of one character has no other. -/
theorem contains_single (a c : Char) : (CharSet.single a).contains c = true ↔ c = a := by
  simp [CharSet.contains, CharSet.single, CharItem.contains]

/-- One character for each letter. -/
theorem mem_ends_chars (w : List Char) :
    s' ∈ (concat (w.map fun c ↦ char (.single c))).ends s ↔
      ∃ rest, s.rest = w ++ rest ∧ s' = s.after w rest [] := by
  induction w generalizing s with
  | nil =>
    rw [List.map_nil, mem_ends_concat_nil]
    constructor
    · rintro rfl
      exact ⟨s'.rest, rfl, rfl⟩
    · rintro ⟨rest, hrest, rfl⟩
      exact (State.after_nil hrest).symm ▸ rfl
  | cons c w ih =>
    simp only [List.map_cons, mem_ends_concat_cons, mem_ends_char, contains_single, ih]
    constructor
    · rintro ⟨t, ⟨d, rest, hs, rfl, rfl⟩, rest', hrest, rfl⟩
      refine ⟨rest', ?_, by simp⟩
      rw [hs, List.cons_append, ← hrest, State.rest_after]
    · rintro ⟨rest, hs, rfl⟩
      exact ⟨_, ⟨c, w ++ rest, hs, rfl, rfl⟩, rest, rfl, by simp⟩

/-- Letters read their text. -/
theorem mem_ends_letters (text : String) :
    s' ∈ (concat (letters text)).ends s ↔
      ∃ rest, s.rest = text.toList ++ rest ∧ s' = s.after text.toList rest [] :=
  mem_ends_chars text.toList

/-- A literal reads its text. -/
theorem mem_ends_literal (text : String) :
    s' ∈ (literal text).ends s ↔
      ∃ rest, s.rest = text.toList ++ rest ∧ s' = s.after text.toList rest [] :=
  mem_ends_chars text.toList

/-! ### Repetitions -/

/-- From everywhere, the node reads the texts of a kind and keeps nothing. -/
def Spells (n : Node) (text : List Char → Prop) : Prop :=
  ∀ s s', s' ∈ n.ends s ↔ ∃ w rest, s.rest = w ++ rest ∧ text w ∧ s' = s.after w rest []

theorem Spells.mem_ends {n : Node} {text : List Char → Prop} (h : n.Spells text) :
    s' ∈ n.ends s ↔ ∃ w rest, s.rest = w ++ rest ∧ text w ∧ s' = s.after w rest [] := h s s'

theorem spells_char (set : CharSet) :
    (char set).Spells fun w ↦ ∃ c, w = [c] ∧ set.contains c = true := by
  intro s s'
  rw [mem_ends_char]
  constructor
  · rintro ⟨c, rest, hs, hc, rfl⟩
    exact ⟨[c], rest, hs, ⟨c, rfl, hc⟩, rfl⟩
  · rintro ⟨_, rest, hs, ⟨c, rfl, hc⟩, rfl⟩
    exact ⟨c, rest, hs, hc, rfl⟩

/-- Texts of a kind, one after the other. -/
def Repeated (text : List Char → Prop) (w : List Char) : Prop :=
  ∃ ws : List (List Char), (∀ v ∈ ws, text v) ∧ w = ws.flatten

theorem repeated_nil {text : List Char → Prop} : Repeated text [] := ⟨[], by simp, rfl⟩

theorem Repeated.cons {text : List Char → Prop} {v w : List Char} (hv : text v)
    (hw : Repeated text w) : Repeated text (v ++ w) := by
  obtain ⟨ws, hws, rfl⟩ := hw
  exact ⟨v :: ws, List.forall_mem_cons.mpr ⟨hv, hws⟩, rfl⟩

/-- The first of repeated texts, if there is one. -/
theorem Repeated.eq_nil_or_cons {text : List Char → Prop} {w : List Char} (h : Repeated text w) :
    w = [] ∨ ∃ v w', text v ∧ Repeated text w' ∧ w = v ++ w' := by
  obtain ⟨ws, hws, rfl⟩ := h
  cases ws with
  | nil => exact .inl rfl
  | cons v ws =>
    rw [List.forall_mem_cons] at hws
    exact .inr ⟨v, ws.flatten, hws.1, ⟨ws, hws.2, rfl⟩, rfl⟩

private theorem mem_endsUpTo_of_spells {n : Node} {text : List Char → Prop} (hn : n.Spells text)
    (hne : ¬ text []) (greedy : Bool) (fuel : List Char) (h : s.rest.length ≤ fuel.length) :
    s' ∈ endsUpTo n.ends greedy fuel none s ↔
      ∃ w rest, s.rest = w ++ rest ∧ Repeated text w ∧ s' = s.after w rest [] := by
  induction fuel generalizing s with
  | nil =>
    have hs : s.rest = [] := List.length_eq_zero_iff.mp (Nat.le_zero.mp h)
    simp only [endsUpTo, List.mem_singleton, hs, List.nil_eq, List.append_eq_nil_iff]
    constructor
    · rintro rfl
      exact ⟨[], [], ⟨rfl, rfl⟩, repeated_nil, (State.after_nil hs).symm⟩
    · rintro ⟨w, rest, ⟨rfl, rfl⟩, -, rfl⟩
      exact State.after_nil hs
  | cons a fuel ih =>
    -- a round reads one text, and the remaining rounds read those after it
    have again : (s' ∈ (n.ends s).flatMap fun t ↦
        if t.offset = s.offset then [t] else endsUpTo n.ends greedy fuel none t) ↔
        ∃ v w rest, s.rest = v ++ (w ++ rest) ∧ text v ∧ Repeated text w ∧
          s' = s.after (v ++ w) rest [] := by
      have hmoves {v rest : List Char} (hv : text v) (hs : s.rest = v ++ rest) :
          (s.after v rest []).offset ≠ s.offset ∧ rest.length ≤ fuel.length := by
        have hpos := List.length_pos_iff.mpr (fun hnil ↦ hne (hnil ▸ hv) : v ≠ [])
        rw [hs, List.length_append, List.length_cons] at h
        exact ⟨by simp only [State.after]; omega, by omega⟩
      simp only [List.mem_flatMap, hn.mem_ends]
      constructor
      · rintro ⟨t, ⟨v, rest, hs, hv, rfl⟩, ht⟩
        rw [if_neg (hmoves hv hs).1, ih (hmoves hv hs).2] at ht
        obtain ⟨w, rest', hrest, hw, rfl⟩ := ht
        rw [State.rest_after] at hrest
        exact ⟨v, w, rest', by rw [hs, hrest], hv, hw, by simp⟩
      · rintro ⟨v, w, rest, hs, hv, hw, rfl⟩
        refine ⟨_, ⟨v, w ++ rest, hs, hv, rfl⟩, ?_⟩
        rw [if_neg (hmoves hv hs).1, ih (hmoves hv hs).2]
        exact ⟨w, rest, rfl, hw, by simp⟩
    have stop : (∃ w rest, s.rest = w ++ rest ∧ Repeated text w ∧ s' = s.after w rest []) ↔
        s' = s ∨ ∃ v w rest, s.rest = v ++ (w ++ rest) ∧ text v ∧ Repeated text w ∧
          s' = s.after (v ++ w) rest [] := by
      constructor
      · rintro ⟨w, rest, hs, hw, rfl⟩
        rcases hw.eq_nil_or_cons with rfl | ⟨v, u, hv, hu, rfl⟩
        · exact .inl (State.after_nil hs)
        · exact .inr ⟨v, u, rest, by rw [hs, List.append_assoc], hv, hu, rfl⟩
      · rintro (rfl | ⟨v, w, rest, hs, hv, hw, rfl⟩)
        · exact ⟨[], s'.rest, rfl, repeated_nil, (State.after_nil rfl).symm⟩
        · exact ⟨v ++ w, rest, by rw [hs, List.append_assoc], hw.cons hv, rfl⟩
    rw [stop, ← again, endsUpTo_none_cons]
    cases greedy
    · simp only [Bool.false_eq_true, if_false, List.mem_cons]
    · simp only [if_true, List.mem_append, List.mem_singleton]
      exact or_comm

/-- A repeated node reads texts one after the other, if none of them is empty. -/
theorem Spells.loop {n : Node} {text : List Char → Prop} (hn : n.Spells text) (hne : ¬ text [])
    (greedy : Bool) : (loop n 0 none greedy).Spells (Repeated text) := by
  intro s s'
  simp only [ends, endsExactly, List.flatMap_singleton, Option.map_none]
  exact mem_endsUpTo_of_spells hn hne greedy (' ' :: s.rest) (by simp)

private theorem mem_ends_loop_char (set : CharSet) (greedy : Bool) :
    s' ∈ (loop (char set) 0 none greedy).ends s ↔
      ∃ w rest, s.rest = w ++ rest ∧ (∀ c ∈ w, set.contains c = true) ∧ s' = s.after w rest [] := by
  have hrun (w : List Char) : Repeated (fun v ↦ ∃ c, v = [c] ∧ set.contains c = true) w ↔
      ∀ c ∈ w, set.contains c = true := by
    constructor
    · rintro ⟨ws, hws, rfl⟩ c hc
      obtain ⟨v, hv, hc⟩ := List.mem_flatten.mp hc
      obtain ⟨d, rfl, hd⟩ := hws v hv
      exact List.mem_singleton.mp hc ▸ hd
    · intro hw
      refine ⟨w.map ([·]), ?_, by rw [← List.flatMap_def, List.flatMap_singleton']⟩
      rintro _ hv
      obtain ⟨c, hc, rfl⟩ := List.mem_map.mp hv
      exact ⟨c, rfl, hw c hc⟩
  have hloop := (spells_char set).loop (fun ⟨_, hc, _⟩ ↦ absurd hc (by simp)) greedy
  simp only [hloop.mem_ends, hrun]

/-- A repeated set reads a run of its characters. -/
theorem mem_ends_star (set : CharSet) :
    s' ∈ (star (char set)).ends s ↔
      ∃ w rest, s.rest = w ++ rest ∧ (∀ c ∈ w, set.contains c = true) ∧ s' = s.after w rest [] :=
  mem_ends_loop_char set true

/-- The runs that a set can read do not depend on which are preferred. -/
theorem mem_ends_lazyStar (set : CharSet) :
    s' ∈ (lazyStar (char set)).ends s ↔
      ∃ w rest, s.rest = w ++ rest ∧ (∀ c ∈ w, set.contains c = true) ∧ s' = s.after w rest [] :=
  mem_ends_loop_char set false

/-- At least one round is one round and any number of further ones. -/
theorem ends_plus (set : CharSet) :
    (plus (char set)).ends s = ((char set).ends s).flatMap (star (char set)).ends := by
  simp only [plus, star, ends, endsExactly, List.flatMap_singleton, List.flatMap_singleton',
    Option.map_none]

/-- A set repeated at least once reads a run that is not empty. -/
theorem mem_ends_plus (set : CharSet) :
    s' ∈ (plus (char set)).ends s ↔ ∃ w rest, s.rest = w ++ rest ∧ w ≠ [] ∧
      (∀ c ∈ w, set.contains c = true) ∧ s' = s.after w rest [] := by
  simp only [ends_plus, List.mem_flatMap, mem_ends_char, mem_ends_star]
  constructor
  · rintro ⟨t, ⟨c, rest, hs, hc, rfl⟩, w, rest', hrest, hw, rfl⟩
    rw [State.rest_after] at hrest
    refine ⟨c :: w, rest', by rw [hs, hrest, List.cons_append], by simp, ?_, by simp⟩
    intro d hd
    rcases List.mem_cons.mp hd with rfl | hd
    · exact hc
    · exact hw d hd
  · rintro ⟨w, rest, hs, hne, hw, rfl⟩
    obtain ⟨c, w, rfl⟩ := List.exists_cons_of_ne_nil hne
    exact ⟨_, ⟨c, w ++ rest, hs, hw c List.mem_cons_self, rfl⟩, w, rest, rfl,
      fun d hd ↦ hw d (List.mem_cons_of_mem _ hd), by simp⟩

/-- What may be missing is read or not. -/
theorem mem_ends_opt (n : Node) : s' ∈ (opt n).ends s ↔ s' ∈ n.ends s ∨ s' = s := by
  simp only [opt, ends, endsExactly, List.flatMap_singleton, Option.map_some, Nat.sub_zero]
  have once (t : State) : (if t.offset = s.offset then [t]
      else endsUpTo n.ends true s.rest ((some 1).map (· - 1)) t) = [t] := by
    split
    · rfl
    · cases s.rest <;> rfl
  rw [endsUpTo]
  · simp only [once, if_true, List.flatMap_singleton', List.mem_append, List.mem_singleton]
  · simp

/-! ### Nodes that keep nothing -/

namespace Spells

variable {n m : Node} {nodes more : List Node} {text text' : List Char → Prop}

theorem congr (h : n.Spells text) (hiff : ∀ w, text w ↔ text' w) : n.Spells text' := by
  intro s s'
  simp only [h.mem_ends, hiff]

theorem alt (hn : n.Spells text) (hm : m.Spells text') :
    (alt n m).Spells fun w ↦ text w ∨ text' w := by
  intro s s'
  simp only [mem_ends_alt, hn.mem_ends, hm.mem_ends, or_and_right, and_or_left, exists_or]

theorem opt (hn : n.Spells text) : (opt n).Spells fun w ↦ text w ∨ w = [] := by
  intro s s'
  simp only [mem_ends_opt, hn.mem_ends, or_and_right, and_or_left, exists_or]
  refine or_congr_right ⟨?_, ?_⟩
  · rintro rfl
    exact ⟨[], s'.rest, rfl, rfl, (State.after_nil rfl).symm⟩
  · rintro ⟨_, rest, hs, rfl, rfl⟩
    exact State.after_nil hs

theorem seq (hn : n.Spells text) (hm : m.Spells text') :
    (seq n m).Spells fun w ↦ ∃ u v, w = u ++ v ∧ text u ∧ text' v := by
  intro s s'
  simp only [mem_ends_seq, hn.mem_ends, hm.mem_ends]
  constructor
  · rintro ⟨_, ⟨u, _, hs, hu, rfl⟩, v, rest, rfl, hv, rfl⟩
    exact ⟨u ++ v, rest, by rw [hs, List.append_assoc], ⟨u, v, rfl, hu, hv⟩, by simp⟩
  · rintro ⟨_, rest, hs, ⟨u, v, rfl, hu, hv⟩, rfl⟩
    exact ⟨_, ⟨u, v ++ rest, by rw [hs, List.append_assoc], hu, rfl⟩, v, rest, rfl, hv, by simp⟩

theorem concat_nil : (concat []).Spells (· = []) := by
  intro s s'
  rw [mem_ends_concat_nil]
  constructor
  · rintro rfl
    exact ⟨[], s'.rest, rfl, rfl, (State.after_nil rfl).symm⟩
  · rintro ⟨_, rest, hs, rfl, rfl⟩
    exact State.after_nil hs

/-- Nodes read their texts one after the other. -/
theorem concat_cons (hn : n.Spells text) (hnodes : (concat nodes).Spells text') :
    (concat (n :: nodes)).Spells fun w ↦ ∃ u v, w = u ++ v ∧ text u ∧ text' v := hn.seq hnodes

theorem concat_append (hnodes : (concat nodes).Spells text) (hmore : (concat more).Spells text') :
    (concat (nodes ++ more)).Spells fun w ↦ ∃ u v, w = u ++ v ∧ text u ∧ text' v := by
  intro s s'
  rw [mem_ends_concat_append, ← mem_ends_seq]
  exact hnodes.seq hmore s s'

end Spells

/-! ### Groups -/

/-- A group reads what its body reads. -/
theorem mem_ends_group (index : Nat) (body : Node) :
    s' ∈ (group index body).ends s ↔ ∃ t ∈ body.ends s, s' = t.capture index s := by
  simp [ends, eq_comm]

/-! ### Looking ahead -/

/-- Looking ahead reads nothing, and it keeps at most what its body keeps. -/
theorem mem_ends_ahead {positive : Bool} {body : Node} (h : s' ∈ (ahead positive body).ends s) :
    s' = s ∨ ∃ t ∈ body.ends s, s' = { s with captures := t.captures } := by
  cases positive with
  | true =>
    rw [ends, List.mem_map] at h
    obtain ⟨t, ht, rfl⟩ := h
    exact .inr ⟨t, List.mem_of_head? (Option.mem_toList.mp ht), rfl⟩
  | false =>
    rw [ends] at h
    split at h
    · exact .inl (List.mem_singleton.mp h)
    · exact absurd h List.not_mem_nil

end Node

end ModuleScript.Pattern
