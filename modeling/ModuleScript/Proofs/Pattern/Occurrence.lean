import ModuleScript.Pattern.Basic
import ModuleScript.Proofs.Pattern.Scanning

/-!
# Where patterns occur

A pattern occurs in a text when a match can start at some place of it. A pattern that asks for
nothing but the characters that it reads matches them whatever stands before and behind, so it
occurs in every text that holds one in which it occurs.
-/

namespace ModuleScript.Pattern

/-! ### A longer text -/

/-- The place `u` is the place `s` of a longer text, with so many characters more before it and
some more behind. -/
structure State.Within (shift : Nat) (more : List Char) (s u : State) : Prop where
  offset : u.offset = s.offset + shift
  rest : u.rest = s.rest ++ more

variable {shift : Nat} {more : List Char} {s s' u : State}

/-- Two places are the same in the longer text if they are in the shorter one. -/
theorem State.Within.offset_eq_iff {u' : State} (h : s.Within shift more u)
    (h' : s'.Within shift more u') : u'.offset = u.offset ↔ s'.offset = s.offset := by
  rw [h.offset, h'.offset, Nat.add_right_cancel_iff]

theorem State.Within.advance (h : s.Within shift more u) {c : Char} {rest : List Char} :
    (s.advance c rest).Within shift more (u.advance c (rest ++ more)) where
  offset := by
    change u.offset + 1 = s.offset + 1 + shift
    rw [h.offset, Nat.add_right_comm]
  rest := rfl

/-- What ends at a place ends at the same place of a longer text. -/
def Carries (shift : Nat) (more : List Char) (round : State → List State) : Prop :=
  ∀ ⦃s s' u : State⦄, s.Within shift more u → s' ∈ round s →
    ∃ u' ∈ round u, s'.Within shift more u'

/-! ### Rounds -/

section Rounds

variable {round : State → List State}

/-- Rounds stop in place, or one round is followed by others unless it consumes nothing. -/
theorem mem_endsUpTo_cons (greedy : Bool) (a : Char) (fuel : List Char) (most : Option Nat) :
    s' ∈ endsUpTo round greedy (a :: fuel) most s ↔ s' = s ∨ most ≠ some 0 ∧ ∃ t ∈ round s,
      if t.offset = s.offset then s' = t
      else s' ∈ endsUpTo round greedy fuel (most.map (· - 1)) t := by
  have again : (s' ∈ (round s).flatMap fun t ↦ if t.offset = s.offset then [t]
      else endsUpTo round greedy fuel (most.map (· - 1)) t) ↔ ∃ t ∈ round s,
        if t.offset = s.offset then s' = t
        else s' ∈ endsUpTo round greedy fuel (most.map (· - 1)) t := by
    rw [List.mem_flatMap]
    refine exists_congr fun t ↦ and_congr_right fun _ ↦ ?_
    split
    · exact List.mem_singleton
    · exact Iff.rfl
  match most with
  | some 0 => simp [endsUpTo]
  | none | some (n + 1) =>
    rw [endsUpTo]
    · rw [← again]
      cases greedy
      · simp
      · simp [or_comm]
    · simp

/-- No further round is always among the ways on. -/
theorem self_mem_endsUpTo (greedy : Bool) (fuel : List Char) (most : Option Nat) :
    s ∈ endsUpTo round greedy fuel most s := by
  cases fuel with
  | nil => exact List.mem_singleton_self s
  | cons a fuel => exact (mem_endsUpTo_cons greedy a fuel most).mpr (.inl rfl)

theorem Carries.endsExactly (h : Carries shift more round) (n : Nat) :
    Carries shift more (endsExactly round n) := by
  induction n with
  | zero =>
    intro s s' u hu hs
    rw [List.mem_singleton.mp hs]
    exact ⟨u, List.mem_singleton_self u, hu⟩
  | succ n ih =>
    intro s s' u hu hs
    obtain ⟨t, ht, hs⟩ := List.mem_flatMap.mp hs
    obtain ⟨v, hv, htv⟩ := h hu ht
    obtain ⟨u', hu', hs'⟩ := ih htv hs
    exact ⟨u', List.mem_flatMap.mpr ⟨v, hv, hu'⟩, hs'⟩

/-- In a longer text there can be as many rounds, or more. -/
theorem Carries.endsUpTo (h : Carries shift more round) (greedy : Bool) {fuel fuel' : List Char}
    (hfuel : fuel.length ≤ fuel'.length) {most : Option Nat} (hu : s.Within shift more u)
    (hs : s' ∈ endsUpTo round greedy fuel most s) :
    ∃ u' ∈ endsUpTo round greedy fuel' most u, s'.Within shift more u' := by
  induction fuel generalizing s u fuel' most with
  | nil =>
    rw [List.mem_singleton.mp hs]
    exact ⟨u, self_mem_endsUpTo greedy fuel' most, hu⟩
  | cons a fuel ih =>
    obtain ⟨b, fuel', rfl⟩ := List.exists_cons_of_length_pos (Nat.lt_of_lt_of_le
      (Nat.succ_pos fuel.length) hfuel)
    rcases (mem_endsUpTo_cons greedy a fuel most).mp hs with rfl | ⟨hmost, t, ht, hs⟩
    · exact ⟨u, self_mem_endsUpTo greedy _ most, hu⟩
    · obtain ⟨v, hv, htv⟩ := h hu ht
      -- the round consumes nothing in the longer text if it consumes nothing in the shorter one
      have hstays := hu.offset_eq_iff htv
      split at hs
      next hstay =>
        refine ⟨v, (mem_endsUpTo_cons greedy b fuel' most).mpr (.inr ⟨hmost, v, hv, ?_⟩), hs ▸ htv⟩
        rw [if_pos (hstays.mpr hstay)]
      next hgone =>
        obtain ⟨u', hu', hs'⟩ := ih (Nat.le_of_succ_le_succ hfuel) htv hs
        refine ⟨u', (mem_endsUpTo_cons greedy b fuel' most).mpr (.inr ⟨hmost, v, hv, ?_⟩), hs'⟩
        rw [if_neg fun hstay ↦ hgone (hstays.mp hstay)]
        exact hu'

end Rounds

namespace Node

/-! ### Nodes that look at nothing around them -/

/-- Whether a node asks for nothing but the characters that it reads. -/
def isSelfContained : Node → Bool
  | .empty | .char _ => true
  | .anchor _ | .atomic _ | .ahead _ _ => false
  | .seq first second | .alt first second => first.isSelfContained && second.isSelfContained
  | .loop body _ _ _ | .group _ body => body.isSelfContained

/-- The ends of a self-contained node are ends in every longer text. -/
theorem carries_ends (shift : Nat) (more : List Char) {n : Node} (h : n.isSelfContained = true) :
    Carries shift more n.ends := by
  induction n with
  | empty =>
    intro s s' u hu hs
    rw [List.mem_singleton.mp hs]
    exact ⟨u, List.mem_singleton_self u, hu⟩
  | char set =>
    intro s s' u hu hs
    obtain ⟨c, rest, hrest, hc, rfl⟩ := (mem_ends_char set).mp hs
    have hurest : u.rest = c :: (rest ++ more) := by rw [hu.rest, hrest, List.cons_append]
    exact ⟨u.advance c (rest ++ more), (mem_ends_char set).mpr ⟨c, _, hurest, hc, rfl⟩, hu.advance⟩
  | anchor a => exact absurd h (by simp [isSelfContained])
  | seq first second ihFirst ihSecond =>
    rw [isSelfContained, Bool.and_eq_true] at h
    intro s s' u hu hs
    obtain ⟨t, ht, hs⟩ := (mem_ends_seq first second).mp hs
    obtain ⟨v, hv, htv⟩ := ihFirst h.1 hu ht
    obtain ⟨u', hu', hs'⟩ := ihSecond h.2 htv hs
    exact ⟨u', (mem_ends_seq first second).mpr ⟨v, hv, hu'⟩, hs'⟩
  | alt first second ihFirst ihSecond =>
    rw [isSelfContained, Bool.and_eq_true] at h
    intro s s' u hu hs
    rcases (mem_ends_alt first second).mp hs with hs | hs
    · obtain ⟨u', hu', hs'⟩ := ihFirst h.1 hu hs
      exact ⟨u', (mem_ends_alt first second).mpr (.inl hu'), hs'⟩
    · obtain ⟨u', hu', hs'⟩ := ihSecond h.2 hu hs
      exact ⟨u', (mem_ends_alt first second).mpr (.inr hu'), hs'⟩
  | loop body least most greedy ih =>
    intro s s' u hu hs
    obtain ⟨t, ht, hs⟩ := List.mem_flatMap.mp hs
    obtain ⟨v, hv, htv⟩ := (ih h).endsExactly least hu ht
    have hfuel : (' ' :: t.rest).length ≤ (' ' :: v.rest).length := by simp [htv.rest]
    obtain ⟨u', hu', hs'⟩ := (ih h).endsUpTo greedy hfuel htv hs
    exact ⟨u', List.mem_flatMap.mpr ⟨v, hv, hu'⟩, hs'⟩
  | group index body ih =>
    intro s s' u hu hs
    obtain ⟨t, ht, rfl⟩ := (mem_ends_group index body).mp hs
    obtain ⟨v, hv, htv⟩ := ih h hu ht
    exact ⟨v.capture index u, (mem_ends_group index body).mpr ⟨v, hv, rfl⟩, htv.offset, htv.rest⟩
  | atomic body => exact absurd h (by simp [isSelfContained])
  | ahead positive body => exact absurd h (by simp [isSelfContained])

/-! ### Occurrences -/

theorem isSome_run_iff (n : Node) (s : State) :
    (n.run s some).isSome = true ↔ ∃ t, t ∈ n.ends s := by
  rw [run_eq]
  cases n.ends s with
  | nil => simp
  | cons t rest => simp

private theorem occursFrom_iff (n : Node) (before rest : List Char) :
    n.occursFrom before.length before.getLast? rest = true ↔
      ∃ inner after, rest = inner ++ after ∧
        ∃ t, t ∈ n.ends (.between (before ++ inner) after) := by
  induction rest generalizing before with
  | nil =>
    rw [occursFrom]
    change (n.run (.between before []) some).isSome = true ↔ _
    rw [isSome_run_iff]
    simp [and_assoc]
  | cons c rest ih =>
    have hlast : (some c : Option Char) = (before ++ [c]).getLast? := by simp
    have hlength : before.length + 1 = (before ++ [c]).length := by simp
    rw [exists_split_cons (P := fun before rest ↦ ∃ t, t ∈ n.ends (.between before rest)),
      occursFrom, hlast, hlength, Bool.or_eq_true, ih]
    change (n.run (.between before (c :: rest)) some).isSome = true ∨ _ ↔ _
    rw [isSome_run_iff]

/-- A node occurs in a text where a match can start at one of its places. -/
theorem occursIn_iff (n : Node) (text : List Char) : n.occursIn text = true ↔
    ∃ before rest, text = before ++ rest ∧ ∃ t, t ∈ n.ends (.between before rest) :=
  occursFrom_iff n [] text

/-- A scan finds something where the node occurs. -/
theorem scan_isEmpty_iff (n : Node) (text : List Char) :
    (n.scan text).isEmpty = true ↔ n.occursIn text = false := by
  rw [List.isEmpty_iff, scan_eq_nil_iff, Bool.eq_false_iff, Ne, occursIn_iff]
  constructor
  · rintro hnone ⟨before, rest, hsplit, t, ht⟩
    rw [hnone before rest hsplit] at ht
    exact List.not_mem_nil ht
  · intro hnone before rest hsplit
    rw [List.eq_nil_iff_forall_not_mem]
    exact fun t ht ↦ hnone ⟨before, rest, hsplit, t, ht⟩

/-- A self-contained node that occurs in a text occurs in every text that holds this one. -/
theorem occursIn_of_isSelfContained {n : Node} (h : n.isSelfContained = true) {text : List Char}
    (htext : n.occursIn text = true) (first last : List Char) :
    n.occursIn (first ++ (text ++ last)) = true := by
  obtain ⟨before, rest, rfl, t, ht⟩ := (occursIn_iff n text).mp htext
  have hwithin : (State.between before rest).Within first.length last
      (.between (first ++ before) (rest ++ last)) :=
    ⟨by simp [State.between, Nat.add_comm], rfl⟩
  obtain ⟨u, hu, -⟩ := carries_ends first.length last h hwithin ht
  refine (occursIn_iff n _).mpr ⟨first ++ before, rest ++ last, ?_, u, hu⟩
  simp only [List.append_assoc]

end Node

/-- The pattern of a tree occurs where the tree does. -/
theorem Parsed.occursIn_pattern (p : Parsed) (text : String) :
    p.pattern.occursIn text = p.node.occursIn text.toList := by
  have h := Node.scan_isEmpty_iff p.node text.toList
  change (!(p.node.scan text.toList).isEmpty) = _
  cases hempty : (p.node.scan text.toList).isEmpty with
  | true => rw [h.mp hempty, Bool.not_true]
  | false => rw [Bool.not_false, eq_comm, ← Bool.not_eq_false, ← h, hempty]; simp

end ModuleScript.Pattern
