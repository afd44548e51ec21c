import ModuleScript.Proofs.Pattern.Reading

/-!
# How far nodes read

On the way through a node the place only moves on, over a piece of the text. What is kept on this
way lies within the piece, unless the node looks ahead.
-/

namespace ModuleScript.Pattern

variable {s s' : State}

/-- What links a place to itself, goes on from place to place and holds for every round holds
for exactly so many rounds. -/
theorem rel_of_mem_endsExactly {round : State → List State} {r : State → State → Prop}
    (hrefl : ∀ s, r s s) (htrans : ∀ {a b c}, r a b → r b c → r a c)
    (hround : ∀ {s s'}, s' ∈ round s → r s s') (n : Nat) (h : s' ∈ endsExactly round n s) :
    r s s' := by
  induction n generalizing s with
  | zero => exact List.mem_singleton.mp h ▸ hrefl s
  | succ n ih =>
    obtain ⟨t, ht, hs⟩ := List.mem_flatMap.mp h
    exact htrans (hround ht) (ih hs)

/-- The same holds for rounds up to a greatest number. -/
theorem rel_of_mem_endsUpTo {round : State → List State} {r : State → State → Prop}
    (hrefl : ∀ s, r s s) (htrans : ∀ {a b c}, r a b → r b c → r a c)
    (hround : ∀ {s s'}, s' ∈ round s → r s s') (greedy : Bool) (fuel : List Char)
    (most : Option Nat) (h : s' ∈ endsUpTo round greedy fuel most s) : r s s' := by
  induction fuel generalizing s most with
  | nil => exact List.mem_singleton.mp h ▸ hrefl s
  | cons c fuel ih =>
    have again {most : Option Nat} (h : s' ∈ (round s).flatMap fun t ↦
        if t.offset = s.offset then [t] else endsUpTo round greedy fuel most t) : r s s' := by
      obtain ⟨t, ht, hs⟩ := List.mem_flatMap.mp h
      split at hs
      · exact List.mem_singleton.mp hs ▸ hround ht
      · exact htrans (hround ht) (ih _ hs)
    match most with
    | some 0 => exact List.mem_singleton.mp h ▸ hrefl s
    | none | some (n + 1) =>
      rw [endsUpTo] at h
      · split at h
        · rcases List.mem_append.mp h with h | h
          · exact again h
          · exact List.mem_singleton.mp h ▸ hrefl s
        · rcases List.mem_cons.mp h with rfl | h
          · exact hrefl s'
          · exact again h
      · simp

namespace Node

/-- Whether a node looks ahead of what it reads. -/
def looksAhead : Node → Bool
  | .empty | .char _ | .anchor _ => false
  | .seq first second | .alt first second => first.looksAhead || second.looksAhead
  | .loop body _ _ _ | .group _ body | .atomic body => body.looksAhead
  | .ahead _ _ => true

/-- What links a place to itself, goes on from place to place, and holds for one character read,
where a group is closed and where something ahead is looked at, holds from a place to every end of a
node. -/
theorem rel_of_mem_ends {r : State → State → Prop} (hrefl : ∀ s, r s s)
    (htrans : ∀ {a b c}, r a b → r b c → r a c)
    (hadvance : ∀ (s : State) (c : Char) (rest : List Char), s.rest = c :: rest →
      r s (s.advance c rest))
    (hcapture : ∀ {s t : State} (index : Nat), r s t → r s (t.capture index s))
    (n : Node) (hahead : n.looksAhead = true → ∀ {s t : State}, r s t →
      r s { s with captures := t.captures }) (h : s' ∈ n.ends s) : r s s' := by
  induction n generalizing s s' with
  | empty => exact List.mem_singleton.mp h ▸ hrefl s
  | char set =>
    obtain ⟨c, rest, hs, -, rfl⟩ := (mem_ends_char set).mp h
    exact hadvance s c rest hs
  | anchor a =>
    rw [ends] at h
    split at h
    · exact List.mem_singleton.mp h ▸ hrefl s
    · exact absurd h List.not_mem_nil
  | seq first second ihFirst ihSecond =>
    obtain ⟨t, ht, hs⟩ := (mem_ends_seq first second).mp h
    exact htrans (ihFirst (fun hfirst ↦ hahead (by simp [looksAhead, hfirst])) ht)
      (ihSecond (fun hsecond ↦ hahead (by simp [looksAhead, hsecond])) hs)
  | alt first second ihFirst ihSecond =>
    exact ((mem_ends_alt first second).mp h).elim
      (ihFirst fun hfirst ↦ hahead (by simp [looksAhead, hfirst]))
      (ihSecond fun hsecond ↦ hahead (by simp [looksAhead, hsecond]))
  | loop body least most greedy ih =>
    obtain ⟨t, ht, hs⟩ := List.mem_flatMap.mp h
    exact htrans (rel_of_mem_endsExactly hrefl htrans (ih hahead) least ht)
      (rel_of_mem_endsUpTo hrefl htrans (ih hahead) greedy _ _ hs)
  | group index body ih =>
    obtain ⟨t, ht, rfl⟩ := (mem_ends_group index body).mp h
    exact hcapture index (ih hahead ht)
  | atomic body ih =>
    rw [ends, Option.mem_toList] at h
    exact ih hahead (List.mem_of_head? h)
  | ahead positive body ih =>
    rcases mem_ends_ahead h with rfl | ⟨t, ht, rfl⟩
    · exact hrefl s'
    · exact hahead rfl (ih (fun _ ↦ hahead rfl) ht)

/-- From a place to an end of a node, a piece of the text is read. -/
theorem exists_read_of_mem_ends (n : Node) (h : s' ∈ n.ends s) :
    ∃ w, s.rest = w ++ s'.rest ∧ s'.offset = s.offset + w.length := by
  refine rel_of_mem_ends (r := fun s s' ↦ ∃ w, s.rest = w ++ s'.rest ∧
    s'.offset = s.offset + w.length) (fun s ↦ ⟨[], rfl, rfl⟩) ?_ (fun s c rest hs ↦ ⟨[c], hs, rfl⟩)
    (fun _ hread ↦ hread) n (fun _ _ _ _ ↦ ⟨[], rfl, rfl⟩) h
  rintro a b c ⟨v, hv, hab⟩ ⟨w, hw, hbc⟩
  exact ⟨v ++ w, by rw [hv, hw, List.append_assoc], by rw [hbc, hab, List.length_append]; omega⟩

/-- An end of a node lies at the place or behind it. -/
theorem offset_le_of_mem_ends (n : Node) (h : s' ∈ n.ends s) : s.offset ≤ s'.offset := by
  obtain ⟨w, -, hoffset⟩ := exists_read_of_mem_ends n h
  omega

end Node

/-- A piece of a text lies between two places. -/
def Span.Between (span : Span) (s s' : State) : Prop :=
  ∃ w, s.rest = w ++ span.rest ∧ s.offset + w.length + span.length ≤ s'.offset

namespace Node

/-- What is kept was kept before, or it lies within what is read, unless something ahead is looked
at. -/
theorem between_of_mem_ends {n : Node} (hahead : n.looksAhead = false) {index : Nat} {span : Span}
    (h : s' ∈ n.ends s) (hspan : (index, span) ∈ s'.captures) :
    (index, span) ∈ s.captures ∨ span.Between s s' := by
  -- a piece of the text is read, so that what lies behind it lies behind the first place
  have hkept := rel_of_mem_ends (r := fun s s' ↦
    (∃ w, s.rest = w ++ s'.rest ∧ s'.offset = s.offset + w.length) ∧
      ∀ kept ∈ s'.captures, kept ∈ s.captures ∨ kept.2.Between s s')
    (fun s ↦ ⟨⟨[], rfl, rfl⟩, fun _ hkept ↦ .inl hkept⟩) ?_ ?_ ?_ n
    (fun hlooks ↦ absurd (hahead.symm.trans hlooks) Bool.false_ne_true) h
  · exact hkept.2 _ hspan
  · rintro a b c ⟨⟨v, hv, hab⟩, habKept⟩ ⟨⟨w, hw, hbc⟩, hbcKept⟩
    refine ⟨⟨v ++ w, ?_, ?_⟩, fun kept hc ↦ ?_⟩
    · rw [hv, hw, List.append_assoc]
    · rw [List.length_append]
      omega
    · rcases hbcKept kept hc with hb | ⟨u, hu, hlength⟩
      · refine (habKept kept hb).imp id fun ⟨u, hu, hlength⟩ ↦ ⟨u, hu, ?_⟩
        omega
      · refine .inr ⟨v ++ u, by rw [hv, hu, List.append_assoc], ?_⟩
        rw [List.length_append]
        omega
  · intro s c rest hs
    exact ⟨⟨[c], hs, rfl⟩, fun _ hkept ↦ .inl hkept⟩
  · rintro s t i ⟨⟨w, hw, hst⟩, hkept⟩
    refine ⟨⟨w, hw, hst⟩, fun kept ht ↦ ?_⟩
    rcases List.mem_cons.mp ht with rfl | ht
    · refine .inr ⟨[], rfl, ?_⟩
      change s.offset + 0 + (t.offset - s.offset) ≤ t.offset
      omega
    · exact hkept kept ht

end Node

end ModuleScript.Pattern
