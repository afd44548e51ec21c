import ModuleScript.Proofs.Pattern.Scanning

/-!
# What nodes read and keep

On the way through a node a piece of the text is read. The pieces that are kept under a number on
this way are pieces that a group of the node with this number has read, or were kept before.
-/

namespace ModuleScript.Pattern

variable {s s' : State}

namespace Node

/-- The bodies of the groups with a number. -/
def bodies (index : Nat) : Node → List Node
  | .empty | .char _ | .anchor _ => []
  | .seq first second | .alt first second => first.bodies index ++ second.bodies index
  | .loop body _ _ _ | .atomic body | .ahead _ body => body.bodies index
  | .group i body => if i = index then body :: body.bodies index else body.bodies index

/-- A piece of a text that one of the bodies reads. -/
def ReadBy (bodies : List Node) (span : Span) : Prop :=
  ∃ body ∈ bodies, ∃ t, ∃ t' ∈ body.ends t, span = ⟨t.rest, t'.offset - t.offset⟩

private theorem ReadBy.append_left {bodies : List Node} {span : Span} (h : ReadBy bodies span)
    (more : List Node) : ReadBy (more ++ bodies) span :=
  ⟨h.choose, List.mem_append_right more h.choose_spec.1, h.choose_spec.2⟩

private theorem ReadBy.append_right {bodies : List Node} {span : Span} (h : ReadBy bodies span)
    (more : List Node) : ReadBy (bodies ++ more) span :=
  ⟨h.choose, List.mem_append_left more h.choose_spec.1, h.choose_spec.2⟩

/-- What is kept under a number was kept before or is read by a group with this number. -/
theorem kept_of_mem_ends (n : Node) {index : Nat} {span : Span} (h : s' ∈ n.ends s)
    (hspan : (index, span) ∈ s'.captures) :
    (index, span) ∈ s.captures ∨ ReadBy (n.bodies index) span := by
  induction n generalizing s s' with
  | empty => exact .inl (List.mem_singleton.mp h ▸ hspan)
  | char set =>
    obtain ⟨c, rest, -, -, rfl⟩ := (mem_ends_char set).mp h
    exact .inl hspan
  | anchor a =>
    rw [ends] at h
    split at h
    · exact .inl (List.mem_singleton.mp h ▸ hspan)
    · exact absurd h List.not_mem_nil
  | seq first second ihFirst ihSecond =>
    obtain ⟨t, ht, hs⟩ := (mem_ends_seq first second).mp h
    rcases ihSecond hs hspan with hspan | hread
    · rcases ihFirst ht hspan with hspan | hread
      · exact .inl hspan
      · exact .inr (hread.append_right _)
    · exact .inr (hread.append_left _)
  | alt first second ihFirst ihSecond =>
    rcases (mem_ends_alt first second).mp h with h | h
    · exact (ihFirst h hspan).imp id (·.append_right _)
    · exact (ihSecond h hspan).imp id (·.append_left _)
  | loop body least most greedy ih =>
    -- the statement links the places before and after any number of rounds
    let r (s s' : State) : Prop := (index, span) ∈ s'.captures →
      (index, span) ∈ s.captures ∨ ReadBy (body.bodies index) span
    have hrefl (s : State) : r s s := .inl
    have htrans {a b c : State} (hab : r a b) (hbc : r b c) : r a c :=
      fun hc ↦ (hbc hc).elim hab .inr
    have hround {a b : State} (hb : b ∈ body.ends a) : r a b := ih hb
    obtain ⟨t, ht, hs⟩ := List.mem_flatMap.mp h
    exact htrans (rel_of_mem_endsExactly hrefl htrans hround least ht)
      (rel_of_mem_endsUpTo hrefl htrans hround greedy _ _ hs) hspan
  | group i body ih =>
    obtain ⟨t, ht, rfl⟩ := (mem_ends_group i body).mp h
    rw [bodies]
    rcases List.mem_cons.mp hspan with heq | hspan
    · obtain ⟨rfl, rfl⟩ := Prod.mk.inj heq
      rw [if_pos rfl]
      exact .inr ⟨body, List.mem_cons_self, s, t, ht, rfl⟩
    · refine (ih ht hspan).imp id fun hread ↦ ?_
      split
      · exact hread.append_left [body]
      · exact hread
  | atomic body ih =>
    rw [ends, Option.mem_toList] at h
    exact ih (List.mem_of_head? h) hspan
  | ahead positive body ih =>
    rcases mem_ends_ahead h with rfl | ⟨t, ht, rfl⟩
    · exact .inl hspan
    · exact ih ht hspan

/-- The text kept under a number is that of a piece. -/
theorem exists_span_of_group? {m : Match} {index : Nat} {name : String}
    (h : m.group? index = some name) :
    ∃ span, (index, span) ∈ m.stop.captures ∧ name = span.text := by
  obtain ⟨span, hspan, rfl⟩ := Option.map_eq_some_iff.mp h
  obtain ⟨before, after, hcaptures, -⟩ := List.lookup_eq_some_iff.mp hspan
  exact ⟨span, by simp [hcaptures], rfl⟩

/-- What a match of a scan keeps under a number is read by a group with this number. -/
theorem readBy_of_mem_scan {n : Node} {text : List Char} {m : Match} {index : Nat} {name : String}
    (h : m ∈ n.scan text) (hname : m.group? index = some name) :
    ∃ span, ReadBy (n.bodies index) span ∧ name = span.text := by
  obtain ⟨start, rest, -, -, hstop⟩ := exists_split_of_mem_scan h
  obtain ⟨span, hmem, rfl⟩ := exists_span_of_group? hname
  rcases kept_of_mem_ends n hstop hmem with hkept | hread
  · exact absurd hkept List.not_mem_nil
  · exact ⟨span, hread, rfl⟩

/-! ### The groups of composed nodes -/

theorem bodies_concat_append (index : Nat) (nodes more : List Node) :
    (concat (nodes ++ more)).bodies index =
      (concat nodes).bodies index ++ (concat more).bodies index := by
  induction nodes with
  | nil => rfl
  | cons n nodes ih =>
    change n.bodies index ++ (concat (nodes ++ more)).bodies index = _
    rw [ih, ← List.append_assoc]
    rfl

/-- Letters keep nothing. -/
theorem bodies_letters (index : Nat) (text : String) :
    (concat (letters text)).bodies index = [] := by
  rw [letters]
  induction text.toList with
  | nil => rfl
  | cons c cs ih => exact ih

theorem bodies_literal (index : Nat) (text : String) : (literal text).bodies index = [] :=
  bodies_letters index text

end Node

end ModuleScript.Pattern
