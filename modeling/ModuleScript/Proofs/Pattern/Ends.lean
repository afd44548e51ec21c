import ModuleScript.Pattern.Match

/-!
# The ends of a match in order of preference

Matching with a way on is a search through the list of all places at which a node can end, in
the order in which they are tried. The list says what matching finds without its ways on.
-/

namespace ModuleScript.Pattern

/-- The places after exactly `n` rounds. -/
def endsExactly (round : State → List State) : Nat → State → List State
  | 0, s => [s]
  | n + 1, s => (round s).flatMap (endsExactly round n)

/-- The places after rounds up to a greatest number. -/
def endsUpTo (round : State → List State) (greedy : Bool) :
    (fuel : List Char) → (most : Option Nat) → State → List State
  | [], _, s | _, some 0, s => [s]
  | _ :: fuel, most, s =>
    let again := (round s).flatMap fun s' ↦
      if s'.offset = s.offset then [s'] else endsUpTo round greedy fuel (most.map (· - 1)) s'
    if greedy then again ++ [s] else s :: again

/-- Without a greatest number, another round is tried as long as there is fuel. -/
theorem endsUpTo_none_cons (round : State → List State) (greedy : Bool) (a : Char)
    (fuel : List Char) (s : State) :
    endsUpTo round greedy (a :: fuel) none s =
      let again := (round s).flatMap fun s' ↦
        if s'.offset = s.offset then [s'] else endsUpTo round greedy fuel none s'
      if greedy then again ++ [s] else s :: again := rfl

/-- The places at which a match of a node can end, the preferred ones first. -/
def Node.ends : Node → State → List State
  | .empty, s => [s]
  | .char set, s =>
    match s.rest with
    | [] => []
    | c :: rest => if set.contains c then [s.advance c rest] else []
  | .anchor a, s => if a.holds s then [s] else []
  | .seq first second, s => (first.ends s).flatMap second.ends
  | .alt first second, s => first.ends s ++ second.ends s
  | .loop body least most greedy, s =>
    (endsExactly body.ends least s).flatMap fun s' ↦
      endsUpTo body.ends greedy (' ' :: s'.rest) (most.map (· - least)) s'
  | .group index body, s => (body.ends s).map (·.capture index s)
  | .atomic body, s => (body.ends s).head?.toList
  | .ahead true body, s =>
    (body.ends s).head?.toList.map fun s' ↦ { s with captures := s'.captures }
  | .ahead false body, s => if (body.ends s).isEmpty then [s] else []

private theorem findSome?_flatMap {α β γ : Type} (f : α → List β) (k : β → Option γ)
    (items : List α) :
    (items.flatMap f).findSome? k = items.findSome? fun a ↦ (f a).findSome? k := by
  induction items with
  | nil => rfl
  | cons a rest ih =>
    rw [List.flatMap_cons, List.findSome?_append, ih, List.findSome?_cons]
    cases (f a).findSome? k <;> rfl

/-- Exactly `n` rounds search through the places after `n` rounds. -/
theorem repeatExactly_eq {run : State → Onward → Option State} {round : State → List State}
    (h : ∀ s k, run s k = (round s).findSome? k) (n : Nat) (s : State) (k : Onward) :
    repeatExactly run n s k = (endsExactly round n s).findSome? k := by
  induction n generalizing s with
  | zero => simp [repeatExactly, endsExactly]
  | succ n ih =>
    rw [repeatExactly, h, endsExactly, findSome?_flatMap]
    simp only [ih]

/-- Rounds up to a greatest number search through the places after them. -/
theorem repeatUpTo_eq {run : State → Onward → Option State} {round : State → List State}
    (h : ∀ s k, run s k = (round s).findSome? k) (greedy : Bool) (fuel : List Char)
    (most : Option Nat) (s : State) (k : Onward) :
    repeatUpTo run greedy fuel most s k = (endsUpTo round greedy fuel most s).findSome? k := by
  induction fuel generalizing most s with
  | nil => simp [repeatUpTo, endsUpTo]
  | cons c fuel ih =>
    have again (most : Option Nat) : (run s fun s' ↦
        if s'.offset = s.offset then k s'
        else repeatUpTo run greedy fuel (most.map (· - 1)) s' k) =
        ((round s).flatMap fun s' ↦
          if s'.offset = s.offset then [s']
          else endsUpTo round greedy fuel (most.map (· - 1)) s').findSome? k := by
      rw [h, findSome?_flatMap]
      congr 1
      funext s'
      split
      · simp
      · exact ih _ _
    match most with
    | some 0 => simp [repeatUpTo, endsUpTo]
    | none | some (n + 1) =>
      rw [repeatUpTo, endsUpTo]
      · simp only [again]
        cases greedy
        · simp only [Bool.false_eq_true, if_false, List.findSome?_cons]
          cases k s <;> rfl
        · simp only [if_true, List.findSome?_append, List.findSome?_cons, List.findSome?_nil]
          cases List.findSome? k _ <;> cases k s <;> rfl
      all_goals simp

/-- Matching with a way on is a search through the ends. -/
theorem Node.run_eq (n : Node) (s : State) (k : Onward) : n.run s k = (n.ends s).findSome? k := by
  induction n generalizing s k with
  | empty => simp [run, ends]
  | char set =>
    rw [run, ends]
    cases s.rest with
    | nil => rfl
    | cons c rest => cases h : set.contains c <;> simp [h]
  | anchor a => cases h : a.holds s <;> simp [run, ends, h]
  | seq first second ihFirst ihSecond =>
    rw [run, ends, ihFirst, findSome?_flatMap]
    simp only [ihSecond]
  | alt first second ihFirst ihSecond =>
    rw [run, ends, ihFirst, ihSecond, List.findSome?_append]
    cases (first.ends s).findSome? k <;> rfl
  | loop body least most greedy ih =>
    rw [run, ends, repeatExactly_eq ih, findSome?_flatMap]
    simp only [repeatUpTo_eq ih]
  | group index body ih => rw [run, ends, ih, List.findSome?_map]; rfl
  | atomic body ih =>
    rw [run, ends, ih]
    cases body.ends s with
    | nil => rfl
    | cons s' rest => simp
  | ahead positive body ih =>
    cases positive <;> rw [run, ends, ih] <;> cases body.ends s <;> simp

/-- A match at a place stops at the preferred end. -/
theorem Node.matchAt?_eq (n : Node) (s : State) :
    n.matchAt? s = (n.ends s).head?.map (⟨s.offset, ·⟩) := by
  rw [matchAt?, run_eq]
  cases n.ends s <;> rfl

/-- A match of a whole text stops at the preferred end with nothing left. -/
theorem Node.matchWhole?_eq (n : Node) (text : List Char) :
    n.matchWhole? text = ((n.ends (.start text)).find? (·.rest.isEmpty)).map (⟨0, ·⟩) := by
  rw [matchWhole?, run_eq]
  congr 1
  induction n.ends (.start text) with
  | nil => rfl
  | cons s rest ih =>
    rw [List.findSome?_cons, List.find?_cons, ih]
    cases s.rest.isEmpty <;> rfl

/-- The matches that a scan takes at a place stop at ends of the node. -/
theorem Node.stop_mem_of_mem_matchesAt {n : Node} {s : State} {m : Match}
    (h : m ∈ n.matchesAt s) : m.stop ∈ n.ends s := by
  have first {m : Match} (h : n.matchAt? s = some m) : m.stop ∈ n.ends s := by
    rw [matchAt?_eq] at h
    obtain ⟨t, ht, rfl⟩ := Option.map_eq_some_iff.mp h
    exact List.mem_of_head? ht
  have again {m : Match} (h : n.matchSomeAt? s = some m) : m.stop ∈ n.ends s := by
    rw [matchSomeAt?, run_eq] at h
    obtain ⟨t, ht, rfl⟩ := Option.map_eq_some_iff.mp h
    obtain ⟨u, hu, hut⟩ := List.exists_of_findSome?_eq_some ht
    split at hut
    · exact absurd hut (by simp)
    · exact Option.some.inj hut ▸ hu
  rw [matchesAt] at h
  split at h
  · exact absurd h List.not_mem_nil
  next m' hm =>
    split at h
    · rcases List.mem_cons.mp h with rfl | h
      · exact first hm
      · exact again (Option.mem_toList.mp h)
    · rw [List.mem_singleton.mp h]
      exact first hm

end ModuleScript.Pattern
