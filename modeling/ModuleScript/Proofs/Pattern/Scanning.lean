import Mathlib.Data.List.Pairwise
import ModuleScript.Proofs.Pattern.Progress

/-!
# What a scan comes upon

A scan takes the first match it meets and goes on behind it, so its matches follow one another, and
a match that starts within an earlier one is passed over. So a scan finds something wherever there
is a match at all. Where every match reads something, the match at a place is taken exactly if no
match taken before goes on behind the place. Where no match can start strictly inside another,
nothing is passed over: a scan finds the match at every place at which there is one.
-/

namespace ModuleScript.Pattern

/-- The place in a text behind some of it. -/
def State.between (before rest : List Char) : State where
  offset := before.length
  before := before.getLast?
  rest

@[simp] theorem State.rest_between (before rest : List Char) :
    (State.between before rest).rest = rest := rfl

namespace Node

/-- The places of a text are the one before it and those behind its first character. -/
theorem exists_split_cons {P : List Char → List Char → Prop} {before rest : List Char} {c : Char} :
    (∃ inner after, c :: rest = inner ++ after ∧ P (before ++ inner) after) ↔
      P before (c :: rest) ∨
        ∃ inner after, rest = inner ++ after ∧ P (before ++ [c] ++ inner) after := by
  constructor
  · rintro ⟨inner, after, hsplit, h⟩
    cases inner with
    | nil =>
      rw [List.nil_append] at hsplit
      rw [List.append_nil, ← hsplit] at h
      exact .inl h
    | cons d inner =>
      rw [List.cons_append, List.cons.injEq] at hsplit
      obtain ⟨rfl, hsplit⟩ := hsplit
      refine .inr ⟨inner, after, hsplit, ?_⟩
      rwa [List.append_assoc, List.singleton_append]
  · rintro (h | ⟨inner, after, hsplit, h⟩)
    · exact ⟨[], c :: rest, rfl, by rwa [List.append_nil]⟩
    · refine ⟨c :: inner, after, by rw [hsplit, List.cons_append], ?_⟩
      rwa [List.append_assoc, List.singleton_append] at h

variable {n : Node} {m : Match}

/-! ### Matches that follow one another -/

/-- A match starts at its place and stops at an end of the node. -/
theorem start_stop_of_matchAt? {s : State} (h : n.matchAt? s = some m) :
    m.start = s.offset ∧ m.stop ∈ n.ends s := by
  rw [matchAt?_eq] at h
  obtain ⟨t, ht, rfl⟩ := Option.map_eq_some_iff.mp h
  exact ⟨rfl, List.mem_of_head? ht⟩

/-- At one place there is no match, one, or a second one behind one that reads nothing. -/
private theorem matchesAt_cases (n : Node) (s : State) :
    n.matchesAt s = [] ∨ (∃ m, n.matchesAt s = [m]) ∨
      ∃ m m', n.matchesAt s = [m, m'] ∧ m.stop.offset = s.offset := by
  rw [matchesAt]
  split
  · exact .inl rfl
  next m _ =>
    split
    next hempty =>
      cases n.matchSomeAt? s with
      | none => exact .inr (.inl ⟨m, rfl⟩)
      | some m' => exact .inr (.inr ⟨m, m', rfl, hempty⟩)
    next => exact .inr (.inl ⟨m, rfl⟩)

theorem start_of_mem_matchesAt {s : State} (h : m ∈ n.matchesAt s) : m.start = s.offset := by
  rw [matchesAt] at h
  split at h
  · exact absurd h List.not_mem_nil
  next m' hm' =>
    have hfirst := (start_stop_of_matchAt? hm').1
    split at h
    · rcases List.mem_cons.mp h with rfl | h
      · exact hfirst
      · obtain ⟨t, -, rfl⟩ := Option.map_eq_some_iff.mp (Option.mem_toList.mp h)
        rfl
    · exact List.mem_singleton.mp h ▸ hfirst

/-- No match that a scan takes at a place goes on behind the offset from which it is free then. -/
private theorem stop_le_free {s : State} {free : Nat} (hfree : free ≤ s.offset) :
    free ≤ ((n.matchesAt s).getLast?.map (·.stop.offset)).getD free ∧ ∀ m ∈ n.matchesAt s,
      m.stop.offset ≤ ((n.matchesAt s).getLast?.map (·.stop.offset)).getD free := by
  have hstop {m : Match} (h : m ∈ n.matchesAt s) : s.offset ≤ m.stop.offset :=
    offset_le_of_mem_ends n (stop_mem_of_mem_matchesAt h)
  rcases matchesAt_cases n s with hnone | ⟨m, hone⟩ | ⟨m, m', htwo, hempty⟩
  · simp [hnone]
  · have hm := hstop (hone ▸ List.mem_singleton_self m)
    rw [hone]
    exact ⟨Nat.le_trans hfree hm, fun m' hm' ↦ List.mem_singleton.mp hm' ▸ Nat.le_refl _⟩
  · have hmem : m' ∈ n.matchesAt s := by simp [htwo]
    have hm' := hstop hmem
    rw [htwo]
    refine ⟨Nat.le_trans hfree hm', fun k hk ↦ ?_⟩
    rcases List.mem_cons.mp hk with rfl | hk
    · exact hempty ▸ hm'
    · exact List.mem_singleton.mp hk ▸ Nat.le_refl _

private theorem pairwise_matchesAt (n : Node) (s : State) :
    (n.matchesAt s).Pairwise (·.stop.offset ≤ ·.start) := by
  rcases matchesAt_cases n s with hnone | ⟨m, hone⟩ | ⟨m, m', htwo, hempty⟩
  · rw [hnone]
    exact .nil
  · rw [hone]
    exact List.pairwise_singleton _ _
  · have hmem : m' ∈ n.matchesAt s := by simp [htwo]
    rw [htwo, List.pairwise_pair, start_of_mem_matchesAt hmem]
    exact Nat.le_of_eq hempty

private theorem pairwise_scanFrom (before rest : List Char) (free : Nat) :
    (n.scanFrom free before.length before.getLast? rest).Pairwise (·.stop.offset ≤ ·.start) ∧
      ∀ m ∈ n.scanFrom free before.length before.getLast? rest, free ≤ m.start := by
  induction rest generalizing before free with
  | nil =>
    rw [scanFrom]
    split
    · exact ⟨.nil, by simp⟩
    next hfree =>
      refine ⟨pairwise_matchesAt n _, fun m hm ↦ ?_⟩
      rw [start_of_mem_matchesAt hm]
      exact Nat.le_of_not_lt hfree
  | cons c rest ih =>
    have hlast : (some c : Option Char) = (before ++ [c]).getLast? := by simp
    have hlength : before.length + 1 = (before ++ [c]).length := by simp
    rw [scanFrom, hlast, hlength]
    split
    · exact ih _ _
    next hfree =>
      -- what follows starts where the last match found here stops, or later
      obtain ⟨hfurther, hstops⟩ := stop_le_free (n := n)
        (s := ⟨before.length, before.getLast?, c :: rest, []⟩) (Nat.le_of_not_lt hfree)
      obtain ⟨hpairs, hlater⟩ := ih (before ++ [c]) _
      refine ⟨List.pairwise_append.mpr ⟨pairwise_matchesAt n _, hpairs, fun m hm m' hm' ↦ ?_⟩,
        fun m hm ↦ ?_⟩
      · exact Nat.le_trans (hstops m hm) (hlater m' hm')
      · rcases List.mem_append.mp hm with hm | hm
        · rw [start_of_mem_matchesAt hm]
          exact Nat.le_of_not_lt hfree
        · exact Nat.le_trans hfurther (hlater m hm)

/-- The matches of a scan follow one another. -/
theorem pairwise_scan (n : Node) (text : List Char) :
    (n.scan text).Pairwise (·.stop.offset ≤ ·.start) := (pairwise_scanFrom [] text 0).1

/-- Of two different matches of a scan, one stops before the other starts. -/
theorem eq_or_stop_le_start {text : List Char} {m' : Match} (h : m ∈ n.scan text)
    (h' : m' ∈ n.scan text) : m = m' ∨ m.stop.offset ≤ m'.start ∨ m'.stop.offset ≤ m.start := by
  let apart (m m' : Match) : Prop := m.stop.offset ≤ m'.start ∨ m'.stop.offset ≤ m.start
  have hsymm : Std.Symm apart := ⟨fun _ _ ↦ Or.symm⟩
  have hpairs : (n.scan text).Pairwise apart := (pairwise_scan n text).imp Or.inl
  by_cases hne : m = m'
  · exact .inl hne
  · exact .inr (hpairs.forall h h' hne)

/-! ### Whether a scan comes upon a match -/

private theorem exists_split_of_mem_scanFrom (before rest : List Char) (free : Nat)
    (h : m ∈ n.scanFrom free before.length before.getLast? rest) :
    ∃ inner after, rest = inner ++ after ∧ m.start = (before ++ inner).length ∧
      m.stop ∈ n.ends (.between (before ++ inner) after) := by
  induction rest generalizing before free with
  | nil =>
    rw [scanFrom] at h
    split at h
    · exact absurd h List.not_mem_nil
    · refine ⟨[], [], rfl, ?_⟩
      rw [List.append_nil]
      exact ⟨start_of_mem_matchesAt h, stop_mem_of_mem_matchesAt h⟩
  | cons c rest ih =>
    have hlast : (some c : Option Char) = (before ++ [c]).getLast? := by simp
    have hlength : before.length + 1 = (before ++ [c]).length := by simp
    rw [exists_split_cons (P := fun before rest ↦ m.start = before.length ∧
      m.stop ∈ n.ends (.between before rest))]
    rw [scanFrom, hlast, hlength] at h
    split at h
    · exact .inr (ih _ _ h)
    · rcases List.mem_append.mp h with h | h
      · exact .inl ⟨start_of_mem_matchesAt h, stop_mem_of_mem_matchesAt h⟩
      · exact .inr (ih _ _ h)

/-- Every match of a scan starts at a place of the text and stops at an end of the node from
there. -/
theorem exists_split_of_mem_scan {text : List Char} (h : m ∈ n.scan text) :
    ∃ before rest, text = before ++ rest ∧ m.start = before.length ∧
      m.stop ∈ n.ends (.between before rest) :=
  exists_split_of_mem_scanFrom [] text 0 h

/-- A place with an end has a match. -/
private theorem ends_eq_nil_of_matchesAt {s : State} (h : n.matchesAt s = []) : n.ends s = [] := by
  rw [matchesAt, matchAt?_eq] at h
  cases hends : n.ends s with
  | nil => rfl
  | cons t rest =>
    rw [hends] at h
    simp only [List.head?_cons, Option.map_some] at h
    split at h <;> exact absurd h (by simp)

private theorem ends_eq_nil_of_scanFrom (before rest : List Char) {free : Nat}
    (hfree : free ≤ before.length) (h : n.scanFrom free before.length before.getLast? rest = []) :
    ∀ inner after, rest = inner ++ after → n.ends (.between (before ++ inner) after) = [] := by
  induction rest generalizing before with
  | nil =>
    rw [scanFrom, if_neg (Nat.not_lt.mpr hfree)] at h
    intro inner after hsplit
    obtain ⟨rfl, rfl⟩ := List.append_eq_nil_iff.mp hsplit.symm
    rw [List.append_nil]
    exact ends_eq_nil_of_matchesAt h
  | cons c rest ih =>
    have hlast : (some c : Option Char) = (before ++ [c]).getLast? := by simp
    have hlength : before.length + 1 = (before ++ [c]).length := by simp
    rw [scanFrom, if_neg (Nat.not_lt.mpr hfree), List.append_eq_nil_iff, hlast, hlength] at h
    -- nothing is found here, so nothing further on is passed over
    obtain ⟨hhere, hfurther⟩ := h
    rw [hhere, List.getLast?_nil, Option.map_none, Option.getD_none] at hfurther
    have hrest := ih (before ++ [c]) (by simp only [List.length_append]; omega) hfurther
    intro inner after hsplit
    cases inner with
    | nil =>
      rw [List.append_nil, ← List.nil_append after, ← hsplit]
      exact ends_eq_nil_of_matchesAt hhere
    | cons d inner =>
      rw [List.cons_append, List.cons.injEq] at hsplit
      obtain ⟨rfl, hsplit⟩ := hsplit
      rw [← List.singleton_append, ← List.append_assoc]
      exact hrest inner after hsplit

/-- A scan comes upon nothing exactly if the node has no end from any place of the text. -/
theorem scan_eq_nil_iff {text : List Char} : n.scan text = [] ↔
    ∀ before rest, text = before ++ rest → n.ends (.between before rest) = [] := by
  constructor
  · exact ends_eq_nil_of_scanFrom [] text (Nat.zero_le _)
  · intro h
    rw [List.eq_nil_iff_forall_not_mem]
    intro m hm
    obtain ⟨before, rest, hsplit, -, hstop⟩ := exists_split_of_mem_scan hm
    rw [h before rest hsplit] at hstop
    exact List.not_mem_nil hstop

/-! ### Which matches a scan comes upon -/

/-- Every match reads something. -/
def Reads (n : Node) : Prop :=
  ∀ (before rest : List Char), ∀ t ∈ n.ends (.between before rest), before.length < t.offset

/-- Where every match reads something, a place has one match at most. -/
theorem matchesAt_eq (h : n.Reads) (before rest : List Char) :
    n.matchesAt (.between before rest) = (n.matchAt? (.between before rest)).toList := by
  rw [matchesAt]
  cases hm : n.matchAt? (.between before rest) with
  | none => rfl
  | some m =>
    rw [matchAt?_eq] at hm
    obtain ⟨t, ht, rfl⟩ := Option.map_eq_some_iff.mp hm
    have hread := h before rest t (List.mem_of_head? ht)
    have hne : t.offset ≠ (State.between before rest).offset := Nat.ne_of_gt hread
    simp only [if_neg hne, Option.toList_some]

private theorem scanFrom_nil (h : n.Reads) (before : List Char) (free : Nat) :
    n.scanFrom free before.length before.getLast? [] =
      if before.length < free then [] else (n.matchAt? (.between before [])).toList := by
  rw [scanFrom, ← matchesAt_eq h]
  rfl

/-- A scan goes on behind the match it takes at a place. -/
private theorem scanFrom_cons (h : n.Reads) (before rest : List Char) (c : Char) (free : Nat) :
    n.scanFrom free before.length before.getLast? (c :: rest) =
      if before.length < free then
        n.scanFrom free (before ++ [c]).length (before ++ [c]).getLast? rest
      else match n.matchAt? (.between before (c :: rest)) with
        | none => n.scanFrom free (before ++ [c]).length (before ++ [c]).getLast? rest
        | some m => m ::
          n.scanFrom m.stop.offset (before ++ [c]).length (before ++ [c]).getLast? rest := by
  have hhere : n.matchesAt ⟨before.length, before.getLast?, c :: rest, []⟩ = _ :=
    matchesAt_eq h before (c :: rest)
  have hlast : (some c : Option Char) = (before ++ [c]).getLast? := by simp
  have hlength : before.length + 1 = (before ++ [c]).length := by simp
  rw [scanFrom, hhere, hlast, hlength]
  cases n.matchAt? (.between before (c :: rest)) <;> rfl

/-- There is no match where the node has no end. -/
theorem matchAt?_eq_none {s : State} (h : n.ends s = []) : n.matchAt? s = none := by
  rw [matchAt?_eq, h]
  rfl

private theorem exists_matchAt_of_mem_scanFrom (h : n.Reads) (before rest : List Char) (free : Nat)
    (hm : m ∈ n.scanFrom free before.length before.getLast? rest) :
    ∃ inner after, rest = inner ++ after ∧
      n.matchAt? (.between (before ++ inner) after) = some m := by
  induction rest generalizing before free with
  | nil =>
    rw [scanFrom_nil h] at hm
    split at hm
    · exact absurd hm List.not_mem_nil
    · exact ⟨[], [], rfl, by rwa [List.append_nil, ← Option.mem_toList]⟩
  | cons c rest ih =>
    rw [exists_split_cons (P := fun before rest ↦ n.matchAt? (.between before rest) = some m)]
    rw [scanFrom_cons h] at hm
    split at hm
    · exact .inr (ih _ _ hm)
    · split at hm
      · exact .inr (ih _ _ hm)
      next hhere =>
        rcases List.mem_cons.mp hm with rfl | hm
        · exact .inl hhere
        · exact .inr (ih _ _ hm)

/-- Every match of a scan is the match at some place of the text. -/
theorem exists_matchAt_of_mem_scan (h : n.Reads) {text : List Char} (hm : m ∈ n.scan text) :
    ∃ before rest, text = before ++ rest ∧ n.matchAt? (.between before rest) = some m :=
  exists_matchAt_of_mem_scanFrom h [] text 0 hm

/-- So different matches of a scan start at different places. -/
theorem eq_of_mem_scan_of_start_eq (h : n.Reads) {text : List Char} {m' : Match}
    (hm : m ∈ n.scan text) (hm' : m' ∈ n.scan text) (hstart : m.start = m'.start) : m = m' := by
  obtain ⟨before, rest, hsplit, hat⟩ := exists_matchAt_of_mem_scan h hm
  obtain ⟨before', rest', hsplit', hat'⟩ := exists_matchAt_of_mem_scan h hm'
  rw [(start_stop_of_matchAt? hat).1, (start_stop_of_matchAt? hat').1] at hstart
  obtain ⟨rfl, rfl⟩ := List.append_inj (hsplit.symm.trans hsplit') hstart
  exact Option.some.inj (hat.symm.trans hat')

/-! ### Which matches a scan passes over -/

/-- A match that a scan takes before a place goes on behind the place. -/
def RunsOver (n : Node) (text : List Char) (place : Nat) : Prop :=
  ∃ m ∈ n.scan text, m.start < place ∧ place < m.stop.offset

private theorem mem_scanFrom_or (h : n.Reads) (before inner after : List Char) (free : Nat)
    (hm : n.matchAt? (.between (before ++ inner) after) = some m) :
    m ∈ n.scanFrom free before.length before.getLast? (inner ++ after) ∨
      (before ++ inner).length < free ∨
      ∃ m' ∈ n.scanFrom free before.length before.getLast? (inner ++ after),
        m'.start < (before ++ inner).length ∧ (before ++ inner).length < m'.stop.offset := by
  induction inner generalizing before free with
  | nil =>
    rw [List.append_nil] at hm ⊢
    by_cases hfree : before.length < free
    · exact .inr (.inl hfree)
    · left
      cases after with
      | nil =>
        rw [List.append_nil, scanFrom_nil h, if_neg hfree, hm]
        exact List.mem_singleton_self m
      | cons c after =>
        rw [List.nil_append, scanFrom_cons h, if_neg hfree, hm]
        exact List.mem_cons_self
  | cons c inner ih =>
    have hsplit : before ++ c :: inner = before ++ [c] ++ inner := by simp
    rw [hsplit] at hm ⊢
    rw [List.cons_append, scanFrom_cons h]
    split
    · exact ih (before ++ [c]) free hm
    · split
      · exact ih (before ++ [c]) free hm
      next found hfound =>
        have hstart : found.start = before.length := (start_stop_of_matchAt? hfound).1
        rcases ih (before ++ [c]) found.stop.offset hm with hmem | hover | ⟨m', hm', hrange⟩
        · exact .inl (List.mem_cons_of_mem _ hmem)
        · -- the place is one of those that the match just found goes over
          refine .inr (.inr ⟨found, List.mem_cons_self, ?_, hover⟩)
          simp only [hstart, List.length_append, List.length_singleton]
          omega
        · exact .inr (.inr ⟨m', List.mem_cons_of_mem _ hm', hrange⟩)

/-- A scan takes the match at a place exactly if no match that it takes before goes on behind the
place. -/
theorem mem_scan_iff_not_runsOver (h : n.Reads) {before rest : List Char}
    (hm : n.matchAt? (.between before rest) = some m) :
    m ∈ n.scan (before ++ rest) ↔ ¬ n.RunsOver (before ++ rest) before.length := by
  obtain ⟨hstart, hstop⟩ := start_stop_of_matchAt? hm
  have hstart : m.start = before.length := hstart
  have hreads := h _ _ _ hstop
  constructor
  · rintro hmem ⟨m', hm', hbefore, hover⟩
    rcases eq_or_stop_le_start hmem hm' with rfl | hle | hle <;> omega
  · intro hnone
    rcases mem_scanFrom_or h [] before rest 0 hm with hmem | hfree | hover
    · exact hmem
    · exact absurd hfree (Nat.not_lt_zero _)
    · exact absurd hover hnone

/-! ### The order of matches -/

/-- The matches of a scan from a place on at which it is free to match. -/
def scanBehind (n : Node) (before rest : List Char) : List Match :=
  n.scanFrom 0 before.length before.getLast? rest

/-- Where a scan has become free does not matter once it is. -/
private theorem scanFrom_eq_scanBehind (h : n.Reads) (before rest : List Char) {free : Nat}
    (hfree : free ≤ before.length) :
    n.scanFrom free before.length before.getLast? rest = n.scanBehind before rest := by
  rw [scanBehind]
  induction rest generalizing before with
  | nil =>
    rw [scanFrom_nil h, scanFrom_nil h, if_neg (Nat.not_lt.mpr hfree),
      if_neg (Nat.not_lt_zero _)]
  | cons c rest ih =>
    rw [scanFrom_cons h, scanFrom_cons h, if_neg (Nat.not_lt.mpr hfree),
      if_neg (Nat.not_lt_zero _)]
    cases n.matchAt? (.between before (c :: rest)) with
    | some m => rfl
    | none => exact ih (before ++ [c]) (by simp only [List.length_append]; omega)

/-- A scan that is not free yet takes nothing. -/
private theorem scanFrom_append (h : n.Reads) (before inner rest : List Char) {free : Nat}
    (hfree : (before ++ inner).length ≤ free) :
    n.scanFrom free before.length before.getLast? (inner ++ rest) =
      n.scanFrom free (before ++ inner).length (before ++ inner).getLast? rest := by
  induction inner generalizing before with
  | nil => rw [List.append_nil, List.nil_append]
  | cons c inner ih =>
    have hsplit : before ++ c :: inner = before ++ [c] ++ inner := by simp
    rw [hsplit] at hfree ⊢
    have hlength : before.length < free := by
      simp only [List.length_append, List.length_singleton] at hfree
      omega
    rw [List.cons_append, scanFrom_cons h, if_pos hlength]
    exact ih (before ++ [c]) hfree

/-- A scan goes on behind a piece in which no match starts. -/
theorem scanBehind_of_ends_eq_nil (h : n.Reads) (before inner rest : List Char)
    (hnone : ∀ u c v, inner = u ++ c :: v →
      n.ends (.between (before ++ u) (c :: v ++ rest)) = []) :
    n.scanBehind before (inner ++ rest) = n.scanBehind (before ++ inner) rest := by
  induction inner generalizing before with
  | nil => rw [List.append_nil, List.nil_append]
  | cons c inner ih =>
    have hhere := hnone [] c inner rfl
    rw [List.append_nil, List.cons_append] at hhere
    rw [List.cons_append, scanBehind, scanFrom_cons h, if_neg (Nat.not_lt_zero _),
      matchAt?_eq_none hhere, ← scanBehind, ih (before ++ [c]), List.append_assoc,
      List.singleton_append]
    intro u d v hsplit
    rw [List.append_assoc, List.singleton_append]
    exact hnone (c :: u) d v (by rw [hsplit, List.cons_append])

/-- A scan goes on behind a piece that it matches. -/
theorem scanBehind_of_matchAt? (h : n.Reads) {before read rest : List Char}
    (hm : n.matchAt? (.between before (read ++ rest)) = some m)
    (hstop : m.stop.offset = (before ++ read).length) :
    n.scanBehind before (read ++ rest) = m :: n.scanBehind (before ++ read) rest := by
  have hread := h _ _ _ (start_stop_of_matchAt? hm).2
  cases read with
  | nil =>
    rw [List.append_nil] at hstop
    omega
  | cons c read =>
    have hsplit : before ++ c :: read = before ++ [c] ++ read := by simp
    rw [hsplit] at hstop ⊢
    rw [List.cons_append] at hm ⊢
    rw [scanBehind, scanFrom_cons h, if_neg (Nat.not_lt_zero _), hm]
    exact congrArg (m :: ·) ((scanFrom_append h _ _ _ (Nat.le_of_eq hstop.symm)).trans
      (scanFrom_eq_scanBehind h _ _ (Nat.le_of_eq hstop)))

/-! ### Matches that keep apart -/

/-- Every match reads something, and no match starts strictly inside another. -/
structure Apart (n : Node) : Prop where
  reads {before rest : List Char} {t : State} :
    t ∈ n.ends (.between before rest) → before.length < t.offset
  inside (before inner rest : List Char) {t : State} :
    t ∈ n.ends (.between before (inner ++ rest)) → inner ≠ [] →
      (before ++ inner).length < t.offset → n.ends (.between (before ++ inner) rest) = []

/-- Then no place with a match is gone over. -/
private theorem Apart.not_runsOver (h : n.Apart) {before rest : List Char}
    (hm : n.matchAt? (.between before rest) = some m) :
    ¬ n.RunsOver (before ++ rest) before.length := by
  rintro ⟨m', hm', hbefore, hover⟩
  have hreads : n.Reads := fun _ _ _ ht ↦ h.reads ht
  obtain ⟨start, more, hsplit, hat⟩ := exists_matchAt_of_mem_scan hreads hm'
  obtain ⟨hstart, hstop⟩ := start_stop_of_matchAt? hat
  have hstart : m'.start = start.length := hstart
  rw [hstart] at hbefore
  rcases List.append_eq_append_iff.mp hsplit with ⟨inner, rfl, -⟩ | ⟨inner, rfl, rfl⟩
  · rw [List.length_append] at hbefore
    omega
  · have hne : inner ≠ [] := by
      rintro rfl
      exact absurd hbefore (by simp)
    rw [matchAt?_eq_none (h.inside start inner rest hstop hne hover)] at hm
    exact absurd hm (by simp)

/-- A scan finds the match at every place at which there is one. -/
theorem mem_scan_iff (h : n.Apart) {text : List Char} :
    m ∈ n.scan text ↔
      ∃ before rest, text = before ++ rest ∧ n.matchAt? (.between before rest) = some m := by
  have hreads : n.Reads := fun _ _ _ ht ↦ h.reads ht
  constructor
  · exact exists_matchAt_of_mem_scan hreads
  · rintro ⟨before, rest, rfl, hm⟩
    exact (mem_scan_iff_not_runsOver hreads hm).mpr (h.not_runsOver hm)

end Node

end ModuleScript.Pattern
