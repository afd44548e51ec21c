import ModuleScript.Pattern.Basic
import ModuleScript.Proofs.Data.FirstOccurrence
import ModuleScript.Proofs.Pattern.Scanning

/-!
# What several scans capture

A text is scanned for several patterns, one after the other, and what the matches keep is collected.
Without repetitions the names come in the order of their first captures: by the pattern, and then
by the match. A match may keep what lies ahead of it, so this need not be the order of the places;
it is where everything that is kept lies within its match.
-/

namespace ModuleScript.Pattern

variable {patterns : List Pattern} {text : String}

/-- The match with a rank, in the scan for the pattern with a number. -/
def FoundAt (patterns : List Pattern) (text : String) (number rank : Nat) (found : Match) : Prop :=
  ∃ p, patterns[number]? = some p ∧ (p.scan text)[rank]? = some found

/-- This match keeps the name. -/
def CapturedAt (patterns : List Pattern) (text : String) (number rank : Nat) (name : String) :
    Prop :=
  ∃ found, FoundAt patterns text number rank found ∧ found.group? 1 = some name

/-- A capture of the one name comes before every capture of the other one: it is one by an earlier
pattern, or by an earlier match. -/
def CapturedBefore (patterns : List Pattern) (text : String) (x y : String) : Prop :=
  ∃ number rank, CapturedAt patterns text number rank x ∧
    ∀ other rank', CapturedAt patterns text other rank' y →
      number < other ∨ number = other ∧ rank < rank'

/-- All that scans for the patterns keep, one pattern after the other. -/
def captured (patterns : List Pattern) (text : String) : List String :=
  patterns.flatMap fun p ↦ (p.scan text).filterMap (·.group? 1)

/-- A name that a match keeps, with the number of the pattern and the rank of the match. -/
structure Capture where
  number : Nat
  rank : Nat
  name : String

/-- A capture by an earlier pattern, or by an earlier match for the same one. -/
def Capture.Before (c d : Capture) : Prop :=
  c.number < d.number ∨ c.number = d.number ∧ c.rank < d.rank

/-- The captures of the scan for a pattern with its number. -/
def capturesOf (text : String) (numbered : Pattern × Nat) : List Capture :=
  (numbered.1.scan text).zipIdx.filterMap fun ranked ↦
    (ranked.1.group? 1).map (⟨numbered.2, ranked.2, ·⟩)

/-- The captures of the scans for all patterns. -/
def captures (patterns : List Pattern) (text : String) : List Capture :=
  patterns.zipIdx.flatMap (capturesOf text)

theorem mem_captures_iff {c : Capture} :
    c ∈ captures patterns text ↔ CapturedAt patterns text c.number c.rank c.name := by
  simp only [captures, List.mem_flatMap, capturesOf, List.mem_filterMap, Option.map_eq_some_iff,
    CapturedAt, FoundAt]
  constructor
  · rintro ⟨⟨p, number⟩, hp, ⟨found, rank⟩, hfound, name, hname, rfl⟩
    exact ⟨found, ⟨p, List.mem_zipIdx_iff_getElem?.mp hp, List.mem_zipIdx_iff_getElem?.mp hfound⟩,
      hname⟩
  · rintro ⟨found, ⟨p, hp, hfound⟩, hname⟩
    exact ⟨(p, c.number), List.mem_zipIdx_iff_getElem?.mpr hp, (found, c.rank),
      List.mem_zipIdx_iff_getElem?.mpr hfound, c.name, hname, rfl⟩

theorem map_name_captures (patterns : List Pattern) (text : String) :
    (captures patterns text).map (·.name) = captured patterns text := by
  have hnames (numbered : Pattern × Nat) : (capturesOf text numbered).map (·.name) =
      (numbered.1.scan text).filterMap (·.group? 1) := by
    rw [capturesOf, List.map_filterMap]
    conv_rhs => rw [← List.zipIdx_map_fst 0 (numbered.1.scan text), List.filterMap_map]
    congr 1
    funext ranked
    cases h : ranked.1.group? 1 <;> simp [h]
  rw [captures, List.map_flatMap, captured]
  simp only [hnames]
  conv_rhs => rw [← List.zipIdx_map_fst 0 patterns, List.flatMap_map]

theorem mem_captured_iff {name : String} :
    name ∈ captured patterns text ↔ ∃ number rank, CapturedAt patterns text number rank name := by
  rw [← map_name_captures, List.mem_map]
  constructor
  · rintro ⟨c, hc, rfl⟩
    exact ⟨c.number, c.rank, mem_captures_iff.mp hc⟩
  · rintro ⟨number, rank, hname⟩
    exact ⟨⟨number, rank, name⟩, mem_captures_iff.mpr hname, rfl⟩

/-! ### The order of captures -/

/-- The numbers of a table go up. -/
theorem pairwise_zipIdx {α : Type} (items : List α) : items.zipIdx.Pairwise (·.2 < ·.2) := by
  rw [← List.pairwise_map, List.zipIdx_map_snd]
  exact List.pairwise_lt_range'

/-- The captures of one scan come in the order of its matches. -/
theorem pairwise_capturesOf (text : String) (numbered : Pattern × Nat) :
    (capturesOf text numbered).Pairwise Capture.Before := by
  rw [capturesOf, List.pairwise_filterMap]
  refine (pairwise_zipIdx (numbered.1.scan text)).imp ?_
  rintro ⟨m, rank⟩ ⟨m', rank'⟩ hlt c hc d hd
  obtain ⟨x, -, rfl⟩ := Option.map_eq_some_iff.mp hc
  obtain ⟨y, -, rfl⟩ := Option.map_eq_some_iff.mp hd
  exact .inr ⟨rfl, hlt⟩

theorem pairwise_captures (patterns : List Pattern) (text : String) :
    (captures patterns text).Pairwise Capture.Before := by
  have hnumber {numbered : Pattern × Nat} {c : Capture} (hc : c ∈ capturesOf text numbered) :
      c.number = numbered.2 := by
    obtain ⟨m, -, hm⟩ := List.mem_filterMap.mp hc
    obtain ⟨x, -, rfl⟩ := Option.map_eq_some_iff.mp hm
    rfl
  refine List.pairwise_flatMap.mpr ⟨fun numbered _ ↦ pairwise_capturesOf text numbered, ?_⟩
  refine (pairwise_zipIdx patterns).imp ?_
  intro p q hlt c hc d hd
  apply Or.inl
  rw [hnumber hc, hnumber hd]
  exact hlt

/-- Accepted names come in the order of their first captures. -/
theorem pairwise_eraseDups_captured (patterns : List Pattern) (text : String)
    (accepts : String → Bool) :
    ((captured patterns text).filter accepts).eraseDups.Pairwise
      (CapturedBefore patterns text) := by
  have hpairs : ((captures patterns text).filter (accepts ·.name)).Pairwise Capture.Before :=
    (pairwise_captures patterns text).filter _
  have hfilter : (captured patterns text).filter accepts =
      ((captures patterns text).filter (accepts ·.name)).map (·.name) := by
    rw [← map_name_captures, List.filter_map]
    rfl
  rw [hfilter]
  refine (FirstOccurrence.pairwise_eraseDups_map _ hpairs).imp_of_mem ?_
  rintro x y - hy ⟨c, hc, rfl, hbefore⟩
  obtain ⟨d, hd, rfl⟩ := List.mem_map.mp (List.mem_eraseDups.mp hy)
  refine ⟨c.number, c.rank, mem_captures_iff.mp (List.mem_filter.mp hc).1, ?_⟩
  intro other rank' hother
  exact hbefore ⟨other, rank', d.name⟩
    (List.mem_filter.mpr ⟨mem_captures_iff.mpr hother, (List.mem_filter.mp hd).2⟩) rfl

/-! ### The places of captures -/

/-- A piece of a text starts at a place of it. -/
def Span.StartsAt (span : Span) (text : String) (place : Nat) : Prop :=
  ∃ before, text.toList = before ++ span.rest ∧ before.length = place

/-- A match for the pattern with a number keeps the name, as a piece of the text from a place on. -/
def CapturedFrom (patterns : List Pattern) (text : String) (number place : Nat) (name : String) :
    Prop :=
  ∃ rank found, FoundAt patterns text number rank found ∧ ∃ span,
    found.stop.captures.lookup 1 = some span ∧ span.text = name ∧ span.StartsAt text place

/-- A capture of the one name comes before every capture of the other one: it is one by an earlier
pattern, or at an earlier place. -/
def StartsBefore (patterns : List Pattern) (text : String) (x y : String) : Prop :=
  ∃ number place, CapturedFrom patterns text number place x ∧
    ∀ other place', CapturedFrom patterns text other place' y →
      number < other ∨ number = other ∧ place < place'

/-- The matches of a scan follow one another, and what they capture lies within them. -/
structure KeepsWithin (p : Pattern) (text : String) : Prop where
  follow : (p.scan text).Pairwise (·.stop.offset ≤ ·.start)
  within : ∀ found ∈ p.scan text, ∀ span, found.stop.captures.lookup 1 = some span →
    ∃ place, span.StartsAt text place ∧ found.start ≤ place ∧
      place + span.length ≤ found.stop.offset

theorem Span.StartsAt.unique {span : Span} {place place' : Nat} (h : span.StartsAt text place)
    (h' : span.StartsAt text place') : place = place' := by
  obtain ⟨before, hsplit, rfl⟩ := h
  obtain ⟨before', hsplit', rfl⟩ := h'
  rw [List.append_cancel_right (hsplit.symm.trans hsplit')]

/-- A piece with a character in it has a length. -/
theorem Span.length_pos {span : Span} (h : span.text.toList ≠ []) : 0 < span.length := by
  refine Nat.pos_of_ne_zero fun hzero ↦ h ?_
  rw [Span.text, hzero, List.take_zero]
  rfl

/-- Of two matches, the later one starts behind what the earlier one keeps. -/
theorem KeepsWithin.le_start {p : Pattern} (h : p.KeepsWithin text) {rank rank' : Nat}
    {found found' : Match} (hfound : (p.scan text)[rank]? = some found)
    (hfound' : (p.scan text)[rank']? = some found') (hlt : rank < rank') {span : Span}
    (hspan : found.stop.captures.lookup 1 = some span) :
    ∃ place, span.StartsAt text place ∧ found.start ≤ place ∧
      place + span.length ≤ found'.start := by
  obtain ⟨place, hstart, hfirst, hlast⟩ := h.within found (List.mem_of_getElem? hfound) span hspan
  obtain ⟨hlength, rfl⟩ := List.getElem?_eq_some_iff.mp hfound
  obtain ⟨hlength', rfl⟩ := List.getElem?_eq_some_iff.mp hfound'
  have hfollow := List.pairwise_iff_getElem.mp h.follow rank rank' hlength hlength' hlt
  exact ⟨place, hstart, hfirst, Nat.le_trans hlast hfollow⟩

/-- Names that are captured in the order of the matches are so in the order of the places, where
what is captured lies within its match. -/
theorem CapturedBefore.startsBefore (hwithin : ∀ p ∈ patterns, p.KeepsWithin text) {x y : String}
    (hx : x.toList ≠ []) (h : CapturedBefore patterns text x y) :
    StartsBefore patterns text x y := by
  obtain ⟨number, rank, ⟨found, ⟨p, hp, hfound⟩, hname⟩, hbefore⟩ := h
  obtain ⟨span, hspan, rfl⟩ := Option.map_eq_some_iff.mp hname
  have hkeeps := hwithin p (List.mem_of_getElem? hp)
  obtain ⟨place, hstart, -, -⟩ := hkeeps.within found (List.mem_of_getElem? hfound) span hspan
  refine ⟨number, place, ⟨rank, found, ⟨p, hp, hfound⟩, span, hspan, rfl, hstart⟩, ?_⟩
  rintro other place' ⟨rank', found', ⟨q, hq, hfound'⟩, span', hspan', rfl, hstart'⟩
  have hname' : found'.group? 1 = some span'.text := Option.map_eq_some_iff.mpr ⟨_, hspan', rfl⟩
  refine (hbefore other rank' ⟨found', ⟨q, hq, hfound'⟩, hname'⟩).imp id ?_
  rintro ⟨rfl, hlt⟩
  obtain rfl : p = q := Option.some.inj (hp.symm.trans hq)
  -- the later match starts behind the earlier capture, and keeps nothing in front of itself
  obtain ⟨first, hfirst, -, hle⟩ := hkeeps.le_start hfound hfound' hlt hspan
  obtain ⟨later, hlater, hle', -⟩ :=
    hkeeps.within found' (List.mem_of_getElem? hfound') span' hspan'
  obtain rfl := hstart.unique hfirst
  obtain rfl := hstart'.unique hlater
  have hpos := span.length_pos hx
  exact ⟨rfl, by omega⟩

/-- So matches that keep something start one behind the other. -/
theorem KeepsWithin.start_lt {p : Pattern} (h : p.KeepsWithin text) {rank rank' : Nat}
    {found found' : Match} (hfound : (p.scan text)[rank]? = some found)
    (hfound' : (p.scan text)[rank']? = some found') (hlt : rank < rank') {x : String}
    (hname : found.group? 1 = some x) (hx : x.toList ≠ []) : found.start < found'.start := by
  obtain ⟨span, hspan, rfl⟩ := Option.map_eq_some_iff.mp hname
  obtain ⟨place, -, hfirst, hlast⟩ := h.le_start hfound hfound' hlt hspan
  have hpos := span.length_pos hx
  omega

/-- A pattern that is read as a tree captures within its matches, unless it looks ahead. -/
theorem Parsed.keepsWithin {p : Parsed} (h : p.node.looksAhead = false) (text : String) :
    p.pattern.KeepsWithin text where
  follow := Node.pairwise_scan p.node text.toList
  within := by
    intro found hfound span hspan
    obtain ⟨before, rest, hsplit, hstart, hstop⟩ := Node.exists_split_of_mem_scan hfound
    obtain ⟨earlier, later, hcaptures, -⟩ := List.lookup_eq_some_iff.mp hspan
    have hmem : (1, span) ∈ found.stop.captures := by simp [hcaptures]
    rcases Node.between_of_mem_ends h hstop hmem with hkept | ⟨w, hw, hlength⟩
    · exact absurd hkept List.not_mem_nil
    · rw [State.rest_between] at hw
      change before.length + w.length + span.length ≤ found.stop.offset at hlength
      refine ⟨(before ++ w).length, ⟨before ++ w, ?_, rfl⟩, ?_, ?_⟩
      · rw [hsplit, hw, List.append_assoc]
      · rw [hstart, List.length_append]
        omega
      · rw [List.length_append]
        omega

end ModuleScript.Pattern
