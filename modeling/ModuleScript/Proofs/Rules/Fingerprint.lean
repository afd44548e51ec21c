import Mathlib.Data.List.Basic
import ModuleScript.Analysis.Detection
import ModuleScript.Proofs.Digest.Framing

/-!
# What a fingerprint tells

The fingerprint of a rule set puts three lists one behind the other and joins the parts of a
library rule with equals signs. Rule sets whose texts leave these signs alone, and whose module
patterns can be told from their other texts, find the same as soon as their fingerprints are made
of the same bytes. Other rule sets can find different things under one fingerprint.
-/

namespace ModuleScript

/-- What detection sees of a library rule: a location that counts as false is none. -/
def LibraryRule.seen (rule : LibraryRule) : LibraryRule :=
  { rule with location := rule.location.orElse (.text "") }

namespace RuleSet

/-- The location that is shown in the fingerprint of a library rule. -/
def shownLocation (rule : LibraryRule) : String := rule.seen.location.display

/-- The number of equals signs in a text. -/
def equalsSigns (s : String) : Nat := s.toList.count '='

/-- Rule sets that can be told from their fingerprints: patterns are compiled from their texts, no
text holds NUL, names and locations of libraries hold no equals sign, and module patterns have
less than two of them and, unlike excluded names, an opening parenthesis. -/
structure Plain (compile : String → Except Pattern.Fault Pattern) (rules : RuleSet) : Prop where
  compiled : ∀ p ∈ rules.libraries.map (·.pattern) ++ rules.modulePatterns,
    compile p.source = .ok p
  noNul : ∀ part ∈ rules.fingerprintParts, '\x00' ∉ part.toList
  libraries : ∀ rule ∈ rules.libraries, '=' ∉ rule.name.toList ∧
    rule.seen.location = .text (shownLocation rule) ∧ '=' ∉ (shownLocation rule).toList
  modulePatterns : ∀ p ∈ rules.modulePatterns, equalsSigns p.source < 2 ∧ '(' ∈ p.source.toList
  excluded : ∀ name ∈ rules.excluded, equalsSigns name < 2 ∧ '(' ∉ name.toList

/-! ### What detection depends on -/

theorem mem_excludedNames {rules : RuleSet} {name : String} :
    name ∈ rules.excludedNames ↔ name ∈ rules.excluded := by
  rw [excludedNames, Text.sortedSet, Text.sort, (Sorting.sortBy_perm _ _).mem_iff,
    List.mem_eraseDups]

theorem isTruthy_seen (rule : LibraryRule) :
    rule.seen.location.isTruthy = rule.location.isTruthy := by
  rw [LibraryRule.seen, Value.orElse]
  cases h : rule.location.isTruthy with
  | true => simp [h]
  | false => simp [Value.isTruthy]

/-- The location on offer is seen. -/
theorem locationOf?_eq (rules : RuleSet) (name : String) :
    rules.locationOf? name = ((rules.libraries.map (·.seen)).find? fun rule ↦
      rule.name == name && rule.location.isTruthy).map (·.location) := by
  rw [locationOf?, List.find?_map, Option.map_map]
  have htest : (fun rule : LibraryRule ↦ rule.name == name && rule.location.isTruthy) ∘
      LibraryRule.seen = fun rule ↦ rule.name == name && rule.location.isTruthy := by
    funext rule
    change (rule.name == name && rule.seen.location.isTruthy) = _
    rw [isTruthy_seen]
  rw [htest]
  cases hfound : rules.libraries.find? fun rule ↦ rule.name == name && rule.location.isTruthy with
  | none => rfl
  | some rule =>
    have hrule := List.find?_some hfound
    rw [Bool.and_eq_true] at hrule
    simp [LibraryRule.seen, Value.orElse, hrule.2]

end RuleSet

namespace Analysis

theorem detectLibraries_eq (rules : RuleSet) (block : String) :
    detectLibraries rules block = (((rules.libraries.map (·.seen)).filter
      (·.pattern.occursIn block)).map (·.name)).foldl addNew [] := by
  rw [detectLibraries, List.filter_map, List.map_map]
  rfl

/-- Rule sets find the same whose library rules are seen alike, whose module patterns are the same
and which exclude the same names. -/
theorem findings_congr {rules rules' : RuleSet}
    (hlibraries : rules.libraries.map (·.seen) = rules'.libraries.map (·.seen))
    (hmodules : rules.modulePatterns = rules'.modulePatterns)
    (hexcluded : ∀ name, name ∈ rules.excluded ↔ name ∈ rules'.excluded) (block : String) :
    findings rules block = findings rules' block := by
  have hlocation : rules.locationOf? = rules'.locationOf? := by
    funext name
    rw [RuleSet.locationOf?_eq, RuleSet.locationOf?_eq, hlibraries]
  have hadvice : adviceOnLibrary rules = adviceOnLibrary rules' := by
    funext name
    rw [adviceOnLibrary, adviceOnLibrary, hlocation]
  have hname : isModuleName rules = isModuleName rules' := by
    funext name
    have hcontains : rules.excluded.contains name = rules'.excluded.contains name := by
      rw [Bool.eq_iff_iff, List.contains_iff_mem, List.contains_iff_mem]
      exact hexcluded name
    rw [isModuleName, isModuleName, hcontains]
  have hdetected : detectModules rules block = detectModules rules' block := by
    rw [detectModules, detectModules, hmodules, hname]
  rw [findings, findings, detectLibraries_eq, detectLibraries_eq, hlibraries, hdetected]
  simp only [suggestions, hadvice]

end Analysis

namespace RuleSet

/-! ### The parts of a fingerprint -/

private theorem toList_fingerprintPart (rule : LibraryRule) :
    (fingerprintPart rule).toList = rule.name.toList ++
      '=' :: (rule.pattern.source.toList ++ '=' :: (shownLocation rule).toList) := by
  simp [fingerprintPart, shownLocation, LibraryRule.seen, toString]

private theorem ne_equalsSign {cs : List Char} (h : '=' ∉ cs) : ∀ c ∈ cs, (c != '=') = true := by
  intro c hc
  rw [bne_iff_ne]
  rintro rfl
  exact h hc

/-- Where names and locations hold no equals sign, a part tells the name, the text of the pattern
and the location. -/
theorem fingerprintPart_inj {rule rule' : LibraryRule} (hname : '=' ∉ rule.name.toList)
    (hname' : '=' ∉ rule'.name.toList) (hlocation : '=' ∉ (shownLocation rule).toList)
    (hlocation' : '=' ∉ (shownLocation rule').toList)
    (h : fingerprintPart rule = fingerprintPart rule') :
    rule.name = rule'.name ∧ rule.pattern.source = rule'.pattern.source ∧
      shownLocation rule = shownLocation rule' := by
  have htexts := congrArg String.toList h
  rw [toList_fingerprintPart, toList_fingerprintPart] at htexts
  obtain ⟨hn, hrest⟩ := Text.append_inj_of_stop (ne_equalsSign hname) (ne_equalsSign hname')
    (by simp) (by simp) htexts
  -- the last equals sign is the one before the location
  have hreverse := congrArg List.reverse (List.cons.inj hrest).2
  simp only [List.reverse_append, List.reverse_cons, List.append_assoc,
    List.singleton_append] at hreverse
  obtain ⟨hl, hs⟩ := Text.append_inj_of_stop
    (fun c hc ↦ ne_equalsSign hlocation c (List.mem_reverse.mp hc))
    (fun c hc ↦ ne_equalsSign hlocation' c (List.mem_reverse.mp hc)) (by simp) (by simp) hreverse
  refine ⟨String.toList_inj.mp hn, String.toList_inj.mp ?_, String.toList_inj.mp ?_⟩
  · exact List.reverse_injective (List.cons.inj hs).2
  · exact List.reverse_injective hl

private theorem two_le_equalsSigns (rule : LibraryRule) :
    2 ≤ equalsSigns (fingerprintPart rule) := by
  rw [equalsSigns, toList_fingerprintPart]
  simp only [List.count_append, List.count_cons_self]
  omega

variable {compile : String → Except Pattern.Fault Pattern}

/-- The three lists of a fingerprint can be told apart. -/
private theorem lists_eq_of_parts_eq {rules rules' : RuleSet} (hplain : rules.Plain compile)
    (hplain' : rules'.Plain compile) (h : rules.fingerprintParts = rules'.fingerprintParts) :
    rules.libraries.map fingerprintPart = rules'.libraries.map fingerprintPart ∧
      rules.modulePatterns.map (·.source) = rules'.modulePatterns.map (·.source) ∧
      rules.excludedNames = rules'.excludedNames := by
  have hlibraries (rules : RuleSet) : ∀ part ∈ rules.libraries.map fingerprintPart,
      decide (2 ≤ equalsSigns part) = true := by
    intro part hpart
    obtain ⟨rule, -, rfl⟩ := List.mem_map.mp hpart
    exact decide_eq_true (two_le_equalsSigns rule)
  have hfew {rules : RuleSet} (h : rules.Plain compile) :
      (rules.modulePatterns.map (·.source) ++ rules.excludedNames).head?.all
        (fun part ↦ !decide (2 ≤ equalsSigns part)) = true := by
    rw [Option.all_eq_true]
    intro part hpart
    have hlt : equalsSigns part < 2 := by
      rcases List.mem_append.mp (List.mem_of_head? hpart) with hpart | hpart
      · obtain ⟨p, hp, rfl⟩ := List.mem_map.mp hpart
        exact (h.modulePatterns p hp).1
      · exact (h.excluded part (mem_excludedNames.mp hpart)).1
    simp [hlt]
  have hmodules {rules : RuleSet} (h : rules.Plain compile) :
      ∀ part ∈ rules.modulePatterns.map (·.source), decide ('(' ∈ part.toList) = true := by
    intro part hpart
    obtain ⟨p, hp, rfl⟩ := List.mem_map.mp hpart
    exact decide_eq_true (h.modulePatterns p hp).2
  have hexcluded {rules : RuleSet} (h : rules.Plain compile) :
      rules.excludedNames.head?.all (fun part ↦ !decide ('(' ∈ part.toList)) = true := by
    rw [Option.all_eq_true]
    intro part hpart
    have hno := (h.excluded part (mem_excludedNames.mp (List.mem_of_head? hpart))).2
    simp [hno]
  rw [fingerprintParts, fingerprintParts, List.append_assoc, List.append_assoc] at h
  obtain ⟨hfirst, hrest⟩ := Text.append_inj_of_stop (hlibraries rules) (hlibraries rules')
    (hfew hplain) (hfew hplain') h
  exact ⟨hfirst, Text.append_inj_of_stop (hmodules hplain) (hmodules hplain')
    (hexcluded hplain) (hexcluded hplain') hrest⟩

private theorem pattern_eq {p q : Pattern} (hp : compile p.source = .ok p)
    (hq : compile q.source = .ok q) (h : p.source = q.source) : p = q := by
  rw [h, hq] at hp
  exact (Except.ok.inj hp).symm

/-- Items are the same whose images are, if the map is injective on them. -/
private theorem map_eq_of_map_eq {α β γ : Type} {f : α → β} {g : α → γ} {xs ys : List α}
    (hinj : ∀ x ∈ xs, ∀ y ∈ ys, f x = f y → g x = g y) (h : xs.map f = ys.map f) :
    xs.map g = ys.map g := by
  induction xs generalizing ys with
  | nil => cases ys with
    | nil => rfl
    | cons y ys => simp at h
  | cons x xs ih => cases ys with
    | nil => simp at h
    | cons y ys =>
      rw [List.map_cons, List.map_cons, List.cons.injEq] at h
      rw [List.map_cons, List.map_cons, hinj x List.mem_cons_self y List.mem_cons_self h.1,
        ih (fun x hx y hy ↦ hinj x (List.mem_cons_of_mem _ hx) y (List.mem_cons_of_mem _ hy)) h.2]

/-- Plain rule sets with the same framing find the same in every block. -/
theorem Plain.findings_eq {rules rules' : RuleSet} (hplain : rules.Plain compile)
    (hplain' : rules'.Plain compile)
    (h : Digest.framing rules.fingerprintParts = Digest.framing rules'.fingerprintParts)
    (block : String) : Analysis.findings rules block = Analysis.findings rules' block := by
  have hparts := Digest.framing_inj hplain.noNul hplain'.noNul h
  obtain ⟨hlibraries, hmodules, hexcluded⟩ := lists_eq_of_parts_eq hplain hplain' hparts
  refine Analysis.findings_congr ?_ ?_ ?_ block
  · refine map_eq_of_map_eq (fun rule hrule rule' hrule' heq ↦ ?_) hlibraries
    obtain ⟨hname, htext, hequals⟩ := hplain.libraries rule hrule
    obtain ⟨hname', htext', hequals'⟩ := hplain'.libraries rule' hrule'
    obtain ⟨hn, hs, hl⟩ := fingerprintPart_inj hname hname' hequals hequals' heq
    have hpattern : rule.pattern = rule'.pattern := pattern_eq
      (hplain.compiled _ (List.mem_append_left _ (List.mem_map_of_mem hrule)))
      (hplain'.compiled _ (List.mem_append_left _ (List.mem_map_of_mem hrule'))) hs
    have hlocation : rule.seen.location = rule'.seen.location := by rw [htext, htext', hl]
    change LibraryRule.mk rule.name rule.pattern rule.seen.location =
      LibraryRule.mk rule'.name rule'.pattern rule'.seen.location
    rw [hn, hpattern, hlocation]
  · have hsame := map_eq_of_map_eq (g := id) (fun p hp q hq heq ↦ pattern_eq
      (hplain.compiled p (List.mem_append_right _ hp))
      (hplain'.compiled q (List.mem_append_right _ hq)) heq) hmodules
    rwa [List.map_id, List.map_id] at hsame
  · intro name
    rw [← mem_excludedNames, hexcluded, mem_excludedNames]

end RuleSet

end ModuleScript
