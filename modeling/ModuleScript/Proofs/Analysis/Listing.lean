import ModuleScript.Proofs.Analysis.Answers
import ModuleScript.Proofs.Pattern.Captures
import ModuleScript.Proofs.Pattern.Occurrence
import ModuleScript.Proofs.Stimulus.Discovery

/-!
# What an analysis lists

An analysis lists every library with a rule that matches, and every module with an accepted capture,
each once and in the order of the tables: libraries by their first rule that matches, modules by
the first pattern that captures them and then by the first match that does. By the places of the
captures modules are ordered where captures lie within their matches, but not where a pattern looks
ahead. The advice follows the two lists name by name.
-/

namespace ModuleScript.Analysis

open Pattern Stimulus

variable {rules : RuleSet} {block name : String}

/-! ### Libraries -/

/-- The rule with a number is one for the library and matches somewhere in the block. -/
def MatchedBy (rules : RuleSet) (block : String) (number : Nat) (name : String) : Prop :=
  ∃ rule, rules.libraries[number]? = some rule ∧ rule.name = name ∧
    ∃ found, found ∈ rule.pattern.scan block

/-- The names are those of the libraries with a rule that matches, each once, in the order of the
first rules that do. -/
structure ListsLibraries (rules : RuleSet) (block : String) (names : List String) : Prop where
  nodup : names.Nodup
  mem_iff (name : String) : name ∈ names ↔ ∃ number, MatchedBy rules block number name
  ordered : names.Pairwise fun x y ↦ ∃ number, MatchedBy rules block number x ∧
    ∀ other, MatchedBy rules block other y → number < other

/-- The rules that match, with their numbers. -/
def matchedRules (rules : RuleSet) (block : String) : List (LibraryRule × Nat) :=
  rules.libraries.zipIdx.filter (·.1.pattern.occursIn block)

theorem exists_mem_matchedRules_iff {number : Nat} :
    (∃ rule, (rule, number) ∈ matchedRules rules block ∧ rule.name = name) ↔
      MatchedBy rules block number name := by
  simp only [matchedRules, List.mem_filter, List.mem_zipIdx_iff_getElem?, Pattern.occursIn,
    Bool.not_eq_true', List.isEmpty_eq_false_iff_exists_mem, MatchedBy]
  constructor
  · rintro ⟨rule, ⟨hrule, hmatch⟩, hname⟩
    exact ⟨rule, hrule, hname, hmatch⟩
  · rintro ⟨rule, hrule, hname, hmatch⟩
    exact ⟨rule, ⟨hrule, hmatch⟩, hname⟩

theorem detectLibraries_eq_eraseDups (rules : RuleSet) (block : String) :
    detectLibraries rules block = ((matchedRules rules block).map (·.1.name)).eraseDups := by
  have hrules : (matchedRules rules block).map (·.1) =
      rules.libraries.filter (·.pattern.occursIn block) := by
    rw [matchedRules]
    conv_rhs => rw [← List.zipIdx_map_fst 0 rules.libraries, List.filter_map]
    rfl
  rw [detectLibraries, foldl_addNew, ← hrules, List.map_map]
  rfl

/-- The libraries that are detected are listed in the order of their first rules that match. -/
theorem listsLibraries_detectLibraries (rules : RuleSet) (block : String) :
    ListsLibraries rules block (detectLibraries rules block) where
  nodup := nodup_foldl_addNew List.nodup_nil
  mem_iff name := by
    rw [detectLibraries_eq_eraseDups, List.mem_eraseDups, List.mem_map]
    constructor
    · rintro ⟨⟨rule, number⟩, hrule, hname⟩
      exact ⟨number, exists_mem_matchedRules_iff.mp ⟨rule, hrule, hname⟩⟩
    · rintro ⟨number, hnumber⟩
      obtain ⟨rule, hrule, hname⟩ := exists_mem_matchedRules_iff.mpr hnumber
      exact ⟨(rule, number), hrule, hname⟩
  ordered := by
    have hmatched : (matchedRules rules block).Pairwise (·.2 < ·.2) :=
      (pairwise_zipIdx rules.libraries).filter _
    rw [detectLibraries_eq_eraseDups]
    refine (FirstOccurrence.pairwise_eraseDups_map _ hmatched).imp ?_
    rintro x y ⟨⟨rule, number⟩, hrule, hname, hlater⟩
    refine ⟨number, exists_mem_matchedRules_iff.mp ⟨rule, hrule, hname⟩, fun other hother ↦ ?_⟩
    obtain ⟨rule', hrule', hname'⟩ := exists_mem_matchedRules_iff.mpr hother
    exact hlater (rule', other) hrule' hname'

/-! ### Modules -/

/-- The names are those that module patterns capture and that can be names of modules, each once,
in the order of the first patterns that capture them and then of the first matches that do. That is
the order of the places of the captures, where captures lie within their matches. -/
structure ListsModules (rules : RuleSet) (block : String) (names : List String) : Prop where
  nodup : names.Nodup
  mem_iff (name : String) : name ∈ names ↔ isModuleName rules name = true ∧
    ∃ number rank, CapturedAt rules.modulePatterns block number rank name
  ordered : names.Pairwise (CapturedBefore rules.modulePatterns block)
  ordered_by_place : (∀ p ∈ rules.modulePatterns, p.KeepsWithin block) →
    names.Pairwise (StartsBefore rules.modulePatterns block)

/-- A name of a module is not empty. -/
theorem ne_nil_of_isModuleName (h : isModuleName rules name = true) : name.toList ≠ [] := by
  intro hnil
  have hempty : Script.isClassName "" = false := by decide +kernel
  rw [isModuleName, String.toList_eq_nil_iff.mp hnil, hempty] at h
  exact Bool.false_ne_true h

/-- The modules that are detected are listed in the order of their first captures. -/
theorem exists_listsModules (h : rules.Grouped) (block : String) :
    ∃ names, detectModules rules block = .ok names ∧ ListsModules rules block names := by
  have hnames : detectModules rules block = .ok ((captured rules.modulePatterns block).filter
      (isModuleName rules)).eraseDups := by
    rw [detectModules_eq h, foldl_addNew, captured]
  have hordered := pairwise_eraseDups_captured rules.modulePatterns block (isModuleName rules)
  refine ⟨_, hnames, FirstOccurrence.nodup_eraseDups _, fun name ↦ ?_, hordered, fun hwithin ↦ ?_⟩
  · rw [List.mem_eraseDups, List.mem_filter, mem_captured_iff, and_comm]
  · refine hordered.imp_of_mem fun hx _ hbefore ↦ hbefore.startsBefore hwithin ?_
    exact ne_nil_of_isModuleName (List.mem_filter.mp (List.mem_eraseDups.mp hx)).2

/-! ### Advice -/

/-- The rules offer a location for the library, and this one first. -/
def OffersFirst (rules : RuleSet) (name : String) (location : Value) : Prop :=
  ∃ before rule after, rules.libraries = before ++ rule :: after ∧
    rule.name = name ∧ rule.location = location ∧ location.isTruthy = true ∧
      ∀ earlier ∈ before, earlier.name = name → earlier.location.isTruthy = false

/-- Advice on a library gives the location that the rules offer first, if they offer any. -/
theorem adviceOnLibrary_cases (rules : RuleSet) (name : String) :
    (∃ location, OffersFirst rules name location ∧ adviceOnLibrary rules name =
      s!"Add to import map: import_map.add_import(\"{name}\", \"{location.display}\")") ∨
    ((∀ rule ∈ rules.libraries, rule.name = name → rule.location.isTruthy = false) ∧
      adviceOnLibrary rules name = s!"Consider adding '{name}' to your import map") := by
  have hoffers (rule : LibraryRule) : (rule.name == name && rule.location.isTruthy) = false ↔
      (rule.name = name → rule.location.isTruthy = false) := by
    rw [Bool.and_eq_false_imp, beq_iff_eq]
  rw [adviceOnLibrary, RuleSet.locationOf?]
  cases hrule : rules.libraries.find? fun rule ↦ rule.name == name && rule.location.isTruthy with
  | none =>
    refine .inr ⟨fun rule hmem ↦ (hoffers rule).mp ?_, rfl⟩
    exact Bool.eq_false_iff.mpr (List.find?_eq_none.mp hrule rule hmem)
  | some rule =>
    obtain ⟨hoffer, before, after, hsplit, hearlier⟩ := List.find?_eq_some_iff_append.mp hrule
    rw [Bool.and_eq_true, beq_iff_eq] at hoffer
    refine .inl ⟨rule.location, ⟨before, rule, after, hsplit, hoffer.1, rfl, hoffer.2, ?_⟩, rfl⟩
    intro earlier hmem
    exact (hoffers earlier).mp ((Bool.not_eq_true' _).mp (hearlier earlier hmem))

end ModuleScript.Analysis

namespace ModuleScript.Analyzer

open Analysis Pattern

/-- The answer about a block lists each library with a rule that matches somewhere, in the order of
the first such rules, and each accepted name that a module pattern captures, in the order of the
first such patterns and then of the first matches, which is that of the places where captures lie
within their matches. It gives one line of advice on each library and then one on each module, in
the order of the lists; a library is advised with the location that its rules offer first, whether
these match or not, and with none exactly if they offer none. -/
theorem answer_lists_matches_in_order (a : Analyzer) (h : a.rules.Grouped) (block : String) :
    ∃ found, a.Answers block found ∧ ListsLibraries a.rules block found.external ∧
      ListsModules a.rules block found.localModules ∧
      found.suggestions =
        found.external.map (adviceOnLibrary a.rules) ++ found.localModules.map adviceOnModule ∧
      ∀ name,
        (∃ location, OffersFirst a.rules name location ∧ adviceOnLibrary a.rules name =
          s!"Add to import map: import_map.add_import(\"{name}\", \"{location.display}\")") ∨
        ((∀ rule ∈ a.rules.libraries, rule.name = name → rule.location.isTruthy = false) ∧
          adviceOnLibrary a.rules name = s!"Consider adding '{name}' to your import map") := by
  obtain ⟨names, hnames, hlists⟩ := exists_listsModules h block
  have hfound : a.Finds block _ := findings_eq hnames
  exact ⟨_, hfound.answers, listsLibraries_detectLibraries a.rules block, hlists, rfl,
    adviceOnLibrary_cases a.rules⟩

/-- Rules in which a library stands before and behind another one, with a location behind it. -/
def chartRules : RuleSet where
  libraries :=
    [⟨"chart", (RuleSet.written "Chart" (Pattern.Node.letters "Chart") 0).pattern, .null⟩,
     ⟨"grid", (RuleSet.written "Grid" (Pattern.Node.letters "Grid") 0).pattern, .null⟩,
     ⟨"chart", (RuleSet.written "Plot" (Pattern.Node.letters "Plot") 0).pattern,
      .text "chart.js"⟩]
  modulePatterns := [RuleSet.constructorCall.pattern, RuleSet.staticCall.pattern]

/-- What these rules find in a call of a grid with a chart. -/
def chartFindings : Findings where
  external := ["chart", "grid"]
  localModules := ["Chart", "Grid"]
  suggestions :=
    ["Add to import map: import_map.add_import(\"chart\", \"chart.js\")",
     "Consider adding 'grid' to your import map",
     "Consider adding local module: import_map.add_import(\"Chart\", \"path/to/chart.js\")",
     "Consider adding local module: import_map.add_import(\"Grid\", \"path/to/grid.js\")"]

/-- The chart is listed first, though the grid is named before it, since its rule and its pattern
come first. Its location is that of a rule that does not match. -/
theorem chart_is_listed_before_grid :
    chartRules.Grouped ∧ Answers ⟨chartRules, "charts"⟩ "Grid.add(new Chart())" chartFindings ∧
      ListsLibraries chartRules "Grid.add(new Chart())" chartFindings.external ∧
      ListsModules chartRules "Grid.add(new Chart())" chartFindings.localModules ∧
      StartsBefore chartRules.modulePatterns "Grid.add(new Chart())" "Chart" "Grid" := by
  have hgrouped : chartRules.Grouped := by decide
  obtain ⟨found, hanswer, hlibraries, hmodules, -, -⟩ :=
    answer_lists_matches_in_order ⟨chartRules, "charts"⟩ hgrouped "Grid.add(new Chart())"
  -- the answer is what the rules find where nothing is kept
  have hfinds : Finds ⟨chartRules, "charts"⟩ "Grid.add(new Chart())" chartFindings :=
    (by decide +kernel : findings chartRules "Grid.add(new Chart())" = .ok chartFindings)
  have hcold : kept? ⟨chartRules, "charts"⟩ "Grid.add(new Chart())" {} = none :=
    kept?_of_cold Store.cold_empty
  have hempty := hanswer {} fun kept hkept ↦ absurd (hcold.symm.trans hkept) (by simp)
  obtain rfl : found = chartFindings :=
    Except.ok.inj (hempty.symm.trans (analyze_of_none hfinds hcold))
  have hwithin : ∀ p ∈ chartRules.modulePatterns, p.KeepsWithin "Grid.add(new Chart())" := by
    intro p hp
    rcases List.mem_pair.mp hp with rfl | rfl
    · exact Parsed.keepsWithin (by decide) _
    · exact Parsed.keepsWithin (by decide) _
  exact ⟨hgrouped, hanswer, hlibraries, hmodules,
    List.pairwise_pair.mp (hmodules.ordered_by_place hwithin)⟩

/-! ### A pattern that looks ahead -/

/-- A word character from which on, perhaps behind a word that starts with a `y`, there is the name
of a class. -/
def classAhead : Parsed :=
  RuleSet.written "\\w(?=(?:y.*\\s)?([A-Z]\\w*))"
    [.oneOf [.oneOf .word], .ahead true (.concat
      [.opt (.concat [.char (.single 'y'), .star (.char ⟨[.single '\n'], true⟩),
        .oneOf [.oneOf .blank]]),
       .group 1 (.concat [.oneOf [Script.capital], .star (.oneOf [.oneOf .word])])])] 1

/-- What the pattern keeps of a block with the names of two classes. -/
def classAheadFindings : Findings where
  localModules := ["Far", "Near"]
  suggestions :=
    ["Consider adding local module: import_map.add_import(\"Far\", \"path/to/far.js\")",
     "Consider adding local module: import_map.add_import(\"Near\", \"path/to/near.js\")"]

/-- The match at the start captures the second name, which is the first one listed; the next match
captures the first name. So the order is not that of the places of the captures. -/
theorem far_is_listed_before_near :
    Pattern.ofString? classAhead.source = .ok classAhead.pattern ∧
    ∃ a : Analyzer, a.rules.Grouped ∧ a.rules.modulePatterns = [classAhead.pattern] ∧
      a.Answers "xyNear Far" classAheadFindings ∧
      CapturedFrom a.rules.modulePatterns "xyNear Far" 0 2 "Near" ∧
      ¬ classAheadFindings.localModules.Pairwise
        (StartsBefore a.rules.modulePatterns "xyNear Far") := by
  have hread : (Pattern.parse? classAhead.source).toOption = some classAhead := by decide +kernel
  let rules : RuleSet := { modulePatterns := [classAhead.pattern] }
  have hgrouped : rules.Grouped := by decide
  have hfinds : Finds ⟨rules, "ahead"⟩ "xyNear Far" classAheadFindings :=
    (by decide +kernel : findings rules "xyNear Far" = .ok classAheadFindings)
  -- the two matches, with what they keep
  let far : Match := ⟨0, ⟨1, some 'x', "yNear Far".toList, [(1, ⟨"Far".toList, 3⟩)]⟩⟩
  let near : Match := ⟨1, ⟨2, some 'y', "Near Far".toList, [(1, ⟨"Near Far".toList, 4⟩)]⟩⟩
  have hscan : classAhead.pattern.scan "xyNear Far" = [far, near] :=
    (by decide +kernel : classAhead.node.scan "xyNear Far".toList = [far, near])
  have hnear : CapturedFrom [classAhead.pattern] "xyNear Far" 0 2 "Near" :=
    ⟨1, near, ⟨_, rfl, by rw [hscan]; rfl⟩, ⟨"Near Far".toList, 4⟩, rfl, by decide,
      "xy".toList, by decide, rfl⟩
  refine ⟨Pattern.ofString?_eq_ok hread, ⟨rules, "ahead"⟩, hgrouped, rfl, hfinds.answers, hnear,
    fun hordered ↦ ?_⟩
  obtain ⟨number, place, ⟨rank, found, ⟨p, hp, hfound⟩, span, hspan, hname, hstart⟩, hbefore⟩ :=
    List.pairwise_pair.mp hordered
  rcases hbefore 0 2 hnear with hlt | ⟨rfl, hplace⟩
  · exact absurd hlt (Nat.not_lt_zero _)
  · obtain rfl : classAhead.pattern = p := Option.some.inj hp
    rw [hscan] at hfound
    have hmem := List.mem_of_getElem? hfound
    rcases List.mem_pair.mp hmem with rfl | rfl
    · obtain rfl : (⟨"Far".toList, 3⟩ : Span) = span := Option.some.inj hspan
      obtain rfl := hstart.unique ⟨"xyNear ".toList, by decide, rfl⟩
      exact absurd hplace (by decide)
    · obtain rfl : (⟨"Near Far".toList, 4⟩ : Span) = span := Option.some.inj hspan
      exact absurd hname (by decide)

end ModuleScript.Analyzer
