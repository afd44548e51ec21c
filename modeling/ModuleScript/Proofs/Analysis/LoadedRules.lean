import ModuleScript.Proofs.Analysis.Answers
import ModuleScript.Proofs.Rules.Documents

/-!
# Analyses by loaded rules

Loaded module patterns have groups, so that an analyzer with loaded rules answers every question
about every block. Names are written when the rules are loaded, but locations are not: they are
written when the analyzer is made, and all texts are encoded then. This fails if a location holds a
number that is too long, or if a text is broken.
-/

namespace ModuleScript

open Store

/-- Every loose module pattern has a group. -/
def LooseRuleSet.Grouped (rules : LooseRuleSet) : Prop :=
  ∀ p ∈ rules.modulePatterns, p.pattern.groups ≠ 0

theorem LooseRuleSet.Grouped.shown {rules : LooseRuleSet} (h : rules.Grouped) :
    rules.shown.Grouped := by
  intro p hp
  obtain ⟨loose, hloose, rfl⟩ := List.mem_map.mp hp
  exact h loose hloose

namespace RuleSet

variable {r : Readers} {libraries modules : Value}

/-- Every module pattern that is read has a group. -/
theorem grouped_rulesIn (libraries modules : Value) : (rulesIn r libraries modules).Grouped := by
  intro p hp
  obtain ⟨raw, -, hread⟩ := List.mem_filterMap.mp hp
  rw [modulePattern?, Option.filter_eq_some_iff] at hread
  simpa using hread.2

end RuleSet

namespace Analyzer

open RuleSet

/-- What belongs into the partitions of an analysis: findings, lists of specifiers and measures. -/
structure Analysed (name key : String) (kept : Artifact) : Prop where
  findings : name = Partition.dependencies.name → ∃ found, kept = .findings found
  specifiers : name = Partition.existingImports.name → ∃ names, kept = .data (.texts names)
  measures : name = Partition.complexity.name → ∃ measures, kept = .complexity measures

theorem analysed_findings (key : String) (found : Findings) :
    Analysed Partition.dependencies.name key (.findings found) :=
  ⟨fun _ ↦ ⟨found, rfl⟩, fun h ↦ absurd h (by decide), fun h ↦ absurd h (by decide)⟩

theorem analysed_specifiers (key : String) (names : List String) :
    Analysed Partition.existingImports.name key (.data (.texts names)) :=
  ⟨fun h ↦ absurd h (by decide), fun _ ↦ ⟨names, rfl⟩, fun h ↦ absurd h (by decide)⟩

theorem analysed_measures (key : String) (measures : Complexity) :
    Analysed Partition.complexity.name key (.complexity measures) :=
  ⟨fun h ↦ absurd h (by decide), fun h ↦ absurd h (by decide), fun _ ↦ ⟨measures, rfl⟩⟩

/-- Some location of the rules holds a number that is too long to be written. -/
def HasLongLocation (rules : LooseRuleSet) : Prop :=
  ∃ rule ∈ rules.libraries, rule.location.isWritable = false

theorem all_isWritable_iff {rules : LooseRuleSet} :
    rules.libraries.all (·.location.isWritable) = true ↔ ¬ HasLongLocation rules := by
  simp [HasLongLocation]

/-- An analyzer by loose rules that can be named has these rules. -/
theorem ofLoose?_eq_of_named {rules : LooseRuleSet} (hlong : ¬ HasLongLocation rules)
    (hbroken : rules.hasBrokenText = false) :
    ofLoose? rules = .ok ⟨rules.shown, rules.shown.fingerprint⟩ := by
  have hall : rules.shown.libraries.all (·.location.isWritable) = true := by
    rw [LooseRuleSet.shown, List.all_map]
    exact all_isWritable_iff.mpr hlong
  have hnone : rules.shown.libraries.any (·.location.isBroken) = false := by
    rw [LooseRuleSet.hasBrokenText, Bool.or_eq_false_iff, Bool.or_eq_false_iff] at hbroken
    rw [LooseRuleSet.shown, List.any_map, List.any_eq_false]
    intro rule hrule hlocation
    refine List.any_eq_false.mp hbroken.1.1 rule hrule ?_
    rw [LooseRule.hasBrokenText, show rule.location.isBroken = true from hlocation, Bool.or_true]
  rw [ofLoose?, hbroken, Bool.and_false, if_neg Bool.false_ne_true, ofRules?, if_pos hall, hnone,
    if_neg Bool.false_ne_true]

/-- There is none exactly if a location cannot be written, or else a text is broken. -/
theorem ofLoose?_eq_error_iff {rules : LooseRuleSet} {fault : RulesFault} :
    ofLoose? rules = .error fault ↔
      HasLongLocation rules ∧ fault = .number .written ∨
        ¬ HasLongLocation rules ∧ rules.hasBrokenText = true ∧ fault = .brokenText := by
  by_cases hlong : HasLongLocation rules
  · have hall : rules.libraries.all (·.location.isWritable) = false :=
      Bool.eq_false_iff.mpr (mt all_isWritable_iff.mp (not_not.mpr hlong))
    have hshown : rules.shown.libraries.all (·.location.isWritable) = false := by
      rw [LooseRuleSet.shown, List.all_map]
      exact hall
    rw [ofLoose?, hall, Bool.false_and, if_neg Bool.false_ne_true, ofRules?, hshown,
      if_neg Bool.false_ne_true, Except.error.injEq, eq_comm]
    simp [hlong]
  · cases hbroken : rules.hasBrokenText with
    | false => simp [ofLoose?_eq_of_named hlong hbroken, hlong]
    | true =>
      rw [ofLoose?, all_isWritable_iff.mpr hlong, hbroken, Bool.and_self, if_pos rfl,
        Except.error.injEq, eq_comm]
      simp [hlong]

variable {r : Readers} {directory : String} {librariesFile modulesFile : Option (List UInt8)}
  {rules : LooseRuleSet} {warnings : List Warning}

/-- Loaded module patterns have groups. An analyzer with loaded rules can be made unless the
location of a library holds a number that is too long to be written, or a text in the rules is
broken. Where the caches keep of analyses what belongs there, it finds something in every block,
tells what the block imports and measures it, and the caches go on to keep what belongs there. -/
theorem loaded_rules_answer_about_every_block
    (h : load? r directory librariesFile modulesFile = .ok (rules, warnings)) :
    rules.Grouped ∧
    (∀ fault, ofLoose? rules = .error fault ↔
      HasLongLocation rules ∧ fault = .number .written ∨
        ¬ HasLongLocation rules ∧ rules.hasBrokenText = true ∧ fault = .brokenText) ∧
    ∀ a, ofLoose? rules = .ok a → a.rules = rules.shown ∧ ∀ block,
      Ensures (Holds Analysed) (a.analyze block) (Gives fun _ ↦ True) ∧
      Ensures (Holds Analysed) (a.existingImports block)
        (Gives fun specifiers ↦ ∃ names, specifiers = .texts names) ∧
      Ensures (Holds Analysed) (a.complexity? block) (Gives (·.isSome = true)) := by
  obtain ⟨libraries, modules, -, -, -, heq⟩ := exists_documents_of_load? h
  have hgrouped : rules.Grouped := by
    rw [(Prod.mk.inj heq).1]
    exact grouped_rulesIn libraries modules
  refine ⟨hgrouped, fun fault ↦ ofLoose?_eq_error_iff, fun a ha ↦ ?_⟩
  have hmade : a = ⟨rules.shown, rules.shown.fingerprint⟩ := by
    rw [ofLoose?] at ha
    split at ha
    · exact absurd ha (by simp)
    · exact ofRules?_eq_ok ha
  subst hmade
  refine ⟨rfl, fun block ↦ ⟨?_, ?_, ?_⟩⟩
  · exact ensures_analyze _ hgrouped.shown (fun hkept ↦ hkept.findings rfl) analysed_findings block
  · exact ensures_existingImports _ (fun hkept ↦ hkept.specifiers rfl) analysed_specifiers block
  · exact ensures_complexity? _ (fun hkept ↦ hkept.measures rfl) analysed_measures block

/-- A library with numbers for its name and its location, and a module pattern whose group need not
take part in a match. -/
theorem numbers_for_texts_are_answered_about :
    ∃ rules warnings a,
      load? .builtIn "rules" (some (Text.Utf8.encode "- name: 7\n  patterns: [a]\n  cdn_url: 8\n"))
        (some (Text.Utf8.encode "patterns: ['(A)|B']\n")) = .ok (rules, warnings) ∧
      ofLoose? rules = .ok a ∧ a.rules.libraries.map (·.name) = ["7"] ∧
      a.rules.modulePatterns.map (·.groups) = [1] ∧
      ∃ found, ((a.analyze "a B").run {}).1 = .ok found := by
  have hread : (match load? .builtIn "rules"
        (some (Text.Utf8.encode "- name: 7\n  patterns: [a]\n  cdn_url: 8\n"))
        (some (Text.Utf8.encode "patterns: ['(A)|B']\n")) with
      | .ok (rules, _) => (ofLoose? rules).toOption.any fun a ↦
        a.rules.libraries.map (·.name) == ["7"] && a.rules.modulePatterns.map (·.groups) == [1]
      | .error _ => false) = true := by decide +kernel
  split at hread
  next rules warnings h =>
    cases ha : ofLoose? rules with
    | error fault => simp [ha, Except.toOption] at hread
    | ok a =>
      simp only [ha, Except.toOption, Option.any_some, Bool.and_eq_true, beq_iff_eq] at hread
      obtain ⟨hnames, hgroups⟩ := hread
      obtain ⟨-, hanswers⟩ := (loaded_rules_answer_about_every_block h).2.2 a ha
      obtain ⟨-, found, hfound, -⟩ := (hanswers "a B").1 {} (cold_empty.holds _)
      exact ⟨rules, warnings, a, h, ha, hnames, hgroups, found, hfound⟩
  next => exact absurd hread Bool.false_ne_true

end Analyzer

end ModuleScript
