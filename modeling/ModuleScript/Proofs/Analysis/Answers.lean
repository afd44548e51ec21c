import ModuleScript.Analysis.Analyzer
import ModuleScript.Proofs.Cache.Computation

/-!
# What an analyzer answers

An analyzer answers with the findings that are kept under its key, or else with what its own rules
find, which are then kept. Rules whose module patterns have groups always find something to
answer.
-/

namespace ModuleScript

open Store

/-- Every module pattern has a group to name what it matches. -/
def RuleSet.Grouped (rules : RuleSet) : Prop := ∀ p ∈ rules.modulePatterns, p.groups ≠ 0

instance (rules : RuleSet) : Decidable rules.Grouped :=
  inferInstanceAs (Decidable (∀ p ∈ rules.modulePatterns, p.groups ≠ 0))

/-- The bundled module patterns have groups. -/
theorem RuleSet.grouped_bundled : RuleSet.bundled.Grouped := by decide +kernel

/-- Module patterns with groups name all that they match. -/
theorem Analysis.detectModules_eq {rules : RuleSet} (h : rules.Grouped) (block : String) :
    detectModules rules block =
      .ok (((rules.modulePatterns.flatMap fun p ↦ (p.scan block).filterMap (·.group? 1)).filter
        (isModuleName rules)).foldl addNew []) := by
  have hcaptured : rules.modulePatterns.mapM (capturedNames · block) =
      .ok (rules.modulePatterns.map fun p ↦ (p.scan block).filterMap (·.group? 1)) := by
    rw [RuleSet.Grouped] at h
    generalize rules.modulePatterns = patterns at h ⊢
    induction patterns with
    | nil => rfl
    | cons p rest ih =>
      have hp : capturedNames p block = .ok ((p.scan block).filterMap (·.group? 1)) := by
        simp [capturedNames, h p List.mem_cons_self]
      rw [List.mapM_cons, hp, ih fun q hq ↦ h q (List.mem_cons_of_mem p hq)]
      rfl
  rw [detectModules, hcaptured, List.flatMap_def]
  rfl

/-- Where modules can be detected, there are findings. -/
theorem Analysis.findings_eq {rules : RuleSet} {block : String} {names : List String}
    (h : detectModules rules block = .ok names) :
    findings rules block = .ok
      { external := detectLibraries rules block, localModules := names
        suggestions := suggestions rules (detectLibraries rules block) names } := by
  rw [findings, h]
  rfl

namespace Analyzer

/-- An analyzer with given rules is named by their fingerprint. -/
theorem ofRules?_eq_ok {rules : RuleSet} {a : Analyzer} (h : ofRules? rules = .ok a) :
    a = ⟨rules, rules.fingerprint⟩ := by
  rw [ofRules?] at h
  split at h
  · split at h
    · exact absurd h (by simp)
    · exact (Except.ok.inj h).symm
  · exact absurd h (by simp)

variable {a : Analyzer} {block : String} {found : Findings} {s : Store}

/-- What the analyzer's own rules find in a block, without caches. -/
def Finds (a : Analyzer) (block : String) (found : Findings) : Prop :=
  Analysis.findings a.rules block = .ok found

theorem exists_finds (h : a.rules.Grouped) (block : String) : ∃ found, a.Finds block found := by
  unfold Finds
  rw [Analysis.findings, Analysis.detectModules_eq h]
  exact ⟨_, rfl⟩

/-- What is kept for a block under the analyzer's key. -/
def kept? (a : Analyzer) (block : String) (s : Store) : Option Artifact :=
  (s.partition Partition.dependencies.name).find? (a.key block)

/-- Where nothing is kept, nothing is kept for a block. -/
theorem kept?_of_cold (h : s.Cold) : a.kept? block s = none := h.find?_partition _ _

/-- The store with one more look-up counted that found nothing. -/
def missed (s : Store) : Store :=
  s.setPartition Partition.dependencies.name (s.partition Partition.dependencies.name).countMiss

/-- An analysis looks up what is kept, or computes it and keeps it. -/
theorem run_analyze (a : Analyzer) (block : String) (s : Store) : (a.analyze block).run s =
    match a.kept? block s with
    | some kept =>
      ((kept.findings?.map Except.ok).getD (.error .noFindings), s.setPartition
        Partition.dependencies.name (s.partition Partition.dependencies.name).countHit)
    | none =>
      match Analysis.findings a.rules block with
      | .ok found => (.ok found, (missed s).setPartition Partition.dependencies.name
          (((missed s).partition Partition.dependencies.name).store (a.key block)
            (.findings found)))
      | .error fault => (.error (.analysis fault), missed s) := by
  rw [analyze, Cache.run_bind, keptFindings, Cache.Slot.run_getOrCompute]
  change _ = match ((slot Partition.dependencies.name).read s).find? (a.key block) with
    | some kept => _
    | none => _
  cases ((slot Partition.dependencies.name).read s).find? (a.key block) with
  | some kept => cases kept <;> rfl
  | none =>
    cases Analysis.findings a.rules block with
    | ok found => rfl
    | error fault => rfl

/-- Kept findings are the answer. -/
theorem analyze_of_some (h : a.kept? block s = some (.findings found)) :
    ((a.analyze block).run s).1 = .ok found := by
  rw [run_analyze, h]
  rfl

/-- Where nothing is kept, the answer is what the rules find. -/
theorem analyze_of_none (hfound : a.Finds block found) (h : a.kept? block s = none) :
    ((a.analyze block).run s).1 = .ok found := by
  unfold Finds at hfound
  simp only [run_analyze, h, hfound]

/-- What the analyzer answers about a block wherever nothing else is kept for it. -/
def Answers (a : Analyzer) (block : String) (found : Findings) : Prop :=
  ∀ s : Store, (∀ kept, a.kept? block s = some kept → kept = .findings found) →
    ((a.analyze block).run s).1 = .ok found

/-- What the rules find is the answer, whether it is kept or not. -/
theorem Finds.answers (hfound : a.Finds block found) : a.Answers block found := by
  intro s hs
  cases hkept : a.kept? block s with
  | none => exact analyze_of_none hfound hkept
  | some kept => exact analyze_of_some (hs kept hkept ▸ hkept)

/-- An answer that had to be computed is kept, where there is room. -/
theorem kept?_analyze (hfound : a.Finds block found) (h : a.kept? block s = none)
    (hroom : s.Roomy) : a.kept? block ((a.analyze block).run s).2 = some (.findings found) := by
  unfold Finds at hfound
  simp only [run_analyze, h, hfound]
  rw [kept?, partition_setPartition_self, missed, partition_setPartition_self]
  exact Cache.find?_store_self _ (hroom _) h

/-- An analysis keeps what the look-up of its findings keeps. -/
theorem keeps_analyze {P : Store → Prop} (hkept : Keeps P (a.keptFindings block)) :
    Keeps P (a.analyze block) := by
  refine hkept.bind fun kept ↦ ?_
  cases kept.findings? with
  | some found => exact .pure _
  | none => exact .throw _

/-- An analysis leaves room. -/
theorem keeps_keptFindings_roomy (a : Analyzer) (block : String) :
    Keeps Roomy (a.keptFindings block) := by
  refine Keeps.getOrCompute_roomy ?_
  cases Analysis.findings a.rules block with
  | ok found => exact .pure _
  | error fault => exact .throw _

/-! ### Answers that do not fail -/

variable {ok : Condition}

/-- Where findings are kept as findings, an analysis by such rules does not fail. -/
theorem ensures_analyze (a : Analyzer) (h : a.rules.Grouped)
    (hkept : ∀ {key kept}, ok Partition.dependencies.name key kept →
      ∃ found, kept = .findings found)
    (hform : ∀ key found, ok Partition.dependencies.name key (.findings found)) (block : String) :
    Ensures (Holds ok) (a.analyze block) (Gives fun _ ↦ True) := by
  have hfindings : Ensures (Holds ok) (a.keptFindings block)
      (Gives fun kept ↦ ∃ found, kept = .findings found) := by
    refine Ensures.getOrCompute_gives hkept ?_ ?_
    · rintro _ ⟨found, rfl⟩
      exact hform _ found
    · obtain ⟨found, hfound⟩ := exists_finds h block
      unfold Finds at hfound
      rw [hfound]
      exact .gives_pure ⟨found, rfl⟩
  refine Ensures.bind_gives hfindings ?_
  rintro _ ⟨found, rfl⟩
  exact .gives_pure trivial

/-- Where specifiers are kept as lists of texts, such a list is the answer. -/
theorem ensures_existingImports (a : Analyzer)
    (hkept : ∀ {key kept}, ok Partition.existingImports.name key kept →
      ∃ names, kept = .data (.texts names))
    (hform : ∀ key names, ok Partition.existingImports.name key (.data (.texts names)))
    (block : String) :
    Ensures (Holds ok) (a.existingImports block)
      (Gives fun specifiers ↦ ∃ names, specifiers = .texts names) := by
  refine Ensures.bind_gives (Ensures.getOrCompute_gives hkept ?_ (.gives_pure ⟨_, rfl⟩)) ?_
  · rintro _ ⟨names, rfl⟩
    exact hform _ names
  · rintro _ ⟨names, rfl⟩
    exact .gives_pure ⟨names, rfl⟩

/-- Where measures are kept as measures, such are the answer. -/
theorem ensures_complexity? (a : Analyzer)
    (hkept : ∀ {key kept}, ok Partition.complexity.name key kept →
      ∃ measures, kept = .complexity measures)
    (hform : ∀ key measures, ok Partition.complexity.name key (.complexity measures))
    (block : String) :
    Ensures (Holds ok) (a.complexity? block) (Gives (·.isSome = true)) := by
  refine Ensures.bind_gives (Ensures.getOrCompute_gives hkept ?_ (.gives_pure ⟨_, rfl⟩)) ?_
  · rintro _ ⟨measures, rfl⟩
    exact hform _ measures
  · rintro _ ⟨measures, rfl⟩
    exact .gives_pure rfl

end Analyzer

end ModuleScript
