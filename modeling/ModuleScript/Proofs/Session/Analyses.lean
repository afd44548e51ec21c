import ModuleScript.Proofs.Analysis.Answers
import ModuleScript.Proofs.Rules.Fingerprint

/-!
# Analyzers that share their answers

Analyzers keep their answers in one partition, told apart by a name for their rules. An answer is
therefore that of some analyzer with the same name that was asked about the same block. Whether
it is one's own depends on whether these analyzers agree; rules that can be told from their
fingerprints always do.
-/

namespace ModuleScript

open Store Digest

namespace Analyzer

/-- The analyzers that can be made: with the bundled rules or with given ones. -/
inductive Built : Analyzer → Prop
  | bundled : Built .bundled
  | custom {rules : RuleSet} {a : Analyzer} (grouped : rules.Grouped)
    (made : ofRules? rules = .ok a) : Built a

variable {compile : String → Except Pattern.Fault Pattern} {a b : Analyzer}

theorem Built.grouped (h : a.Built) : a.rules.Grouped := by
  cases h with
  | bundled => exact RuleSet.grouped_bundled
  | custom grouped made => exact ofRules?_eq_ok made ▸ grouped

/-- An analyzer is the bundled one or named by the fingerprint of its rules. -/
theorem Built.eq_bundled_or (h : a.Built) :
    a = .bundled ∨ a.space = sha256Hex (framing a.rules.fingerprintParts) := by
  cases h with
  | bundled => exact .inl rfl
  | custom grouped made =>
    right
    rw [ofRules?_eq_ok made]
    rfl

theorem Built.nul_notMem_space (h : a.Built) : '\x00' ∉ a.space.toList := by
  rcases h.eq_bundled_or with rfl | hspace
  · decide
  · rw [hspace]
    exact nul_notMem_sha256Hex _

/-- No fingerprint is the name of the bundled rules. -/
theorem sha256Hex_ne_default (message : List UInt8) :
    sha256Hex message ≠ Analyzer.bundled.space := by
  intro h
  have hnot := notMem_sha256Hex (c := 't') (by decide) message
  rw [h] at hnot
  exact hnot (by decide)

/-- Analyzers that keep their answers under the same name. -/
def Alike (a b : Analyzer) : Prop := a.space = b.space

/-- Analyzers whose rules can be told from their names. -/
def Distinguishable (compile : String → Except Pattern.Fault Pattern) (a : Analyzer) : Prop :=
  a = .bundled ∨ a.rules.Plain compile

/-- No analyzer with given rules has the name of the bundled one. -/
theorem Built.eq_bundled_of_alike (hb : b.Built) (h : b.Alike .bundled) : b = .bundled :=
  hb.eq_bundled_or.resolve_right fun hspace ↦ sha256Hex_ne_default _ (hspace.symm.trans h)

/-- Two such analyzers with one name find the same. -/
theorem finds_of_alike (ha : a.Built) (hb : b.Built) (hda : a.Distinguishable compile)
    (hdb : b.Distinguishable compile)
    (hfree : CollisionFree [framing a.rules.fingerprintParts, framing b.rules.fingerprintParts])
    (halike : b.Alike a) {block : String} {found : Findings} (h : b.Finds block found) :
    a.Finds block found := by
  rcases ha.eq_bundled_or with rfl | haspace <;> rcases hb.eq_bundled_or with rfl | hbspace
  · exact h
  · exact hb.eq_bundled_of_alike halike ▸ h
  · exact ha.eq_bundled_of_alike halike.symm ▸ h
  · have plain {c : Analyzer} (hspace : c.space = sha256Hex (framing c.rules.fingerprintParts))
        (hc : c.Distinguishable compile) : c.rules.Plain compile :=
      hc.resolve_left fun hbundled ↦ by
        rw [hbundled] at hspace
        exact sha256Hex_ne_default _ hspace.symm
    have hframing := hfree _ (by simp) _ (by simp)
      (haspace.symm.trans (halike.symm.trans hbspace))
    have hsame := (plain haspace hda).findings_eq (plain hbspace hdb) hframing block
    exact hsame.trans h

end Analyzer

/-! ### Sessions of analyzers -/

namespace Analyses

/-- What can happen to the shared answers. -/
inductive Step where
  | ask (a : Analyzer) (block : String)
  | configure (partition : String) (capacity : Int)
  | clearPartition (partition : String)
  | clear

/-- The shared caches after one step. -/
def step (s : Store) : Step → Store
  | .ask a block => ((a.analyze block).run s).2
  | .configure partition capacity => (s.configure partition capacity).2
  | .clearPartition partition => s.clearPartition partition
  | .clear => s.clear

/-- The shared caches after some steps. -/
def run (s : Store) (steps : List Step) : Store := steps.foldl step s

/-- The answer of an analyzer at the end of all steps, in a new session. -/
def answer (steps : List Step) (a : Analyzer) (block : String) : Except RenderFault Findings :=
  ((a.analyze block).run (run {} steps)).1

/-- The analyzers that were asked about a block. -/
def askers (block : String) (steps : List Step) : List Analyzer :=
  steps.filterMap fun
    | .ask a asked => if asked = block then some a else none
    | _ => none

/-- What is digested on the way: the texts of the rules, and the keys of the answers. -/
def messages (steps : List Step) : List (List UInt8) :=
  steps.flatMap fun
    | .ask a block => [framing a.rules.fingerprintParts, framing [a.space, block]]
    | _ => []

/-- Nothing is asked of an analyzer that cannot be made. -/
def Made (steps : List Step) : Prop := ∀ a block, .ask a block ∈ steps → a.Built

theorem mem_askers {steps : List Step} {a : Analyzer} {block : String} :
    a ∈ askers block steps ↔ .ask a block ∈ steps := by
  rw [askers, List.mem_filterMap]
  constructor
  · rintro ⟨s, hs, heq⟩
    cases s with
    | ask b asked =>
      obtain ⟨hblock, hb⟩ := Option.ite_none_right_eq_some.mp heq
      rw [Option.some.injEq] at hb
      rwa [← hb, ← hblock]
    | _ => exact absurd heq (by simp)
  · intro h
    exact ⟨_, h, if_pos rfl⟩

theorem messages_subset {steps : List Step} {a : Analyzer} {block : String}
    (h : .ask a block ∈ steps) :
    [framing a.rules.fingerprintParts, framing [a.space, block]] ⊆ messages steps :=
  fun _ hmessage ↦ List.mem_flatMap.mpr ⟨_, h, hmessage⟩

/-! ### Where answers come from -/

/-- What is kept as findings was found by an analyzer that was asked. -/
def FromAskers (steps : List Step) : Condition := fun name key kept ↦
  name = Partition.dependencies.name → ∃ a block found, .ask a block ∈ steps ∧
    key = a.key block ∧ a.Finds block found ∧ kept = .findings found

/-- One step keeps nothing that is not found by an analyzer that is asked. -/
theorem holds_step {steps : List Step} (hmade : Made steps) {s : Store}
    (hs : s.Holds (FromAskers steps)) {next : Step} (hnext : next ∈ steps) :
    (step s next).Holds (FromAskers steps) := by
  cases next with
  | ask a block =>
    obtain ⟨found, hfound⟩ := Analyzer.exists_finds (hmade a block hnext).grouped block
    have hkept : Keeps (Holds (FromAskers steps)) (a.keptFindings block) := by
      refine Ensures.getOrCompute (fun _ _ ↦ trivial) ?_
      unfold Analyzer.Finds at hfound
      rw [hfound]
      refine Ensures.pure ⟨fun value hvalue _ ↦ ?_, fun _ _ ↦ trivial⟩
      exact ⟨a, block, found, hnext, rfl, hfound, (Except.ok.inj hvalue).symm⟩
    exact (Analyzer.keeps_analyze hkept s hs).1
  | configure partition capacity => exact hs.configure partition capacity
  | clearPartition partition => exact hs.clearPartition partition
  | clear => exact (stable_holds _).clear hs

/-- So do any steps. -/
theorem holds_run {steps : List Step} (hmade : Made steps) {s : Store}
    (hs : s.Holds (FromAskers steps)) {more : List Step} (hmore : more ⊆ steps) :
    (run s more).Holds (FromAskers steps) := by
  induction more generalizing s with
  | nil => exact hs
  | cons next more ih =>
    rw [List.cons_subset] at hmore
    exact ih (holds_step hmade hs hmore.1) hmore.2

/-- There is always room for an answer. -/
theorem roomy_run {s : Store} (hs : s.Roomy) (steps : List Step) : (run s steps).Roomy := by
  induction steps generalizing s with
  | nil => exact hs
  | cons next steps ih =>
    apply ih
    cases next with
    | ask a block => exact (Analyzer.keeps_analyze (a.keeps_keptFindings_roomy block) s hs).1
    | configure partition capacity => exact stable_roomy.configure partition capacity hs
    | clearPartition partition => exact stable_roomy.clearPartition partition hs
    | clear => exact stable_roomy.clear hs

variable {steps : List Step} {a : Analyzer} {block : String}

/-- What is kept for an analyzer was found by one of the same name that was asked about the same
block. -/
theorem exists_asker_of_kept (hmade : Made steps) (ha : a.Built)
    (hfree : CollisionFree (messages (steps ++ [.ask a block]))) {kept : Artifact}
    (h : a.kept? block (run {} steps) = some kept) :
    ∃ b ∈ askers block steps, b.Alike a ∧ ∃ found, b.Finds block found ∧
      kept = .findings found := by
  have hkept := holds_run hmade (cold_empty.holds _) (List.Subset.refl steps) _ _ _
    (Cache.mem_entries_of_find? h) rfl
  obtain ⟨b, asked, found, hask, hkey, hfound, rfl⟩ := hkept
  have hb := messages_subset (List.mem_append_left [.ask a block] hask)
  have hself := messages_subset
    (List.mem_append_right steps (List.mem_singleton_self (Step.ask a block)))
  have hframing := hfree _ (hself (by simp)) _ (hb (by simp)) hkey
  obtain ⟨hspace, hrest⟩ := framing_cons_inj ha.nul_notMem_space
    (hmade b asked hask).nul_notMem_space hframing
  obtain rfl := framing_singleton_inj hrest
  exact ⟨b, mem_askers.mpr hask, hspace.symm, found, hfound, rfl⟩

/-- An answer is what some analyzer of the same name finds: the one that is asked, or one that was
asked about the block before. -/
theorem exists_alike_of_answer (hmade : Made steps) (ha : a.Built)
    (hfree : CollisionFree (messages (steps ++ [.ask a block]))) :
    ∃ b ∈ a :: askers block steps, b.Alike a ∧ ∃ found, b.Finds block found ∧
      answer steps a block = .ok found := by
  cases hkept : a.kept? block (run {} steps) with
  | none =>
    obtain ⟨found, hfound⟩ := Analyzer.exists_finds ha.grouped block
    exact ⟨a, List.mem_cons_self, rfl, found, hfound, Analyzer.analyze_of_none hfound hkept⟩
  | some kept =>
    obtain ⟨b, hb, halike, found, hfound, rfl⟩ := exists_asker_of_kept hmade ha hfree hkept
    exact ⟨b, List.mem_cons_of_mem a hb, halike, found, hfound, Analyzer.analyze_of_some hkept⟩

/-- After a clear, the first analyzer that is asked answers for all of its name. -/
theorem answer_after_clear {b : Analyzer} {found : Findings} (hfound : b.Finds block found)
    (halike : b.Alike a) : answer (steps ++ [.clear, .ask b block]) a block = .ok found := by
  have hroom : (run {} steps).clear.Roomy := stable_roomy.clear (roomy_run roomy_empty steps)
  have hcold : b.kept? block (run {} steps).clear = none := Analyzer.kept?_of_cold (cold_clear _)
  have hkept := Analyzer.kept?_analyze hfound hcold hroom
  have hkey : a.key block = b.key block := by rw [Analyzer.key, Analyzer.key, halike]
  have hrun : run {} (steps ++ [.clear, .ask b block]) =
      ((b.analyze block).run (run {} steps).clear).2 := by
    rw [run, List.foldl_append]
    rfl
  rw [answer, hrun]
  apply Analyzer.analyze_of_some
  rw [Analyzer.kept?, hkey]
  exact hkept

/-- Whose answers analyzers give. In every session, an answer is what some analyzer of the same
name finds in the block. It is what the analyzer's own rules find if these are the bundled ones,
or if all analyzers of its name that were asked about the block can be told from their names. And
any analyzer of the same name can answer for another one. -/
theorem answers_are_shared_among_alike (compile : String → Except Pattern.Fault Pattern)
    (hmade : Made steps) (ha : a.Built)
    (hfree : CollisionFree (messages (steps ++ [.ask a block]))) :
    (∃ b ∈ a :: askers block steps, b.Alike a ∧ ∃ found, b.Finds block found ∧
      answer steps a block = .ok found) ∧
    ((a = .bundled ∨ ∀ b ∈ a :: askers block steps, b.Alike a → b.Distinguishable compile) →
      ∃ found, a.Finds block found ∧ answer steps a block = .ok found) ∧
    ∀ b : Analyzer, b.Built → b.Alike a → ∃ found, b.Finds block found ∧
      answer (steps ++ [.clear, .ask b block]) a block = .ok found := by
  obtain ⟨b, hb, halike, found, hfound, hanswer⟩ := exists_alike_of_answer hmade ha hfree
  refine ⟨⟨b, hb, halike, found, hfound, hanswer⟩, fun hcase ↦ ⟨found, ?_, hanswer⟩, ?_⟩
  · have hask {c : Analyzer} (hc : c ∈ a :: askers block steps) :
        .ask c block ∈ steps ++ [.ask a block] := by
      rcases List.mem_cons.mp hc with rfl | hc
      · simp
      · exact List.mem_append_left _ (mem_askers.mp hc)
    have hbuilt {c : Analyzer} (hc : c ∈ a :: askers block steps) : c.Built := by
      rcases List.mem_cons.mp hc with rfl | hc
      · exact ha
      · exact hmade c block (mem_askers.mp hc)
    have hsub : [framing a.rules.fingerprintParts, framing b.rules.fingerprintParts] ⊆
        messages (steps ++ [.ask a block]) := by
      rw [List.cons_subset, List.cons_subset]
      exact ⟨messages_subset (hask List.mem_cons_self) (by simp),
        messages_subset (hask hb) (by simp), List.nil_subset _⟩
    rcases hcase with rfl | hall
    · exact (hbuilt hb).eq_bundled_of_alike halike ▸ hfound
    · exact Analyzer.finds_of_alike ha (hbuilt hb) (hall a List.mem_cons_self rfl)
        (hall b hb halike) (hfree.of_subset hsub) halike hfound
  · intro b hb halike
    obtain ⟨found, hfound⟩ := Analyzer.exists_finds hb.grouped block
    exact ⟨found, hfound, answer_after_clear hfound halike⟩

/-- A pattern and an excluded name with the same text have the same fingerprint, so a class that
the pattern finds is the answer of an analyzer without any pattern. Told apart from its name, an
analyzer answers for itself. -/
theorem pattern_answers_for_excluded_name :
    ∃ (a b c : Analyzer) (found : Findings), a.Built ∧ b.Built ∧ c.Built ∧
      found.localModules = ["Xa"] ∧ a.Finds "Xa" found ∧ b.Finds "Xa" {} ∧ c.Finds "Xa" {} ∧
      answer [.ask b "Xa", .clear, .ask a "Xa"] b "Xa" = .ok found ∧
      answer [.ask a "Xa", .configure "dependencies" 1] c "Xa" = .ok {} := by
  let text := "([A-Z]a)"
  let q : Pattern.Parsed := RuleSet.written text
    [.group 1 (.concat [.oneOf [Script.capital], .char (.single 'a')])] 1
  let p : Pattern := q.pattern
  let a : Analyzer := ⟨{ modulePatterns := [p] }, RuleSet.fingerprint { modulePatterns := [p] }⟩
  let b : Analyzer := ⟨{ excluded := [text] }, RuleSet.fingerprint { excluded := [text] }⟩
  let c : Analyzer := ⟨{ modulePatterns := [p], excluded := ["Xa"] },
    RuleSet.fingerprint { modulePatterns := [p], excluded := ["Xa"] }⟩
  have hgrouped : a.rules.Grouped ∧ b.rules.Grouped ∧ c.rules.Grouped := by decide
  have ha : a.Built := .custom hgrouped.1 rfl
  have hb : b.Built := .custom hgrouped.2.1 rfl
  have hc : c.Built := .custom hgrouped.2.2 rfl
  have hfound : a.Finds "Xa" _ := rfl
  have hbfound : b.Finds "Xa" {} := rfl
  have hcfound : c.Finds "Xa" {} := rfl
  have hmade : Made [.ask b "Xa"] := by
    intro d block hask
    obtain ⟨rfl, -⟩ := Step.ask.inj (List.mem_singleton.mp hask)
    exact hb
  have hmade' : Made [.ask a "Xa", .configure "dependencies" 1] := by
    intro d block hask
    rcases List.mem_cons.mp hask with hask | hask
    · obtain ⟨rfl, -⟩ := Step.ask.inj hask
      exact ha
    · exact absurd (List.mem_singleton.mp hask) (by simp)
  have hfree : CollisionFree (messages [.ask b "Xa", .ask b "Xa"]) := by decide +kernel
  have hfree' : CollisionFree
      (messages [.ask a "Xa", .configure "dependencies" 1, .ask c "Xa"]) := by decide +kernel
  have hread : (Pattern.parse? text).toOption = some q := by decide +kernel
  have hcompiled : ∀ r ∈ [p], Pattern.ofString? r.source = .ok r := fun r hr ↦
    List.mem_singleton.mp hr ▸ Pattern.ofString?_eq_ok hread
  have hplain (excluded : List String) (h : excluded = [] ∨ excluded = ["Xa"]) :
      RuleSet.Plain Pattern.ofString? { modulePatterns := [p], excluded } := by
    rcases h with rfl | rfl <;>
      exact ⟨hcompiled, by decide +kernel, by simp, by decide +kernel, by decide +kernel⟩
  have hdistinguishable : ∀ d ∈ [c, a], d.Alike c → d.Distinguishable Pattern.ofString? := by
    intro d hd _
    rcases List.mem_cons.mp hd with rfl | hd
    · exact .inr (hplain _ (.inr rfl))
    · rw [List.mem_singleton.mp hd]
      exact .inr (hplain _ (.inl rfl))
  obtain ⟨found, hfinds, hanswer⟩ :=
    (answers_are_shared_among_alike Pattern.ofString? hmade hb hfree).2.2 a ha rfl
  obtain ⟨found', hfinds', hanswer'⟩ :=
    (answers_are_shared_among_alike Pattern.ofString? hmade' hc hfree').2.1 (.inr hdistinguishable)
  obtain rfl : found = _ := Except.ok.inj (hfinds.symm.trans hfound)
  obtain rfl : found' = _ := Except.ok.inj (hfinds'.symm.trans hcfound)
  exact ⟨a, b, c, _, ha, hb, hc, rfl, hfound, hbfound, hcfound, hanswer, hanswer'⟩

end Analyses

end ModuleScript
