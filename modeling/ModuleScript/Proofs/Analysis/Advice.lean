import ModuleScript.Proofs.Analysis.JoinedBlocks
import ModuleScript.Proofs.Text.Lowercase

/-!
# Advice is one line

Advice by the bundled rules names a library of these rules, or a class that a block uses. Neither
brings a line feed, so every piece of advice is one line.
-/

namespace ModuleScript.Analysis

open Stimulus Text

/-- Advice on a module is one line if the name is. -/
theorem lineFeed_notMem_adviceOnModule {name : String} (h : '\n' ∉ name.toList) :
    '\n' ∉ (adviceOnModule name).toList := by
  have hlower : '\n' ∉ (toLower name).toList := by
    rw [toLower, String.toList_ofList]
    intro hmem
    exact h (mem_of_mem_lowerFrom (by decide) hmem)
  unfold adviceOnModule
  simp only [toString, String.toList_append, List.mem_append, not_or]
  exact ⟨⟨⟨by decide, h⟩, by decide⟩, hlower, by decide⟩

/-- The bundled rules know the name of every library that they detect. -/
theorem mem_names_of_mem_detectLibraries {rules : RuleSet} {block name : String}
    (h : name ∈ detectLibraries rules block) : name ∈ rules.libraries.map (·.name) := by
  rw [detectLibraries, mem_foldl_addNew] at h
  rcases h with h | h
  · exact absurd h List.not_mem_nil
  · exact (List.filter_sublist.map _).subset h

/-- The names of all libraries and the locations on offer for them are one line each. -/
def OneLine (rules : RuleSet) : Prop :=
  ∀ rule ∈ rules.libraries, '\n' ∉ rule.name.toList ∧ '\n' ∉ rule.location.display.toList

instance (rules : RuleSet) : Decidable (OneLine rules) :=
  inferInstanceAs (Decidable (∀ rule ∈ rules.libraries, _))

theorem oneLine_bundled : OneLine .bundled := by decide +kernel

/-- Then so is the advice on a library. -/
theorem OneLine.lineFeed_notMem_adviceOnLibrary {rules : RuleSet} (h : OneLine rules)
    {name : String} (hname : name ∈ rules.libraries.map (·.name)) :
    '\n' ∉ (adviceOnLibrary rules name).toList := by
  obtain ⟨rule, hrule, rfl⟩ := List.mem_map.mp hname
  have hname := (h rule hrule).1
  unfold adviceOnLibrary
  split
  next location hlocation =>
    obtain ⟨offer, hoffer, rfl⟩ := Option.map_eq_some_iff.mp hlocation
    have hdisplay := (h offer (List.mem_of_find?_eq_some hoffer)).2
    simp only [toString, String.toList_append, List.mem_append, not_or]
    exact ⟨⟨⟨⟨by decide, hname⟩, by decide⟩, hdisplay⟩, by decide⟩
  next =>
    simp only [toString, String.toList_append, List.mem_append, not_or]
    exact ⟨⟨by decide, hname⟩, by decide⟩

/-- All advice of the bundled rules on what they find in a block is one line. -/
theorem lineFeed_notMem_suggestions_bundled {block advice : String} {found : Findings}
    {external localModules : List String} (hfound : findings .bundled block = .ok found)
    (hexternal : external ⊆ found.external) (hlocal : localModules ⊆ found.localModules)
    (h : advice ∈ suggestions .bundled external localModules) : '\n' ∉ advice.toList := by
  obtain ⟨names, hnames, -, hmem⟩ := exists_detectModules_bundled block
  obtain rfl := Except.ok.inj (hfound.symm.trans (findings_eq hnames))
  rcases List.mem_append.mp h with h | h
  · obtain ⟨name, hname, rfl⟩ := List.mem_map.mp h
    exact oneLine_bundled.lineFeed_notMem_adviceOnLibrary
      (mem_names_of_mem_detectLibraries (hexternal hname))
  · obtain ⟨name, hname, rfl⟩ := List.mem_map.mp h
    obtain ⟨hclass, -⟩ := (hmem name).mp (hlocal hname)
    refine lineFeed_notMem_adviceOnModule fun hfeed ↦ ?_
    exact absurd (hclass.isAsciiWord _ hfeed) (by decide)

end ModuleScript.Analysis
