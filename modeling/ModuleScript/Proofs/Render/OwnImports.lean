import ModuleScript.Proofs.Analysis.ImportText
import ModuleScript.Proofs.Render.FollowedAdvice
import ModuleScript.Proofs.Stimulus.StatementPlaces

/-!
# What the imports of a block provide

An import in a block provides the specifier that it names, whatever it binds. So a class in use that
the block imports from elsewhere counts as missing, unless some import names the class itself as its
specifier. An import on a line of its own is found, unless an earlier one goes on behind its place.
-/

namespace ModuleScript

namespace Analysis

open Pattern Pattern.Node Stimulus Text

/-- The statement that binds a default, with its semicolon. -/
def defaultImportLine (name specifier : String) : String := s!"import {name} from \"{specifier}\";"

variable {block name specifier : String} {place : Nat}

private theorem bareStatement_defaultImportLine (name specifier : String) :
    (bareStatement (defaultImportLine name specifier)).toList =
      "import ".toList ++ (name.toList ++ (" from ".toList ++
        '"' :: (specifier.toList ++ ['"']))) := by
  have hline : (defaultImportLine name specifier).toList = ("import ".toList ++ (name.toList ++
      (" from ".toList ++ '"' :: specifier.toList))) ++ ['"', ';'] := by
    simp [defaultImportLine, toString]
  rw [bareStatement_of_semicolon hline (by rfl) (by decide) (by decide)]
  simp

/-- A whole line that binds a default tells its specifier. -/
theorem lineNames_defaultImportLine (hname : WordText name.toList)
    (hspecifier : SpecifierText specifier.toList) :
    LineNames staticImport (defaultImportLine name specifier) specifier := by
  refine tells_staticImport.lineNames_of_text trivial ?_
  rw [bareStatement_defaultImportLine]
  exact statementText_default hname hspecifier

/-- Its specifier is found at its place, unless a statement that is found before goes on behind the
place. -/
theorem findsAt_defaultImportLine_iff (hname : WordText name.toList)
    (hspecifier : SpecifierText specifier.toList)
    (hline : StatementAt block place (defaultImportLine name specifier)) :
    FindsAt staticImport block place specifier ↔ ¬ staticImport.RunsOver block.toList place :=
  tells_staticImport.findsAt_statement_iff (fun _ _ _ _ _ _ ↦ trivial) hline
    (lineNames_defaultImportLine hname hspecifier)

end Analysis

namespace Renderer

open Analysis Pattern.Node Stimulus

/-- A plain renderer without the names of a map provides the specifiers of its block. -/
theorem mem_providedNames_ofBlock {m : ImportMap} {block x : String} {a : Analyzer} :
    x ∈ (ofBlock block (some a)).providedNames m ↔
      x ∈ m.names ∨ x ∈ Analysis.existingImports block := by
  rw [providedNames, List.mem_append, List.mem_append]
  exact or_iff_left List.not_mem_nil

/-- By the bundled rules and from caches with nothing in them, a plain renderer finds a class
missing exactly if the block uses it, the platform and the map do not have it, and no import of the
block has it as its specifier. What an import binds does not matter. A whole line that binds a
default has its specifier found at its place, unless a statement found before goes on behind the
place; so a class that is its own specifier is missing in that case only. -/
theorem own_imports_count_by_their_specifiers (block : String) (m : ImportMap) {s : Store}
    (hs : s.Cold) :
    ∃ missing : Findings,
      (((ofBlock block (some .bundled)).missing m).run s).1 = .ok missing ∧
      (∀ x, x ∈ missing.localModules ↔ ClassText x.toList ∧ x ∉ RuleSet.platformNames ∧
        (∃ before use rest, block.toList = before ++ (use ++ rest) ∧
          WordEdge before (use ++ rest) ∧ UsesClass x.toList use) ∧
        x ∉ m.names ∧ ∀ place, ¬ FindsAt staticImport block place x ∧
          ¬ FindsAt dynamicImport block place x) ∧
      ∀ place name specifier, WordText name.toList → SpecifierText specifier.toList →
        StatementAt block place (defaultImportLine name specifier) →
          (FindsAt staticImport block place specifier ↔
            ¬ staticImport.RunsOver block.toList place) ∧
          (name = specifier → name ∈ missing.localModules →
            staticImport.RunsOver block.toList place) := by
  obtain ⟨names, hnames, -, hmem⟩ := exists_detectModules_bundled block
  have hown := ownFindings_of_finds (r := ofBlock block (some .bundled)) rfl (findings_eq hnames)
  generalize hfound : Findings.mk _ names _ = found at hown
  have hlisted (x : String) :
      x ∈ ((ofBlock block (some .bundled)).withoutProvided m found).localModules ↔
        ClassText x.toList ∧ x ∉ RuleSet.platformNames ∧
        (∃ before use rest, block.toList = before ++ (use ++ rest) ∧
          WordEdge before (use ++ rest) ∧ UsesClass x.toList use) ∧
        x ∉ m.names ∧ ∀ place, ¬ FindsAt staticImport block place x ∧
          ¬ FindsAt dynamicImport block place x := by
    rw [(withoutProvided_lists _ m found).2, List.mem_filter, ← hfound, decide_eq_true_eq, hmem,
      mem_providedNames_ofBlock, mem_existingImports_iff, not_or, not_exists]
    simp only [not_or, and_assoc]
  refine ⟨_, ?_, hlisted, ?_⟩
  · rw [(Rendering.ensures_missing ⟨_, m⟩ s (hs.holds _)).2, hown]
    rfl
  · intro place name specifier hname hspecifier hline
    have hfinds := findsAt_defaultImportLine_iff hname hspecifier hline
    refine ⟨hfinds, ?_⟩
    rintro rfl hmissing
    by_contra hover
    exact (((hlisted _).mp hmissing).2.2.2.2 place).1 (hfinds.mpr hover)

/-- A class imported from a file counts as missing, and one imported under its own name does not. -/
theorem grid_is_missing_and_cell_is_not :
    ∃ (block : String) (missing : Findings),
      StatementAt block 0 (defaultImportLine "Grid" "./grid.js") ∧
      StatementAt block 30 (defaultImportLine "Cell" "Cell") ∧
      (((ofBlock block (some .bundled)).missing {}).run {}).1 = .ok missing ∧
      "Grid" ∈ missing.localModules ∧ "Cell" ∉ missing.localModules := by
  let block := "import Grid from \"./grid.js\";\nimport Cell from \"Cell\";\nnew Grid(Cell.at(1));"
  obtain ⟨missing, hmissing, hmem, hlines⟩ :=
    own_imports_count_by_their_specifiers block {} Store.cold_empty
  have hgrid : StatementAt block 0 (defaultImportLine "Grid" "./grid.js") :=
    ⟨[], ["import Cell from \"Cell\";", "new Grid(Cell.at(1));"], by decide +kernel,
      by decide +kernel⟩
  have hcell : StatementAt block 30 (defaultImportLine "Cell" "Cell") :=
    ⟨["import Grid from \"./grid.js\";"], ["new Grid(Cell.at(1));"], by decide +kernel,
      by decide +kernel⟩
  refine ⟨block, missing, hgrid, hcell, hmissing, (hmem _).mpr ⟨?_, ?_, ?_, ?_, ?_⟩, fun h ↦ ?_⟩
  · exact ⟨'G', "rid".toList, rfl, rfl, List.all_eq_true.mp rfl⟩
  · decide +kernel
  · exact ⟨"import Grid from \"./grid.js\";\nimport Cell from \"Cell\";\n".toList,
      "new Grid(".toList, "Cell.at(1));".toList, by decide +kernel, by decide +kernel,
      .inl ⟨[' '], [], by simp, List.all_eq_true.mp rfl, Text.blanks_nil, rfl⟩⟩
  · exact List.not_mem_nil
  · have hnone : "Grid" ∉ Analysis.existingImports block := by decide +kernel
    rw [mem_existingImports_iff, not_exists] at hnone
    exact fun place ↦ not_or.mp (hnone place)
  · have hfound : (30, "Cell") ∈ namedPlaces staticImport block := by decide +kernel
    have hword : WordText "Cell".toList := ⟨by decide, List.all_eq_true.mp rfl⟩
    obtain ⟨hfinds, hreported⟩ := hlines 30 "Cell" "Cell" hword (by decide +kernel) hcell
    exact hfinds.mp (mem_namedPlaces_iff.mp hfound) (hreported rfl h)

end Renderer

end ModuleScript
