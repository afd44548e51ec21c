import ModuleScript.Proofs.Analysis.Detected
import ModuleScript.Proofs.Pattern.Occurrence

/-!
# Joined blocks

Two blocks are joined by a line feed. What is found in one of them is found in both together: the
library patterns look at nothing around what they match, a use of a class starts at a word edge
that the line feed leaves alone, and the rules list the patterns of a library together, so that
further matches do not change the order of the libraries.
-/

namespace ModuleScript.Analysis

open FirstOccurrence Stimulus Text

/-! ### Libraries -/

/-- More matches add libraries and keep the order of the others, if the patterns of a library
stand together in the rules. -/
theorem detectLibraries_sublist {rules : RuleSet}
    (hrules : Clustered (rules.libraries.map (·.name))) {block more : String}
    (h : ∀ rule ∈ rules.libraries,
      rule.pattern.occursIn block = true → rule.pattern.occursIn more = true) :
    (detectLibraries rules block).Sublist (detectLibraries rules more) := by
  rw [detectLibraries, detectLibraries, foldl_addNew, foldl_addNew]
  have hfiltered : (rules.libraries.filter (·.pattern.occursIn block)).Sublist
      (rules.libraries.filter (·.pattern.occursIn more)) := by
    have hboth : rules.libraries.filter (·.pattern.occursIn block) =
        (rules.libraries.filter (·.pattern.occursIn more)).filter
          (·.pattern.occursIn block) := by
      rw [List.filter_filter]
      refine List.filter_congr fun rule hrule ↦ ?_
      cases hblock : rule.pattern.occursIn block with
      | false => rfl
      | true => rw [h rule hrule hblock, Bool.and_self]
    rw [hboth]
    exact List.filter_sublist
  exact (hrules.sublist (List.filter_sublist.map _)).eraseDups_sublist (hfiltered.map _)

/-- A pattern that looks at nothing around what it matches occurs in joined texts. -/
theorem occursIn_joined {p : Pattern.Parsed} (h : p.node.isSelfContained = true) {block : String}
    (hblock : p.pattern.occursIn block = true) (first last : String) :
    p.pattern.occursIn (first ++ block ++ last) = true := by
  rw [Pattern.Parsed.occursIn_pattern] at hblock ⊢
  rw [String.toList_append, String.toList_append, List.append_assoc]
  exact Pattern.Node.occursIn_of_isSelfContained h hblock first.toList last.toList

theorem clustered_bundled : Clustered (RuleSet.bundled.libraries.map (·.name)) := by
  decide +kernel

theorem isSelfContained_of_mem_bundledUses :
    ∀ use ∈ RuleSet.bundledUses, use.2.1.node.isSelfContained = true := by
  decide +kernel

/-- The bundled rules find the libraries of a block in every text that holds it. -/
theorem detectLibraries_bundled_sublist (first block last : String) :
    (detectLibraries .bundled block).Sublist
      (detectLibraries .bundled (first ++ block ++ last)) :=
  detectLibraries_sublist clustered_bundled fun rule hrule hblock ↦ by
    obtain ⟨use, huse, rfl⟩ := List.mem_map.mp hrule
    exact occursIn_joined (isSelfContained_of_mem_bundledUses use huse) hblock first last

/-! ### Modules -/

/-- A text uses the class `x` from a word edge on. -/
def Uses (text x : List Char) : Prop :=
  ∃ before use rest, text = before ++ (use ++ rest) ∧ WordEdge before (use ++ rest) ∧
    UsesClass x use

/-- A use of a class is no empty text. -/
theorem UsesClass.ne_nil {x use : List Char} (h : UsesClass x use) : use ≠ [] := by
  rcases h with h | h | h
  · exact distinct_construction.reads h
  · exact distinct_call.reads h
  · exact distinct_constant.reads h

variable {text x : List Char} {c : Char}

/-- What follows a use of a class does not matter. -/
theorem Uses.append_right (h : Uses text x) (more : List Char) : Uses (text ++ more) x := by
  obtain ⟨before, use, rest, rfl, hedge, huse⟩ := h
  refine ⟨before, use, rest ++ more, by simp only [List.append_assoc], ?_, huse⟩
  rw [WordEdge, List.head?_append_of_ne_nil _ huse.ne_nil] at hedge ⊢
  exact hedge

/-- Behind what is no word character, words start as at the start of a text. -/
theorem Uses.append_left (hc : isWord c = false) (h : Uses text x) (first : List Char) :
    Uses (first ++ c :: text) x := by
  obtain ⟨before, use, rest, rfl, hedge, huse⟩ := h
  refine ⟨first ++ c :: before, use, rest, by simp, ?_, huse⟩
  have hlast : (first ++ c :: before).getLast?.any isWord = before.getLast?.any isWord := by
    rw [List.getLast?_append_of_ne_nil _ (List.cons_ne_nil c before)]
    cases before with
    | nil => simp [hc]
    | cons d before => rw [List.getLast?_cons_cons]
  rw [WordEdge, hlast]
  exact hedge

/-- The bundled rules answer about every block with the libraries that occur in it and with the
classes that it uses and the platform does not provide. -/
theorem exists_answers_bundled (block : String) :
    ∃ found, Analyzer.bundled.Answers block found ∧
      found.external = detectLibraries .bundled block ∧ ∀ x, x ∈ found.localModules ↔
        ClassText x.toList ∧ x ∉ RuleSet.platformNames ∧ Uses block.toList x.toList := by
  obtain ⟨names, hnames, -, hmem⟩ := exists_detectModules_bundled block
  have hfound : Analyzer.bundled.Finds block _ := findings_eq hnames
  exact ⟨_, hfound.answers, rfl, hmem⟩

end ModuleScript.Analysis

namespace ModuleScript.Analyzer

open Analysis

/-- What an analysis with the bundled rules finds in two blocks, it finds in the block that joins
them by a line feed: the libraries of either are among those of the joined block, in the same
order, and so are its modules. -/
theorem joined_blocks_hide_nothing (first second : String) :
    ∃ found found' joined : Findings,
      Analyzer.bundled.Answers first found ∧ Analyzer.bundled.Answers second found' ∧
      Analyzer.bundled.Answers (first ++ "\n" ++ second) joined ∧
      found.external.Sublist joined.external ∧ found'.external.Sublist joined.external ∧
      found.localModules ⊆ joined.localModules ∧ found'.localModules ⊆ joined.localModules := by
  obtain ⟨found, hfound, hlibraries, hmodules⟩ := exists_answers_bundled first
  obtain ⟨found', hfound', hlibraries', hmodules'⟩ := exists_answers_bundled second
  obtain ⟨joined, hjoined, hall, hmem⟩ := exists_answers_bundled (first ++ "\n" ++ second)
  have htext : (first ++ "\n" ++ second).toList = first.toList ++ '\n' :: second.toList := by simp
  have hbreak : Text.isWord '\n' = false := by decide +kernel
  refine ⟨found, found', joined, hfound, hfound', hjoined, ?_, ?_, fun x hx ↦ ?_, fun x hx ↦ ?_⟩
  · have h := detectLibraries_bundled_sublist "" first ("\n" ++ second)
    rwa [String.empty_append, ← String.append_assoc, ← hlibraries, ← hall] at h
  · have h := detectLibraries_bundled_sublist (first ++ "\n") second ""
    rwa [String.append_empty, ← hlibraries', ← hall] at h
  · obtain ⟨hclass, hplatform, huses⟩ := (hmodules x).mp hx
    exact (hmem x).mpr ⟨hclass, hplatform, htext ▸ huses.append_right _⟩
  · obtain ⟨hclass, hplatform, huses⟩ := (hmodules' x).mp hx
    exact (hmem x).mpr ⟨hclass, hplatform, htext ▸ huses.append_left hbreak _⟩

end ModuleScript.Analyzer
