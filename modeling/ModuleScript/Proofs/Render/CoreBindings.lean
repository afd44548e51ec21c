import ModuleScript.Proofs.Render.Controllers
import ModuleScript.Proofs.Stimulus.CoreImportLine
import ModuleScript.Proofs.Text.Words

/-!
# Names that are imported from the package

The generated import of the package has the names of all imports of the block that take names from
it. Of the lines that these names come from, the spaced ones are dropped; the others are kept, so
that their names are imported twice.
-/

namespace ModuleScript

open Text

namespace Stimulus

/-! ### Names in braces -/

theorem bindingNames_eq (braced : String) :
    bindingNames braced = (split braced ',').map singleSpaced := rfl

/-- A name in braces has single spaces only, and no character but spaces from elsewhere. -/
theorem of_mem_bindingNames {braced name : String} (h : name ∈ bindingNames braced) :
    singleSpaced name = name ∧ ',' ∉ name.toList ∧
      ∀ c ∈ name.toList, c ∈ braced.toList ∨ c = ' ' := by
  rw [bindingNames_eq, split, List.map_map] at h
  obtain ⟨part, hpart, rfl⟩ := List.mem_map.mp h
  refine ⟨singleSpaced_singleSpaced _, fun hcomma ↦ ?_, fun c hc ↦ ?_⟩
  · rcases mem_singleSpaced hcomma with hmem | hspace
    · rw [String.toList_ofList] at hmem
      exact sep_notMem_of_mem_cutAt hpart hmem
    · exact absurd hspace (by decide)
  · refine (mem_singleSpaced hc).imp_left fun hmem ↦ ?_
    rw [String.toList_ofList] at hmem
    exact mem_of_mem_cutAt hpart hmem

example :
    bindingNames " Controller as  Base , Application " = ["Controller as Base", "Application"] := by
  decide +kernel

/-- Cut at the commas, a list of names with blanks around it gives the names back. -/
private theorem map_cutAt_intercalate {v u : List Char} (hv : Blanks v) (hu : Blanks u)
    (hcomma : ',' ∉ v ++ u) {names : List String} (hne : names ≠ [])
    (h : ∀ name ∈ names, ',' ∉ name.toList) :
    (cutAt ',' (v ++ (", ".toList.intercalate (names.map String.toList) ++ u))).map
      (singleSpaced ∘ String.ofList) = names.map singleSpaced := by
  have hpad {v u : List Char} (hv : Blanks v) (hu : Blanks u) (name : String) :
      singleSpaced (String.ofList (v ++ (name.toList ++ u))) = singleSpaced name :=
    singleSpaced_of_padded ⟨v, u, hv, hu, String.toList_ofList⟩
  rw [List.mem_append, not_or] at hcomma
  induction names generalizing v with
  | nil => exact absurd rfl hne
  | cons name rest ih =>
    obtain ⟨hname, hrest⟩ := List.forall_mem_cons.mp h
    cases rest with
    | nil =>
      rw [List.map_singleton, List.intercalate_singleton,
        cutAt_of_notMem (by simp [hcomma, hname]), List.map_singleton, Function.comp_apply,
        hpad hv hu, List.map_singleton]
    | cons next rest =>
      -- the blank behind a comma belongs to the next name
      have hcut : v ++ (", ".toList.intercalate ((name :: next :: rest).map String.toList) ++ u) =
          (v ++ name.toList) ++ ',' :: ([' '] ++
            (", ".toList.intercalate ((next :: rest).map String.toList) ++ u)) := by
        simp only [List.map_cons, List.intercalate_cons_cons, List.append_assoc]
        rfl
      have hlast := hpad hv blanks_nil name
      rw [List.append_nil] at hlast
      rw [hcut, cutAt_append_sep (by simp [hcomma, hname]), List.map_cons,
        ih blanks_space ⟨by decide, hcomma.2⟩ (by simp) hrest, Function.comp_apply, hlast]
      rfl

/-- Names with commas and spaces between them are read back. -/
theorem bindingNames_joinWith {names : List String} (hne : names ≠ [])
    (h : ∀ name ∈ names, singleSpaced name = name ∧ ',' ∉ name.toList) :
    bindingNames (String.ofList (' ' :: ((joinWith ", " names).toList ++ [' ']))) = names := by
  have hcut := map_cutAt_intercalate blanks_space blanks_space (by decide) hne
    fun name hname ↦ (h name hname).2
  have hsingle : names.map singleSpaced = names.map id :=
    List.map_congr_left fun name hname ↦ (h name hname).1
  rw [bindingNames_eq, split, String.toList_ofList, List.map_map, joinWith,
    String.toList_intercalate]
  exact hcut.trans (hsingle.trans (List.map_id names))

namespace Application.Discovered

variable {a : Application} {names : List String} {block : String}

/-- The names gathered from the block are those in the braces of its imports from the package, but
for the application. -/
theorem mem_coreBindings (h : a.Discovered names block) {x : String} :
    x ∈ a.coreBindings ↔ x ≠ "" ∧ x ≠ "Application" ∧ ∃ line ∈ lines block, ∃ i : CoreImport,
      OnLine i.Text line.toList ∧ x ∈ bindingNames (String.ofList i.names) := by
  have hgather : a.coreBindings = findCoreBindings block := by
    rw [h]
    rfl
  rw [hgather, findCoreBindings, mem_foldl_addNew, List.mem_filter, List.mem_flatMap]
  simp only [List.not_mem_nil, false_or, List.mem_filterMap, CoreImport.bracedNames_eq_some_iff,
    Bool.and_eq_true, Bool.not_eq_true', bne_iff_ne]
  constructor
  · rintro ⟨⟨_, ⟨line, hline, i, hi, rfl⟩, hx⟩, hne, happ⟩
    exact ⟨by rintro rfl; exact absurd hne (by decide), happ, line, hline, i, hi, hx⟩
  · rintro ⟨hne, happ, line, hline, i, hi, hx⟩
    exact ⟨⟨_, ⟨line, hline, i, hi, rfl⟩, hx⟩, by simpa using hne, happ⟩

/-- The generated import of the package is one of names from it, with blanks in all places, and
reads as the application and the names gathered from the block. -/
theorem exists_blanks_coreImport (h : a.Discovered names block) :
    ∃ i : CoreImport, OnLine i.Text a.coreImport.toList ∧
      (i.before ≠ [] ∧ i.behind ≠ [] ∧ i.gap ≠ []) ∧
      bindingNames (String.ofList i.names) = "Application" :: a.coreBindings := by
  have hread : ∀ name ∈ "Application" :: a.coreBindings, singleSpaced name = name ∧
      ',' ∉ name.toList ∧ '\x7d' ∉ name.toList := by
    refine List.forall_mem_cons.mpr ⟨by decide +kernel, fun name hname ↦ ?_⟩
    obtain ⟨-, -, line, -, i, ⟨_, _, _, -, -, ⟨_, _, -, -, hbrace, -⟩, -⟩, hmem⟩ :=
      h.mem_coreBindings.mp hname
    obtain ⟨hsingle, hcomma, hchars⟩ := of_mem_bindingNames hmem
    refine ⟨hsingle, hcomma, fun hclose ↦ ?_⟩
    rcases hchars _ hclose with hclose | hspace
    · rw [String.toList_ofList] at hclose
      exact hbrace hclose
    · exact absurd hspace (by decide)
  let joined := (joinWith ", " ("Application" :: a.coreBindings)).toList
  have hclose : '\x7d' ∉ ' ' :: (joined ++ [' ']) := by
    have hjoined : '\x7d' ∉ joined := by
      intro hmem
      rcases mem_joinWith hmem with hsep | ⟨name, hname, hclose⟩
      · exact absurd hsep (by decide)
      · exact (hread name hname).2.2 hclose
    simp [hjoined]
  refine ⟨⟨[' '], ' ' :: (joined ++ [' ']), [' '], [' ']⟩, ⟨[], _, [';'], ?_, blanks_nil,
    ⟨'"', '"', rfl, blanks_space, hclose, blanks_space, blanks_space, rfl, rfl⟩,
    lineEnd_semicolon⟩, by simp, ?_⟩
  · rw [coreImport]
    simp [CoreImport.middle, joined]
  · exact bindingNames_joinWith (by simp) fun name hname ↦
      ⟨(hread name hname).1, (hread name hname).2.1⟩

theorem exists_coreImport (h : a.Discovered names block) :
    ∃ i : CoreImport, OnLine i.Text a.coreImport.toList ∧
      bindingNames (String.ofList i.names) = "Application" :: a.coreBindings := by
  obtain ⟨i, hi, -, hread⟩ := h.exists_blanks_coreImport
  exact ⟨i, hi, hread⟩

end Application.Discovered

/-! ### Lines that are dropped -/

/-- Of the lines that import names from the package, those that are not spaced are processed
lines, but for blanks around them. -/
theorem Application.exists_mem_process_iff_not_spaced {a : Application} {block line : String}
    {i : CoreImport} (happ : Script.isIdentifier a.name = true) (hline : line ∈ lines block)
    (hi : OnLine i.Text line.toList) :
    (∃ kept ∈ lines (a.process block), trim kept = trim line) ↔ ¬ i.Spaced := by
  have htrim : OnLine i.Text (trim line).toList :=
    (onLine_iff_of_padded i.tight (padded_trim line)).mp hi
  have hne : ¬ Blanks (trim line).toList := by
    obtain ⟨w, rest, htext, -⟩ := CoreImport.exists_behind_import htrim
    intro hblank
    rw [htext] at hblank
    exact absurd (hblank 'i' (by simp)) (by decide)
  rw [exists_mem_process_iff hne fun whole hpad ↦ by
    rw [← Bool.not_eq_true, CoreImport.handles_iff_spaced happ (htrim.padded hpad)]]
  exact and_iff_left ⟨line, hline, rfl⟩

end Stimulus

namespace Renderer

open Stimulus

variable {m : ImportMap} {names : List String} {block : String} {given : Option String}
  {analyzer : Option Analyzer} {r : Renderer}

/-- From an application and from caches with nothing in them, the imports start with that of the
package, which is read as the application and the names that the block imports from the package,
single-spaced. Of the lines that import names from it, exactly the spaced ones are dropped; the
names of every other one are imported by the generated import and by the kept line. -/
theorem spaced_core_imports_are_dropped (hr : stimulus? m.names block given analyzer = .ok r) :
    ∃ a : Application, r.kind = .stimulus a ∧
      (∀ statements, a.importLines m.entries = .ok statements →
        statements.head? = some a.coreImport ∧ ∀ s : Store, s.Cold →
          ((r.imports m).run s).1 = .ok (.text (joinLines statements))) ∧
      (∃ i : CoreImport, OnLine i.Text a.coreImport.toList ∧
        bindingNames (String.ofList i.names) = "Application" :: a.coreBindings) ∧
      (∀ line, (matchLine? coreImportLine line).isSome = true ↔
        ∃ i : CoreImport, OnLine i.Text line.toList) ∧
      (∀ x, x ∈ a.coreBindings ↔ x ≠ "" ∧ x ≠ "Application" ∧
        ∃ line ∈ lines block, ∃ i : CoreImport, OnLine i.Text line.toList ∧
          x ∈ bindingNames (String.ofList i.names)) ∧
      ∀ line ∈ lines block, ∀ i : CoreImport, OnLine i.Text line.toList →
        ((∃ kept ∈ lines (r.process block), trim kept = trim line) ↔ ¬ i.Spaced) := by
  obtain ⟨a, happ, ha, rfl⟩ := exists_discovered hr
  refine ⟨a, rfl, fun statements h ↦ ⟨?_, fun s hs ↦ run_imports_of_cold rfl h hs⟩,
    ha.exists_coreImport, fun line ↦ CoreImport.isSome_coreImportLine_iff,
    fun x ↦ ha.mem_coreBindings,
    fun line hline i hi ↦ Application.exists_mem_process_iff_not_spaced happ hline hi⟩
  obtain ⟨others, -, rfl⟩ := Application.importLines_eq_ok_iff.mp h
  rfl

/-- The names of two imports are in the generated one; the line without a blank before the package
is kept nevertheless. -/
theorem values_are_imported_twice :
    ∃ (m : ImportMap) (block : String) (r : Renderer),
      stimulus? m.names block none none = .ok r ∧
      ∃ a : Application, r.kind = .stimulus a ∧ a.coreBindings = ["Controller", "add as plus"] ∧
        (∃ i : CoreImport, OnLine i.Text a.coreImport.toList ∧
          bindingNames (String.ofList i.names) = ["Application", "Controller", "add as plus"]) ∧
        (¬ ∃ kept ∈ lines (r.process block),
          trim kept = "import { Controller } from '@hotwired/stimulus';") ∧
        ∃ kept ∈ lines (r.process block),
          trim kept = "import { add  as plus } from'@hotwired/stimulus'" := by
  let block := "import { Controller } from '@hotwired/stimulus';\n" ++
    "import { add  as plus } from'@hotwired/stimulus' \nrun();"
  have happ : Script.isIdentifier (nameOr "application" none) = true := by decide +kernel
  have hr := stimulus?_of_isIdentifier ({} : ImportMap).names block none happ
  obtain ⟨a, hkind, -, hcore, hform, -, hdropped⟩ := spaced_core_imports_are_dropped hr
  have hbindings : a.coreBindings = ["Controller", "add as plus"] := by
    obtain rfl := RendererKind.stimulus.inj hkind
    decide +kernel
  let spaced : CoreImport := ⟨[' '], " Controller ".toList, [' '], [' ']⟩
  let narrow : CoreImport := ⟨[' '], " add  as plus ".toList, [' '], []⟩
  have hspaced : OnLine spaced.Text "import { Controller } from '@hotwired/stimulus';".toList :=
    ⟨[], _, [';'], by simp; rfl, blanks_nil, ⟨'\'', '\'', rfl, by decide, by decide, by decide,
      by decide, rfl, rfl⟩, [], [], blanks_nil, blanks_nil, .inr rfl⟩
  have hnarrow : OnLine narrow.Text "import { add  as plus } from'@hotwired/stimulus' ".toList :=
    ⟨[], _, [' '], by simp; rfl, blanks_nil, ⟨'\'', '\'', rfl, by decide, by decide, by decide,
      by decide, rfl, rfl⟩, [' '], [], by decide, blanks_nil, .inl rfl⟩
  rw [hbindings] at hcore
  have hgone := (hdropped _ (by decide +kernel) spaced hspaced).not.mpr (by decide)
  have hkept := (hdropped _ (by decide +kernel) narrow hnarrow).mpr (by decide)
  have htrim : trim "import { Controller } from '@hotwired/stimulus';" =
      "import { Controller } from '@hotwired/stimulus';" ∧
      trim "import { add  as plus } from'@hotwired/stimulus' " =
        "import { add  as plus } from'@hotwired/stimulus'" := by decide +kernel
  rw [htrim.1] at hgone
  rw [htrim.2] at hkept
  exact ⟨{}, block, _, hr, a, hkind, hbindings, hcore, hgone, hkept⟩

end Renderer

end ModuleScript
