import ModuleScript.Proofs.Stimulus.Discovery
import ModuleScript.Proofs.Stimulus.HandledLine

/-!
# The lines of a processed block

The block is trimmed before it is cut into lines and once more after the filter. Up to blanks at
their ends, the lines that come out are those of the block that the filter keeps.
-/

namespace ModuleScript.Stimulus

open Text

namespace Application

variable {a : Application} {block line : String}

/-- A processed line that is not blank is one that the filter keeps, but for blanks around it. -/
theorem exists_kept_of_mem_process (h : line ∈ lines (a.process block))
    (hne : ¬ Blanks line.toList) :
    ∃ kept ∈ lines (trim block), a.handles kept = false ∧ Padded line.toList kept.toList := by
  rw [process] at h
  obtain ⟨kept, hkept, hpad⟩ := exists_padded_of_mem_lines_trim h
  by_cases hempty : (lines (trim block)).filter (!a.handles ·) = []
  · rw [hempty] at hkept
    have hblank : Blanks kept.toList := by
      rw [List.mem_singleton.mp hkept]
      exact blanks_nil
    exact absurd (hpad.blanks_iff.mp hblank) hne
  · rw [lines_joinLines hempty fun part hpart ↦
      lineFeed_notMem_of_mem_lines (List.mem_filter.mp hpart).1] at hkept
    obtain ⟨hline, hhandled⟩ := List.mem_filter.mp hkept
    rw [Bool.not_eq_true'] at hhandled
    exact ⟨kept, hline, hhandled, hpad⟩

/-- A line of the block that is not blank is judged as it stands in the trimmed block. If the
filter keeps it there, it is a processed line, but for blanks around it. -/
theorem exists_mem_process_of_kept (h : line ∈ lines block) (hne : ¬ Blanks line.toList)
    (hkeep : ∀ inner : String, '\n' ∉ inner.toList → Padded inner.toList line.toList →
      a.handles inner = false) :
    ∃ kept ∈ lines (a.process block), trim kept = trim line := by
  obtain ⟨inner, hinner, hpad⟩ := exists_of_mem_lines_trim h hne
  have hmem : inner ∈ (lines (trim block)).filter (!a.handles ·) := by
    rw [List.mem_filter, hkeep inner (lineFeed_notMem_of_mem_lines hinner) hpad]
    exact ⟨hinner, rfl⟩
  have hlines := lines_joinLines (List.ne_nil_of_mem hmem) fun part hpart ↦
    lineFeed_notMem_of_mem_lines (List.mem_filter.mp hpart).1
  have hblank : ¬ Blanks inner.toList := fun hb ↦ hne (hpad.blanks_iff.mpr hb)
  rw [← hlines] at hmem
  obtain ⟨kept, hkept, hpad'⟩ := exists_of_mem_lines_trim hmem hblank
  exact ⟨kept, hkept, by rw [trim_eq_of_padded hpad, trim_eq_of_padded hpad']⟩

/-- Whether a text is a processed line, but for blanks around it: it has to be such a line of the
block, and the filter has to keep it whatever blanks are around it. -/
theorem exists_mem_process_iff {text : String} {isKept : Prop} (hne : ¬ Blanks text.toList)
    (hjudge : ∀ line : String, Padded text.toList line.toList → (a.handles line = false ↔ isKept)) :
    (∃ line ∈ lines (a.process block), trim line = text) ↔
      isKept ∧ ∃ line ∈ lines block, trim line = text := by
  constructor
  · rintro ⟨line, hline, rfl⟩
    have hblank : ¬ Blanks line.toList := fun hb ↦ hne ((padded_trim line).blanks_iff.mp hb)
    obtain ⟨kept, hkept, hhandled, hpad⟩ := exists_kept_of_mem_process hline hblank
    obtain ⟨whole, hwhole, hpad'⟩ := exists_padded_of_mem_lines_trim hkept
    exact ⟨(hjudge kept ((padded_trim line).trans hpad)).mp hhandled, whole, hwhole,
      by rw [trim_eq_of_padded hpad', trim_eq_of_padded hpad]⟩
  · rintro ⟨hkept, line, hline, rfl⟩
    have hblank : ¬ Blanks line.toList := fun hb ↦ hne ((padded_trim line).blanks_iff.mp hb)
    refine exists_mem_process_of_kept hline hblank fun inner _ hpad ↦ (hjudge inner ?_).mpr hkept
    rw [trim_eq_of_padded hpad]
    exact padded_trim inner

/-- No processed line starts the application. -/
theorem matchLine?_bootstrap_of_mem_process (happ : Script.isIdentifier a.name = true)
    (h : line ∈ lines (a.process block)) : matchLine? (bootstrapLine a.name) line = none := by
  rw [← Option.not_isSome_iff_eq_none]
  intro hstart
  obtain ⟨kept, hkept, hhandled, hpad⟩ :=
    exists_kept_of_mem_process h (not_blanks_of_bootstrap hstart)
  have hdropped := handles_of_bootstrap happ (lineFeed_notMem_of_mem_lines hkept)
    (isSome_bootstrapLine_of_padded hstart hpad)
  rw [hhandled] at hdropped
  exact Bool.false_ne_true hdropped

/-- No processed line registers one of the controllers. -/
theorem groupIn_registration_of_mem_process (happ : Script.isIdentifier a.name = true)
    (h : line ∈ lines (a.process block)) {m : Pattern.Match}
    (hm : matchLine? (registration a.name) (bareStatement line) = some m) :
    groupIn m 1 a.controllers = false := by
  rw [Bool.eq_false_iff]
  intro hgroup
  have hsome : (matchLine? (registration a.name) (bareStatement line)).isSome = true := by
    rw [hm]
    rfl
  obtain ⟨kept, hkept, hhandled, hpad⟩ :=
    exists_kept_of_mem_process h (not_blanks_of_registration hsome)
  rw [← bareStatement_of_padded hpad] at hm
  have hdropped := handles_of_registration happ (lineFeed_notMem_of_mem_lines hkept) hm hgroup
  rw [hhandled] at hdropped
  exact Bool.false_ne_true hdropped

/-- A processed line that imports a controller of the map or one that is imported anew imports it
from the package. -/
theorem source_of_mem_process {binding source : List Char} (h : line ∈ lines (a.process block))
    (himports : Imports line.toList (some binding) source)
    (hbinding : String.ofList binding ∈ a.mapControllers ++ a.reimported) :
    String.ofList source = coreModule := by
  obtain ⟨kept, -, hhandled, hpad⟩ :=
    exists_kept_of_mem_process h himports.beginsImport.not_blanks
  rw [a.handles_of_imports ((imports_iff_of_padded hpad).mpr himports)] at hhandled
  by_contra hsource
  rw [if_neg hsource, Option.any_some, List.contains_iff_mem.mpr hbinding, Bool.or_true] at hhandled
  exact absurd hhandled (by simp)

/-- An import line of the block whose specifier is no controller and whose binding is none that
is generated is a processed line, but for blanks around it. -/
theorem exists_mem_process_of_imports {binding source : List Char} (h : line ∈ lines block)
    (himports : Imports line.toList (some binding) source)
    (hsource : String.ofList source ∉ a.controllers)
    (hbinding : String.ofList binding ∉ a.mapControllers ++ a.reimported) :
    ∃ kept ∈ lines (a.process block), trim kept = trim line := by
  refine exists_mem_process_of_kept h himports.beginsImport.not_blanks fun inner _ hpad ↦ ?_
  have hinner := (imports_iff_of_padded hpad).mp himports
  rw [a.handles_of_imports hinner]
  split
  · rw [Bool.eq_false_iff]
    exact fun hcore ↦ not_imports_of_coreImport hcore hinner
  · rw [Option.any_some, Bool.or_eq_false_iff]
    simp only [Bool.eq_false_iff, ne_eq, List.contains_iff_mem]
    exact ⟨hsource, hbinding⟩

end Application

end ModuleScript.Stimulus
