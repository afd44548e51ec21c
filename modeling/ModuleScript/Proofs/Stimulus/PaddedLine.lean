import ModuleScript.Proofs.Stimulus.CoreImportLine

/-!
# The filter and blanks around a line

The filter asks what is imported on a line, whether it starts the application and which controller
it registers. Each of these statements starts and ends with a character that is no blank, so that
blanks around the line change none of the answers. A line of blanks is always kept.
-/

namespace ModuleScript.Stimulus

open Pattern Pattern.Node Text Script

/-! ### The statements on a line -/

/-- The start of an application begins with a letter and ends with a bracket. -/
theorem tight_startText {application : String} (happ : isIdentifier application = true) :
    Tight (StartText application.toList) where
  first := by
    rintro x ⟨subject, w₁, w₂, rfl, hsubject, -⟩
    rcases hsubject with ⟨word, _, _, _, rfl, rfl | rfl | rfl, -⟩ | rfl | rfl
    · exact ⟨'c', _, rfl, by decide⟩
    · exact ⟨'l', _, rfl, by decide⟩
    · exact ⟨'v', _, rfl, by decide⟩
    · exact ⟨'A', _, rfl, by decide⟩
    · obtain ⟨name, t, hname, ⟨c, cs, rfl, hc, -⟩, -⟩ := (isIdentifier_iff application).mp happ
      rw [hname]
      exact ⟨c, _, rfl, by simpa using isBlank_of_isStart hc⟩
  last := by
    rintro x ⟨subject, w₁, w₂, rfl, -⟩
    exact ⟨subject ++ (".start".toList ++ (w₁ ++ '(' :: w₂)), ')', by simp, by decide⟩

variable {inner whole line : String}

/-- A line is no import with a clause if it imports nothing so. -/
theorem matchLine?_importLine_eq_none_iff : matchLine? importLine line = none ↔
    ∀ binding source, ¬ Imports line.toList binding source := by
  rw [Option.eq_none_iff_forall_ne_some]
  constructor
  · intro hnone binding source himports
    obtain ⟨m, hm, -⟩ := exists_match_iff_imports.mpr himports
    exact hnone m hm
  · intro hnone m hm
    obtain ⟨binding, source, himports, -⟩ := imports_of_matchLine? hm
    exact hnone binding source himports

/-- Blanks around a line do not make it an import from the package. -/
theorem isSome_coreImportLine_of_padded (hpad : Padded inner.toList whole.toList) :
    (matchLine? coreImportLine whole).isSome = (matchLine? coreImportLine inner).isSome := by
  rw [Bool.eq_iff_iff, CoreImport.isSome_coreImportLine_iff, CoreImport.isSome_coreImportLine_iff]
  exact exists_congr fun i ↦ onLine_iff_of_padded i.tight hpad

/-- Nor do they make it a start of the application. -/
theorem isSome_bootstrapLine_eq_of_padded {application : String}
    (happ : isIdentifier application = true) (hpad : Padded inner.toList whole.toList) :
    (matchLine? (bootstrapLine application) whole).isSome =
      (matchLine? (bootstrapLine application) inner).isSome := by
  rw [Bool.eq_iff_iff, isSome_bootstrapLine_iff, isSome_bootstrapLine_iff]
  exact onLine_iff_of_padded (tight_startText happ) hpad

namespace Application

variable {a : Application}

/-! ### The answer of the filter -/

/-- An import without bindings is judged by its specifier. -/
theorem handles_of_sideEffect {source : List Char}
    (hnone : ∀ binding source, ¬ Imports line.toList binding source)
    (h : OnLine (SideEffectText source) line.toList) :
    a.handles line = (coreModule :: a.controllers).contains (String.ofList source) := by
  obtain ⟨m, hm⟩ := Option.isSome_iff_exists.mp (isSome_sideEffectLine_iff.mpr ⟨source, h⟩)
  rw [handles, matchLine?_importLine_eq_none_iff.mpr hnone]
  simp only [hm, groupIn, group?_of_sideEffect hm h, Option.any_some]

/-- Blanks around a line make no difference to the filter. -/
theorem handles_of_padded (happ : isIdentifier a.name = true)
    (hpad : Padded inner.toList whole.toList) : a.handles whole = a.handles inner := by
  by_cases himports : ∃ binding source, Imports inner.toList binding source
  · obtain ⟨binding, source, hinner⟩ := himports
    rw [a.handles_of_imports hinner, a.handles_of_imports ((imports_iff_of_padded hpad).mpr hinner),
      isSome_coreImportLine_of_padded hpad]
  · have hinner : ∀ binding source, ¬ Imports inner.toList binding source := by
      simpa using himports
    have hwhole : ∀ binding source, ¬ Imports whole.toList binding source :=
      fun binding source h ↦ hinner binding source ((imports_iff_of_padded hpad).mp h)
    by_cases hside : ∃ source, OnLine (SideEffectText source) inner.toList
    · obtain ⟨source, hsource⟩ := hside
      rw [handles_of_sideEffect hinner hsource,
        handles_of_sideEffect hwhole (hsource.padded hpad)]
    · have hside' : ¬ ∃ source, OnLine (SideEffectText source) whole.toList := by
        simpa only [onLine_iff_of_padded (tight_sideEffectText _) hpad] using hside
      rw [a.handles_of_no_import (matchLine?_importLine_eq_none_iff.mpr hinner)
          (Option.not_isSome_iff_eq_none.mp (mt isSome_sideEffectLine_iff.mp hside)),
        a.handles_of_no_import (matchLine?_importLine_eq_none_iff.mpr hwhole)
          (Option.not_isSome_iff_eq_none.mp (mt isSome_sideEffectLine_iff.mp hside')),
        isSome_bootstrapLine_eq_of_padded happ hpad, bareStatement_of_padded hpad]

/-- A line of blanks is kept. -/
theorem handles_of_blanks (h : Blanks line.toList) : a.handles line = false := by
  rw [a.handles_of_not_import fun himport ↦ himport.1.not_blanks h]
  have hstart : (matchLine? (bootstrapLine a.name) line).isSome = false :=
    Bool.eq_false_iff.mpr fun hstart ↦ not_blanks_of_bootstrap hstart h
  have hregistration : matchLine? (registration a.name) (bareStatement line) = none :=
    Option.not_isSome_iff_eq_none.mp fun hcall ↦ not_blanks_of_registration hcall h
  rw [hstart, hregistration, Option.any_none, Bool.or_false]

end Application

end ModuleScript.Stimulus
