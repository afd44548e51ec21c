import ModuleScript.Proofs.Stimulus.Discovery
import ModuleScript.Proofs.Text.Lowercase

/-!
# Keys of controllers

A controller is registered under its identifier as the key. Every controller of an application that
has no line feed in its name is an identifier of the language, and its key can stand between
quotation marks: it is not empty, and its marks are hyphens or come from the name.
-/

namespace ModuleScript.Stimulus

open Pattern Pattern.Node Text Script

/-- What is left of a name comes from it. -/
theorem mem_of_mem_dropSuffix {cs : List Char} {c : Char} (h : c ∈ dropSuffix cs) : c ∈ cs := by
  rw [dropSuffix] at h
  split at h
  · exact List.mem_of_mem_take h
  · exact h

/-- Apart from hyphens, the marks below the digits and the line breaks in a key come from the
name. -/
theorem mem_of_mem_identifier {name : String} {d : Char} (hd : Caseless d) (hne : d ≠ '-')
    (h : d ∈ (identifier name).toList) : d ∈ name.toList := by
  rw [identifier, String.toList_ofList] at h
  have hlowered := mem_of_mem_lowerFrom hd ((List.dropWhile_sublist _).subset h)
  obtain ⟨c, hc, hform⟩ := List.mem_flatMap.mp hlowered
  have hdc : d = c := by
    split at hform
    · simpa [hne] using hform
    · exact List.mem_singleton.mp hform
  exact hdc ▸ mem_of_mem_dropSuffix hc

/-- A name with something else than hyphens before the word for a controller has a key. -/
theorem identifier_ne_nil {name : String} {c : Char} (hc : c ∈ dropSuffix name.toList)
    (hne : c ≠ '-') : (identifier name).toList ≠ [] := by
  have hhyphenated : c ∈ hyphenate (dropSuffix name.toList) := by
    refine List.mem_flatMap.mpr ⟨c, hc, ?_⟩
    split <;> simp
  obtain ⟨d, hd, hdne⟩ : ∃ d ∈ lowerFrom [] (hyphenate (dropSuffix name.toList)), d ≠ '-' :=
    exists_ne_mem_lowerFrom (by decide) hhyphenated hne
  rw [identifier, String.toList_ofList]
  intro hnil
  exact hdne (by simpa using List.dropWhile_eq_nil_iff.mp hnil d hd)

theorem dropSuffix_append (cs : List Char) : dropSuffix (cs ++ "Controller".toList) = cs := by
  have hsuffix : "Controller".toList.isSuffixOf (cs ++ "Controller".toList) = true := by
    rw [List.isSuffixOf_iff_suffix]
    exact List.suffix_append cs _
  simp only [dropSuffix, hsuffix, if_true]
  simp

/-- A name is what is left of it, or that and the word for a controller. -/
theorem eq_dropSuffix_or (cs : List Char) :
    cs = dropSuffix cs ∨ cs = dropSuffix cs ++ "Controller".toList := by
  by_cases hsuffix : "Controller".toList.isSuffixOf cs = true
  · obtain ⟨u, rfl⟩ := List.isSuffixOf_iff_suffix.mp hsuffix
    exact .inr (by rw [dropSuffix_append])
  · exact .inl (by simp only [dropSuffix, hsuffix]; rfl)

/-- An identifier has no key exactly if it is the word for a controller and nothing else. -/
theorem identifier_eq_empty_iff {name : String} (h : IdentifierText name.toList) :
    identifier name = "" ↔ name = "Controller" := by
  constructor
  · intro hempty
    have hnil : dropSuffix name.toList = [] := by
      rw [List.eq_nil_iff_forall_not_mem]
      intro c hc
      have hhyphen : c ≠ '-' := fun heq ↦
        h.notMem (by decide +kernel) (heq ▸ mem_of_mem_dropSuffix hc)
      exact identifier_ne_nil hc hhyphen (by rw [hempty]; rfl)
    rcases eq_dropSuffix_or name.toList with heq | heq
    · obtain ⟨c, w, hname, -⟩ := h
      rw [heq, hnil] at hname
      exact absurd hname (by simp)
    · rw [hnil, List.nil_append] at heq
      exact String.toList_inj.mp heq
  · rintro rfl
    decide +kernel

/-- A name that is accepted for a controller and has no line feed has a key. -/
theorem identifier_ne_nil_of_isControllerName {name : String} (h : isControllerName name = true)
    (hline : '\n' ∉ name.toList) : (identifier name).toList ≠ [] := by
  obtain ⟨c, w, t, hname, hc, -, rfl | rfl⟩ := (isControllerName_iff name).mp h
  · refine identifier_ne_nil (c := c) ?_ ?_
    · rw [hname, List.append_nil, ← List.cons_append, dropSuffix_append]
      exact List.mem_cons_self
    · rintro rfl
      exact absurd hc (by decide)
  · exact absurd (by simp [hname]) hline

/-- An accepted name without line feeds is an identifier to its end. -/
theorem identifierText_of_isIdentifier {name : String} (h : isIdentifier name = true)
    (hline : '\n' ∉ name.toList) : IdentifierText name.toList := by
  obtain ⟨w, t, hname, hw, rfl | rfl⟩ := (isIdentifier_iff name).mp h
  · rwa [hname, List.append_nil]
  · exact absurd (by simp [hname]) hline

namespace Application

variable {a : Application} {names : List String} {block x : String}

/-- A controller without line feeds is an identifier. -/
theorem Discovered.identifierText (h : a.Discovered names block) (hx : x ∈ a.controllers)
    (hline : '\n' ∉ x.toList) : IdentifierText x.toList := by
  rcases List.mem_append.mp hx with hx | hx
  · rw [h.mapControllers_eq] at hx
    exact identifierText_of_isIdentifier
      (isIdentifier_of_isControllerName (List.mem_filter.mp hx).2) hline
  · obtain ⟨-, place, hplace⟩ := h.fresh_blockControllers.candidate x hx
    exact identifierText_of_mem_controllerPlaces hplace

/-- Its key reads as a specifier. -/
theorem Discovered.specifierText_identifier (h : a.Discovered names block)
    (hx : x ∈ a.controllers) (hline : '\n' ∉ x.toList) :
    SpecifierText (identifier x).toList := by
  refine ⟨?_, fun c hc ↦ ?_⟩
  · rcases List.mem_append.mp hx with hx | hx
    · rw [h.mapControllers_eq] at hx
      exact identifier_ne_nil_of_isControllerName (List.mem_filter.mp hx).2 hline
    · intro hnil
      have hsome := (h.fresh_blockControllers.candidate x hx).1
      rw [String.toList_eq_nil_iff.mp hnil] at hsome
      exact absurd hsome (by decide)
  · rw [Bool.eq_false_iff]
    intro hquote
    have hmark : Caseless c ∧ c ≠ '-' := by
      rw [isQuote, Bool.or_eq_true, beq_iff_eq, beq_iff_eq] at hquote
      rcases hquote with rfl | rfl <;> decide
    have hname := h.isQuote_eq_false hx c (mem_of_mem_identifier hmark.1 hmark.2 hc)
    rw [hquote] at hname
    exact Bool.false_ne_true hname.symm

end Application

end ModuleScript.Stimulus
