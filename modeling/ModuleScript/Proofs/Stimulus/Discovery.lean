import ModuleScript.Proofs.Data.FirstOccurrence
import ModuleScript.Proofs.Pattern.Kept
import ModuleScript.Proofs.Stimulus.ImportLine
import ModuleScript.Stimulus.Statement

/-!
# What discovery finds

The controllers of a block are identifiers, each found once and none of them known before. Those
whose import is written anew are told by the import lines of the block. Different controllers
have different registrations.
-/

namespace ModuleScript.Stimulus

open Pattern Pattern.Node Text Script

/-! ### Names that are added once -/

/-- Adding a name unless it is there already. -/
theorem mem_addNew {names : List String} {name x : String} :
    x ∈ Analysis.addNew names name ↔ x ∈ names ∨ x = name := by
  rw [Analysis.addNew]
  split
  next h =>
    rw [List.contains_iff_mem] at h
    exact ⟨.inl, fun hx ↦ hx.elim id fun hx ↦ hx ▸ h⟩
  next => simp

/-- A name that is there already changes nothing. -/
theorem addNew_of_mem {names : List String} {name : String} (h : name ∈ names) :
    Analysis.addNew names name = names := by
  rw [Analysis.addNew, if_pos (List.contains_iff_mem.mpr h)]

theorem foldl_addNew_of_subset {names found : List String} (h : names ⊆ found) :
    names.foldl Analysis.addNew found = found := by
  induction names with
  | nil => rfl
  | cons name names ih =>
    rw [List.cons_subset] at h
    rw [List.foldl_cons, addNew_of_mem h.1, ih h.2]

theorem mem_foldl_addNew {names found : List String} {x : String} :
    x ∈ names.foldl Analysis.addNew found ↔ x ∈ found ∨ x ∈ names := by
  induction names generalizing found with
  | nil => simp
  | cons name names ih => rw [List.foldl_cons, ih, mem_addNew, List.mem_cons, or_assoc]

/-- Adding names that are new keeps the first occurrence of each. -/
theorem foldl_addNew (names : List String) : names.foldl Analysis.addNew [] = names.eraseDups := by
  induction names using List.reverseRecOn with
  | nil => rfl
  | append_singleton names name ih =>
    rw [List.foldl_append, ih, FirstOccurrence.eraseDups_concat, List.foldl_cons, List.foldl_nil,
      Analysis.addNew]
    simp only [List.contains_iff_mem, List.mem_eraseDups]

theorem nodup_foldl_addNew {names found : List String} (h : found.Nodup) :
    (names.foldl Analysis.addNew found).Nodup := by
  refine List.foldlRecOn names Analysis.addNew h ?_
  intro found hfound name _
  rw [Analysis.addNew]
  split
  · exact hfound
  next hnew =>
    rw [List.contains_iff_mem] at hnew
    exact List.nodup_append.mpr ⟨hfound, by simp, by rintro a ha b hb rfl; simp_all⟩

/-! ### The controllers of a block -/

private theorem bodies_registration (application : String) :
    (registration application).bodies 1 = [Script.identifier] := by
  simp only [registration, bodies_concat_append, bodies_letters]
  change ((literal "Stimulus").bodies 1 ++ (literal application).bodies 1 ++ _) ++ _ ++ _ = _
  rw [bodies_literal, bodies_literal]
  rfl

private theorem bodies_defaultImport : defaultImport.bodies 1 = [Script.identifier] := rfl

/-- The first groups of the matches of a form that keeps identifiers are identifiers. -/
private theorem identifierText_of_mem_namedPlaces {form : Node} {block name : String} {place : Nat}
    (hform : form.bodies 1 = [Script.identifier]) (h : (place, name) ∈ namedPlaces form block) :
    IdentifierText name.toList := by
  obtain ⟨m, hm, hgroup⟩ := List.mem_filterMap.mp h
  obtain ⟨_, hkept, heq⟩ := Option.map_eq_some_iff.mp hgroup
  obtain ⟨-, rfl⟩ := Prod.mk.inj heq
  obtain ⟨span, ⟨body, hbody, t, t', ht, rfl⟩, rfl⟩ := readBy_of_mem_scan hm hkept
  rw [hform, List.mem_singleton] at hbody
  subst hbody
  obtain ⟨w, rest, hrest, hw, rfl⟩ := mem_ends_identifier.mp ht
  have hlength : (t.after w rest []).offset - t.offset = w.length := by simp [State.after]
  rw [hlength, hrest, Span.text_append, String.toList_ofList]
  exact hw

/-- The controllers that a block registers or imports have the form of identifiers. -/
theorem identifierText_of_mem_controllerPlaces {application block name : String} {place : Nat}
    (h : (place, name) ∈ controllerPlaces application block) : IdentifierText name.toList := by
  rcases List.mem_append.mp h with h | h
  · exact identifierText_of_mem_namedPlaces (bodies_registration application) h
  · exact identifierText_of_mem_namedPlaces bodies_defaultImport (List.mem_filter.mp h).1

/-- Names that are found once each, among candidates and not among those known already. -/
structure Fresh (known : List String) (candidate : String → Prop) (found : List String) :
    Prop where
  nodup : found.Nodup
  notKnown : ∀ x ∈ found, x ∉ known
  candidate : ∀ x ∈ found, candidate x

/-- A name that a block registers or imports and that has an identifier. -/
def Candidate (application block name : String) : Prop :=
  (identifier name).isEmpty = false ∧ ∃ place, (place, name) ∈ controllerPlaces application block

/-- Discovery keeps the first of every name that is not known and has an identifier, in the order of
the places. -/
theorem discoverControllers_eq (known : List String) (application block : String) :
    discoverControllers known application block =
      (((sortByPlace (controllerPlaces application block)).map (·.2)).filter fun name ↦
        !(known.contains name || (identifier name).isEmpty)).eraseDups := by
  rw [discoverControllers, ← foldl_addNew, List.foldl_filter, List.foldl_map]
  refine List.foldl_ext _ _ _ fun found ⟨place, name⟩ _ ↦ ?_
  dsimp only [Analysis.addNew]
  cases known.contains name <;> cases found.contains name <;>
    cases (identifier name).isEmpty <;> rfl

/-- A controller is found in a block exactly if the block names it, it is new and it has an
identifier. -/
theorem mem_discoverControllers {known : List String} {application block x : String} :
    x ∈ discoverControllers known application block ↔
      x ∉ known ∧ Candidate application block x := by
  simp only [discoverControllers_eq, List.mem_eraseDups, List.mem_filter, List.mem_map, sortByPlace,
    (Sorting.sortBy_perm _ _).mem_iff, Prod.exists, exists_eq_right, Bool.not_eq_true',
    Bool.or_eq_false_iff, Candidate]
  rw [Bool.eq_false_iff, ne_eq, List.contains_iff_mem]
  exact and_rotate

/-- The controllers found in a block are new and come from it. -/
theorem fresh_discoverControllers (known : List String) (application block : String) :
    Fresh known (Candidate application block) (discoverControllers known application block) where
  nodup := by
    rw [discoverControllers_eq]
    exact FirstOccurrence.nodup_eraseDups _
  notKnown _ hx := (mem_discoverControllers.mp hx).1
  candidate _ hx := (mem_discoverControllers.mp hx).2

/-! ### Imports that are written anew -/

/-- The controller whose import on a line is written anew. -/
def reimportedOn (controllers blockControllers : List String) (line : String) : Option String :=
  match matchLine? importLine line with
  | none => none
  | some m =>
    match m.group? 1, m.group? 2 with
    | some binding, some source =>
      if blockControllers.contains binding && controllers.contains source then some binding
      else none
    | _, _ => none

/-- The imports that are written anew are gathered line by line. -/
theorem findReimported_eq (controllers blockControllers : List String) (block : String) :
    findReimported controllers blockControllers block =
      ((lines block).filterMap (reimportedOn controllers blockControllers)).foldl
        Analysis.addNew [] := by
  rw [findReimported, List.foldl_filterMap]
  congr 1
  funext found line
  rw [reimportedOn]
  cases matchLine? importLine line with
  | none => rfl
  | some m =>
    cases h₁ : m.group? 1 with
    | none => simp only [h₁]
    | some binding =>
      cases h₂ : m.group? 2 with
      | none => simp only [h₁, h₂]
      | some source =>
        simp only [h₁, h₂]
        split <;> rfl

theorem reimportedOn_eq_some_iff {controllers blockControllers : List String} {line x : String} :
    reimportedOn controllers blockControllers line = some x ↔ x ∈ blockControllers ∧
      ∃ source, Imports line.toList (some x.toList) source ∧
        String.ofList source ∈ controllers := by
  constructor
  · intro h
    rw [reimportedOn] at h
    cases hm : matchLine? importLine line with
    | none => simp [hm] at h
    | some m =>
      obtain ⟨binding, source, himports, h₁, h₂⟩ := imports_of_matchLine? hm
      cases binding with
      | none => simp [hm, h₁] at h
      | some binding =>
        simp only [hm, h₁, h₂, Option.map_some, Bool.and_eq_true, List.contains_iff_mem] at h
        split at h
        next hboth =>
          obtain rfl := Option.some.inj h
          refine ⟨hboth.1, source, ?_, hboth.2⟩
          rwa [String.toList_ofList]
        next => exact absurd h (by simp)
  · rintro ⟨hx, source, himports, hsource⟩
    obtain ⟨m, hm, h₁, h₂⟩ := exists_match_iff_imports.mpr himports
    rw [Option.map_some, String.ofList_toList] at h₁
    simp [reimportedOn, hm, h₁, h₂, hx, hsource]

/-- A controller of the block is imported anew exactly if a line imports it by the name of a
controller. -/
theorem mem_findReimported {controllers blockControllers : List String} {block x : String} :
    x ∈ findReimported controllers blockControllers block ↔ x ∈ blockControllers ∧
      ∃ line ∈ lines block, ∃ source, Imports line.toList (some x.toList) source ∧
        String.ofList source ∈ controllers := by
  rw [findReimported_eq, mem_foldl_addNew, List.mem_filterMap]
  simp only [List.not_mem_nil, false_or, reimportedOn_eq_some_iff]
  constructor
  · rintro ⟨line, hline, hx, himports⟩
    exact ⟨hx, line, hline, himports⟩
  · rintro ⟨hx, line, hline, himports⟩
    exact ⟨line, hline, hx, himports⟩

/-! ### Registrations -/

/-- Controllers without quotation marks in their names have different registrations. -/
theorem Application.registrationLine_inj (a : Application) {x y : String}
    (hx : ∀ c ∈ x.toList, isQuote c = false) (hy : ∀ c ∈ y.toList, isQuote c = false)
    (h : a.registrationLine x = a.registrationLine y) : x = y := by
  have htext (z : String) : ∃ u, (a.registrationLine z).toList =
      u ++ '"' :: (", ".toList ++ (z.toList ++ ");".toList)) :=
    ⟨a.name.toList ++ (".register(\"".toList ++ (identifier z).toList), by
      simp [registrationLine, toString]⟩
  obtain ⟨u, hu⟩ := htext x
  obtain ⟨v, hv⟩ := htext y
  have plain {z : String} (hz : ∀ c ∈ z.toList, isQuote c = false) :
      ∀ c ∈ ", ".toList ++ (z.toList ++ ");".toList), isQuote c = false := by
    have hcomma : ∀ c ∈ ", ".toList, isQuote c = false := by simp [isQuote]
    have hclose : ∀ c ∈ ");".toList, isQuote c = false := by simp [isQuote]
    exact List.forall_mem_append.mpr ⟨hcomma, List.forall_mem_append.mpr ⟨hz, hclose⟩⟩
  rw [h] at hu
  have hend := (lastQuote_inj rfl rfl (plain hx) (plain hy) (hu.symm.trans hv)).2
  exact String.toList_inj.mp (List.append_cancel_right (List.append_cancel_left hend))

/-! ### The controllers of an application -/

/-- A quotation mark ends a name. -/
theorem isQuote_of_isPart {c : Char} (h : isPart c = true ∨ c = '\n') :
    isQuote c = false := by
  have hdouble : isPart '"' = false := by decide +kernel
  have hsingle : isPart '\'' = false := by decide +kernel
  rw [isQuote, Bool.or_eq_false_iff, beq_eq_false_iff_ne, beq_eq_false_iff_ne]
  rcases h with h | rfl
  · constructor
    · rintro rfl
      exact Bool.false_ne_true (hdouble.symm.trans h)
    · rintro rfl
      exact Bool.false_ne_true (hsingle.symm.trans h)
  · decide

/-- No quotation mark stands within a name that is accepted for a controller. -/
theorem isQuote_eq_false_of_isControllerName {name : String} (h : isControllerName name = true) :
    ∀ c ∈ name.toList, isQuote c = false := fun _ hc ↦
  isQuote_of_isPart (isPart_or_lineFeed_of_isIdentifier (isIdentifier_of_isControllerName h) hc)

variable {a : Application} {names : List String} {block : String}

/-- An application as it is discovered over the names of a map and a block. -/
def Application.Discovered (a : Application) (names : List String) (block : String) : Prop :=
  a = .discover a.name names block

namespace Application.Discovered

theorem mapControllers_eq (h : a.Discovered names block) :
    a.mapControllers = names.filter isControllerName := by rw [h]; rfl

theorem fresh_blockControllers (h : a.Discovered names block) :
    Fresh a.mapControllers (Candidate a.name block) a.blockControllers := by
  rw [h]
  exact fresh_discoverControllers _ _ _

/-- What is imported anew is told by the import lines. -/
theorem mem_reimported (h : a.Discovered names block) {x : String} :
    x ∈ a.reimported ↔ x ∈ a.blockControllers ∧
      ∃ line ∈ lines block, ∃ source, Imports line.toList (some x.toList) source ∧
        String.ofList source ∈ a.controllers := by
  rw [h]
  exact mem_findReimported

/-- No quotation mark stands within the name of a controller. -/
theorem isQuote_eq_false (h : a.Discovered names block) {x : String} (hx : x ∈ a.controllers) :
    ∀ c ∈ x.toList, isQuote c = false := by
  intro c hc
  rcases List.mem_append.mp hx with hx | hx
  · rw [h.mapControllers_eq] at hx
    exact isQuote_eq_false_of_isControllerName (List.mem_filter.mp hx).2 c hc
  · obtain ⟨-, place, hplace⟩ := h.fresh_blockControllers.candidate x hx
    exact isQuote_of_isPart (.inl ((identifierText_of_mem_controllerPlaces hplace).isPart hc))

/-- Where names are not repeated, controllers are not either. -/
theorem nodup_controllers (h : a.Discovered names block) (hnames : names.Nodup) :
    a.controllers.Nodup := by
  refine List.nodup_append.mpr ⟨?_, h.fresh_blockControllers.nodup, ?_⟩
  · rw [h.mapControllers_eq]
    exact hnames.filter _
  · rintro x hmap y hblock rfl
    exact h.fresh_blockControllers.notKnown x hblock hmap

/-- And no registration is. -/
theorem nodup_registrationLines (h : a.Discovered names block) (hnames : names.Nodup) :
    (a.controllers.map a.registrationLine).Nodup := by
  rw [List.Nodup, List.pairwise_map]
  refine (h.nodup_controllers hnames).imp_of_mem fun hx hy hne heq ↦ hne ?_
  exact a.registrationLine_inj (h.isQuote_eq_false hx) (h.isQuote_eq_false hy) heq

end Application.Discovered

end ModuleScript.Stimulus
