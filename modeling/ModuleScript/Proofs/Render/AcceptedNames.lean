import ModuleScript.Proofs.Render.Controllers
import ModuleScript.Proofs.Script.Grammar
import ModuleScript.Proofs.Stimulus.ControllerKeys

/-!
# Names that break a line

The only line break in an accepted name is a line feed at its end. What is written of such names,
their imports, the start of an application and the registrations of its controllers, is a single
line exactly if none of them ends in a line feed.
-/

namespace ModuleScript

namespace Text

/-! ### Line breaks -/

/-- The characters at which a text is broken into lines. -/
def lineBreakTable : CharRanges where
  ranges := [(0xa, 0xd), (0x1c, 0x1e), (0x85, 0x85), (0x2028, 0x2029)]

/-- Whether a character breaks a line. -/
def isLineBreak (c : Char) : Bool := lineBreakTable.contains c

private theorem lineBreak_points : ∀ n ∈ lineBreakTable.points,
    isBlank (Char.ofNat n) = true ∧ Caseless (Char.ofNat n) ∧ Char.ofNat n ≠ '-' := by
  decide +kernel

/-- A line break is blank, and a mark without case. -/
theorem of_isLineBreak {c : Char} (h : isLineBreak c = true) :
    isBlank c = true ∧ Caseless c ∧ c ≠ '-' :=
  CharRanges.forall_of_points (p := fun c ↦ isBlank c = true ∧ Caseless c ∧ c ≠ '-')
    lineBreak_points h

/-- No character breaks the line. -/
def Unbroken (cs : List Char) : Prop := ∀ c ∈ cs, isLineBreak c = false

instance (cs : List Char) : Decidable (Unbroken cs) := List.decidableBAll _ cs

theorem unbroken_append {cs ds : List Char} : Unbroken (cs ++ ds) ↔ Unbroken cs ∧ Unbroken ds :=
  List.forall_mem_append

end Text

namespace Script

open Text

variable {name : String}

/-- An identifier is a single line. -/
theorem IdentifierText.unbroken {cs : List Char} (h : IdentifierText cs) : Unbroken cs := by
  intro c hc
  rw [Bool.eq_false_iff]
  intro hbreak
  have hpart := h.isPart hc
  rw [isPart_of_isBlank (of_isLineBreak hbreak).1] at hpart
  exact Bool.false_ne_true hpart

/-- An accepted name is a single line unless it ends in a line feed. -/
theorem unbroken_iff_of_isIdentifier (h : isIdentifier name = true) :
    Unbroken name.toList ↔ name.toList.getLast? ≠ some '\n' := by
  obtain ⟨w, t, hname, hw, ht⟩ := (isIdentifier_iff name).mp h
  have hfeed : isLineBreak '\n' = true := by decide
  have hinner : '\n' ∉ w := fun hmem ↦ by
    have := hw.unbroken '\n' hmem
    rw [hfeed] at this
    exact Bool.false_ne_true this.symm
  rw [hname]
  rcases ht with rfl | rfl
  · rw [List.append_nil]
    exact iff_of_true hw.unbroken fun hlast ↦ hinner (List.mem_of_getLast? hlast)
  · rw [List.getLast?_concat]
    refine iff_of_false (fun hline ↦ ?_) (fun hne ↦ hne rfl)
    have := hline '\n' (by simp)
    rw [hfeed] at this
    exact Bool.false_ne_true this.symm

/-- The import of a name is a single line exactly if the name is. -/
theorem unbroken_importStatement_iff (name : String) :
    Unbroken (importStatement name).toList ↔ Unbroken name.toList := by
  have hwords : Unbroken "import ".toList ∧ Unbroken " from \"".toList ∧
      Unbroken "import \"".toList ∧ Unbroken "\";".toList := by decide
  obtain ⟨himport, hfrom, hopen, hclose⟩ := hwords
  unfold importStatement
  split
  · simp only [toString, String.toList_append, unbroken_append]
    exact ⟨fun h ↦ h.1.2, fun h ↦ ⟨⟨⟨⟨himport, h⟩, hfrom⟩, h⟩, hclose⟩⟩
  · simp only [toString, String.toList_append, unbroken_append]
    exact ⟨fun h ↦ h.1.2, fun h ↦ ⟨⟨hopen, h⟩, hclose⟩⟩

/-- One of the checks accepts the name. -/
def PassesCheck (name : String) : Prop :=
  isControllerName name = true ∨ (∃ rules, Analysis.isModuleName rules name = true) ∨
    isBindingName name = true ∨ isIdentifier name = true

/-- What one of the checks accepts is an identifier, up to a line feed. -/
theorem PassesCheck.isIdentifier (h : PassesCheck name) : Script.isIdentifier name = true := by
  rcases h with h | ⟨rules, h⟩ | h | h
  · exact isIdentifier_of_isControllerName h
  · obtain ⟨w, t, hname, hw, ht⟩ := ((isModuleName_iff_upToLineFeed rules name).mp h).1
    exact (isIdentifier_iff name).mpr ⟨w, t, hname, identifierText_of_classText hw, ht⟩
  · exact isIdentifier_of_isBindingName h
  · exact h

end Script

namespace Stimulus.Application

open Text Script

variable {a : Application} {x : String}

/-- The start of an application is a single line exactly if its name is. -/
theorem unbroken_setup_iff (a : Application) :
    Unbroken a.setup.toList ↔ Unbroken a.name.toList := by
  have hwords : Unbroken "const ".toList ∧ Unbroken " = Application.start();".toList := by decide
  unfold setup
  simp only [toString, String.toList_append, unbroken_append]
  exact ⟨fun h ↦ h.1.2, fun h ↦ ⟨⟨hwords.1, h⟩, hwords.2⟩⟩

/-- The key of a controller without line breaks has none. -/
theorem unbroken_identifier (h : Unbroken x.toList) : Unbroken (identifier x).toList := by
  intro c hc
  rw [Bool.eq_false_iff]
  intro hbreak
  obtain ⟨-, hcaseless, hne⟩ := of_isLineBreak hbreak
  have hname := h c (mem_of_mem_identifier hcaseless hne hc)
  rw [hbreak] at hname
  exact Bool.false_ne_true hname.symm

/-- A registration is a single line exactly if the names of application and controller are. -/
theorem unbroken_registrationLine_iff (a : Application) (x : String) :
    Unbroken (a.registrationLine x).toList ↔ Unbroken a.name.toList ∧ Unbroken x.toList := by
  have hwords : Unbroken ".register(\"".toList ∧ Unbroken "\", ".toList ∧ Unbroken ");".toList := by
    decide
  unfold registrationLine
  simp only [toString, String.toList_append, unbroken_append]
  constructor
  · rintro ⟨⟨⟨⟨⟨hname, -⟩, -⟩, -⟩, hx⟩, -⟩
    exact ⟨hname, hx⟩
  · rintro ⟨hname, hx⟩
    exact ⟨⟨⟨⟨⟨hname, hwords.1⟩, unbroken_identifier hx⟩, hwords.2.1⟩, hx⟩, hwords.2.2⟩

/-- Every controller is accepted as an identifier. -/
theorem Discovered.isIdentifier {names : List String} {block : String}
    (h : a.Discovered names block) (hx : x ∈ a.controllers) : Script.isIdentifier x = true := by
  rcases List.mem_append.mp hx with hx | hx
  · rw [h.mapControllers_eq] at hx
    exact isIdentifier_of_isControllerName (List.mem_filter.mp hx).2
  · obtain ⟨-, place, hplace⟩ := h.fresh_blockControllers.candidate x hx
    exact (isIdentifier_iff x).mpr ⟨x.toList, [], (List.append_nil _).symm,
      identifierText_of_mem_controllerPlaces hplace, .inl rfl⟩

end Stimulus.Application

namespace Renderer

open Text Script Analysis Stimulus

/-- A renderer of an application is made for the empty name, which stands for the default, and for
those that the grammar of identifiers accepts, up to a line feed. -/
theorem exists_stimulus?_iff (names : List String) (block : String) (analyzer : Option Analyzer)
    (name : String) : (∃ r, stimulus? names block (some name) analyzer = .ok r) ↔
      name = "" ∨ UpToLineFeed IdentifierText name := by
  by_cases hname : name = ""
  · subst hname
    have hdefault : isIdentifier (nameOr "application" (some "")) = true := by decide +kernel
    exact iff_of_true ⟨_, stimulus?_of_isIdentifier names block analyzer hdefault⟩ (.inl rfl)
  · have hgiven : nameOr "application" (some name) = name := by simp [nameOr, hname]
    rw [or_iff_right hname]
    constructor
    · rintro ⟨r, hr⟩
      have haccepted := (of_stimulus? hr).1
      rw [hgiven] at haccepted
      exact (isIdentifier_iff name).mp haccepted
    · intro h
      refine ⟨_, stimulus?_of_isIdentifier names block analyzer ?_⟩
      rw [hgiven]
      exact (isIdentifier_iff name).mpr h

example : isIdentifier "app\n" = true ∧ isIdentifier "app\n\n" = false := by decide +kernel

/-- The checks of names accept what their grammar says, with one line feed behind it or without.
So an accepted name breaks a line only by a line feed at its end; and the imports, the start of an
application and the registrations that are written of accepted names are single lines exactly if no
name in them has such an end. -/
theorem names_are_accepted_up_to_a_line_feed (name : String) :
    (isControllerName name = true ↔ UpToLineFeed ControllerName name) ∧
    (∀ rules, isModuleName rules name = true ↔
      UpToLineFeed ClassText name ∧ name ∉ rules.excluded) ∧
    (isBindingName name = true ↔ UpToLineFeed BindingName name) ∧
    (∀ names block analyzer, (∃ r, stimulus? names block (some name) analyzer = .ok r) ↔
      name = "" ∨ UpToLineFeed IdentifierText name) ∧
    (PassesCheck name → (Unbroken name.toList ↔ name.toList.getLast? ≠ some '\n') ∧
      (Unbroken (importStatement name).toList ↔ name.toList.getLast? ≠ some '\n')) ∧
    (∀ names block analyzer r, stimulus? names block (some name) analyzer = .ok r →
      ∃ a : Application, r.kind = .stimulus a ∧ a.name = nameOr "application" (some name) ∧
        a.setup = s!"const {a.name} = Application.start();" ∧
        (∀ x, a.registrationLine x = s!"{a.name}.register(\"{identifier x}\", {x});") ∧
        (Unbroken a.setup.toList ↔ a.name.toList.getLast? ≠ some '\n') ∧
        ∀ x ∈ a.controllers, PassesCheck x ∧ (Unbroken (a.registrationLine x).toList ↔
          a.name.toList.getLast? ≠ some '\n' ∧ x.toList.getLast? ≠ some '\n')) := by
  refine ⟨isControllerName_iff_upToLineFeed name, fun rules ↦
    isModuleName_iff_upToLineFeed rules name, isBindingName_iff_upToLineFeed name,
    fun names block analyzer ↦ exists_stimulus?_iff names block analyzer name, ?_, ?_⟩
  · intro h
    have hline := unbroken_iff_of_isIdentifier h.isIdentifier
    exact ⟨hline, (unbroken_importStatement_iff name).trans hline⟩
  · intro names block analyzer r hr
    obtain ⟨happ, rfl⟩ := of_stimulus? hr
    have ha : (Application.discover (nameOr "application" (some name)) names block).Discovered
        names block := rfl
    have hname := unbroken_iff_of_isIdentifier happ
    refine ⟨_, rfl, rfl, rfl, fun x ↦ rfl, (Application.unbroken_setup_iff _).trans hname,
      fun x hx ↦ ?_⟩
    have hcontroller := ha.isIdentifier hx
    refine ⟨.inr (.inr (.inr hcontroller)), ?_⟩
    rw [Application.unbroken_registrationLine_iff]
    exact and_congr hname (unbroken_iff_of_isIdentifier hcontroller)

/-- A name with a line feed behind it passes all checks; and its import, the start of an application
with this name and the registration there of a controller with this name are broken. -/
theorem hello_controller_breaks_its_lines :
    isControllerName "HelloController\n" = true ∧
      isModuleName .bundled "HelloController\n" = true ∧
      isBindingName "HelloController\n" = true ∧
      ¬ Unbroken (importStatement "HelloController\n").toList ∧
      ∃ r, stimulus? ["HelloController\n"] "" (some "HelloController\n") none = .ok r ∧
        ∃ a : Application, r.kind = .stimulus a ∧ a.controllers = ["HelloController\n"] ∧
          ¬ Unbroken a.setup.toList ∧
          ¬ Unbroken (a.registrationLine "HelloController\n").toList := by
  obtain ⟨hcontroller, hmodule, hbinding, hmade, hlines, hkind⟩ :=
    names_are_accepted_up_to_a_line_feed "HelloController\n"
  have hclass : UpToLineFeed ClassText "HelloController\n" :=
    ⟨"HelloController".toList, ['\n'], by decide,
      ⟨'H', "elloController".toList, rfl, rfl, List.all_eq_true.mp (by decide)⟩, .inr rfl⟩
  have hname : isControllerName "HelloController\n" = true :=
    hcontroller.mpr ⟨"HelloController".toList, ['\n'], by decide,
      ⟨'H', "ello".toList, by decide, rfl, List.all_eq_true.mp (by decide)⟩, .inr rfl⟩
  have hfeed : ¬ "HelloController\n".toList.getLast? ≠ some '\n' := by decide
  obtain ⟨r, hr⟩ := (hmade ["HelloController\n"] "" none).mpr
    (.inr (hclass.mono fun _ ↦ identifierText_of_classText))
  obtain ⟨a, ha, happ, -, -, hsetup, hregistrations⟩ := hkind _ _ _ r hr
  have hcontrollers : a.controllers = ["HelloController\n"] := by
    obtain ⟨-, rfl⟩ := of_stimulus? hr
    obtain rfl := RendererKind.stimulus.inj ha
    decide +kernel
  have hown : ¬ a.name.toList.getLast? ≠ some '\n' := by
    rw [happ]
    decide
  refine ⟨hname, (hmodule _).mpr ⟨hclass, by decide +kernel⟩,
    isBindingName_of_isControllerName hname, fun h ↦ hfeed ((hlines (.inl hname)).2.mp h), r, hr, a,
    ha, hcontrollers, fun h ↦ hown (hsetup.mp h), fun h ↦ ?_⟩
  have hregistered := hregistrations "HelloController\n" (by rw [hcontrollers]; simp)
  exact hfeed (hregistered.2.mp h).2

end Renderer

end ModuleScript
