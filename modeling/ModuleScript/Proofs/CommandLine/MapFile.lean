import ModuleScript.Proofs.CommandLine.Run
import ModuleScript.Proofs.ImportMap.Misshapen
import ModuleScript.Proofs.Render.Failures

/-!
# The file of a map

What a rendering does with the file of its map before anything is rendered: it reads a text from
it, JSON from the text and a map from that, and the map has to have names that can be searched and
looked up, and a key. Whatever is wrong is logged as one error, but for what the command does not
foresee: nesting that is too deep, a list or a dictionary that is missing, and a name that is no
text or no key.
-/

namespace ModuleScript.CommandLine

open Stimulus

/-! ### Texts of files -/

/-- The bytes of the file at a path. -/
def Inputs.bytes? (inputs : Inputs) (path : String) : Option (List UInt8) :=
  if path.toList.contains '\x00' then none
  else match inputs.path path with
    | .file bytes => some bytes
    | _ => none

/-- The bytes of a script; a hyphen stands for the standard input. -/
def Inputs.scriptBytes? (inputs : Inputs) (path : String) : Option (List UInt8) :=
  if path == "-" then some inputs.standardInput else inputs.bytes? path

/-- The characters of a text, with line feeds at the ends of its lines. -/
def Decodes (bytes : List UInt8) (text : List Char) : Prop :=
  ∃ decoded, Text.Utf8.decode bytes = .ok decoded ∧ Text.unifyLineEnds decoded.toList = text

variable {inputs : Inputs} {bytes : List UInt8} {path : String}

theorem Decodes.unique {text text' : List Char} (h : Decodes bytes text)
    (h' : Decodes bytes text') : text' = text := by
  obtain ⟨decoded, hdecoded, rfl⟩ := h
  obtain ⟨decoded', hdecoded', rfl⟩ := h'
  rw [hdecoded] at hdecoded'
  rw [Except.ok.inj hdecoded']

/-- Bytes are a text or are refused. -/
theorem textOf_cases (bytes : List UInt8) :
    (∃ text, Decodes bytes text ∧ EndsWith (textOf bytes) (.ok text)) ∨
      (∃ message, EndsWith (textOf bytes) (.error (.logged message))) ∧
        ∀ text, ¬ Decodes bytes text := by
  rw [textOf]
  cases hdecode : Text.Utf8.decode bytes with
  | ok decoded => exact .inl ⟨_, ⟨decoded, hdecode, rfl⟩, endsWith_pure _⟩
  | error fault =>
    refine .inr ⟨⟨_, endsWith_throw _⟩, ?_⟩
    rintro text ⟨decoded, hdecoded, -⟩
    rw [hdecode] at hdecoded
    exact absurd hdecoded (by simp)

theorem readText_eq_textOf (h : inputs.bytes? path = some bytes) :
    readText inputs path = textOf bytes := by
  rw [Inputs.bytes?] at h
  split at h
  next => exact absurd h (by simp)
  next hnul =>
    rw [readText, if_neg hnul]
    split at h
    next heq =>
      obtain rfl := Option.some.inj h
      rw [heq]
    next => exact absurd h (by simp)

theorem readScript_eq_textOf (h : inputs.scriptBytes? path = some bytes) :
    readScript inputs path = (do return String.ofList (← textOf bytes)) := by
  rw [Inputs.scriptBytes?] at h
  rw [readScript]
  split at h
  next hhyphen =>
    obtain rfl := Option.some.inj h
    rw [if_pos hhyphen]
  next hhyphen => rw [if_neg hhyphen, readText_eq_textOf h]

/-- A map is read from the text of its file. -/
theorem readImportMap_eq_textOf {path? : Option String} (hpath : filled? path? = some path)
    (h : inputs.bytes? path = some bytes) :
    readImportMap inputs path? = (do importMapOf (← readJson (← textOf bytes))) := by
  rw [readImportMap, hpath, ← readText_eq_textOf h]

/-! ### Where a rendering breaks off -/

/-- An application is asked for, by a name that it can have. -/
def RenderOptions.AsksForApplication (o : RenderOptions) : Prop :=
  filled? o.framework = some "stimulus" ∧
    Script.isIdentifier (Renderer.nameOr "application" o.applicationName) = true

/-- The bundled analyzer finds something in a block that a map could provide. -/
def FindsSomething (block : String) : Prop :=
  ∃ found, Analyzer.bundled.Finds block found ∧ found.isEmpty = false

/-- A map that breaks the rendering of a block off. An application searches all names first; later,
if the map has a key, it looks through locations where names do not tell what is loaded. Otherwise
names are looked up if there are warnings to be given, and then, if the map has a key, searched to
be imported. -/
inductive MapBreaksOff (o : RenderOptions) (block : String) (m : LooseMap) : Failure → Prop
  | searched {name : Value} (hasked : o.AsksForApplication)
    (hname : m.names.find? (!·.points?.isSome) = some name) :
    MapBreaksOff o block m (.importMap (.unsearchableName name))
  | location {key : String} {e : LooseEntry} (hasked : o.AsksForApplication)
    (hnames : m.names.find? (!·.points?.isSome) = none) (hkey : m.contentKey? = .ok key)
    (he : m.entries.find? (Undecided ·.outline) = some e) :
    MapBreaksOff o block m (.rendering (.noLocation e.name.display))
  | lookedUp {name : Value} (hplain : filled? o.framework ≠ some "stimulus")
    (hwarned : o.withAnalysis = true) (hfound : FindsSomething block)
    (hname : m.names.find? (!·.isKey) = some name) :
    MapBreaksOff o block m (.importMap (.noKey name))
  | imported {key : String} {name : Value} (hplain : filled? o.framework ≠ some "stimulus")
    (hkeys : o.withAnalysis = true → FindsSomething block → m.names.find? (!·.isKey) = none)
    (hkey : m.contentKey? = .ok key) (hname : m.names.find? (!·.points?.isSome) = some name) :
    MapBreaksOff o block m (.importMap (.unsearchableName name))

/-- The text of a map at which the rendering of a block breaks off: it is nested too deeply, or it
is misshapen, or it is a map that breaks the rendering off. -/
inductive BreaksOff (o : RenderOptions) (block : String) (text : List Char) : Failure → Prop
  | tooDeep (h : Json.read text = .error .tooDeep) : BreaksOff o block text .tooDeep
  | misshapen {v : Value} {fault : ImportMap.Fault} (hread : Json.read text = .ok v)
    (h : LooseMap.Misshapen v fault) : BreaksOff o block text (.importMap fault)
  | map {v : Value} {m : LooseMap} {f : Failure} (hread : Json.read text = .ok v)
    (hmap : LooseMap.ofValue? v = .ok m) (h : MapBreaksOff o block m f) :
    BreaksOff o block text f

/-! ### Reading the map -/

variable {o : RenderOptions} {block : String} {text : List Char} {v : Value}

/-- A text is JSON, or the reading ends early. -/
theorem readJson_cases (o : RenderOptions) (block : String) (text : List Char) :
    (∃ v, Json.read text = .ok v ∧ EndsWith (readJson text) (.ok v)) ∨
      EndsEarly (readJson text) (BreaksOff o block text) := by
  have hunread {fault : Json.Fault} (hread : Json.read text = .error fault) {f : Failure}
      (h : BreaksOff o block text f) : fault = .tooDeep ∧ f = .tooDeep := by
    rcases h with hdeep | ⟨hok, -⟩ | ⟨hok, -⟩
    · exact ⟨Except.error.inj (hread.symm.trans hdeep), rfl⟩
    · exact absurd (hread.symm.trans hok) (by simp)
    · exact absurd (hread.symm.trans hok) (by simp)
  rw [readJson]
  cases hread : Json.read text with
  | ok v => exact .inl ⟨v, rfl, endsWith_pure v⟩
  | error fault =>
    cases fault with
    | malformed cause offset =>
      exact .inr ((endsWith_throw _).endsEarly_of_logged fun f h ↦
        absurd (hunread hread h).1 (by simp))
    | tooManyDigits count =>
      exact .inr ((endsWith_throw _).endsEarly_of_logged fun f h ↦
        absurd (hunread hread h).1 (by simp))
    | tooDeep =>
      refine .inr ((endsWith_throw _).endsEarly_of_failure fun f ↦
        ⟨fun h ↦ (hunread hread h).2, ?_⟩)
      rintro rfl
      exact .tooDeep hread

/-- What is refused for what it says is logged. -/
theorem endsWith_importMapOf_of_isRefusal {fields : List (Value × Value)}
    {fault : ImportMap.Fault} (hv : v.pairs? = some fields)
    (h : LooseMap.ofValue? v = .error fault) (hfault : fault.IsRefusal) :
    ∃ message, EndsWith (importMapOf v) (.error (.logged message)) := by
  rw [importMapOf, hv]
  dsimp only
  rw [h]
  cases fault with
  | emptyName => exact ⟨_, endsWith_throw _⟩
  | repeatedName name map => exact ⟨_, endsWith_throw _⟩
  | scopeKey => exact ⟨_, endsWith_throw _⟩
  | invalidEntry item => exact ⟨_, endsWith_throw _⟩
  | _ => exact hfault.elim

/-- Everything else is a failure. -/
theorem endsWith_importMapOf_of_not_isRefusal {fields : List (Value × Value)}
    {fault : ImportMap.Fault} (hv : v.pairs? = some fields)
    (h : LooseMap.ofValue? v = .error fault) (hfault : ¬ fault.IsRefusal) :
    EndsWith (importMapOf v) (.error (.failure (.importMap fault))) := by
  rw [importMapOf, hv]
  dsimp only
  rw [h]
  cases fault with
  | emptyName => exact absurd trivial hfault
  | repeatedName name map => exact absurd trivial hfault
  | scopeKey => exact absurd trivial hfault
  | invalidEntry item => exact absurd trivial hfault
  | _ => exact endsWith_throw _

/-- A value that was read is a map, or the reading ends early. -/
theorem importMapOf_cases (o : RenderOptions) (block : String) (hread : Json.read text = .ok v) :
    (∃ m, LooseMap.ofValue? v = .ok m ∧ EndsWith (importMapOf v) (.ok m)) ∨
      EndsEarly (importMapOf v) (BreaksOff o block text) := by
  -- a reading that fails can only be one of misshapen data
  have hfailed {fault : ImportMap.Fault} (hfault : LooseMap.ofValue? v = .error fault)
      {f : Failure} (h : BreaksOff o block text f) :
      f = .importMap fault ∧ LooseMap.Misshapen v fault := by
    rcases h with hdeep | ⟨hok, hshape⟩ | ⟨hok, hmap, -⟩
    · exact absurd (hread.symm.trans hdeep) (by simp)
    · obtain rfl := Except.ok.inj (hread.symm.trans hok)
      obtain rfl := Except.error.inj (hfault.symm.trans hshape.ofValue?_eq)
      exact ⟨rfl, hshape⟩
    · obtain rfl := Except.ok.inj (hread.symm.trans hok)
      exact absurd (hfault.symm.trans hmap) (by simp)
  cases hpairs : v.pairs? with
  | none =>
    have hfault : LooseMap.ofValue? v = .error .noDictionary := by
      rw [LooseMap.ofValue?, LooseMap.needPairs, hpairs]
      rfl
    have hrefused : EndsWith (importMapOf v)
        (.error (.logged "Invalid input: Import map file must contain a JSON object")) := by
      rw [importMapOf, hpairs]
      exact endsWith_throw _
    refine .inr (hrefused.endsEarly_of_logged fun f hf ↦ ?_)
    obtain ⟨fields, hfields⟩ := (hfailed hfault hf).2.exists_pairs
    exact absurd (hpairs.symm.trans hfields) (by simp)
  | some fields =>
    rcases LooseMap.ofValue?_cases hpairs with ⟨m, hm⟩ | ⟨fault, hfault, hrefusal⟩ |
      ⟨fault, hfault, hshape⟩
    · have hread : EndsWith (importMapOf v) (.ok m) := by
        rw [importMapOf, hpairs]
        dsimp only
        rw [hm]
        exact endsWith_pure m
      exact .inl ⟨m, hm, hread⟩
    · obtain ⟨message, hlogged⟩ := endsWith_importMapOf_of_isRefusal hpairs hfault hrefusal
      exact .inr (hlogged.endsEarly_of_logged fun f hf ↦
        (hfailed hfault hf).2.not_isRefusal hrefusal)
    · refine .inr ((endsWith_importMapOf_of_not_isRefusal hpairs hfault
        hshape.not_isRefusal).endsEarly_of_failure fun f ↦ ⟨fun hf ↦ (hfailed hfault hf).1, ?_⟩)
      rintro rfl
      exact .misshapen hread hshape

/-! ### Taking the map -/

variable {m : LooseMap}

/-- Names that are needed are there, or the first that is not fit ends it. -/
theorem FailsAs.needNames {α : Type} {isFit : Value → Bool} {fault : Value → ImportMap.Fault}
    {x : Run α} {q : Failure → Prop} (h : m.names.find? (!isFit ·) = none → FailsAs x q) :
    FailsAs (do needNames m isFit fault; x) fun f ↦
      (∃ name, m.names.find? (!isFit ·) = some name ∧ f = .importMap (fault name)) ∨
        m.names.find? (!isFit ·) = none ∧ q f := by
  rw [CommandLine.needNames]
  cases hname : m.names.find? (!isFit ·) with
  | some name =>
    exact (((endsWith_throw _).bind_error _).endsEarly_of_failure fun f ↦ by simp).failsAs
  | none =>
    refine .bind (endsWith_pure ()) ((h hname).congr fun f ↦ ?_)
    simp

/-- The map has a key, or this is logged. Names have to be texts then. -/
theorem FailsAs.needKey {α : Type} {x : Run α} {q : Failure → Prop}
    (h : m.names.find? (!·.points?.isSome) = none → FailsAs x q) :
    FailsAs (do takeMap m false false; x) fun f ↦ ∃ key, m.contentKey? = .ok key ∧
      ((∃ name, m.names.find? (!·.points?.isSome) = some name ∧
          f = .importMap (.unsearchableName name)) ∨
        m.names.find? (!·.points?.isSome) = none ∧ q f) := by
  cases hm : m.contentKey? with
  | error fault =>
    rw [takeMap_unkeyed hm]
    exact (((endsWith_throw _).bind_error _).endsEarly_of_logged (by simp)).failsAs
  | ok key =>
    rw [takeMap_keyed hm]
    exact (FailsAs.needNames h).congr fun f ↦ by simp

/-- Texts are keys. -/
theorem find?_isKey_eq_none (h : m.names.find? (!·.points?.isSome) = none) :
    m.names.find? (!·.isKey) = none := by
  rw [List.find?_eq_none] at h ⊢
  intro name hname
  have htext := h name hname
  cases name <;> simp [Value.points?, Value.isKey] at htext ⊢

/-- An application takes a map whose names are texts and that has a key. -/
theorem FailsAs.takeMap_application {α : Type} {x : Run α} {q : Failure → Prop} (looksUp : Bool)
    (h : FailsAs x q) : FailsAs (do takeMap m true looksUp; x) fun f ↦
      (∃ name, m.names.find? (!·.points?.isSome) = some name ∧
        f = .importMap (.unsearchableName name)) ∨
      m.names.find? (!·.points?.isSome) = none ∧ (∃ key, m.contentKey? = .ok key) ∧ q f := by
  rw [CommandLine.takeMap_application, bind_assoc]
  refine FailsAs.needNames fun hnames ↦ ?_
  have hkey : FailsAs (do takeMap m false false; x) fun f ↦
      (∃ key, m.contentKey? = .ok key) ∧ q f :=
    (FailsAs.needKey fun _ ↦ h).congr fun f ↦ by
      rw [hnames]
      simp
  cases looksUp with
  | false => exact hkey
  | true =>
    rw [takeMap_lookingUp, bind_assoc]
    exact (FailsAs.needNames fun _ ↦ hkey).congr fun f ↦ by simp [find?_isKey_eq_none hnames]

/-- Other renderers take a map whose names are texts and that has a key, and look at names before
only if they are to be looked up. -/
theorem FailsAs.takeMap_plain {α : Type} {x : Run α} {q : Failure → Prop} (looksUp : Bool)
    (h : FailsAs x q) : FailsAs (do takeMap m false looksUp; x) fun f ↦
      (looksUp = true ∧ ∃ name, m.names.find? (!·.isKey) = some name ∧
        f = .importMap (.noKey name)) ∨
      (looksUp = true → m.names.find? (!·.isKey) = none) ∧ ∃ key, m.contentKey? = .ok key ∧
        ((∃ name, m.names.find? (!·.points?.isSome) = some name ∧
            f = .importMap (.unsearchableName name)) ∨
          m.names.find? (!·.points?.isSome) = none ∧ q f) := by
  have hkey := FailsAs.needKey (m := m) fun _ ↦ h
  cases looksUp with
  | false => exact hkey.congr fun f ↦ by simp
  | true =>
    rw [takeMap_lookingUp, bind_assoc]
    exact (FailsAs.needNames fun _ ↦ hkey).congr fun f ↦ by simp

end ModuleScript.CommandLine
