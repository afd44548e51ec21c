import ModuleScript.Render.Renderer

/-!
# Registered frameworks

A registry holds frameworks by name, and lists the names in the order in which they were first
registered. Each framework has a factory of renderers and patterns by which the names of its
imports are recognised. Registering a name again replaces its framework and keeps its place.
-/

namespace ModuleScript

/-- What makes the renderers of a framework. -/
inductive Factory where
  | plain
  | stimulus
  /-- The host's own kind, by its label and the instance that is started unless one is named. -/
  | starter (label defaultInstance : String)
  deriving DecidableEq, Repr

/-- The label of the renderers that a factory makes. -/
def Factory.label : Factory → String
  | .plain => "ScriptRenderer"
  | .stimulus => "StimulusRenderer"
  | .starter label _ => label

/-- Make a renderer over the names of a map. -/
def Factory.make (f : Factory) (names : List String) (block : String)
    (instanceName : Option String) : Except Renderer.Fault Renderer :=
  match f with
  | .plain =>
    if instanceName.isSome then .error .unusedInstanceName
    else .ok (.ofBlock block (some .bundled))
  | .stimulus => Renderer.stimulus? names block instanceName (some .bundled)
  | .starter label defaultInstance =>
    .ok { kind := .starter label (Renderer.nameOr defaultInstance instanceName), block
          analyzer := some .bundled }

/-- A framework: its factory, the patterns of its imports, and what is said about it
(`FrameworkRegistration`). -/
structure Framework where
  factory : Factory
  patterns : List Pattern := []
  coreModule : String := ""
  description : String := ""

namespace Framework

/-- Whether one of the patterns occurs in the name of an import (`matches`). -/
def recognises (f : Framework) (name : String) : Bool := f.patterns.any (·.occursIn name)

/-- What is said about a framework (`metadata`). -/
def metadata (f : Framework) : Value :=
  .record [("core_import", .text f.coreModule), ("description", .text f.description)]

/-- The pattern of the names of controllers. -/
def controllerPattern : Pattern.Parsed where
  source := "^[A-Z][a-zA-Z0-9_]*Controller$"
  node := Script.controllerName
  groups := 0

/-- The pattern is what its text reads as. -/
theorem parse?_source_controllerPattern :
    (Pattern.parse? controllerPattern.source).toOption = some controllerPattern := by
  decide +kernel

/-- The Stimulus framework. -/
def stimulus : Framework where
  factory := .stimulus
  patterns := [controllerPattern.pattern]
  coreModule := Stimulus.coreModule
  description := "Hotwired Stimulus framework for HTML-first JavaScript"

end Framework

/-- Frameworks by name, and the names in the order of their first registration
(`FrameworkRegistry`). -/
structure Registry where
  order : List String := []
  registrations : Table String Framework := ∅

namespace Registry

instance : Inhabited Registry := ⟨{}⟩

/-- Why a registration is refused. -/
inductive Fault where
  | emptyId
  | noFactory (id : String) (given : Value)
  | badPattern (fault : Pattern.Fault)

/-- The wording of a refusal. -/
def Fault.message : Fault → String
  | .emptyId => "Framework id must not be empty"
  | .noFactory id given => s!"Factory for framework '{id}' must be callable, got {given.quoted}"
  | .badPattern fault => fault.message

/-- What is offered as a factory: a factory, or a value that is none. -/
inductive Candidate where
  | factory (f : Factory)
  | value (v : Value)

/-- A pattern as it is offered: in writing, or compiled before. -/
inductive Offer where
  | written (source : String)
  | compiled (p : Pattern)

/-- A registration as it is asked for. -/
structure Request where
  id : String
  candidate : Candidate
  patterns : List Offer := []
  coreModule : String := ""
  description : String := ""

/-- The names in order (`supported_frameworks`). -/
def ids (r : Registry) : List String := r.order

/-- The number of names. -/
def size (r : Registry) : Nat := r.order.length

/-- The framework with a name (`get_registration`). -/
def find? (r : Registry) (id : String) : Option Framework := r.registrations.find? id

/-- Whether a name is registered. -/
def contains (r : Registry) (id : String) : Bool := r.registrations.contains id

/-- Give a name a framework (`add`); a name that is new becomes the last one. -/
def insert (r : Registry) (id : String) (f : Framework) : Registry where
  order := if r.contains id then r.order else r.order ++ [id]
  registrations := r.registrations.insert id f

/-- The registry with the bundled frameworks (`with_builtins`). -/
def bundled : Registry := insert {} "stimulus" .stimulus

section

variable (compile : String → Except Pattern.Fault Pattern)

/-- The pattern that is offered; one in writing is compiled as `re.compile` does it. -/
def Offer.pattern? : Offer → Except Pattern.Fault Pattern
  | .written source => compile source
  | .compiled p => .ok p

/-- All patterns that are offered (`_compile_patterns`). -/
def readPatterns (offers : List Offer) : Except Fault (List Pattern) :=
  (offers.mapM (Offer.pattern? compile)).mapError .badPattern

/-- The framework that a registration asks for. -/
def Request.framework? (q : Request) : Except Fault Framework :=
  if q.id.isEmpty then .error .emptyId
  else match q.candidate with
    | .value v => .error (.noFactory q.id v)
    | .factory factory => do
      let patterns ← readPatterns compile q.patterns
      return { factory, patterns, coreModule := q.coreModule, description := q.description }

end

/-- The warning that a registration gives: that it replaces an earlier one. -/
def warnings (r : Registry) (id : String) : List String :=
  if r.contains id then [s!"Framework '{id}' already registered, overwriting"] else []

/-- Register a framework (`register`). -/
def register (compile : String → Except Pattern.Fault Pattern) (r : Registry) (q : Request) :
    Except Fault Registry := do
  return r.insert q.id (← q.framework? compile)

/-- The first framework, in order, that recognises the name of an import (`detect`). -/
def detect (r : Registry) (name : String) : Option String :=
  r.order.find? fun id ↦ (r.find? id).any (·.recognises name)

/-- Make a renderer of a framework (`create`); a name that is not registered gets a plain one,
whatever instance is named. -/
def create (r : Registry) (id : String) (names : List String) (block : String)
    (instanceName : Option String) : Except Renderer.Fault Renderer :=
  match r.find? id with
  | some framework => framework.factory.make names block instanceName
  | none => .ok (.ofBlock block (some .bundled))

/-- What is said about a name (`get_metadata`). -/
def metadata? (r : Registry) (id : String) : Option Value := (r.find? id).map Framework.metadata

/-- The package of a framework, unless none is given (`core_module`). -/
def coreModule? (r : Registry) (id : String) : Option String :=
  ((r.find? id).map Framework.coreModule).filter (!·.isEmpty)

/-- The number of patterns of all frameworks. -/
def patternCount (r : Registry) : Nat :=
  r.registrations.values.foldl (fun n framework ↦ n + framework.patterns.length) 0

/-- A summary: the names, the number of patterns, and what is said about each name (`summary`). -/
def summary (r : Registry) : Value :=
  .record [("frameworks", .texts r.ids), ("total_patterns", .int r.patternCount),
    ("details", .record (r.order.filterMap fun id ↦ (r.metadata? id).map (id, ·)))]

end Registry

end ModuleScript
