import ModuleScript.Analysis.Analyzer
import ModuleScript.Stimulus.Filter
import ModuleScript.Stimulus.Statement

/-!
# Renderers

A renderer joins the imports of an import map with a script block. What it adds to them is a
matter of its kind: nothing, the start of a Stimulus application and the registrations of its
controllers, or a statement of a host's own that starts an instance. A renderer does not hold
the map; it is given the map as it stands when something is rendered.
-/

namespace ModuleScript

/-- What a renderer adds to imports and block. -/
inductive RendererKind where
  | plain
  | stimulus (application : Stimulus.Application)
  /-- A kind of the host, by its label and the instance that its scripts start. -/
  | starter (label instanceName : String)
  deriving DecidableEq, Repr

/-- A kind, the block to be rendered, and the analyzer unless analysis is off (`ScriptRenderer`). -/
structure Renderer where
  kind : RendererKind
  block : String
  analyzer : Option Analyzer

namespace Renderer

/-- Why a renderer cannot be made. -/
inductive Fault where
  | applicationName (given : String)
  /-- An instance is named where the kind has none. -/
  | unusedInstanceName
  deriving DecidableEq, Repr

/-- The wording of a refusal. -/
def Fault.message : Fault → String
  | .applicationName given =>
    s!"Application name must be a JavaScript identifier, got {Text.quote given}"
  | .unusedInstanceName => "this kind of renderer has no instance"

/-- Whether the renderer is that of an application. -/
def isApplication (r : Renderer) : Bool :=
  match r.kind with
  | .stimulus _ => true
  | _ => false

/-- The plain renderer of a block. -/
def ofBlock (block : String) (analyzer : Option Analyzer) : Renderer :=
  { kind := .plain, block, analyzer }

/-- A name that is given and not empty, or else the default. -/
def nameOr (default : String) : Option String → String
  | some name => if name.isEmpty then default else name
  | none => default

/-- The renderer of a Stimulus application over the names of a map (`StimulusRenderer`). -/
def stimulus? (names : List String) (block : String) (instanceName : Option String)
    (analyzer : Option Analyzer) : Except Fault Renderer :=
  let name := nameOr "application" instanceName
  if Script.isIdentifier name then
    .ok { kind := .stimulus (.discover name names block), block, analyzer }
  else .error (.applicationName name)

/-- The label of a kind. -/
def label (r : Renderer) : String :=
  match r.kind with
  | .plain => "ScriptRenderer"
  | .stimulus _ => "StimulusRenderer"
  | .starter label _ => label

/-- The name of the application, if there is one (`_state_key`). -/
def stateKey (r : Renderer) : String :=
  match r.kind with
  | .stimulus application => application.name
  | _ => ""

/-- The texts that the key of a rendered part is made of (`_key`). -/
def keyParts (r : Renderer) (parts : List String) : List String := r.label :: r.stateKey :: parts

/-- The parts behind the key of a whole script. -/
def contentParts (r : Renderer) (m : ImportMap) : List String :=
  r.keyParts [m.contentKey, r.block]

/-- The parts behind the key of the imports (`_import_key`). -/
def importParts (r : Renderer) (m : ImportMap) : List String :=
  match r.kind with
  | .stimulus _ => r.keyParts [m.contentKey, r.block]
  | _ => r.keyParts [m.contentKey]

/-- The parts behind the key of the processed block (`_process_key`). -/
def blockParts (r : Renderer) (m : ImportMap) : List String :=
  match r.kind with
  | .stimulus _ => r.keyParts [m.contentKey, r.block]
  | _ => r.keyParts [r.block]

/-- The import statements, one to a line (`_build_import_statements`). -/
def importText (r : Renderer) (m : ImportMap) : Except RenderFault String :=
  match r.kind with
  | .stimulus application =>
    match application.importLines m.entries with
    | .ok lines => .ok (Text.joinLines lines)
    | .error name => .error (.noLocation name)
  | _ => .ok (Text.joinLines (m.names.map Script.importStatement))

/-- A block as it enters the script (`process`). -/
def process (r : Renderer) (block : String) : String :=
  match r.kind with
  | .stimulus application => application.process block
  | _ => Text.trim block

/-- The text of a part; what counts as false is left out like an empty text. -/
def partText (part : Value) : Except RenderFault String :=
  match part.orElse (.text "") with
  | .text s => .ok s
  | _ => .error .noPart

/-- The parts that do not count as false, which must be texts, with a separator between them. -/
def joinFilled (sep : String) (parts : List Value) : Except RenderFault String := do
  return Script.joinFilled sep (← parts.mapM partText)

/-- The parts that do not count as false, which must be texts, with a blank line between them. -/
def joinParts (parts : List Value) : Except RenderFault String := do
  return Script.joinParts (← parts.mapM partText)

/-- The processed block with what the kind adds around it. -/
def surround (r : Renderer) (processed : Value) : Except RenderFault Value :=
  match r.kind with
  | .plain => .ok processed
  | .stimulus application =>
    .text <$> joinParts [.text application.setup, processed, .text application.registrations]
  | .starter _ instanceName => .text <$> joinParts [processed, .text s!"{instanceName}.start();"]

end Renderer

end ModuleScript
