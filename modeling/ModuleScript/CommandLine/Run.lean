import ModuleScript.Analysis.Record
import ModuleScript.CommandLine.Arguments
import ModuleScript.CommandLine.Files
import ModuleScript.Framework.Engine
import ModuleScript.ImportMap.LooseKey
import ModuleScript.ImportMap.Record
import ModuleScript.Json.Printer
import ModuleScript.Json.Reader
import ModuleScript.Render.Outline

/-!
# Running a command

A command reads its files, writes to its output and to the log, and ends with an exit code. A
missing file, a text that is no JSON and refused data are logged and end it with code one; what
is not foreseen ends it with a failure.

The map of a rendering is a loose one: nothing has checked the types of what its file holds.
-/

namespace ModuleScript.CommandLine

/-- An unforeseen end of a command. -/
inductive Failure where
  /-- There is no level of the log. -/
  | noLevel
  | directory (path : String)
  | notDirectory (path : String)
  | nameTooLong (path : String)
  | importMap (fault : ImportMap.Fault)
  | rendering (fault : RenderFault)
  /-- A JSON text is nested too deeply. -/
  | tooDeep

/-- The wording of a failure. -/
def Failure.message : Failure → String
  | .noLevel => "no level of the log"
  | .directory path => s!"[Errno 21] Is a directory: {Text.quote path}"
  | .notDirectory path => s!"[Errno 20] Not a directory: {Text.quote path}"
  | .nameTooLong path => s!"[Errno 36] File name too long: {Text.quote path}"
  | .importMap fault => fault.message
  | .rendering fault => fault.message
  | .tooDeep => "nested too deeply"

/-- Why a command ends early: with a logged error, or with a failure. -/
inductive Ending where
  | logged (message : String)
  | failure (f : Failure)

/-- A command under way, with the records logged so far, latest first. -/
abbrev Run := ExceptT Ending (StateM (List Record))

/-- What a command can read. -/
structure Inputs where
  path : String → PathContent
  standardInput : List UInt8 := []

/-- What a command leaves behind. -/
structure Outcome where
  exitCode : Nat
  output : String := ""
  records : List Record := []
  deriving DecidableEq, Repr

/-- Log a record of the command itself. -/
def log (level : Level) (message : String) : Run Unit :=
  modify ({ source := "main", level, message } :: ·)

/-- End with refused data. -/
def refuse {α : Type} (message : String) : Run α := throw (.logged s!"Invalid input: {message}")

/-- The text of bytes, with line feeds at the ends of its lines. -/
def textOf (bytes : List UInt8) : Run (List Char) :=
  match Text.Utf8.decode bytes with
  | .ok text => return Text.unifyLineEnds text.toList
  | .error fault => refuse fault.message

/-- The text of a file. -/
def readText (inputs : Inputs) (path : String) : Run (List Char) :=
  if path.toList.contains '\x00' then refuse "embedded null byte"
  else match inputs.path path with
    | .file bytes => textOf bytes
    | .missing => throw (.logged s!"File not found: {path}")
    | .directory => throw (.failure (.directory path))
    | .notDirectory => throw (.failure (.notDirectory path))
    | .nameTooLong => throw (.failure (.nameTooLong path))

/-- The text of a script; a hyphen stands for the standard input (`_read_script`). -/
def readScript (inputs : Inputs) (path : String) : Run String := do
  let text ← if path == "-" then textOf inputs.standardInput else readText inputs path
  return String.ofList text

/-- The value of a JSON text. -/
def readJson (text : List Char) : Run Value :=
  match Json.read text with
  | .ok v => return v
  | .error .tooDeep => throw (.failure .tooDeep)
  | .error fault@(.malformed _ _) =>
    throw (.logged s!"Invalid JSON in import map file: {fault.message text}")
  | .error fault => refuse (fault.message text)

/-- The import map of a value, which has to be a dictionary (`_load_import_map`). -/
def importMapOf (v : Value) : Run LooseMap :=
  match v.pairs? with
  | none => refuse "Import map file must contain a JSON object"
  | some _ =>
    match LooseMap.ofValue? v with
    | .ok m => return m
    | .error fault =>
      match fault with
      | .emptyName | .repeatedName _ _ | .scopeKey | .invalidEntry _ => refuse fault.message
      | _ => throw (.failure (.importMap fault))

/-- A text that is given and not empty. -/
def filled? (text : Option String) : Option String := text.filter (!·.isEmpty)

/-- The import map of a file, an empty one if none is named. -/
def readImportMap (inputs : Inputs) (path : Option String) : Run LooseMap :=
  match filled? path with
  | some path => do importMapOf (← readJson (← readText inputs path))
  | none => return {}

/-- Run a computation on shared caches that are still empty. -/
def onFreshCaches {ε α : Type} (run : ExceptT ε (StateM Store) α) : Except ε α :=
  (run.run {}).1

/-- A rendered script. -/
def rendered (run : ExceptT Engine.Fault (StateM Store) String) : Run String :=
  match onFreshCaches run with
  | .ok text => return text
  | .error (.renderer fault) => refuse fault.message
  | .error (.render fault) => throw (.failure (.rendering fault))

/-- Report the dependencies of a script (`_analyze`). -/
def analyze (engine : Engine) (inputs : Inputs) (path : String) (withComplexity : Bool) :
    Run String := do
  let script ← readScript inputs path
  log .info s!"Analyzing {script.length} characters of JavaScript"
  let report : Shared Value := do
    let found ← engine.findings script
    if withComplexity then
      let measures ← engine.analyzer.complexity? script
      return .record (found.fields ++ [("complexity", (measures.map (·.toValue)).getD .null)])
    else return found.toValue
  match onFreshCaches report with
  | .ok v => return Json.print v
  | .error fault => throw (.failure (.rendering fault))

/-- Warn of a framework that is not registered. -/
def warnUnknown (engine : Engine) (framework : String) : Run Unit :=
  if engine.registry.contains framework then return
  else log .warning s!"Unknown framework '{framework}', rendering a plain module script"

/-- The renderer that is asked for. -/
def RenderOptions.renderer (o : RenderOptions) (engine : Engine) (names : List String)
    (script : String) : Except Renderer.Fault Renderer :=
  match filled? o.framework with
  | some framework => engine.registry.create framework names script o.applicationName
  | none => .ok (engine.plainRenderer script)

/-- Whether a renderer finds something in its block whose presence in a map is asked for. -/
def looksUpNames (r : Renderer) : Bool :=
  match onFreshCaches r.findings with
  | .ok found => !found.isEmpty
  | .error _ => false

/-- Go on only if a name is of a kind. -/
def needNames (m : LooseMap) (isFit : Value → Bool) (fault : Value → ImportMap.Fault) : Run Unit :=
  match m.names.find? (!isFit ·) with
  | some name => throw (.failure (.importMap (fault name)))
  | none => return

/-- Take a loose map for rendering. The renderer of an application searches all names when it is
made; names that are looked up have to be keys; then the map needs a key, and at last its names are
searched to be imported. -/
def takeMap (m : LooseMap) (isApplication looksUp : Bool) : Run Unit := do
  if isApplication then needNames m (·.points?.isSome) .unsearchableName
  if looksUp then needNames m (·.isKey) .noKey
  match m.contentKey? with
  | .error fault => refuse fault.message
  | .ok _ => needNames m (·.points?.isSome) .unsearchableName

/-- Take a loose map for a renderer. One that is not made looks at nothing in the map. -/
def takeMapFor (o : RenderOptions) (m : LooseMap) : Except Renderer.Fault Renderer → Run Unit
  | .ok r => takeMap m r.isApplication (o.withAnalysis && looksUpNames r)
  | .error _ => return

/-- Render a script (`_render`). -/
def render (engine : Engine) (inputs : Inputs) (path : String) (o : RenderOptions) :
    Run String := do
  let script ← readScript inputs path
  let m ← readImportMap inputs o.importMap
  log .info s!"Rendering with {m.entries.length} imports"
  match filled? o.framework with
  | some framework =>
    warnUnknown engine framework
    takeMapFor o m (o.renderer engine m.outline.names script)
    if o.withAnalysis then
      rendered (engine.renderFrameworkWithWarnings framework m.outline script o.applicationName)
    else rendered (engine.renderFramework framework m.outline script o.applicationName)
  | none =>
    takeMapFor o m (o.renderer engine m.outline.names script)
    let run := if o.withAnalysis then engine.renderScriptWithWarnings m.outline script
      else engine.renderScript m.outline script
    rendered (run.adapt .render)

/-- Run a command and give what it prints. -/
def Command.run (engine : Engine) (inputs : Inputs) : Command → Run String
  | .analyze script withComplexity => CommandLine.analyze engine inputs script withComplexity
  | .render script options => CommandLine.render engine inputs script options
  | .frameworks => return Json.print engine.capabilities

/-- The record of the loading of the bundled rules. -/
def loadingRecord (rules : RuleSet) : Record where
  source := "rules.rules_loader"
  level := .info
  message := s!"Loaded {rules.libraries.length} external library patterns and " ++
    s!"{rules.modulePatterns.length} local module patterns"

/-- Where a command reads its script. -/
def Command.script? : Command → Option String
  | .analyze script _ | .render script _ => some script
  | .frameworks => none

/-- Whether a command reads its script from the standard input. -/
def Command.readsInput (c : Command) : Bool := c.script? == some "-"

/-- The paths of the files that a command reads. -/
def Command.paths (c : Command) : List String :=
  let importMap? := match c with
    | .render _ options => filled? options.importMap
    | _ => none
  (c.script?.filter (· != "-")).toList ++ importMap?.toList

/-- Carry out an invocation (`main`). -/
def Invocation.run (i : Invocation) (inputs : Inputs) : Except Failure Outcome := do
  if i.level.isNone then throw .noLevel
  let engine : Engine := {}
  let (result, records) := (i.command.run engine inputs).run [loadingRecord engine.analyzer.rules]
  match result with
  | .ok output =>
    .ok { exitCode := 0, output := output ++ "\n", records := records.reverse }
  | .error (.logged message) =>
    let record : Record := { source := "main", level := .error, message }
    .ok { exitCode := 1, records := (record :: records).reverse }
  | .error (.failure f) => .error f

/-- The log of an outcome as it is shown. -/
def Invocation.logText (i : Invocation) (outcome : Outcome) : String :=
  i.level.elim "" (CommandLine.logText · outcome.records)

/-- The exit code for refused arguments, and for a request for help. -/
def Stop.exitCode : Stop → Nat
  | .usage => 2
  | .help => 0

end ModuleScript.CommandLine
