import ModuleScript.CommandLine.Log
import ModuleScript.CommandLine.Options

/-!
# Arguments of the command line

There are three commands: report the dependencies of a script, render a script, and list the
frameworks. The level of the log is asked for before the command.
-/

namespace ModuleScript.CommandLine

/-- What to render a script with. -/
structure RenderOptions where
  importMap : Option String := none
  framework : Option String := none
  applicationName : Option String := none
  withAnalysis : Bool := false
  deriving DecidableEq, Repr

/-- What to do. -/
inductive Command where
  | analyze (script : String) (withComplexity : Bool)
  | render (script : String) (options : RenderOptions)
  | frameworks
  deriving DecidableEq, Repr

/-- A command and the level of the log, if the one that is asked for is one. -/
structure Invocation where
  level : Option Level := some .warning
  command : Command
  deriving DecidableEq, Repr

/-- The options before the command. -/
def mainOptions : List LongOption := [helpOption, { name := "--log-level", takesValue := true }]

/-- The options of the report on dependencies. -/
def analyzeOptions : List LongOption := [helpOption, { name := "--complexity" }]

/-- The options of rendering. -/
def renderOptions : List LongOption :=
  [helpOption, { name := "--import-map", takesValue := true },
   { name := "--framework", takesValue := true },
   { name := "--application-name", takesValue := true }, { name := "--with-analysis" }]

/-- Read the arguments of a command. -/
def readCommand (options : List LongOption) (args : List String) : Except Stop Reading :=
  if anyAmbiguous options args then .error .usage
  else readArguments options args.length {} args

/-- The one word of a reading. -/
def Reading.theWord (r : Reading) : Except Stop String :=
  match r.word with
  | some word => if r.isExcessive then .error .usage else .ok word
  | none => .error .usage

/-- The command with a name, from its arguments. -/
def parseCommand (name : String) (args : List String) : Except Stop Command := do
  match name with
  | "analyze" =>
    let r ← readCommand analyzeOptions args
    return .analyze (← r.theWord) (r.has "--complexity")
  | "render" =>
    let r ← readCommand renderOptions args
    return .render (← r.theWord) {
      importMap := r.value? "--import-map"
      framework := r.value? "--framework"
      applicationName := r.value? "--application-name"
      withAnalysis := r.has "--with-analysis" }
  | "frameworks" =>
    let r ← readCommand [helpOption] args
    if r.word.isSome || r.isExcessive then throw .usage
    return .frameworks
  | _ => throw .usage

/-- Read the arguments before the command, and the command. -/
def parseFrom (level : Option Level) (isExcessive : Bool) :
    (fuel : Nat) → List String → Except Stop Invocation
  | 0, _ | _, [] => .error .usage
  | fuel + 1, arg :: rest =>
    if arg == "--" then .error .usage
    else match classify mainOptions arg with
      | .help => .error .help
      | .ambiguous => .error .usage
      | .unknown => parseFrom level true fuel rest
      | .word => do
        let command ← parseCommand arg rest
        if isExcessive then throw .usage
        return { level, command }
      | .option o value => do
        if o.takesValue then
          let (name, rest) ← valueOf mainOptions value rest
          match name, name.bind Level.ofName? with
          | some _, none => throw .usage
          | _, level => parseFrom level isExcessive fuel rest
        else if value.isSome then throw .usage
        else throw .help

/-- Read the arguments of the command line (`build_parser`). -/
def parse (args : List String) : Except Stop Invocation :=
  if anyAmbiguous mainOptions args then .error .usage
  else parseFrom (some .warning) false args.length args

end ModuleScript.CommandLine
