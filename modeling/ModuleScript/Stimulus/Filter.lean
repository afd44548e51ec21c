import ModuleScript.Script.Statement
import ModuleScript.Stimulus.Application

/-!
# Lines that are written anew

Lines of the block that the generated script repeats are dropped: imports of controllers and
from the package, the start of the application and registrations. Every other line is kept as
it is.
-/

namespace ModuleScript.Stimulus

/-- The line without blanks at its ends and semicolons at its end. -/
def bareStatement (line : String) : String := Text.trim (Text.trimEnd (Text.trim line) ';')

/-- Whether a group matched one of the names. -/
def groupIn (m : Pattern.Match) (index : Nat) (names : List String) : Bool :=
  (m.group? index).any names.contains

/-- Whether a line is one that the generated script repeats (`_is_handled_line`). -/
def Application.handles (a : Application) (line : String) : Bool :=
  match matchLine? importLine line with
  | some m =>
    if groupIn m 2 [coreModule] then (matchLine? coreImportLine line).isSome
    else groupIn m 2 a.controllers || groupIn m 1 (a.mapControllers ++ a.reimported)
  | none =>
    match matchLine? sideEffectLine line with
    | some m => groupIn m 1 (coreModule :: a.controllers)
    | none =>
      (matchLine? (bootstrapLine a.name) line).isSome ||
        match matchLine? (registration a.name) (bareStatement line) with
        | some m => groupIn m 1 a.controllers
        | none => false

/-- The block without the lines that the generated script repeats (`process`). -/
def Application.process (a : Application) (block : String) : String :=
  Text.trim (Text.joinLines ((Text.lines (Text.trim block)).filter (!a.handles ·)))

end ModuleScript.Stimulus
