/-!
# What an analysis finds

The libraries and modules that a script block refers to, with advice on each, and the rough
measures of a block.
-/

namespace ModuleScript

/-- Library names and module names in the order of their detection, and advice on them
(`DependencyFindings`). -/
structure Findings where
  external : List String := []
  localModules : List String := []
  suggestions : List String := []
  deriving DecidableEq, Repr

/-- Whether no library and no module was found (`is_empty`). -/
def Findings.isEmpty (f : Findings) : Bool := f.external.isEmpty && f.localModules.isEmpty

/-- Measures of a block, and advice where they are large (`ComplexityReport`). -/
structure Complexity where
  lines : Nat
  functions : Nat
  classes : Nat
  eventListeners : Nat
  suggestions : List String := []
  deriving DecidableEq, Repr

end ModuleScript
