import ModuleScript.Analysis.Findings
import ModuleScript.Data.Value

/-!
# Findings and measures as plain data
-/

namespace ModuleScript

/-- The fields of findings. -/
def Findings.fields (f : Findings) : List (String × Value) :=
  [("external", .texts f.external), ("local", .texts f.localModules),
    ("suggestions", .texts f.suggestions)]

/-- The record of findings. -/
def Findings.toValue (f : Findings) : Value := .record f.fields

/-- The record of measures. -/
def Complexity.toValue (c : Complexity) : Value :=
  .record [("lines", .int c.lines), ("functions", .int c.functions), ("classes", .int c.classes),
    ("event_listeners", .int c.eventListeners), ("suggestions", .texts c.suggestions)]

end ModuleScript
