import ModuleScript.Calendar.Moment
import ModuleScript.Decimal.DigitLimit
import ModuleScript.Text.Quoted

/-!
# Faults of YAML texts

A text may be malformed or nested too deeply; and a scalar may be none of what its tag says.
-/

namespace ModuleScript.Yaml

/-- Why a text is not read. -/
inductive Fault where
  | malformed
  /-- Lists and mappings are nested too deeply. -/
  | tooDeep
  /-- Nothing is written where a number should be. -/
  | emptyNumber
  /-- A text is no whole number of a base. -/
  | noWholeNumber (base : Nat) (text : String)
  /-- A text is no floating-point number. -/
  | noNumber (text : String)
  /-- A whole number has too many digits. -/
  | longNumber (fault : Decimal.LengthFault)
  /-- A part of a number counts for too much. -/
  | largeNumber
  /-- A word is none of those for truth and falsehood. -/
  | noTruthValue (word : String)
  /-- A text is no date or moment. -/
  | noDate
  /-- A date or moment is asked for where there is no text. -/
  | undatable
  /-- A date or moment does not exist. -/
  | calendar (fault : Calendar.Fault)
  deriving DecidableEq, Repr

/-- The greatest length of a text in the wording of a fault. -/
def shownLength : Nat := 200

/-- The wording of a fault. -/
def Fault.message : Fault → String
  | .noWholeNumber base text =>
    let shown := String.ofList ((Text.quote text).toList.take shownLength)
    s!"invalid literal for int() with base {base}: {shown}"
  | .noNumber text => s!"could not convert string to float: {Text.quote text}"
  | .longNumber fault => fault.message
  | .noTruthValue word => word
  | .calendar fault => fault.message
  | .malformed => "malformed text"
  | .tooDeep => "nested too deeply"
  | .emptyNumber => "empty number"
  | .largeNumber => "number too large"
  | .noDate | .undatable => "no date"

end ModuleScript.Yaml
