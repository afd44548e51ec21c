import ModuleScript.Data.Value.Display

/-!
# Faults of import maps

Operations on import maps refuse what they are given for four reasons of their own, and reading a
record refuses what is no entry. Other faults are those of an operation that a value does not have:
a name that is no text cannot be searched, a list cannot be a key.
-/

namespace ModuleScript.ImportMap

/-- Why an operation on an import map fails. -/
inductive Fault where
  | emptyName
  | repeatedName (name map : Value)
  | scopeKey
  | unknownName (name : Value)
  | invalidEntry (item : Value)
  /-- A value of a data file is no dictionary where one is needed. -/
  | noDictionary
  /-- A value of a data file has no items where some are needed. -/
  | noItems
  /-- A name is no text and cannot be searched. -/
  | unsearchableName (name : Value)
  /-- The key of a scope is no text. -/
  | untextualScope (scope : Value)
  /-- A value that is no key is to be one. -/
  | noKey (v : Value)
  /-- A tag is a list or dictionary and cannot be counted. -/
  | uncountable
  /-- A name or a location is of another type than it is declared to be. -/
  | untyped

/-- The wording of a fault, unless a number in it is too long to be written. -/
def Fault.message : Fault → String
  | .emptyName => "Import name must not be empty"
  | .repeatedName name map =>
    match name.display?, map.display? with
    | .ok name, .ok owner => s!"Import '{name}' is already present in import map '{owner}'"
    | .error fault, _ | .ok _, .error fault => fault.message
  | .scopeKey => "Scope key must start with `/`, `./`, or `../`"
  | .unknownName name => name.display
  | .invalidEntry item =>
    if item.isWritable then s!"Invalid import map entry: {item.quoted}"
    else Decimal.LengthFault.written.message
  | .noDictionary => "a dictionary is needed"
  | .noItems => "a value with items is needed"
  | .unsearchableName name => s!"a name is searched that is no text: {name.quoted}"
  | .untextualScope scope => s!"the key of a scope is no text: {scope.quoted}"
  | .noKey v => s!"a value is no key: {v.quoted}"
  | .uncountable => "a tag that is a list or dictionary cannot be counted"
  | .untyped => "a name or a location is of another type than declared"

end ModuleScript.ImportMap
