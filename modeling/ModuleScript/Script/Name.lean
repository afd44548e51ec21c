import ModuleScript.Pattern.Match

/-!
# Names in scripts

What names have to look like: identifiers, names of classes, and names of controllers. Each is
a pattern that is matched from the start of the name; its end condition also holds before a
line feed that ends the name.
-/

namespace ModuleScript.Script

open Pattern

/-- Capital letters. -/
def capital : CharItem := .range 'A' 'Z'

/-- ASCII letters, digits and the low line. -/
def plainWord : List CharItem := [.range 'a' 'z', capital, .range '0' '9', .single '_']

/-- The first character of an identifier. -/
def identifierStart : List CharItem := [capital, .range 'a' 'z', .single '_', .single '$']

/-- An identifier: a letter, low line or dollar sign, then word characters and dollar signs. -/
def identifier : Node :=
  .seq (.oneOf identifierStart) (.star (.oneOf [.oneOf .word, .single '$']))

/-- A name that is an identifier. -/
def identifierName : Node := .concat [.anchor .textStart, identifier, .anchor .textEnd]

/-- A name that is a capital followed by ASCII word characters. -/
def className : Node :=
  .concat [.anchor .textStart, .oneOf [capital], .star (.oneOf plainWord), .anchor .textEnd]

/-- A class name that ends in the word for a controller. -/
def controllerName : Node :=
  .concat ([.anchor .textStart, .oneOf [capital], .star (.oneOf plainWord)] ++
    Node.letters "Controller" ++ [.anchor .textEnd])

/-- A small letter directly before a capital. -/
def innerCapital : Node := .seq (.oneOf [.range 'a' 'z']) (.oneOf [capital])

/-- Whether the name is an identifier. -/
def isIdentifier (name : String) : Bool := (identifierName.matchStart? name.toList).isSome

/-- Whether the name is that of a class. -/
def isClassName (name : String) : Bool := (className.matchStart? name.toList).isSome

/-- Whether the name is that of a controller (`looks_like_controller`). -/
def isControllerName (name : String) : Bool := (controllerName.matchStart? name.toList).isSome

/-- Whether the name reads as a binding: an identifier that starts with a capital or has one inside
(`looks_like_identifier`). -/
def isBindingName (name : String) : Bool :=
  isIdentifier name &&
    (name.toList.head?.any Text.isAsciiUpper || innerCapital.occursIn name.toList)

end ModuleScript.Script
