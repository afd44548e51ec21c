import ModuleScript.Text.Contains
import ModuleScript.Text.Word

/-!
# Options and words

Arguments are options, which start with two hyphens, or words. An option may be shortened as long
as it stays unique, and its value is the next word or stands behind an equals sign. Two hyphens
alone make words of all arguments behind them, and are no value behind an equals sign. Asking for
help ends the reading at once.
-/

namespace ModuleScript.CommandLine

/-- An option, and whether it takes a value. -/
structure LongOption where
  name : String
  takesValue : Bool := false
  deriving DecidableEq, Repr

/-- The option that asks for help. -/
def helpOption : LongOption := { name := "--help" }

/-- Why no command is run. -/
inductive Stop where
  /-- The arguments are refused. -/
  | usage
  | help
  deriving DecidableEq, Repr

/-- What an argument is. -/
inductive Item where
  | word
  | option (o : LongOption) (value : Option String)
  | help
  | ambiguous
  | unknown
  deriving DecidableEq, Repr

/-- Digits with at most one point before the last of them, behind a hyphen; a line feed may
follow. -/
def isNegativeNumber (cs : List Char) : Bool :=
  let body := if cs.getLast? == some '\n' then cs.dropLast else cs
  let tail := body.dropWhile Text.isDigit
  match tail with
  | [] => !body.isEmpty
  | '.' :: fraction => !fraction.isEmpty && fraction.all Text.isDigit
  | _ => false

/-- Cut an argument at its first equals sign. -/
def cutValue (arg : String) : String × Option String :=
  let name := arg.toList.takeWhile (· != '=')
  match arg.toList.drop name.length with
  | [] => (arg, none)
  | _ :: value => (String.ofList name, some (String.ofList value))

/-- The option that an argument of two hyphens gives or begins. -/
def longItem (options : List LongOption) (arg : String) : Item :=
  let (name, value) := cutValue arg
  match options.find? (·.name == arg), options.find? (·.name == name) with
  | some o, _ => .option o none
  | none, some o => .option o value
  | none, none =>
    match options.filter (Text.startsWith ·.name name) with
    | [] => if arg.toList.contains ' ' then .word else .unknown
    | [o] => .option o value
    | _ => .ambiguous

/-- Whether what follows a hyphen and the letter for help asks for nothing else: only the same
letter again, perhaps behind an equals sign. -/
def isHelpAgain (rest : List Char) : Bool :=
  let letters := match rest with
    | '=' :: value => value
    | _ => rest
  rest.isEmpty || !letters.isEmpty && letters.all (· == 'h')

/-- What an argument is, given the options there are. -/
def classify (options : List LongOption) (arg : String) : Item :=
  match arg.toList with
  | '-' :: '-' :: _ => longItem options arg
  | '-' :: 'h' :: rest =>
    if isHelpAgain rest then .help else .option helpOption (some (String.ofList rest))
  | '-' :: c :: rest =>
    if isNegativeNumber (c :: rest) || (c :: rest).contains ' ' then .word else .unknown
  | _ => .word

/-- Whether some argument before two hyphens alone could be several options. -/
def anyAmbiguous (options : List LongOption) (args : List String) : Bool :=
  (args.takeWhile (· != "--")).any fun arg ↦ classify options arg = .ambiguous

/-- The value of an option: behind its equals sign, or the next word; and the arguments left.
Two hyphens alone are no value. -/
def valueOf (options : List LongOption) (value : Option String) (rest : List String) :
    Except Stop (Option String × List String) :=
  match value, rest with
  | some v, _ => .ok (if v == "--" then none else some v, rest)
  | none, arg :: rest =>
    if arg != "--" && classify options arg = .word then .ok (some arg, rest) else .error .usage
  | none, [] => .error .usage

/-- Arguments that have been read. -/
structure Reading where
  /-- The options that are given, latest first, with their values, if any. -/
  values : List (String × Option String) := []
  /-- The word that is asked for. -/
  word : Option String := none
  /-- Whether the last argument was that word. -/
  atWord : Bool := false
  /-- Whether there were arguments that nobody asks for. -/
  isExcessive : Bool := false

namespace Reading

/-- The last value given to an option. -/
def value? (r : Reading) (name : String) : Option String := (r.values.lookup name).join

/-- Whether an option is given. -/
def has (r : Reading) (name : String) : Bool := (r.values.lookup name).isSome

/-- Take an option with its value. -/
def takeOption (r : Reading) (o : LongOption) (value : Option String) : Reading :=
  { r with values := (o.name, value) :: r.values, atWord := false }

/-- Take a word. -/
def takeWord (r : Reading) (arg : String) : Reading :=
  if r.word.isSome then { r with isExcessive := true, atWord := false }
  else { r with word := some arg, atWord := true }

/-- Take the words behind two hyphens alone. -/
def takeRest (r : Reading) (rest : List String) : Reading :=
  match r.word, rest with
  | none, arg :: more => { r with word := some arg, isExcessive := r.isExcessive || !more.isEmpty }
  | none, [] => { r with isExcessive := true }
  | some _, _ => { r with isExcessive := r.isExcessive || !(r.atWord && rest.isEmpty) }

end Reading

/-- Read arguments up to their end; `fuel` bounds their number. -/
def readArguments (options : List LongOption) :
    (fuel : Nat) → Reading → List String → Except Stop Reading
  | 0, r, _ | _, r, [] => .ok r
  | fuel + 1, r, arg :: rest =>
    if arg == "--" then .ok (r.takeRest rest)
    else match classify options arg with
      | .help => .error .help
      | .ambiguous => .error .usage
      | .unknown => readArguments options fuel { r with isExcessive := true, atWord := false } rest
      | .word => readArguments options fuel (r.takeWord arg) rest
      | .option o value => do
        if o.takesValue then
          let (v, rest) ← valueOf options value rest
          readArguments options fuel (r.takeOption o v) rest
        else if value.isSome then throw .usage
        else if o = helpOption then throw .help
        else readArguments options fuel (r.takeOption o none) rest

end ModuleScript.CommandLine
