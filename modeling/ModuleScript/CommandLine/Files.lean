import ModuleScript.Text.Lines

/-!
# Files by path

What stands at a path below the working directory: a file, a directory, or nothing. A path can
only lead on through directories. There are limits to the length of a path and of the names in
it, and a name beyond its limit is found out when it is looked up.
-/

namespace ModuleScript.CommandLine

/-- What stands at a path. -/
inductive PathContent where
  | file (bytes : List UInt8)
  | missing
  | directory
  /-- A file where the path needs a directory. -/
  | notDirectory
  /-- The path or a name in it is too long. -/
  | nameTooLong
  deriving DecidableEq, Repr

/-- Files by the names on their paths. -/
abbrev FileTree := List (List String × List UInt8)

namespace FileTree

/-- The tree of files given by their paths. -/
def ofList (files : List (String × List UInt8)) : FileTree :=
  files.map fun (path, bytes) ↦ (Text.split path '/', bytes)

/-- The length in bytes from which on a path is too long. -/
def pathLimit : Nat := 4096

/-- The greatest length of a name in bytes. -/
def nameLimit : Nat := 255

/-- Whether a name says to stay in a directory or to leave it for the one around it. -/
def isDots (name : String) : Bool := name.isEmpty || name == "." || name == ".."

/-- Follow the names of a path through directories of which nothing is known. -/
def followOutside (names : List String) : PathContent :=
  match names.find? (!isDots ·) with
  | none => .directory
  | some name => if name.utf8ByteSize > nameLimit then .nameTooLong else .missing

/-- Follow the names of a path from a directory. -/
def follow (t : FileTree) (place : List String) : List String → PathContent
  | [] => .directory
  | name :: rest =>
    if name.isEmpty || name == "." then follow t place rest
    else if name == ".." then
      if place.isEmpty then followOutside rest else follow t place.dropLast rest
    else if name.utf8ByteSize > nameLimit then .nameTooLong
    else
      let here := place ++ [name]
      match t.lookup here with
      | some bytes => if rest.isEmpty then .file bytes else .notDirectory
      | none => if t.any fun (path, _) ↦ here.isPrefixOf path then follow t here rest else .missing

/-- What stands at a path; of absolute paths nothing is known but the root. -/
def find (t : FileTree) (path : String) : PathContent :=
  let names := Text.split path '/'
  if path.isEmpty then .missing
  else if pathLimit ≤ path.utf8ByteSize then .nameTooLong
  else if names.head? == some "" then followOutside names
  else t.follow [] names

end FileTree

end ModuleScript.CommandLine
