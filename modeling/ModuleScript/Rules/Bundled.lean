import ModuleScript.Rules.Basic
import ModuleScript.Script.Name

/-!
# The bundled rules

The library and module patterns that come with this library, each with the text that reads as
its tree.
-/

namespace ModuleScript.RuleSet

open Pattern Node
open Script (capital plainWord)

/-- A pattern, from its text, the nodes of its tree and the number of its groups. -/
def written (source : String) (nodes : List Node) (groups : Nat) : Parsed :=
  { source, node := concat nodes, groups }

/-- A group of words. -/
def wordGroup (words : List String) : Node := group 1 (anyOf (words.map literal))

/-- A class name, kept as the first group. -/
def classGroup : Node := group 1 (concat [oneOf [capital], star (oneOf plainWord)])

/-- What opens a call, after blanks. -/
def callOpens : List Node := [blanks, char (.single '(')]

/-- The methods by which both names of the collection library are recognised. -/
def collectionMethods : List String :=
  ["map", "filter", "forEach", "reduce", "find", "includes", "isEmpty", "isArray", "get", "set",
   "has", "clone"]

/-- The bundled library rules, with the trees of their patterns. -/
def bundledUses : List (String × Parsed × Value) :=
  let queryUrl := Value.text "https://cdn.jsdelivr.net/npm/jquery@3.7.1/dist/jquery.min.js"
  let lodashUrl := Value.text "https://cdn.jsdelivr.net/npm/lodash@4.17.21/+esm"
  let momentUrl := Value.text "https://cdn.jsdelivr.net/npm/moment@2.29.4/+esm"
  let chartUrl := Value.text "https://cdn.jsdelivr.net/npm/chart.js@4.4.0/+esm"
  let alpineUrl := Value.text "https://cdn.jsdelivr.net/npm/alpinejs@3.13.2/dist/module.esm.js"
  let vueUrl := Value.text "https://cdn.jsdelivr.net/npm/vue@3.3.4/dist/vue.esm-browser.js"
  let reactUrl := Value.text "https://cdn.jsdelivr.net/npm/react@18.2.0/+esm"
  let axiosUrl := Value.text "https://cdn.jsdelivr.net/npm/axios@1.5.0/+esm"
  [("jquery", written "\\$\\s*\\(" (letters "$" ++ callOpens) 0, queryUrl),
   ("jQuery", written "jQuery[\\.\\s]*[\\(\\w]"
      (letters "jQuery" ++ [star (oneOf [.single '.', .oneOf .blank]),
        oneOf [.single '(', .oneOf .word]]) 0, queryUrl),
   ("lodash", written
      "_\\.(map|filter|forEach|reduce|find|includes|isEmpty|isArray|get|set|has|clone)"
      (letters "_." ++ [wordGroup collectionMethods]) 1, lodashUrl),
   ("lodash", written
      "lodash\\.(map|filter|forEach|reduce|find|includes|isEmpty|isArray|get|set|has|clone)"
      (letters "lodash." ++ [wordGroup collectionMethods]) 1, lodashUrl),
   ("moment", written "moment\\s*\\(" (letters "moment" ++ callOpens) 0, momentUrl),
   ("moment", written "moment\\.(now|utc|unix)"
      (letters "moment." ++ [wordGroup ["now", "utc", "unix"]]) 1, momentUrl),
   ("chartjs", written "new\\s+Chart\\s*\\("
      (letters "new" ++ [someBlanks] ++ letters "Chart" ++ callOpens) 0, chartUrl),
   ("chartjs", written "Chart\\.(register|defaults)"
      (letters "Chart." ++ [wordGroup ["register", "defaults"]]) 1, chartUrl),
   ("alpinejs", written "Alpine\\.(start|data|store)"
      (letters "Alpine." ++ [wordGroup ["start", "data", "store"]]) 1, alpineUrl),
   ("alpinejs", written "x-data\\s*=" (letters "x-data" ++ [blanks] ++ letters "=") 0, alpineUrl),
   ("vue", written "Vue\\.(createApp|ref|reactive|computed)"
      (letters "Vue." ++ [wordGroup ["createApp", "ref", "reactive", "computed"]]) 1, vueUrl),
   ("vue", written "createApp\\s*\\(" (letters "createApp" ++ callOpens) 0, vueUrl),
   ("react", written "React\\.(useState|useEffect|createElement)"
      (letters "React." ++ [wordGroup ["useState", "useEffect", "createElement"]]) 1, reactUrl),
   ("react-dom", written "ReactDOM\\.render" (letters "ReactDOM.render") 0, .null),
   ("axios", written "axios\\.(get|post|put|delete)"
      (letters "axios." ++ [wordGroup ["get", "post", "put", "delete"]]) 1, axiosUrl),
   ("unfetch", written "fetch\\s*\\(" (letters "fetch" ++ callOpens) 0, .null)]

/-- The bundled library rules. -/
def bundledLibraries : List LibraryRule :=
  bundledUses.map fun (name, pattern, location) ↦ ⟨name, pattern.pattern, location⟩

/-- A constructor call of a class. -/
def constructorCall : Parsed :=
  written "\\bnew\\s+([A-Z][a-zA-Z0-9_]*)\\s*\\("
    ([anchor .wordEdge] ++ letters "new" ++ [someBlanks, classGroup] ++ callOpens) 1

/-- A call of a class's own method. -/
def staticCall : Parsed :=
  written "\\b([A-Z][a-zA-Z0-9_]*)\\.[a-zA-Z_][a-zA-Z0-9_]*\\s*\\("
    ([anchor .wordEdge, classGroup] ++ letters "." ++
      [oneOf [.range 'a' 'z', capital, .single '_'], star (oneOf plainWord)] ++ callOpens) 1

/-- An assignment or call of a class's own constant. -/
def staticConstant : Parsed :=
  written "\\b([A-Z][a-zA-Z0-9_]*)\\.[A-Z_][A-Z0-9_]*\\s*[=\\(]"
    ([anchor .wordEdge, classGroup] ++ letters "." ++
      [oneOf [capital, .single '_'], star (oneOf [capital, .range '0' '9', .single '_']), blanks,
       oneOf [.single '=', .single '(']]) 1

/-- Names that the platform provides. -/
def platformNames : List String :=
  ["Object", "Array", "String", "Number", "Boolean", "Date", "RegExp", "Error", "Promise",
   "Window", "Document", "Element", "Event", "Node", "XMLHttpRequest", "FormData", "Blob", "File",
   "FileReader", "Map", "Set", "WeakMap", "WeakSet", "Symbol", "Proxy", "Reflect", "JSON", "Math",
   "console", "localStorage", "sessionStorage", "setTimeout", "setInterval", "clearTimeout",
   "clearInterval", "fetch", "Response", "Request", "Headers", "URL", "URLSearchParams",
   "CustomEvent", "KeyboardEvent", "MouseEvent", "TouchEvent", "Audio", "Video", "Image", "Canvas",
   "WebSocket", "Worker"]

/-- The bundled module patterns, with their trees. -/
def bundledCaptures : List Parsed := [constructorCall, staticCall, staticConstant]

/-- The bundled rule set (`get_default_rules`). -/
def bundled : RuleSet where
  libraries := bundledLibraries
  modulePatterns := bundledCaptures.map Parsed.pattern
  excluded := platformNames

/-- Every bundled pattern is what its text reads as. -/
theorem parse?_source_bundled :
    ∀ p ∈ bundledUses.map (·.2.1) ++ bundledCaptures,
      (Pattern.parse? p.source).toOption = some p := by
  decide +kernel

end ModuleScript.RuleSet
