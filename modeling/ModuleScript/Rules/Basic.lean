import ModuleScript.Data.Value.Display
import ModuleScript.Digest.ContentKey
import ModuleScript.Pattern.Basic
import ModuleScript.Text.Order

/-!
# Detection rules

A rule set says how a script block gives away what it refers to. A library rule names a library
and a pattern of its use; module patterns capture the names of classes, of which some are
excluded because the platform provides them.
-/

namespace ModuleScript

/-- A pattern of use of a library, and the location on offer for it, null if there is none
(`LibraryRule`). -/
structure LibraryRule where
  name : String
  pattern : Pattern
  location : Value := .null

/-- Library rules and module patterns in order, and the names that are no modules
(`DependencyRules`). -/
structure RuleSet where
  libraries : List LibraryRule := []
  modulePatterns : List Pattern := []
  excluded : List String := []

namespace RuleSet

/-- The location on offer for a library: the first one that its rules give (`cdn_url_for`). -/
def locationOf? (rules : RuleSet) (name : String) : Option Value :=
  (rules.libraries.find? fun rule ↦ rule.name == name && rule.location.isTruthy).map (·.location)

/-- The excluded names in order, each once. -/
def excludedNames (rules : RuleSet) : List String := Text.sortedSet rules.excluded

/-- A library rule as it enters the fingerprint. -/
def fingerprintPart (rule : LibraryRule) : String :=
  let location := (rule.location.orElse (.text "")).display
  s!"{rule.name}={rule.pattern.source}={location}"

/-- The texts that a fingerprint is made of. -/
def fingerprintParts (rules : RuleSet) : List String :=
  rules.libraries.map fingerprintPart ++ rules.modulePatterns.map (·.source) ++
    rules.excludedNames

/-- A name for the rule set, by its content (`_rules_fingerprint`). -/
def fingerprint (rules : RuleSet) : String := Digest.contentKey rules.fingerprintParts

end RuleSet

end ModuleScript
