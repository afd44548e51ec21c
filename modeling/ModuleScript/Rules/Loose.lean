import ModuleScript.Rules.Basic

/-!
# Loose detection rules

Rules that are loaded hold the texts that their files spell out, and these may be broken. Nothing
minds that until the rules are to be named by their content. Loose rules without broken texts are
detection rules.
-/

namespace ModuleScript

/-- A pattern, and the text that it was compiled from. -/
structure LoosePattern where
  source : Value
  pattern : Pattern

/-- A pattern of use of a library, and the location on offer for it, null if there is none
(`LibraryRule`). -/
structure LooseRule where
  name : Value
  pattern : LoosePattern
  location : Value := .null

/-- Library rules and module patterns in order, and the names that are no modules
(`DependencyRules`). -/
structure LooseRuleSet where
  libraries : List LooseRule := []
  modulePatterns : List LoosePattern := []
  excluded : List Value := []

/-- Whether a text in a rule is broken. -/
def LooseRule.hasBrokenText (rule : LooseRule) : Bool :=
  rule.name.isBroken || rule.pattern.source.isBroken || rule.location.isBroken

/-- The pattern with its text. -/
def LoosePattern.shown (p : LoosePattern) : Pattern := { p.pattern with source := p.source.display }

/-- The rule with its texts. -/
def LooseRule.shown (rule : LooseRule) : LibraryRule where
  name := rule.name.display
  pattern := rule.pattern.shown
  location := rule.location

namespace LooseRuleSet

/-- Whether a text in the rules is broken. -/
def hasBrokenText (rules : LooseRuleSet) : Bool :=
  rules.libraries.any LooseRule.hasBrokenText || rules.modulePatterns.any (·.source.isBroken) ||
    rules.excluded.any Value.isBroken

/-- The rules with their texts. -/
def shown (rules : LooseRuleSet) : RuleSet where
  libraries := rules.libraries.map LooseRule.shown
  modulePatterns := rules.modulePatterns.map LoosePattern.shown
  excluded := rules.excluded.map Value.display

end LooseRuleSet

end ModuleScript
