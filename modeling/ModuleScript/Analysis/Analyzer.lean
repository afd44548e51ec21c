import ModuleScript.Analysis.Imports
import ModuleScript.Analysis.Measures
import ModuleScript.Cache.Store
import ModuleScript.Rules.Bundled
import ModuleScript.Rules.Loose

/-!
# Analyzers

An analyzer answers questions about blocks by its rules and keeps the answers in shared caches.
The key of an answer holds a name for the rules, so analyzers with different rules do not
share answers.
-/

namespace ModuleScript

/-- Rules, and the name under which answers by these rules are kept (`DependencyAnalyzer`). -/
structure Analyzer where
  rules : RuleSet
  space : String

/-- What can go wrong while a script is analysed or rendered. -/
inductive RenderFault where
  | analysis (fault : Analysis.Fault)
  /-- The location of an entry is needed and there is none. -/
  | noLocation (name : String)
  /-- A value is kept where there should be findings. -/
  | noFindings
  /-- A value is kept where there should be measures. -/
  | noMeasures
  /-- The value kept for the specifiers of a block has no items that could be names. -/
  | noSpecifiers
  /-- A part of a script to be joined with others is no text. -/
  | noPart
  /-- The content of a script is no text. -/
  | noContent
  deriving DecidableEq, Repr

/-- The wording of what went wrong. -/
def RenderFault.message : RenderFault → String
  | .analysis (.noGroup pattern) => s!"no group in pattern {pattern}"
  | .noLocation name => s!"no location of {name}"
  | .noFindings => "no findings are kept"
  | .noMeasures => "no measures are kept"
  | .noSpecifiers => "no specifiers are kept"
  | .noPart => "a part is no text"
  | .noContent => "the content is no text"

/-- A computation that may fail and has the shared caches at hand. -/
abbrev Shared := ExceptT RenderFault (StateM Store)

namespace Analyzer

/-- The analyzer by the bundled rules. -/
def bundled : Analyzer := ⟨.bundled, "default"⟩

/-- Why no analyzer can be made by given rules: their content cannot be written, or a text in it
cannot be encoded. -/
inductive RulesFault where
  | number (fault : Decimal.LengthFault)
  | brokenText
  deriving DecidableEq, Repr

/-- The wording of a refusal, without the place of what cannot be encoded. -/
def RulesFault.message : RulesFault → String
  | .number fault => fault.message
  | .brokenText => "surrogates not allowed"

/-- The analyzer by given rules, unless the location on offer for a library cannot be written, or
not be encoded. -/
def ofRules? (rules : RuleSet) : Except RulesFault Analyzer :=
  if rules.libraries.all (·.location.isWritable) then
    if rules.libraries.any (·.location.isBroken) then .error .brokenText
    else .ok ⟨rules, rules.fingerprint⟩
  else .error (.number .written)

/-- The analyzer by loose rules. All texts that their name is made of are written before any of them
is encoded. -/
def ofLoose? (rules : LooseRuleSet) : Except RulesFault Analyzer :=
  if rules.libraries.all (·.location.isWritable) && rules.hasBrokenText then .error .brokenText
  else ofRules? rules.shown

/-- The key of an answer about a block (`_key`). -/
def key (a : Analyzer) (block : String) : String := Digest.contentKey [a.space, block]

/-- What is kept as the findings in a block. -/
def keptFindings (a : Analyzer) (block : String) : Shared Artifact :=
  (Store.slot Partition.dependencies.name).getOrCompute (a.key block) do
    match Analysis.findings a.rules block with
    | .ok found => return .findings found
    | .error fault => throw (.analysis fault)

/-- What is kept as the specifiers that a block imports (`extract_existing_imports`). -/
def existingImports (a : Analyzer) (block : String) : Shared Value := do
  let kept ← (Store.slot Partition.existingImports.name).getOrCompute (a.key block) do
    return .data (.texts (Analysis.existingImports block))
  return kept.toValue

/-- What is kept as the measures of a block. -/
def keptComplexity (a : Analyzer) (block : String) : Shared Artifact :=
  (Store.slot Partition.complexity.name).getOrCompute (a.key block) do
    return .complexity (Analysis.measure block)

/-- The findings in a block (`analyze`). -/
def analyze (a : Analyzer) (block : String) : Shared Findings := do
  match (← a.keptFindings block).findings? with
  | some found => return found
  | none => throw .noFindings

/-- The measures of a block; none if null is kept for them (`analyze_complexity`). -/
def complexity? (a : Analyzer) (block : String) : Shared (Option Complexity) := do
  let kept ← a.keptComplexity block
  if kept.toValue.isNull then return none
  match kept.complexity? with
  | some measures => return some measures
  | none => throw .noMeasures

end Analyzer

end ModuleScript
