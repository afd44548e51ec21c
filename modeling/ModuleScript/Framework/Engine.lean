import ModuleScript.Framework.Registry
import ModuleScript.Render.Output

/-!
# Engines

An engine renders scripts by the frameworks of a registry and analyses blocks by an analyzer of
its own. The analyzer serves plain scripts only; the renderers of frameworks bring the bundled
one.
-/

namespace ModuleScript

/-- A registry and an analyzer (`Engine`). -/
structure Engine where
  registry : Registry := .bundled
  analyzer : Analyzer := .bundled

namespace Engine

/-- What can go wrong when an engine renders. -/
inductive Fault where
  | renderer (fault : Renderer.Fault)
  | render (fault : RenderFault)
  deriving DecidableEq, Repr

/-- The findings in a script (`analyze_dependencies`). -/
def findings (e : Engine) (script : String) : Shared Findings := e.analyzer.analyze script

/-- The renderer of a plain script. -/
def plainRenderer (e : Engine) (script : String) : Renderer := .ofBlock script (some e.analyzer)

/-- Render a plain script (`render_script`). -/
def renderScript (e : Engine) (m : ImportMap) (script : String) : Shared String :=
  (e.plainRenderer script).render m

/-- Render a plain script with warnings (`render_script_with_analysis`). -/
def renderScriptWithWarnings (e : Engine) (m : ImportMap) (script : String) : Shared String :=
  (e.plainRenderer script).renderWithWarnings m

/-- Make the renderer of a framework and go on with it. -/
def withFramework (e : Engine) (id : String) (m : ImportMap) (script : String)
    (instanceName : Option String) (use : Renderer → Shared String) :
    ExceptT Fault (StateM Store) String :=
  match e.registry.create id m.names script instanceName with
  | .ok renderer => (use renderer).adapt .render
  | .error fault => throw (.renderer fault)

/-- Render the script of a framework (`render_framework_script`). -/
def renderFramework (e : Engine) (id : String) (m : ImportMap) (script : String)
    (instanceName : Option String) : ExceptT Fault (StateM Store) String :=
  e.withFramework id m script instanceName (·.render m)

/-- Render the script of a framework with warnings (`render_framework_script_with_analysis`). -/
def renderFrameworkWithWarnings (e : Engine) (id : String) (m : ImportMap) (script : String)
    (instanceName : Option String) : ExceptT Fault (StateM Store) String :=
  e.withFramework id m script instanceName (·.renderWithWarnings m)

/-- Register a framework (`register_framework`). -/
def register (compile : String → Except Pattern.Fault Pattern) (e : Engine)
    (q : Registry.Request) : Except Registry.Fault Engine := do
  return { e with registry := ← e.registry.register compile q }

/-- What an engine can do: the names of its frameworks and the summary of its registry
(`get_framework_capabilities`). -/
def capabilities (e : Engine) : Value :=
  .record [("supported_frameworks", .texts e.registry.ids),
    ("registry_summary", e.registry.summary)]

end Engine

end ModuleScript
