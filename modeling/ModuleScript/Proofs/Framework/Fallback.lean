import ModuleScript.Framework.Engine
import ModuleScript.Proofs.Render.Warnings

/-!
# Frameworks that are not registered

An engine renders the script of a framework that is not registered as a plain script. It does so
with the bundled analyzer, whatever its own one is; the analyzer makes no difference to a script
without warnings, and to one with warnings exactly where it warns otherwise.
-/

namespace ModuleScript

namespace Renderer

/-- The analyzer has no part in a script without warnings. -/
theorem render_ofBlock (block : String) (a b : Option Analyzer) (m : ImportMap) :
    (ofBlock block a).render m = (ofBlock block b).render m := rfl

/-- The imports of a plain script are those of all names. -/
theorem importText_ofBlock (block : String) (a : Option Analyzer) (m : ImportMap) :
    (ofBlock block a).importText m =
      .ok (Text.joinLines (m.names.map Script.importStatement)) := rfl

end Renderer

/-- A framework that is not registered is not found. -/
theorem Registry.find?_eq_none_of_contains {r : Registry} {id : String}
    (h : r.contains id = false) : r.find? id = none := by
  rw [find?, Table.find?, List.find?_eq_none.mpr, Option.map_none]
  simpa [contains, Table.contains] using h

namespace Engine

open Renderer

variable {e : Engine} {id : String}

/-- The warnings on a script by the rules of the engine's analyzer, without caches. -/
def warnings (e : Engine) (m : ImportMap) (script : String) : Except RenderFault String :=
  (e.plainRenderer script).warningText m

/-- The engine with the bundled analyzer in place of its own one. -/
def withBundledAnalyzer (e : Engine) : Engine := { e with analyzer := .bundled }

/-- A name that is not registered is rendered like a plain script by the bundled analyzer. -/
theorem withFramework_of_unregistered (h : e.registry.contains id = false) (m : ImportMap)
    (script : String) (instanceName : Option String) (use : Renderer → Shared String) :
    e.withFramework id m script instanceName use =
      (use (e.withBundledAnalyzer.plainRenderer script)).adapt .render := by
  rw [withFramework, Registry.create, Registry.find?_eq_none_of_contains h]
  rfl

/-- The result of a plain rendering, as that of an engine. -/
theorem run_adapt (x : Shared String) (s : Store) :
    ((x.adapt Fault.render).run s).1 = (x.run s).1.mapError .render := rfl

/-- Plain renderings that differ do so as those of an engine. -/
theorem mapError_render_inj {x y : Except RenderFault String} :
    x.mapError Fault.render = y.mapError .render ↔ x = y := by
  cases x <;> cases y <;> simp [Except.mapError]

/-- From caches without entries, a plain script with warnings is the one without caches. -/
theorem run_renderScriptWithWarnings_of_cold (e : Engine) (m : ImportMap) (script : String)
    {s : Store} (hs : s.Cold) : ((e.renderScriptWithWarnings m script).run s).1 =
      (e.plainRenderer script).warnedText m :=
  Rendering.run_renderWithWarnings_of_cold ⟨e.plainRenderer script, m⟩ hs

/-- Two engines give the same script with warnings exactly where they warn the same. -/
theorem warnedText_plainRenderer_eq_iff (e e' : Engine) (m : ImportMap) (script : String) :
    (e.plainRenderer script).warnedText m = (e'.plainRenderer script).warnedText m ↔
      e.warnings m script = e'.warnings m script :=
  warnedText_eq_iff rfl (importText_ofBlock script _ m) (importText_ofBlock script _ m)

/-- Of an engine's analyzer, only the rules matter to the warnings. -/
theorem warnings_eq_of_rules {e' : Engine} (h : e.analyzer.rules = e'.analyzer.rules)
    (m : ImportMap) (script : String) : e.warnings m script = e'.warnings m script := by
  have hfindings : (e.plainRenderer script).ownFindings =
      (e'.plainRenderer script).ownFindings := by
    change e.analyzer.outcome script = e'.analyzer.outcome script
    rw [Analyzer.outcome, Analyzer.outcome, h]
  have hmissing : (e.plainRenderer script).withoutProvided m =
      (e'.plainRenderer script).withoutProvided m := by
    funext found
    simp only [withoutProvided, advice, plainRenderer, ofBlock, h]
    rfl
  rw [warnings, warnings, warningText, warningText, hfindings, hmissing]

/-- By rules that always find something to answer, a script with warnings can be made. -/
theorem exists_warnedText (h : e.analyzer.rules.Grouped) (m : ImportMap) (script : String) :
    ∃ text, (e.plainRenderer script).warnedText m = .ok text := by
  obtain ⟨found, hfound⟩ := Analyzer.exists_finds h script
  have hwarnings : ∃ warnings, e.warnings m script = .ok warnings := by
    rw [warnings, warningText]
    change ∃ warnings, ((Analysis.findings e.analyzer.rules script).mapError _).map _ = _
    unfold Analyzer.Finds at hfound
    rw [hfound]
    exact ⟨_, rfl⟩
  obtain ⟨warnings, hwarnings⟩ := hwarnings
  unfold Engine.warnings at hwarnings
  rw [warnedText, hwarnings]
  exact ⟨_, rfl⟩

/-- What becomes of a framework that is not registered, whatever instance is named. Its script is
the plain one. With warnings it is the plain one of the bundled analyzer; from empty caches it is
that of the engine's own analyzer exactly if both warn the same, which they do if the rules are the
bundled ones. Neither fails from empty caches. -/
theorem unregistered_frameworks_are_plain_by_bundled_rules (h : e.registry.contains id = false)
    (m : ImportMap) (script : String) (instanceName : Option String) :
    e.renderFramework id m script instanceName = (e.renderScript m script).adapt .render ∧
    e.renderFrameworkWithWarnings id m script instanceName =
      (e.withBundledAnalyzer.renderScriptWithWarnings m script).adapt .render ∧
    (∀ s : Store, s.Cold →
      (∃ text, ((e.renderFramework id m script instanceName).run s).1 = .ok text) ∧
      ∃ text, ((e.renderFrameworkWithWarnings id m script instanceName).run s).1 = .ok text) ∧
    (∀ s s' : Store, s.Cold → s'.Cold →
      (((e.renderFrameworkWithWarnings id m script instanceName).run s).1 =
        (((e.renderScriptWithWarnings m script).adapt Fault.render).run s').1 ↔
        e.withBundledAnalyzer.warnings m script = e.warnings m script)) ∧
    (e.analyzer.rules = .bundled →
      e.withBundledAnalyzer.warnings m script = e.warnings m script) := by
  have hplain : e.renderFramework id m script instanceName =
      (e.renderScript m script).adapt .render := by
    rw [renderFramework, withFramework_of_unregistered h, renderScript, plainRenderer,
      plainRenderer, render_ofBlock]
  have hwarned : e.renderFrameworkWithWarnings id m script instanceName =
      (e.withBundledAnalyzer.renderScriptWithWarnings m script).adapt .render :=
    withFramework_of_unregistered h m script instanceName _
  refine ⟨hplain, hwarned, fun s hs ↦ ⟨?_, ?_⟩, fun s s' hs hs' ↦ ?_, fun hrules ↦ ?_⟩
  · have hscript := (Rendering.ensures_render ⟨e.plainRenderer script, m⟩ s (hs.holds _)).2
    rw [hplain, run_adapt, renderScript, hscript]
    exact ⟨_, rfl⟩
  · obtain ⟨text, htext⟩ :=
      exists_warnedText (e := e.withBundledAnalyzer) RuleSet.grouped_bundled m script
    rw [hwarned, run_adapt, run_renderScriptWithWarnings_of_cold _ m script hs, htext]
    exact ⟨text, rfl⟩
  · rw [hwarned, run_adapt, run_adapt, mapError_render_inj,
      run_renderScriptWithWarnings_of_cold _ m script hs,
      run_renderScriptWithWarnings_of_cold _ m script hs', warnedText_plainRenderer_eq_iff]
  · exact warnings_eq_of_rules hrules.symm m script

/-- An engine with a rule of its own on a library warns of it in a plain script, and not where the
script is said to be one of a framework that is not registered. -/
theorem acme_is_not_warned_of_in_unknown_framework :
    ∃ (rules : RuleSet) (e : Engine), Analyzer.ofRules? rules = .ok e.analyzer ∧
      e.registry.contains "unknown" = false ∧
      e.renderFramework "unknown" {} "acme();" none =
        (e.renderScript {} "acme();").adapt .render ∧
      e.warnings {} "acme();" = .ok "// WARNING: Consider adding 'acme' to your import map" ∧
      e.withBundledAnalyzer.warnings {} "acme();" = .ok "" ∧
      ((e.renderFrameworkWithWarnings "unknown" {} "acme();" none).run {}).1 ≠
        (((e.renderScriptWithWarnings {} "acme();").adapt Fault.render).run {}).1 := by
  let pattern : Pattern.Parsed := RuleSet.written "acme\\(" (Pattern.Node.letters "acme(") 0
  let rules : RuleSet := { libraries := [⟨"acme", pattern.pattern, .null⟩] }
  let e : Engine := { analyzer := ⟨rules, rules.fingerprint⟩ }
  have hunknown : e.registry.contains "unknown" = false := by decide
  obtain ⟨hplain, -, -, hiff, -⟩ :=
    unregistered_frameworks_are_plain_by_bundled_rules hunknown {} "acme();" none
  have hown : e.warnings {} "acme();" =
      .ok "// WARNING: Consider adding 'acme' to your import map" := by decide +kernel
  have hbundled : e.withBundledAnalyzer.warnings {} "acme();" = .ok "" := by decide +kernel
  refine ⟨rules, e, rfl, hunknown, hplain, hown, hbundled, fun heq ↦ ?_⟩
  have hsame := (hiff {} {} Store.cold_empty Store.cold_empty).mp heq
  rw [hown, hbundled] at hsame
  exact absurd (Except.ok.inj hsame) (by decide)

end Engine

end ModuleScript
