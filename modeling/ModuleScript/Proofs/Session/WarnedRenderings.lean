import ModuleScript.Proofs.Analysis.Advice
import ModuleScript.Proofs.Render.Warnings
import ModuleScript.Proofs.Session.Analyses
import ModuleScript.Proofs.Session.PlainRenderings

/-!
# Plain scripts with and without warnings

A script comes from one kept text, a script with warnings from several kept parts and from a kept
analysis. Whatever has happened in a workshop, both show the same imports and the same body, and
the warnings are all that one of them has more.
-/

namespace ModuleScript

open Store Digest

/-! ### Plain texts without caches -/

namespace Renderer

variable {r : Renderer} {m : ImportMap}

theorem bodyText_of_plain (h : r.kind = .plain) : r.bodyText = Text.trim r.block := by
  rw [bodyText, surroundText, blockText, process, h]

theorem importText_of_plain (h : r.kind = .plain) (m : ImportMap) :
    r.importText m = .ok (Text.joinLines (m.names.map Script.importStatement)) := by
  rw [importText, h]

/-- A plain script has the imports of all names and the block without the blanks around it. -/
theorem scriptText_of_plain (h : r.kind = .plain) (m : ImportMap) :
    r.scriptText m = .ok (Script.wrap (Script.joinParts
      [Text.joinLines (m.names.map Script.importStatement), Text.trim r.block])) := by
  rw [scriptText, contentText, importText_of_plain h, bodyText_of_plain h]
  rfl

/-- With warnings, a comment for each piece of advice follows the imports. -/
theorem warnedText_of_plain (h : r.kind = .plain) {found : Findings}
    (hown : r.ownFindings = .ok found) :
    r.warnedText m = .ok (Script.wrap (Script.joinParts [Script.joinFilled "\n"
      (Text.joinLines (m.names.map Script.importStatement) ::
        (r.withoutProvided m found).suggestions.map fun advice ↦ "// WARNING: " ++ advice),
      Text.trim r.block])) := by
  have hfilled : ∀ line ∈ (r.withoutProvided m found).suggestions.map warningLine, line ≠ "" := by
    intro line hline
    obtain ⟨advice, -, rfl⟩ := List.mem_map.mp hline
    intro hempty
    exact absurd (congrArg String.toList hempty) (by simp [warningLine, toString])
  have hwarnings : r.warningText m =
      .ok (Text.joinLines ((r.withoutProvided m found).suggestions.map warningLine)) := by
    rw [warningText, hown]
    rfl
  have hjoined := Script.joinFilled_cons_joinWith "\n"
    (Text.joinLines (m.names.map Script.importStatement)) hfilled
  rw [warnedText, hwarnings, importText_of_plain h]
  change Except.ok (r.warnedScript _ _) = _
  rw [warnedScript, bodyText_of_plain h]
  exact congrArg (Except.ok <| Script.wrap <| Script.joinParts [·, Text.trim r.block]) hjoined

end Renderer

/-! ### Analyses that stand in -/

namespace Rendering

variable {c d : Rendering}

/-- The messages whose digests are taken for the analysis of a block. -/
def analysisMessages (d : Rendering) : List (List UInt8) :=
  d.renderer.analyzer.toList.map fun a ↦ framing [a.space, d.renderer.block]

/-- Analysis is off, or it goes by the bundled rules. -/
def IsBundled (d : Rendering) : Prop :=
  d.renderer.analyzer = none ∨ d.renderer.analyzer = some .bundled

/-- No other analysis takes the place of one by the bundled rules, as long as digests do not
collide. -/
theorem IsBundled.analysesFor (hd : d.IsBundled)
    (hc : ∀ a, c.renderer.analyzer = some a → a.Built)
    (hfree : CollisionFree (c.analysisMessages ++ d.analysisMessages)) : c.AnalysesFor d := by
  intro a b ha hb hkey
  obtain rfl : a = .bundled := by
    rcases hd with hd | hd
    · exact absurd (hd.symm.trans ha) (by simp)
    · exact Option.some.inj (ha.symm.trans hd)
  have hframing := hfree _ (by simp [analysisMessages, hb]) _ (by simp [analysisMessages, ha]) hkey
  obtain ⟨hspace, hblock⟩ := framing_cons_inj (hc b hb).nul_notMem_space
    Analyzer.Built.bundled.nul_notMem_space hframing
  obtain rfl := (hc b hb).eq_bundled_of_alike hspace
  exact ⟨rfl, framing_singleton_inj hblock⟩

/-- By the bundled rules there are always findings, and advice on what is missing is one line. -/
theorem IsBundled.exists_ownFindings (h : d.IsBundled) :
    ∃ found, d.renderer.ownFindings = .ok found ∧
      ∀ advice ∈ (d.renderer.withoutProvided d.map found).suggestions, '\n' ∉ advice.toList := by
  rcases h with h | h
  · refine ⟨{}, ?_, fun advice hadvice ↦ ?_⟩
    · rw [Renderer.ownFindings, h]
    · exact absurd hadvice List.not_mem_nil
  · obtain ⟨found, hfound⟩ := Analyzer.exists_finds Analyzer.Built.bundled.grouped d.renderer.block
    refine ⟨found, Renderer.ownFindings_of_finds h hfound, fun advice hadvice ↦ ?_⟩
    rw [Renderer.withoutProvided] at hadvice
    split at hadvice
    · exact absurd hadvice List.not_mem_nil
    · change advice ∈ d.renderer.advice _ _ at hadvice
      rw [Renderer.advice, h] at hadvice
      exact Analysis.lineFeed_notMem_suggestions_bundled hfound List.filter_sublist.subset
        List.filter_sublist.subset hadvice

/-- A store with nothing else than what is a rendering's own gives its script. -/
theorem ensures_script_informs (d : Rendering) :
    Ensures d.Informs (Request.script.run d) (· = (d.renderer.scriptText d.map).map .text) :=
  d.ensures_script.and_keeps ((AnalysesFor.refl d).keeps .script)

/-- And its script with warnings. -/
theorem ensures_scriptWithWarnings (d : Rendering) :
    Ensures d.Informs (Request.scriptWithWarnings.run d)
      (· = (d.renderer.warnedText d.map).map .text) := by
  refine d.ensures_renderWithWarnings.bind (fun script h ↦ .pure ?_) fun fault h ↦ ?_
  · rw [← h]
    rfl
  · rw [← h]
    rfl

end Rendering

namespace Workshop

/-- The answers to two requests, one after the other. -/
def answersInTurn (w : Workshop) (d : Rendering) (first second : Request) :
    Except RenderFault Value × Except RenderFault Value :=
  let (answer, store) := (first.run d).run w.store
  (answer, ((second.run d).run store).1)

/-- Requests that are answered alike from all stores of a kind are answered so in turn. -/
theorem answersInTurn_eq {w : Workshop} {d : Rendering} {P : Store → Prop} (hw : P w.store)
    {first second : Request} {a b : Except RenderFault Value}
    (hfirst : Ensures P (first.run d) (· = a)) (hsecond : Ensures P (second.run d) (· = b)) :
    w.answersInTurn d first second = (a, b) := by
  obtain ⟨hstore, hanswer⟩ := hfirst _ hw
  exact Prod.ext hanswer (hsecond _ hstore).2

/-- After any steps, the caches hold nothing else than what is its own under the keys of a plain
rendering with the bundled rules and under those of its analysis. -/
theorem informs_of_plain (steps : List Step) {d : Rendering} (hplain : d.renderer.kind = .plain)
    (hrules : d.IsBundled)
    (hbuilt : ∀ c ∈ calls {} steps, ∀ a, c.renderer.analyzer = some a → a.Built)
    (hfree : CollisionFree ((d :: calls {} steps).flatMap fun c ↦
      c.messages ++ c.analysisMessages))
    (hmaps : ∀ c ∈ d :: calls {} steps, c.map.FreeOfSeparators) :
    d.Informs (run {} steps).store := by
  constructor
  · refine holds_served_of_plain steps hplain (hfree.of_subset fun message hmessage ↦ ?_) hmaps
    obtain ⟨c, hc, hmessage⟩ := List.mem_flatMap.mp hmessage
    exact List.mem_flatMap.mpr ⟨c, hc, List.mem_append_left _ hmessage⟩
  · refine keeps_run (stable_holds _) (cold_empty.holds _) steps fun c hc q ↦ ?_
    refine (hrules.analysesFor (hbuilt c hc) (hfree.of_subset fun message hmessage ↦ ?_)).keeps q
    rcases List.mem_append.mp hmessage with h | h
    · exact List.mem_flatMap.mpr ⟨c, List.mem_cons_of_mem _ hc, List.mem_append_right _ h⟩
    · exact List.mem_flatMap.mpr ⟨d, List.mem_cons_self, List.mem_append_right _ h⟩

/-- After any steps in a workshop, a plain renderer without analysis or with the bundled rules gives
its script and its script with warnings, in either order, with the same imports and the same body.
What it finds missing is all that makes a difference: directly behind the imports there is a comment
of one line for each piece of advice, in order, and no difference if there is none. -/
theorem warnings_are_the_only_difference (steps : List Step) {d : Rendering}
    (hplain : d.renderer.kind = .plain) (hrules : d.IsBundled)
    (hbuilt : ∀ c ∈ calls {} steps, ∀ a, c.renderer.analyzer = some a → a.Built)
    (hfree : CollisionFree ((d :: calls {} steps).flatMap fun c ↦
      c.messages ++ c.analysisMessages))
    (hmaps : ∀ c ∈ d :: calls {} steps, c.map.FreeOfSeparators) :
    ∃ missing : Findings, ((d.renderer.missing d.map).run (run {} steps).store).1 = .ok missing ∧
      (∀ advice ∈ missing.suggestions, '\n' ∉ advice.toList) ∧
      ∃ imports body script warned : String,
        imports = Text.joinLines (d.map.names.map Script.importStatement) ∧
        body = Text.trim d.renderer.block ∧
        script = Script.wrap (Script.joinParts [imports, body]) ∧
        warned = Script.wrap (Script.joinParts [Script.joinFilled "\n"
          (imports :: missing.suggestions.map fun advice ↦ "// WARNING: " ++ advice), body]) ∧
        (run {} steps).answersInTurn d .script .scriptWithWarnings =
          (.ok (.text script), .ok (.text warned)) ∧
        (run {} steps).answersInTurn d .scriptWithWarnings .script =
          (.ok (.text warned), .ok (.text script)) ∧
        (missing.suggestions = [] → warned = script) := by
  have hinforms := informs_of_plain steps hplain hrules hbuilt hfree hmaps
  obtain ⟨found, hown, hlines⟩ := hrules.exists_ownFindings
  have hscript := (d.ensures_script_informs).mono fun _ h ↦
    h.trans (congrArg (Except.map Value.text) (Renderer.scriptText_of_plain hplain d.map))
  have hwarned := (d.ensures_scriptWithWarnings).mono fun _ h ↦
    h.trans (congrArg (Except.map Value.text) (Renderer.warnedText_of_plain hplain hown))
  refine ⟨d.renderer.withoutProvided d.map found, ?_, hlines, _, _, _, _, rfl, rfl, rfl, rfl,
    answersInTurn_eq hinforms hscript hwarned, answersInTurn_eq hinforms hwarned hscript, ?_⟩
  · rw [(d.ensures_missing _ hinforms.2).2, hown]
    rfl
  · intro hnone
    rw [hnone, List.map_nil, Script.joinFilled_singleton]

/-- A script that is kept, and a warning about the one library that the map does not have. -/
theorem query_library_is_warned_about :
    ∃ (steps : List Step) (d : Rendering) (script warned : String),
      (run {} steps).rendering? 0 = some d ∧ d.renderer.kind = .plain ∧ d.IsBundled ∧
      (∀ c ∈ calls {} steps, ∀ a, c.renderer.analyzer = some a → a.Built) ∧
      CollisionFree ((d :: calls {} steps).flatMap fun c ↦ c.messages ++ c.analysisMessages) ∧
      (∀ c ∈ d :: calls {} steps, c.map.FreeOfSeparators) ∧
      (run {} steps).answersInTurn d .script .scriptWithWarnings =
        (.ok (.text script), .ok (.text warned)) ∧
      script = "<script type=\"module\">\nimport \"lodash\";\n\n" ++
        "_.map(items, $(x));\n</script>" ∧
      warned = "<script type=\"module\">\nimport \"lodash\";\n" ++
        "// WARNING: Add to import map: import_map.add_import(\"jquery\", " ++
        "\"https://cdn.jsdelivr.net/npm/jquery@3.7.1/dist/jquery.min.js\")\n\n" ++
        "_.map(items, $(x));\n</script>" := by
  let steps : List Step := [
    .addMap { entries := [{ name := "lodash", location := some "/lodash.js" }] },
    .addPlain 0 "_.map(items, $(x));\n" (some .bundled), .request 0 .script,
    .clearPartition "import_statements", .configure "dependencies" 1]
  let d : Rendering := {
    renderer := .ofBlock "_.map(items, $(x));\n" (some .bundled)
    map := { entries := [{ name := "lodash", location := some "/lodash.js" }] } }
  have hd : (run {} steps).rendering? 0 = some d := rfl
  have hcalls : calls {} steps = [d] := rfl
  have hbuilt : ∀ c ∈ calls {} steps, ∀ a, c.renderer.analyzer = some a → a.Built := by
    intro c hc a ha
    rw [hcalls] at hc
    obtain rfl := List.mem_singleton.mp hc
    obtain rfl := Option.some.inj ha
    exact .bundled
  have hown : CollisionFree (d.messages ++ d.analysisMessages) := by decide +kernel
  have hfree : CollisionFree ((d :: calls {} steps).flatMap fun c ↦
      c.messages ++ c.analysisMessages) := by
    refine hown.of_subset fun message hmessage ↦ ?_
    rw [hcalls, List.flatMap_cons, List.flatMap_singleton] at hmessage
    exact (List.mem_append.mp hmessage).elim id id
  have hmaps : ∀ c ∈ d :: calls {} steps, c.map.FreeOfSeparators := by decide +kernel
  obtain ⟨missing, hmissing, -, imports, body, script, warned, himports, hbody, hscript, hwarned,
    hanswers, -⟩ :=
    warnings_are_the_only_difference steps (d := d) rfl (.inr rfl) hbuilt hfree hmaps
  have hfound : ((d.renderer.missing d.map).run (run {} steps).store).1 = .ok {
      external := ["jquery"]
      suggestions := ["Add to import map: import_map.add_import(\"jquery\", " ++
        "\"https://cdn.jsdelivr.net/npm/jquery@3.7.1/dist/jquery.min.js\")"] } := by
    decide +kernel
  obtain rfl := Except.ok.inj (hfound.symm.trans hmissing)
  refine ⟨steps, d, script, warned, hd, rfl, .inr rfl, hbuilt, hfree, hmaps, hanswers, ?_, ?_⟩
  · rw [hscript, himports, hbody]
    decide +kernel
  · rw [hwarned, himports, hbody]
    decide +kernel

end Workshop

end ModuleScript
