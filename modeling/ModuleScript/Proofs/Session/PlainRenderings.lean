import ModuleScript.Proofs.Session.Workshop

/-!
# Plain renderings and the caches

Whatever has happened in a workshop, a plain renderer answers with the texts that the map as it
stands and its block have without any cache.
-/

namespace ModuleScript.Workshop

open Digest

/-- After any steps, the caches serve every plain rendering, as long as no two digests collide and
no map holds a separator. -/
theorem holds_served_of_plain (steps : List Step) {d : Rendering}
    (hplain : d.renderer.kind = .plain)
    (hfree : CollisionFree ((d :: calls {} steps).flatMap Rendering.messages))
    (hmaps : ∀ c ∈ d :: calls {} steps, c.map.FreeOfSeparators) :
    (run {} steps).store.Holds d.Served := by
  refine keeps_run (Store.stable_holds _) (Store.cold_empty.holds _) steps fun c hc q ↦ ?_
  have hpair := Rendering.collisionFree_pair hc hfree
  have hstands : c.StandsFor d := Rendering.standsFor_plain hpair hplain
    (accepted_empty.of_mem_calls hc) (hmaps c (List.mem_cons_of_mem _ hc))
    (hmaps d List.mem_cons_self)
  exact hstands.keeps q

/-- After any steps in a workshop, a plain renderer renders the imports of all names of its map as
it stands, in their order, and its block without the blanks around it; it gives these imports and
this block when asked for them. Whatever was rendered before, evicted, resized or cleared makes no
difference, as long as no two of the messages that were digested collide and the maps that were
rendered hold no separators. -/
theorem plain_answers_are_fresh (steps : List Step) {d : Rendering}
    (hplain : d.renderer.kind = .plain)
    (hfree : CollisionFree ((d :: calls {} steps).flatMap Rendering.messages))
    (hmaps : ∀ c ∈ d :: calls {} steps, c.map.FreeOfSeparators) :
    (run {} steps).answer d .script = .ok (.text (Script.wrap (Script.joinParts
        [Text.joinLines (d.map.names.map Script.importStatement), Text.trim d.renderer.block]))) ∧
      (run {} steps).answer d .imports =
        .ok (.text (Text.joinLines (d.map.names.map Script.importStatement))) ∧
      (run {} steps).answer d .processed = .ok (.text (Text.trim d.renderer.block)) := by
  have hserved := holds_served_of_plain steps hplain hfree hmaps
  have himports : d.importText =
      .ok (Text.joinLines (d.map.names.map Script.importStatement)) := by
    rw [Rendering.importText, Renderer.importText, hplain]
  have hblock : d.renderer.blockText = Text.trim d.renderer.block := by
    rw [Renderer.blockText, Renderer.process, hplain]
  refine ⟨?_, ?_, ?_⟩
  · rw [answer, (d.ensures_script _ hserved).2, Renderer.scriptText, Renderer.contentText]
    change Except.map _ (Except.map _ (Except.map _ d.importText)) = _
    rw [himports, Renderer.bodyText, Renderer.surroundText, hplain, hblock]
    rfl
  · rw [answer, Request.run, (d.ensures_imports _ hserved).2, himports]
    rfl
  · rw [answer, Request.run, ((Rendering.ensures_processed himports) _ hserved).2, hblock]

/-- A map that grows after a script was rendered over it. -/
theorem plain_answers_are_fresh_after_add :
    ∃ (steps : List Step) (d : Rendering), (run {} steps).rendering? 0 = some d ∧
      d.renderer.kind = .plain ∧
      CollisionFree ((d :: calls {} steps).flatMap Rendering.messages) ∧
      (∀ c ∈ d :: calls {} steps, c.map.FreeOfSeparators) ∧
      (run {} steps).answer d .imports =
        .ok (.text "import \"lodash\";\nimport Clock from \"Clock\";") := by
  let steps : List Step := [
    .addMap { entries := [{ name := "lodash", location := some "/lodash.js" }] },
    .addPlain 0 " run(); " none, .request 0 .script,
    .changeMap 0 (.add { name := "Clock", location := some "/clock.js" }),
    .configure "script_content" 1]
  let d : Rendering := {
    renderer := .ofBlock " run(); " none
    map := { entries := [{ name := "lodash", location := some "/lodash.js" },
      { name := "Clock", location := some "/clock.js" }] } }
  have hd : (run {} steps).rendering? 0 = some d := rfl
  have hfree : CollisionFree ((d :: calls {} steps).flatMap Rendering.messages) := by
    decide +kernel
  have hmaps : ∀ c ∈ d :: calls {} steps, c.map.FreeOfSeparators := by decide +kernel
  have hanswers := plain_answers_are_fresh steps (d := d) rfl hfree hmaps
  have himports : Text.joinLines (d.map.names.map Script.importStatement) =
      "import \"lodash\";\nimport Clock from \"Clock\";" := by decide +kernel
  exact ⟨steps, d, hd, rfl, hfree, hmaps, himports ▸ hanswers.2.1⟩

end ModuleScript.Workshop
