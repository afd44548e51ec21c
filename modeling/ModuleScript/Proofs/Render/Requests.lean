import ModuleScript.Proofs.Analysis.Answers
import ModuleScript.Proofs.Render.Served

/-!
# Requests to renderers

What can be asked of a renderer. The answers go through the caches of scripts and, for warnings,
through those of the analysis. A store that serves a rendering goes on serving it whatever is
asked of renderings that can stand in for it.
-/

namespace ModuleScript

open Store

/-- What can be asked of a renderer. -/
inductive Request where
  | imports
  | processed
  | body
  | content
  | script
  | scriptWithWarnings
  deriving DecidableEq, Repr

/-- The answer to a request. -/
def Request.run (q : Request) (d : Rendering) : Shared Value :=
  match q with
  | .imports => d.renderer.imports d.map
  | .processed => d.renderer.processed d.map
  | .body => d.renderer.body d.map
  | .content => d.renderer.content d.map
  | .script => do return .text (← d.renderer.render d.map)
  | .scriptWithWarnings => do return .text (← d.renderer.renderWithWarnings d.map)

/-! ### What requests keep -/

/-- A look-up in a partition keeps what its computation keeps. -/
def LooksUp (P : Store → Prop) (p : Partition) : Prop :=
  ∀ (key : String) (compute : Shared Artifact), Keeps P compute →
    Keeps P ((slot p.name).getOrCompute key compute)

section Keeps

variable {P : Store → Prop}

theorem keeps_keptText {p : Partition} {parts : List String} {text : Shared String}
    (hp : LooksUp P p) (htext : Keeps P text) : Keeps P (Renderer.keptText p parts text) :=
  (hp _ _ (htext.bind fun _ ↦ .pure _)).bind fun _ ↦ .pure _

/-- Findings keep what the look-up of the analyzer does. -/
theorem keeps_findings {r : Renderer}
    (h : ∀ a, r.analyzer = some a → Keeps P (a.keptFindings r.block)) : Keeps P r.findings := by
  rw [Renderer.findings]
  cases ha : r.analyzer with
  | none => exact .pure _
  | some a => exact a.keeps_analyze (h a ha)

/-- So do the specifiers of the block. -/
theorem keeps_existingImports {r : Renderer}
    (h : ∀ a, r.analyzer = some a → Keeps P (a.existingImports r.block)) :
    Keeps P r.existingImports := by
  rw [Renderer.existingImports]
  cases ha : r.analyzer with
  | none => exact .pure _
  | some a =>
    refine (h a ha).bind fun kept ↦ ?_
    cases kept.elements? with
    | none => exact .throw _
    | some names =>
      change Keeps _ (if _ then _ else _)
      split
      · exact .pure _
      · exact .throw _

/-- And what is missing. -/
theorem keeps_missing {r : Renderer} {m : ImportMap}
    (hfindings : ∀ a, r.analyzer = some a → Keeps P (a.keptFindings r.block))
    (hspecifiers : ∀ a, r.analyzer = some a → Keeps P (a.existingImports r.block)) :
    Keeps P (r.missing m) := by
  rw [Renderer.missing]
  refine (keeps_findings hfindings).bind fun found ↦ ?_
  split
  · exact .pure _
  · exact .bind (.bind (keeps_existingImports hspecifiers) fun names ↦ .pure _) fun provided ↦
      .pure _

/-- The analysis has caches of its own. -/
theorem keeps_missing_of_looksUp (hfound : LooksUp P .dependencies)
    (hnames : LooksUp P .existingImports) (r : Renderer) (m : ImportMap) :
    Keeps P (r.missing m) := by
  refine keeps_missing (fun a _ ↦ hfound _ _ ?_) fun a _ ↦
    .bind (hnames _ _ (.pure _)) fun kept ↦ .pure _
  cases Analysis.findings a.rules r.block with
  | ok found => exact .pure _
  | error fault => exact .throw _

/-- What stands behind the imports keeps what the processed block does. -/
theorem keeps_body {r : Renderer} {m : ImportMap} (hprocessed : Keeps P (r.processed m)) :
    Keeps P (r.body m) := hprocessed.bind fun _ ↦ Rendering.keeps_ofResult _

/-- A request keeps what the parts of a script and the analysis keep. -/
theorem Request.keeps {d : Rendering} (himports : Keeps P (d.renderer.imports d.map))
    (hprocessed : Keeps P (d.renderer.processed d.map))
    (hcontent : Keeps P (d.renderer.content d.map))
    (hmissing : Keeps P (d.renderer.missing d.map)) (q : Request) : Keeps P (q.run d) := by
  have hbody := keeps_body hprocessed
  cases q with
  | imports => exact himports
  | processed => exact hprocessed
  | body => exact hbody
  | content => exact hcontent
  | script =>
    refine Keeps.bind (hcontent.bind fun content ↦ ?_) fun script ↦ .pure _
    split
    · exact .pure _
    · exact .throw _
  | scriptWithWarnings =>
    refine Keeps.bind ?_ fun script ↦ .pure _
    rw [Renderer.renderWithWarnings]
    refine hmissing.bind fun missing ↦ himports.bind fun imports ↦ ?_
    refine (Rendering.keeps_ofResult _).bind fun head ↦ hbody.bind fun body ↦ ?_
    exact (Rendering.keeps_ofResult _).bind fun script ↦ .pure _

/-- So it keeps what look-ups of texts and the analysis keep. -/
theorem Request.keeps_of_keptText {d : Rendering}
    (htext : ∀ p ∈ Renderer.partitions, ∀ (parts : List String) (text : Shared String),
      Keeps P text → Keeps P (Renderer.keptText p parts text))
    (hmissing : Keeps P (d.renderer.missing d.map)) (q : Request) : Keeps P (q.run d) := by
  have himports : Keeps P (d.renderer.imports d.map) :=
    htext _ (by decide) _ _ (Rendering.keeps_ofResult _)
  have hprocessed : Keeps P (d.renderer.processed d.map) := htext _ (by decide) _ _ (.pure _)
  have hbody := keeps_body hprocessed
  have hcontent : Keeps P (d.renderer.content d.map) := htext _ (by decide) _ _
    (himports.bind fun imports ↦ hbody.bind fun body ↦ Rendering.keeps_ofResult _)
  exact q.keeps himports hprocessed hcontent hmissing

end Keeps

/-- A condition on entries is kept if everything that comes to be kept meets it: texts of scripts,
what the analyzer finds in the block, and the specifiers of the block. -/
theorem Request.keeps_of_answers {ok : Condition} {d : Rendering}
    (htext : ∀ p ∈ Renderer.partitions, ∀ key text, ok p.name key (.data (.text text)))
    (hfindings : ∀ a found, d.renderer.analyzer = some a → a.Finds d.renderer.block found →
      ok Partition.dependencies.name (a.key d.renderer.block) (.findings found))
    (hspecifiers : ∀ a, d.renderer.analyzer = some a →
      ok Partition.existingImports.name (a.key d.renderer.block)
        (.data (.texts (Analysis.existingImports d.renderer.block))))
    (q : Request) : Keeps (Holds ok) (q.run d) := by
  apply q.keeps_of_keptText
  case htext =>
    intro p hp parts text hkeeps
    refine Rendering.ensures_keptText (fun _ _ ↦ trivial) (hkeeps.mono fun _ _ ↦ ?_)
    exact ⟨fun t _ ↦ htext p hp _ t, fun _ _ ↦ trivial⟩
  case hmissing =>
    refine keeps_missing (fun a ha ↦ ?_) fun a ha ↦ .bind ?_ fun _ ↦ .pure _
    · refine Ensures.getOrCompute (fun _ _ ↦ trivial) ?_
      cases hfound : Analysis.findings a.rules d.renderer.block with
      | error fault => exact .throw ⟨by simp, fun _ _ ↦ trivial⟩
      | ok found =>
        refine .pure ⟨?_, fun _ _ ↦ trivial⟩
        rintro _ ⟨⟩
        exact hfindings a found ha hfound
    · refine Ensures.getOrCompute (fun _ _ ↦ trivial) (.pure ⟨?_, fun _ _ ↦ trivial⟩)
      rintro _ ⟨⟩
      exact hspecifiers a ha

/-- Partitions of scripts keep nothing but texts. -/
def Store.Textual : Condition := fun name _ kept ↦
  ∀ p ∈ Renderer.partitions, name = p.name → ∃ text, kept = .data (.text text)

namespace Rendering

variable {c d : Rendering}

/-- The analysis leaves what is kept of scripts as it is. -/
theorem keeps_missing_served (c d : Rendering) :
    Keeps (Holds d.Served) (c.renderer.missing c.map) := by
  have hother {p : Partition} (hp : ∀ used ∈ Renderer.partitions, p.name ≠ used.name) :
      LooksUp (Holds d.Served) p :=
    fun _ _ hcompute ↦ .getOrCompute (fun _ _ ↦ served_of_ne hp) hcompute
  exact keeps_missing_of_looksUp (hother (by decide)) (hother (by decide)) _ _

/-- Whatever is asked of a rendering that can stand in, the store goes on serving the other one. -/
theorem StandsFor.keeps (h : c.StandsFor d) (q : Request) : Keeps (Holds d.Served) (q.run c) :=
  q.keeps h.ensures_imports.keeps h.ensures_processed.keeps h.ensures_content.keeps
    (keeps_missing_served c d)

/-- No request takes the room away. -/
theorem keeps_roomy (d : Rendering) (q : Request) : Keeps Roomy (q.run d) := by
  have hlook (p : Partition) : LooksUp Roomy p := fun _ _ ↦ .getOrCompute_roomy
  exact q.keeps_of_keptText (fun p _ _ _ ↦ keeps_keptText (hlook p))
    (keeps_missing_of_looksUp (hlook _) (hlook _) _ _)

/-- No request leaves anything but texts in the partitions of scripts. -/
theorem keeps_textual (d : Rendering) (q : Request) : Keeps (Holds Textual) (q.run d) := by
  have hother (p : Partition) (hp : ∀ used ∈ Renderer.partitions, p.name ≠ used.name)
      (key : String) (kept : Artifact) : Textual p.name key kept :=
    fun used hused hname ↦ absurd hname (hp used hused)
  apply q.keeps_of_answers
  case htext => exact fun p _ _ text _ _ _ ↦ ⟨text, rfl⟩
  case hfindings => exact fun _ _ _ _ ↦ hother .dependencies (by decide) _ _
  case hspecifiers => exact fun _ _ ↦ hother .existingImports (by decide) _ _

/-- A store that serves a rendering gives its script. -/
theorem ensures_script (d : Rendering) :
    Ensures (Holds d.Served) (Request.script.run d)
      (· = (d.renderer.scriptText d.map).map .text) := by
  refine d.ensures_render.bind (fun script h ↦ .pure ?_) fun fault h ↦ ?_
  · rw [← h]
    rfl
  · rw [← h]
    rfl

end Rendering

end ModuleScript
