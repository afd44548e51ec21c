import ModuleScript.Proofs.Render.Kept
import ModuleScript.Proofs.Session.Workshop

/-!
# Renderings of applications and the caches

The keys of an application's renderer do not tell everything that its texts depend on. A script
that is rendered at once, by a renderer made for the map as it stands, is the one without caches as
long as all renderings that are alike agree with it. One that does not agree can spoil the script.
-/

namespace ModuleScript.Workshop

open Digest Store

/-- A rendering of an application whose renderer is made for the map as it stands. -/
def fresh? (w : Workshop) (place : Nat) (block : String) (given : Option String)
    (analyzer : Option Analyzer) : Except Renderer.Fault Rendering :=
  (Renderer.stimulus? (w.session.map place).names block given analyzer).map
    (⟨·, w.session.map place⟩)

/-- The script is the one that comes out when nothing is kept. -/
def UpToDate (w : Workshop) (d : Rendering) : Prop :=
  w.answer d .script = (w.step .clear).answer d .script

/-- The workshop after the caches were cleared, something was asked of one rendering and some more
steps. -/
def afterRequest (w : Workshop) (index : Nat) (q : Request) (more : List Step) : Workshop :=
  w.run (.clear :: .request index q :: more)

variable {w : Workshop} {place : Nat} {block : String} {given : Option String}
  {analyzer : Option Analyzer} {c d : Rendering}

/-- Such a rendering is of an application with an accepted name, over the map as it stands. -/
theorem fresh?_eq_ok (h : w.fresh? place block given analyzer = .ok d) :
    d.renderer.Accepted ∧ d.Current := by
  rw [fresh?] at h
  cases hr : Renderer.stimulus? (w.session.map place).names block given analyzer with
  | error fault =>
    rw [hr] at h
    exact absurd h (by simp [Except.map])
  | ok r =>
    rw [hr] at h
    obtain ⟨name, hname, rfl⟩ := Renderer.stimulus?_eq_ok hr
    obtain rfl := Except.ok.inj h
    exact ⟨.inr ⟨_, rfl, hname⟩, rfl⟩

/-- What is made afresh depends on nothing but the maps. -/
theorem fresh?_eq_of_maps {w' : Workshop} (h : w.session.maps = w'.session.maps) :
    w.fresh? place block given analyzer = w'.fresh? place block given analyzer := by
  rw [fresh?, fresh?, Session.map, Session.map, h]

/-- When nothing is kept, the script is the one without caches. -/
theorem answer_clear (w : Workshop) (d : Rendering) :
    (w.step .clear).answer d .script = (d.renderer.scriptText d.map).map .text :=
  (d.ensures_script _ (w.store.cold_clear.holds _)).2

/-- Caches that serve the rendering leave its script as it is. -/
theorem upToDate_of_holds (h : w.store.Holds d.Served) : w.UpToDate d := by
  rw [UpToDate, answer_clear]
  exact (d.ensures_script _ h).2

/-! ### What is kept -/

/-- There is room in the caches after any steps. -/
theorem roomy_run (steps : List Step) : (run {} steps).store.Roomy :=
  keeps_run (w := {}) stable_roomy roomy_empty steps fun c _ q ↦ c.keeps_roomy q

/-- After any steps, the caches keep nothing but texts for scripts. -/
theorem holds_textual_run (steps : List Step) : (run {} steps).store.Holds Textual :=
  keeps_run (stable_holds _) (cold_empty.holds _) steps fun c _ q ↦ c.keeps_textual q

/-- After any steps the script of an application is up to date, if and only if the content from what
is kept is the rendering's own. -/
theorem upToDate_iff_contentFrom (steps : List Step)
    (hd : (run {} steps).fresh? place block given analyzer = .ok d) :
    (run {} steps).UpToDate d ↔
      d.contentFrom ((run {} steps).store.keptTexts d.contentKey) = d.contentText := by
  obtain ⟨-, hkind⟩ := fresh?_eq_ok hd
  have hshows := shows_keptTexts (holds_textual_run steps) (roomy_run steps) d.contentKey
  rw [UpToDate, answer_clear, answer, Rendering.run_script hkind hshows,
    Rendering.script_contentFrom_eq_iff hkind]

/-! ### Renderings that agree -/

/-- After any steps the script of an application is up to date, if all renderings of which
something was asked and that are alike agree with it. -/
theorem upToDate_of_agreesWith (steps : List Step)
    (hd : (run {} steps).fresh? place block given analyzer = .ok d)
    (hfree : CollisionFree ((d :: calls {} steps).flatMap Rendering.messages))
    (hagree : ∀ c ∈ calls {} steps, c.Alike d → c.AgreesWith d) : (run {} steps).UpToDate d := by
  obtain ⟨haccepted, hkind⟩ := fresh?_eq_ok hd
  refine upToDate_of_holds (keeps_run (stable_holds _) (cold_empty.holds _) steps fun c hc q ↦ ?_)
  have hstands : c.StandsFor d := Rendering.standsFor_stimulus
    (Rendering.collisionFree_pair hc hfree) hkind haccepted (accepted_empty.of_mem_calls hc)
    (hagree c hc)
  exact hstands.keeps q

/-- It is up to date if these renderings were current, the same entries loaded the package, and no
map holds a separator. -/
theorem upToDate_of_current (steps : List Step)
    (hd : (run {} steps).fresh? place block given analyzer = .ok d)
    (hfree : CollisionFree ((d :: calls {} steps).flatMap Rendering.messages))
    (hmaps : ∀ c ∈ d :: calls {} steps, c.map.FreeOfSeparators)
    (hcalls : ∀ c ∈ calls {} steps, c.Alike d → c.Current ∧
      c.map.entries.map Stimulus.isCoreEntry = d.map.entries.map Stimulus.isCoreEntry) :
    (run {} steps).UpToDate d := by
  refine upToDate_of_agreesWith steps hd hfree fun c hc h ↦ ?_
  obtain ⟨hcurrent, hcore⟩ := hcalls c hc h
  exact h.agreesWith_of_current hcurrent (fresh?_eq_ok hd).2 (hmaps c (List.mem_cons_of_mem _ hc))
    (hmaps d List.mem_cons_self) hcore

/-! ### Renderings that do not -/

/-- Unless more is asked, the caches are what the request left. -/
theorem store_afterRequest {index : Nat} (hc : w.rendering? index = some c) (q : Request)
    {more : List Step} (hmore : ∀ s ∈ more, s.isQuiet = true) :
    (w.afterRequest index q more).store = ((q.run c).run w.store.clear).2 := by
  rw [afterRequest, run_cons, run_cons, store_run_of_isQuiet _ hmore, step]
  have hclear : (w.step .clear).rendering? index = some c := hc
  rw [hclear]
  rfl

/-- The maps do not depend on the request. -/
theorem maps_afterRequest (w : Workshop) (index : Nat) (q : Request) (more : List Step) :
    (w.afterRequest index q more).session.maps = (w.run more).session.maps := by
  have hmaps : ((w.step .clear).step (.request index q)).session.maps = w.session.maps :=
    maps_step_request (w.step .clear) index q
  exact maps_run hmaps more

/-- A rendering that is alike, and whose imports do not fail, leaves the script up to date, whatever
is asked of it, if and only if it agrees. -/
theorem forall_upToDate_iff_agreesWith {steps more : List Step} {index : Nat} {imports : String}
    (hc : (run {} steps).rendering? index = some c) (himports : c.importText = .ok imports)
    (hmore : ∀ s ∈ more, s.isQuiet = true)
    (hd : ((run {} steps).run more).fresh? place block given analyzer = .ok d) (h : c.Alike d) :
    (∀ q, ((run {} steps).afterRequest index q more).UpToDate d) ↔ c.AgreesWith d := by
  obtain ⟨-, hkind⟩ := fresh?_eq_ok hd
  obtain ⟨b, hkind'⟩ := Rendering.exists_kind_eq_stimulus
    ((accepted_empty.run steps).of_rendering? hc) hkind h.label
  have hcold := (run {} steps).store.cold_clear
  have hstore (q : Request) := store_afterRequest hc q hmore
  constructor
  · intro hall
    refine h.agreesWith_of_answers hkind hkind' hcold (stable_roomy.clear (roomy_run steps))
      himports fun q ↦ ?_
    rw [← hstore, ← answer_clear]
    exact hall q
  · intro hagree q
    refine upToDate_of_holds ?_
    rw [hstore]
    exact ((hagree.standsFor h hkind' hkind).keeps q _ (hcold.holds _)).1

/-! ### When scripts are up to date -/

/-- After any steps in a workshop, let a renderer of an application be made for a map as it stands.
Its script is the one that comes out when nothing is kept, if and only if the content from what is
kept for its key is its own. It is, if the renderings of which something was asked before agree with
it wherever their keys do not tell them from it. Agreement cannot be dispensed with: where a
rendering is alike and its imports do not fail, and something is asked of it after the caches were
cleared and nothing since, the script is up to date whatever was asked if and only if the rendering
agrees. -/
theorem stimulus_scripts_depend_on_agreement :
    (∀ steps : List Step, (run {} steps).fresh? place block given analyzer = .ok d →
      ((run {} steps).UpToDate d ↔
        d.contentFrom ((run {} steps).store.keptTexts d.contentKey) = d.contentText) ∧
      (CollisionFree ((d :: calls {} steps).flatMap Rendering.messages) →
        (∀ c ∈ calls {} steps, c.Alike d → c.AgreesWith d) → (run {} steps).UpToDate d)) ∧
    ∀ (steps more : List Step) (index : Nat) (imports : String),
      (run {} steps).rendering? index = some c → c.importText = .ok imports →
      (∀ s ∈ more, s.isQuiet = true) →
      ((run {} steps).run more).fresh? place block given analyzer = .ok d → c.Alike d →
      ((∀ q : Request,
        ((run {} steps).afterRequest index q more).fresh? place block given analyzer = .ok d ∧
          ((run {} steps).afterRequest index q more).UpToDate d) ↔ c.AgreesWith d) := by
  refine ⟨fun steps hd ↦ ⟨upToDate_iff_contentFrom steps hd, upToDate_of_agreesWith steps hd⟩,
    fun steps more index imports hc himports hmore hd h ↦ ?_⟩
  have hfresh (q : Request) :
      ((run {} steps).afterRequest index q more).fresh? place block given analyzer = .ok d := by
    rw [← hd]
    exact fresh?_eq_of_maps (maps_afterRequest _ index q more)
  rw [← forall_upToDate_iff_agreesWith hc himports hmore hd h]
  exact forall_congr' fun q ↦ and_iff_right (hfresh q)

/-- Sorting an entry leaves a script up to date that was rendered before, tagging it does not. -/
theorem runtime_script_is_stale_once_tagged :
    ∃ (steps : List Step) (sort tag : Step) (c sorted tagged : Rendering),
      (run {} (steps ++ [.request 0 .script, sort])).fresh? 0 "run();" none none = .ok sorted ∧
      (run {} (steps ++ [.request 0 .script, sort])).UpToDate sorted ∧
      (run {} steps).rendering? 0 = some c ∧ c.Alike tagged ∧
      ((run {} steps).run [tag]).fresh? 0 "run();" none none = .ok tagged ∧
      ∃ q, ¬((run {} steps).afterRequest 0 q [tag]).UpToDate tagged := by
  let entry : Entry := { name := "runtime", location := some "/runtime.js" }
  let m : ImportMap := { entries := [entry] }
  let msort : ImportMap := { entries := [{ entry with kind := .text "library" }] }
  let mtag : ImportMap := { entries := [{ entry with framework := .text "stimulus" }] }
  let r : Renderer :=
    { kind := .stimulus (.discover "application" ["runtime"] "run();"), block := "run();"
      analyzer := none }
  let steps : List Step := [.addMap m, .addStimulus 0 "run();" none none]
  let sort : Step := .changeMap 0 (.categorize "runtime" (.text "library") .null)
  let tag : Step := .changeMap 0 (.categorize "runtime" .null (.text "stimulus"))
  have hr : Renderer.stimulus? ["runtime"] "run();" none none = .ok r :=
    Renderer.stimulus?_of_isIdentifier _ _ _ (by decide +kernel)
  have hw : run {} steps = { session := { maps := #[m] }, renderers := [(0, r)] } :=
    step_addStimulus { session := { maps := #[m] } } 0 hr
  have hrun (w : Workshop) (hmap : w.session.map 0 = msort ∨ w.session.map 0 = mtag) :
      w.fresh? 0 "run();" none none = .ok ⟨r, w.session.map 0⟩ := by
    have hnames : (w.session.map 0).names = ["runtime"] := by
      rcases hmap with hmap | hmap <;> rw [hmap] <;> rfl
    rw [fresh?, hnames, hr]
    rfl
  have hsort : (run {} (steps ++ [.request 0 .script, sort])).session.map 0 = msort := by
    rw [run_append, hw]
    rfl
  have htag : ((run {} steps).run [tag]).session.map 0 = mtag := by
    rw [hw]
    rfl
  have hsorted := hrun _ (.inl hsort)
  have htagged := hrun _ (.inr htag)
  rw [hsort] at hsorted
  rw [htag] at htagged
  have hc : (run {} steps).rendering? 0 = some ⟨r, m⟩ := by
    rw [hw]
    rfl
  have hcalls : calls {} (steps ++ [.request 0 .script, sort]) = [⟨r, m⟩] := by
    rw [calls_append, hw]
    rfl
  have hfree : CollisionFree (([⟨r, msort⟩, ⟨r, m⟩] : List Rendering).flatMap
      Rendering.messages) := by
    have hpair : CollisionFree [m.framing, framing (r.contentParts m)] := by decide +kernel
    refine hpair.of_subset fun message hmessage ↦ ?_
    obtain ⟨c, hc, hmessage⟩ := List.mem_flatMap.mp hmessage
    rw [List.mem_cons, List.mem_singleton] at hc ⊢
    rcases hc with rfl | rfl <;>
      rw [Rendering.messages_of_stimulus rfl, List.mem_cons, List.mem_replicate] at hmessage <;>
      exact hmessage.imp_right And.right
  have hagree : (⟨r, m⟩ : Rendering).AgreesWith ⟨r, msort⟩ :=
    Rendering.Alike.agreesWith_of_current ⟨rfl, rfl, rfl, rfl⟩ rfl rfl (by decide +kernel)
      (by decide +kernel) rfl
  have himports : (⟨r, m⟩ : Rendering).importText = .ok
      "import \x7b Application \x7d from \"@hotwired/stimulus\";\nimport \"runtime\";" := by
    decide +kernel
  have himports' : (⟨r, mtag⟩ : Rendering).importText = .ok
      "import \x7b Application \x7d from \"@hotwired/stimulus\";" := by
    decide +kernel
  have hdisagree : ¬(⟨r, m⟩ : Rendering).AgreesWith ⟨r, mtag⟩ := fun hagree ↦ by
    have h := himports'.symm.trans (hagree.imports _ himports)
    exact absurd (Except.ok.inj h) (by decide +kernel)
  have hup := ((stimulus_scripts_depend_on_agreement (c := ⟨r, m⟩) (d := ⟨r, msort⟩)).1 _
    hsorted).2 (by rwa [hcalls]) fun c hc _ ↦ by
      rw [hcalls, List.mem_singleton] at hc
      exact hc ▸ hagree
  have halike : (⟨r, m⟩ : Rendering).Alike ⟨r, mtag⟩ := ⟨rfl, rfl, rfl, rfl⟩
  have hiff := (stimulus_scripts_depend_on_agreement (c := ⟨r, m⟩) (d := ⟨r, mtag⟩)).2 steps [tag]
    0 _ hc himports (by decide) htagged halike
  obtain ⟨q, hq⟩ := not_forall.mp (mt hiff.mp hdisagree)
  have hstale := maps_afterRequest (run {} steps) 0 q [tag]
  refine ⟨steps, sort, tag, ⟨r, m⟩, ⟨r, msort⟩, ⟨r, mtag⟩, hsorted, hup, hc, halike, htagged, q,
    fun hdate ↦ hq ⟨?_, hdate⟩⟩
  rw [← htagged]
  exact fresh?_eq_of_maps hstale

end ModuleScript.Workshop
