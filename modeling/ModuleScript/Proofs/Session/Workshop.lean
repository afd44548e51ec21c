import ModuleScript.Proofs.Render.Keys
import ModuleScript.Proofs.Render.Requests
import ModuleScript.Session

/-!
# Renderers at work in a session

A workshop is a session with the renderers that were made in it. Each refers to its map by place
and is given the map as it stands whenever something is asked of it. What the shared caches hold
after any steps follows from what was asked on the way.
-/

namespace ModuleScript

open Store

/-- A session and its renderers, each with the place of its map. -/
structure Workshop where
  session : Session := {}
  renderers : List (Nat × Renderer) := []

/-- What can happen in a workshop. -/
inductive Workshop.Step where
  | addMap (m : ImportMap)
  | changeMap (place : Nat) (change : ImportMap.Change)
  | addPlain (place : Nat) (block : String) (analyzer : Option Analyzer)
  | addStimulus (place : Nat) (block : String) (given : Option String)
      (analyzer : Option Analyzer)
  | request (index : Nat) (q : Request)
  | configure (partition : String) (capacity : Int)
  | clearPartition (partition : String)
  | clear

namespace Workshop

/-- The shared caches. -/
def store (w : Workshop) : Store := w.session.store

/-- A renderer with its map as it stands. -/
def rendering? (w : Workshop) (index : Nat) : Option Rendering :=
  w.renderers[index]?.map fun (place, renderer) ↦ ⟨renderer, w.session.map place⟩

/-- The shared caches replaced. -/
def withStore (w : Workshop) (s : Store) : Workshop :=
  { w with session := { w.session with store := s } }

/-- The workshop after one step. What is refused changes nothing but the caches. -/
def step (w : Workshop) : Step → Workshop
  | .addMap m => { w with session := (w.session.addMap m).2 }
  | .changeMap place change =>
    { w with session := (w.session.changeMap place change).toOption.getD w.session }
  | .addPlain place block analyzer =>
    { w with renderers := w.renderers ++ [(place, .ofBlock block analyzer)] }
  | .addStimulus place block given analyzer =>
    match Renderer.stimulus? (w.session.map place).names block given analyzer with
    | .ok renderer => { w with renderers := w.renderers ++ [(place, renderer)] }
    | .error _ => w
  | .request index q =>
    match w.rendering? index with
    | some d => { w with session := (w.session.runShared (q.run d)).2 }
    | none => w
  | .configure partition capacity => w.withStore (w.store.configure partition capacity).2
  | .clearPartition partition => w.withStore (w.store.clearPartition partition)
  | .clear => w.withStore w.store.clear

/-- The workshop after some steps. -/
def run (w : Workshop) (steps : List Step) : Workshop := steps.foldl step w

/-- A step in which nothing is asked and the caches are left alone. -/
def Step.isQuiet : Step → Bool
  | .addMap _ | .changeMap .. | .addPlain .. | .addStimulus .. => true
  | .request .. | .configure .. | .clearPartition _ | .clear => false

/-- The rendering of which something is asked in a step. -/
def called? (w : Workshop) : Step → Option Rendering
  | .request index _ => w.rendering? index
  | _ => none

/-- The renderings of which something is asked on the way. -/
def calls : Workshop → List Step → List Rendering
  | _, [] => []
  | w, s :: steps => (w.called? s).toList ++ (w.step s).calls steps

/-- The answer to a request at the end of all steps. -/
def answer (w : Workshop) (d : Rendering) (q : Request) : Except RenderFault Value :=
  ((q.run d).run w.store).1

theorem run_cons (w : Workshop) (s : Step) (steps : List Step) :
    w.run (s :: steps) = (w.step s).run steps := rfl

/-- A renderer of an application that can be made is added. -/
theorem step_addStimulus (w : Workshop) (place : Nat) {block : String} {given : Option String}
    {analyzer : Option Analyzer} {r : Renderer}
    (h : Renderer.stimulus? (w.session.map place).names block given analyzer = .ok r) :
    w.step (.addStimulus place block given analyzer) =
      { w with renderers := w.renderers ++ [(place, r)] } := by
  rw [step, h]

theorem run_append (w : Workshop) (steps more : List Step) :
    w.run (steps ++ more) = (w.run steps).run more := List.foldl_append

theorem calls_append (w : Workshop) (steps more : List Step) :
    w.calls (steps ++ more) = w.calls steps ++ (w.run steps).calls more := by
  induction steps generalizing w with
  | nil => rfl
  | cons s steps ih => rw [List.cons_append, calls, calls, ih, List.append_assoc, run_cons]

/-! ### What the caches hold -/

variable {w : Workshop} {P : Store → Prop}

/-- A quiet step leaves the caches as they are. -/
theorem store_step_of_isQuiet (w : Workshop) {s : Step} (h : s.isQuiet = true) :
    (w.step s).store = w.store := by
  cases s with
  | addMap m => rfl
  | changeMap place change =>
    rw [step, store, Session.changeMap]
    cases (w.session.map place).change? change with
    | error fault => rfl
    | ok m => rfl
  | addPlain place block analyzer => rfl
  | addStimulus place block given analyzer =>
    rw [step]
    split
    · rfl
    · rfl
  | _ => exact absurd h (by simp [Step.isQuiet])

/-- So do quiet steps. -/
theorem store_run_of_isQuiet (w : Workshop) {more : List Step}
    (h : ∀ s ∈ more, s.isQuiet = true) : (w.run more).store = w.store := by
  induction more generalizing w with
  | nil => rfl
  | cons s more ih =>
    rw [run_cons, ih _ fun s hs ↦ h s (List.mem_cons_of_mem _ hs),
      store_step_of_isQuiet w (h s List.mem_cons_self)]

/-- A step keeps a property of the caches that their management keeps, if what it asks does. -/
theorem keeps_step (hstable : Stable P) (h : P w.store) (s : Step)
    (hcall : ∀ c ∈ w.called? s, ∀ q : Request, Keeps P (q.run c)) : P (w.step s).store := by
  cases hquiet : s.isQuiet with
  | true =>
    rw [store_step_of_isQuiet w hquiet]
    exact h
  | false =>
    cases s with
    | request index q =>
      rw [step]
      cases hd : w.rendering? index with
      | none => exact h
      | some d => exact (hcall d hd q w.store h).1
    | configure partition capacity => exact hstable.configure partition capacity h
    | clearPartition partition => exact hstable.clearPartition partition h
    | clear => exact hstable.clear h
    | _ => exact absurd hquiet (by simp [Step.isQuiet])

/-- So do any steps, if all that is asked on the way does. -/
theorem keeps_run (hstable : Stable P) (h : P w.store) (steps : List Step)
    (hcalls : ∀ c ∈ w.calls steps, ∀ q : Request, Keeps P (q.run c)) : P (w.run steps).store := by
  induction steps generalizing w with
  | nil => exact h
  | cons s steps ih =>
    rw [run_cons]
    refine ih (keeps_step hstable h s fun c hc ↦ hcalls c ?_) fun c hc ↦ hcalls c ?_
    · exact List.mem_append_left _ (Option.mem_toList.mpr hc)
    · exact List.mem_append_right _ hc

/-! ### What the maps are -/

/-- Requests leave the maps as they are. -/
theorem maps_step_request (w : Workshop) (index : Nat) (q : Request) :
    (w.step (.request index q)).session.maps = w.session.maps := by
  rw [step]
  split
  · rfl
  · rfl

/-- What a step makes of the maps depends on nothing but the maps. -/
theorem maps_step {w w' : Workshop} (h : w.session.maps = w'.session.maps) (s : Step) :
    (w.step s).session.maps = (w'.step s).session.maps := by
  cases s with
  | addMap m =>
    change w.session.maps.push m = w'.session.maps.push m
    rw [h]
  | changeMap place change =>
    have hmap : w.session.map place = w'.session.map place := by
      rw [Session.map, Session.map, h]
    rw [step, step, Session.changeMap, Session.changeMap, hmap]
    cases (w'.session.map place).change? change with
    | error fault => exact h
    | ok m =>
      change w.session.maps.setIfInBounds place m = w'.session.maps.setIfInBounds place m
      rw [h]
  | addStimulus place block given analyzer =>
    have same (w : Workshop) :
        (w.step (.addStimulus place block given analyzer)).session = w.session := by
      rw [step]
      split
      · rfl
      · rfl
    rw [same, same, h]
  | request index q =>
    rw [maps_step_request, maps_step_request, h]
  | _ => exact h

theorem maps_run {w w' : Workshop} (h : w.session.maps = w'.session.maps) (steps : List Step) :
    (w.run steps).session.maps = (w'.run steps).session.maps := by
  induction steps generalizing w w' with
  | nil => exact h
  | cons s steps ih => exact ih (maps_step h s)

/-! ### What the renderers are -/

/-- All renderers are plain or have an accepted name. -/
def Accepted (w : Workshop) : Prop := ∀ p ∈ w.renderers, p.2.Accepted

theorem accepted_empty : Accepted {} := fun _ h ↦ absurd h List.not_mem_nil

/-- No other renderers are made. -/
theorem Accepted.step (h : w.Accepted) (s : Step) : (w.step s).Accepted := by
  have append {p : Nat × Renderer} (hp : p.2.Accepted) :
      ∀ p' ∈ w.renderers ++ [p], p'.2.Accepted := by
    intro p' hmem
    rcases List.mem_append.mp hmem with hmem | hmem
    · exact h p' hmem
    · exact List.mem_singleton.mp hmem ▸ hp
  cases s with
  | addPlain place block analyzer => exact append (.inl rfl)
  | addStimulus place block given analyzer =>
    rw [Workshop.step]
    cases hr : Renderer.stimulus? (w.session.map place).names block given analyzer with
    | error fault => exact h
    | ok renderer =>
      obtain ⟨name, hname, rfl⟩ := Renderer.stimulus?_eq_ok hr
      exact append (.inr ⟨_, rfl, hname⟩)
  | request index q =>
    rw [Workshop.step]
    split
    · exact h
    · exact h
  | addMap m => exact h
  | changeMap place change => exact h
  | configure partition capacity => exact h
  | clearPartition partition => exact h
  | clear => exact h

theorem Accepted.run (h : w.Accepted) (steps : List Step) : (w.run steps).Accepted := by
  induction steps generalizing w with
  | nil => exact h
  | cons s steps ih => exact ih (h.step s)

theorem Accepted.of_rendering? (h : w.Accepted) {index : Nat} {c : Rendering}
    (hc : w.rendering? index = some c) : c.renderer.Accepted := by
  obtain ⟨p, hp, rfl⟩ := Option.map_eq_some_iff.mp hc
  exact h p (List.mem_of_getElem? hp)

/-- Whatever is asked, it is asked of an accepted renderer. -/
theorem Accepted.of_mem_calls (h : w.Accepted) {steps : List Step} {c : Rendering}
    (hc : c ∈ w.calls steps) : c.renderer.Accepted := by
  induction steps generalizing w with
  | nil => exact absurd hc List.not_mem_nil
  | cons s steps ih =>
    rcases List.mem_append.mp hc with hc | hc
    · rw [Option.mem_toList] at hc
      cases s with
      | request index q => exact h.of_rendering? hc
      | _ => exact absurd hc (by simp [called?])
    · exact ih (h.step s) hc

end Workshop

end ModuleScript
