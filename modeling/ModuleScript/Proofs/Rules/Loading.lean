import ModuleScript.Rules.File

/-!
# Steps of loading

A step of loading rule files either breaks, with a fault that is told by what it reads, or it gives
a result and warnings. It does so whatever warnings were given before, which is why steps can be
described one by one: a sequence of steps breaks where its first one does, and otherwise gives the
warnings of all of them in order.
-/

namespace ModuleScript.RuleSet

/-! ### The first item to break -/

/-- Some item breaks with this fault, and none before it breaks. -/
def FirstBreak {α : Type} (breaks : α → FileFault → Prop) (items : List α) (fault : FileFault) :
    Prop :=
  ∃ before a after, items = before ++ a :: after ∧ (∀ b ∈ before, ∀ f, ¬ breaks b f) ∧
    breaks a fault

section

variable {α : Type} {breaks : α → FileFault → Prop} {fault : FileFault}

theorem not_firstBreak_nil : ¬ FirstBreak breaks [] fault := by
  rintro ⟨before, a, after, h, -⟩
  simp at h

/-- The first item breaks, or it does not and a later one is the first. -/
theorem firstBreak_cons_iff {a : α} {rest : List α} :
    FirstBreak breaks (a :: rest) fault ↔
      breaks a fault ∨ (∀ f, ¬ breaks a f) ∧ FirstBreak breaks rest fault := by
  constructor
  · rintro ⟨before, b, after, h, hbefore, hb⟩
    rcases List.cons_eq_append_iff.mp h with ⟨rfl, heq⟩ | ⟨before, rfl, rfl⟩
    · rw [(List.cons.inj heq).1] at hb
      exact .inl hb
    · rw [List.forall_mem_cons] at hbefore
      exact .inr ⟨hbefore.1, before, b, after, rfl, hbefore.2, hb⟩
  · rintro (ha | ⟨ha, before, b, after, rfl, hbefore, hb⟩)
    · exact ⟨[], a, rest, rfl, by simp, ha⟩
    · exact ⟨a :: before, b, after, rfl, List.forall_mem_cons.mpr ⟨ha, hbefore⟩, hb⟩

/-- There is a first item to break unless none breaks. -/
theorem forall_not_firstBreak_iff {items : List α} :
    (∀ f, ¬ FirstBreak breaks items f) ↔ ∀ a ∈ items, ∀ f, ¬ breaks a f := by
  induction items with
  | nil => simp [not_firstBreak_nil]
  | cons a rest ih =>
    simp only [firstBreak_cons_iff, not_or, not_and, List.forall_mem_cons, ← ih, forall_and]
    exact and_congr_right fun ha ↦ ⟨fun h f ↦ h f ha, fun h f _ ↦ h f⟩

end

/-! ### Single steps and sequences -/

/-- What a step of loading does: it breaks with the faults that are told, or else gives a result and
warnings. -/
structure Step {α : Type} (x : Loading α) (breaks : FileFault → Prop) (result : α)
    (given : List Warning) : Prop where
  error : ∀ fault, breaks fault → ∀ before, x.run before = .error fault
  ok : (∀ fault, ¬ breaks fault) → ∀ before, x.run before = .ok (result, given.reverse ++ before)

namespace Step

variable {α β : Type} {x : Loading α} {f : α → Loading β} {breaks more both : FileFault → Prop}
  {a : α} {b : β} {given further all : List Warning}

theorem pure (a : α) : Step (Pure.pure a) (fun _ ↦ False) a [] where
  error _ h := h.elim
  ok _ _ := rfl

theorem throw (fault : FileFault) (a : α) (given : List Warning) :
    Step (MonadExcept.throw fault) (· = fault) a given where
  error f h _ := by
    rw [h]
    rfl
  ok h := absurd rfl (h fault)

theorem warn (w : Warning) : Step (warn w) (fun _ ↦ False) () [w] where
  error _ h := h.elim
  ok _ _ := rfl

/-- The faults may be told otherwise. -/
theorem congr (h : Step x breaks a given) (hiff : ∀ fault, more fault ↔ breaks fault) :
    Step x more a given where
  error fault hfault := h.error fault ((hiff fault).mp hfault)
  ok hnone := h.ok fun fault hfault ↦ hnone fault ((hiff fault).mpr hfault)

/-- A second step is taken if the first one does not break. -/
theorem bind (hx : Step x breaks a given) (hf : Step (f a) more b further)
    (hboth : ∀ fault, both fault ↔ breaks fault ∨ (∀ f, ¬ breaks f) ∧ more fault)
    (hall : all = given ++ further) : Step (x >>= f) both b all where
  error fault h before := by
    rw [StateT.run_bind]
    rcases (hboth fault).mp h with h | ⟨hnone, h⟩
    · rw [hx.error fault h]
      rfl
    · rw [hx.ok hnone]
      exact hf.error fault h _
  ok h before := by
    have hnone : ∀ fault, ¬ breaks fault :=
      fun fault hfault ↦ h fault ((hboth fault).mpr (.inl hfault))
    have hmore : ∀ fault, ¬ more fault :=
      fun fault hfault ↦ h fault ((hboth fault).mpr (.inr ⟨hnone, hfault⟩))
    rw [StateT.run_bind, hx.ok hnone, hall, List.reverse_append, List.append_assoc]
    exact hf.ok hmore _

/-- A result may be changed. -/
theorem map (hx : Step x breaks a given) (g : α → β) :
    Step (x >>= fun a ↦ Pure.pure (g a)) breaks (g a) given :=
  hx.bind (.pure (g a)) (fun fault ↦ by simp) (by simp)

/-- Items are read one by one, up to the first that breaks. -/
theorem mapM {breaks : α → FileFault → Prop} {result : α → β} {given : α → List Warning}
    (h : ∀ a, Step (f a) (breaks a) (result a) (given a)) (items : List α) :
    Step (items.mapM f) (FirstBreak breaks items) (items.map result) (items.flatMap given) := by
  induction items with
  | nil => exact (Step.pure []).congr fun fault ↦ iff_false_intro not_firstBreak_nil
  | cons a rest ih =>
    rw [List.mapM_cons]
    exact (h a).bind (ih.map fun bs ↦ result a :: bs) (fun fault ↦ firstBreak_cons_iff) rfl

end Step

end ModuleScript.RuleSet
