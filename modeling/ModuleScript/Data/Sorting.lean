/-!
# Sorting

A list is sorted by inserting its items one after the other, from the last one on, each before
the first item that may follow it. Items that may stand in either order keep the order that they
had.
-/

namespace ModuleScript.Sorting

variable {α : Type}

/-- Insert an item before the first one that may follow it. -/
def insertBy (le : α → α → Bool) (a : α) : List α → List α
  | [] => [a]
  | b :: rest => if le a b then a :: b :: rest else b :: insertBy le a rest

/-- The items in order. -/
def sortBy (le : α → α → Bool) : List α → List α
  | [] => []
  | a :: rest => insertBy le a (sortBy le rest)

/-- Insertion adds one item and loses none. -/
theorem insertBy_perm (le : α → α → Bool) (a : α) (items : List α) :
    (insertBy le a items).Perm (a :: items) := by
  induction items with
  | nil => exact .refl _
  | cons b rest ih =>
    rw [insertBy]
    split
    · exact .refl _
    · exact (ih.cons b).trans (.swap a b rest)

/-- Sorting loses no item and adds none. -/
theorem sortBy_perm (le : α → α → Bool) (items : List α) : (sortBy le items).Perm items := by
  induction items with
  | nil => exact .refl _
  | cons a rest ih => exact (insertBy_perm le a _).trans (ih.cons a)

/-- Insertion into items in order leaves them in order. -/
theorem pairwise_insertBy (le : α → α → Bool) (total : ∀ a b, le a b = true ∨ le b a = true)
    (trans : ∀ a b c, le a b = true → le b c = true → le a c = true) (a : α) {items : List α}
    (h : items.Pairwise (le · · = true)) : (insertBy le a items).Pairwise (le · · = true) := by
  induction items with
  | nil => exact .cons (by simp) .nil
  | cons b rest ih =>
    have ⟨hb, hrest⟩ := List.pairwise_cons.1 h
    rw [insertBy]
    split
    next hab =>
      refine .cons (fun c hc ↦ ?_) h
      rcases List.mem_cons.1 hc with rfl | hc
      · exact hab
      · exact trans a b c hab (hb c hc)
    next hab =>
      refine .cons (fun c hc ↦ ?_) (ih hrest)
      rcases List.mem_cons.1 ((insertBy_perm le a rest).mem_iff.1 hc) with rfl | hc
      · exact (total c b).resolve_left hab
      · exact hb c hc

/-- Sorted items are in order. -/
theorem pairwise_sortBy (le : α → α → Bool) (total : ∀ a b, le a b = true ∨ le b a = true)
    (trans : ∀ a b c, le a b = true → le b c = true → le a c = true) (items : List α) :
    (sortBy le items).Pairwise (le · · = true) := by
  induction items with
  | nil => exact .nil
  | cons a rest ih => exact pairwise_insertBy le total trans a ih

end ModuleScript.Sorting
