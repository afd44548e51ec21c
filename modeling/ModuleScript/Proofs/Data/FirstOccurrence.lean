import Mathlib.Data.List.Induction
import Mathlib.Data.Nat.Find

/-!
# Items in the order of their first occurrence

A list without its repetitions keeps the order in which the items first occur. What is left out of
a list can change this order, since an item may then occur first at a later place; where equal
items stand together, it cannot.
-/

namespace ModuleScript.FirstOccurrence

open List (Sublist)

variable {α : Type}

section Repetitions

variable [DecidableEq α]

/-- A further item is the last one, unless it occurs already. -/
theorem eraseDups_concat (items : List α) (x : α) :
    (items ++ [x]).eraseDups = if x ∈ items then items.eraseDups else items.eraseDups ++ [x] := by
  rw [List.eraseDups_append]
  by_cases hx : x ∈ items
  · simp [List.removeAll, hx]
  · simp [List.removeAll, hx, List.eraseDups_cons]

/-- No item is left that occurs twice. -/
theorem nodup_eraseDups (items : List α) : items.eraseDups.Nodup := by
  induction items using List.reverseRecOn with
  | nil => exact List.nodup_nil
  | append_singleton items x ih =>
    rw [eraseDups_concat]
    split
    next => exact ih
    next hx =>
      rw [List.nodup_append]
      refine ⟨ih, by simp, ?_⟩
      rintro a ha b hb rfl
      exact hx (List.mem_eraseDups.mp (List.mem_singleton.mp hb ▸ ha))

/-- A list without repetitions stays as it is. -/
theorem eraseDups_of_nodup {items : List α} (h : items.Nodup) : items.eraseDups = items := by
  induction items using List.reverseRecOn with
  | nil => rfl
  | append_singleton items x ih =>
    obtain ⟨hitems, -, hnew⟩ := List.nodup_append.mp h
    have hx : x ∉ items := fun hx ↦ hnew x hx x (List.mem_singleton_self x) rfl
    rw [eraseDups_concat, if_neg hx, ih hitems]

/-- Without repetitions, a value comes before another one that is taken only from items to which
some item with the first value stands in the relation of the list. -/
theorem pairwise_eraseDups_map {β : Type} (f : β → α) {r : β → β → Prop} {items : List β}
    (h : items.Pairwise r) : (items.map f).eraseDups.Pairwise fun x y ↦
      ∃ a ∈ items, f a = x ∧ ∀ b ∈ items, f b = y → r a b := by
  induction items using List.reverseRecOn with
  | nil => exact .nil
  | append_singleton items last ih =>
    obtain ⟨hitems, -, hlast⟩ := List.pairwise_append.mp h
    have hlater {a : β} (ha : a ∈ items) : r a last := hlast a ha _ (List.mem_singleton_self _)
    have hpairs : (items.map f).eraseDups.Pairwise fun x y ↦
        ∃ a ∈ items ++ [last], f a = x ∧ ∀ b ∈ items ++ [last], f b = y → r a b := by
      refine (ih hitems).imp fun ⟨a, ha, hx, hy⟩ ↦ ⟨a, List.mem_append_left _ ha, hx, ?_⟩
      intro b hb hbx
      rcases List.mem_append.mp hb with hb | hb
      · exact hy b hb hbx
      · exact List.mem_singleton.mp hb ▸ hlater ha
    rw [List.map_append, List.map_singleton, eraseDups_concat]
    split
    next => exact hpairs
    next hnew =>
      -- the new value is taken from the last item only
      refine List.pairwise_append.mpr ⟨hpairs, List.pairwise_singleton _ _, fun x hx y hy ↦ ?_⟩
      obtain ⟨a, ha, rfl⟩ := List.mem_map.mp (List.mem_eraseDups.mp hx)
      refine ⟨a, List.mem_append_left _ ha, rfl, fun b hb hby ↦ ?_⟩
      rcases List.mem_append.mp hb with hb | hb
      · rw [List.mem_singleton.mp hy] at hby
        exact absurd (hby ▸ List.mem_map_of_mem hb) hnew
      · exact List.mem_singleton.mp hb ▸ hlater ha

end Repetitions

/-! ### Items with places -/

/-- The least place of an item. -/
def FirstAt (found : List (Nat × α)) (x : α) (place : Nat) : Prop :=
  (place, x) ∈ found ∧ ∀ p, (p, x) ∈ found → place ≤ p

/-- Every item that occurs has a least place. -/
theorem exists_firstAt [DecidableEq α] {found : List (Nat × α)} {x : α}
    (h : ∃ place, (place, x) ∈ found) : ∃ place, FirstAt found x place :=
  ⟨Nat.find h, Nat.find_spec h, fun _ hp ↦ Nat.find_min' h hp⟩

/-- The items of a list that is ordered by places come, without their repetitions, in the order of
their least places. -/
theorem pairwise_eraseDups_of_places [DecidableEq α] {found : List (Nat × α)}
    (h : found.Pairwise (·.1 ≤ ·.1)) :
    (found.map (·.2)).eraseDups.Pairwise fun x y ↦
      ∃ p q, FirstAt found x p ∧ FirstAt found y q ∧ p ≤ q := by
  refine (pairwise_eraseDups_map (·.2) h).imp_of_mem ?_
  rintro x y - hy ⟨⟨p, x'⟩, hp, rfl, hle⟩
  obtain ⟨⟨q, y'⟩, hq, rfl⟩ := List.mem_map.mp (List.mem_eraseDups.mp hy)
  obtain ⟨first, hfirst⟩ := exists_firstAt ⟨p, hp⟩
  obtain ⟨first', hfirst'⟩ := exists_firstAt ⟨q, hq⟩
  exact ⟨first, first', hfirst, hfirst', Nat.le_trans (hfirst.2 p hp) (hle _ hfirst'.1 rfl)⟩

/-! ### Equal items that stand together -/

/-- Equal items stand next to one another. -/
def Clustered : List α → Prop
  | [] => True
  | x :: rest => (x ∈ rest → rest.head? = some x) ∧ Clustered rest

instance decidableClustered [DecidableEq α] : (items : List α) → Decidable (Clustered items)
  | [] => inferInstanceAs (Decidable True)
  | x :: rest =>
    have := decidableClustered rest
    inferInstanceAs (Decidable ((x ∈ rest → rest.head? = some x) ∧ Clustered rest))

namespace Clustered

variable {items left : List α}

/-- An item that goes on behind itself still comes first there when others are left out. -/
theorem head?_of_sublist {x : α} (h : Clustered (x :: items)) (hleft : Sublist left items)
    (hx : x ∈ left) : left.head? = some x := by
  induction items generalizing left with
  | nil => simp [List.sublist_nil.mp hleft] at hx
  | cons y items ih =>
    obtain rfl : y = x := Option.some.inj (h.1 (hleft.mem hx))
    cases hleft with
    | cons _ hleft => exact ih h.2 hleft hx
    | cons_cons _ hleft => rfl

theorem sublist (h : Clustered items) (hleft : Sublist left items) : Clustered left := by
  induction hleft with
  | slnil => exact h
  | cons x hleft ih => exact ih h.2
  | cons_cons x hleft ih => exact ⟨h.head?_of_sublist hleft, ih h.2⟩

/-- What is left of a list keeps the order of first occurrence, where equal items stand
together. -/
theorem eraseDups_sublist [DecidableEq α] (h : Clustered items) (hleft : Sublist left items) :
    Sublist left.eraseDups items.eraseDups := by
  -- without an item and its repetitions the list is shorter, whatever is left of it
  induction hn : items.length using Nat.strongRecOn generalizing items left with
  | ind n ih =>
    cases items with
    | nil => exact List.sublist_nil.mp hleft ▸ List.Sublist.refl _
    | cons x items =>
      have hshort : (items.filter fun y ↦ !y == x).length < n := by
        rw [← hn, List.length_cons]
        exact Nat.lt_succ_of_le (List.length_filter_le _ _)
      have hothers {left : List α} (hleft : Sublist left items) :
          Sublist (left.filter fun y ↦ !y == x).eraseDups
            (items.filter fun y ↦ !y == x).eraseDups :=
        ih _ hshort (h.2.sublist List.filter_sublist) (hleft.filter _) rfl
      rw [List.eraseDups_cons]
      cases hleft with
      | cons_cons _ hleft =>
        rw [List.eraseDups_cons]
        exact (hothers hleft).cons_cons x
      | cons _ hleft =>
        by_cases hx : x ∈ left
        · -- the item is left at another of its places, which is then the first one
          obtain ⟨more, rfl⟩ := List.head?_eq_some_iff.mp (h.head?_of_sublist hleft hx)
          rw [List.eraseDups_cons]
          exact (hothers ((List.sublist_cons_self x more).trans hleft)).cons_cons x
        · have hself : (left.filter fun y ↦ !y == x) = left := by
            rw [List.filter_eq_self]
            intro y hy
            have hne : y ≠ x := ne_of_mem_of_not_mem hy hx
            simpa using hne
          have hrest := hothers hleft
          rw [hself] at hrest
          exact hrest.cons x

end Clustered

end ModuleScript.FirstOccurrence
