import Mathlib.Data.List.Basic
import ModuleScript.Proofs.Pattern.Reading

/-!
# Which end is preferred

A greedy run stops first where it can go no further. When one of two alternatives behind it
cannot start with a character of the run, all its ends come before those of the other one.
-/

namespace ModuleScript.Pattern.Node

/-- Two runs of nodes end where the second one ends after the first one. -/
theorem ends_concat_append (nodes more : List Node) (s : State) :
    (concat (nodes ++ more)).ends s = ((concat nodes).ends s).flatMap (concat more).ends := by
  induction nodes generalizing s with
  | nil => simp [concat, ends]
  | cons n nodes ih =>
    change (n.ends s).flatMap (concat (nodes ++ more)).ends =
      ((n.ends s).flatMap (concat nodes).ends).flatMap (concat more).ends
    rw [List.flatMap_assoc]
    exact congrArg (List.flatMap · (n.ends s)) (funext ih)

/-- A greedy run that stops early stops before one of its characters. -/
private theorem head?_of_mem_tail_endsUpTo (set : CharSet) (fuel : List Char) {s t : State}
    (h : t ∈ (endsUpTo (char set).ends true fuel none s).tail) :
    t.rest.head?.any set.contains = true := by
  induction fuel generalizing s with
  | nil => exact absurd h List.not_mem_nil
  | cons a fuel ih =>
    rw [endsUpTo_none_cons] at h
    cases hs : s.rest with
    | nil => simp [ends_char_nil set hs] at h
    | cons c rest =>
      by_cases hc : set.contains c = true
      · have hoff : (s.after [c] rest []).offset ≠ s.offset := by simp [State.after]
        have hstop : s.rest.head?.any set.contains = true := by simp [hs, hc]
        simp only [ends_char_cons set hs, hc, if_true, List.flatMap_singleton, hoff,
          if_false] at h
        cases hL : endsUpTo (char set).ends true fuel none (s.after [c] rest []) with
        | nil => simp [hL] at h
        | cons first more =>
          rw [hL, List.cons_append, List.tail_cons, List.mem_append, List.mem_singleton] at h
          rcases h with h | rfl
          · exact ih (s := s.after [c] rest []) (by rwa [hL])
          · exact hstop
      · simp [ends_char_cons set hs, hc] at h

/-- A run of at least one character that stops early stops before one of its characters. -/
theorem head?_of_mem_tail_plus (set : CharSet) {s t : State}
    (h : t ∈ ((plus (char set)).ends s).tail) : t.rest.head?.any set.contains = true := by
  rw [ends_plus] at h
  cases hs : s.rest with
  | nil => simp [ends_char_nil set hs] at h
  | cons c rest =>
    rw [ends_char_cons set hs] at h
    split at h
    · rw [List.flatMap_singleton, star, ends, endsExactly, List.flatMap_singleton] at h
      exact head?_of_mem_tail_endsUpTo set _ h
    · exact absurd h List.not_mem_nil

/-- Behind a greedy run, the ends of an alternative that cannot start with a character of the
run all come before those of the other alternative. -/
theorem ends_plus_alt (set : CharSet) (first second more : Node)
    (hfirst : ∀ t : State, t.rest.head?.any set.contains = true → first.ends t = []) (s : State) :
    (seq (plus (char set)) (seq (alt first second) more)).ends s =
      (seq (plus (char set)) (seq first more)).ends s ++
        (seq (plus (char set)) (seq second more)).ends s := by
  have htail (t : State) (h : t ∈ ((plus (char set)).ends s).tail) := head?_of_mem_tail_plus set h
  change ((plus (char set)).ends s).flatMap (fun t ↦
      (first.ends t ++ second.ends t).flatMap more.ends) =
    ((plus (char set)).ends s).flatMap (fun t ↦ (first.ends t).flatMap more.ends) ++
      ((plus (char set)).ends s).flatMap (fun t ↦ (second.ends t).flatMap more.ends)
  generalize (plus (char set)).ends s = found at htail ⊢
  cases found with
  | nil => rfl
  | cons t₀ early =>
    -- only the longest run leaves a place at which the first alternative can start
    have hearly : ∀ t ∈ early, first.ends t = [] := fun t ht ↦ hfirst t (htail t ht)
    have hnone : early.flatMap (fun t ↦ (first.ends t).flatMap more.ends) = [] := by
      rw [List.flatMap_eq_nil_iff]
      intro t ht
      rw [hearly t ht, List.flatMap_nil]
    have hrest : early.flatMap (fun t ↦ (first.ends t ++ second.ends t).flatMap more.ends) =
        early.flatMap (fun t ↦ (second.ends t).flatMap more.ends) := by
      refine List.flatMap_congr fun t ht ↦ ?_
      rw [hearly t ht, List.nil_append]
    rw [List.flatMap_cons, List.flatMap_cons, List.flatMap_cons, hnone, hrest,
      List.flatMap_append, List.append_nil, List.append_assoc]

end ModuleScript.Pattern.Node
