import ModuleScript.Script.Statement

/-!
# What a joined text tells of its parts

Parts that are empty leave no trace in a joined text. Where the others stay the same, a part can be
told from the whole, and the content of a script from its tag.
-/

namespace ModuleScript.Script

open Text

/-- What a part adds to the parts before it. -/
def addition (part : String) : List Char :=
  if part.isEmpty then [] else '\n' :: '\n' :: part.toList

/-- A part can be told from what it adds. -/
theorem addition_injective {a b : String} (h : addition a = addition b) : a = b := by
  rw [addition, addition] at h
  split at h
  next ha =>
    split at h
    next hb => rw [String.isEmpty_iff.mp ha, String.isEmpty_iff.mp hb]
    next => exact absurd h (by simp)
  next =>
    split at h
    next => exact absurd h (by simp)
    next => exact String.toList_inj.mp (List.cons.inj (List.cons.inj h).2).2

/-- A joined text starts with the first part. -/
theorem toList_joinWith_cons (sep part : String) (parts : List String) :
    (joinWith sep (part :: parts)).toList =
      part.toList ++ parts.flatMap fun p ↦ sep.toList ++ p.toList := by
  rw [joinWith, String.toList_intercalate]
  induction parts generalizing part with
  | nil => simp
  | cons next parts ih =>
    rw [List.map_cons, List.map_cons, List.intercalate_cons_cons, List.flatMap_cons,
      ← List.map_cons, ih, List.append_assoc, List.append_assoc]

/-- Only the parts that are not empty add anything. -/
private theorem flatMap_addition (parts : List String) : parts.flatMap addition =
    (parts.filter (!·.isEmpty)).flatMap fun p ↦ "\n\n".toList ++ p.toList := by
  induction parts with
  | nil => rfl
  | cons next parts ih =>
    rw [List.flatMap_cons, ih, addition]
    by_cases hnext : next.isEmpty = true
    · rw [List.filter_cons_of_neg (by simpa using hnext), if_pos hnext]
      rfl
    · rw [List.filter_cons_of_pos (by simpa using hnext), if_neg hnext]
      rfl

/-- Behind a part that is not empty, every part is what it adds. -/
theorem toList_joinParts {part : String} (h : part ≠ "") (parts : List String) :
    (joinParts (part :: parts)).toList = part.toList ++ parts.flatMap addition := by
  have hfilter : (part :: parts).filter (!·.isEmpty) = part :: parts.filter (!·.isEmpty) :=
    List.filter_cons_of_pos (by simpa using h)
  rw [joinParts, joinFilled, hfilter, toList_joinWith_cons, flatMap_addition]

/-- The first part can be told from the whole. -/
theorem joinParts_left_inj {a b : String} (ha : a ≠ "") (hb : b ≠ "") {parts : List String}
    (h : joinParts (a :: parts) = joinParts (b :: parts)) : a = b := by
  have hlist := congrArg String.toList h
  rw [toList_joinParts ha, toList_joinParts hb] at hlist
  exact String.toList_inj.mp (List.append_cancel_right hlist)

/-- So can the second part. -/
theorem joinParts_right_inj {first a b : String} (hfirst : first ≠ "") {parts : List String}
    (h : joinParts (first :: a :: parts) = joinParts (first :: b :: parts)) : a = b := by
  have hlist := congrArg String.toList h
  rw [toList_joinParts hfirst, toList_joinParts hfirst] at hlist
  have hparts := List.append_cancel_left hlist
  rw [List.flatMap_cons, List.flatMap_cons] at hparts
  exact addition_injective (List.append_cancel_right hparts)

/-- Two parts have the separator between them, unless one of them is empty. -/
theorem joinFilled_pair (sep a b : String) :
    joinFilled sep [a, b] = if a = "" then b else if b = "" then a else a ++ sep ++ b := by
  by_cases ha : a = "" <;> by_cases hb : b = "" <;>
    simp [joinFilled, joinWith, ha, hb, String.append_assoc]

@[simp] theorem joinFilled_singleton (sep part : String) : joinFilled sep [part] = part := by
  by_cases h : part = ""
  · simp [joinFilled, joinWith, h]
  · simp [joinFilled, joinWith, h]

/-- Parts that are not empty can be joined before they are put behind another one. -/
theorem joinFilled_cons_joinWith (sep first : String) {parts : List String}
    (h : ∀ part ∈ parts, part ≠ "") :
    joinFilled sep [first, joinWith sep parts] = joinFilled sep (first :: parts) := by
  have hfilter : parts.filter (!·.isEmpty) = parts :=
    List.filter_eq_self.mpr fun part hpart ↦ by simpa using h part hpart
  cases parts with
  | nil => simp [joinFilled_pair, joinWith]
  | cons part rest =>
    have hne : joinWith sep (part :: rest) ≠ "" := by
      intro heq
      have hlist := congrArg String.toList heq
      rw [toList_joinWith_cons] at hlist
      have hpart := (List.append_eq_nil_iff.mp hlist).1
      exact h part List.mem_cons_self (String.toList_inj.mp hpart)
    rw [joinFilled_pair, if_neg hne]
    split
    next hfirst => rw [joinFilled, List.filter_cons_of_neg (by simp [hfirst]), hfilter]
    next hfirst =>
      rw [joinFilled, List.filter_cons_of_pos (by simpa using hfirst), hfilter]
      apply String.toList_inj.mp
      simp only [String.toList_append, toList_joinWith_cons, List.flatMap_cons, List.append_assoc]

/-- The first of two parts can be told from the whole, whatever stands between them. -/
theorem joinFilled_pair_left_inj {sep a a' b : String}
    (h : joinFilled sep [a, b] = joinFilled sep [a', b]) : a = a' := by
  have longer {a : String} (ha : a ≠ "") : joinFilled sep ["", b] ≠ joinFilled sep [a, b] := by
    intro heq
    rw [joinFilled_pair, joinFilled_pair, if_pos rfl, if_neg ha] at heq
    split at heq
    next hb => exact ha (heq.symm.trans hb)
    next =>
      have hlength := congrArg String.length heq
      have hpos : a.length ≠ 0 := by simpa using ha
      simp only [String.length_append] at hlength
      omega
  by_cases ha : a = ""
  · by_cases ha' : a' = ""
    · rw [ha, ha']
    · exact absurd (ha ▸ h) (longer ha')
  · by_cases ha' : a' = ""
    · exact absurd (ha' ▸ h).symm (longer ha)
    · rw [joinFilled_pair, joinFilled_pair, if_neg ha, if_neg ha'] at h
      split at h
      · exact h
      · have hlist := congrArg String.toList h
        simp only [String.toList_append] at hlist
        exact String.toList_inj.mp (List.append_cancel_right (List.append_cancel_right hlist))

/-- So can the second one. -/
theorem joinFilled_pair_right_inj {sep a b b' : String}
    (h : joinFilled sep [a, b] = joinFilled sep [a, b']) : b = b' := by
  by_cases ha : a = ""
  · simpa [joinFilled_pair, ha] using h
  · have longer {b : String} (hb : b ≠ "") : joinFilled sep [a, ""] ≠ joinFilled sep [a, b] := by
      intro heq
      rw [joinFilled_pair, joinFilled_pair, if_neg ha, if_neg ha, if_pos rfl, if_neg hb] at heq
      have hlength := congrArg String.length heq
      have hpos : b.length ≠ 0 := by simpa using hb
      simp only [String.length_append] at hlength
      omega
    by_cases hb : b = ""
    · by_cases hb' : b' = ""
      · rw [hb, hb']
      · exact absurd (hb ▸ h) (longer hb')
    · by_cases hb' : b' = ""
      · exact absurd (hb' ▸ h).symm (longer hb)
      · rw [joinFilled_pair, joinFilled_pair, if_neg ha, if_neg ha, if_neg hb, if_neg hb'] at h
        have hlist := congrArg String.toList h
        simp only [String.toList_append] at hlist
        exact String.toList_inj.mp (List.append_cancel_left hlist)

/-- Two parts are more than blanks together if one of them is. -/
theorem all_isBlank_joinFilled_pair (sep : String) {a b : String}
    (h : a.toList.all isBlank = false ∨ b.toList.all isBlank = false) :
    (joinFilled sep [a, b]).toList.all isBlank = false := by
  rw [joinFilled_pair]
  split
  next ha => simpa [ha] using h
  next =>
    split
    next hb => simpa [hb] using h
    next =>
      simp only [String.toList_append, List.all_append]
      rcases h with h | h <;> simp [h]

/-- What is more than blanks is not empty. -/
theorem ne_empty_of_all_isBlank {s : String} (h : s.toList.all isBlank = false) : s ≠ "" := by
  rintro rfl
  exact absurd h (by simp)

/-- A part with more than blanks makes more than blanks of the whole. -/
theorem all_isBlank_joinParts {part : String} (h : part.toList.all isBlank = false)
    (parts : List String) : (joinParts (part :: parts)).toList.all isBlank = false := by
  rw [toList_joinParts (ne_empty_of_all_isBlank h), List.all_append, h, Bool.false_and]

/-- Content with more than blanks can be told from the script. -/
theorem wrap_inj {a b : String} (ha : a.toList.all isBlank = false) (h : wrap a = wrap b) :
    a = b := by
  rw [wrap, wrap, if_neg (by simp [ha])] at h
  split at h
  next => exact absurd (congrArg String.toList h) (by simp)
  next =>
    have hlist := congrArg String.toList h
    simp only [String.toList_append] at hlist
    exact String.toList_inj.mp (List.append_cancel_left (List.append_cancel_right hlist))

end ModuleScript.Script
