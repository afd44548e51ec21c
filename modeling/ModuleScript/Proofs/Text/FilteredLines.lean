import ModuleScript.Proofs.Text.Padding

/-!
# Filtered lines of a trimmed text

A filter that does not look at the blanks around a line keeps the same of a text, whether the text
is trimmed before it is cut into lines or only after the kept lines are joined.
-/

namespace ModuleScript.Text

/-! ### Joined parts -/

variable {sep : Char} {xs ys : List (List Char)}

/-- Where two runs of parts meet, there is a separator. -/
private theorem intercalate_append (hx : xs ≠ []) (hy : ys ≠ []) :
    [sep].intercalate (xs ++ ys) = [sep].intercalate xs ++ sep :: [sep].intercalate ys := by
  induction xs with
  | nil => exact absurd rfl hx
  | cons part rest ih =>
    cases rest with
    | nil =>
      obtain ⟨next, ys, rfl⟩ := List.exists_cons_of_ne_nil hy
      simp [List.intercalate_cons_cons]
    | cons next rest =>
      have hrest := ih (by simp)
      rw [List.cons_append] at hrest
      rw [List.cons_append, List.cons_append, List.intercalate_cons_cons, hrest,
        List.intercalate_cons_cons, List.append_assoc, List.append_assoc, List.append_assoc]

/-- What is put in front of the first part is put in front of the whole. -/
private theorem intercalate_cons_append (u part : List Char) (rest : List (List Char)) :
    [sep].intercalate ((u ++ part) :: rest) = u ++ [sep].intercalate (part :: rest) := by
  cases rest <;> simp [List.intercalate_cons_cons]

/-- What is put behind the last part is put behind the whole. -/
private theorem intercalate_concat_append (rest : List (List Char)) (part u : List Char) :
    [sep].intercalate (rest ++ [part ++ u]) = [sep].intercalate (rest ++ [part]) ++ u := by
  cases rest with
  | nil => simp
  | cons first rest =>
    rw [intercalate_append (by simp) (by simp), intercalate_append (by simp) (by simp)]
    simp

private theorem map_toList_ofList (parts : List (List Char)) :
    (parts.map String.ofList).map String.toList = parts := by
  simp [Function.comp_def]

/-- Cutting and joining again gives the text back. -/
private theorem intercalate_cutAt (sep : Char) (cs : List Char) :
    [sep].intercalate (cutAt sep cs) = cs := by
  induction cs with
  | nil => simp [cutAt]
  | cons c cs ih =>
    by_cases hc : c = sep
    · subst hc
      rw [cutAt_cons_self]
      calc [c].intercalate ([[]] ++ cutAt c cs)
          = [c].intercalate [[]] ++ c :: [c].intercalate (cutAt c cs) :=
            intercalate_append (by simp) (cutAt_ne_nil c cs)
        _ = c :: cs := by rw [ih]; simp
    · obtain ⟨part, parts, hcut⟩ := List.exists_cons_of_ne_nil (cutAt_ne_nil sep cs)
      rw [cutAt_cons_of_ne hc hcut]
      calc [sep].intercalate (([c] ++ part) :: parts)
          = [c] ++ [sep].intercalate (part :: parts) := intercalate_cons_append [c] part parts
        _ = c :: cs := by rw [← hcut, ih, List.singleton_append]

/-- The lines of a text make it up. -/
theorem joinLines_lines (s : String) : joinLines (lines s) = s := by
  rw [joinLines, joinWith, lines, split, ← String.toList_inj, String.toList_intercalate,
    map_toList_ofList]
  exact intercalate_cutAt '\n' s.toList

/-- Trimming twice does no more than once. -/
theorem trim_trim (s : String) : trim (trim s) = trim s :=
  (trim_eq_of_padded (padded_trim s)).symm

/-! ### Blank parts at the ends -/

/-- Blank parts make up a blank text. -/
private theorem blanks_intercalate (hsep : isBlank sep = true) (h : ∀ part ∈ xs, Blanks part) :
    Blanks ([sep].intercalate xs) := by
  induction xs with
  | nil => exact blanks_nil
  | cons part rest ih =>
    rw [List.forall_mem_cons] at h
    cases rest with
    | nil => simpa using h.1
    | cons next rest =>
      have hblank : Blanks [sep] := fun c hc ↦ List.mem_singleton.mp hc ▸ hsep
      rw [List.intercalate_cons_cons, blanks_append, blanks_append]
      exact ⟨⟨h.1, hblank⟩, ih h.2⟩

/-- Blank parts in front make no difference to the trimmed text. -/
private theorem trimChars_intercalate_append_left (hsep : isBlank sep = true)
    (h : ∀ part ∈ xs, Blanks part) (ys : List (List Char)) :
    trimChars ([sep].intercalate (xs ++ ys)) = trimChars ([sep].intercalate ys) := by
  have hxs := blanks_intercalate hsep h
  by_cases hx : xs = []
  · rw [hx, List.nil_append]
  · by_cases hy : ys = []
    · rw [hy, List.append_nil, trimChars_of_blanks hxs]
      rfl
    · have hblank : Blanks ([sep].intercalate xs ++ [sep]) :=
        blanks_append.mpr ⟨hxs, fun c hc ↦ List.mem_singleton.mp hc ▸ hsep⟩
      have hpad := Padded.append_left hblank ([sep].intercalate ys)
      rw [intercalate_append hx hy, ← hpad.trimChars_eq, List.append_assoc, List.singleton_append]

/-- Nor do blank parts behind. -/
private theorem trimChars_intercalate_append_right (hsep : isBlank sep = true)
    (h : ∀ part ∈ ys, Blanks part) (xs : List (List Char)) :
    trimChars ([sep].intercalate (xs ++ ys)) = trimChars ([sep].intercalate xs) := by
  have hys := blanks_intercalate hsep h
  by_cases hy : ys = []
  · rw [hy, List.append_nil]
  · by_cases hx : xs = []
    · rw [hx, List.nil_append, trimChars_of_blanks hys]
      rfl
    · have hblank : Blanks (sep :: [sep].intercalate ys) :=
        List.forall_mem_cons.mpr ⟨hsep, hys⟩
      rw [intercalate_append hx hy, (Padded.append_right hblank _).trimChars_eq]

/-! ### Filters -/

/-- A filter that answers the same whatever blanks are around a part. -/
def IgnoresPadding (keep : List Char → Bool) : Prop :=
  ∀ inner whole, Padded inner whole → keep whole = keep inner

variable {keep : List Char → Bool}

private theorem filter_blanks {cs : List Char} {parts : List (List Char)} (hcs : Blanks cs)
    (hparts : parts ⊆ cutAt sep cs) : ∀ part ∈ parts.filter keep, Blanks part :=
  fun _ hpart ↦ blanks_of_mem_cutAt hcs (hparts (List.mem_filter.mp hpart).1)

/-- Blanks in front of a text make no difference to what is kept of it. -/
private theorem trimChars_filter_append_left (hsep : isBlank sep = true)
    (hkeep : IgnoresPadding keep) {v : List Char} (hv : Blanks v) (cs : List Char) :
    trimChars ([sep].intercalate ((cutAt sep (v ++ cs)).filter keep)) =
      trimChars ([sep].intercalate ((cutAt sep cs).filter keep)) := by
  obtain ⟨us, u, z, zs, hblank, hcs, hboth⟩ := cutAt_append sep v cs
  have hu : Blanks u := blanks_of_mem_cutAt hv (hblank ▸ List.mem_append_right us (by simp))
  have hus : ∀ part ∈ us.filter keep, Blanks part :=
    filter_blanks hv (hblank ▸ List.subset_append_left us [u])
  rw [hboth, hcs, List.filter_append, trimChars_intercalate_append_left hsep hus,
    List.filter_cons, List.filter_cons, hkeep z (u ++ z) (.append_left hu z)]
  split
  · rw [intercalate_cons_append, (Padded.append_left hu _).trimChars_eq]
  · rfl

/-- Nor do blanks behind it. -/
private theorem trimChars_filter_append_right (hsep : isBlank sep = true)
    (hkeep : IgnoresPadding keep) {w : List Char} (hw : Blanks w) (cs : List Char) :
    trimChars ([sep].intercalate ((cutAt sep (cs ++ w)).filter keep)) =
      trimChars ([sep].intercalate ((cutAt sep cs).filter keep)) := by
  obtain ⟨xs, x, y, ys, hcs, hblank, hboth⟩ := cutAt_append sep cs w
  have hy : Blanks y := blanks_of_mem_cutAt hw (hblank ▸ List.mem_cons_self)
  have hys : ∀ part ∈ ys.filter keep, Blanks part :=
    filter_blanks hw (hblank ▸ List.subset_cons_self y ys)
  rw [hboth, hcs, List.append_cons, List.filter_append,
    trimChars_intercalate_append_right hsep hys, List.filter_append, List.filter_append,
    List.filter_cons, List.filter_cons, List.filter_nil, hkeep x (x ++ y) (.append_right hy x)]
  split
  · rw [intercalate_concat_append, (Padded.append_right hy _).trimChars_eq]
  · rfl

/-- What a filter keeps of the lines of a text is, once it is trimmed, what it keeps of the lines of
the trimmed text. -/
theorem trim_filter_lines_trim {keep : String → Bool}
    (hkeep : ∀ inner whole : String, Padded inner.toList whole.toList → keep whole = keep inner)
    (s : String) : trim (joinLines ((lines (trim s)).filter keep)) =
      trim (joinLines ((lines s).filter keep)) := by
  have hfeed : isBlank '\n' = true := by decide
  have hignores : IgnoresPadding (keep ∘ String.ofList) := fun inner whole hpad ↦
    hkeep _ _ (by rwa [String.toList_ofList, String.toList_ofList])
  have hjoined (t : String) : trim (joinLines ((lines t).filter keep)) = String.ofList
      (trimChars (['\n'].intercalate ((cutAt '\n' t.toList).filter (keep ∘ String.ofList)))) := by
    rw [trim, joinLines, joinWith, String.toList_intercalate, lines, split, List.filter_map,
      map_toList_ofList]
    rfl
  obtain ⟨v, w, hv, hw, hs⟩ := padded_trim s
  rw [hjoined, hjoined s, hs, trimChars_filter_append_left hfeed hignores hv,
    trimChars_filter_append_right hfeed hignores hw]

end ModuleScript.Text
