import Mathlib.Data.List.TakeWhile
import ModuleScript.Text.Blank
import ModuleScript.Text.Lines

/-!
# Blanks around a text

A text is padded when there is nothing but blanks around it. Trimming undoes padding, and the
lines of a trimmed text are those of the whole text but for padding and blank lines at its ends.
-/

namespace ModuleScript.Text

/-- Where a run of a kind stops at something else, the run and what follows are determined. -/
theorem append_inj_of_stop {α : Type} {p : α → Bool} {w w' x x' : List α}
    (hw : ∀ c ∈ w, p c = true) (hw' : ∀ c ∈ w', p c = true)
    (hx : x.head?.all (!p ·) = true) (hx' : x'.head?.all (!p ·) = true)
    (h : w ++ x = w' ++ x') : w = w' ∧ x = x' := by
  have take {w x : List α} (hw : ∀ c ∈ w, p c = true) (hx : x.head?.all (!p ·) = true) :
      (w ++ x).takeWhile p = w := by
    rw [List.takeWhile_append_of_pos hw]
    cases x with
    | nil => simp
    | cons c x =>
      have hc : p c = false := by simpa using hx
      simp [hc]
  have hww : w = w' := by rw [← take hw hx, h, take hw' hx']
  exact ⟨hww, List.append_cancel_left (hww ▸ h)⟩

/-- So they are where the run comes last. -/
theorem append_inj_of_stop_left {α : Type} {p : α → Bool} {w w' x x' : List α}
    (hw : ∀ c ∈ w, p c = true) (hw' : ∀ c ∈ w', p c = true)
    (hx : x.getLast?.all (!p ·) = true) (hx' : x'.getLast?.all (!p ·) = true)
    (h : x ++ w = x' ++ w') : x = x' ∧ w = w' := by
  have hrev : w.reverse ++ x.reverse = w'.reverse ++ x'.reverse := by
    simpa using congrArg List.reverse h
  obtain ⟨hrun, hrest⟩ := append_inj_of_stop (fun c hc ↦ hw c (List.mem_reverse.mp hc))
    (fun c hc ↦ hw' c (List.mem_reverse.mp hc)) (by simpa using hx) (by simpa using hx') hrev
  exact ⟨List.reverse_inj.mp hrest, List.reverse_inj.mp hrun⟩

/-- A text ends where a kind of characters stops, if characters of another kind come last. -/
theorem all_getLast?_append {p : Char → Bool} {u w : List Char} (hne : w ≠ [])
    (hw : ∀ c ∈ w, p c = false) : (u ++ w).getLast?.all (!p ·) = true := by
  rw [List.getLast?_append, List.getLast?_eq_some_getLast hne, Option.some_or, Option.all_some,
    hw _ (List.getLast_mem hne)]
  rfl

/-- Nothing but blanks. -/
def Blanks (w : List Char) : Prop := ∀ c ∈ w, isBlank c = true

instance (w : List Char) : Decidable (Blanks w) := List.decidableBAll _ w

theorem blanks_nil : Blanks [] := fun _ h ↦ absurd h List.not_mem_nil

theorem blanks_space : Blanks [' '] := by decide

theorem blanks_append {v w : List Char} : Blanks (v ++ w) ↔ Blanks v ∧ Blanks w :=
  List.forall_mem_append

/-- The text `inner` with blanks around it. -/
def Padded (inner whole : List Char) : Prop :=
  ∃ v w, Blanks v ∧ Blanks w ∧ whole = v ++ (inner ++ w)

theorem Padded.refl (cs : List Char) : Padded cs cs :=
  ⟨[], [], blanks_nil, blanks_nil, by simp⟩

theorem Padded.append_left {v : List Char} (hv : Blanks v) (cs : List Char) :
    Padded cs (v ++ cs) :=
  ⟨v, [], hv, blanks_nil, by simp⟩

theorem Padded.append_right {w : List Char} (hw : Blanks w) (cs : List Char) :
    Padded cs (cs ++ w) :=
  ⟨[], w, blanks_nil, hw, rfl⟩

theorem Padded.trans {a b c : List Char} (hab : Padded a b) (hbc : Padded b c) : Padded a c := by
  obtain ⟨v, w, hv, hw, rfl⟩ := hab
  obtain ⟨v', w', hv', hw', rfl⟩ := hbc
  exact ⟨v' ++ v, w ++ w', blanks_append.mpr ⟨hv', hv⟩, blanks_append.mpr ⟨hw, hw'⟩, by simp⟩

/-- A padded text is all blanks exactly if what is inside is. -/
theorem Padded.blanks_iff {inner whole : List Char} (h : Padded inner whole) :
    Blanks whole ↔ Blanks inner := by
  obtain ⟨v, w, hv, hw, rfl⟩ := h
  simp [blanks_append, hv, hw]

/-! ### Trimming -/

/-- Trimming leaves a text that is padded in the whole. -/
theorem padded_trimChars (cs : List Char) : Padded (trimChars cs) cs := by
  have hstart : Padded (cs.dropWhile isBlank) cs := by
    have h := Padded.append_left (v := cs.takeWhile isBlank)
      (fun c hc ↦ List.mem_takeWhile_imp hc) (cs.dropWhile isBlank)
    rwa [List.takeWhile_append_dropWhile] at h
  refine Padded.trans ?_ hstart
  rw [trimChars, trimStartChars, trimEndChars]
  generalize cs.dropWhile isBlank = ds
  have h := Padded.append_right (w := (ds.reverse.takeWhile isBlank).reverse)
    (fun c hc ↦ List.mem_takeWhile_imp (List.mem_reverse.mp hc))
    (ds.reverse.dropWhile isBlank).reverse
  rwa [← List.reverse_append, List.takeWhile_append_dropWhile, List.reverse_reverse] at h

/-- Nothing is left of blanks. -/
theorem trimChars_of_blanks {cs : List Char} (h : Blanks cs) : trimChars cs = [] := by
  have hdrop : cs.dropWhile isBlank = [] := List.dropWhile_eq_nil_iff.mpr h
  rw [trimChars, trimStartChars, hdrop]
  rfl

/-- Blanks in front make no difference to trimming. -/
private theorem trimChars_append_left {v : List Char} (hv : Blanks v) (cs : List Char) :
    trimChars (v ++ cs) = trimChars cs := by
  rw [trimChars, trimChars, trimStartChars, trimStartChars, List.dropWhile_append_of_pos hv]

/-- Blanks behind make no difference to trimming. -/
private theorem trimChars_append_right {w : List Char} (hw : Blanks w) (cs : List Char) :
    trimChars (cs ++ w) = trimChars cs := by
  by_cases hcs : Blanks cs
  · rw [trimChars_of_blanks hcs, trimChars_of_blanks (blanks_append.mpr ⟨hcs, hw⟩)]
  · have hne : (cs.dropWhile isBlank).isEmpty = false := by
      rw [Bool.eq_false_iff, ne_eq, List.isEmpty_iff, List.dropWhile_eq_nil_iff]
      exact hcs
    have hrev : ∀ c ∈ w.reverse, isBlank c = true := fun c hc ↦ hw c (List.mem_reverse.mp hc)
    simp only [trimChars, trimStartChars, trimEndChars, List.dropWhile_append, hne,
      Bool.false_eq_true, if_false, List.reverse_append, List.dropWhile_append_of_pos hrev]

/-- Trimming undoes padding. -/
theorem Padded.trimChars_eq {inner whole : List Char} (h : Padded inner whole) :
    trimChars whole = trimChars inner := by
  obtain ⟨v, w, hv, hw, rfl⟩ := h
  rw [trimChars_append_left hv, trimChars_append_right hw]

/-- A trimmed text starts with no blank. -/
theorem head?_trimChars (cs : List Char) : (trimChars cs).head?.all (!isBlank ·) = true := by
  have hprefix : trimChars cs <+: cs.dropWhile isBlank := by
    rw [trimChars, trimStartChars, trimEndChars, ← List.reverse_suffix, List.reverse_reverse]
    exact List.dropWhile_suffix _
  obtain ⟨w, hw⟩ := hprefix
  cases h : trimChars cs with
  | nil => rfl
  | cons c rest =>
    have hfirst := List.head?_dropWhile_not isBlank cs
    rw [← hw, h] at hfirst
    have hc : isBlank c = false := hfirst
    simp [hc]

/-- The characters of a trimmed text. -/
theorem toList_trim (s : String) : (trim s).toList = trimChars s.toList := String.toList_ofList

/-- A trimmed text is padded in the whole. -/
theorem padded_trim (s : String) : Padded (trim s).toList s.toList := by
  rw [toList_trim]
  exact padded_trimChars s.toList

/-- Trimming undoes padding. -/
theorem trim_eq_of_padded {inner whole : String} (h : Padded inner.toList whole.toList) :
    trim whole = trim inner := by
  rw [trim, trim, h.trimChars_eq]

/-- Trimming takes nothing from a text that neither starts nor ends with a blank. -/
theorem trimChars_eq_self {cs : List Char} (hfirst : cs.head?.all (!isBlank ·) = true)
    (hlast : cs.getLast?.all (!isBlank ·) = true) : trimChars cs = cs := by
  have hdrop {cs : List Char} (h : cs.head?.all (!isBlank ·) = true) :
      cs.dropWhile isBlank = cs := by
    cases cs with
    | nil => rfl
    | cons c cs => exact List.dropWhile_cons_of_neg (by simpa using h)
  rw [trimChars, trimStartChars, trimEndChars, hdrop hfirst, hdrop (by simpa using hlast),
    List.reverse_reverse]

theorem trim_eq_self {s : String} (hfirst : s.toList.head?.all (!isBlank ·) = true)
    (hlast : s.toList.getLast?.all (!isBlank ·) = true) : trim s = s := by
  rw [trim, trimChars_eq_self hfirst hlast, String.ofList_toList]

/-! ### Cutting -/

/-- There is always a first part. -/
theorem cutAt_ne_nil (sep : Char) (cs : List Char) : cutAt sep cs ≠ [] := by
  cases cs with
  | nil => simp [cutAt]
  | cons c rest =>
    rw [cutAt]
    split
    · simp
    · split <;> simp

/-- A separator closes the part before it. -/
theorem cutAt_cons_self (sep : Char) (cs : List Char) :
    cutAt sep (sep :: cs) = [] :: cutAt sep cs := by
  rw [cutAt, if_pos (beq_self_eq_true sep)]

/-- Any other character belongs to the first part. -/
theorem cutAt_cons_of_ne {sep c : Char} (h : c ≠ sep) {cs part : List Char}
    {parts : List (List Char)} (hcs : cutAt sep cs = part :: parts) :
    cutAt sep (c :: cs) = (c :: part) :: parts := by
  rw [cutAt, if_neg (by simpa using h), hcs]

/-- Where two texts meet, the last part of the one goes on with the first part of the other. -/
theorem cutAt_append (sep : Char) (a b : List Char) :
    ∃ xs x y ys, cutAt sep a = xs ++ [x] ∧ cutAt sep b = y :: ys ∧
      cutAt sep (a ++ b) = xs ++ (x ++ y) :: ys := by
  obtain ⟨y, ys, hb⟩ := List.exists_cons_of_ne_nil (cutAt_ne_nil sep b)
  induction a with
  | nil => exact ⟨[], [], y, ys, rfl, hb, hb⟩
  | cons c a ih =>
    obtain ⟨xs, x, y', ys', ha, hb', hab⟩ := ih
    rw [hb, List.cons.injEq] at hb'
    obtain ⟨rfl, rfl⟩ := hb'
    by_cases hc : c = sep
    · subst hc
      refine ⟨[] :: xs, x, y, ys, ?_, hb, ?_⟩
      · rw [cutAt_cons_self, ha, List.cons_append]
      · rw [List.cons_append, cutAt_cons_self, hab, List.cons_append]
    · cases xs with
      | nil =>
        refine ⟨[], c :: x, y, ys, cutAt_cons_of_ne hc ha, hb, ?_⟩
        exact cutAt_cons_of_ne hc hab
      | cons x' xs =>
        refine ⟨(c :: x') :: xs, x, y, ys, cutAt_cons_of_ne hc ha, hb, ?_⟩
        exact cutAt_cons_of_ne hc hab

/-- Parts hold no separator. -/
theorem sep_notMem_of_mem_cutAt {sep : Char} {cs part : List Char} (h : part ∈ cutAt sep cs) :
    sep ∉ part := by
  induction cs generalizing part with
  | nil =>
    rw [cutAt, List.mem_singleton] at h
    simp [h]
  | cons c cs ih =>
    by_cases hc : c = sep
    · subst hc
      rw [cutAt_cons_self, List.mem_cons] at h
      rcases h with rfl | h
      · exact List.not_mem_nil
      · exact ih h
    · obtain ⟨p, ps, hcs⟩ := List.exists_cons_of_ne_nil (cutAt_ne_nil sep cs)
      rw [cutAt_cons_of_ne hc hcs, List.mem_cons] at h
      rcases h with rfl | h
      · have hp : sep ∉ p := ih (hcs ▸ List.mem_cons_self)
        simp [Ne.symm hc, hp]
      · exact ih (hcs ▸ List.mem_cons_of_mem _ h)

/-- Cutting takes its characters from the text. -/
theorem mem_of_mem_cutAt {sep c : Char} {cs part : List Char} (h : part ∈ cutAt sep cs)
    (hc : c ∈ part) : c ∈ cs := by
  induction cs generalizing part with
  | nil =>
    rw [cutAt, List.mem_singleton] at h
    exact absurd hc (h ▸ List.not_mem_nil)
  | cons d cs ih =>
    by_cases hd : d = sep
    · subst hd
      rw [cutAt_cons_self, List.mem_cons] at h
      rcases h with rfl | h
      · exact absurd hc List.not_mem_nil
      · exact List.mem_cons_of_mem _ (ih h hc)
    · obtain ⟨p, ps, hcs⟩ := List.exists_cons_of_ne_nil (cutAt_ne_nil sep cs)
      rw [cutAt_cons_of_ne hd hcs, List.mem_cons] at h
      rcases h with rfl | h
      · rcases List.mem_cons.mp hc with rfl | hc
        · exact List.mem_cons_self
        · exact List.mem_cons_of_mem _ (ih (hcs ▸ List.mem_cons_self) hc)
      · exact List.mem_cons_of_mem _ (ih (hcs ▸ List.mem_cons_of_mem _ h) hc)

/-- The parts of blanks are blanks. -/
theorem blanks_of_mem_cutAt {sep : Char} {cs part : List Char} (hcs : Blanks cs)
    (h : part ∈ cutAt sep cs) : Blanks part :=
  fun c hc ↦ hcs c (mem_of_mem_cutAt h hc)

/-- A text without separators in front of a separator is the first part. -/
theorem cutAt_append_sep {sep : Char} {part : List Char} (h : sep ∉ part) (cs : List Char) :
    cutAt sep (part ++ sep :: cs) = part :: cutAt sep cs := by
  induction part with
  | nil => exact cutAt_cons_self sep cs
  | cons c part ih =>
    rw [List.mem_cons, not_or] at h
    exact cutAt_cons_of_ne (Ne.symm h.1) (ih h.2)

/-- A text without separators is its only part. -/
theorem cutAt_of_notMem {sep : Char} {part : List Char} (h : sep ∉ part) :
    cutAt sep part = [part] := by
  induction part with
  | nil => rfl
  | cons c part ih =>
    rw [List.mem_cons, not_or] at h
    exact cutAt_cons_of_ne (Ne.symm h.1) (ih h.2)

/-- At a separator a text is cut in two. -/
theorem cutAt_append_cons (sep : Char) (a b : List Char) :
    cutAt sep (a ++ sep :: b) = cutAt sep a ++ cutAt sep b := by
  obtain ⟨xs, x, y, ys, ha, hb, hab⟩ := cutAt_append sep a (sep :: b)
  rw [cutAt_cons_self, List.cons.injEq] at hb
  obtain ⟨rfl, rfl⟩ := hb
  rw [hab, ha, List.append_nil, List.append_assoc]
  rfl

/-- Where no part is empty, no separator stands at an end or next to another one. -/
theorem seps_apart_of_nil_notMem_cutAt {sep : Char} {cs : List Char} (h : [] ∉ cutAt sep cs) :
    cs.head? ≠ some sep ∧ cs.getLast? ≠ some sep ∧ ¬ [sep, sep] <:+: cs := by
  refine ⟨fun hhead ↦ h ?_, fun hlast ↦ h ?_, fun hboth ↦ h ?_⟩
  · obtain ⟨b, rfl⟩ := List.head?_eq_some_iff.mp hhead
    rw [cutAt_cons_self]
    exact List.mem_cons_self
  · obtain ⟨a, rfl⟩ := List.getLast?_eq_some_iff.mp hlast
    rw [cutAt_append_cons]
    exact List.mem_append_right _ (List.mem_singleton_self _)
  · obtain ⟨a, b, rfl⟩ := hboth
    rw [List.append_assoc, List.cons_append, cutAt_append_cons, List.singleton_append,
      cutAt_cons_self]
    exact List.mem_append_right _ List.mem_cons_self

/-- A part stands in its text behind the parts before it and their separators. -/
theorem exists_split_of_cutAt {sep : Char} {cs part : List Char} {xs ys : List (List Char)}
    (h : cutAt sep cs = xs ++ part :: ys) :
    ∃ v, cs = xs.flatMap (· ++ [sep]) ++ (part ++ v) := by
  induction cs generalizing part xs with
  | nil =>
    rw [cutAt, eq_comm, List.append_eq_singleton_iff] at h
    rcases h with ⟨rfl, h⟩ | ⟨-, h⟩
    · obtain ⟨rfl, -⟩ := List.cons.inj h
      exact ⟨[], rfl⟩
    · exact absurd h (by simp)
  | cons c cs ih =>
    by_cases hc : c = sep
    · subst hc
      rw [cutAt_cons_self] at h
      cases xs with
      | nil =>
        obtain ⟨rfl, -⟩ := List.cons.inj h
        exact ⟨c :: cs, rfl⟩
      | cons x xs =>
        rw [List.cons_append, List.cons.injEq] at h
        obtain ⟨rfl, hcut⟩ := h
        obtain ⟨v, rfl⟩ := ih hcut
        exact ⟨v, rfl⟩
    · obtain ⟨first, parts, hcut⟩ := List.exists_cons_of_ne_nil (cutAt_ne_nil sep cs)
      rw [cutAt_cons_of_ne hc hcut] at h
      cases xs with
      | nil =>
        obtain ⟨rfl, rfl⟩ := List.cons.inj h
        have hfirst : cutAt sep cs = [] ++ first :: parts := hcut
        obtain ⟨v, rfl⟩ := ih hfirst
        exact ⟨v, rfl⟩
      | cons x xs =>
        obtain ⟨rfl, rfl⟩ := List.cons.inj h
        have hlater : cutAt sep cs = (first :: xs) ++ part :: ys := hcut
        obtain ⟨v, rfl⟩ := ih hlater
        exact ⟨v, rfl⟩

/-! ### Lines of padded and trimmed texts -/

/-- The parts of a text are padded in those of the text with blanks around it. -/
theorem exists_padded_of_mem_cutAt {sep : Char} {inner whole part : List Char}
    (h : Padded inner whole) (hp : part ∈ cutAt sep inner) :
    ∃ p ∈ cutAt sep whole, Padded part p := by
  obtain ⟨v, w, hv, hw, rfl⟩ := h
  obtain ⟨xs, x, y, ys, hin, hend, hright⟩ := cutAt_append sep inner w
  obtain ⟨us, u, z, zs, hstart, hbody, hleft⟩ := cutAt_append sep v (inner ++ w)
  have hu : Blanks u := blanks_of_mem_cutAt hv (hstart ▸ List.mem_append_right us (by simp))
  have hy : Blanks y := blanks_of_mem_cutAt hw (hend ▸ List.mem_cons_self)
  -- first the blanks behind, then those in front
  have hmid : ∃ p ∈ cutAt sep (inner ++ w), Padded part p := by
    rw [hright]
    rcases List.mem_append.mp (hin ▸ hp) with h | h
    · exact ⟨part, List.mem_append_left _ h, .refl part⟩
    · rw [List.mem_singleton] at h
      exact ⟨x ++ y, List.mem_append_right _ List.mem_cons_self, h ▸ .append_right hy x⟩
  obtain ⟨p, hpmem, hpad⟩ := hmid
  rw [hleft]
  rcases List.mem_cons.mp (hbody ▸ hpmem) with rfl | h
  · exact ⟨u ++ p, List.mem_append_right _ List.mem_cons_self, hpad.trans (.append_left hu p)⟩
  · exact ⟨p, List.mem_append_right _ (List.mem_cons_of_mem _ h), hpad⟩

/-- The parts of a text with blanks around it pad those of the text, or are blank. -/
theorem exists_of_mem_cutAt_padded {sep : Char} {inner whole p : List Char}
    (h : Padded inner whole) (hp : p ∈ cutAt sep whole) (hne : ¬ Blanks p) :
    ∃ part ∈ cutAt sep inner, Padded part p := by
  obtain ⟨v, w, hv, hw, rfl⟩ := h
  obtain ⟨xs, x, y, ys, hin, hend, hright⟩ := cutAt_append sep inner w
  obtain ⟨us, u, z, zs, hstart, hbody, hleft⟩ := cutAt_append sep v (inner ++ w)
  have hus (q : List Char) (hq : q ∈ us ++ [u]) : Blanks q :=
    blanks_of_mem_cutAt hv (hstart ▸ hq)
  have hys (q : List Char) (hq : q ∈ y :: ys) : Blanks q := blanks_of_mem_cutAt hw (hend ▸ hq)
  have hmid : ∃ q ∈ cutAt sep (inner ++ w), Padded q p := by
    rw [hbody]
    rcases List.mem_append.mp (hleft ▸ hp) with h | h
    · exact absurd (hus p (List.mem_append_left _ h)) hne
    · rcases List.mem_cons.mp h with rfl | h
      · exact ⟨z, List.mem_cons_self, .append_left (hus u (by simp)) z⟩
      · exact ⟨p, List.mem_cons_of_mem _ h, .refl p⟩
  obtain ⟨q, hq, hpad⟩ := hmid
  have hqne : ¬ Blanks q := fun hb ↦ hne (hpad.blanks_iff.mpr hb)
  rw [hin]
  rcases List.mem_append.mp (hright ▸ hq) with h | h
  · exact ⟨q, List.mem_append_left _ h, hpad⟩
  · rcases List.mem_cons.mp h with rfl | h
    · exact ⟨x, by simp, (Padded.append_right (hys y List.mem_cons_self) x).trans hpad⟩
    · exact absurd (hys q (List.mem_cons_of_mem _ h)) hqne

theorem mem_lines {line s : String} : line ∈ lines s ↔ line.toList ∈ cutAt '\n' s.toList := by
  rw [lines, split, List.mem_map]
  constructor
  · rintro ⟨part, hpart, rfl⟩
    rwa [String.toList_ofList]
  · intro h
    exact ⟨line.toList, h, String.ofList_toList⟩

/-- Lines hold no line feed. -/
theorem lineFeed_notMem_of_mem_lines {line s : String} (h : line ∈ lines s) :
    '\n' ∉ line.toList :=
  sep_notMem_of_mem_cutAt (mem_lines.mp h)

/-- Every line of a trimmed text is padded in a line of the text. -/
theorem exists_padded_of_mem_lines_trim {line s : String} (h : line ∈ lines (trim s)) :
    ∃ whole ∈ lines s, Padded line.toList whole.toList := by
  obtain ⟨p, hp, hpad⟩ := exists_padded_of_mem_cutAt (padded_trim s) (mem_lines.mp h)
  exact ⟨String.ofList p, mem_lines.mpr (by rwa [String.toList_ofList]), by
    rwa [String.toList_ofList]⟩

/-- Every line of a text that is not blank pads a line of the trimmed text. -/
theorem exists_of_mem_lines_trim {whole s : String} (h : whole ∈ lines s)
    (hne : ¬ Blanks whole.toList) :
    ∃ line ∈ lines (trim s), Padded line.toList whole.toList := by
  obtain ⟨p, hp, hpad⟩ := exists_of_mem_cutAt_padded (padded_trim s) (mem_lines.mp h) hne
  exact ⟨String.ofList p, mem_lines.mpr (by rwa [String.toList_ofList]), by
    rwa [String.toList_ofList]⟩

private theorem cutAt_intercalate {sep : Char} {parts : List (List Char)} (hne : parts ≠ [])
    (h : ∀ part ∈ parts, sep ∉ part) : cutAt sep ([sep].intercalate parts) = parts := by
  induction parts with
  | nil => exact absurd rfl hne
  | cons part rest ih =>
    have hpart := h part List.mem_cons_self
    cases rest with
    | nil => simpa using cutAt_of_notMem hpart
    | cons next rest =>
      have hrest := ih (by simp) fun p hp ↦ h p (List.mem_cons_of_mem _ hp)
      rw [List.intercalate_cons_cons, List.append_assoc, List.singleton_append,
        cutAt_append_sep hpart, hrest]

/-- Joining lines and cutting them again gives the lines back, if there are any. -/
theorem lines_joinLines {parts : List String} (hne : parts ≠ [])
    (h : ∀ part ∈ parts, '\n' ∉ part.toList) : lines (joinLines parts) = parts := by
  have hcut : cutAt '\n' (joinLines parts).toList = parts.map String.toList := by
    rw [joinLines, joinWith, String.toList_intercalate]
    refine cutAt_intercalate (by simpa using hne) fun part hpart ↦ ?_
    obtain ⟨s, hs, rfl⟩ := List.mem_map.mp hpart
    exact h s hs
  rw [lines, split, hcut, List.map_map]
  simp

end ModuleScript.Text
