import ModuleScript.Proofs.Text.Padding

/-!
# The words of a text

Words are not empty and have no blanks in them. A text with single spaces between its words has no
other words, so reducing the blanks of a text to single spaces twice does no more than once.
-/

namespace ModuleScript.Text

/-- A blank ends the word under way, and what follows has words of its own. -/
private theorem wordsFrom_append_blank (run x y : List Char) {c : Char} (hc : isBlank c = true) :
    wordsFrom run (x ++ c :: y) = wordsFrom run x ++ wordsFrom [] y := by
  induction x generalizing run with
  | nil =>
    simp only [List.nil_append, wordsFrom, hc, if_true]
    split <;> rfl
  | cons d x ih =>
    rw [List.cons_append, wordsFrom, wordsFrom]
    split
    · split
      · exact ih []
      · rw [ih [], List.cons_append]
    · exact ih (d :: run)

/-- What has no blanks goes on with the word under way. -/
private theorem wordsFrom_of_no_blank {w : List Char} (hw : ∀ c ∈ w, isBlank c = false)
    (run : List Char) :
    wordsFrom run w = if run = [] ∧ w = [] then [] else [run.reverse ++ w] := by
  induction w generalizing run with
  | nil => simp [wordsFrom]
  | cons c w ih =>
    rw [List.forall_mem_cons] at hw
    rw [wordsFrom, hw.1, if_neg Bool.false_ne_true, ih hw.2]
    simp

private theorem mem_wordsFrom {run cs w : List Char} (hrun : ∀ c ∈ run, isBlank c = false)
    (hw : w ∈ wordsFrom run cs) :
    w ≠ [] ∧ ∀ c ∈ w, isBlank c = false ∧ (c ∈ run ∨ c ∈ cs) := by
  induction cs generalizing run with
  | nil =>
    rw [wordsFrom] at hw
    split at hw
    · exact absurd hw List.not_mem_nil
    next hne =>
      rw [List.mem_singleton.mp hw]
      refine ⟨by simpa using hne, fun c hc ↦ ?_⟩
      have hc := List.mem_reverse.mp hc
      exact ⟨hrun c hc, .inl hc⟩
  | cons d cs ih =>
    have htail (h : w ∈ wordsFrom [] cs) :
        w ≠ [] ∧ ∀ c ∈ w, isBlank c = false ∧ (c ∈ run ∨ c ∈ d :: cs) := by
      obtain ⟨hne, hall⟩ := ih (by simp) h
      exact ⟨hne, fun c hc ↦ ⟨(hall c hc).1,
        .inr (List.mem_cons_of_mem d ((hall c hc).2.resolve_left List.not_mem_nil))⟩⟩
    rw [wordsFrom] at hw
    split at hw
    next =>
      split at hw
      next => exact htail hw
      next hne =>
        rcases List.mem_cons.mp hw with rfl | hw
        · refine ⟨by simpa using hne, fun c hc ↦ ?_⟩
          have hc := List.mem_reverse.mp hc
          exact ⟨hrun c hc, .inl hc⟩
        · exact htail hw
    next hd =>
      have hlonger : ∀ c ∈ d :: run, isBlank c = false :=
        List.forall_mem_cons.mpr ⟨by simpa using hd, hrun⟩
      obtain ⟨hne, hall⟩ := ih hlonger hw
      refine ⟨hne, fun c hc ↦ ⟨(hall c hc).1, ?_⟩⟩
      rcases (hall c hc).2 with hmem | hmem
      · rcases List.mem_cons.mp hmem with rfl | hmem
        · exact .inr List.mem_cons_self
        · exact .inl hmem
      · exact .inr (List.mem_cons_of_mem _ hmem)

/-- The characters of a word, which is not empty: no blanks, and all from the text. -/
theorem mem_words {s word : String} (h : word ∈ words s) :
    word ≠ "" ∧ ∀ c ∈ word.toList, isBlank c = false ∧ c ∈ s.toList := by
  obtain ⟨w, hw, rfl⟩ := List.mem_map.mp h
  obtain ⟨hne, hall⟩ := mem_wordsFrom (by simp) hw
  rw [String.toList_ofList]
  refine ⟨fun h ↦ hne (by simpa using congrArg String.toList h), fun c hc ↦ ?_⟩
  exact ⟨(hall c hc).1, by simpa using (hall c hc).2⟩

private theorem wordsFrom_append_left {v : List Char} (hv : Blanks v) (cs : List Char) :
    wordsFrom [] (v ++ cs) = wordsFrom [] cs := by
  induction v with
  | nil => rfl
  | cons c v ih =>
    have hall := List.forall_mem_cons.mp hv
    exact (wordsFrom_append_blank [] [] (v ++ cs) hall.1).trans (ih hall.2)

private theorem wordsFrom_append_right {w : List Char} (hw : Blanks w) (cs : List Char) :
    wordsFrom [] (cs ++ w) = wordsFrom [] cs := by
  cases w with
  | nil => rw [List.append_nil]
  | cons c w =>
    have hall := List.forall_mem_cons.mp hw
    have hnone := wordsFrom_append_left hall.2 []
    rw [List.append_nil] at hnone
    rw [wordsFrom_append_blank [] cs w hall.1, hnone]
    exact List.append_nil _

/-- Blanks around a text do not change its words. -/
theorem words_of_padded {inner whole : String} (h : Padded inner.toList whole.toList) :
    words whole = words inner := by
  obtain ⟨v, w, hv, hw, heq⟩ := h
  rw [words, words, heq, wordsFrom_append_left hv, wordsFrom_append_right hw]

/-! ### Single spaces -/

/-- The text with single spaces in place of the blanks between its words. -/
def singleSpaced (s : String) : String := joinWith " " (words s)

private theorem wordsFrom_intercalate {ws : List (List Char)}
    (h : ∀ w ∈ ws, w ≠ [] ∧ ∀ c ∈ w, isBlank c = false) :
    wordsFrom [] ([' '].intercalate ws) = ws := by
  induction ws with
  | nil => rfl
  | cons w rest ih =>
    obtain ⟨⟨hne, hw⟩, hrest⟩ := List.forall_mem_cons.mp h
    have hword : wordsFrom [] w = [w] := by simp [wordsFrom_of_no_blank hw, hne]
    cases rest with
    | nil => simpa using hword
    | cons next rest =>
      have hspace : isBlank ' ' = true := by decide
      rw [List.intercalate_cons_cons, List.append_assoc, List.singleton_append,
        wordsFrom_append_blank [] w _ hspace, hword, ih hrest, List.singleton_append]

/-- The words of a text with single spaces are the same. -/
theorem words_singleSpaced (s : String) : words (singleSpaced s) = words s := by
  have hwords : ∀ w ∈ (words s).map String.toList, w ≠ [] ∧ ∀ c ∈ w, isBlank c = false := by
    intro w hw
    obtain ⟨word, hword, rfl⟩ := List.mem_map.mp hw
    obtain ⟨hne, hall⟩ := mem_words hword
    exact ⟨by simpa using hne, fun c hc ↦ (hall c hc).1⟩
  have hspace : " ".toList = [' '] := rfl
  rw [singleSpaced, words.eq_def (joinWith " " (words s)), joinWith, String.toList_intercalate,
    hspace, wordsFrom_intercalate hwords, List.map_map]
  simp

/-- Single spaces stay single. -/
theorem singleSpaced_singleSpaced (s : String) :
    singleSpaced (singleSpaced s) = singleSpaced s := by
  rw [singleSpaced, words_singleSpaced, ← singleSpaced]

/-- Blanks around a text are no part of it with single spaces. -/
theorem singleSpaced_of_padded {inner whole : String}
    (h : Padded inner.toList whole.toList) : singleSpaced whole = singleSpaced inner := by
  rw [singleSpaced, words_of_padded h, ← singleSpaced]

/-- The characters of a joined text are those of its parts and of what stands between them. -/
theorem mem_joinWith {sep : String} {parts : List String} {c : Char}
    (h : c ∈ (joinWith sep parts).toList) : c ∈ sep.toList ∨ ∃ part ∈ parts, c ∈ part.toList := by
  rw [joinWith, String.toList_intercalate] at h
  induction parts with
  | nil => exact absurd h (by simp)
  | cons part rest ih =>
    cases rest with
    | nil => exact .inr ⟨part, List.mem_cons_self, by simpa using h⟩
    | cons next rest =>
      simp only [List.map_cons, List.intercalate_cons_cons, List.mem_append] at h ih
      rcases h with (h | h) | h
      · exact .inr ⟨part, List.mem_cons_self, h⟩
      · exact .inl h
      · rcases ih h with hsep | ⟨p, hp, hc⟩
        · exact .inl hsep
        · exact .inr ⟨p, List.mem_cons_of_mem _ hp, hc⟩

/-- With single spaces, the characters are those of the text and spaces. -/
theorem mem_singleSpaced {s : String} {c : Char} (h : c ∈ (singleSpaced s).toList) :
    c ∈ s.toList ∨ c = ' ' := by
  rcases mem_joinWith h with hspace | ⟨word, hword, hc⟩
  · exact .inr (List.mem_singleton.mp hspace)
  · exact .inl ((mem_words hword).2 c hc).2

end ModuleScript.Text
