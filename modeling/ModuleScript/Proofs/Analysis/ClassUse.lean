import Mathlib.Data.List.Basic
import ModuleScript.Proofs.Pattern.Scanning
import ModuleScript.Proofs.Script.Names
import ModuleScript.Proofs.Stimulus.StatementText

/-!
# Uses of classes in scripts

A script gives away that it uses a class by constructing an instance of it, by calling one of its
methods, or by assigning or calling one of its constants. Each such use consists of two words, so
that a second use could start strictly inside it at the second word only, and there none starts.
-/

namespace ModuleScript.Analysis

open Pattern Text Script

/-! ### The forms of use -/

/-- A name: a character of one kind, then any number of another. -/
def NameText (first further : Char → Bool) (cs : List Char) : Prop :=
  ∃ c w, cs = c :: w ∧ first c = true ∧ ∀ d ∈ w, further d = true

/-- A class name: a capital, then ASCII word characters. -/
def ClassText : List Char → Prop := NameText isAsciiUpper isAsciiWord

/-- The name of a member: ASCII word characters, the first of which is no digit. -/
def MemberText : List Char → Prop :=
  NameText (fun c ↦ isAsciiLower c || isAsciiUpper c || c == '_') isAsciiWord

/-- The name of a constant: capitals, digits and low lines, the first of which is no digit. -/
def ConstantText : List Char → Prop :=
  NameText (fun c ↦ isAsciiUpper c || c == '_')
    (fun c ↦ isAsciiUpper c || isAsciiDigit c || c == '_')

/-- An instance of the class `x` is made: `new`, blanks, the class, blanks or none, and what
opens a call. -/
def Construction (x text : List Char) : Prop :=
  ∃ gap space, gap ≠ [] ∧ Blanks gap ∧ Blanks space ∧
    text = "new".toList ++ (gap ++ (x ++ (space ++ ['('])))

/-- A name that belongs to the class `x` is used: the class, a full stop, the name, blanks or
none, and a sign of its use. -/
def Access (Name : List Char → Prop) (sign : Char → Bool) (x text : List Char) : Prop :=
  ∃ name space c, Name name ∧ Blanks space ∧ sign c = true ∧
    text = x ++ (['.'] ++ (name ++ (space ++ [c])))

/-- One of the forms in which a script uses the class `x`: it makes an instance, calls a method, or
assigns or calls a constant. -/
def UsesClass (x text : List Char) : Prop :=
  Construction x text ∨ Access MemberText (· == '(') x text ∨
    Access ConstantText (fun c ↦ c == '=' || c == '(') x text

/-- Word characters are on exactly one side of the place between two texts. -/
def WordEdge (before after : List Char) : Prop :=
  before.getLast?.any isWord ≠ after.head?.any isWord

instance (before after : List Char) : Decidable (WordEdge before after) :=
  inferInstanceAs (Decidable (_ ≠ _))

theorem atWordEdge_between {before rest : List Char} :
    (State.between before rest).atWordEdge = true ↔ WordEdge before rest := by
  rw [State.atWordEdge, bne_iff_ne]
  rfl

/-! ### Where words start -/

section Words

variable {inner after rest : List Char}

/-- A place that is not behind a word character lies behind a run of them that comes first. -/
private theorem exists_behind_word {word : List Char} (hword : ∀ c ∈ word, isWord c = true)
    (hinner : inner ≠ []) (hlast : inner.getLast?.any isWord = false)
    (h : word ++ rest = inner ++ after) :
    ∃ more, inner = word ++ more ∧ more ≠ [] ∧ rest = more ++ after := by
  have hnotword (hall : ∀ c ∈ inner, isWord c = true) : False := by
    have hmem := List.getLast_mem hinner
    rw [List.getLast?_eq_some_getLast hinner, Option.any_some, hall _ hmem] at hlast
    exact Bool.noConfusion hlast
  rcases List.append_eq_append_iff.mp h with ⟨more, hsplit, hrest⟩ | ⟨more, hsplit, -⟩
  · refine ⟨more, hsplit, ?_, hrest⟩
    rintro rfl
    rw [List.append_nil] at hsplit
    exact hnotword (hsplit ▸ hword)
  · exact (hnotword fun c hc ↦ hword c (hsplit ▸ List.mem_append_left more hc)).elim

/-- A place before a word character lies behind a run without any that comes first. -/
private theorem exists_behind_gap {gap : List Char} (hgap : ∀ c ∈ gap, isWord c = false)
    (hhead : after.head?.any isWord = true) (h : gap ++ rest = inner ++ after) :
    ∃ more, inner = gap ++ more ∧ rest = more ++ after := by
  rcases List.append_eq_append_iff.mp h with ⟨more, hsplit, hrest⟩ | ⟨more, hsplit, hafter⟩
  · exact ⟨more, hsplit, hrest⟩
  · cases more with
    | nil => exact ⟨[], by simpa using hsplit.symm, by simpa using hafter.symm⟩
    | cons c more =>
      have hc := hgap c (by simp [hsplit])
      rw [hafter, List.cons_append, List.head?_cons, Option.any_some, hc] at hhead
      exact Bool.noConfusion hhead

/-- Within two words and what is between and behind them, a further word starts at the second one
only. -/
theorem eq_of_word_starts {first gap second tail : List Char}
    (hfirst : ∀ c ∈ first, isWord c = true) (hgap : ∀ c ∈ gap, isWord c = false)
    (hsecond : ∀ c ∈ second, isWord c = true) (htail : ∀ c ∈ tail, isWord c = false)
    (h : first ++ (gap ++ (second ++ (tail ++ rest))) = inner ++ after)
    (hinner : inner ≠ []) (hlength : inner.length < (first ++ (gap ++ (second ++ tail))).length)
    (hedge : WordEdge inner after) (hhead : after.head?.any isWord = true) :
    after = second ++ (tail ++ rest) := by
  have hlast : inner.getLast?.any isWord = false := by
    rw [WordEdge, hhead] at hedge
    exact Bool.eq_false_iff.mpr hedge
  obtain ⟨u, rfl, hu, hu'⟩ := exists_behind_word hfirst hinner hlast h
  obtain ⟨v, rfl, hv'⟩ := exists_behind_gap hgap hhead hu'
  by_cases hv : v = []
  · rw [hv', hv, List.nil_append]
  · -- a place behind the second word lies behind the whole text
    have hlast' : v.getLast?.any isWord = false := by
      rw [← List.append_assoc, List.getLast?_append_of_ne_nil _ hv] at hlast
      exact hlast
    obtain ⟨w, rfl, -, hw'⟩ := exists_behind_word hsecond hv hlast' hv'
    obtain ⟨x, rfl, -⟩ := exists_behind_gap htail hhead hw'
    simp only [List.length_append] at hlength
    omega

end Words

/-! ### Forms that keep apart -/

theorem NameText.forall {first further p : Char → Bool} {cs : List Char}
    (h : NameText first further cs) (hfirst : ∀ c, first c = true → p c = true)
    (hfurther : ∀ c, further c = true → p c = true) : ∀ c ∈ cs, p c = true := by
  obtain ⟨c, w, rfl, hc, hw⟩ := h
  intro d hd
  rcases List.mem_cons.mp hd with rfl | hd
  · exact hfirst d hc
  · exact hfurther d (hw d hd)

theorem isAsciiWord_of_isAsciiUpper {c : Char} (h : isAsciiUpper c = true) :
    isAsciiWord c = true := by
  simp [isAsciiWord, h]

/-- A class name is a run of ASCII word characters. -/
theorem ClassText.isAsciiWord {x : List Char} (h : ClassText x) :
    ∀ c ∈ x, Text.isAsciiWord c = true :=
  NameText.forall h (fun _ ↦ isAsciiWord_of_isAsciiUpper) fun _ hc ↦ hc

theorem ClassText.isWord {x : List Char} (h : ClassText x) : ∀ c ∈ x, Text.isWord c = true :=
  fun c hc ↦ isWord_of_isAsciiWord (h.isAsciiWord c hc)

theorem isAsciiWord_of_isWord {c : Char} (h : isWord c = false) : isAsciiWord c = false := by
  rw [isWord, Bool.or_eq_false_iff] at h
  exact h.1

/-- After blanks or none stands a blank or what follows them. -/
private theorem exists_head?_blanks {space : List Char} (hspace : Blanks space) (c : Char)
    (rest : List Char) :
    ∃ d, (space ++ c :: rest).head? = some d ∧ (isBlank d = true ∨ d = c) := by
  cases space with
  | nil => exact ⟨c, rfl, .inr rfl⟩
  | cons d space => exact ⟨d, rfl, .inl (hspace d List.mem_cons_self)⟩

/-- Blanks or none and something that is no word character stop a word. -/
private theorem stops_word {space : List Char} (hspace : Blanks space) {c : Char}
    (hc : isWord c = false) (rest : List Char) :
    (space ++ c :: rest).head?.all (!Text.isAsciiWord ·) = true := by
  obtain ⟨d, hd, hkind⟩ := exists_head?_blanks hspace c rest
  have hword : isWord d = false := by
    rcases hkind with hblank | rfl
    · exact isWord_of_isBlank hblank
    · exact hc
  rw [hd, Option.all_some, isAsciiWord_of_isWord hword]
  rfl

private theorem blanks_sign_no_word {space : List Char} (hspace : Blanks space) {c : Char}
    (hc : isWord c = false) : ∀ d ∈ space ++ [c], isWord d = false :=
  List.forall_mem_append.mpr ⟨fun d hd ↦ isWord_of_isBlank (hspace d hd), by simpa using hc⟩

/-- A form of use whose text tells the class, and strictly inside of which no use of the same
form starts. -/
structure Distinct (form : List Char → List Char → Prop) : Prop where
  reads {x text : List Char} : form x text → text ≠ []
  unique {x y text text' rest rest' : List Char} : ClassText x → ClassText y →
    form x text → form y text' → text ++ rest = text' ++ rest' → x = y
  inside {x y text text' rest rest' inner : List Char} : ClassText x → ClassText y →
    form x text → form y text' → text ++ rest = inner ++ (text' ++ rest') → inner ≠ [] →
      inner.length < text.length → ¬ WordEdge inner (text' ++ rest')

private theorem isWord_paren : isWord '(' = false := by decide +kernel

private theorem isWord_dot : isWord '.' = false := by decide +kernel

/-- Constructions are told by the class between the blanks, and a class is no `new`. -/
theorem distinct_construction : Distinct Construction where
  reads := by
    rintro x _ ⟨gap, space, -, -, -, rfl⟩
    exact List.append_ne_nil_of_left_ne_nil (by decide) _
  unique := by
    rintro x y _ _ rest rest' hx hy ⟨gap, space, -, hgap, hspace, rfl⟩
      ⟨gap', space', -, hgap', hspace', rfl⟩ h
    have hclass {x : List Char} (hx : ClassText x) (more : List Char) :
        (x ++ more).head?.all (!isBlank ·) = true := by
      obtain ⟨c, w, rfl, hc, -⟩ := hx
      have hstart : isStart c = true := by simp [isStart, hc]
      simp [isBlank_of_isStart hstart]
    simp only [List.append_assoc, List.singleton_append] at h
    have hbehind := List.append_cancel_left h
    obtain ⟨-, hrest⟩ := append_inj_of_stop hgap hgap' (hclass hx _) (hclass hy _) hbehind
    exact (append_inj_of_stop hx.isAsciiWord hy.isAsciiWord (stops_word hspace isWord_paren rest)
      (stops_word hspace' isWord_paren rest') hrest).1
  inside := by
    rintro x y _ _ rest rest' inner hx hy ⟨gap, space, -, hgap, hspace, rfl⟩
      ⟨gap', space', -, -, -, rfl⟩ h hinner hlength hedge
    have hnew : ∀ c ∈ "new".toList, isWord c = true := List.all_eq_true.mp (by decide +kernel)
    have hhead : isWord 'n' = true := hnew 'n' (by simp)
    have hafter := eq_of_word_starts hnew (fun c hc ↦ isWord_of_isBlank (hgap c hc)) hx.isWord
      (blanks_sign_no_word hspace isWord_paren) (by simpa using h) hinner hlength hedge
      (by simpa using hhead)
    obtain ⟨c, w, rfl, hc, -⟩ := hx
    have hn : 'n' = c := (List.cons.inj hafter).1
    rw [← hn] at hc
    exact absurd hc (by decide)

/-- Uses of a class's own names are told by the class before the full stop, and behind the name
there is no full stop. -/
theorem distinct_access {Name : List Char → Prop} {sign : Char → Bool}
    (hname : ∀ cs, Name cs → ∀ c ∈ cs, isAsciiWord c = true)
    (hsign : ∀ c, sign c = true → isWord c = false ∧ c ≠ '.') : Distinct (Access Name sign) where
  reads := by
    rintro x _ ⟨name, space, c, -, -, -, rfl⟩
    simp
  unique := by
    rintro x y _ _ rest rest' hx hy ⟨name, space, c, -, -, -, rfl⟩
      ⟨name', space', c', -, -, -, rfl⟩ h
    have hdot := isAsciiWord_of_isWord isWord_dot
    simp only [List.append_assoc] at h
    exact (append_inj_of_stop hx.isAsciiWord hy.isAsciiWord (by simp [hdot]) (by simp [hdot]) h).1
  inside := by
    rintro x y _ _ rest rest' inner hx hy ⟨name, space, c, hn, hspace, hc, rfl⟩
      ⟨name', space', c', -, -, -, rfl⟩ h hinner hlength hedge
    have hname := hname name hn
    have hafter := eq_of_word_starts hx.isWord (by simpa using isWord_dot)
      (fun d hd ↦ isWord_of_isAsciiWord (hname d hd)) (blanks_sign_no_word hspace (hsign c hc).1)
      (by simpa using h) hinner hlength hedge (by
        obtain ⟨d, w, rfl, hd, -⟩ := hy
        simp [isWord_of_isAsciiWord (isAsciiWord_of_isAsciiUpper hd)])
    -- behind the name of the first use would stand the full stop of the second
    simp only [List.append_assoc, List.singleton_append] at hafter
    obtain ⟨-, hbehind⟩ := append_inj_of_stop hy.isAsciiWord hname
      (by simp [isAsciiWord_of_isWord isWord_dot]) (stops_word hspace (hsign c hc).1 rest) hafter
    obtain ⟨d, hd, hkind⟩ := exists_head?_blanks hspace c rest
    rw [← hbehind, List.cons_append, List.head?_cons, Option.some.injEq] at hd
    rcases hkind with hblank | hdc
    · exact absurd (hd ▸ hblank) (by decide)
    · exact (hsign c hc).2 (hdc.symm.trans hd.symm)

theorem distinct_call : Distinct (Access MemberText (· == '(')) := by
  refine distinct_access (fun cs hcs ↦ NameText.forall hcs ?_ fun _ hc ↦ hc) ?_
  · intro c hc
    simp only [isAsciiWord, Bool.or_eq_true] at hc ⊢
    tauto
  · intro c hc
    rw [eq_of_beq hc]
    exact ⟨isWord_paren, by decide⟩

theorem distinct_constant : Distinct (Access ConstantText fun c ↦ c == '=' || c == '(') := by
  refine distinct_access (fun cs hcs ↦ NameText.forall hcs ?_ ?_) ?_
  · intro c hc
    simp only [isAsciiWord, Bool.or_eq_true] at hc ⊢
    tauto
  · intro c hc
    simp only [isAsciiWord, Bool.or_eq_true] at hc ⊢
    tauto
  · intro c hc
    rcases Bool.or_eq_true_iff.mp hc with hc | hc
    · rw [eq_of_beq hc]
      exact ⟨by decide +kernel, by decide⟩
    · rw [eq_of_beq hc]
      exact ⟨isWord_paren, by decide⟩

end ModuleScript.Analysis
