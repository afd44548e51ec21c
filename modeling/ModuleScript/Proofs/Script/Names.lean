import ModuleScript.Proofs.Pattern.Reading
import ModuleScript.Script.Statement

/-!
# What accepted names look like

Identifiers and names of controllers by their characters. A line feed may follow at the very end
of a name that is accepted, as the end condition of the patterns allows it.
-/

namespace ModuleScript

namespace Text

/-- The code points of a set. -/
def CharRanges.points (t : CharRanges) : List Nat :=
  t.ranges.flatMap fun (first, last) ↦ List.range' first (last + 1 - first)

/-- The members of a set are those with its code points. -/
theorem CharRanges.toNat_mem_points {t : CharRanges} {c : Char} (h : t.contains c = true) :
    c.toNat ∈ t.points := by
  rw [contains, List.any_eq_true] at h
  obtain ⟨⟨first, last⟩, hmem, hc⟩ := h
  simp only [Bool.and_eq_true, decide_eq_true_eq] at hc
  rw [points, List.mem_flatMap]
  refine ⟨(first, last), hmem, ?_⟩
  rw [List.mem_range'_1]
  omega

/-- What holds of all code points of a set holds of its members. -/
theorem CharRanges.forall_of_points {t : CharRanges} {p : Char → Prop}
    (h : ∀ n ∈ t.points, p (Char.ofNat n)) {c : Char} (hc : t.contains c = true) : p c := by
  have := h c.toNat (toNat_mem_points hc)
  rwa [Char.ofNat_toNat] at this

private theorem blank_points_no_word : ∀ n ∈ blankTable.points, isWord (Char.ofNat n) = false := by
  decide +kernel

/-- A blank is no word character. -/
theorem isWord_of_isBlank {c : Char} (h : isBlank c = true) : isWord c = false :=
  CharRanges.forall_of_points (p := fun c ↦ isWord c = false) blank_points_no_word h

/-- ASCII letters, digits and the low line are word characters. -/
theorem isWord_of_isAsciiWord {c : Char} (h : isAsciiWord c = true) : isWord c = true := by
  rw [isWord, h, Bool.true_or]

end Text

namespace Script

open Pattern Pattern.Node

/-- What an identifier goes on with: word characters and dollar signs. -/
def isPart (c : Char) : Bool := Text.isWord c || c == '$'

/-- What an identifier starts with: an ASCII letter, the low line or the dollar sign. -/
def isStart (c : Char) : Bool := Text.isAsciiUpper c || Text.isAsciiLower c || c == '_' || c == '$'

/-- The characters of an identifier. -/
def IdentifierText (cs : List Char) : Prop :=
  ∃ c w, cs = c :: w ∧ isStart c = true ∧ ∀ d ∈ w, isPart d = true

/-- The end of a name: nothing, or a line feed. -/
def NameEnd (cs : List Char) : Prop := cs = [] ∨ cs = ['\n']

theorem isPart_of_isStart {c : Char} (h : isStart c = true) : isPart c = true := by
  simp only [isStart, isPart, Text.isWord, Text.isAsciiWord, Bool.or_eq_true] at h ⊢
  rcases h with ((h | h) | h) | h <;> simp [h]

/-- All characters of an identifier can stand within one. -/
theorem IdentifierText.isPart {cs : List Char} (h : IdentifierText cs) {c : Char} (hc : c ∈ cs) :
    isPart c = true := by
  obtain ⟨d, w, rfl, hd, hw⟩ := h
  rcases List.mem_cons.mp hc with rfl | hc
  · exact isPart_of_isStart hd
  · exact hw c hc

/-- Other characters stand in no identifier. -/
theorem IdentifierText.notMem {cs : List Char} (h : IdentifierText cs) {c : Char}
    (hc : Script.isPart c = false) : c ∉ cs := by
  intro hmem
  rw [h.isPart hmem] at hc
  exact Bool.false_ne_true hc.symm

/-- No blank stands within an identifier. -/
theorem isPart_of_isBlank {c : Char} (h : Text.isBlank c = true) : isPart c = false := by
  have hdollar : c ≠ '$' := by
    rintro rfl
    exact absurd h (by decide)
  rw [isPart, Text.isWord_of_isBlank h, Bool.false_or, beq_eq_false_iff_ne]
  exact hdollar

theorem isBlank_of_isPart {c : Char} (h : isPart c = true) : Text.isBlank c = false := by
  rw [Bool.eq_false_iff]
  intro hblank
  rw [isPart_of_isBlank hblank] at h
  exact Bool.false_ne_true h

/-- An identifier starts with no blank. -/
theorem isBlank_of_isStart {c : Char} (h : isStart c = true) : Text.isBlank c = false :=
  isBlank_of_isPart (isPart_of_isStart h)

theorem IdentifierText.head?_append {cs : List Char} (h : IdentifierText cs) (rest : List Char) :
    (cs ++ rest).head?.all (!Text.isBlank ·) = true := by
  obtain ⟨c, w, rfl, hc, -⟩ := h
  simp [isBlank_of_isStart hc]

private theorem contains_identifierStart (c : Char) :
    CharSet.contains { items := identifierStart } c = isStart c := by
  simp [CharSet.contains, identifierStart, capital, CharItem.contains, isStart, Text.isAsciiUpper,
    Text.isAsciiLower, Bool.or_assoc]

private theorem contains_identifierPart (c : Char) :
    CharSet.contains { items := [.oneOf .word, .single '$'] } c = isPart c := by
  simp [CharSet.contains, CharItem.contains, CharClass.contains, isPart]

theorem contains_plainWord (c : Char) :
    CharSet.contains { items := plainWord } c = Text.isAsciiWord c := by
  simp only [CharSet.contains, plainWord, capital, CharItem.contains, Text.isAsciiWord,
    Text.isAsciiUpper, Text.isAsciiLower, Text.isAsciiDigit, List.any_cons, List.any_nil,
    Bool.or_false, Bool.bne_false]
  ac_rfl

theorem contains_capital (c : Char) :
    CharSet.contains { items := [capital] } c = Text.isAsciiUpper c := by
  simp [CharSet.contains, capital, CharItem.contains, Text.isAsciiUpper]

variable {s s' : State}

/-- An identifier is read as far as the reader wishes. -/
theorem mem_ends_identifier : s' ∈ identifier.ends s ↔
    ∃ w rest, s.rest = w ++ rest ∧ IdentifierText w ∧ s' = s.after w rest [] := by
  rw [identifier, mem_ends_seq]
  simp only [oneOf, mem_ends_char, mem_ends_star, contains_identifierStart,
    contains_identifierPart]
  constructor
  · rintro ⟨t, ⟨c, rest, hs, hc, rfl⟩, w, rest', hrest, hw, rfl⟩
    rw [State.rest_after] at hrest
    exact ⟨c :: w, rest', by rw [hs, hrest, List.cons_append], ⟨c, w, rfl, hc, hw⟩, by simp⟩
  · rintro ⟨_, rest, hs, ⟨c, w, rfl, hc, hw⟩, rfl⟩
    exact ⟨_, ⟨c, w ++ rest, hs, hc, rfl⟩, w, rest, rfl, hw, by simp⟩

theorem mem_ends_anchor (a : Anchor) : s' ∈ (anchor a).ends s ↔ s' = s ∧ a.holds s = true := by
  cases h : a.holds s <;> simp [ends, h]

/-- A pattern matches from the start exactly if it ends somewhere. -/
theorem isSome_matchStart?_iff (n : Node) (text : List Char) :
    (n.matchStart? text).isSome = true ↔ ∃ s', s' ∈ n.ends (.start text) := by
  rw [matchStart?, matchAt?_eq]
  cases n.ends (.start text) with
  | nil => simp
  | cons s' rest => exact iff_of_true rfl ⟨s', List.mem_cons_self⟩

theorem holds_textEnd : Anchor.textEnd.holds s = true ↔ NameEnd s.rest := by
  simp [Anchor.holds, NameEnd]

/-- Accepted identifiers: a start, then parts, then the end of a name. -/
theorem isIdentifier_iff (name : String) : isIdentifier name = true ↔
    ∃ w t, name.toList = w ++ t ∧ IdentifierText w ∧ NameEnd t := by
  rw [isIdentifier, isSome_matchStart?_iff, identifierName]
  simp only [mem_ends_concat_cons, mem_ends_concat_nil, mem_ends_anchor, mem_ends_identifier,
    holds_textEnd]
  constructor
  · rintro ⟨_, _, ⟨rfl, -⟩, _, ⟨w, t, hname, hw, rfl⟩, _, ⟨rfl, ht⟩, rfl⟩
    exact ⟨w, t, hname, hw, ht⟩
  · rintro ⟨w, t, hname, hw, ht⟩
    exact ⟨_, _, ⟨rfl, rfl⟩, _, ⟨w, t, hname, hw, rfl⟩, _, ⟨rfl, ht⟩, rfl⟩

/-- A name that reads as a binding is an identifier. -/
theorem isIdentifier_of_isBindingName {name : String} (h : isBindingName name = true) :
    isIdentifier name = true := by
  rw [isBindingName, Bool.and_eq_true] at h
  exact h.1

/-- The characters of an accepted identifier. -/
theorem isPart_or_lineFeed_of_isIdentifier {name : String} (h : isIdentifier name = true)
    {c : Char} (hc : c ∈ name.toList) : isPart c = true ∨ c = '\n' := by
  obtain ⟨w, t, hname, hw, ht⟩ := (isIdentifier_iff name).mp h
  rw [hname, List.mem_append] at hc
  rcases hc with hc | hc
  · exact .inl (hw.isPart hc)
  · rcases ht with rfl | rfl
    · exact absurd hc List.not_mem_nil
    · exact .inr (List.mem_singleton.mp hc)

/-- Accepted names of controllers: a capital, ASCII word characters, the word for a controller
and the end of a name. -/
theorem isControllerName_iff (name : String) : isControllerName name = true ↔
    ∃ c w t, name.toList = c :: (w ++ ("Controller".toList ++ t)) ∧ Text.isAsciiUpper c = true ∧
      (∀ d ∈ w, Text.isAsciiWord d = true) ∧ NameEnd t := by
  rw [isControllerName, isSome_matchStart?_iff, controllerName]
  simp only [mem_ends_concat_append, mem_ends_concat_cons, mem_ends_concat_nil, mem_ends_anchor,
    mem_ends_letters, oneOf, mem_ends_char, mem_ends_star, contains_capital, contains_plainWord,
    holds_textEnd]
  constructor
  · rintro ⟨_, _, ⟨_, ⟨_, ⟨rfl, -⟩, _, ⟨c, rest, hname, hc, rfl⟩, _, ⟨w, rest', hrest, hw, rfl⟩,
      rfl⟩, t, hrest', rfl⟩, _, ⟨rfl, ht⟩, rfl⟩
    rw [State.rest_after] at hrest hrest'
    exact ⟨c, w, t, by rw [← hrest', ← hrest]; exact hname, hc, hw, ht⟩
  · rintro ⟨c, w, t, hname, hc, hw, ht⟩
    exact ⟨_, _, ⟨_, ⟨_, ⟨rfl, rfl⟩, _, ⟨c, _, hname, hc, rfl⟩, _, ⟨w, _, rfl, hw, rfl⟩, rfl⟩,
      t, rfl, rfl⟩, _, ⟨rfl, ht⟩, rfl⟩

/-- The name of a controller is an identifier. -/
theorem isIdentifier_of_isControllerName {name : String} (h : isControllerName name = true) :
    isIdentifier name = true := by
  obtain ⟨c, w, t, hname, hc, hw, ht⟩ := (isControllerName_iff name).mp h
  refine (isIdentifier_iff name).mpr ⟨c :: (w ++ "Controller".toList), t, ?_, ?_, ht⟩
  · rw [hname, List.cons_append, List.append_assoc]
  · refine ⟨c, _, rfl, by simp [isStart, hc], fun d hd ↦ ?_⟩
    have hword : Text.isAsciiWord d = true := by
      rcases List.mem_append.mp hd with hd | hd
      · exact hw d hd
      · exact List.all_eq_true.mp (by decide : "Controller".toList.all Text.isAsciiWord = true) d hd
    rw [isPart, Text.isWord_of_isAsciiWord hword, Bool.true_or]

/-- The name of a controller reads as a binding. -/
theorem isBindingName_of_isControllerName {name : String} (h : isControllerName name = true) :
    isBindingName name = true := by
  obtain ⟨c, w, t, hname, hc, -⟩ := (isControllerName_iff name).mp h
  rw [isBindingName, isIdentifier_of_isControllerName h, hname]
  simp [hc]

/-- A controller is imported under its own name. -/
theorem importStatement_of_isControllerName {name : String} (h : isControllerName name = true) :
    importStatement name = s!"import {name} from \"{name}\";" := by
  rw [importStatement, if_pos (isBindingName_of_isControllerName h)]

end Script

end ModuleScript
