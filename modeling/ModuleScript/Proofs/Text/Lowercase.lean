import ModuleScript.Text.Lowercase

/-!
# What is new in lower case

A mark below the digits is the lower-case form of itself only, and so is a line break. So such marks
stand in a text in lower case only where they stood before, and a text that becomes nothing but such
a mark was that before. An ASCII text becomes lower case character by character, and its capitals
come back in upper case.
-/

namespace ModuleScript.Text

/-- A mark below the digits, or one of the line breaks beyond ASCII. -/
def Caseless (c : Char) : Prop :=
  c.toNat < 48 ∨ c.toNat = 0x85 ∨ c.toNat = 0x2028 ∨ c.toNat = 0x2029

instance (c : Char) : Decidable (Caseless c) := inferInstanceAs (Decidable (_ ∨ _ ∨ _ ∨ _))

/-- A run of capitals moves to characters from the digits on, on one side of the surrogates and of
each line break. -/
private theorem target_of_mem_caseRuns : ∀ r ∈ caseRuns,
    (48 ≤ r.first + r.offset ∧ r.last + r.offset < 0x110000 ∧
      (r.last + r.offset < 0xd800 ∨ 0xdfff < r.first + r.offset)) ∧
    (r.last + r.offset < 0x85 ∨ 0x85 < r.first + r.offset) ∧
    (r.last + r.offset < 0x2028 ∨ 0x2029 < r.first + r.offset) := by
  decide +kernel

private theorem toNat_ofNat {n : Nat} (h : n.isValidChar) : (Char.ofNat n).toNat = n := by
  rw [Char.ofNat, dif_pos h]
  rfl

/-- Beyond ASCII, a character that is not its own lower-case form has none of the marks for it. -/
private theorem eq_or_not_caseless (c : Char) :
    Char.ofNat (lowerCodePoint c) = c ∨ ¬ Caseless (Char.ofNat (lowerCodePoint c)) := by
  rw [lowerCodePoint]
  split
  next r hr =>
    have htarget := target_of_mem_caseRuns r (List.mem_of_find?_eq_some hr)
    have hrun := List.find?_some hr
    simp only [Bool.and_eq_true, decide_eq_true_eq] at hrun
    have hvalid : (c.toNat + r.offset).toNat.isValidChar := by
      unfold Nat.isValidChar
      omega
    right
    unfold Caseless
    rw [toNat_ofNat hvalid]
    omega
  next => exact .inl (Char.ofNat_toNat c)

/-- Such a mark is the lower-case form of itself only. -/
theorem eq_of_lowerChar_eq {c d : Char} (hd : Caseless d) (h : lowerChar c = d) : c = d := by
  subst h
  rw [lowerChar] at hd ⊢
  split at hd
  next hascii =>
    rw [if_pos hascii]
    split at hd
    next hupper =>
      -- a capital becomes a small letter
      have hvalid : (c.toNat + 32).isValidChar := .inl (by omega)
      simp only [isAsciiUpper, Bool.and_eq_true, decide_eq_true_eq, Char.le_def,
        UInt32.le_iff_toNat_le] at hupper
      have hcapital : 65 ≤ c.toNat ∧ c.toNat ≤ 90 := hupper
      unfold Caseless at hd
      rw [toNat_ofNat hvalid] at hd
      omega
    next hupper => rw [if_neg hupper]
  next hascii =>
    rw [if_neg hascii]
    exact ((eq_or_not_caseless c).resolve_right fun hmark ↦ hmark hd).symm

/-- A character becomes one or more characters, of which no such mark is new. -/
private theorem exists_form (before cs : List Char) (c : Char) :
    ∃ form, lowerFrom before (c :: cs) = form ++ lowerFrom (c :: before) cs ∧ form ≠ [] ∧
      ∀ d ∈ form, Caseless d → c = d := by
  refine ⟨_, rfl, ?_, ?_⟩
  · split
    · simp
    · split
      · split <;> simp
      · simp
  · have hletter {a d : Char} (ha : ¬ Caseless a) (hmem : d ∈ [a]) (hd : Caseless d) : c = d :=
      absurd (List.mem_singleton.mp hmem ▸ hd) ha
    intro d hmem hd
    split at hmem
    · rcases List.mem_cons.mp hmem with rfl | hmem
      · exact absurd hd (by decide)
      · exact hletter (by decide) hmem hd
    · split at hmem
      · split at hmem
        · exact hletter (by decide) hmem hd
        · exact hletter (by decide) hmem hd
      · exact eq_of_lowerChar_eq hd (List.mem_singleton.mp hmem).symm

/-- Such a mark stands in a text in lower case only if it stood in the text. -/
theorem mem_of_mem_lowerFrom {d : Char} (hd : Caseless d) {before cs : List Char}
    (h : d ∈ lowerFrom before cs) : d ∈ cs := by
  induction cs generalizing before with
  | nil => exact absurd h List.not_mem_nil
  | cons c cs ih =>
    obtain ⟨form, hform, -, hmarks⟩ := exists_form before cs c
    rw [hform] at h
    rcases List.mem_append.mp h with h | h
    · exact hmarks d h hd ▸ List.mem_cons_self
    · exact List.mem_cons_of_mem c (ih h)

/-- A text with something else than such a mark still has something else in lower case. -/
theorem exists_ne_mem_lowerFrom {c d : Char} (hd : Caseless d) {before cs : List Char}
    (hc : c ∈ cs) (hne : c ≠ d) : ∃ a ∈ lowerFrom before cs, a ≠ d := by
  induction cs generalizing before with
  | nil => exact absurd hc List.not_mem_nil
  | cons b cs ih =>
    obtain ⟨form, hform, hsome, hmarks⟩ := exists_form before cs b
    rw [hform]
    rcases List.mem_cons.mp hc with rfl | hc
    · obtain ⟨a, rest, rfl⟩ := List.exists_cons_of_ne_nil hsome
      refine ⟨a, List.mem_append_left _ List.mem_cons_self, ?_⟩
      rintro rfl
      exact hne (hmarks a List.mem_cons_self hd)
    · obtain ⟨a, ha, had⟩ := ih hc
      exact ⟨a, List.mem_append_right form ha, had⟩

/-! ### Without regard to case -/

/-- The final sigma becomes the other small one. -/
def plainSigma (c : Char) : Char := if c = 'ς' then 'σ' else c

/-- A character in lower case, whatever stands around it. -/
def foldChar (c : Char) : List Char :=
  if c = '\u0130' then ['i', '\u0307'] else [plainSigma (lowerChar c)]

/-- A text in lower case, with one small sigma in all places. -/
def foldCase (cs : List Char) : List Char := cs.flatMap foldChar

theorem plainSigma_eq_iff {c d : Char} (hd : Caseless d) : plainSigma c = d ↔ c = d := by
  rw [plainSigma]
  split
  next hfinal =>
    have hsigma : d ≠ 'σ' ∧ d ≠ 'ς' := by
      constructor <;> (rintro rfl; exact absurd hd (by decide))
    exact ⟨fun h ↦ absurd h.symm hsigma.1, fun h ↦ absurd (h.symm.trans hfinal) hsigma.2⟩
  next => rfl

/-- Such a mark is folded from itself only. -/
theorem eq_of_mem_foldChar {c d : Char} (hd : Caseless d) (h : d ∈ foldChar c) : c = d := by
  rw [foldChar] at h
  split at h
  · rcases List.mem_cons.mp h with rfl | h
    · exact absurd hd (by decide)
    · rw [List.mem_singleton.mp h] at hd
      exact absurd hd (by decide)
  · exact eq_of_lowerChar_eq hd ((plainSigma_eq_iff hd).mp (List.mem_singleton.mp h).symm)

/-- But for the final sigma, a text becomes lower case character by character. -/
theorem map_plainSigma_lowerFrom (before cs : List Char) :
    (lowerFrom before cs).map plainSigma = foldCase cs := by
  induction cs generalizing before with
  | nil => rfl
  | cons c cs ih =>
    rw [foldCase, List.flatMap_cons, ← foldCase, lowerFrom, List.map_append, ih, foldChar]
    congr 1
    by_cases hdotted : c = '\u0130'
    · subst hdotted
      rfl
    · rw [if_neg (by simpa using hdotted), if_neg hdotted]
      by_cases hsigma : c = 'Σ'
      · subst hsigma
        have hplain : plainSigma (lowerChar 'Σ') = 'σ' := by decide +kernel
        rw [if_pos (beq_self_eq_true 'Σ'), hplain]
        split <;> rfl
      · rw [if_neg (by simpa using hsigma)]
        rfl

/-! ### ASCII -/

/-- Nothing but ASCII characters. -/
def Ascii (cs : List Char) : Prop := ∀ c ∈ cs, c.toNat < 128

instance (cs : List Char) : Decidable (Ascii cs) := List.decidableBAll _ cs

theorem toNat_lt_of_isAsciiWord {c : Char} (h : isAsciiWord c = true) : c.toNat < 128 := by
  simp only [isAsciiWord, isAsciiUpper, isAsciiLower, isAsciiDigit, Bool.or_eq_true,
    Bool.and_eq_true, decide_eq_true_eq, Char.le_def, UInt32.le_iff_toNat_le, beq_iff_eq] at h
  rcases h with ((⟨-, h⟩ | ⟨-, h⟩) | ⟨-, h⟩) | rfl
  · exact Nat.lt_of_le_of_lt h (by decide)
  · exact Nat.lt_of_le_of_lt h (by decide)
  · exact Nat.lt_of_le_of_lt h (by decide)
  · decide

private theorem capital_points : ∀ n < 128, isAsciiUpper (Char.ofNat n) = true →
    isAsciiLower (lowerChar (Char.ofNat n)) = true ∧
      (lowerChar (Char.ofNat n)).toUpper = Char.ofNat n := by
  decide +kernel

/-- A capital becomes a small letter, and that is the capital in upper case. -/
theorem lowerChar_of_isAsciiUpper {c : Char} (h : isAsciiUpper c = true) :
    isAsciiLower (lowerChar c) = true ∧ (lowerChar c).toUpper = c := by
  have hcapital := capital_points c.toNat (toNat_lt_of_isAsciiWord (by simp [isAsciiWord, h]))
  rw [Char.ofNat_toNat] at hcapital
  exact hcapital h

/-- Other ASCII characters stay as they are. -/
theorem lowerChar_of_ascii {c : Char} (hc : c.toNat < 128) (h : isAsciiUpper c = false) :
    lowerChar c = c := by
  rw [lowerChar, if_pos hc, h]
  rfl

/-- An ASCII text becomes lower case character by character. -/
theorem lowerFrom_of_ascii {before cs : List Char} (h : Ascii cs) :
    lowerFrom before cs = cs.map lowerChar := by
  induction cs generalizing before with
  | nil => rfl
  | cons c cs ih =>
    obtain ⟨hc, hcs⟩ := List.forall_mem_cons.mp h
    have hdotted : c ≠ '\u0130' := by
      rintro rfl
      exact absurd hc (by decide)
    have hsigma : c ≠ 'Σ' := by
      rintro rfl
      exact absurd hc (by decide)
    rw [lowerFrom, ih hcs, if_neg (by simpa using hdotted), if_neg (by simpa using hsigma)]
    rfl

end ModuleScript.Text
