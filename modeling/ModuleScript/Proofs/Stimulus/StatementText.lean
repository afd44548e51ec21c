import ModuleScript.Proofs.Pattern.Reading
import ModuleScript.Proofs.Text.Padding
import ModuleScript.Stimulus.Line

/-!
# The text of a statement on a line

A statement has its line to itself when only blanks stand before it and only blanks and a
semicolon after it. Blanks around the line make no difference, as long as the statement itself
neither starts nor ends with a blank.
-/

namespace ModuleScript.Stimulus

open Pattern Pattern.Node Text

/-- What may follow a statement: blanks, with a semicolon among them or not. -/
def LineEnd (t : List Char) : Prop :=
  ∃ w w', Blanks w ∧ Blanks w' ∧ (t = w ++ w' ∨ t = w ++ ';' :: w')

theorem lineEnd_nil : LineEnd [] := ⟨[], [], blanks_nil, blanks_nil, .inl rfl⟩

theorem lineEnd_semicolon : LineEnd [';'] := ⟨[], [], blanks_nil, blanks_nil, .inr rfl⟩

/-- Further blanks may follow. -/
theorem LineEnd.append {t w : List Char} (ht : LineEnd t) (hw : Blanks w) : LineEnd (t ++ w) := by
  obtain ⟨u, u', hu, hu', rfl | rfl⟩ := ht
  · exact ⟨u, u' ++ w, hu, blanks_append.mpr ⟨hu', hw⟩, .inl (by simp)⟩
  · exact ⟨u, u' ++ w, hu, blanks_append.mpr ⟨hu', hw⟩, .inr (by simp)⟩

/-- The end of a line may stop earlier. -/
theorem LineEnd.of_append {t w : List Char} (h : LineEnd (t ++ w)) : LineEnd t := by
  obtain ⟨u, u', hu, hu', heq | heq⟩ := h
  · have ht : Blanks t := (blanks_append.mp (heq ▸ blanks_append.mpr ⟨hu, hu'⟩)).1
    exact ⟨t, [], ht, blanks_nil, .inl (by simp)⟩
  · rcases List.append_eq_append_iff.mp heq with ⟨v, rfl, -⟩ | ⟨v, rfl, hv⟩
    · exact ⟨t, [], (blanks_append.mp hu).1, blanks_nil, .inl (by simp)⟩
    · cases v with
      | nil => exact ⟨u, [], hu, blanks_nil, .inl rfl⟩
      | cons c v =>
        rw [List.cons_append, List.cons.injEq] at hv
        obtain ⟨rfl, rfl⟩ := hv
        exact ⟨u, v, hu, (blanks_append.mp hu').1, .inr rfl⟩

/-- At the end of a line stand blanks and semicolons. -/
theorem LineEnd.isBlank_or {t : List Char} (h : LineEnd t) {c : Char} (hc : c ∈ t) :
    isBlank c = true ∨ c = ';' := by
  obtain ⟨u, u', hu, hu', rfl | rfl⟩ := h
  · rcases List.mem_append.mp hc with hc | hc
    · exact .inl (hu c hc)
    · exact .inl (hu' c hc)
  · rcases List.mem_append.mp hc with hc | hc
    · exact .inl (hu c hc)
    · rcases List.mem_cons.mp hc with rfl | hc
      · exact .inr rfl
      · exact .inl (hu' c hc)

/-- A line with nothing but a statement of a certain text on it. -/
def OnLine (core : List Char → Prop) (line : List Char) : Prop :=
  ∃ w x t, line = w ++ (x ++ t) ∧ Blanks w ∧ core x ∧ LineEnd t

/-- Texts that neither start nor end with a blank. -/
structure Tight (core : List Char → Prop) : Prop where
  first : ∀ x, core x → ∃ c y, x = c :: y ∧ isBlank c = false
  last : ∀ x, core x → ∃ y c, x = y ++ [c] ∧ isBlank c = false

/-- Blanks around the line make no difference. -/
theorem OnLine.padded {core : List Char → Prop} {inner whole : List Char}
    (h : OnLine core inner) (hpad : Padded inner whole) : OnLine core whole := by
  obtain ⟨w, x, t, rfl, hw, hx, ht⟩ := h
  obtain ⟨v, u, hv, hu, rfl⟩ := hpad
  exact ⟨v ++ w, x, t ++ u, by simp, blanks_append.mpr ⟨hv, hw⟩, hx, ht.append hu⟩

/-- A statement that starts with no blank lies behind the blanks in front of the line. -/
private theorem OnLine.of_append_left {core : List Char → Prop} (hcore : Tight core)
    {v line : List Char} (hv : Blanks v) (h : OnLine core (v ++ line)) : OnLine core line := by
  obtain ⟨w, x, t, heq, hw, hx, ht⟩ := h
  obtain ⟨c, y, rfl, hc⟩ := hcore.first x hx
  rcases List.append_eq_append_iff.mp heq with ⟨w', rfl, hline⟩ | ⟨v', rfl, hrest⟩
  · exact ⟨w', c :: y, t, hline, (blanks_append.mp hw).2, hx, ht⟩
  · cases v' with
    | nil => exact ⟨[], c :: y, t, by simpa using hrest.symm, blanks_nil, hx, ht⟩
    | cons d v' =>
      rw [List.cons_append, List.cons_append, List.cons.injEq] at hrest
      have hd : isBlank d = true := hv d (by simp)
      rw [← hrest.1, hc] at hd
      exact absurd hd Bool.false_ne_true

/-- A statement that ends with no blank lies before the blanks behind the line. -/
private theorem OnLine.of_append_right {core : List Char → Prop} (hcore : Tight core)
    {u line : List Char} (hu : Blanks u) (h : OnLine core (line ++ u)) : OnLine core line := by
  obtain ⟨w, x, t, heq, hw, hx, ht⟩ := h
  obtain ⟨y, c, rfl, hc⟩ := hcore.last x hx
  rw [← List.append_assoc] at heq
  rcases List.append_eq_append_iff.mp heq with ⟨u', hstart, hend⟩ | ⟨t', hline, rfl⟩
  · rcases List.eq_nil_or_concat u' with rfl | ⟨u'', d, rfl⟩
    · exact ⟨w, y ++ [c], [], by simpa using hstart.symm, hw, hx, lineEnd_nil⟩
    · have hd : isBlank d = true := hu d (by simp [hend])
      have hlast : c = d := by simpa using congrArg List.getLast? hstart
      rw [← hlast, hc] at hd
      exact absurd hd Bool.false_ne_true
  · exact ⟨w, y ++ [c], t', by rw [hline, List.append_assoc], hw, hx, ht.of_append⟩

/-- Blanks around the line make no difference. -/
theorem onLine_iff_of_padded {core : List Char → Prop} (hcore : Tight core)
    {inner whole : List Char} (hpad : Padded inner whole) :
    OnLine core whole ↔ OnLine core inner := by
  refine ⟨fun h ↦ ?_, fun h ↦ h.padded hpad⟩
  obtain ⟨v, u, hv, hu, rfl⟩ := hpad
  exact OnLine.of_append_right hcore hu (OnLine.of_append_left hcore hv h)

/-- Either quotation mark. -/
def isQuote (c : Char) : Bool := c == '"' || c == '\''

/-- The characters of a specifier: not none, and no quotation mark among them. -/
def SpecifierText (cs : List Char) : Prop := cs ≠ [] ∧ ∀ c ∈ cs, isQuote c = false

instance (cs : List Char) : Decidable (SpecifierText cs) :=
  have : Decidable (∀ c ∈ cs, isQuote c = false) := List.decidableBAll _ cs
  inferInstanceAs (Decidable (_ ∧ _))

/-- No quotation mark is a blank. -/
theorem isBlank_of_isQuote {c : Char} (h : isQuote c = true) : isBlank c = false := by
  rw [isQuote, Bool.or_eq_true, beq_iff_eq, beq_iff_eq] at h
  rcases h with rfl | rfl <;> decide

/-- No blank is a quotation mark. -/
theorem isQuote_of_isBlank {c : Char} (h : isBlank c = true) : isQuote c = false := by
  rw [Bool.eq_false_iff]
  intro hquote
  rw [isBlank_of_isQuote hquote] at h
  exact Bool.false_ne_true h

/-- At the end of a line stands no quotation mark. -/
theorem LineEnd.isQuote_eq_false {t : List Char} (h : LineEnd t) : ∀ c ∈ t, isQuote c = false := by
  intro c hc
  rcases h.isBlank_or hc with hblank | rfl
  · exact isQuote_of_isBlank hblank
  · decide

/-- What stands before and behind the last quotation mark of a text is determined. -/
theorem lastQuote_inj {u v x y : List Char} {q r : Char} (hq : isQuote q = true)
    (hr : isQuote r = true) (hx : ∀ c ∈ x, isQuote c = false) (hy : ∀ c ∈ y, isQuote c = false)
    (h : u ++ q :: x = v ++ r :: y) : u = v ∧ x = y := by
  have hmarks : (u ++ [q]) ++ x = (v ++ [r]) ++ y := by simpa using h
  obtain ⟨hstart, hend⟩ := append_inj_of_stop_left (p := (!isQuote ·)) (by simpa using hx)
    (by simpa using hy) (by simp [hq]) (by simp [hr]) hmarks
  exact ⟨(List.append_inj' hstart rfl).1, hend⟩

/-! ### Blanks, ends of lines and quoted parts in patterns -/

variable {s s' : State}

theorem contains_blank (c : Char) :
    (CharSet.ofClass .blank).contains c = isBlank c := by
  simp [CharSet.contains, CharSet.ofClass, CharItem.contains, CharClass.contains]

theorem contains_noneOf (cs : List Char) (c : Char) :
    (CharSet.noneOf cs).contains c = true ↔ c ∉ cs := by
  have h : (CharSet.noneOf cs).contains c = true ↔ ∀ x ∈ cs, ¬ c = x := by
    simp [CharSet.contains, CharSet.noneOf, CharItem.contains]
  rw [h]
  exact ⟨fun h hc ↦ h c hc rfl, fun h x hx hcx ↦ h (hcx ▸ hx)⟩

/-- Blanks are read as far as the reader wishes. -/
theorem mem_ends_blanks : s' ∈ blanks.ends s ↔
    ∃ w rest, s.rest = w ++ rest ∧ Blanks w ∧ s' = s.after w rest [] := by
  simp only [blanks, mem_ends_star, contains_blank, Blanks]

/-- At least one blank is read. -/
theorem mem_ends_someBlanks : s' ∈ someBlanks.ends s ↔
    ∃ w rest, s.rest = w ++ rest ∧ w ≠ [] ∧ Blanks w ∧ s' = s.after w rest [] := by
  simp only [someBlanks, mem_ends_plus, contains_blank, Blanks]

/-- The end of a line is read up to the end of the text. -/
theorem mem_ends_lineEnd : (s' ∈ (concat lineEnd).ends s ∧ s'.rest = []) ↔
    LineEnd s.rest ∧ s' = s.after s.rest [] [] := by
  simp only [lineEnd, mem_ends_concat_cons, mem_ends_concat_nil, mem_ends_opt, mem_ends_char,
    mem_ends_blanks, contains_single]
  constructor
  · rintro ⟨⟨_, ⟨w, r, hs, hw, rfl⟩, _, hsemi, _, ⟨w', r', hr, hw', rfl⟩, rfl⟩, hnil⟩
    rw [State.rest_after] at hnil
    subst hnil
    rcases hsemi with ⟨c, r'', hr', rfl, rfl⟩ | rfl
    · simp only [State.rest_after, List.append_nil] at hr hr'
      subst hr hr'
      exact ⟨⟨w, r'', hw, hw', .inr hs⟩, by simp [hs]⟩
    · simp only [State.rest_after, List.append_nil] at hr
      subst hr
      exact ⟨⟨w, r, hw, hw', .inl hs⟩, by simp [hs]⟩
  · rintro ⟨⟨w, w', hw, hw', hs | hs⟩, rfl⟩
    · exact ⟨⟨_, ⟨w, w', hs, hw, rfl⟩, _, .inr rfl, _, ⟨w', [], by simp, hw', rfl⟩, by simp [hs]⟩,
        rfl⟩
    · exact ⟨⟨_, ⟨w, ';' :: w', hs, hw, rfl⟩, _, .inl ⟨';', w', rfl, rfl, rfl⟩, _,
        ⟨w', [], by simp, hw', rfl⟩, by simp [hs]⟩, rfl⟩


theorem mem_ends_quoteMark : s' ∈ Analysis.quoteMark.ends s ↔
    ∃ c rest, s.rest = c :: rest ∧ isQuote c = true ∧ s' = s.after [c] rest [] := by
  simp [Analysis.quoteMark, oneOf, mem_ends_char, CharSet.contains, CharItem.contains, isQuote]

theorem mem_ends_specifier : s' ∈ Analysis.specifier.ends s ↔
    ∃ w rest, s.rest = w ++ rest ∧ SpecifierText w ∧ s' = s.after w rest [] := by
  simp [Analysis.specifier, mem_ends_plus, contains_noneOf, SpecifierText, isQuote, and_assoc]

/-- A quoted specifier is read with its marks and kept without them. -/
theorem mem_ends_quotedSpecifier (index : Nat) : s' ∈ (Analysis.quotedSpecifier index).ends s ↔
    ∃ q source q' rest, s.rest = q :: (source ++ q' :: rest) ∧ isQuote q = true ∧
      SpecifierText source ∧ isQuote q' = true ∧
      s' = s.after (q :: (source ++ [q'])) rest
        [(index, ⟨source ++ q' :: rest, source.length⟩)] := by
  simp only [Analysis.quotedSpecifier, mem_ends_concat_cons, mem_ends_concat_nil,
    mem_ends_quoteMark, mem_ends_group, mem_ends_specifier]
  constructor
  · rintro ⟨_, ⟨q, r, hs, hq, rfl⟩, _, ⟨_, ⟨source, r', hr, hsource, rfl⟩, rfl⟩, _,
      ⟨q', rest, hr', hq', rfl⟩, rfl⟩
    rw [State.rest_after] at hr
    rw [State.capture_after, State.rest_after] at hr'
    subst hr hr'
    refine ⟨q, source, q', rest, hs, hq, hsource, hq', ?_⟩
    rw [State.capture_after]
    simp
  · rintro ⟨q, source, q', rest, hs, hq, hsource, hq', rfl⟩
    refine ⟨_, ⟨q, _, hs, hq, rfl⟩, _, ⟨_, ⟨source, q' :: rest, rfl, hsource, rfl⟩, rfl⟩, _,
      ⟨q', rest, rfl, hq', rfl⟩, ?_⟩
    rw [State.capture_after]
    simp

/-! ### Forms of whole lines -/

/-- A form fits a line exactly if it can be read to the end of the line. -/
theorem isSome_matchLine?_iff (form : Node) (line : String) :
    (matchLine? form line).isSome = true ↔
      ∃ s ∈ form.ends (.start line.toList), s.rest = [] := by
  rw [matchLine?, matchWhole?_eq, Option.isSome_map, List.find?_isSome]
  simp only [List.isEmpty_iff]

/-- It stops there. -/
theorem mem_ends_of_matchLine? {form : Node} {line : String} {m : Pattern.Match}
    (h : matchLine? form line = some m) :
    m.stop ∈ form.ends (.start line.toList) ∧ m.stop.rest = [] := by
  rw [matchLine?, matchWhole?_eq] at h
  obtain ⟨s, hs, rfl⟩ := Option.map_eq_some_iff.mp h
  exact ⟨List.mem_of_find?_eq_some hs, List.isEmpty_iff.mp (List.find?_some hs :)⟩

end ModuleScript.Stimulus
