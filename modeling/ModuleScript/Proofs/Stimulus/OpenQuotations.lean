import ModuleScript.Proofs.Stimulus.Mentions

/-!
# Quotations that are left open

A registration and an import hold one quotation each, which may go over the end of its line. So one
whose quotation is not closed on its line reads on up to the next quotation mark, and a scan that
takes it goes over what stands before that mark. Nothing else makes a scan go over a statement that
stands behind blanks. What is gone over and is a registration itself has a key that starts with a
comma, since the mark in front of the key closes the quotation.
-/

namespace ModuleScript.Stimulus

open Pattern Pattern.Node Text Script

/-! ### Texts with a quotation -/

/-- No quotation mark. -/
def Unquoted (cs : List Char) : Prop := ∀ c ∈ cs, isQuote c = false

instance (cs : List Char) : Decidable (Unquoted cs) := List.decidableBAll _ cs

theorem unquoted_append {cs ds : List Char} : Unquoted (cs ++ ds) ↔ Unquoted cs ∧ Unquoted ds :=
  List.forall_mem_append

theorem unquoted_of_blanks {w : List Char} (h : Blanks w) : Unquoted w :=
  fun c hc ↦ isQuote_of_isBlank (h c hc)

/-- What stands before and behind the first quotation mark of a text is determined. -/
theorem firstQuote_inj {u v x y : List Char} {q r : Char} (hu : Unquoted u) (hv : Unquoted v)
    (hq : isQuote q = true) (hr : isQuote r = true) (h : u ++ q :: x = v ++ r :: y) :
    u = v ∧ q = r ∧ x = y := by
  obtain ⟨huv, hrest⟩ := append_inj_of_stop (p := (!isQuote ·)) (fun c hc ↦ by simp [hu c hc])
    (fun c hc ↦ by simp [hv c hc]) (by simp [hq]) (by simp [hr]) h
  exact ⟨huv, List.cons.inj hrest⟩

/-- A text with a quotation: an opening, what is quoted, and a close. -/
def Quotation (opening quoted close cs : List Char) : Prop :=
  ∃ q q', cs = opening ++ q :: (quoted ++ q' :: close) ∧ isQuote q = true ∧ isQuote q' = true ∧
    Unquoted opening ∧ Unquoted quoted

variable {application : String} {name name' cs cs' b rest rest' : List Char}

/-- Where a text with a quotation starts within another one: their openings end together, or the
quotation of the other is open and is closed by the mark in front of what is quoted, or it is behind
the quotation of the other. -/
theorem Quotation.inside {o k v o' k' v' : List Char} (h : Quotation o k v cs)
    (h' : Quotation o' k' v' cs') (heq : b ++ (cs ++ rest) = cs' ++ rest')
    (hlt : b.length < cs'.length) :
    o' = b ++ o ∨
      (∃ q s q', b = o' ++ q :: s ∧ isQuote q = true ∧ Unquoted s ∧ isQuote q' = true ∧
        k ++ q' :: (v ++ rest) = v' ++ rest') ∨
      ∃ u w, v' = u ++ w ∧ w ≠ [] ∧ cs ++ rest = w ++ rest' := by
  obtain ⟨q, r, rfl, hq, hr, ho, hk⟩ := h
  obtain ⟨q', r', rfl, hq', hr', ho', hk'⟩ := h'
  simp only [List.append_assoc, List.cons_append] at heq
  rcases List.append_eq_append_iff.mp heq with ⟨s, rfl, hat⟩ | ⟨s, rfl, hat⟩
  · -- within the opening
    obtain ⟨rfl, -⟩ := firstQuote_inj ho (unquoted_append.mp ho').2 hq hq' hat
    exact .inl rfl
  rcases List.cons_eq_append_iff.mp hat with ⟨rfl, hmark⟩ | ⟨s, rfl, hquoted⟩
  · obtain ⟨rfl, -⟩ := firstQuote_inj ho (List.forall_mem_nil _) hq hq' hmark
    exact .inl (by simp)
  rcases List.append_eq_append_iff.mp hquoted with ⟨t, rfl, hclose⟩ | ⟨t, rfl, hinner⟩
  · -- behind what is quoted
    rcases List.cons_eq_append_iff.mp hclose with ⟨rfl, hmark⟩ | ⟨t, rfl, hbehind⟩
    · obtain ⟨rfl, -, hrest⟩ := firstQuote_inj ho (List.forall_mem_nil _) hq hr' hmark
      exact .inr (.inl ⟨q', k', r, by simp, hq', hk', hr, hrest⟩)
    · simp only [List.length_append, List.length_cons] at hlt
      rcases List.append_eq_append_iff.mp hbehind with ⟨w, rfl, -⟩ | ⟨w, rfl, hrest⟩
      · rw [List.length_append] at hlt
        omega
      · refine .inr (.inr ⟨t, w, rfl, ?_, by simpa using hrest⟩)
        rintro rfl
        simp at hlt
  · -- within what is quoted
    obtain ⟨rfl, -, hrest⟩ := firstQuote_inj ho (unquoted_append.mp hk').2 hq hr' hinner
    exact .inr (.inl ⟨q', s, r, rfl, hq', (unquoted_append.mp hk').1, hr, hrest⟩)

/-! ### Registrations -/

/-- A registration up to the quotation mark in front of its key. -/
def RegistrationOpening (application opening : List Char) : Prop :=
  ∃ subject w₁ w₂, opening = subject ++ '.' :: ("register".toList ++ (w₁ ++ '(' :: w₂)) ∧
    RegistrationSubject application subject ∧ Blanks w₁ ∧ Blanks w₂

/-- A key that starts with a comma, but for blanks: the first quotation mark, blanks and a comma. -/
def CommaKey (cs : List Char) : Prop :=
  ∃ o q w u, cs = o ++ q :: (w ++ ',' :: u) ∧ Unquoted o ∧ isQuote q = true ∧ Blanks w

/-- So it does with blanks in front and more behind. -/
theorem CommaKey.around {w : List Char} (h : CommaKey cs) (hw : Blanks w) (t : List Char) :
    CommaKey (w ++ (cs ++ t)) := by
  obtain ⟨o, q, v, u, rfl, ho, hq, hv⟩ := h
  exact ⟨w ++ o, q, v, u ++ t, by simp, unquoted_append.mpr ⟨unquoted_of_blanks hw, ho⟩, hq, hv⟩

/-- A controller is registered with the characters of a name, and maybe a line feed. -/
private theorem isPart_or_lineFeed_of_registrationSubject (happ : isIdentifier application = true)
    {subject : List Char} (h : RegistrationSubject application.toList subject) {c : Char}
    (hc : c ∈ subject) : isPart c = true ∨ c = '\n' := by
  rcases h with rfl | rfl
  · exact .inl (List.all_eq_true.mp (by decide +kernel : "Stimulus".toList.all isPart = true) c hc)
  · exact isPart_or_lineFeed_of_isIdentifier happ hc

/-- Only the last of these characters is a blank. -/
private theorem isBlank_eq_false_of_registrationSubject (happ : isIdentifier application = true)
    {s : List Char} {c : Char} (h : RegistrationSubject application.toList (b ++ c :: s))
    (hs : s ≠ []) : isBlank c = false := by
  have hmem : c ∈ b ++ c :: s := by simp
  rcases h with h | h
  · have hstimulus : "Stimulus".toList.all isPart = true := by decide +kernel
    exact isBlank_of_isPart (List.all_eq_true.mp hstimulus c (h ▸ hmem))
  · obtain ⟨w, t, hname, hw, rfl | rfl⟩ := (isIdentifier_iff application).mp happ
    · rw [List.append_nil] at hname
      exact isBlank_of_isPart (hw.isPart (hname ▸ h ▸ hmem))
    · obtain ⟨s, d, rfl⟩ := (List.eq_nil_or_concat' s).resolve_left hs
      have hends : (b ++ c :: s) ++ [d] = w ++ ['\n'] := by
        rw [← hname, ← h]
        simp
      rw [← (List.append_inj' hends rfl).1] at hw
      exact isBlank_of_isPart (hw.isPart (by simp))

/-- A registration is an opening, a key between quotation marks, and the controller. -/
theorem RegistrationText.exists_quotation (happ : isIdentifier application = true)
    (h : RegistrationText application.toList name cs) :
    ∃ o k v, RegistrationOpening application.toList o ∧ ControllerText name v ∧
      Quotation o k v cs := by
  obtain ⟨subject, key, _, rfl, hsubject, _, v, rfl,
    ⟨w₁, w₂, q, q', rfl, hw₁, hw₂, hq, hkey, hq'⟩, hv⟩ := h
  refine ⟨_, key, v, ⟨subject, w₁, w₂, rfl, hsubject, hw₁, hw₂⟩, hv, q, q', by simp, hq, hq', ?_,
    hkey.2⟩
  have hregister : Unquoted "register".toList := by decide
  have hargument : Unquoted ('(' :: w₂) :=
    List.forall_mem_cons.mpr ⟨by decide, unquoted_of_blanks hw₂⟩
  have hcall : Unquoted ('.' :: ("register".toList ++ (w₁ ++ '(' :: w₂))) := by
    refine List.forall_mem_cons.mpr ⟨by decide, unquoted_append.mpr ⟨hregister, ?_⟩⟩
    exact unquoted_append.mpr ⟨unquoted_of_blanks hw₁, hargument⟩
  exact unquoted_append.mpr ⟨fun c hc ↦
    isQuote_of_isPart (isPart_or_lineFeed_of_registrationSubject happ hsubject hc), hcall⟩

/-- The only full stop of an opening stands behind its subject. -/
private theorem RegistrationOpening.exists_stop (happ : isIdentifier application = true)
    {o : List Char} (h : RegistrationOpening application.toList o) :
    ∃ subject rest, o = subject ++ '.' :: rest ∧
      RegistrationSubject application.toList subject ∧ '.' ∉ subject ∧ '.' ∉ rest := by
  obtain ⟨subject, w₁, w₂, rfl, hsubject, hw₁, hw₂⟩ := h
  have hblank {w : List Char} (hw : Blanks w) : '.' ∉ w := fun hmem ↦
    absurd (hw _ hmem) (by decide)
  refine ⟨subject, _, rfl, hsubject, fun hmem ↦ ?_, by simp [hblank hw₁, hblank hw₂]⟩
  exact absurd (plain_of_registrationSubject happ hsubject _ hmem) (by decide)

/-- No opening ends with another one in front of which there is a blank. -/
private theorem RegistrationOpening.not_behind_blank (happ : isIdentifier application = true)
    {o : List Char} {c : Char} (hc : isBlank c = true)
    (h : RegistrationOpening application.toList o) :
    ¬ RegistrationOpening application.toList (b ++ c :: o) := by
  intro h'
  obtain ⟨subject, rest, rfl, hsubject, -, -⟩ := h.exists_stop happ
  obtain ⟨subject', rest', heq, hsubject', hstop, hstop'⟩ := h'.exists_stop happ
  have hsplit : subject' ++ '.' :: rest' = (b ++ c :: subject) ++ '.' :: rest := by
    rw [← heq]
    simp
  obtain ⟨rfl, -, -⟩ := (List.append_cons_inj_of_notMem hstop hstop').mp hsplit
  rw [isBlank_eq_false_of_registrationSubject happ hsubject'
    (registrationSubject_ne_nil happ hsubject)] at hc
  exact Bool.false_ne_true hc

/-- Behind its key a registration has a parenthesis, and a full stop nowhere. -/
private theorem ControllerText.exists_close (h : ControllerText name cs) :
    ∃ u, cs = u ++ [')'] ∧ '.' ∉ cs := by
  obtain ⟨w₁, w₂, w₃, rfl, hw₁, hw₂, hname, hw₃⟩ := h
  have hblank {w : List Char} (hw : Blanks w) : '.' ∉ w := fun hmem ↦
    absurd (hw _ hmem) (by decide)
  have hstop : '.' ∉ name := hname.notMem (by decide +kernel)
  exact ⟨w₁ ++ ',' :: (w₂ ++ (name ++ w₃)), by simp,
    by simp [hblank hw₁, hblank hw₂, hblank hw₃, hstop]⟩

/-- No registration starts behind the key of another one. -/
private theorem RegistrationText.not_in_close (happ : isIdentifier application = true)
    (h : RegistrationText application.toList name cs) {u w : List Char}
    (h' : ControllerText name' (u ++ w)) (hw : w ≠ []) : cs ++ rest ≠ w ++ rest' := by
  intro heq
  obtain ⟨subject, key, _, rfl, hsubject, hcall⟩ := h
  obtain ⟨r, rfl⟩ := hcall.exists_cons
  obtain ⟨v, hclose, hstop⟩ := h'.exists_close
  obtain ⟨w, c, rfl⟩ := (List.eq_nil_or_concat' w).resolve_left hw
  rw [← List.append_assoc] at hclose
  obtain rfl : c = ')' := by simpa using (List.append_inj' hclose rfl).2
  have hparen : ')' ∉ subject := fun hmem ↦
    (isPart_or_lineFeed_of_registrationSubject happ hsubject hmem).elim
      (absurd · (by decide +kernel)) (absurd · (by decide))
  -- the parenthesis stands before the full stop behind the subject
  have hsplit : subject ++ '.' :: (r ++ rest) = (w ++ [')']) ++ rest' := by simpa using heq
  rcases List.append_eq_append_iff.mp hsplit with ⟨a, ha, hrest⟩ | ⟨a, rfl, -⟩
  · rcases List.cons_eq_append_iff.mp hrest with ⟨rfl, -⟩ | ⟨a, rfl, -⟩
    · rw [List.append_nil] at ha
      exact hparen (ha ▸ by simp)
    · have hmem : '.' ∈ w ++ [')'] := ha ▸ by simp
      exact hstop (List.mem_append_right u hmem)
  · exact hparen (by simp)

/-- A text without quotation marks in front of one that goes on like blanks and a comma does so
itself. -/
private theorem exists_comma {k w x y : List Char} {q : Char} (hw : Blanks w)
    (hq : isQuote q = true) (h : k ++ q :: x = w ++ ',' :: y) : ∃ u, k = w ++ ',' :: u := by
  rcases List.append_eq_append_iff.mp h with ⟨a, rfl, hrest⟩ | ⟨a, rfl, hrest⟩
  · rcases List.cons_eq_append_iff.mp hrest with ⟨rfl, hcomma⟩ | ⟨a, rfl, -⟩
    · obtain ⟨rfl, -⟩ := List.cons.inj hcomma
      exact absurd hq (by decide)
    · have hblank := hw q (by simp)
      rw [isBlank_of_isQuote hq] at hblank
      exact absurd hblank Bool.false_ne_true
  · rcases List.cons_eq_append_iff.mp hrest with ⟨rfl, hcomma⟩ | ⟨u, rfl, -⟩
    · obtain ⟨rfl, -⟩ := List.cons.inj hcomma
      exact absurd hq (by decide)
    · exact ⟨u, rfl⟩

/-- A registration that starts behind a blank within another one is in its open quotation, and its
own key starts with a comma. -/
theorem RegistrationText.open_of_inside (happ : isIdentifier application = true) {c : Char}
    (h : RegistrationText application.toList name cs)
    (h' : RegistrationText application.toList name' cs') (hc : isBlank c = true)
    (heq : b ++ c :: (cs ++ rest) = cs' ++ rest') (hlt : (b ++ [c]).length < cs'.length) :
    (∃ o q s, b ++ [c] = o ++ q :: s ∧ RegistrationOpening application.toList o ∧
      isQuote q = true ∧ Unquoted s) ∧ CommaKey cs := by
  obtain ⟨o, k, v, hopening, -, hquotation⟩ := h.exists_quotation happ
  obtain ⟨o', k', v', hopening', hclose', hquotation'⟩ := h'.exists_quotation happ
  have hsplit : (b ++ [c]) ++ (cs ++ rest) = cs' ++ rest' := by simpa using heq
  rcases hquotation.inside hquotation' hsplit hlt with rfl |
    ⟨q, s, q', hs, hq, hquoted, hq', hrest⟩ | ⟨u, w, rfl, hw, hrest⟩
  · rw [List.append_assoc, List.singleton_append] at hopening'
    exact absurd hopening' (hopening.not_behind_blank happ hc)
  · refine ⟨⟨o', q, s, hs, hopening', hq, hquoted⟩, ?_⟩
    obtain ⟨w₁, w₂, w₃, rfl, hw₁, -⟩ := hclose'
    rw [List.append_assoc, List.cons_append] at hrest
    obtain ⟨u, rfl⟩ := exists_comma hw₁ hq' hrest
    obtain ⟨q₀, r, rfl, hq₀, -, ho, -⟩ := hquotation
    exact ⟨o, q₀, w₁, u ++ r :: v, by simp, ho, hq₀, hw₁⟩
  · exact absurd hrest (h.not_in_close happ hclose' hw)

/-! ### Default imports -/

/-- An import up to the quotation mark in front of its specifier. -/
def ImportOpening (opening : List Char) : Prop :=
  ∃ binding w₁ w₂ w₃, opening = "import".toList ++ (w₁ ++ (binding ++ (w₂ ++
      ("from".toList ++ w₃)))) ∧ IdentifierText binding ∧ (w₁ ≠ [] ∧ Blanks w₁) ∧
    (w₂ ≠ [] ∧ Blanks w₂) ∧ (w₃ ≠ [] ∧ Blanks w₃)

/-- An import is an opening and a specifier between quotation marks. -/
theorem DefaultImportText.exists_quotation (h : DefaultImportText name cs) :
    ∃ o k, ImportOpening o ∧ Quotation o k [] cs := by
  obtain ⟨hname, source, w₁, w₂, w₃, q, q', rfl, hw₁, hw₂, hw₃, hq, hsource, hq'⟩ := h
  refine ⟨_, source, ⟨name, w₁, w₂, w₃, rfl, hname, hw₁, hw₂, hw₃⟩, q, q', by simp, hq, hq', ?_,
    hsource.2⟩
  have himport : Unquoted "import".toList := by decide
  have hfrom : Unquoted "from".toList := by decide
  have hbinding : Unquoted name := fun c hc ↦ isQuote_of_isPart (.inl (hname.isPart hc))
  simp only [unquoted_append]
  exact ⟨himport, unquoted_of_blanks hw₁.2, hbinding, unquoted_of_blanks hw₂.2, hfrom,
    unquoted_of_blanks hw₃.2⟩

/-- No opening ends with another one. -/
private theorem ImportOpening.eq_nil {o : List Char} (h : ImportOpening o)
    (h' : ImportOpening (b ++ o)) : b = [] := by
  obtain ⟨x, w₁, w₂, w₃, rfl, hx, ⟨hne₁, hw₁⟩, ⟨-, hw₂⟩, ⟨-, hw₃⟩⟩ := h
  obtain ⟨y, v₁, v₂, v₃, heq, hy, ⟨hne₁', hv₁⟩, ⟨-, hv₂⟩, ⟨-, hv₃⟩⟩ := h'
  have hwords : "import".toList.all isPart = true ∧ "from".toList.all isPart = true := by
    decide +kernel
  have himport : ∀ c ∈ "import".toList, isBlank c = false := fun c hc ↦
    isBlank_of_isPart (List.all_eq_true.mp hwords.1 c hc)
  have hfrom : ∀ c ∈ "from".toList, isBlank c = false := fun c hc ↦
    isBlank_of_isPart (List.all_eq_true.mp hwords.2 c hc)
  have hname {z : List Char} (hz : IdentifierText z) : z ≠ [] ∧ ∀ c ∈ z, isBlank c = false := by
    refine ⟨?_, fun c hc ↦ isBlank_of_isPart (hz.isPart hc)⟩
    obtain ⟨c, w, rfl, -⟩ := hz
    simp
  have hgap {w : List Char} (hw : Blanks w) : ∀ c ∈ w, isPart c = false :=
    fun c hc ↦ isPart_of_isBlank (hw c hc)
  -- word by word, from the last one on
  simp only [← List.append_assoc] at heq
  obtain ⟨heq, -⟩ := append_inj_of_stop_left hw₃ hv₃ (all_getLast?_append (by simp) hfrom)
    (all_getLast?_append (by simp) hfrom) heq
  obtain ⟨heq, -⟩ := append_inj_of_stop_left hw₂ hv₂
    (all_getLast?_append (hname hx).1 (hname hx).2) (all_getLast?_append (hname hy).1 (hname hy).2)
    (List.append_cancel_right heq)
  obtain ⟨heq, -⟩ := append_inj_of_stop_left (fun c hc ↦ hx.isPart hc) (fun c hc ↦ hy.isPart hc)
    (all_getLast?_append hne₁ (hgap hw₁)) (all_getLast?_append hne₁' (hgap hv₁)) heq
  obtain ⟨heq, -⟩ := append_inj_of_stop_left hw₁ hv₁ (all_getLast?_append (by simp) himport)
    (all_getLast?_append (u := []) (by simp) himport) heq
  simpa using heq

/-- An import that starts within another one is in its open quotation. -/
theorem DefaultImportText.open_of_inside (h : DefaultImportText name cs)
    (h' : DefaultImportText name' cs') (hb : b ≠ []) (heq : b ++ (cs ++ rest) = cs' ++ rest')
    (hlt : b.length < cs'.length) :
    ∃ o q s, b = o ++ q :: s ∧ ImportOpening o ∧ isQuote q = true ∧ Unquoted s := by
  obtain ⟨o, k, hopening, hquotation⟩ := h.exists_quotation
  obtain ⟨o', k', hopening', hquotation'⟩ := h'.exists_quotation
  rcases hquotation.inside hquotation' heq hlt with rfl | ⟨q, s, q', hs, hq, hquoted, -⟩ |
    ⟨u, w, hnil, hw, -⟩
  · exact absurd (hopening.eq_nil hopening') hb
  · exact ⟨o', q, s, hs, hopening', hq, hquoted⟩
  · exact absurd (List.append_eq_nil_iff.mp hnil.symm).2 hw

end ModuleScript.Stimulus
