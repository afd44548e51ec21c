import ModuleScript.Proofs.Stimulus.ImportLine
import ModuleScript.Proofs.Stimulus.RegistrationText
import ModuleScript.Proofs.Stimulus.SideEffectLine
import ModuleScript.Stimulus.Filter

/-!
# Lines that start and register

A line that starts the application or registers a controller is no import, so that none of the
earlier questions about it hides it. Blanks around a line change none of the answers.
-/

namespace ModuleScript.Stimulus

open Pattern Pattern.Node Text Script

/-! ### Lines that begin with an import -/

/-- A line whose first word is the one for an import. -/
def BeginsImport (line : List Char) : Prop :=
  ∃ w c rest, line = w ++ ("import".toList ++ c :: rest) ∧ Blanks w ∧ isBlank c = true

/-- A line at whose end stands a quotation mark. -/
def EndsQuoted (line : List Char) : Prop :=
  ∃ u q t, line = u ++ q :: t ∧ isQuote q = true ∧ LineEnd t

/-- What a line imports is the text of an import on it. -/
theorem Imports.exists_onLine {line source : List Char} {binding : Option (List Char)}
    (h : Imports line binding source) : ∃ clause, OnLine (ImportText clause source) line := by
  cases binding with
  | some binding => exact ⟨h.choose, h.choose_spec.2⟩
  | none => exact ⟨h.1.choose, h.1.choose_spec.2⟩

/-- An import begins with its word. -/
theorem Imports.beginsImport {line source : List Char} {binding : Option (List Char)}
    (h : Imports line binding source) : BeginsImport line := by
  obtain ⟨clause, w, _, t, rfl, hw, ⟨w₁, w₂, w₃, q, q', rfl, ⟨hne, hw₁⟩, -⟩, -⟩ := h.exists_onLine
  obtain ⟨c, v, rfl⟩ := List.exists_cons_of_ne_nil hne
  exact ⟨w, c, v ++ (clause ++ (w₂ ++ ("from".toList ++ (w₃ ++ (q :: (source ++ [q'])))))) ++ t,
    by simp, hw, hw₁ c List.mem_cons_self⟩

/-- And it ends with its specifier. -/
theorem Imports.endsQuoted {line source : List Char} {binding : Option (List Char)}
    (h : Imports line binding source) : EndsQuoted line := by
  obtain ⟨clause, w, _, t, rfl, -, ⟨w₁, w₂, w₃, q, q', rfl, -, -, -, -, -, hq'⟩, ht⟩ :=
    h.exists_onLine
  exact ⟨w ++ ("import".toList ++ (w₁ ++ (clause ++ (w₂ ++ ("from".toList ++
    (w₃ ++ q :: source)))))), q', t, by simp, hq', ht⟩

/-- An import without bindings begins with its word. -/
theorem beginsImport_of_sideEffect {line : String}
    (h : (matchLine? sideEffectLine line).isSome = true) : BeginsImport line.toList := by
  obtain ⟨source, w, _, t, hline, hw, ⟨v, q, q', rfl, ⟨hne, hv⟩, -⟩, -⟩ :=
    isSome_sideEffectLine_iff.mp h
  obtain ⟨c, v, rfl⟩ := List.exists_cons_of_ne_nil hne
  exact ⟨w, c, v ++ q :: (source ++ q' :: t), by simp [hline], hw, hv c List.mem_cons_self⟩

/-- And it ends with its specifier. -/
theorem endsQuoted_of_sideEffect {line : String}
    (h : (matchLine? sideEffectLine line).isSome = true) : EndsQuoted line.toList := by
  obtain ⟨source, w, _, t, hline, -, ⟨v, q, q', rfl, -, -, -, hq'⟩, ht⟩ :=
    isSome_sideEffectLine_iff.mp h
  exact ⟨w ++ ("import".toList ++ (v ++ q :: source)), q', t, by simp [hline], hq', ht⟩

/-- An import of names from the package has no default binding. -/
theorem not_imports_of_coreImport {line : String} {binding source : List Char}
    (h : (matchLine? coreImportLine line).isSome = true) :
    ¬ Imports line.toList (some binding) source := by
  rintro ⟨clause, hclause, himport⟩
  obtain ⟨w, v, y, hline, hw, hv, hb, -⟩ := exists_behind_import_bound hclause himport
  obtain ⟨s, hs, -⟩ := (isSome_matchLine?_iff _ _).mp h
  simp only [coreImportLine, List.append_assoc, mem_ends_concat_append, mem_ends_concat_cons,
    mem_ends_concat_nil, mem_ends_blanks, mem_ends_letters, mem_ends_char, contains_single] at hs
  obtain ⟨_, ⟨_, ⟨w', r, hline', hw', rfl⟩, rfl⟩, _, ⟨r', hr, rfl⟩, _,
    ⟨_, ⟨v', r'', hr', hv', rfl⟩, _, ⟨_, rest, hr'', rfl, rfl⟩, -⟩, -⟩ := hs
  simp only [State.rest_after] at hr hr' hr''
  subst hr hr' hr''
  have hbrace : isBlank '\x7b' = false := by decide
  have hrest := eq_behind_import hw hw' hv hv' (hb.head?_append y) (by simp [hbrace])
    (hline.symm.trans hline')
  obtain ⟨c, u, rfl, hc, -⟩ := hb
  rw [List.cons_append, List.cons.injEq] at hrest
  have hstart : isStart '\x7b' = false := by decide
  rw [hrest.1, hstart] at hc
  exact Bool.false_ne_true hc

/-! ### Starts of the application -/

/-- The words that declare a name. -/
def DeclaringWord (cs : List Char) : Prop :=
  cs = "const".toList ∨ cs = "let".toList ∨ cs = "var".toList

/-- What is started: a new application, or one by its name. -/
def StartSubject (application cs : List Char) : Prop :=
  (∃ word w₁ w₂ w₃, cs = word ++ (w₁ ++ (application ++ (w₂ ++ ('=' :: (w₃ ++
      "Application".toList))))) ∧
    DeclaringWord word ∧ (w₁ ≠ [] ∧ Blanks w₁) ∧ Blanks w₂ ∧ Blanks w₃) ∨
  cs = "Application".toList ∨ cs = application

/-- The start of an application. -/
def StartText (application cs : List Char) : Prop :=
  ∃ subject w₁ w₂, cs = subject ++ (".start".toList ++ (w₁ ++ '(' :: (w₂ ++ [')']))) ∧
    StartSubject application subject ∧ Blanks w₁ ∧ Blanks w₂

variable {s s' : State}

private theorem mem_ends_declaringWord :
    s' ∈ (anyOf [literal "const", literal "let", literal "var"]).ends s ↔
      ∃ cs rest, s.rest = cs ++ rest ∧ DeclaringWord cs ∧ s' = s.after cs rest [] := by
  simp only [mem_ends_anyOf_cons, mem_ends_anyOf_singleton, mem_ends_literal]
  constructor
  · rintro (⟨rest, hs, rfl⟩ | ⟨rest, hs, rfl⟩ | ⟨rest, hs, rfl⟩)
    · exact ⟨_, rest, hs, .inl rfl, rfl⟩
    · exact ⟨_, rest, hs, .inr (.inl rfl), rfl⟩
    · exact ⟨_, rest, hs, .inr (.inr rfl), rfl⟩
  · rintro ⟨_, rest, hs, rfl | rfl | rfl, rfl⟩
    · exact .inl ⟨rest, hs, rfl⟩
    · exact .inr (.inl ⟨rest, hs, rfl⟩)
    · exact .inr (.inr ⟨rest, hs, rfl⟩)

private theorem mem_ends_startSubject (application : String) :
    s' ∈ (anyOf [
      concat ([anyOf [literal "const", literal "let", literal "var"], someBlanks,
        literal application, blanks, char (.single '='), blanks, literal "Application"]),
      literal "Application", literal application]).ends s ↔
    ∃ cs rest, s.rest = cs ++ rest ∧ StartSubject application.toList cs ∧
      s' = s.after cs rest [] := by
  rw [mem_ends_anyOf_cons, mem_ends_anyOf_cons, mem_ends_anyOf_singleton]
  simp only [mem_ends_concat_cons, mem_ends_concat_nil, mem_ends_declaringWord,
    mem_ends_literal, mem_ends_someBlanks, mem_ends_blanks, mem_ends_char, contains_single]
  constructor
  · rintro (⟨_, ⟨word, r₀, hs, hword, rfl⟩, _, ⟨w₁, r₁, hr₁, hne₁, hw₁, rfl⟩, _,
      ⟨r₂, hr₂, rfl⟩, _, ⟨w₂, r₃, hr₃, hw₂, rfl⟩, _, ⟨_, r₄, hr₄, rfl, rfl⟩, _,
      ⟨w₃, r₅, hr₅, hw₃, rfl⟩, _, ⟨rest, hr₆, rfl⟩, rfl⟩ | ⟨rest, hs, rfl⟩ | ⟨rest, hs, rfl⟩)
    · simp only [State.rest_after] at hr₁ hr₂ hr₃ hr₄ hr₅ hr₆
      subst hr₁ hr₂ hr₃ hr₄ hr₅ hr₆
      exact ⟨_, rest, by simpa using hs,
        .inl ⟨word, w₁, w₂, w₃, rfl, hword, ⟨hne₁, hw₁⟩, hw₂, hw₃⟩, by simp⟩
    · exact ⟨_, rest, hs, .inr (.inl rfl), rfl⟩
    · exact ⟨_, rest, hs, .inr (.inr rfl), rfl⟩
  · rintro ⟨_, rest, hs, ⟨word, w₁, w₂, w₃, rfl, hword, ⟨hne₁, hw₁⟩, hw₂, hw₃⟩ | rfl | rfl, rfl⟩
    · simp only [List.append_assoc, List.cons_append] at hs
      exact .inl ⟨_, ⟨word, _, hs, hword, rfl⟩, _, ⟨w₁, _, rfl, hne₁, hw₁, rfl⟩, _,
        ⟨_, rfl, rfl⟩, _, ⟨w₂, _, rfl, hw₂, rfl⟩, _, ⟨'=', _, rfl, rfl, rfl⟩, _,
        ⟨w₃, _, rfl, hw₃, rfl⟩, _, ⟨rest, rfl, rfl⟩, by simp⟩
    · exact .inr (.inl ⟨rest, hs, rfl⟩)
    · exact .inr (.inr ⟨rest, hs, rfl⟩)

/-- Lines that start the application, by their text. -/
theorem isSome_bootstrapLine_iff (application line : String) :
    (matchLine? (bootstrapLine application) line).isSome = true ↔
      OnLine (StartText application.toList) line.toList := by
  rw [isSome_matchLine?_iff, bootstrapLine, List.append_assoc, List.append_assoc]
  simp only [mem_ends_concat_append, mem_ends_concat_cons, mem_ends_concat_nil, mem_ends_blanks,
    mem_ends_startSubject, mem_ends_letters, mem_ends_char, contains_single]
  constructor
  · rintro ⟨s, ⟨_, ⟨_, ⟨w, r₀, hline, hw, rfl⟩, _, ⟨subject, r₁, hr₁, hsubject, rfl⟩, rfl⟩, _,
      ⟨r₂, hr₂, rfl⟩, _, ⟨_, ⟨w₁, r₃, hr₃, hw₁, rfl⟩, _, ⟨_, r₄, hr₄, rfl, rfl⟩, _,
      ⟨w₂, r₅, hr₅, hw₂, rfl⟩, _, ⟨_, r₆, hr₆, rfl, rfl⟩, rfl⟩, hend⟩, hnil⟩
    obtain ⟨ht, -⟩ := mem_ends_lineEnd.mp ⟨hend, hnil⟩
    simp only [State.rest_after] at hr₁ hr₂ hr₃ hr₄ hr₅ hr₆ ht
    subst hr₁ hr₂ hr₃ hr₄ hr₅ hr₆
    exact ⟨w, _, r₆, by simpa [State.start] using hline, hw,
      ⟨subject, w₁, w₂, rfl, hsubject, hw₁, hw₂⟩, ht⟩
  · rintro ⟨w, _, t, hline, hw, ⟨subject, w₁, w₂, rfl, hsubject, hw₁, hw₂⟩, ht⟩
    simp only [List.append_assoc, List.cons_append, List.nil_append] at hline
    exact ⟨_, ⟨_, ⟨_, ⟨w, _, hline, hw, rfl⟩, _, ⟨subject, _, rfl, hsubject, rfl⟩, rfl⟩, _,
      ⟨_, rfl, rfl⟩, _, ⟨_, ⟨w₁, _, rfl, hw₁, rfl⟩, _, ⟨'(', _, rfl, rfl, rfl⟩, _,
      ⟨w₂, _, rfl, hw₂, rfl⟩, _, ⟨')', t, rfl, rfl, rfl⟩, rfl⟩,
      (mem_ends_lineEnd.mpr ⟨ht, rfl⟩).1⟩, rfl⟩

/-- A line that starts the application does so with blanks around it. -/
theorem isSome_bootstrapLine_of_padded {application inner whole : String}
    (h : (matchLine? (bootstrapLine application) inner).isSome = true)
    (hpad : Padded inner.toList whole.toList) :
    (matchLine? (bootstrapLine application) whole).isSome = true := by
  rw [isSome_bootstrapLine_iff] at h ⊢
  exact h.padded hpad

/-! ### Before the first full stop -/

/-- What can stand in front of the first full stop or brace of a line. -/
def Plain (cs : List Char) : Prop := ∀ c ∈ cs, (c != '.' && c != '\x7b') = true

instance (cs : List Char) : Decidable (Plain cs) := List.decidableBAll _ cs

theorem Plain.append {cs ds : List Char} (hcs : Plain cs) (hds : Plain ds) :
    Plain (cs ++ ds) := List.forall_mem_append.mpr ⟨hcs, hds⟩

theorem plain_of_blanks {w : List Char} (h : Blanks w) : Plain w := by
  intro c hc
  rw [Bool.and_eq_true, bne_iff_ne, bne_iff_ne]
  constructor
  · rintro rfl
    exact absurd (h _ hc) (by decide)
  · rintro rfl
    exact absurd (h _ hc) (by decide)

theorem plain_of_isIdentifier {name : String} (h : isIdentifier name = true) :
    Plain name.toList := by
  have hstop : isPart '.' = false := by decide +kernel
  have hbrace : isPart '\x7b' = false := by decide +kernel
  intro c hc
  rw [Bool.and_eq_true, bne_iff_ne, bne_iff_ne]
  rcases isPart_or_lineFeed_of_isIdentifier h hc with hpart | rfl
  · constructor
    · rintro rfl
      exact Bool.false_ne_true (hstop.symm.trans hpart)
    · rintro rfl
      exact Bool.false_ne_true (hbrace.symm.trans hpart)
  · decide

/-- What is started is plain. -/
theorem plain_of_startSubject {application : String} {subject : List Char}
    (happ : isIdentifier application = true) (h : StartSubject application.toList subject) :
    Plain subject := by
  have hname : Plain "Application".toList := by decide
  rcases h with ⟨word, w₁, w₂, w₃, rfl, hword, ⟨-, hw₁⟩, hw₂, hw₃⟩ | rfl | rfl
  · have hword : Plain word := by
      rcases hword with rfl | rfl | rfl <;> decide
    have hsign : Plain ('=' :: (w₃ ++ "Application".toList)) :=
      List.forall_mem_cons.mpr ⟨by decide, (plain_of_blanks hw₃).append hname⟩
    exact hword.append ((plain_of_blanks hw₁).append ((plain_of_isIdentifier happ).append
      ((plain_of_blanks hw₂).append hsign)))
  · exact hname
  · exact plain_of_isIdentifier happ

/-- So is what a controller is registered with. -/
theorem plain_of_registrationSubject {application : String} {subject : List Char}
    (happ : isIdentifier application = true)
    (h : RegistrationSubject application.toList subject) : Plain subject := by
  rcases h with rfl | rfl
  · decide
  · exact plain_of_isIdentifier happ

/-- A controller is registered with something. -/
theorem registrationSubject_ne_nil {application : String} {subject : List Char}
    (happ : isIdentifier application = true)
    (h : RegistrationSubject application.toList subject) : subject ≠ [] := by
  rcases h with rfl | rfl
  · simp
  · obtain ⟨_, t, hname, ⟨c, w, rfl, -⟩, -⟩ := (isIdentifier_iff application).mp happ
    simp [hname]

/-! ### None of these lines is an import -/

/-- A line that starts with another letter begins with no import. -/
theorem not_beginsImport_of_head {w rest : List Char} {c : Char} (hw : Blanks w)
    (hc : isBlank c = false) (hne : c ≠ 'i') : ¬ BeginsImport (w ++ c :: rest) := by
  rintro ⟨w', d, r, heq, hw', -⟩
  have hi : isBlank 'i' = false := by decide
  obtain ⟨-, hrest⟩ := append_inj_of_stop hw hw' (by simp [hc]) (by simp [hi]) heq
  exact hne (List.cons.inj hrest).1

/-- A line that goes on with a full stop behind the name of the application begins with no import,
whatever the name is. -/
private theorem not_beginsImport_of_application {application : String} {w rest : List Char}
    (happ : isIdentifier application = true) (hw : Blanks w)
    (hline : '\n' ∉ w ++ (application.toList ++ '.' :: rest)) :
    ¬ BeginsImport (w ++ (application.toList ++ '.' :: rest)) := by
  obtain ⟨name, t, hname, hident, rfl | rfl⟩ := (isIdentifier_iff application).mp happ
  · rw [hname, List.append_nil]
    rintro ⟨w', d, r, heq, hw', hd⟩
    have hi : isBlank 'i' = false := by decide
    obtain ⟨-, hrest⟩ := append_inj_of_stop hw hw' (hident.head?_append _) (by simp [hi]) heq
    have himport : ∀ c ∈ "import".toList, isPart c = true :=
      List.all_eq_true.mp (by decide +kernel)
    have hdot : isPart '.' = false := by decide +kernel
    obtain ⟨-, hstop⟩ := append_inj_of_stop (fun c hc ↦ hident.isPart hc) himport
      (by simp [hdot]) (by simp [isPart_of_isBlank hd]) hrest
    rw [← (List.cons.inj hstop).1] at hd
    exact absurd hd (by decide)
  · exact absurd (by simp [hname]) hline

/-- A line that starts the application begins with no import. -/
theorem not_beginsImport_of_bootstrap {application line : String}
    (happ : isIdentifier application = true) (hline : '\n' ∉ line.toList)
    (h : (matchLine? (bootstrapLine application) line).isSome = true) :
    ¬ BeginsImport line.toList := by
  obtain ⟨w, _, t, heq, hw, ⟨subject, w₁, w₂, rfl, hsubject, -⟩, -⟩ :=
    (isSome_bootstrapLine_iff application line).mp h
  rw [List.append_assoc] at heq
  rw [heq] at hline ⊢
  rcases hsubject with ⟨word, _, _, _, rfl, rfl | rfl | rfl, -⟩ | rfl | rfl
  · exact not_beginsImport_of_head hw (by decide) (by decide)
  · exact not_beginsImport_of_head hw (by decide) (by decide)
  · exact not_beginsImport_of_head hw (by decide) (by decide)
  · exact not_beginsImport_of_head hw (by decide) (by decide)
  · exact not_beginsImport_of_application happ hw hline

/-- Only blanks stand before what is left of a line without blanks and semicolons around it. -/
theorem exists_bareStatement (line : String) :
    ∃ w t, Blanks w ∧ line.toList = w ++ ((bareStatement line).toList ++ t) := by
  obtain ⟨w, t, hw, -, hline⟩ := padded_trim line
  obtain ⟨w', t', hw', -, hbare⟩ := padded_trim (trimEnd (trim line) ';')
  have hend : ∃ u, (trim line).toList = (trimEnd (trim line) ';').toList ++ u := by
    rw [trimEnd, String.toList_ofList, trimEndChars]
    refine ⟨((trim line).toList.reverse.takeWhile (· == ';')).reverse, ?_⟩
    rw [← List.reverse_append, List.takeWhile_append_dropWhile, List.reverse_reverse]
  obtain ⟨u, hu⟩ := hend
  refine ⟨w ++ w', t' ++ (u ++ t), blanks_append.mpr ⟨hw, hw'⟩, ?_⟩
  rw [hline, hu, hbare, bareStatement]
  simp only [List.append_assoc]

/-- The semicolon behind a statement is left out. -/
theorem bareStatement_of_semicolon {line : String} {x : List Char} {c : Char}
    (hline : line.toList = x ++ [c, ';']) (hfirst : (x ++ [c]).head?.all (!isBlank ·) = true)
    (hblank : isBlank c = false) (hc : c ≠ ';') : (bareStatement line).toList = x ++ [c] := by
  have hsemicolon : isBlank ';' = false := by decide
  have htrim : trim line = line := by
    refine trim_eq_self ?_ (by simp [hline, hsemicolon])
    rw [hline]
    cases x <;> exact hfirst
  have hend : trimEnd line ';' = String.ofList (x ++ [c]) := by
    rw [trimEnd, trimEndChars, hline]
    simp [hc]
  rw [bareStatement, htrim, hend, toList_trim, String.toList_ofList]
  exact trimChars_eq_self hfirst (by simp [hblank])

/-- Blanks around a line do not change what is left of it. -/
theorem bareStatement_of_padded {inner whole : String} (h : Padded inner.toList whole.toList) :
    bareStatement whole = bareStatement inner := by
  rw [bareStatement, bareStatement, trim_eq_of_padded h]

/-- A line that registers a controller does so with Stimulus or with the application. -/
theorem exists_registration_subject {application line : String}
    (h : (matchLine? (registration application) (bareStatement line)).isSome = true) :
    ∃ w subject rest, line.toList = w ++ (subject ++ (".register".toList ++ rest)) ∧ Blanks w ∧
      RegistrationSubject application.toList subject := by
  obtain ⟨w, t, hw, heq⟩ := exists_bareStatement line
  obtain ⟨s, hs, -⟩ := (isSome_matchLine?_iff _ _).mp h
  obtain ⟨-, subject, _, _, _, hsubject, ⟨_, v, rfl, ⟨w₁, w₂, q, q', rfl, -⟩, -⟩, hbare, -⟩ :=
    of_mem_ends_registration hs
  rw [State.rest_start] at hbare
  rw [hbare] at heq
  simp only [List.append_assoc] at heq
  exact ⟨w, subject, _, heq, hw, hsubject⟩

/-- A line that registers a controller begins with no import. -/
theorem not_beginsImport_of_registration {application line : String}
    (happ : isIdentifier application = true) (hline : '\n' ∉ line.toList)
    (h : (matchLine? (registration application) (bareStatement line)).isSome = true) :
    ¬ BeginsImport line.toList := by
  obtain ⟨w, subject, rest, heq, hw, rfl | rfl⟩ := exists_registration_subject h
  all_goals rw [heq] at hline ⊢
  · exact not_beginsImport_of_head hw (by decide) (by decide)
  · exact not_beginsImport_of_application happ hw hline

/-! ### None of these lines is blank -/

/-- A line with an import on it is not blank. -/
theorem BeginsImport.not_blanks {line : List Char} (h : BeginsImport line) : ¬ Blanks line := by
  obtain ⟨w, c, rest, rfl, -⟩ := h
  intro hblank
  exact absurd (hblank 'i' (by simp)) (by decide)

/-- A line that starts the application is not blank. -/
theorem not_blanks_of_bootstrap {application line : String}
    (h : (matchLine? (bootstrapLine application) line).isSome = true) : ¬ Blanks line.toList := by
  obtain ⟨w, _, t, heq, -, ⟨subject, w₁, w₂, rfl, -⟩, -⟩ :=
    (isSome_bootstrapLine_iff application line).mp h
  intro hblank
  rw [heq] at hblank
  exact absurd (hblank ')' (by simp)) (by decide)

/-- A line that registers a controller is not blank. -/
theorem not_blanks_of_registration {application line : String}
    (h : (matchLine? (registration application) (bareStatement line)).isSome = true) :
    ¬ Blanks line.toList := by
  obtain ⟨w, subject, rest, heq, -⟩ := exists_registration_subject h
  intro hblank
  rw [heq] at hblank
  exact absurd (hblank '.' (by simp)) (by decide)

/-! ### What the filter says of these lines -/

/-- A line that is an import in neither way is judged by its start and its registration. -/
theorem Application.handles_of_no_import (a : Application) {line : String}
    (himport : matchLine? importLine line = none) (hside : matchLine? sideEffectLine line = none) :
    a.handles line = ((matchLine? (bootstrapLine a.name) line).isSome ||
      (matchLine? (registration a.name) (bareStatement line)).any (groupIn · 1 a.controllers)) := by
  rw [Application.handles, himport, hside]
  cases matchLine? (registration a.name) (bareStatement line) <;> rfl

/-- So is a line that does not begin or does not end like an import. -/
theorem Application.handles_of_not_import (a : Application) {line : String}
    (h : ¬ (BeginsImport line.toList ∧ EndsQuoted line.toList)) :
    a.handles line = ((matchLine? (bootstrapLine a.name) line).isSome ||
      (matchLine? (registration a.name) (bareStatement line)).any (groupIn · 1 a.controllers)) := by
  apply a.handles_of_no_import
  · rw [Option.eq_none_iff_forall_ne_some]
    intro m hm
    obtain ⟨binding, source, himports, -⟩ := imports_of_matchLine? hm
    exact h ⟨himports.beginsImport, himports.endsQuoted⟩
  · rw [← Option.not_isSome_iff_eq_none]
    exact fun hm ↦ h ⟨beginsImport_of_sideEffect hm, endsQuoted_of_sideEffect hm⟩

/-- A line that starts the application is dropped. -/
theorem Application.handles_of_bootstrap {a : Application} {line : String}
    (happ : isIdentifier a.name = true) (hline : '\n' ∉ line.toList)
    (h : (matchLine? (bootstrapLine a.name) line).isSome = true) : a.handles line = true := by
  rw [a.handles_of_not_import fun hno ↦ not_beginsImport_of_bootstrap happ hline h hno.1, h,
    Bool.true_or]

/-- A line that registers one of the controllers is dropped. -/
theorem Application.handles_of_registration {a : Application} {line : String} {m : Pattern.Match}
    (happ : isIdentifier a.name = true) (hline : '\n' ∉ line.toList)
    (h : matchLine? (registration a.name) (bareStatement line) = some m)
    (hm : groupIn m 1 a.controllers = true) : a.handles line = true := by
  have hsome : (matchLine? (registration a.name) (bareStatement line)).isSome = true := by
    rw [h]
    rfl
  rw [a.handles_of_not_import fun hno ↦ not_beginsImport_of_registration happ hline hsome hno.1, h,
    Option.any_some, hm, Bool.or_true]

/-- An import is judged by its specifier and its default binding. -/
theorem Application.handles_of_imports (a : Application) {line : String}
    {binding : Option (List Char)} {source : List Char}
    (h : Imports line.toList binding source) :
    a.handles line =
      if String.ofList source = coreModule then (matchLine? coreImportLine line).isSome
      else a.controllers.contains (String.ofList source) ||
        binding.any fun b ↦ (a.mapControllers ++ a.reimported).contains (String.ofList b) := by
  obtain ⟨m, hm, h₁, h₂⟩ := exists_match_iff_imports.mpr h
  have hcore : groupIn m 2 [coreModule] = decide (String.ofList source = coreModule) := by
    simp [groupIn, h₂]
  have hsource : groupIn m 2 a.controllers = a.controllers.contains (String.ofList source) := by
    rw [groupIn, h₂, Option.any_some]
  have hbinding : groupIn m 1 (a.mapControllers ++ a.reimported) =
      binding.any fun b ↦ (a.mapControllers ++ a.reimported).contains (String.ofList b) := by
    rw [groupIn, h₁, Option.any_map]
  simp only [Application.handles, hm, hcore, hsource, hbinding, decide_eq_true_eq]

end ModuleScript.Stimulus
