import ModuleScript.Proofs.Stimulus.OpenQuotations

/-!
# Texts of imports

The imports that an analysis looks for in a block are statements, which may bind names before they
come to their specifier, and calls. Either reads an opening, a quoted specifier and a close. Only
one opening stands in front of a quotation, so the specifier of an import is determined by its
place.
-/

namespace ModuleScript.Analysis

open Pattern Pattern.Node Text Stimulus Script

/-! ### Texts that quote a specifier -/

/-- A specifier between quotation marks, behind an opening and in front of a close. -/
def Quotes (opening close : List Char → Prop) (source cs : List Char) : Prop :=
  ∃ o q q' c, cs = o ++ q :: (source ++ q' :: c) ∧ opening o ∧ isQuote q = true ∧
    SpecifierText source ∧ isQuote q' = true ∧ close c

/-- Openings in front of the same quotation are the same. -/
def Determined (opening : List Char → Prop) : Prop :=
  ∀ {o o' x x' : List Char} {q q' : Char}, opening o → opening o' → isQuote q = true →
    isQuote q' = true → o ++ q :: x = o' ++ q' :: x' → o = o'

section Quotes

variable {front back : List Node} {opening close : List Char → Prop} {s s' : State}

/-- A form with a quoted specifier reads what stands before, between and behind the marks, and
keeps the specifier. -/
theorem mem_ends_quotes (hfront : (concat front).Spells opening)
    (hback : (concat back).Spells close) :
    s' ∈ (concat (front ++ quotedSpecifier 1 :: back)).ends s ↔
      ∃ o q source q' c rest, s.rest = o ++ q :: (source ++ q' :: (c ++ rest)) ∧ opening o ∧
        isQuote q = true ∧ SpecifierText source ∧ isQuote q' = true ∧ close c ∧
        s' = s.after (o ++ q :: (source ++ q' :: c)) rest
          [(1, ⟨source ++ q' :: (c ++ rest), source.length⟩)] := by
  simp only [mem_ends_concat_append, mem_ends_concat_cons, hfront.mem_ends, hback.mem_ends,
    mem_ends_quotedSpecifier]
  constructor
  · rintro ⟨_, ⟨o, _, hs, ho, rfl⟩, _, ⟨q, source, q', _, rfl, hq, hsource, hq', rfl⟩, c, rest,
      rfl, hc, rfl⟩
    exact ⟨o, q, source, q', c, rest, hs, ho, hq, hsource, hq', hc, by simp⟩
  · rintro ⟨o, q, source, q', c, rest, hs, ho, hq, hsource, hq', hc, rfl⟩
    exact ⟨_, ⟨o, _, hs, ho, rfl⟩, _, ⟨q, source, q', _, rfl, hq, hsource, hq', rfl⟩, c, rest, rfl,
      hc, by simp⟩

/-- Where openings are determined, the form tells the specifier. -/
theorem tells_quotes (hfront : (concat front).Spells opening)
    (hback : (concat back).Spells close) (hopening : Determined opening) :
    Tells (concat (front ++ quotedSpecifier 1 :: back)) (fun _ ↦ True) (Quotes opening close) where
  sound h := by
    obtain ⟨o, q, source, q', c, rest, hs, ho, hq, hsource, hq', hc, rfl⟩ :=
      (mem_ends_quotes hfront hback).mp h
    refine ⟨trivial, source, _, ⟨o, q, q', c, rfl, ho, hq, hsource, hq', hc⟩, by simp [hs], ?_⟩
    simp [State.group?, Span.text_append]
  complete := by
    rintro s source _ rest - ⟨o, q, q', c, rfl, ho, hq, hsource, hq', hc⟩ hs
    refine ⟨_, (mem_ends_quotes hfront hback).mpr ⟨o, q, source, q', c, rest, by simpa using hs, ho,
      hq, hsource, hq', hc, rfl⟩, rfl⟩
  unique := by
    rintro source source' _ _ rest rest' ⟨o, q, r, c, rfl, ho, hq, hsource, hr, -⟩
      ⟨o', q', r', c', rfl, ho', hq', hsource', hr', -⟩ heq
    simp only [List.append_assoc, List.cons_append] at heq
    obtain rfl := hopening ho ho' hq hq' heq
    obtain ⟨-, hquoted⟩ := List.cons.inj (List.append_cancel_left heq)
    exact (firstQuote_inj hsource.2 hsource'.2 hr hr' hquoted).1
  ne_nil := by
    rintro source _ ⟨o, q, q', c, rfl, -⟩
    simp

/-- Where nothing closes it, such a text ends with the first mark behind its specifier. -/
theorem Quotes.inj (hopening : Determined opening) {source source' cs cs' rest rest' : List Char}
    (h : Quotes opening (· = []) source cs) (h' : Quotes opening (· = []) source' cs')
    (heq : cs ++ rest = cs' ++ rest') : cs = cs' := by
  obtain ⟨o, q, r, _, rfl, ho, hq, hsource, hr, rfl⟩ := h
  obtain ⟨o', q', r', _, rfl, ho', hq', hsource', hr', rfl⟩ := h'
  simp only [List.append_assoc, List.cons_append, List.nil_append] at heq
  obtain rfl := hopening ho ho' hq hq' heq
  obtain ⟨rfl, hquoted⟩ := List.cons.inj (List.append_cancel_left heq)
  obtain ⟨rfl, rfl, -⟩ := firstQuote_inj hsource.2 hsource'.2 hr hr' hquoted
  rfl

end Quotes

/-! ### Statements -/

/-- At least one blank. -/
def SomeBlanks (w : List Char) : Prop := w ≠ [] ∧ Blanks w

theorem someBlanks_space : SomeBlanks [' '] := ⟨by simp, blanks_space⟩

/-- At least one word character. -/
def WordText (cs : List Char) : Prop := cs ≠ [] ∧ ∀ c ∈ cs, isWord c = true

/-- What a statement binds: names in braces, all names of a module under one, or a default. -/
inductive BindingText : List Char → Prop where
  | names {names : List Char} :
    names ≠ [] → '\x7d' ∉ names → BindingText ('\x7b' :: (names ++ ['\x7d']))
  | all {w w' name : List Char} :
    SomeBlanks w → SomeBlanks w' → WordText name →
      BindingText ('*' :: (w ++ ("as".toList ++ (w' ++ name))))
  | word {name : List Char} : WordText name → BindingText name

/-- What it binds further, behind a comma. -/
def FurtherText (cs : List Char) : Prop :=
  ∃ w w' binding, cs = w ++ ',' :: (w' ++ binding) ∧ Blanks w ∧ Blanks w' ∧ BindingText binding

/-- All that a statement binds, up to the specifier. -/
def ClauseText (cs : List Char) : Prop :=
  ∃ first more w w', cs = first ++ (more ++ (w ++ ("from".toList ++ w'))) ∧ BindingText first ∧
    Repeated FurtherText more ∧ SomeBlanks w ∧ SomeBlanks w'

/-- A statement up to its specifier, which binds something or nothing. -/
def StatementOpening (cs : List Char) : Prop :=
  ∃ w clause, cs = "import".toList ++ (w ++ clause) ∧ SomeBlanks w ∧
    (ClauseText clause ∨ clause = [])

/-- An import statement and its specifier. -/
def StatementText : List Char → List Char → Prop := Quotes StatementOpening (· = [])

private theorem spells_letters (text : String) :
    (concat (letters text)).Spells (· = text.toList) := by
  intro s s'
  rw [mem_ends_letters]
  constructor
  · rintro ⟨rest, hs, rfl⟩
    exact ⟨_, rest, hs, rfl, rfl⟩
  · rintro ⟨_, rest, hs, rfl, rfl⟩
    exact ⟨rest, hs, rfl⟩

private theorem spells_single (c : Char) : (char (.single c)).Spells (· = [c]) :=
  (spells_char _).congr fun w ↦ by simp [contains_single]

private theorem spells_blanks : blanks.Spells Blanks := fun _ _ ↦ mem_ends_blanks

private theorem spells_someBlanks : someBlanks.Spells SomeBlanks := by
  intro s s'
  simp only [mem_ends_someBlanks, SomeBlanks, and_assoc]

private theorem spells_word : (plus (oneOf [.oneOf .word])).Spells WordText := by
  intro s s'
  simp only [oneOf, mem_ends_plus, WordText, and_assoc]
  simp [CharSet.contains, CharItem.contains, CharClass.contains]

private theorem spells_names :
    (plus (char (.noneOf ['\x7d']))).Spells fun cs ↦ cs ≠ [] ∧ '\x7d' ∉ cs := by
  intro s s'
  have hnone (w : List Char) : (∀ c ∈ w, c ∉ ['\x7d']) ↔ '\x7d' ∉ w := by
    simp only [List.mem_singleton]
    exact ⟨fun h hmem ↦ h _ hmem rfl, fun h c hc heq ↦ h (heq ▸ hc)⟩
  simp only [mem_ends_plus, contains_noneOf, hnone, and_assoc]

/-- The form of what a statement binds reads it. -/
theorem spells_importClause : importClause.Spells BindingText := by
  have hnames := (spells_single '\x7b').concat_cons (spells_names.concat_cons
    ((spells_single '\x7d').concat_cons .concat_nil))
  have hall := (((spells_single '*').concat_cons (spells_someBlanks.concat_cons .concat_nil)
    ).concat_append (spells_letters "as")).concat_append
      (spells_someBlanks.concat_cons (spells_word.concat_cons .concat_nil))
  refine (hnames.alt (hall.alt spells_word)).congr fun cs ↦ ⟨?_, ?_⟩
  · rintro (⟨_, _, rfl, rfl, names, _, rfl, ⟨hne, hclose⟩, _, _, rfl, rfl, rfl⟩ |
      ⟨_, _, rfl, ⟨_, _, rfl, ⟨_, _, rfl, rfl, w, _, rfl, hw, rfl⟩, rfl⟩, w', _, rfl, hw', name, _,
        rfl, hname, rfl⟩ | h)
    · simpa using BindingText.names hne hclose
    · simpa using BindingText.all hw hw' hname
    · exact .word h
  · intro h
    cases h with
    | names hne hclose =>
      exact .inl ⟨_, _, rfl, rfl, _, _, rfl, ⟨hne, hclose⟩, _, _, rfl, rfl, rfl⟩
    | all hw hw' hname =>
      refine .inr (.inl ⟨_, _, ?_, ⟨_, _, rfl, ⟨_, _, rfl, rfl, _, _, rfl, hw, rfl⟩, rfl⟩, _, _,
        rfl, hw', _, _, rfl, hname, rfl⟩)
      simp
    | word h => exact .inr (.inr h)

private theorem spells_further :
    (concat [blanks, char (.single ','), blanks, importClause]).Spells FurtherText := by
  refine (spells_blanks.concat_cons ((spells_single ',').concat_cons (spells_blanks.concat_cons
    (spells_importClause.concat_cons .concat_nil)))).congr fun cs ↦ ⟨?_, ?_⟩
  · rintro ⟨w, _, rfl, hw, _, _, rfl, rfl, w', _, rfl, hw', binding, _, rfl, hbinding, rfl⟩
    exact ⟨w, w', binding, by simp, hw, hw', hbinding⟩
  · rintro ⟨w, w', binding, rfl, hw, hw', hbinding⟩
    exact ⟨w, _, rfl, hw, [','], _, rfl, rfl, w', _, rfl, hw', binding, [], by simp, hbinding, rfl⟩

private theorem not_furtherText_nil : ¬ FurtherText [] := by
  rintro ⟨w, w', binding, h, -⟩
  simp at h

private theorem spells_clause : (concat ([importClause,
    star (concat [blanks, char (.single ','), blanks, importClause]), someBlanks] ++
      letters "from" ++ [someBlanks])).Spells ClauseText := by
  refine (((spells_importClause.concat_cons ((spells_further.loop not_furtherText_nil
    true).concat_cons (spells_someBlanks.concat_cons .concat_nil))).concat_append
      (spells_letters "from")).concat_append
        (spells_someBlanks.concat_cons .concat_nil)).congr fun cs ↦ ⟨?_, ?_⟩
  · rintro ⟨_, _, rfl, ⟨_, _, rfl, ⟨first, _, rfl, hfirst, more, _, rfl, hmore, w, _, rfl, hw, rfl⟩,
      rfl⟩, w', _, rfl, hw', rfl⟩
    exact ⟨first, more, w, w', by simp, hfirst, hmore, hw, hw'⟩
  · rintro ⟨first, more, w, w', rfl, hfirst, hmore, hw, hw'⟩
    refine ⟨_, _, ?_, ⟨_, _, rfl, ⟨first, _, rfl, hfirst, more, _, rfl, hmore, w, [], rfl, hw, rfl⟩,
      rfl⟩, w', [], rfl, hw', rfl⟩
    simp

private theorem spells_statementOpening : (concat (letters "import" ++ [someBlanks,
    opt (concat ([importClause, star (concat [blanks, char (.single ','), blanks, importClause]),
      someBlanks] ++ letters "from" ++ [someBlanks]))])).Spells StatementOpening := by
  refine ((spells_letters "import").concat_append (spells_someBlanks.concat_cons
    (spells_clause.opt.concat_cons .concat_nil))).congr fun cs ↦ ⟨?_, ?_⟩
  · rintro ⟨_, _, rfl, rfl, w, _, rfl, hw, clause, _, rfl, hclause, rfl⟩
    exact ⟨w, clause, by simp, hw, hclause⟩
  · rintro ⟨w, clause, rfl, hw, hclause⟩
    exact ⟨_, _, rfl, rfl, w, _, rfl, hw, clause, [], by simp, hclause, rfl⟩

/-! ### Statements are read in one way -/

/-- Some blanks end a word in front of them. -/
private theorem SomeBlanks.head?_append {w : List Char} (h : SomeBlanks w) (x : List Char) :
    (w ++ x).head?.all (!isWord ·) = true := by
  obtain ⟨c, w, rfl⟩ := List.exists_cons_of_ne_nil h.1
  simp [isWord_of_isBlank (h.2 c List.mem_cons_self)]

/-- A word starts with a word character. -/
private theorem WordText.append_ne_cons {name x y : List Char} {c : Char} (h : WordText name)
    (hc : isWord c = false) : name ++ x ≠ c :: y := by
  obtain ⟨d, cs, rfl⟩ := List.exists_cons_of_ne_nil h.1
  rintro heq
  obtain ⟨rfl, -⟩ := List.cons.inj heq
  exact Bool.false_ne_true (hc.symm.trans (h.2 d List.mem_cons_self))

/-- What is bound starts neither with a blank nor with a quotation mark. -/
private theorem BindingText.head? {binding : List Char} (h : BindingText binding) :
    ∃ c cs, binding = c :: cs ∧ isBlank c = false ∧ isQuote c = false := by
  cases h with
  | names => exact ⟨_, _, rfl, by decide, by decide⟩
  | all => exact ⟨_, _, rfl, by decide, by decide⟩
  | word h =>
    obtain ⟨c, cs, rfl⟩ := List.exists_cons_of_ne_nil h.1
    have hc : isPart c = true := by simp [isPart, h.2 c List.mem_cons_self]
    exact ⟨c, cs, rfl, isBlank_of_isPart hc, isQuote_of_isPart (.inl hc)⟩

/-- Blanks end in front of what is bound. -/
private theorem BindingText.head?_append {binding : List Char} (h : BindingText binding)
    (x : List Char) : (binding ++ x).head?.all (!isBlank ·) = true := by
  obtain ⟨c, cs, rfl, hc, -⟩ := h.head?
  simp [hc]

/-- What is bound ends where it can. -/
private theorem BindingText.inj {b b' x x' : List Char} (h : BindingText b) (h' : BindingText b')
    (hx : x.head?.all (!isWord ·) = true) (hx' : x'.head?.all (!isWord ·) = true)
    (heq : b ++ x = b' ++ x') : b = b' ∧ x = x' := by
  have hbrace : isWord '\x7b' = false := by decide +kernel
  have hstar : isWord '*' = false := by decide +kernel
  cases h with
  | names _ hclose =>
    cases h' with
    | names _ hclose' =>
      have hinner {names : List Char} (h : '\x7d' ∉ names) : ∀ c ∈ names, (c != '\x7d') = true :=
        fun c hc ↦ bne_iff_ne.mpr fun hbrace ↦ h (hbrace ▸ hc)
      simp only [List.cons_append, List.append_assoc, List.nil_append] at heq
      obtain ⟨rfl, hrest⟩ := append_inj_of_stop (hinner hclose) (hinner hclose') (by simp)
        (by simp) (List.cons.inj heq).2
      exact ⟨rfl, (List.cons.inj hrest).2⟩
    | all => exact absurd (List.cons.inj heq).1 (by decide)
    | word hname => exact absurd heq.symm (hname.append_ne_cons hbrace)
  | all hw hw₁ hname =>
    cases h' with
    | names => exact absurd (List.cons.inj heq).1 (by decide)
    | all hv hv₁ hname' =>
      have ha : isBlank 'a' = false := by decide
      simp only [List.cons_append, List.append_assoc] at heq
      obtain ⟨rfl, has⟩ := append_inj_of_stop hw.2 hv.2 (by simp [ha]) (by simp [ha])
        (List.cons.inj heq).2
      obtain ⟨rfl, hnames⟩ := append_inj_of_stop hw₁.2 hv₁.2 ((word hname).head?_append x)
        ((word hname').head?_append x') (List.append_cancel_left has)
      obtain ⟨rfl, rfl⟩ := append_inj_of_stop hname.2 hname'.2 hx hx' hnames
      exact ⟨rfl, rfl⟩
    | word hname' => exact absurd heq.symm (hname'.append_ne_cons hstar)
  | word hname =>
    cases h' with
    | names => exact absurd heq (hname.append_ne_cons hbrace)
    | all => exact absurd heq (hname.append_ne_cons hstar)
    | word hname' => exact append_inj_of_stop hname.2 hname'.2 hx hx' heq

/-- What is bound further ends where it can. -/
private theorem FurtherText.inj {v v' x x' : List Char} (h : FurtherText v) (h' : FurtherText v')
    (hx : x.head?.all (!isWord ·) = true) (hx' : x'.head?.all (!isWord ·) = true)
    (heq : v ++ x = v' ++ x') : v = v' ∧ x = x' := by
  obtain ⟨w, w₁, b, rfl, hw, hw₁, hb⟩ := h
  obtain ⟨u, u₁, b', rfl, hu, hu₁, hb'⟩ := h'
  have hcomma : isBlank ',' = false := by decide
  simp only [List.append_assoc, List.cons_append] at heq
  obtain ⟨rfl, hcommas⟩ := append_inj_of_stop hw hu (by simp [hcomma]) (by simp [hcomma]) heq
  obtain ⟨rfl, hbindings⟩ := append_inj_of_stop hw₁ hu₁ (hb.head?_append x) (hb'.head?_append x')
    (List.cons.inj hcommas).2
  obtain ⟨rfl, rfl⟩ := hb.inj hb' hx hx' hbindings
  exact ⟨rfl, rfl⟩

/-- In front of the word for where names come from. -/
private def BeforeFrom (x : List Char) : Prop := ∃ w y, x = w ++ 'f' :: y ∧ SomeBlanks w

/-- What is bound ends there. -/
private theorem BeforeFrom.head?_append {more x : List Char} (hmore : Repeated FurtherText more)
    (hx : BeforeFrom x) : (more ++ x).head?.all (!isWord ·) = true := by
  obtain ⟨u, y, rfl, hu⟩ := hx
  rcases hmore.eq_nil_or_cons with rfl | ⟨_, more, ⟨w, w', b, rfl, hw, -⟩, -, rfl⟩
  · exact hu.head?_append _
  · have hcomma : isWord ',' = false := by decide +kernel
    cases w with
    | nil => simp [hcomma]
    | cons c w => simp [isWord_of_isBlank (hw c List.mem_cons_self)]

/-- There nothing further is bound. -/
private theorem BeforeFrom.ne_furtherText {v x y : List Char} (hv : FurtherText v)
    (hx : BeforeFrom x) : v ++ y ≠ x := by
  obtain ⟨w, w', b, rfl, hw, -⟩ := hv
  obtain ⟨u, z, rfl, hu⟩ := hx
  have hcomma : isBlank ',' = false := by decide
  have hf : isBlank 'f' = false := by decide
  intro heq
  simp only [List.append_assoc, List.cons_append] at heq
  have hrest := (append_inj_of_stop hw hu.2 (by simp [hcomma]) (by simp [hf]) heq).2
  exact absurd (List.cons.inj hrest).1 (by decide)

/-- All that is bound further is determined. -/
private theorem repeated_furtherText_inj {more more' x x' : List Char}
    (h : Repeated FurtherText more) (h' : Repeated FurtherText more') (hx : BeforeFrom x)
    (hx' : BeforeFrom x') (heq : more ++ x = more' ++ x') : more = more' ∧ x = x' := by
  obtain ⟨vs, hvs, rfl⟩ := h
  induction vs generalizing more' with
  | nil =>
    rcases h'.eq_nil_or_cons with rfl | ⟨v, more', hv, -, rfl⟩
    · exact ⟨rfl, heq⟩
    · rw [List.append_assoc] at heq
      exact absurd heq.symm (hx.ne_furtherText hv)
  | cons v vs ih =>
    rw [List.forall_mem_cons] at hvs
    rw [List.flatten_cons, List.append_assoc] at heq
    rcases h'.eq_nil_or_cons with rfl | ⟨v', ws, hv', hws, rfl⟩
    · exact absurd heq (hx'.ne_furtherText hvs.1)
    · rw [List.append_assoc] at heq
      obtain ⟨rfl, hrest⟩ := hvs.1.inj hv' (hx.head?_append ⟨vs, hvs.2, rfl⟩)
        (hx'.head?_append hws) heq
      obtain ⟨rfl, rfl⟩ := ih hws hvs.2 hrest
      exact ⟨rfl, rfl⟩

/-- A clause in front of a quotation is determined. -/
private theorem ClauseText.inj {clause clause' x x' : List Char} {q q' : Char}
    (h : ClauseText clause) (h' : ClauseText clause') (hq : isQuote q = true)
    (hq' : isQuote q' = true) (heq : clause ++ q :: x = clause' ++ q' :: x') :
    clause = clause' := by
  obtain ⟨b, more, w, w₁, rfl, hb, hmore, hw, hw₁⟩ := h
  obtain ⟨b', more', u, u₁, rfl, hb', hmore', hu, hu₁⟩ := h'
  have hfrom {w : List Char} (hw : SomeBlanks w) (x : List Char) :
      BeforeFrom (w ++ ("from".toList ++ x)) := ⟨w, _, rfl, hw⟩
  have hmark {q : Char} (hq : isQuote q = true) (x : List Char) :
      (q :: x).head?.all (!isBlank ·) = true := by simp [isBlank_of_isQuote hq]
  have hf : isBlank 'f' = false := by decide
  simp only [List.append_assoc] at heq
  obtain ⟨rfl, hfurther⟩ := hb.inj hb' ((hfrom hw _).head?_append hmore)
    ((hfrom hu _).head?_append hmore') heq
  obtain ⟨rfl, hblanks⟩ := repeated_furtherText_inj hmore hmore' (hfrom hw _) (hfrom hu _) hfurther
  obtain ⟨rfl, hword⟩ := append_inj_of_stop hw.2 hu.2 (by simp [hf]) (by simp [hf]) hblanks
  obtain ⟨rfl, -⟩ := append_inj_of_stop hw₁.2 hu₁.2 (hmark hq x) (hmark hq' x')
    (List.append_cancel_left hword)
  rfl

/-- A clause starts neither with a blank nor with a quotation mark. -/
private theorem ClauseText.head? {clause : List Char} (h : ClauseText clause) :
    ∃ c cs, clause = c :: cs ∧ isBlank c = false ∧ isQuote c = false := by
  obtain ⟨b, more, w, w', rfl, hb, -⟩ := h
  obtain ⟨c, cs, rfl, hc⟩ := hb.head?
  exact ⟨c, _, rfl, hc⟩

/-- So the mark that stands behind no clause starts none. -/
private theorem ClauseText.append_ne_cons {clause x y : List Char} {q : Char}
    (h : ClauseText clause) (hq : isQuote q = true) : clause ++ y ≠ q :: x := by
  obtain ⟨c, cs, rfl, -, hc⟩ := h.head?
  intro heq
  rw [← (List.cons.inj heq).1, hc] at hq
  exact Bool.false_ne_true hq

/-- The opening of a statement is determined. -/
private theorem determined_statementOpening : Determined StatementOpening := by
  rintro _ _ x x' q q' ⟨w, clause, rfl, hw, hclause⟩ ⟨u, clause', rfl, hu, hclause'⟩ hq hq' heq
  have hstop {clause x : List Char} {q : Char} (hq : isQuote q = true)
      (h : ClauseText clause ∨ clause = []) :
      (clause ++ q :: x).head?.all (!isBlank ·) = true := by
    rcases h with h | rfl
    · obtain ⟨c, cs, rfl, hc, -⟩ := h.head?
      simp [hc]
    · simp [isBlank_of_isQuote hq]
  simp only [List.append_assoc] at heq
  obtain ⟨rfl, hclauses⟩ := append_inj_of_stop hw.2 hu.2 (hstop hq hclause) (hstop hq' hclause')
    (List.append_cancel_left heq)
  rcases hclause with h | rfl <;> rcases hclause' with h' | rfl
  · rw [h.inj h' hq hq' hclauses]
  · exact absurd hclauses (h.append_ne_cons hq')
  · exact absurd hclauses.symm (h'.append_ne_cons hq)
  · rfl

/-- A statement ends where it can. -/
theorem StatementText.inj {source source' cs cs' rest rest' : List Char}
    (h : StatementText source cs) (h' : StatementText source' cs')
    (heq : cs ++ rest = cs' ++ rest') : cs = cs' := Quotes.inj determined_statementOpening h h' heq

/-- The form of import statements tells their specifiers. -/
theorem tells_staticImport : Tells staticImport (fun _ ↦ True) StatementText :=
  tells_quotes spells_statementOpening .concat_nil determined_statementOpening

/-! ### What is bound last -/

/-- The end of what is bound: the brace of several names, or a word behind another sign. -/
def BoundLast (front name : List Char) : Prop :=
  name = ['\x7d'] ∨ WordText name ∧ front.getLast?.any (!isPart ·) = true

/-- Behind some blanks a word can start. -/
private theorem SomeBlanks.any_getLast?_append {w : List Char} (h : SomeBlanks w) (u : List Char) :
    (u ++ w).getLast?.any (!isPart ·) = true := by
  obtain ⟨w, c, rfl⟩ := (List.eq_nil_or_concat' w).resolve_left h.1
  rw [← List.append_assoc, List.getLast?_concat, Option.any_some,
    isPart_of_isBlank (h.2 c (by simp))]
  rfl

private theorem any_getLast?_append_blanks {u w : List Char}
    (hu : u.getLast?.any (!isPart ·) = true) (hw : Blanks w) :
    (u ++ w).getLast?.any (!isPart ·) = true := by
  by_cases hnil : w = []
  · rwa [hnil, List.append_nil]
  · exact SomeBlanks.any_getLast?_append ⟨hnil, hw⟩ u

private theorem BindingText.exists_boundLast {u b : List Char} (h : BindingText b)
    (hu : u.getLast?.any (!isPart ·) = true) :
    ∃ front name, u ++ b = front ++ name ∧ BoundLast front name := by
  cases h with
  | @names names => exact ⟨u ++ '\x7b' :: names, _, by simp, .inl rfl⟩
  | @all w w' name _ hw' hname =>
    have hlast := hw'.any_getLast?_append (u ++ '*' :: (w ++ "as".toList))
    exact ⟨_, name, by simp, .inr ⟨hname, hlast⟩⟩
  | word hname => exact ⟨u, b, rfl, .inr ⟨hname, hu⟩⟩

private theorem exists_boundLast_of_repeated {u b more : List Char} (hb : BindingText b)
    (hmore : Repeated FurtherText more) (hu : u.getLast?.any (!isPart ·) = true) :
    ∃ front name, u ++ (b ++ more) = front ++ name ∧ BoundLast front name := by
  obtain ⟨vs, hvs, rfl⟩ := hmore
  rcases List.eq_nil_or_concat' vs with rfl | ⟨vs, v, rfl⟩
  · simpa using hb.exists_boundLast hu
  · obtain ⟨w, w', binding, rfl, -, hw', hbinding⟩ := hvs v (by simp)
    have hcomma : isPart ',' = false := by decide +kernel
    obtain ⟨front, name, hsplit, hlast⟩ := hbinding.exists_boundLast
      (any_getLast?_append_blanks (u := u ++ (b ++ (vs.flatten ++ (w ++ [','])))) (by
        simp [hcomma]) hw')
    exact ⟨front, name, by simpa using hsplit, hlast⟩

/-- An opening binds nothing, or it goes on from what it binds last with the word for where that
comes from. -/
theorem StatementOpening.exists_boundLast {o : List Char} (h : StatementOpening o) :
    (∃ w, o = "import".toList ++ w ∧ SomeBlanks w) ∨
      ∃ front name w w', o = front ++ (name ++ (w ++ ("from".toList ++ w'))) ∧
        BoundLast front name ∧ SomeBlanks w ∧ SomeBlanks w' := by
  obtain ⟨w, clause, rfl, hw, ⟨b, more, w₁, w₂, rfl, hb, hmore, hw₁, hw₂⟩ | rfl⟩ := h
  · obtain ⟨front, name, hsplit, hlast⟩ :=
      exists_boundLast_of_repeated hb hmore (hw.any_getLast?_append "import".toList)
    refine .inr ⟨front, name, w₁, w₂, ?_, hlast, hw₁, hw₂⟩
    simp only [← List.append_assoc] at hsplit ⊢
    rw [hsplit]
  · exact .inl ⟨w, by simp, hw⟩

/-! ### Calls -/

/-- A call up to its specifier. -/
def CallOpening (cs : List Char) : Prop :=
  ∃ w w', cs = "import".toList ++ (w ++ '(' :: w') ∧ Blanks w ∧ Blanks w'

/-- The end of a call, behind its specifier. -/
def CallClose (cs : List Char) : Prop := ∃ w, cs = w ++ [')'] ∧ Blanks w

/-- A call for an import and its specifier. -/
def CallText : List Char → List Char → Prop := Quotes CallOpening CallClose

/-- No quotation mark stands in the opening of a call. -/
theorem CallOpening.unquoted {o : List Char} (h : CallOpening o) : Unquoted o := by
  obtain ⟨w, w', rfl, hw, hw'⟩ := h
  refine unquoted_append.mpr ⟨by decide, unquoted_append.mpr ⟨unquoted_of_blanks hw, ?_⟩⟩
  exact List.forall_mem_cons.mpr ⟨by decide, unquoted_of_blanks hw'⟩

/-- The form of calls for imports tells their specifiers. -/
theorem tells_dynamicImport : Tells dynamicImport (fun _ ↦ True) CallText := by
  have hopening := (spells_letters "import").concat_append (spells_blanks.concat_cons
    ((spells_single '(').concat_cons (spells_blanks.concat_cons .concat_nil)))
  have hclose := spells_blanks.concat_cons ((spells_single ')').concat_cons .concat_nil)
  refine tells_quotes (hopening.congr fun cs ↦ ⟨?_, ?_⟩) (hclose.congr fun cs ↦ ⟨?_, ?_⟩) ?_
  · rintro ⟨_, _, rfl, rfl, w, _, rfl, hw, _, _, rfl, rfl, w', _, rfl, hw', rfl⟩
    exact ⟨w, w', by simp, hw, hw'⟩
  · rintro ⟨w, w', rfl, hw, hw'⟩
    exact ⟨_, _, rfl, rfl, w, _, rfl, hw, ['('], _, rfl, rfl, w', [], by simp, hw', rfl⟩
  · rintro ⟨w, _, rfl, hw, _, _, rfl, rfl, rfl⟩
    exact ⟨w, by simp, hw⟩
  · rintro ⟨w, rfl, hw⟩
    exact ⟨w, _, rfl, hw, [')'], [], by simp, rfl, rfl⟩
  · intro o o' x x' q q' ho ho' hq hq' heq
    exact (firstQuote_inj ho.unquoted ho'.unquoted hq hq' heq).1

/-! ### What a block imports -/

/-- The specifiers that a block imports are those that a scan finds somewhere, for statements or for
calls. -/
theorem mem_existingImports_iff {block specifier : String} :
    specifier ∈ existingImports block ↔ ∃ place, FindsAt staticImport block place specifier ∨
      FindsAt dynamicImport block place specifier := by
  have hscan {form : Node} : specifier ∈ (form.scan block.toList).filterMap (·.group? 1) ↔
      ∃ place, FindsAt form block place specifier := by
    rw [List.mem_filterMap]
    constructor
    · rintro ⟨found, hfound, hgroup⟩
      exact ⟨_, found, hfound, rfl, hgroup⟩
    · rintro ⟨_, found, hfound, -, hgroup⟩
      exact ⟨found, hfound, hgroup⟩
  rw [existingImports, mem_foldl_addNew, List.mem_append, hscan, hscan, exists_or]
  exact or_iff_right List.not_mem_nil

/-- An import of a default is a statement. -/
theorem statementText_default {name specifier : List Char} (hname : WordText name)
    (hspecifier : SpecifierText specifier) : StatementText specifier
      ("import ".toList ++ (name ++ (" from ".toList ++ '"' :: (specifier ++ ['"'])))) := by
  refine ⟨_, '"', '"', [], ?_, ⟨[' '], _, rfl, someBlanks_space, .inl ⟨name, [], [' '], [' '], rfl,
    .word hname, repeated_nil, someBlanks_space, someBlanks_space⟩⟩, rfl, hspecifier, rfl, rfl⟩
  simp

end ModuleScript.Analysis
