import ModuleScript.Proofs.Stimulus.Processed

/-!
# Imports of names from the package

A line that imports names from the package has them in braces; the line determines them and the
blanks around the braces. The filter knows such a line as an import only if there are blanks
before the braces, behind them and before the package, and no semicolon or quotation mark within
the braces. It drops the line exactly then.
-/

namespace ModuleScript.Stimulus

open Pattern Pattern.Node Text Script

/-- An import of names from the package: the blanks before the braces, what is in the braces, the
blanks behind them, and the blanks before the package. -/
structure CoreImport where
  before : List Char
  names : List Char
  behind : List Char
  gap : List Char

namespace CoreImport

/-- What stands between the word for an import and the package. -/
def middle (i : CoreImport) : List Char :=
  i.before ++ '\x7b' :: (i.names ++ '\x7d' :: (i.behind ++ ("from".toList ++ i.gap)))

/-- The text of an import of names from the package. -/
def Text (i : CoreImport) (cs : List Char) : Prop :=
  ∃ q q', cs = "import".toList ++ (i.middle ++ q :: (coreModule.toList ++ [q'])) ∧
    Blanks i.before ∧ '\x7d' ∉ i.names ∧ Blanks i.behind ∧ Blanks i.gap ∧
    isQuote q = true ∧ isQuote q' = true

/-- There is a blank in all three places, and nothing in the braces ends an import early. -/
def Spaced (i : CoreImport) : Prop :=
  i.before ≠ [] ∧ i.behind ≠ [] ∧ i.gap ≠ [] ∧ ∀ c ∈ i.names, c ≠ ';' ∧ isQuote c = false

instance (i : CoreImport) : Decidable i.Spaced :=
  inferInstanceAs (Decidable (_ ∧ _ ∧ _ ∧ FreeClause i.names))

/-- The package is a specifier. -/
theorem specifierText_coreModule : SpecifierText coreModule.toList := by decide

/-- Such an import starts with a letter and ends with a quotation mark. -/
theorem tight (i : CoreImport) : Tight i.Text where
  first := by
    rintro x ⟨q, q', rfl, -⟩
    exact ⟨'i', _, rfl, by decide⟩
  last := by
    rintro x ⟨q, q', rfl, -, -, -, -, -, hq'⟩
    exact ⟨"import".toList ++ (i.middle ++ q :: coreModule.toList), q', by simp,
      isBlank_of_isQuote hq'⟩

variable {i j : CoreImport} {line : List Char}

/-- Behind the word for an import stand blanks and a brace. -/
theorem exists_behind_import (h : OnLine i.Text line) :
    ∃ w rest, line = w ++ ("import".toList ++ (i.before ++ '\x7b' :: rest)) ∧ Blanks w ∧
      Blanks i.before := by
  obtain ⟨w, _, t, rfl, hw, ⟨q, q', rfl, hbefore, -⟩, -⟩ := h
  exact ⟨w, i.names ++ '\x7d' :: (i.behind ++ ("from".toList ++ i.gap)) ++
    q :: (coreModule.toList ++ q' :: t), by simp [middle], hw, hbefore⟩

/-- The line determines its import. -/
theorem unique (hi : OnLine i.Text line) (hj : OnLine j.Text line) : i = j := by
  obtain ⟨w, _, t, hline, hw, ⟨q, _, rfl, hbefore, hnames, hbehind, hgap, hq, -⟩, -⟩ := hi
  obtain ⟨v, _, u, hline', hv, ⟨r, _, rfl, hbefore', hnames', hbehind', hgap', hr, -⟩, -⟩ := hj
  have heq := hline.symm.trans hline'
  simp only [middle, List.append_assoc, List.cons_append] at heq
  have hi : isBlank 'i' = false := by decide
  have hf : isBlank 'f' = false := by decide
  have hbrace : isBlank '\x7b' = false := by decide
  have hclose {i : CoreImport} (h : '\x7d' ∉ i.names) : ∀ c ∈ i.names, (c != '\x7d') = true :=
    fun c hc ↦ by simpa using ne_of_mem_of_not_mem hc h
  obtain ⟨-, heq⟩ := append_inj_of_stop hw hv (by simp [hi]) (by simp [hi]) heq
  obtain ⟨hb, heq⟩ := append_inj_of_stop hbefore hbefore' (by simp [hbrace]) (by simp [hbrace])
    (List.append_cancel_left heq)
  obtain ⟨hn, heq⟩ := append_inj_of_stop (hclose hnames) (hclose hnames') (by simp) (by simp)
    (List.cons.inj heq).2
  obtain ⟨he, heq⟩ := append_inj_of_stop hbehind hbehind' (by simp [hf]) (by simp [hf])
    (List.cons.inj heq).2
  obtain ⟨hg, -⟩ := append_inj_of_stop hgap hgap' (by simp [isBlank_of_isQuote hq])
    (by simp [isBlank_of_isQuote hr]) (List.append_cancel_left heq)
  cases i
  cases j
  simp_all

/-! ### The form of these lines -/

/-- The pattern of the braces. -/
def braces : List Node :=
  [char (.single '\x7b'), group 1 (star (char (.noneOf ['\x7d']))), char (.single '\x7d')]

theorem coreImportLine_eq : coreImportLine = concat ([blanks] ++ (letters "import" ++ ([blanks] ++
    (braces ++ ([blanks] ++ (letters "from" ++ ([blanks, Analysis.quoteMark] ++
      (letters coreModule ++ ([Analysis.quoteMark] ++ lineEnd))))))))) := by
  simp only [coreImportLine, braces, List.append_assoc, List.cons_append, List.nil_append]

variable {s s' : State}

private theorem mem_ends_braces : s' ∈ (concat braces).ends s ↔
    ∃ names rest, s.rest = '\x7b' :: (names ++ '\x7d' :: rest) ∧ '\x7d' ∉ names ∧
      s' = s.after ('\x7b' :: (names ++ ['\x7d'])) rest
        [(1, ⟨names ++ '\x7d' :: rest, names.length⟩)] := by
  simp only [braces, mem_ends_concat_cons, mem_ends_concat_nil, mem_ends_group, mem_ends_char,
    mem_ends_star, contains_single, contains_noneOf, List.mem_singleton]
  constructor
  · rintro ⟨_, ⟨_, r, hs, rfl, rfl⟩, _, ⟨_, ⟨names, r', hr, hnames, rfl⟩, rfl⟩, _,
      ⟨_, rest, hr', rfl, rfl⟩, rfl⟩
    simp only [State.rest_after, State.capture_after] at hr hr'
    subst hr hr'
    refine ⟨names, rest, hs, fun hmem ↦ hnames _ hmem rfl, ?_⟩
    rw [State.capture_after]
    simp
  · rintro ⟨names, rest, hs, hnames, rfl⟩
    refine ⟨_, ⟨_, _, hs, rfl, rfl⟩, _, ⟨_, ⟨names, '\x7d' :: rest, rfl, ?_, rfl⟩, rfl⟩, _,
      ⟨_, rest, rfl, rfl, rfl⟩, ?_⟩
    · rintro c hc rfl
      exact hnames hc
    · rw [State.capture_after]
      simp

private theorem of_mem_ends_coreImportLine (h : s ∈ coreImportLine.ends (.start line))
    (hnil : s.rest = []) :
    ∃ i : CoreImport, OnLine i.Text line ∧ s.group? 1 = some (String.ofList i.names) := by
  rw [coreImportLine_eq] at h
  simp only [mem_ends_concat_append, mem_ends_concat_cons, mem_ends_concat_nil, mem_ends_blanks,
    mem_ends_letters, mem_ends_braces, mem_ends_quoteMark] at h
  obtain ⟨_, ⟨_, ⟨w, r₀, hline, hw, rfl⟩, rfl⟩, _, ⟨r₁, hr₁, rfl⟩, _,
    ⟨_, ⟨before, r₂, hr₂, hbefore, rfl⟩, rfl⟩, _, ⟨names, r₃, hr₃, hnames, rfl⟩, _,
    ⟨_, ⟨behind, r₄, hr₄, hbehind, rfl⟩, rfl⟩, _, ⟨r₅, hr₅, rfl⟩, _,
    ⟨_, ⟨gap, r₆, hr₆, hgap, rfl⟩, _, ⟨q, r₇, hr₇, hq, rfl⟩, rfl⟩, _, ⟨r₈, hr₈, rfl⟩, _,
    ⟨_, ⟨q', t, hr₉, hq', rfl⟩, rfl⟩, hend⟩ := h
  obtain ⟨ht, rfl⟩ := mem_ends_lineEnd.mp ⟨hend, hnil⟩
  clear hend
  simp only [State.rest_after, State.rest_start] at hline hr₁ hr₂ hr₃ hr₄ hr₅ hr₆ hr₇ hr₈ hr₉ ht
  subst hr₁ hr₂ hr₃ hr₄ hr₅ hr₆ hr₇ hr₈ hr₉
  refine ⟨⟨before, names, behind, gap⟩, ⟨w, _, t, ?_, hw, ⟨q, q', rfl, hbefore, hnames, hbehind,
    hgap, hq, hq'⟩, ht⟩, ?_⟩
  · rw [hline]
    simp [middle]
  · simp [State.group?, Span.text_append]

private theorem exists_mem_ends_coreImportLine (h : OnLine i.Text line) :
    ∃ s ∈ coreImportLine.ends (.start line), s.rest = [] := by
  obtain ⟨w, _, t, hline, hw, ⟨q, q', rfl, hbefore, hnames, hbehind, hgap, hq, hq'⟩, ht⟩ := h
  simp only [middle, List.append_assoc, List.cons_append, List.nil_append] at hline
  rw [coreImportLine_eq]
  simp only [mem_ends_concat_append, mem_ends_concat_cons, mem_ends_concat_nil, mem_ends_blanks,
    mem_ends_letters, mem_ends_braces, mem_ends_quoteMark]
  exact ⟨_, ⟨_, ⟨_, ⟨w, _, hline, hw, rfl⟩, rfl⟩, _, ⟨_, rfl, rfl⟩, _,
    ⟨_, ⟨i.before, _, rfl, hbefore, rfl⟩, rfl⟩, _, ⟨i.names, _, rfl, hnames, rfl⟩, _,
    ⟨_, ⟨i.behind, _, rfl, hbehind, rfl⟩, rfl⟩, _, ⟨_, rfl, rfl⟩, _,
    ⟨_, ⟨i.gap, _, rfl, hgap, rfl⟩, _, ⟨q, _, rfl, hq, rfl⟩, rfl⟩, _, ⟨_, rfl, rfl⟩, _,
    ⟨_, ⟨q', t, rfl, hq', rfl⟩, rfl⟩, (mem_ends_lineEnd.mpr ⟨ht, rfl⟩).1⟩, rfl⟩

/-- The form fits a line exactly if names from the package are imported on it. -/
theorem isSome_coreImportLine_iff {line : String} :
    (matchLine? coreImportLine line).isSome = true ↔
      ∃ i : CoreImport, OnLine i.Text line.toList := by
  rw [isSome_matchLine?_iff]
  constructor
  · rintro ⟨s, hs, hnil⟩
    obtain ⟨i, hi, -⟩ := of_mem_ends_coreImportLine hs hnil
    exact ⟨i, hi⟩
  · rintro ⟨i, hi⟩
    exact exists_mem_ends_coreImportLine hi

/-- It keeps what is in the braces. -/
theorem bracedNames_eq_some_iff {line names : String} :
    (matchLine? coreImportLine line).bind (·.group? 1) = some names ↔
      ∃ i : CoreImport, OnLine i.Text line.toList ∧ names = String.ofList i.names := by
  have hkept {m : Pattern.Match} (hm : matchLine? coreImportLine line = some m) :
      ∃ i : CoreImport, OnLine i.Text line.toList ∧
        m.group? 1 = some (String.ofList i.names) := by
    obtain ⟨hstop, hnil⟩ := mem_ends_of_matchLine? hm
    exact of_mem_ends_coreImportLine hstop hnil
  constructor
  · intro h
    obtain ⟨m, hm, hnames⟩ := Option.bind_eq_some_iff.mp h
    obtain ⟨i, hi, hgroup⟩ := hkept hm
    exact ⟨i, hi, Option.some.inj (hnames.symm.trans hgroup)⟩
  · rintro ⟨i, hi, rfl⟩
    obtain ⟨m, hm⟩ := Option.isSome_iff_exists.mp (isSome_coreImportLine_iff.mpr ⟨i, hi⟩)
    obtain ⟨j, hj, hgroup⟩ := hkept hm
    rw [hm, Option.bind_some, hgroup, unique hi hj]

/-! ### Which of these lines are known as imports -/

/-- What stands in front of the package within an import is determined, however it is read. -/
private theorem middle_eq {clause source : List Char} (hi : OnLine i.Text line)
    (h : OnLine (ImportText clause source) line) :
    ∃ w₁ w₂ w₃, i.middle = w₁ ++ (clause ++ (w₂ ++ ("from".toList ++ w₃))) ∧
      (w₁ ≠ [] ∧ Blanks w₁) ∧ (w₂ ≠ [] ∧ Blanks w₂) ∧ (w₃ ≠ [] ∧ Blanks w₃) ∧
      source = coreModule.toList := by
  obtain ⟨w, _, t, hline, hw, ⟨q, q', rfl, -, -, -, -, hq, hq'⟩, ht⟩ := hi
  obtain ⟨v, _, u, hline', hv, ⟨w₁, w₂, w₃, r, r', rfl, hw₁, hw₂, hw₃, hr, hsource, hr'⟩, hu⟩ := h
  have heq := hline.symm.trans hline'
  simp only [List.append_assoc, List.cons_append, List.nil_append] at heq
  have hfirst : isBlank 'i' = false := by decide
  obtain ⟨-, hbehind⟩ := append_inj_of_stop hw hv (by simp [hfirst]) (by simp [hfirst]) heq
  have hrest := List.append_cancel_left hbehind
  -- the package stands between the last two quotation marks
  have hlast : (i.middle ++ q :: coreModule.toList) ++ q' :: t =
      (w₁ ++ (clause ++ (w₂ ++ ("from".toList ++ w₃))) ++ r :: source) ++ r' :: u := by
    simpa using hrest
  obtain ⟨hstart, -⟩ := lastQuote_inj hq' hr' ht.isQuote_eq_false hu.isQuote_eq_false hlast
  obtain ⟨hmiddle, hmodule⟩ := lastQuote_inj hq hr specifierText_coreModule.2 hsource.2 hstart
  exact ⟨w₁, w₂, w₃, hmiddle, hw₁, hw₂, hw₃, hmodule.symm⟩

/-- Only a spaced import is read as one, and then from the package. -/
theorem of_importText {clause source : List Char} (hi : OnLine i.Text line)
    (hclause : FreeClause clause) (h : OnLine (ImportText clause source) line) :
    i.Spaced ∧ source = coreModule.toList := by
  obtain ⟨w₁, w₂, w₃, hmiddle, ⟨hne₁, hw₁⟩, ⟨hne₂, hw₂⟩, ⟨hne₃, hw₃⟩, hsource⟩ := middle_eq hi h
  obtain ⟨_, _, _, -, -, ⟨_, _, -, -, -, -, hgap, -⟩, -⟩ := hi
  -- from the second word on backwards, the blanks are the same ones
  have hback : (i.before ++ '\x7b' :: (i.names ++ '\x7d' :: i.behind)) ++ "from".toList ++ i.gap =
      (w₁ ++ (clause ++ w₂)) ++ "from".toList ++ w₃ := by
    simpa [middle] using hmiddle
  have hlast (x : List Char) : (x ++ "from".toList).getLast?.all (!isBlank ·) = true := by
    have hm : "from".toList.getLast? = some 'm' ∧ isBlank 'm' = false := by decide
    simp [List.getLast?_append, hm]
  obtain ⟨hfront, rfl⟩ := append_inj_of_stop_left hgap hw₃ (hlast _) (hlast _) hback
  have hbraces := List.append_cancel_right hfront
  refine ⟨⟨fun hbefore ↦ ?_, fun hbehind ↦ ?_, hne₃, fun c hc ↦ ?_⟩, hsource⟩
  · obtain ⟨c, v, rfl⟩ := List.exists_cons_of_ne_nil hne₁
    have hc := hw₁ c List.mem_cons_self
    rw [hbefore] at hbraces
    rw [← (List.cons.inj hbraces).1] at hc
    exact absurd hc (by decide)
  · obtain ⟨v, c, rfl⟩ := List.eq_nil_or_concat w₂ |>.resolve_left hne₂
    have hc := hw₂ c (by simp)
    have hends : (i.before ++ '\x7b' :: i.names) ++ ['\x7d'] = (w₁ ++ (clause ++ v)) ++ [c] := by
      simpa [hbehind] using hbraces
    rw [← List.singleton_inj.mp (List.append_inj' hends rfl).2] at hc
    exact absurd hc (by decide)
  · have hplain {w : List Char} (hw : Blanks w) (hmem : c ∈ w) : c ≠ ';' ∧ isQuote c = false := by
      have hblank := hw c hmem
      refine ⟨?_, isQuote_of_isBlank hblank⟩
      rintro rfl
      exact absurd hblank (by decide)
    have hmem : c ∈ w₁ ++ (clause ++ w₂) := by
      rw [← hbraces]
      simp [hc]
    rcases List.mem_append.mp hmem with hmem | hmem
    · exact hplain hw₁ hmem
    · rcases List.mem_append.mp hmem with hmem | hmem
      · exact hclause c hmem
      · exact hplain hw₂ hmem

/-- With blanks in all three places, the braces are the clause of an import from the package. -/
theorem onLine_importText (hi : OnLine i.Text line) (hbefore : i.before ≠ [])
    (hbehind : i.behind ≠ []) (hgap : i.gap ≠ []) :
    OnLine (ImportText ('\x7b' :: (i.names ++ ['\x7d'])) coreModule.toList) line := by
  obtain ⟨w, _, t, hline, hw, ⟨q, q', rfl, hblanks₁, -, hblanks₂, hblanks₃, hq, hq'⟩, ht⟩ := hi
  refine ⟨w, _, t, hline, hw, ⟨i.before, i.behind, i.gap, q, q', ?_, ⟨hbefore, hblanks₁⟩,
    ⟨hbehind, hblanks₂⟩, ⟨hgap, hblanks₃⟩, hq, specifierText_coreModule, hq'⟩, ht⟩
  simp [middle]

/-- A spaced import is one from the package. -/
theorem Spaced.imports {line : String} (h : i.Spaced) (hi : OnLine i.Text line.toList) :
    Imports line.toList none coreModule.toList := by
  refine ⟨?_, fun binding clause source hclause himport ↦ not_imports_of_coreImport
    (isSome_coreImportLine_iff.mpr ⟨i, hi⟩) ⟨clause, hclause, himport⟩⟩
  obtain ⟨hne₁, hne₂, hne₃, hplain⟩ := h
  refine ⟨'\x7b' :: (i.names ++ ['\x7d']), ?_, onLine_importText hi hne₁ hne₂ hne₃⟩
  intro c hc
  rcases List.mem_cons.mp hc with rfl | hc
  · decide
  · rcases List.mem_append.mp hc with hc | hc
    · exact hplain c hc
    · rw [List.mem_singleton.mp hc]
      decide

/-- The import that is read off the line of an import of names from the package. -/
theorem spaced_of_imports {line : String} {binding : Option (List Char)} {source : List Char}
    (hi : OnLine i.Text line.toList) (h : Imports line.toList binding source) : i.Spaced := by
  cases binding with
  | some binding =>
    exact absurd h (not_imports_of_coreImport (isSome_coreImportLine_iff.mpr ⟨i, hi⟩))
  | none =>
    obtain ⟨⟨clause, hclause, himport⟩, -⟩ := h
    exact (of_importText hi hclause himport).1

/-! ### Which of these lines are dropped -/

/-- On the line of an import, a brace comes before any full stop. -/
private theorem ne_of_plain {w : List Char} (hi : OnLine i.Text line) (hw : Plain w)
    (rest : List Char) : line ≠ w ++ '.' :: rest := by
  intro hdot
  obtain ⟨v, rest', hbrace, hv, hbefore⟩ := exists_behind_import hi
  have himport : Plain "import".toList := by decide
  have heq : (v ++ ("import".toList ++ i.before)) ++ '\x7b' :: rest' = w ++ '.' :: rest := by
    rw [← hdot, hbrace]
    simp
  obtain ⟨-, hstop⟩ := append_inj_of_stop
    ((plain_of_blanks hv).append (himport.append (plain_of_blanks hbefore))) hw (by simp) (by simp)
    heq
  exact absurd (List.cons.inj hstop).1 (by decide)

variable {a : Application} {line : String}

/-- It is no import without bindings. -/
private theorem sideEffectLine_eq_none (hi : OnLine i.Text line.toList) :
    matchLine? sideEffectLine line = none := by
  rw [← Option.not_isSome_iff_eq_none]
  intro h
  obtain ⟨_, w, _, t, hline, hw, ⟨v, q, _, rfl, ⟨-, hv⟩, hq, -⟩, -⟩ :=
    isSome_sideEffectLine_iff.mp h
  obtain ⟨w', rest', hline', hw', hbefore⟩ := exists_behind_import hi
  simp only [List.append_assoc, List.cons_append] at hline
  have hbrace : isBlank '\x7b' = false ∧ isQuote '\x7b' = false := by decide
  have heq := eq_behind_import hw hw' hv hbefore (by simp [isBlank_of_isQuote hq])
    (by simp [hbrace]) (hline.symm.trans hline')
  rw [(List.cons.inj heq).1, hbrace.2] at hq
  exact Bool.false_ne_true hq

/-- It starts no application. -/
private theorem bootstrapLine_eq_none {application : String}
    (happ : isIdentifier application = true) (hi : OnLine i.Text line.toList) :
    matchLine? (bootstrapLine application) line = none := by
  rw [← Option.not_isSome_iff_eq_none, isSome_bootstrapLine_iff]
  rintro ⟨w, _, t, hline, hw, ⟨subject, w₁, w₂, rfl, hsubject, -⟩, -⟩
  refine ne_of_plain hi ((plain_of_blanks hw).append (plain_of_startSubject happ hsubject))
    ("start".toList ++ (w₁ ++ '(' :: (w₂ ++ [')'])) ++ t) ?_
  rw [hline]
  simp

/-- It registers no controller. -/
private theorem registration_eq_none {application : String}
    (happ : isIdentifier application = true) (hi : OnLine i.Text line.toList) :
    matchLine? (registration application) (bareStatement line) = none := by
  rw [← Option.not_isSome_iff_eq_none]
  intro h
  obtain ⟨w, subject, rest, hline, hw, hsubject⟩ := exists_registration_subject h
  refine ne_of_plain hi ((plain_of_blanks hw).append (plain_of_registrationSubject happ hsubject))
    ("register".toList ++ rest) ?_
  rw [hline]
  simp

/-- The line of an import of names from the package is dropped exactly if it is spaced. -/
theorem handles_iff_spaced (happ : isIdentifier a.name = true) (hi : OnLine i.Text line.toList) :
    a.handles line = true ↔ i.Spaced := by
  constructor
  · intro h
    cases himport : matchLine? importLine line with
    | some m =>
      obtain ⟨binding, source, himports, -⟩ := imports_of_matchLine? himport
      exact spaced_of_imports hi himports
    | none =>
      rw [Application.handles, himport] at h
      simp only [sideEffectLine_eq_none hi, bootstrapLine_eq_none happ hi,
        registration_eq_none happ hi] at h
      exact absurd h (by decide)
  · intro h
    rw [a.handles_of_imports (h.imports hi), String.ofList_toList, if_pos rfl]
    exact isSome_coreImportLine_iff.mpr ⟨i, hi⟩

end CoreImport

end ModuleScript.Stimulus
