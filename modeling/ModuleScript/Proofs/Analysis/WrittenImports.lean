import ModuleScript.Proofs.Analysis.ImportText
import ModuleScript.Proofs.Script.Parts

/-!
# Reading written imports

Modules imported by name, one on a line, and what an analysis reads from these lines. Each quotation
mark stands in front of a name or behind one, so a statement can be read from the start of a line
only, and a call only from one line to the next. A dollar sign in what is bound keeps a statement
from being read.
-/

namespace ModuleScript.Analysis

open Pattern Pattern.Node Text Stimulus Script

/-! ### Lines of imports -/

/-- What stands in front of the quoted name where a module is imported by name. -/
def importLead (name : String) : List Char :=
  "import ".toList ++ if isBindingName name then name.toList ++ " from ".toList else []

/-- Imports by name, each on a line behind the last. -/
def importLines (names : List String) : List Char :=
  names.flatMap fun name ↦ '\n' :: (importLead name ++ '"' :: (name.toList ++ ['"', ';']))

theorem importLines_cons (name : String) (names : List String) :
    importLines (name :: names) =
      '\n' :: (importLead name ++ '"' :: (name.toList ++ '"' :: ';' :: importLines names)) := by
  simp [importLines]

theorem toList_importStatement_eq (name : String) :
    (importStatement name).toList = importLead name ++ '"' :: (name.toList ++ ['"', ';']) := by
  unfold importStatement importLead
  cases isBindingName name <;> simp [toString]

/-- The first line has no line feed in front. -/
theorem toList_joinLines_importStatement (name : String) (names : List String) :
    '\n' :: (joinLines ((name :: names).map importStatement)).toList =
      importLines (name :: names) := by
  rw [List.map_cons, joinLines, toList_joinWith_cons, importLines, List.flatMap_cons,
    List.flatMap_map, toList_importStatement_eq, List.cons_append]
  simp [toList_importStatement_eq]

/-- So a piece of the joined lines is one of the lines. -/
private theorem importLines_of_split {names : List String} {before cs rest : List Char}
    (h : (joinLines (names.map importStatement)).toList = before ++ (cs ++ rest)) (hcs : cs ≠ []) :
    importLines names = ('\n' :: before) ++ (cs ++ rest) := by
  cases names with
  | nil =>
    have hnil : cs ++ rest = [] := (List.append_eq_nil_iff.mp h.symm).2
    exact absurd (List.append_eq_nil_iff.mp hnil).1 hcs
  | cons x names => rw [← toList_joinLines_importStatement, h, List.cons_append]

variable {name : String} {names : List String}

theorem unquoted_importLead (h : Unquoted name.toList) : Unquoted (importLead name) := by
  unfold importLead
  refine unquoted_append.mpr ⟨by decide, ?_⟩
  cases isBindingName name with
  | true => exact unquoted_append.mpr ⟨h, by decide⟩
  | false => exact List.forall_mem_nil _

/-- A quotation mark is the first one or stands behind it. -/
private theorem cases_of_firstQuote {p r u v : List Char} {q : Char} (hp : Unquoted p)
    (hq : isQuote q = true) (h : p ++ '"' :: r = u ++ q :: v) :
    (u = p ∧ v = r) ∨ ∃ w, u = p ++ '"' :: w ∧ r = w ++ q :: v := by
  rcases List.append_eq_append_iff.mp h with ⟨a, rfl, ha⟩ | ⟨a, rfl, ha⟩
  · rcases List.cons_eq_append_iff.mp ha with ⟨rfl, hv⟩ | ⟨w, rfl, hr⟩
    · exact .inl ⟨by simp, (List.cons.inj hv).2⟩
    · exact .inr ⟨w, rfl, hr⟩
  · rcases List.cons_eq_append_iff.mp ha with ⟨rfl, hv⟩ | ⟨w, rfl, -⟩
    · exact .inl ⟨by simp, ((List.cons.inj hv).2).symm⟩
    · exact absurd hq (by simp [hp q (by simp)])

/-- Every quotation mark stands in front of a name or behind one. -/
theorem cases_of_quote (hnames : ∀ x ∈ names, Unquoted x.toList) {u v : List Char} {q : Char}
    (hq : isQuote q = true) (h : importLines names = u ++ q :: v) :
    ∃ xs x ys, names = xs ++ x :: ys ∧
      ((u = importLines xs ++ '\n' :: importLead x ∧ v = x.toList ++ '"' :: ';' :: importLines ys) ∨
        (u = importLines xs ++ '\n' :: (importLead x ++ '"' :: x.toList) ∧
          v = ';' :: importLines ys)) := by
  induction names generalizing u with
  | nil => simp [importLines] at h
  | cons x names ih =>
    rw [List.forall_mem_cons] at hnames
    have hlead : Unquoted ('\n' :: importLead x) :=
      List.forall_mem_cons.mpr ⟨by decide, unquoted_importLead hnames.1⟩
    rw [importLines_cons, ← List.cons_append] at h
    rcases cases_of_firstQuote hlead hq h with ⟨rfl, rfl⟩ | ⟨w, rfl, hw⟩
    · exact ⟨[], x, names, rfl, .inl ⟨rfl, rfl⟩⟩
    rcases cases_of_firstQuote hnames.1 hq hw with ⟨rfl, rfl⟩ | ⟨w', rfl, hw'⟩
    · exact ⟨[], x, names, rfl, .inr ⟨rfl, rfl⟩⟩
    -- the mark is on a later line
    rcases List.cons_eq_append_iff.mp hw' with ⟨-, hmark⟩ | ⟨u, rfl, hu⟩
    · exact absurd hq ((List.cons.inj hmark).1 ▸ by decide)
    · obtain ⟨xs, y, ys, rfl, hcases⟩ := ih hnames.2 hu
      refine ⟨x :: xs, y, ys, rfl, hcases.imp ?_ ?_⟩
      all_goals
        rintro ⟨rfl, hv⟩
        exact ⟨by simp [importLines], hv⟩

/-! ### Statements on their lines -/

/-- What binds a name is an identifier, and maybe a line feed behind it. -/
private theorem exists_importLead_of_isBindingName (h : isBindingName name = true) :
    ∃ w t, name.toList = w ++ t ∧ IdentifierText w ∧ Blanks t ∧
      importLead name = "import ".toList ++ (w ++ ((t ++ [' ']) ++ ("from".toList ++ [' ']))) := by
  obtain ⟨w, t, hname, hw, ht⟩ := (isIdentifier_iff name).mp (isIdentifier_of_isBindingName h)
  refine ⟨w, t, hname, hw, by rcases ht with rfl | rfl <;> decide, ?_⟩
  unfold importLead
  rw [if_pos h, hname]
  simp

/-- Without a dollar sign in what is bound, a line starts with the opening of a statement. -/
theorem statementOpening_importLead (h : isBindingName name = true → '$' ∉ name.toList) :
    StatementOpening (importLead name) := by
  cases hbinding : isBindingName name with
  | false =>
    refine ⟨[' '], [], ?_, someBlanks_space, .inr rfl⟩
    unfold importLead
    rw [hbinding]
    rfl
  | true =>
    obtain ⟨w, t, hname, hw, ht, hlead⟩ := exists_importLead_of_isBindingName hbinding
    have hword : WordText w := by
      refine ⟨?_, fun c hc ↦ ?_⟩
      · obtain ⟨c, v, rfl, -⟩ := hw
        simp
      · have hdollar : c ≠ '$' := by
          rintro rfl
          exact h hbinding (hname ▸ List.mem_append_left t hc)
        simpa [isPart, hdollar] using hw.isPart hc
    have hgap : SomeBlanks (t ++ [' ']) := ⟨by simp, blanks_append.mpr ⟨ht, blanks_space⟩⟩
    exact ⟨[' '], _, hlead, someBlanks_space, .inl ⟨w, [], t ++ [' '], [' '], rfl, .word hword,
      repeated_nil, hgap, someBlanks_space⟩⟩

/-- Only at the word for an import does a statement start. -/
private theorem ends_staticImport_eq_nil {before rest : List Char} (h : rest.head? ≠ some 'i') :
    staticImport.ends (.between before rest) = [] := by
  rw [List.eq_nil_iff_forall_not_mem]
  intro t ht
  obtain ⟨-, source, cs, ⟨o, q, q', c, rfl, ⟨w, clause, rfl, -⟩, -⟩, hrest, -⟩ :=
    tells_staticImport.sound ht
  exact h (congrArg List.head? hrest)

/-- So a scan passes over a character that stands before it. -/
private theorem scanBehind_cons {before rest : List Char} {c : Char} (hc : c ≠ 'i') :
    staticImport.scanBehind before (c :: rest) =
      staticImport.scanBehind (before ++ [c]) rest := by
  refine scanBehind_of_ends_eq_nil tells_staticImport.reads before [c] rest fun u d v hsplit ↦ ?_
  rcases List.cons_eq_append_iff.mp hsplit with ⟨rfl, hd⟩ | ⟨w, rfl, hnil⟩
  · obtain ⟨rfl, -⟩ := List.cons.inj hd
    exact ends_staticImport_eq_nil (by simpa using hc)
  · exact absurd hnil (by simp)

/-- A line whose opening can be read has one match, which keeps the name. -/
private theorem captured_line (hopening : StatementOpening (importLead name))
    (hname : SpecifierText name.toList) (before rest : List Char) :
    ∃ before', (staticImport.scanBehind before
        (importLead name ++ '"' :: (name.toList ++ '"' :: ';' :: rest))).filterMap (·.group? 1) =
      name :: (staticImport.scanBehind before' rest).filterMap (·.group? 1) := by
  have htext : StatementText name.toList (importLead name ++ '"' :: (name.toList ++ ['"'])) :=
    ⟨importLead name, '"', '"', [], rfl, hopening, rfl, hname, rfl, rfl⟩
  have hline : importLead name ++ '"' :: (name.toList ++ '"' :: ';' :: rest) =
      (importLead name ++ '"' :: (name.toList ++ ['"'])) ++ ';' :: rest := by simp
  obtain ⟨m, read, more, hm, hgroup, hread, hsplit, hoffset⟩ :=
    tells_staticImport.exists_matchAt? before (';' :: rest) trivial htext
  obtain rfl := htext.inj hread hsplit
  rw [← List.length_append] at hoffset
  rw [hline, scanBehind_of_matchAt? tells_staticImport.reads hm hoffset,
    scanBehind_cons (by decide)]
  exact ⟨_, List.filterMap_cons_some hgroup⟩

/-- The names of lines whose openings can be read are captured, in order. -/
private theorem captured_importLines (hnames : ∀ x ∈ names, SpecifierText x.toList)
    (hopenings : ∀ x ∈ names, StatementOpening (importLead x)) (before : List Char) :
    (staticImport.scanBehind before (importLines names)).filterMap (·.group? 1) = names := by
  induction names generalizing before with
  | nil => rfl
  | cons x names ih =>
    rw [List.forall_mem_cons] at hnames hopenings
    obtain ⟨before', hcaptured⟩ :=
      captured_line hopenings.1 hnames.1 (before ++ ['\n']) (importLines names)
    rw [importLines_cons, scanBehind_cons (by decide), hcaptured, ih hnames.2 hopenings.2]

/-- Where no name has a dollar sign in what is bound, the statements of names are read back. -/
theorem captured_statements (hnames : ∀ x ∈ names, SpecifierText x.toList)
    (hdollar : ∀ x ∈ names, isBindingName x = true → '$' ∉ x.toList) :
    (staticImport.scan (joinLines (names.map importStatement)).toList).filterMap (·.group? 1) =
      names := by
  cases names with
  | nil => decide +kernel
  | cons x names =>
    have hopenings (y : String) (hy : y ∈ x :: names) := statementOpening_importLead (hdollar y hy)
    have htext := (List.cons.inj
      ((toList_joinLines_importStatement x names).trans (importLines_cons x names))).2
    rw [List.forall_mem_cons] at hnames hopenings
    obtain ⟨before', hcaptured⟩ := captured_line hopenings.1 hnames.1 [] (importLines names)
    rw [htext]
    exact hcaptured.trans (by rw [captured_importLines hnames.2 hopenings.2])

/-! ### Dollar signs -/

/-- What is bound last ends with no blank. -/
private theorem BoundLast.all_getLast?_append {front last : List Char} (h : BoundLast front last)
    (u : List Char) : (u ++ last).getLast?.all (!isBlank ·) = true := by
  rcases h with rfl | ⟨hword, -⟩
  · exact Text.all_getLast?_append (by simp) (List.forall_mem_singleton.mpr rfl)
  · exact Text.all_getLast?_append hword.1 fun c hc ↦
      isBlank_of_isPart (by simp [isPart, hword.2 c hc])

/-- An identifier with a dollar sign is not bound. -/
private theorem BoundLast.ne_of_dollar {front last before u x : List Char}
    (h : BoundLast front last) (hx : IdentifierText x) (hdollar : '$' ∈ x)
    (hu : u.getLast?.all (!isPart ·) = true) : before ++ (front ++ last) ≠ u ++ x := by
  have hbrace : isPart '\x7d' = false := by decide +kernel
  have hword : isWord '$' = false := by decide +kernel
  intro heq
  rw [← List.append_assoc] at heq
  rcases h with rfl | ⟨hlast, hfront⟩
  · -- the brace would belong to the identifier
    have hends := congrArg List.getLast? heq
    rw [List.getLast?_concat, List.getLast?_append,
      List.getLast?_eq_some_getLast (List.ne_nil_of_mem hdollar), Option.some_or] at hends
    have hpart := hx.isPart (List.getLast_mem (List.ne_nil_of_mem hdollar))
    rw [← Option.some.inj hends, hbrace] at hpart
    exact Bool.false_ne_true hpart
  · have hbefore : (before ++ front).getLast?.all (!isPart ·) = true := by
      rw [List.getLast?_append]
      cases hends : front.getLast? with
      | none => simp [hends] at hfront
      | some c => simpa [hends] using hfront
    obtain ⟨-, rfl⟩ := append_inj_of_stop_left
      (fun c hc ↦ by simp [isPart, hlast.2 c hc]) (fun c hc ↦ hx.isPart hc) hbefore hu heq
    exact Bool.false_ne_true (hword.symm.trans (hlast.2 _ hdollar))

/-- In front of the quoted name, what binds a name with a dollar sign ends with no opening. -/
private theorem not_statementOpening_of_dollar (hbinding : isBindingName name = true)
    (hdollar : '$' ∈ name.toList) (before u : List Char) {o : List Char} (ho : StatementOpening o) :
    before ++ o ≠ u ++ importLead name := by
  obtain ⟨x, t, hname, hx, ht, hlead⟩ := exists_importLead_of_isBindingName hbinding
  have hdollar : '$' ∈ x := by
    rcases List.mem_append.mp (hname ▸ hdollar) with h | h
    · exact h
    · exact absurd (ht _ h) (by decide)
  have himport (v : List Char) : (v ++ "import".toList).getLast? = some 't' := by simp
  have hfrom (v : List Char) : (v ++ "from".toList).getLast? = some 'm' := by simp
  have hend {c : Char} (hc : isBlank c = false) : (some c).all (!isBlank ·) = true := by simp [hc]
  intro heq
  rw [hlead] at heq
  simp only [← List.append_assoc] at heq
  -- word by word, from the last one on
  rcases ho.exists_boundLast with ⟨w, rfl, hw⟩ | ⟨front, last, w, w', rfl, hlast, hw, hw'⟩
  · rw [← List.append_assoc] at heq
    obtain ⟨hwords, -⟩ := append_inj_of_stop_left hw.2 blanks_space
      (himport _ ▸ hend (by decide)) (hfrom _ ▸ hend (by decide)) heq
    have hends := congrArg List.getLast? hwords
    rw [himport, hfrom] at hends
    exact absurd hends (by decide)
  · simp only [← List.append_assoc] at heq
    obtain ⟨hwords, -⟩ := append_inj_of_stop_left hw'.2 blanks_space
      (hfrom _ ▸ hend (by decide)) (hfrom _ ▸ hend (by decide)) heq
    have hblanks := List.append_cancel_right hwords
    rw [List.append_assoc _ t] at hblanks
    obtain ⟨hnames, -⟩ := append_inj_of_stop_left hw.2 (blanks_append.mpr ⟨ht, blanks_space⟩)
      (hlast.all_getLast?_append _) (Text.all_getLast?_append (List.ne_nil_of_mem hdollar)
        fun c hc ↦ isBlank_of_isPart (hx.isPart hc)) hblanks
    rw [List.append_assoc] at hnames
    exact hlast.ne_of_dollar hx hdollar (by simp; decide +kernel) hnames

/-- A name that is bound with a dollar sign is not read back from the statements of names. -/
theorem notMem_captured_of_dollar (hnames : ∀ x ∈ names, Unquoted x.toList)
    (hbinding : isBindingName name = true) (hdollar : '$' ∈ name.toList) :
    name ∉ (staticImport.scan (joinLines (names.map importStatement)).toList).filterMap
      (·.group? 1) := by
  intro hmem
  obtain ⟨before, cs, rest, hsplit, htext⟩ := tells_staticImport.exists_of_mem_captured hmem
  have hlines := importLines_of_split hsplit (tells_staticImport.ne_nil htext)
  obtain ⟨o, q, q', _, rfl, ho, hq, hname, hq', rfl⟩ := htext
  have hmark :
      importLines names = ('\n' :: (before ++ o)) ++ q :: (name.toList ++ q' :: rest) := by
    simpa using hlines
  rcases cases_of_quote hnames hq hmark with ⟨xs, x, ys, rfl, ⟨hu, hv⟩ | ⟨-, hv⟩⟩
  · obtain ⟨hx, -⟩ := firstQuote_inj hname.2 (hnames x (by simp)) hq' (by decide) hv
    obtain rfl := String.toList_inj.mp hx
    refine not_statementOpening_of_dollar hbinding hdollar ('\n' :: before)
      (importLines xs ++ ['\n']) ho ?_
    simpa using hu
  · -- behind a name stands a semicolon, which starts no identifier
    obtain ⟨w, t, hsplit', ⟨c, v, rfl, hc, -⟩, -⟩ := exists_importLead_of_isBindingName hbinding
    rw [hsplit', List.cons_append, List.cons_append] at hv
    rw [(List.cons.inj hv).1] at hc
    exact absurd hc (by decide)

/-! ### Calls from one line to the next -/

/-- What stands between the quotation marks of neighbouring lines, if the later name is not
bound. -/
def betweenNames : String := ";\nimport "

/-- A name that ends like a call up to its specifier comes before one that starts like the end of
a call. -/
def CallsAcross (names : List String) : Prop :=
  ∃ xs x y ys u o c v, names = xs ++ x :: y :: ys ∧ x.toList = u ++ o ∧ CallOpening o ∧
    y.toList = c ++ v ∧ CallClose c

/-- Names without parentheses do not go together as a call. -/
theorem not_callsAcross_of_notMem (h : ∀ x ∈ names, '(' ∉ x.toList) : ¬ CallsAcross names := by
  rintro ⟨xs, x, y, ys, u, o, c, v, rfl, hx, ⟨w, w', rfl, -⟩, -⟩
  exact h x (by simp) (by simp [hx])

/-- A name that starts like the end of a call is not bound. -/
private theorem importLead_of_callClose {c v : List Char} (hc : CallClose c)
    (hname : name.toList = c ++ v) : importLead name = "import ".toList := by
  have hbinding : isBindingName name = false := by
    rw [Bool.eq_false_iff]
    intro hbinding
    obtain ⟨_, t, hsplit, ⟨d, x, rfl, hd, -⟩, -⟩ := exists_importLead_of_isBindingName hbinding
    obtain ⟨w, rfl, hw⟩ := hc
    rw [hname, List.append_assoc, List.cons_append] at hsplit
    cases w with
    | nil =>
      rw [← (List.cons.inj hsplit).1] at hd
      exact absurd hd (by decide)
    | cons b w =>
      have hblank := hw b List.mem_cons_self
      rw [(List.cons.inj hsplit).1, isBlank_of_isStart hd] at hblank
      exact Bool.false_ne_true hblank
  unfold importLead
  rw [hbinding]
  rfl

/-- In front of a quoted name no call is open. -/
private theorem not_callOpening_of_importLead {before o u : List Char} (ho : CallOpening o) :
    before ++ o ≠ u ++ importLead name := by
  have hlead : ∃ v d, importLead name = v ++ [d] ++ [' '] ∧ isBlank d = false ∧ d ≠ '(' := by
    cases hbinding : isBindingName name with
    | false =>
      refine ⟨"impor".toList, 't', ?_, by decide, by decide⟩
      unfold importLead
      rw [hbinding]
      rfl
    | true =>
      obtain ⟨x, t, -, -, -, hlead⟩ := exists_importLead_of_isBindingName hbinding
      exact ⟨"import ".toList ++ (x ++ ((t ++ [' ']) ++ "fro".toList)), 'm', by simp [hlead],
        by decide, by decide⟩
  obtain ⟨v, d, hlead, hd, hparen⟩ := hlead
  obtain ⟨w, w', rfl, hw, hw'⟩ := ho
  have hopen : isBlank '(' = false := by decide
  intro heq
  have hsigns : (before ++ ("import".toList ++ w) ++ ['(']) ++ w' = (u ++ v ++ [d]) ++ [' '] := by
    rw [hlead] at heq
    simpa using heq
  obtain ⟨hfront, -⟩ := append_inj_of_stop_left hw' blanks_space
    (by rw [List.getLast?_concat, Option.all_some, hopen]; rfl) (by simp [hd]) hsigns
  exact hparen (List.cons.inj (List.append_inj' hfront rfl).2).1.symm

/-- What ends without a quotation mark ends behind the last one. -/
private theorem exists_append_of_unquoted {o u x y : List Char} {q : Char} (ho : Unquoted o)
    (hq : isQuote q = true) (h : u ++ o = x ++ q :: y) : ∃ v, y = v ++ o := by
  rcases List.append_eq_append_iff.mp h with ⟨a, rfl, rfl⟩ | ⟨a, rfl, ha⟩
  · have hmark := ho q (by simp)
    exact absurd (hmark.symm.trans hq) Bool.false_ne_true
  · rcases List.cons_eq_append_iff.mp ha with ⟨rfl, rfl⟩ | ⟨v, rfl, hy⟩
    · have hmark := ho q List.mem_cons_self
      exact absurd (hmark.symm.trans hq) Bool.false_ne_true
    · exact ⟨v, hy⟩

/-- What starts without a quotation mark starts in front of the first one. -/
private theorem exists_prefix_of_unquoted {c v x y : List Char} {q : Char} (hc : Unquoted c)
    (hq : isQuote q = true) (h : c ++ v = x ++ q :: y) : ∃ w, x = c ++ w := by
  rcases List.append_eq_append_iff.mp h with ⟨a, rfl, -⟩ | ⟨a, rfl, ha⟩
  · exact ⟨a, rfl⟩
  · rcases List.cons_eq_append_iff.mp ha with ⟨rfl, -⟩ | ⟨w, rfl, -⟩
    · exact ⟨[], by simp⟩
    · have hmark := hc q (by simp)
      exact absurd (hmark.symm.trans hq) Bool.false_ne_true

private theorem CallClose.unquoted {c : List Char} (h : CallClose c) : Unquoted c := by
  obtain ⟨w, rfl, hw⟩ := h
  exact unquoted_append.mpr ⟨unquoted_of_blanks hw, by decide⟩

/-- A call on the lines of names goes from one name to the next. -/
private theorem callsAcross_of_callText (hnames : ∀ x ∈ names, Unquoted x.toList)
    {before source cs rest : List Char} (hcall : CallText source cs)
    (h : importLines names = before ++ (cs ++ rest)) :
    source = betweenNames.toList ∧ CallsAcross names := by
  obtain ⟨o, q, q', c, rfl, ho, hq, hsource, hq', hc⟩ := hcall
  have hmark : importLines names = (before ++ o) ++ q :: (source ++ q' :: (c ++ rest)) := by
    simpa using h
  rcases cases_of_quote hnames hq hmark with ⟨xs, x, ys, rfl, ⟨hu, -⟩ | ⟨hu, hv⟩⟩
  · rw [← List.singleton_append, ← List.append_assoc] at hu
    exact absurd hu (not_callOpening_of_importLead ho)
  cases ys with
  | nil =>
    -- there is no quotation mark left
    have hmem : q' ∈ [';'] := by
      have hlast : source ++ q' :: (c ++ rest) = [';'] := hv
      rw [← hlast]
      simp
    exact absurd hq' (List.mem_singleton.mp hmem ▸ by decide)
  | cons y ys =>
    have hy : Unquoted y.toList := hnames y (by simp)
    have hfront : Unquoted (';' :: '\n' :: importLead y) :=
      List.forall_mem_cons.mpr ⟨by decide,
        List.forall_mem_cons.mpr ⟨by decide, unquoted_importLead hy⟩⟩
    rw [importLines_cons] at hv
    obtain ⟨rfl, -, hrest⟩ := firstQuote_inj hsource.2 hfront hq' (by decide) hv
    obtain ⟨v, hyv⟩ := exists_prefix_of_unquoted hc.unquoted (by decide) hrest
    obtain ⟨u, hxu⟩ := exists_append_of_unquoted (x := importLines xs ++ '\n' :: importLead x)
      (q := '"') ho.unquoted (by decide) (by simpa using hu)
    rw [importLead_of_callClose hc hyv]
    exact ⟨rfl, xs, x, y, ys, u, o, c, v, rfl, hxu, ho, hyv, hc⟩

/-- From one such name to the next, a call can be read. -/
private theorem CallsAcross.exists_callText (h : CallsAcross names) :
    ∃ before cs rest, importLines names = before ++ (cs ++ rest) ∧
      CallText betweenNames.toList cs := by
  obtain ⟨xs, x, y, ys, u, o, c, v, rfl, hx, ho, hy, hc⟩ := h
  refine ⟨importLines xs ++ '\n' :: (importLead x ++ '"' :: u), _,
    v ++ '"' :: ';' :: importLines ys, ?_, o, '"', '"', c, rfl, ho, rfl, by decide, rfl, hc⟩
  rw [importLines, List.flatMap_append, List.flatMap_cons, List.flatMap_cons,
    importLead_of_callClose hc hy, hx, hy]
  simp [importLines, betweenNames]

/-- The calls that are read from the statements of names have one specifier, and there are any
exactly if two names go together as a call. -/
theorem captured_calls (hnames : ∀ x ∈ names, Unquoted x.toList) {captured : List String}
    (hcaptured : (dynamicImport.scan (joinLines (names.map importStatement)).toList).filterMap
      (·.group? 1) = captured) :
    (∀ source ∈ captured, source = betweenNames) ∧ (captured ≠ [] ↔ CallsAcross names) := by
  have hread {source : String} (h : source ∈ captured) :
      source = betweenNames ∧ CallsAcross names := by
    obtain ⟨before, cs, rest, hsplit, htext⟩ :=
      tells_dynamicImport.exists_of_mem_captured (hcaptured ▸ h)
    obtain ⟨hsource, hacross⟩ := callsAcross_of_callText hnames htext
      (importLines_of_split hsplit (tells_dynamicImport.ne_nil htext))
    exact ⟨String.toList_inj.mp hsource, hacross⟩
  refine ⟨fun source h ↦ (hread h).1, fun hne ↦ ?_, fun hacross hnil ↦ ?_⟩
  · obtain ⟨source, h⟩ := List.exists_mem_of_ne_nil captured hne
    exact (hread h).2
  · obtain ⟨before, cs, rest, hlines, htext⟩ := hacross.exists_callText
    have hne : names ≠ [] := by
      obtain ⟨xs, x, y, ys, -, -, -, -, rfl, -⟩ := hacross
      simp
    obtain ⟨x, names, rfl⟩ := List.exists_cons_of_ne_nil hne
    rw [← toList_joinLines_importStatement] at hlines
    -- a call does not start with a line feed
    rcases List.cons_eq_append_iff.mp hlines with ⟨rfl, hcs⟩ | ⟨before, rfl, hsplit⟩
    · obtain ⟨_, _, _, _, rfl, ⟨_, _, rfl, -⟩, -⟩ := htext
      exact absurd (List.cons.inj hcs).1 (by decide)
    · obtain ⟨source, hsource⟩ :=
        tells_dynamicImport.exists_mem_captured before rest trivial htext
      rw [← hsplit, hcaptured, hnil] at hsource
      exact List.not_mem_nil hsource

/-! ### What is read back -/

/-- Of new items that are all the same, one is appended. -/
private theorem foldl_addNew_of_forall_eq {found more : List String} {x : String}
    (h : ∀ y ∈ more, y = x) (hne : more ≠ []) : more.foldl addNew found = addNew found x := by
  obtain ⟨y, more, rfl⟩ := List.exists_cons_of_ne_nil hne
  rw [List.forall_mem_cons] at h
  rw [List.foldl_cons, h.1]
  exact foldl_addNew_of_subset fun z hz ↦ mem_addNew.mpr (.inr (h.2 z hz))

/-- Without dollar signs in what is bound, the names are read back from their statements, and behind
them the one specifier of a call if two of them go together as one. -/
theorem existingImports_joinLines (hnames : ∀ x ∈ names, SpecifierText x.toList)
    (hnodup : names.Nodup) (hdollar : ∀ x ∈ names, isBindingName x = true → '$' ∉ x.toList) :
    (¬ CallsAcross names →
      existingImports (joinLines (names.map importStatement)) = names) ∧
    (CallsAcross names →
      existingImports (joinLines (names.map importStatement)) = addNew names betweenNames) := by
  generalize hcaptured : (dynamicImport.scan (joinLines (names.map importStatement)).toList
    ).filterMap (·.group? 1) = captured
  obtain ⟨hsame, hacross⟩ := captured_calls (fun x hx ↦ (hnames x hx).2) hcaptured
  have hfound : existingImports (joinLines (names.map importStatement)) =
      captured.foldl addNew names := by
    simp only [existingImports, captured_statements hnames hdollar, hcaptured, List.foldl_append,
      foldl_addNew, FirstOccurrence.eraseDups_of_nodup hnodup]
  rw [hfound, ← hacross]
  refine ⟨fun hnil ↦ ?_, foldl_addNew_of_forall_eq hsame⟩
  rw [not_not.mp hnil, List.foldl_nil]

/-- A name that is bound with a dollar sign is not read back at all. -/
theorem notMem_existingImports_of_dollar (hnames : ∀ x ∈ names, Unquoted x.toList)
    (hbinding : isBindingName name = true) (hdollar : '$' ∈ name.toList) :
    name ∉ existingImports (joinLines (names.map importStatement)) := by
  rw [existingImports, mem_foldl_addNew, List.mem_append]
  rintro (hnil | hstatement | hcall)
  · exact List.not_mem_nil hnil
  · exact notMem_captured_of_dollar hnames hbinding hdollar hstatement
  · have hname := (captured_calls hnames rfl).1 name hcall
    rw [hname] at hdollar
    exact absurd hdollar (by decide)

/-- So just the names are read back if and only if none is bound with a dollar sign and no two go
together as a call, or the specifier of the call is a name itself. -/
theorem existingImports_joinLines_eq_iff (hnames : ∀ x ∈ names, SpecifierText x.toList)
    (hnodup : names.Nodup) : existingImports (joinLines (names.map importStatement)) = names ↔
      (∀ x ∈ names, isBindingName x = true → '$' ∉ x.toList) ∧
        (¬ CallsAcross names ∨ betweenNames ∈ names) := by
  constructor
  · intro h
    have hdollar (x : String) (hx : x ∈ names) (hbinding : isBindingName x = true) :
        '$' ∉ x.toList := fun hdollar ↦
      notMem_existingImports_of_dollar (fun y hy ↦ (hnames y hy).2) hbinding hdollar (h.symm ▸ hx)
    refine ⟨hdollar, Classical.or_iff_not_imp_left.mpr fun hacross ↦ ?_⟩
    have hcall := (existingImports_joinLines hnames hnodup hdollar).2 (not_not.mp hacross)
    exact h.symm.trans hcall ▸ mem_addNew.mpr (.inr rfl)
  · rintro ⟨hdollar, hnone⟩
    obtain ⟨hplain, hcall⟩ := existingImports_joinLines hnames hnodup hdollar
    by_cases hacross : CallsAcross names
    · rw [hcall hacross, addNew_of_mem (hnone.resolve_left (not_not.mpr hacross))]
    · exact hplain hacross

end ModuleScript.Analysis
