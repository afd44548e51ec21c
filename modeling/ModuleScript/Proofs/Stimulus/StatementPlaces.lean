import ModuleScript.Proofs.Stimulus.OpenQuotations

/-!
# Statements at the places of their lines

A statement that a line holds, but for blanks and semicolons around it, stands in the text behind
the line feed before the line and the blanks at its start. A scan for its form finds it there,
unless the quotation of an earlier text of the form has been left open at the end of its line.
-/

namespace ModuleScript.Stimulus

open Pattern Pattern.Node Text Script

/-! ### Lines and their statements -/

/-- A line of a text and the place of its statement, which is behind the lines before it with their
line feeds and behind the blanks at its start. -/
def StatementAt (text : String) (place : Nat) (line : String) : Prop :=
  ∃ earlier later, lines text = earlier ++ line :: later ∧
    place = (earlier.flatMap fun line ↦ line.toList ++ ['\n']).length +
      (line.toList.takeWhile isBlank).length

/-- Every line has a place for its statement. -/
theorem mem_lines_iff_statementAt {text line : String} :
    line ∈ lines text ↔ ∃ place, StatementAt text place line := by
  rw [List.mem_iff_append]
  constructor
  · rintro ⟨earlier, later, hlines⟩
    exact ⟨_, earlier, later, hlines, rfl⟩
  · rintro ⟨_, earlier, later, hlines, -⟩
    exact ⟨earlier, later, hlines⟩

/-- The name that a line tells if it is of a form, but for blanks and semicolons around it. -/
def LineNames (form : Node) (line name : String) : Prop :=
  ∃ found, matchLine? form (bareStatement line) = some found ∧ found.group? 1 = some name

/-- Nothing but blanks behind the last line feed. -/
def StartsLine (before : List Char) : Prop :=
  ∃ u w, before = u ++ w ∧ Blanks w ∧ (u = [] ∨ u.getLast? = some '\n')

/-- What starts a line ends with a blank. -/
theorem StartsLine.all_isBlank {before : List Char} (h : StartsLine before) :
    before.getLast?.all isBlank = true := by
  obtain ⟨u, w, rfl, hw, hu⟩ := h
  rcases List.eq_nil_or_concat' w with rfl | ⟨w, c, rfl⟩
  · rw [List.append_nil]
    rcases hu with rfl | hu
    · rfl
    · rw [hu]
      decide
  · rw [← List.append_assoc, List.getLast?_concat, Option.all_some]
    exact hw c (by simp)

/-- Behind a quotation mark in front of what starts a line, there is a line feed. -/
theorem StartsLine.lineFeed_mem {before u s : List Char} {q : Char} (h : StartsLine before)
    (hq : isQuote q = true) (hsplit : before = u ++ q :: s) : '\n' ∈ s := by
  obtain ⟨v, w, rfl, hw, hv⟩ := h
  have hmark : ¬ isBlank q = true := by
    rw [isBlank_of_isQuote hq]
    exact Bool.false_ne_true
  have hrest (hrest : q ∈ w) : '\n' ∈ s := absurd (hw q hrest) hmark
  rcases List.append_eq_append_iff.mp hsplit with ⟨a, -, rfl⟩ | ⟨a, rfl, ha⟩
  · exact hrest (by simp)
  · rcases List.cons_eq_append_iff.mp ha with ⟨-, rfl⟩ | ⟨a, rfl, rfl⟩
    · exact hrest (by simp)
    · refine List.mem_append_left w ?_
      rcases List.eq_nil_or_concat' a with rfl | ⟨a, c, rfl⟩
      · rcases hv with hv | hv
        · exact absurd hv (by simp)
        · rw [List.getLast?_concat, Option.some.injEq] at hv
          exact absurd (hv ▸ by decide) hmark
      · have hlast : (u ++ q :: (a ++ [c])).getLast? = some c := by
          rw [← List.cons_append, ← List.append_assoc, List.getLast?_concat]
        rcases hv with hv | hv
        · exact absurd hv (by simp)
        · rw [hlast, Option.some.injEq] at hv
          exact List.mem_append_right a (List.mem_singleton.mpr hv.symm)

variable {block line name : String} {place : Nat}

/-- The statement of a line stands at its place. -/
theorem StatementAt.exists_split (h : StatementAt block place line)
    (hbare : (bareStatement line).toList ≠ []) :
    ∃ before rest, block.toList = before ++ ((bareStatement line).toList ++ rest) ∧
      before.length = place ∧ StartsLine before := by
  obtain ⟨earlier, later, hlines, rfl⟩ := h
  have hcut : cutAt '\n' block.toList =
      earlier.map String.toList ++ line.toList :: later.map String.toList := by
    have hparts := congrArg (List.map String.toList) hlines
    rw [lines, split, List.map_map] at hparts
    simpa [Function.comp_def] using hparts
  obtain ⟨v, hblock⟩ := exists_split_of_cutAt hcut
  obtain ⟨w, t, hw, hline⟩ := exists_bareStatement line
  have hblanks : line.toList.takeWhile isBlank = w := by
    obtain ⟨c, cs, hcons⟩ := List.exists_cons_of_ne_nil hbare
    have hfirst := head?_trimChars (trimEnd (trim line) ';').toList
    rw [← toList_trim, ← bareStatement, hcons, List.head?_cons, Option.all_some] at hfirst
    rw [hline, List.takeWhile_append_of_pos hw, hcons, List.cons_append,
      List.takeWhile_cons_of_neg (by simpa using hfirst), List.append_nil]
  rw [List.flatMap_map] at hblock
  refine ⟨(earlier.flatMap fun line ↦ line.toList ++ ['\n']) ++ w, t ++ v, ?_, ?_, _, w, rfl, hw,
    ?_⟩
  · rw [hblock, hline]
    simp only [List.append_assoc]
  · rw [List.length_append, hblanks]
  · rcases List.eq_nil_or_concat' earlier with rfl | ⟨earlier, last, rfl⟩
    · exact .inl rfl
    · right
      rw [List.flatMap_append, List.flatMap_singleton, ← List.append_assoc, List.getLast?_concat]

namespace Tells

variable {form : Node} {opens : State → Prop} {text : List Char → List Char → Prop}

/-- A line that tells a name is a text of the form from its start. -/
theorem of_lineNames (h : Tells form opens text) (hnames : LineNames form line name) :
    opens (.between [] (bareStatement line).toList) ∧
      text name.toList (bareStatement line).toList := by
  obtain ⟨found, hfound, hgroup⟩ := hnames
  obtain ⟨hstop, hnil⟩ := mem_ends_of_matchLine? hfound
  obtain ⟨hopens, name', cs, htext, hrest, hname⟩ := h.sound hstop
  obtain rfl : String.ofList name' = name := Option.some.inj (hname.symm.trans hgroup)
  rw [State.rest_start, hnil, List.append_nil] at hrest
  rw [hrest, String.toList_ofList]
  exact ⟨hrest ▸ hopens, htext⟩

/-- A line that is a text of the form from its start tells the name. -/
theorem lineNames_of_text (h : Tells form opens text)
    (hopens : opens (.between [] (bareStatement line).toList))
    (htext : text name.toList (bareStatement line).toList) : LineNames form line name := by
  have hwhole : (State.start (bareStatement line).toList).rest =
      (bareStatement line).toList ++ [] := by
    rw [State.rest_start, List.append_nil]
  obtain ⟨t, ht, hnil⟩ := h.complete hopens htext hwhole
  obtain ⟨found, hfound⟩ := Option.isSome_iff_exists.mp
    ((isSome_matchLine?_iff form (bareStatement line)).mpr ⟨t, ht, hnil⟩)
  obtain ⟨hstop, hend⟩ := mem_ends_of_matchLine? hfound
  obtain ⟨-, name', cs, htext', hrest, hname⟩ := h.sound hstop
  rw [← h.unique htext htext' (hwhole.symm.trans hrest), String.ofList_toList] at hname
  exact ⟨found, hfound, hname⟩

/-- Where a form is read behind blanks as it is at the start of a text, a scan finds the statement
of a line at its place, unless a match that it takes before goes over the place. -/
theorem findsAt_statement_iff (h : Tells form opens text)
    (hblank : ∀ before cs rest, before.getLast?.all isBlank = true → cs ≠ [] →
      opens (.between [] cs) → opens (.between before (cs ++ rest)))
    (hline : StatementAt block place line) (hnames : LineNames form line name) :
    FindsAt form block place name ↔
      ¬ form.RunsOver block.toList place := by
  obtain ⟨hopens, htext⟩ := h.of_lineNames hnames
  have hne := h.ne_nil htext
  obtain ⟨before, rest, hblock, hplace, hstarts⟩ := hline.exists_split hne
  rw [← hplace]
  exact h.findsAt_iff hblock (hblank before _ rest hstarts.all_isBlank hne hopens) htext

end Tells

/-! ### Statements that a scan goes over -/

/-- In front of a place, the quotation behind an opening has not been closed at the end of its
line. -/
def LeftOpen (opening : List Char → Prop) (text : String) (place : Nat) : Prop :=
  ∃ start o q s, text.toList.take place = start ++ (o ++ q :: s) ∧ opening o ∧
    isQuote q = true ∧ Unquoted s ∧ '\n' ∈ s

/-- An opening that is open in front of a line was left open at the end of its own line. -/
private theorem leftOpen_of_startsLine {opening : List Char → Prop}
    {start b o s rest : List Char} {q : Char} (hblock : block.toList = (start ++ b) ++ rest)
    (hstarts : StartsLine (start ++ b)) (hb : b = o ++ q :: s) (hopening : opening o)
    (hq : isQuote q = true) (hs : Unquoted s) : LeftOpen opening block (start ++ b).length := by
  subst hb
  refine ⟨start, o, q, s, ?_, hopening, hq, hs, hstarts.lineFeed_mem hq (u := start ++ o) (by simp)⟩
  rw [hblock, List.take_left]

variable {application : String}

/-- Blanks in front of a registration do not keep it from being found. -/
theorem findsAt_registration_iff (happ : isIdentifier application = true)
    (hline : StatementAt block place line)
    (hnames : LineNames (registration application) line name) :
    FindsAt (registration application) block place name ↔
      ¬ (registration application).RunsOver block.toList place := by
  refine (tells_registration happ).findsAt_statement_iff ?_ hline hnames
  intro before cs rest hblank hne hedge
  obtain ⟨c, cs, rfl⟩ := List.exists_cons_of_ne_nil hne
  have hword : before.getLast?.any isWord = false := by
    cases hlast : before.getLast? with
    | none => rfl
    | some d =>
      rw [hlast, Option.all_some] at hblank
      exact isWord_of_isBlank hblank
  change (before.getLast?.any isWord != (some c).any isWord) = true
  rw [hword]
  exact hedge

/-- A registration that a scan goes over stands behind the key of an earlier one that is not closed
on its line, and its own key starts with a comma. -/
theorem leftOpen_of_runsOver_registration (happ : isIdentifier application = true)
    (hline : StatementAt block place line)
    (hnames : LineNames (registration application) line name)
    (hover : (registration application).RunsOver block.toList place) :
    LeftOpen (RegistrationOpening application.toList) block place ∧
      CommaKey line.toList := by
  have htells := tells_registration happ
  have htext := (htells.of_lineNames hnames).2
  obtain ⟨before, rest, hblock, hplace, hstarts⟩ := hline.exists_split (htells.ne_nil htext)
  rw [hblock, ← hplace] at hover
  rw [← hplace]
  obtain ⟨start, b, _, cs, more, rfl, hb, htext', hsplit, hlt⟩ := htells.exists_of_runsOver hover
  obtain ⟨b, c, rfl⟩ := (List.eq_nil_or_concat' b).resolve_left hb
  have hc : isBlank c = true := by simpa using hstarts.all_isBlank
  rw [List.append_assoc, List.singleton_append] at hsplit
  obtain ⟨⟨o, q, s, hs, hopening, hq, hquoted⟩, hcomma⟩ :=
    htext.open_of_inside happ htext' hc hsplit hlt
  refine ⟨leftOpen_of_startsLine hblock hstarts hs hopening hq hquoted, ?_⟩
  obtain ⟨w, t, hw, htext⟩ := exists_bareStatement line
  rw [htext]
  exact hcomma.around hw t

/-- Nothing keeps an import from being found but a scan that goes over it. -/
theorem findsAt_defaultImport_iff (hline : StatementAt block place line)
    (hnames : LineNames defaultImport line name) :
    FindsAt defaultImport block place name ↔
      ¬ defaultImport.RunsOver block.toList place :=
  tells_defaultImport.findsAt_statement_iff (fun _ _ _ _ _ _ ↦ trivial) hline hnames

/-- An import that a scan goes over stands behind the specifier of an earlier one that is not closed
on its line. -/
theorem leftOpen_of_runsOver_defaultImport (hline : StatementAt block place line)
    (hnames : LineNames defaultImport line name)
    (hover : defaultImport.RunsOver block.toList place) :
    LeftOpen ImportOpening block place := by
  have htext := (tells_defaultImport.of_lineNames hnames).2
  obtain ⟨before, rest, hblock, hplace, hstarts⟩ :=
    hline.exists_split (tells_defaultImport.ne_nil htext)
  rw [hblock, ← hplace] at hover
  rw [← hplace]
  obtain ⟨start, b, _, cs, more, rfl, hb, htext', hsplit, hlt⟩ :=
    tells_defaultImport.exists_of_runsOver hover
  obtain ⟨o, q, s, hs, hopening, hq, hquoted⟩ := htext.open_of_inside htext' hb hsplit hlt
  exact leftOpen_of_startsLine hblock hstarts hs hopening hq hquoted

end ModuleScript.Stimulus
