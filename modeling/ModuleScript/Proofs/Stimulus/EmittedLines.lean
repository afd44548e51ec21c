import ModuleScript.Proofs.Stimulus.ControllerKeys
import ModuleScript.Proofs.Stimulus.Processed

/-!
# Emitted lines and the filter

The filter drops the start of the application and the imports of controllers as they are emitted,
with or without blanks around them. The emitted registration of a controller is dropped only if the
name of the application starts with a word character, since a registration is looked for at the edge
of a word.
-/

namespace ModuleScript.Stimulus

open Pattern Pattern.Node Text Script

variable {a : Application} {names : List String} {block x line : String}

namespace Application

/-! ### Start and imports -/

/-- The emitted start is one. -/
theorem onLine_setup (a : Application) : OnLine (StartText a.name.toList) a.setup.toList := by
  refine ⟨[], _, [';'], ?_, blanks_nil, ⟨_, [], [], rfl, .inl ⟨"const".toList, [' '], [' '], [' '],
    rfl, .inl rfl, ⟨by simp, blanks_space⟩, blanks_space, blanks_space⟩, blanks_nil, blanks_nil⟩,
    lineEnd_semicolon⟩
  simp [setup, toString]

/-- The emitted start is dropped. -/
theorem handles_of_padded_setup (h : Padded a.setup.toList line.toList) :
    a.handles line = true := by
  have hstart : (matchLine? (bootstrapLine a.name) line).isSome = true :=
    isSome_bootstrapLine_of_padded ((isSome_bootstrapLine_iff _ _).mpr a.onLine_setup) h
  have hno : ¬ BeginsImport line.toList := by
    obtain ⟨v, w, hv, -, hline⟩ := h
    have hconst : a.setup.toList = 'c' :: (a.setup.toList.tail) := by simp [setup, toString]
    rw [hline, hconst]
    exact not_beginsImport_of_head hv (by decide) (by decide)
  rw [a.handles_of_not_import fun h ↦ hno h.1, hstart, Bool.true_or]

/-- The emitted import of an identifier binds it, from a specifier of the same name. -/
theorem imports_controllerImport (hx : IdentifierText x.toList) :
    Imports (controllerImport x).toList (some x.toList) x.toList := by
  have hspace : [' '] ≠ [] ∧ Blanks [' '] := ⟨by simp, blanks_space⟩
  have hsource : SpecifierText x.toList := by
    refine ⟨?_, fun c hc ↦ isQuote_of_isPart (.inl (hx.isPart hc))⟩
    obtain ⟨c, w, htext, -⟩ := hx
    simp [htext]
  refine ⟨x.toList, ⟨[], [], by simp, hx, blanks_nil, .inl rfl⟩, [], _, [';'], ?_, blanks_nil,
    ⟨[' '], [' '], [' '], '"', '"', rfl, hspace, hspace, hspace, rfl, hsource, rfl⟩,
    lineEnd_semicolon⟩
  simp [controllerImport, toString]

/-- The emitted import of a controller is dropped. -/
theorem handles_of_padded_controllerImport (hx : x ∈ a.controllers)
    (htext : IdentifierText x.toList) (h : Padded (controllerImport x).toList line.toList) :
    a.handles line = true := by
  have himports := (imports_iff_of_padded h).mpr (imports_controllerImport htext)
  have hpackage : x ≠ coreModule := by
    rintro rfl
    have hat : isPart '@' = false := by decide +kernel
    exact htext.notMem hat (by decide)
  rw [a.handles_of_imports himports, String.ofList_toList, if_neg hpackage,
    List.contains_iff_mem.mpr hx, Bool.true_or]

/-! ### Registrations -/

/-- The call that registers a controller, as it is emitted. -/
def emittedCall (x : String) : String := ".register(\"" ++ identifier x ++ "\", " ++ x ++ ")"

theorem toList_emittedCall (x : String) : (emittedCall x).toList =
    ".register(\"".toList ++ ((identifier x).toList ++ ("\", ".toList ++ (x.toList ++ [')']))) := by
  simp [emittedCall]

/-- The call ends with a parenthesis. -/
theorem getLast?_append_emittedCall (w : List Char) (x : String) :
    (w ++ (emittedCall x).toList).getLast? = some ')' := by
  rw [toList_emittedCall]
  simp only [← List.append_assoc]
  exact List.getLast?_concat

/-- A registration line is the name of the application, the call and a semicolon. -/
theorem toList_registrationLine (a : Application) (x : String) :
    (a.registrationLine x).toList = a.name.toList ++ ((emittedCall x).toList ++ [';']) := by
  simp [registrationLine, toList_emittedCall, toString]

/-- A controller that can be registered: its key can be quoted, and it is an identifier. -/
structure Registrable (x : String) : Prop where
  key : SpecifierText (identifier x).toList
  controller : IdentifierText x.toList

/-- Every controller without line feeds is one. -/
theorem Discovered.registrable (h : a.Discovered names block) (hx : x ∈ a.controllers)
    (hline : '\n' ∉ x.toList) : Registrable x :=
  ⟨h.specifierText_identifier hx hline, h.identifierText hx hline⟩

/-- The emitted call is one, with the key and the controller. -/
theorem Registrable.callText (h : Registrable x) :
    CallText (identifier x).toList x.toList (emittedCall x).toList := by
  refine ⟨".register".toList ++ ([] ++ '(' :: ([] ++ '"' :: ((identifier x).toList ++ ['"']))),
    [] ++ ',' :: ([' '] ++ (x.toList ++ ([] ++ [')']))), ?_,
    ⟨[], [], '"', '"', rfl, blanks_nil, blanks_nil, rfl, h.key, rfl⟩,
    ⟨[], [' '], [], rfl, blanks_nil, blanks_space, h.controller, blanks_nil⟩⟩
  simp [emittedCall]

/-- Within the call there is only one full stop. -/
theorem Registrable.exists_emittedCall (h : Registrable x) :
    ∃ rest, (emittedCall x).toList = '.' :: rest ∧ '.' ∉ rest := by
  have hstop : '.' ∉ x.toList := h.controller.notMem (by decide +kernel)
  have hkey : '.' ∉ (identifier x).toList := fun hmem ↦
    hstop (mem_of_mem_identifier (by decide) (by decide) hmem)
  refine ⟨"register(\"".toList ++ ((identifier x).toList ++ ("\", ".toList ++ (x.toList ++ [')']))),
    by simp [emittedCall], ?_⟩
  simp [hstop, hkey]

/-- The emitted registration does not end like an import, whatever blanks are around it. -/
private theorem not_endsQuoted_of_padded (h : Padded (a.registrationLine x).toList line.toList) :
    ¬ EndsQuoted line.toList := by
  rintro ⟨u, q, t, hquoted, hq, ht⟩
  obtain ⟨v, w, -, hw, hline⟩ := h
  let p : Char → Bool := fun c ↦ isBlank c || c == ';'
  have hclose : (v ++ a.name.toList ++ (emittedCall x).toList) ++ ';' :: w = (u ++ [q]) ++ t := by
    rw [toList_registrationLine] at hline
    simpa using hline.symm.trans hquoted
  have hend : ∀ c ∈ ';' :: w, p c = true := by
    refine List.forall_mem_cons.mpr ⟨by decide, fun c hc ↦ ?_⟩
    simp [p, hw c hc]
  have hlineEnd : ∀ c ∈ t, p c = true := by
    intro c hc
    simpa [p] using ht.isBlank_or hc
  have hparen : p ')' = false := by decide
  have hmark : p q = false := by
    rw [isQuote, Bool.or_eq_true, beq_iff_eq, beq_iff_eq] at hq
    rcases hq with rfl | rfl <;> decide
  obtain ⟨hfront, -⟩ := append_inj_of_stop_left hend hlineEnd
    (by rw [getLast?_append_emittedCall, Option.all_some, hparen]; rfl) (by simp [hmark]) hclose
  have hlast := congrArg List.getLast? hfront
  rw [getLast?_append_emittedCall, List.getLast?_concat, Option.some.injEq] at hlast
  rw [← hlast] at hq
  exact absurd hq (by decide)

/-- It starts no application. -/
private theorem bootstrapLine_eq_none_of_padded (happ : isIdentifier a.name = true)
    (h : Padded (a.registrationLine x).toList line.toList) :
    matchLine? (bootstrapLine a.name) line = none := by
  rw [← Option.not_isSome_iff_eq_none, isSome_bootstrapLine_iff]
  rintro ⟨w, _, t, hstart, hw, ⟨subject, w₁, w₂, rfl, hsubject, -⟩, -⟩
  obtain ⟨v, u, hv, -, hline⟩ := h
  have heq : (v ++ a.name.toList) ++ '.' :: ("register(\"".toList ++ ((identifier x).toList ++
        ("\", ".toList ++ (x.toList ++ ");".toList))) ++ u) =
      (w ++ subject) ++ '.' :: ("start".toList ++ (w₁ ++ '(' :: (w₂ ++ [')'])) ++ t) := by
    rw [toList_registrationLine, toList_emittedCall] at hline
    simpa using hline.symm.trans hstart
  -- the first full stop tells where the name ends
  obtain ⟨-, hrest⟩ := append_inj_of_stop ((plain_of_blanks hv).append (plain_of_isIdentifier happ))
    ((plain_of_blanks hw).append (plain_of_startSubject happ hsubject)) (by simp) (by simp) heq
  exact absurd (List.cons.inj (List.cons.inj hrest).2).1 (by decide)

/-- An accepted name starts with no blank. -/
private theorem head?_append_of_isIdentifier {name : String} (h : isIdentifier name = true)
    (rest : List Char) : (name.toList ++ rest).head?.all (!isBlank ·) = true := by
  obtain ⟨w, t, hname, hw, -⟩ := (isIdentifier_iff name).mp h
  rw [hname, List.append_assoc]
  exact hw.head?_append _

/-- Without the semicolon, it is the name and the call. -/
theorem bareStatement_registrationLine (happ : isIdentifier a.name = true) (x : String) :
    bareStatement (a.registrationLine x) = a.name ++ emittedCall x := by
  rw [← String.toList_inj, String.toList_append, toList_emittedCall]
  simp only [← List.append_assoc]
  refine bareStatement_of_semicolon ?_ ?_ (by decide) (by decide)
  · rw [toList_registrationLine, toList_emittedCall]
    simp
  · simp only [List.append_assoc]
    exact head?_append_of_isIdentifier happ _

/-- The emitted registration is judged by the form of registrations alone, without its semicolon. -/
private theorem handles_of_padded_registrationLine (happ : isIdentifier a.name = true)
    (h : Padded (a.registrationLine x).toList line.toList) :
    a.handles line = (matchLine? (registration a.name) (a.name ++ emittedCall x)).any
      (groupIn · 1 a.controllers) := by
  rw [a.handles_of_not_import fun hno ↦ not_endsQuoted_of_padded h hno.2,
    bootstrapLine_eq_none_of_padded happ h, Option.isSome_none, Bool.false_or,
    bareStatement_of_padded h, bareStatement_registrationLine happ]

/-! ### Where a registration is looked for -/

/-- A place in the name of the application from which the form reads a subject: the rest of the
name is one, and the place is at the edge of a word. -/
def Sought (application before subject : List Char) : Prop :=
  application = before ++ subject ∧ RegistrationSubject application subject ∧
    (before.getLast?.any isWord != subject.head?.any isWord) = true

/-- The edge of a word is told by the subject, where there is one. -/
private theorem atWordEdge_between {before subject rest : List Char} (hne : subject ≠ []) :
    (State.between before (subject ++ rest)).atWordEdge =
      (before.getLast?.any isWord != subject.head?.any isWord) := by
  obtain ⟨c, w, rfl⟩ := List.exists_cons_of_ne_nil hne
  rfl

/-- Within an emitted registration, what the form reads starts at such a place and has the
controller. -/
theorem sought_of_mem_ends (happ : isIdentifier a.name = true) (hx : Registrable x)
    {before rest more : List Char} {t : State} (hmore : '.' ∉ more)
    (hsplit : a.name.toList ++ ((emittedCall x).toList ++ more) = before ++ rest)
    (ht : t ∈ (registration a.name).ends (.between before rest)) :
    t.group? 1 = some x ∧ ∃ subject, Sought a.name.toList before subject := by
  obtain ⟨hedge, subject, key, controller, call, hsubject, hcall, hrest, hgroup⟩ :=
    of_mem_ends_registration ht
  obtain ⟨r, hemitted, hstop⟩ := hx.exists_emittedCall
  obtain ⟨r', rfl⟩ := hcall.exists_cons
  rw [State.rest_between] at hrest
  subst hrest
  -- the only full stop ends the name and the subject
  have heq : a.name.toList ++ '.' :: (r ++ more) =
      (before ++ subject) ++ '.' :: (r' ++ t.rest) := by
    rw [hemitted] at hsplit
    simpa using hsplit
  have hname : '.' ∉ a.name.toList := fun hmem ↦
    absurd (plain_of_isIdentifier happ _ hmem) (by decide)
  obtain ⟨hsame, -, htail⟩ := (List.append_cons_inj_of_notMem hname (by simp [hstop, hmore])).mp heq
  have hcalls : (emittedCall x).toList ++ more = '.' :: r' ++ t.rest := by
    rw [hemitted, List.cons_append, htail, List.cons_append]
  obtain ⟨-, rfl⟩ := hx.callText.unique hcall hcalls
  rw [atWordEdge_between (registrationSubject_ne_nil happ hsubject)] at hedge
  exact ⟨by rw [hgroup, String.ofList_toList], subject, hsame, hsubject, hedge⟩

/-- From such a place, the form reads the registration. -/
theorem Sought.exists_mem_ends (happ : isIdentifier a.name = true) (hx : Registrable x)
    {before subject : List Char} (h : Sought a.name.toList before subject) (more : List Char) :
    ∃ t ∈ (registration a.name).ends
      (.between before (subject ++ ((emittedCall x).toList ++ more))), t.rest = more := by
  obtain ⟨-, hsubject, hedge⟩ := h
  rw [← atWordEdge_between (registrationSubject_ne_nil happ hsubject)] at hedge
  exact exists_mem_ends_registration hedge hsubject hx.callText rfl

/-- The emitted registration is dropped exactly if the form reads it from its start. -/
theorem handles_of_padded_registrationLine_iff (happ : isIdentifier a.name = true)
    (hx : Registrable x) (hmem : x ∈ a.controllers)
    (h : Padded (a.registrationLine x).toList line.toList) :
    a.handles line = true ↔ ∃ subject, Sought a.name.toList [] subject := by
  have hcall : (a.name ++ emittedCall x).toList =
      a.name.toList ++ ((emittedCall x).toList ++ []) := by
    rw [String.toList_append, List.append_nil]
  rw [handles_of_padded_registrationLine happ h, Option.any_eq_true]
  constructor
  · rintro ⟨m, hm, -⟩
    exact (sought_of_mem_ends happ hx List.not_mem_nil hcall.symm (mem_ends_of_matchLine? hm).1).2
  · rintro ⟨subject, hsought⟩
    obtain ⟨t, ht, hnil⟩ := hsought.exists_mem_ends happ hx []
    have hsubject : subject = a.name.toList := hsought.1.symm
    rw [hsubject, ← hcall] at ht
    obtain ⟨m, hm⟩ := Option.isSome_iff_exists.mp ((isSome_matchLine?_iff _ _).mpr ⟨t, ht, hnil⟩)
    have hend : m.stop ∈ (registration a.name).ends
        (.between [] (a.name ++ emittedCall x).toList) := (mem_ends_of_matchLine? hm).1
    obtain ⟨hgroup, -⟩ := sought_of_mem_ends happ hx List.not_mem_nil hcall.symm hend
    exact ⟨m, hm, by simp [groupIn, Match.group?, hgroup, hmem]⟩

/-- The form finds the controller in its emitted registration exactly if it reads it from some place
of the name. -/
theorem exists_mem_namedPlaces_iff (happ : isIdentifier a.name = true) (hx : Registrable x) :
    (∃ place, (place, x) ∈ namedPlaces (registration a.name) (a.registrationLine x)) ↔
      ∃ before subject, Sought a.name.toList before subject := by
  have hstop : '.' ∉ [';'] := by decide
  have hline := toList_registrationLine a x
  constructor
  · rintro ⟨place, hplace⟩
    obtain ⟨m, hm, -⟩ := List.mem_filterMap.mp hplace
    obtain ⟨before, rest, hsplit, -, ht⟩ := exists_split_of_mem_scan hm
    obtain ⟨-, subject, hsought⟩ := sought_of_mem_ends happ hx hstop (hline.symm.trans hsplit) ht
    exact ⟨before, subject, hsought⟩
  · rintro ⟨before, subject, hsought⟩
    obtain ⟨t, ht, -⟩ := hsought.exists_mem_ends happ hx [';']
    have hsome : (registration a.name).scan (a.registrationLine x).toList ≠ [] := by
      intro hnil
      rw [scan_eq_nil_iff.mp hnil before (subject ++ ((emittedCall x).toList ++ [';'])) (by
        rw [hline, hsought.1, List.append_assoc])] at ht
      exact List.not_mem_nil ht
    obtain ⟨m, hm⟩ := List.exists_mem_of_ne_nil _ hsome
    obtain ⟨before', rest', hsplit, -, ht'⟩ := exists_split_of_mem_scan hm
    obtain ⟨hgroup, -⟩ := sought_of_mem_ends happ hx hstop (hline.symm.trans hsplit) ht'
    exact ⟨m.start, List.mem_filterMap.mpr ⟨m, hm, by rw [Match.group?, hgroup]; rfl⟩⟩

/-! ### Names that start with a dollar sign -/

/-- An accepted name starts with a word character or a dollar sign. -/
private theorem head?_any_isWord_iff {name : String} (h : isIdentifier name = true) :
    name.toList.head?.any isWord = true ↔ name.toList.head? ≠ some '$' := by
  obtain ⟨_, t, hname, ⟨c, w, rfl, hc, -⟩, -⟩ := (isIdentifier_iff name).mp h
  have hdollar : isWord '$' = false := by decide +kernel
  rw [hname, List.cons_append, List.head?_cons, Option.any_some, ne_eq, Option.some.injEq]
  have hpart := isPart_of_isStart hc
  rw [isPart, Bool.or_eq_true, beq_iff_eq] at hpart
  constructor
  · rintro hword rfl
    rw [hdollar] at hword
    exact Bool.false_ne_true hword
  · exact hpart.resolve_right

/-- The name is read from its start exactly if it starts with no dollar sign. -/
theorem exists_sought_nil_iff {name : String} (h : isIdentifier name = true) :
    (∃ subject, Sought name.toList [] subject) ↔ name.toList.head? ≠ some '$' := by
  rw [← head?_any_isWord_iff h]
  constructor
  · rintro ⟨subject, rfl, -, hedge⟩
    simpa using hedge
  · intro hword
    exact ⟨name.toList, rfl, .inr rfl, by simpa using hword⟩

/-- It is read from some place exactly if it starts with no dollar sign, or ends with one and the
name of Stimulus. -/
theorem exists_sought_iff {name : String} (h : isIdentifier name = true) :
    (∃ before subject, Sought name.toList before subject) ↔
      name.toList.head? ≠ some '$' ∨ "$Stimulus".toList <:+ name.toList := by
  constructor
  · rintro ⟨before, subject, hsplit, rfl | rfl, hedge⟩
    · have hword : isWord 'S' = true := by decide +kernel
      have hbefore : before.getLast?.any isWord = false := by simpa [hword] using hedge
      rcases List.eq_nil_or_concat before with rfl | ⟨u, c, rfl⟩
      · left
        rw [hsplit]
        simp
      · -- what stands before the name of Stimulus is no word character, so it is the other sign
        right
        have hc : isWord c = false := by simpa using hbefore
        obtain ⟨w, t, hname, hw, rfl | rfl⟩ := (isIdentifier_iff name).mp h
        · have hpart : isPart c = true := hw.isPart (by
            rw [List.append_nil] at hname
            simp [← hname, hsplit])
          rw [isPart, hc, Bool.false_or, beq_iff_eq] at hpart
          subst hpart
          exact ⟨u, by simp [hsplit]⟩
        · have hlast := congrArg List.getLast? (hname.symm.trans hsplit)
          simp at hlast
    · have hnil : before = [] := by simpa using hsplit.symm
      subst hnil
      exact .inl ((exists_sought_nil_iff h).mp ⟨_, hsplit, .inr rfl, hedge⟩)
  · rintro (hhead | ⟨u, hu⟩)
    · exact ⟨[], (exists_sought_nil_iff h).mpr hhead⟩
    · have hword : isWord 'S' = true ∧ isWord '$' = false := by decide +kernel
      exact ⟨u ++ ['$'], "Stimulus".toList, by rw [← hu]; simp, .inl rfl, by simp [hword]⟩

/-! ### Emitted lines in the block -/

/-- No processed line is the emitted start. -/
theorem trim_ne_setup (hline : line ∈ lines (a.process block)) : trim line ≠ a.setup := by
  intro htrim
  have hne : ¬ Blanks a.setup.toList := fun hblank ↦
    absurd (hblank '=' (by simp [setup, toString])) (by decide)
  exact ((exists_mem_process_iff hne fun whole hpad ↦ by
    rw [handles_of_padded_setup hpad, Bool.true_eq_false]).mp ⟨line, hline, htrim⟩).1

/-- No processed line is the emitted import of a controller. -/
theorem trim_ne_controllerImport (hx : x ∈ a.controllers) (htext : IdentifierText x.toList)
    (hline : line ∈ lines (a.process block)) : trim line ≠ controllerImport x := by
  intro htrim
  have hne : ¬ Blanks (controllerImport x).toList :=
    (imports_controllerImport htext).beginsImport.not_blanks
  exact ((exists_mem_process_iff hne fun whole hpad ↦ by
    rw [handles_of_padded_controllerImport hx htext hpad, Bool.true_eq_false]).mp
      ⟨line, hline, htrim⟩).1

/-- A processed line is the emitted registration of a controller exactly if one of the block is and
the name of the application starts with a dollar sign. -/
theorem exists_trim_eq_registrationLine_iff (happ : isIdentifier a.name = true)
    (hx : Registrable x) (hmem : x ∈ a.controllers) :
    (∃ line ∈ lines (a.process block), trim line = a.registrationLine x) ↔
      a.name.toList.head? = some '$' ∧ ∃ line ∈ lines block, trim line = a.registrationLine x := by
  refine exists_mem_process_iff (fun hblank ↦ ?_) fun whole hpad ↦ ?_
  · have hsemicolon : ';' ∈ (a.registrationLine x).toList := by simp [toList_registrationLine]
    exact absurd (hblank ';' hsemicolon) (by decide)
  · rw [← Bool.not_eq_true, handles_of_padded_registrationLine_iff happ hx hmem hpad,
      exists_sought_nil_iff happ, not_not]

end Application

end ModuleScript.Stimulus
