import ModuleScript.Proofs.Stimulus.Discovery
import ModuleScript.Proofs.Stimulus.HandledLine

/-!
# Where a block names controllers

A block names a controller where it registers or imports it. Each of the two forms reads a text
that determines the name, so a scan finds one name at most at a place, and no place is both a
registration and an import.
-/

namespace ModuleScript.Stimulus

open Pattern Pattern.Node Text Script

/-! ### Forms that tell a name -/

/-- A form that reads the texts of a kind from the places of a kind, and keeps the name that the
text determines. -/
structure Tells (form : Node) (opens : State → Prop) (text : List Char → List Char → Prop) :
    Prop where
  sound {s s' : State} : s' ∈ form.ends s → opens s ∧ ∃ name cs, text name cs ∧
    s.rest = cs ++ s'.rest ∧ s'.group? 1 = some (String.ofList name)
  complete {s : State} {name cs rest : List Char} : opens s → text name cs →
    s.rest = cs ++ rest → ∃ s' ∈ form.ends s, s'.rest = rest
  unique {name name' cs cs' rest rest' : List Char} : text name cs → text name' cs' →
    cs ++ rest = cs' ++ rest' → name = name'
  ne_nil {name cs : List Char} : text name cs → cs ≠ []

/-- A scan for a form finds a name at a place. -/
def FindsAt (form : Node) (block : String) (place : Nat) (name : String) : Prop :=
  ∃ found ∈ form.scan block.toList, found.start = place ∧ found.group? 1 = some name

theorem mem_namedPlaces_iff {form : Node} {block name : String} {place : Nat} :
    (place, name) ∈ namedPlaces form block ↔ FindsAt form block place name := by
  simp only [namedPlaces, List.mem_filterMap, Option.map_eq_some_iff, Prod.mk.injEq]
  constructor
  · rintro ⟨found, hfound, _, hgroup, rfl, rfl⟩
    exact ⟨found, hfound, rfl, hgroup⟩
  · rintro ⟨found, hfound, rfl, hgroup⟩
    exact ⟨found, hfound, name, hgroup, rfl, rfl⟩

namespace Tells

variable {form : Node} {opens : State → Prop} {text : List Char → List Char → Prop}
  {block name name' : String} {place : Nat}

/-- What the form reads from a place is a text of the kind. -/
private theorem exists_text (h : Tells form opens text) {before rest : List Char} {t : State}
    (ht : t ∈ form.ends (.between before rest)) :
    ∃ name cs, opens (.between before rest) ∧ text name cs ∧ rest = cs ++ t.rest ∧
      t.offset = before.length + cs.length ∧ t.group? 1 = some (String.ofList name) := by
  obtain ⟨hopens, name, cs, htext, hsplit, hname⟩ := h.sound ht
  obtain ⟨w, hread, hoffset⟩ := exists_read_of_mem_ends form ht
  obtain rfl := List.append_cancel_right (hread.symm.trans hsplit)
  exact ⟨name, w, hopens, htext, hsplit, hoffset, hname⟩

/-- Every match reads something. -/
theorem reads (h : Tells form opens text) : form.Reads := by
  intro before rest t ht
  obtain ⟨name, cs, -, htext, -, hoffset, -⟩ := h.exists_text ht
  have hpos := List.length_pos_of_ne_nil (h.ne_nil htext)
  omega

/-- A match of a scan reads a text of the kind from its place, and goes as far as the text. -/
theorem exists_of_mem_scan (h : Tells form opens text) {cs : List Char} {found : Match}
    (hfound : found ∈ form.scan cs) :
    ∃ name before read rest, cs = before ++ (read ++ rest) ∧ found.start = before.length ∧
      found.stop.offset = before.length + read.length ∧ opens (.between before (read ++ rest)) ∧
      text name read ∧ found.group? 1 = some (String.ofList name) := by
  obtain ⟨before, rest, rfl, hat⟩ := exists_matchAt_of_mem_scan h.reads hfound
  obtain ⟨hstart, hstop⟩ := start_stop_of_matchAt? hat
  obtain ⟨name, read, hopens, htext, rfl, hoffset, hname⟩ := h.exists_text hstop
  exact ⟨name, before, read, _, rfl, hstart, hoffset, hopens, htext, hname⟩

/-- What a scan captures is the name of a text of the kind. -/
theorem exists_of_mem_captured (h : Tells form opens text) {cs : List Char}
    (hname : name ∈ (form.scan cs).filterMap (·.group? 1)) :
    ∃ before read rest, cs = before ++ (read ++ rest) ∧ text name.toList read := by
  obtain ⟨found, hfound, hgroup⟩ := List.mem_filterMap.mp hname
  obtain ⟨name', before, read, rest, hsplit, -, -, -, htext, hname'⟩ := h.exists_of_mem_scan hfound
  obtain rfl : String.ofList name' = name := Option.some.inj (hname'.symm.trans hgroup)
  exact ⟨before, read, rest, hsplit, by rwa [String.toList_ofList]⟩

/-- Where a text of the form can be read, a scan finds something, if not this text. -/
theorem exists_mem_captured (h : Tells form opens text) (before rest : List Char)
    {cs name : List Char} (hopens : opens (.between before (cs ++ rest))) (htext : text name cs) :
    ∃ found, found ∈ (form.scan (before ++ (cs ++ rest))).filterMap (·.group? 1) := by
  obtain ⟨t, ht, -⟩ := h.complete hopens htext rfl
  have hne : form.scan (before ++ (cs ++ rest)) ≠ [] := by
    intro hnil
    rw [scan_eq_nil_iff.mp hnil before (cs ++ rest) rfl] at ht
    exact List.not_mem_nil ht
  obtain ⟨m, hm⟩ := List.exists_mem_of_ne_nil _ hne
  obtain ⟨name', _, _, _, -, -, -, -, -, hgroup⟩ := h.exists_of_mem_scan hm
  exact ⟨_, List.mem_filterMap.mpr ⟨m, hm, hgroup⟩⟩

/-- What a scan finds at a place is read from there. -/
theorem exists_of_findsAt (h : Tells form opens text) (hfinds : FindsAt form block place name) :
    ∃ before cs rest, block.toList = before ++ (cs ++ rest) ∧ before.length = place ∧
      opens (.between before (cs ++ rest)) ∧ text name.toList cs := by
  obtain ⟨found, hfound, rfl, hgroup⟩ := hfinds
  obtain ⟨name', before, cs, rest, hsplit, hstart, -, hopens, htext, hname⟩ :=
    h.exists_of_mem_scan hfound
  obtain rfl : String.ofList name' = name := Option.some.inj (hname.symm.trans hgroup)
  exact ⟨before, cs, rest, hsplit, hstart.symm, hopens, by rwa [String.toList_ofList]⟩

/-- A scan that goes over a place reads a text of the kind that starts before the place and ends
behind it. -/
theorem exists_of_runsOver (h : Tells form opens text) {before rest : List Char}
    (hover : form.RunsOver (before ++ rest) before.length) :
    ∃ start b name cs more, before = start ++ b ∧ b ≠ [] ∧ text name cs ∧
      b ++ rest = cs ++ more ∧ b.length < cs.length := by
  obtain ⟨found, hfound, hbefore, hbehind⟩ := hover
  obtain ⟨name, start, cs, more, hsplit, hstart, hoffset, -, htext, -⟩ :=
    h.exists_of_mem_scan hfound
  rw [hstart] at hbefore
  rw [hoffset] at hbehind
  rcases List.append_eq_append_iff.mp hsplit with ⟨b, rfl, -⟩ | ⟨b, rfl, hrest⟩
  · rw [List.length_append] at hbefore
    omega
  · rw [List.length_append] at hbefore hbehind
    exact ⟨start, b, name, cs, more, rfl, List.length_pos_iff.mp (by omega), htext, hrest.symm,
      by omega⟩

/-- Only one name is found at a place. -/
theorem eq_of_findsAt (h : Tells form opens text) (hfinds : FindsAt form block place name)
    (hfinds' : FindsAt form block place name') : name = name' := by
  obtain ⟨found, hfound, hplace, hgroup⟩ := hfinds
  obtain ⟨found', hfound', hplace', hgroup'⟩ := hfinds'
  obtain rfl := eq_of_mem_scan_of_start_eq h.reads hfound hfound' (hplace.trans hplace'.symm)
  exact Option.some.inj (hgroup.symm.trans hgroup')

/-- Where a text of the form can be read, there is a match that keeps its name. -/
theorem exists_matchAt? (h : Tells form opens text) (before rest : List Char) {cs : List Char}
    (hopens : opens (.between before (cs ++ rest))) (htext : text name.toList cs) :
    ∃ m read more, form.matchAt? (.between before (cs ++ rest)) = some m ∧
      m.group? 1 = some name ∧ text name.toList read ∧ cs ++ rest = read ++ more ∧
      m.stop.offset = before.length + read.length := by
  obtain ⟨t, ht, -⟩ := h.complete hopens htext rfl
  obtain ⟨m, hm⟩ : ∃ m, form.matchAt? (.between before (cs ++ rest)) = some m := by
    rw [← Option.isSome_iff_exists, matchAt?_eq, Option.isSome_map, List.isSome_head?]
    exact List.ne_nil_of_mem ht
  obtain ⟨name', read, -, htext', hsplit, hoffset, hname⟩ :=
    h.exists_text (start_stop_of_matchAt? hm).2
  obtain rfl := h.unique htext htext' hsplit
  rw [String.ofList_toList] at hname
  exact ⟨m, read, _, hm, hname, htext', hsplit, hoffset⟩

/-- At a place from which a text of the form can be read, a scan finds its name, unless a match
that it takes before goes on behind the place. -/
theorem findsAt_iff (h : Tells form opens text) {before cs rest : List Char}
    (hblock : block.toList = before ++ (cs ++ rest)) (hopens : opens (.between before (cs ++ rest)))
    (htext : text name.toList cs) :
    FindsAt form block before.length name ↔ ¬ form.RunsOver block.toList before.length := by
  obtain ⟨m, -, -, hm, hgroup, -⟩ := h.exists_matchAt? before rest hopens htext
  have hstart := (start_stop_of_matchAt? hm).1
  rw [hblock, ← mem_scan_iff_not_runsOver h.reads hm, ← hblock]
  constructor
  · rintro ⟨found, hfound, hplace, -⟩
    obtain ⟨before', rest', hsplit, hat⟩ := exists_matchAt_of_mem_scan h.reads hfound
    have hlength : before'.length = before.length :=
      (start_stop_of_matchAt? hat).1.symm.trans hplace
    obtain ⟨rfl, rfl⟩ := List.append_inj (hsplit.symm.trans hblock) hlength
    exact Option.some.inj (hat.symm.trans hm) ▸ hfound
  · intro hmem
    exact ⟨m, hmem, hstart, hgroup⟩

end Tells

/-! ### Registrations -/

/-- The text of a registration of a controller. -/
def RegistrationText (application controller cs : List Char) : Prop :=
  ∃ subject key call, cs = subject ++ call ∧ RegistrationSubject application subject ∧
    CallText key controller call

/-- The form of registrations reads them from the edge of a word. -/
theorem tells_registration {application : String} (happ : isIdentifier application = true) :
    Tells (registration application) (fun s ↦ s.atWordEdge = true)
      (RegistrationText application.toList) where
  sound h := by
    obtain ⟨hedge, subject, key, controller, call, hsubject, hcall, hrest, hgroup⟩ :=
      of_mem_ends_registration h
    exact ⟨hedge, controller, subject ++ call, ⟨subject, key, call, rfl, hsubject, hcall⟩,
      by rw [hrest, List.append_assoc], hgroup⟩
  complete := by
    rintro s controller _ rest hedge ⟨subject, key, call, rfl, hsubject, hcall⟩ hs
    rw [List.append_assoc] at hs
    exact exists_mem_ends_registration hedge hsubject hcall hs
  unique := by
    rintro name name' _ _ rest rest' ⟨subject, key, call, rfl, hsubject, hcall⟩
      ⟨subject', key', call', rfl, hsubject', hcall'⟩ heq
    have hstop {key controller call : List Char} (h : CallText key controller call)
        (rest : List Char) :
        (call ++ rest).head?.all (fun c ↦ !(c != '.' && c != '\x7b')) = true := by
      obtain ⟨r, rfl⟩ := h.exists_cons
      rfl
    rw [List.append_assoc, List.append_assoc] at heq
    -- the first full stop ends the subject
    obtain ⟨-, hrest⟩ := append_inj_of_stop (plain_of_registrationSubject happ hsubject)
      (plain_of_registrationSubject happ hsubject') (hstop hcall _) (hstop hcall' _) heq
    exact (hcall.unique hcall' hrest).2
  ne_nil := by
    rintro name _ ⟨subject, key, call, rfl, -, hcall⟩
    obtain ⟨r, rfl⟩ := hcall.exists_cons
    simp

/-! ### Default imports -/

/-- The text of an import of a default binding. -/
def DefaultImportText (binding cs : List Char) : Prop :=
  IdentifierText binding ∧ ∃ source, ImportText binding source cs

/-- The form of default imports reads them from everywhere. -/
theorem tells_defaultImport : Tells defaultImport (fun _ ↦ True) DefaultImportText where
  sound {s s'} h := by
    simp only [defaultImport, List.append_assoc, mem_ends_concat_append, mem_ends_concat_cons,
      mem_ends_concat_nil, mem_ends_letters, mem_ends_someBlanks, mem_ends_group,
      mem_ends_identifier, mem_ends_quotedSpecifier] at h
    obtain ⟨_, ⟨r, hs, rfl⟩, _, ⟨_, ⟨w₁, r₁, hr, hne₁, hw₁, rfl⟩, _,
      ⟨_, ⟨x, r₂, hr₁, hx, rfl⟩, rfl⟩, _, ⟨w₂, r₃, hr₂, hne₂, hw₂, rfl⟩, rfl⟩, _,
      ⟨r₄, hr₃, rfl⟩, _, ⟨w₃, r₅, hr₄, hne₃, hw₃, rfl⟩, _,
      ⟨q, source, q', rest, hr₅, hq, hsource, hq', rfl⟩, rfl⟩ := h
    simp only [State.rest_after, State.capture_after] at hr hr₁ hr₂ hr₃ hr₄ hr₅
    subst hr hr₁ hr₂ hr₃ hr₄ hr₅
    refine ⟨trivial, x, _, ⟨hx, source, w₁, w₂, w₃, q, q', rfl, ⟨hne₁, hw₁⟩, ⟨hne₂, hw₂⟩,
      ⟨hne₃, hw₃⟩, hq, hsource, hq'⟩, ?_, ?_⟩
    · rw [hs]
      simp
    · rw [State.capture_after]
      exact congrArg some (Span.text_append x _)
  complete := by
    rintro s x _ rest - ⟨hx, source, w₁, w₂, w₃, q, q', rfl, ⟨hne₁, hw₁⟩, ⟨hne₂, hw₂⟩,
      ⟨hne₃, hw₃⟩, hq, hsource, hq'⟩ hs
    simp only [List.append_assoc, List.cons_append, List.nil_append] at hs
    simp only [defaultImport, List.append_assoc, mem_ends_concat_append, mem_ends_concat_cons,
      mem_ends_concat_nil, mem_ends_letters, mem_ends_someBlanks, mem_ends_group,
      mem_ends_identifier, mem_ends_quotedSpecifier]
    exact ⟨_, ⟨_, ⟨_, hs, rfl⟩, _, ⟨_, ⟨w₁, _, rfl, hne₁, hw₁, rfl⟩, _,
      ⟨_, ⟨x, _, rfl, hx, rfl⟩, rfl⟩, _, ⟨w₂, _, rfl, hne₂, hw₂, rfl⟩, rfl⟩, _, ⟨_, rfl, rfl⟩, _,
      ⟨w₃, _, rfl, hne₃, hw₃, rfl⟩, _, ⟨q, source, q', rest, rfl, hq, hsource, hq', rfl⟩, rfl⟩, rfl⟩
  unique := by
    rintro x y _ _ rest rest' ⟨hx, source, w₁, w₂, w₃, q, q', rfl, ⟨-, hw₁⟩, ⟨hne₂, hw₂⟩, -⟩
      ⟨hy, source', v₁, v₂, v₃, r, r', rfl, ⟨-, hv₁⟩, ⟨hne₂', hv₂⟩, -⟩ heq
    simp only [List.append_assoc] at heq
    obtain ⟨-, heq⟩ := append_inj_of_stop hw₁ hv₁ (hx.head?_append _) (hy.head?_append _)
      (List.append_cancel_left heq)
    have hstop {w : List Char} (hne : w ≠ []) (hw : Blanks w) (rest : List Char) :
        (w ++ rest).head?.all (!isPart ·) = true := by
      obtain ⟨c, w, rfl⟩ := List.exists_cons_of_ne_nil hne
      simp [isPart_of_isBlank (hw c List.mem_cons_self)]
    exact (append_inj_of_stop (fun c hc ↦ hx.isPart hc) (fun c hc ↦ hy.isPart hc)
      (hstop hne₂ hw₂ _) (hstop hne₂' hv₂ _) heq).1
  ne_nil := by
    rintro name _ ⟨-, source, w₁, w₂, w₃, q, q', rfl, -⟩
    simp

/-! ### Places of names -/

/-- No text starts both as a registration and as an import. -/
theorem not_defaultImportText_of_registrationText {application : String}
    (happ : isIdentifier application = true) {name name' cs cs' rest rest' : List Char}
    (h : RegistrationText application.toList name cs) (h' : DefaultImportText name' cs') :
    cs ++ rest ≠ cs' ++ rest' := by
  obtain ⟨subject, key, call, rfl, hsubject, hcall⟩ := h
  obtain ⟨hname, source, w₁, w₂, w₃, q, q', rfl, ⟨-, hw₁⟩, ⟨-, hw₂⟩, ⟨-, hw₃⟩, hq, -⟩ := h'
  obtain ⟨r, rfl⟩ := hcall.exists_cons
  -- before the first sign stand names and blanks, and the sign is a full stop or a quotation mark
  let p : Char → Bool := fun c ↦ isPart c || isBlank c
  have hpart {w : List Char} (hw : ∀ c ∈ w, isPart c = true) : ∀ c ∈ w, p c = true :=
    fun c hc ↦ by simp [p, hw c hc]
  have hblank {w : List Char} (hw : Blanks w) : ∀ c ∈ w, p c = true :=
    fun c hc ↦ by simp [p, hw c hc]
  have hfront : ∀ c ∈ subject, p c = true := by
    rcases hsubject with rfl | rfl
    · exact hpart (List.all_eq_true.mp (by decide +kernel))
    · intro c hc
      rcases isPart_or_lineFeed_of_isIdentifier happ hc with hc | rfl
      · simp [p, hc]
      · decide +kernel
  have hfront' : ∀ c ∈ "import".toList ++ (w₁ ++ (name' ++ (w₂ ++ ("from".toList ++ w₃)))),
      p c = true := by
    have hwords : ("import".toList ++ "from".toList).all isPart = true := by decide +kernel
    rw [List.all_append, Bool.and_eq_true] at hwords
    have himport := hpart (List.all_eq_true.mp hwords.1)
    have hfrom := hpart (List.all_eq_true.mp hwords.2)
    simp only [List.forall_mem_append]
    exact ⟨himport, hblank hw₁, hpart fun c hc ↦ hname.isPart hc, hblank hw₂, hfrom, hblank hw₃⟩
  have hstop : p '.' = false := by decide +kernel
  have hmark : p q = false := by
    rw [isQuote, Bool.or_eq_true, beq_iff_eq, beq_iff_eq] at hq
    rcases hq with rfl | rfl <;> decide +kernel
  intro heq
  have hsigns : subject ++ '.' :: (r ++ rest) =
      ("import".toList ++ (w₁ ++ (name' ++ (w₂ ++ ("from".toList ++ w₃))))) ++
        q :: (source ++ q' :: rest') := by simpa using heq
  obtain ⟨-, hrest⟩ := append_inj_of_stop hfront hfront' (by simp [hstop]) (by simp [hmark]) hsigns
  rw [← (List.cons.inj hrest).1] at hq
  exact absurd hq (by decide)

/-- A block names a controller at a place: it registers it there, or imports it by default. -/
def NamesAt (application block : String) (place : Nat) (name : String) : Prop :=
  FindsAt (registration application) block place name ∨
    FindsAt defaultImport block place name ∧ isControllerName name = true

theorem mem_controllerPlaces_iff {application block name : String} {place : Nat} :
    (place, name) ∈ controllerPlaces application block ↔ NamesAt application block place name := by
  simp only [controllerPlaces, List.mem_append, List.mem_filter, mem_namedPlaces_iff, NamesAt]

/-- Only one controller is named at a place. -/
theorem eq_of_namesAt {application block name name' : String} {place : Nat}
    (happ : isIdentifier application = true) (h : NamesAt application block place name)
    (h' : NamesAt application block place name') : name = name' := by
  have hdifferent {x y : String} (hx : FindsAt (registration application) block place x) :
      ¬ FindsAt defaultImport block place y := by
    intro hy
    obtain ⟨before, cs, rest, hsplit, hplace, -, htext⟩ :=
      (tells_registration happ).exists_of_findsAt hx
    obtain ⟨before', cs', rest', hsplit', hplace', -, htext'⟩ :=
      tells_defaultImport.exists_of_findsAt hy
    have hrest := (List.append_inj (hsplit.symm.trans hsplit') (hplace.trans hplace'.symm)).2
    exact not_defaultImportText_of_registrationText happ htext htext' hrest
  rcases h with h | ⟨h, -⟩ <;> rcases h' with h' | ⟨h', -⟩
  · exact (tells_registration happ).eq_of_findsAt h h'
  · exact absurd h' (hdifferent h)
  · exact absurd h (hdifferent h')
  · exact tells_defaultImport.eq_of_findsAt h h'

/-- The controllers of a block are the names that it names, unless the map has them or they have no
key. -/
theorem Application.Discovered.mem_blockControllers {a : Application} {names : List String}
    {block x : String} (h : a.Discovered names block) :
    x ∈ a.blockControllers ↔
      (∃ place, NamesAt a.name block place x) ∧ x ∉ a.mapControllers ∧ identifier x ≠ "" := by
  have hblock : a.blockControllers = discoverControllers a.mapControllers a.name block := by
    rw [h]
    rfl
  rw [hblock, mem_discoverControllers, Candidate]
  simp only [mem_controllerPlaces_iff, Bool.eq_false_iff, ne_eq, String.isEmpty_iff]
  constructor
  · rintro ⟨hknown, hkey, hplace⟩
    exact ⟨hplace, hknown, hkey⟩
  · rintro ⟨hplace, hknown, hkey⟩
    exact ⟨hknown, hkey, hplace⟩

/-- What a block names is a controller, if it has a key. -/
theorem Application.Discovered.mem_controllers_of_namesAt {a : Application} {names : List String}
    {block x : String} {place : Nat} (h : a.Discovered names block)
    (hx : NamesAt a.name block place x) (hkey : identifier x ≠ "") : x ∈ a.controllers := by
  by_cases hmap : x ∈ a.mapControllers
  · exact List.mem_append_left _ hmap
  · exact List.mem_append_right _ (h.mem_blockControllers.mpr ⟨⟨place, hx⟩, hmap, hkey⟩)

/-! ### The order of discovery -/

/-- The first place at which a block names a controller. -/
def FirstNamedAt (application block : String) (place : Nat) (name : String) : Prop :=
  NamesAt application block place name ∧ ∀ p, NamesAt application block p name → place ≤ p

/-- Names with their places are sorted by their places. -/
private theorem pairwise_sortByPlace (found : List (Nat × String)) :
    (sortByPlace found).Pairwise (·.1 ≤ ·.1) := by
  have h := Sorting.pairwise_sortBy
    (fun a b : Nat × String ↦ a.1 < b.1 || (a.1 == b.1 && decide (a.2 ≤ b.2))) ?_ ?_ found
  · refine h.imp fun {a b} hab ↦ ?_
    simp only [Bool.or_eq_true, decide_eq_true_eq, Bool.and_eq_true, beq_iff_eq] at hab
    omega
  · intro a b
    simp only [Bool.or_eq_true, decide_eq_true_eq, Bool.and_eq_true, beq_iff_eq]
    rcases Nat.lt_trichotomy a.1 b.1 with hlt | heq | hlt
    · exact .inl (.inl hlt)
    · exact (String.le_total a.2 b.2).imp (fun h ↦ .inr ⟨heq, h⟩) fun h ↦ .inr ⟨heq.symm, h⟩
    · exact .inr (.inl hlt)
  · intro a b c
    simp only [Bool.or_eq_true, decide_eq_true_eq, Bool.and_eq_true, beq_iff_eq]
    rintro (hab | ⟨hab, hle⟩) (hbc | ⟨hbc, hle'⟩)
    · exact .inl (by omega)
    · exact .inl (by omega)
    · exact .inl (by omega)
    · exact .inr ⟨by omega, String.le_trans hle hle'⟩

/-- The controllers of a block come in the order of the places at which the block names them
first. -/
theorem pairwise_discoverControllers {application : String} (happ : isIdentifier application = true)
    (known : List String) (block : String) :
    (discoverControllers known application block).Pairwise fun x y ↦
      ∃ p q, FirstNamedAt application block p x ∧ FirstNamedAt application block q y ∧ p < q := by
  let isNew (name : String) : Bool := !(known.contains name || (identifier name).isEmpty)
  let found := (sortByPlace (controllerPlaces application block)).filter (isNew ·.2)
  have hfound : discoverControllers known application block = (found.map (·.2)).eraseDups := by
    rw [discoverControllers_eq, List.filter_map]
    rfl
  have hmem {p : Nat} {x : String} : (p, x) ∈ found ↔
      NamesAt application block p x ∧ isNew x = true := by
    rw [List.mem_filter, sortByPlace, (Sorting.sortBy_perm _ _).mem_iff, mem_controllerPlaces_iff]
  -- what is left out by its name does not change the places of the others
  have hfirst {p : Nat} {x : String} (h : FirstOccurrence.FirstAt found x p) :
      FirstNamedAt application block p x :=
    have hx := hmem.mp h.1
    ⟨hx.1, fun q hq ↦ h.2 q (hmem.mpr ⟨hq, hx.2⟩)⟩
  have hpairs := FirstOccurrence.pairwise_eraseDups_of_places
    ((pairwise_sortByPlace (controllerPlaces application block)).filter (isNew ·.2))
  rw [hfound]
  refine (hpairs.and (FirstOccurrence.nodup_eraseDups _)).imp ?_
  rintro x y ⟨⟨p, q, hp, hq, hle⟩, hne⟩
  refine ⟨p, q, hfirst hp, hfirst hq, Nat.lt_of_le_of_ne hle ?_⟩
  rintro rfl
  exact hne (eq_of_namesAt happ (hfirst hp).1 (hfirst hq).1)

end ModuleScript.Stimulus
