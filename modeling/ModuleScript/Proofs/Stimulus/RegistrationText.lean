import ModuleScript.Proofs.Script.Names
import ModuleScript.Proofs.Stimulus.StatementText

/-!
# The text of a registration

A registration names its subject, which is Stimulus or the application, and then calls it with a
key and a controller. The form of registrations reads such a text from every place at the edge of a
word and keeps the controller, which is determined by the call.
-/

namespace ModuleScript.Stimulus

open Pattern Pattern.Node Text Script

/-- What a controller is registered with. -/
def RegistrationSubject (application cs : List Char) : Prop :=
  cs = "Stimulus".toList ∨ cs = application

/-- The call behind the subject, up to its key. -/
def KeyText (key cs : List Char) : Prop :=
  ∃ w₁ w₂ q q', cs = ".register".toList ++ (w₁ ++ '(' :: (w₂ ++ q :: (key ++ [q']))) ∧
    Blanks w₁ ∧ Blanks w₂ ∧ isQuote q = true ∧ SpecifierText key ∧ isQuote q' = true

/-- The rest of the call, with the controller. -/
def ControllerText (controller cs : List Char) : Prop :=
  ∃ w₁ w₂ w₃, cs = w₁ ++ ',' :: (w₂ ++ (controller ++ (w₃ ++ [')']))) ∧
    Blanks w₁ ∧ Blanks w₂ ∧ IdentifierText controller ∧ Blanks w₃

/-- The call that registers a controller under a key. -/
def CallText (key controller cs : List Char) : Prop :=
  ∃ u v, cs = u ++ v ∧ KeyText key u ∧ ControllerText controller v

/-! ### Calls are determined -/

variable {key key' controller controller' call call' rest rest' : List Char}

/-- The key of a call and what follows it are determined. -/
theorem KeyText.unique {u v : List Char} (h : KeyText key u) (h' : KeyText key' v)
    (heq : u ++ rest = v ++ rest') : key = key' ∧ rest = rest' := by
  obtain ⟨w₁, w₂, q, _, rfl, hw₁, hw₂, hq, hkey, hq'⟩ := h
  obtain ⟨v₁, v₂, r, _, rfl, hv₁, hv₂, hr, hkey', hr'⟩ := h'
  simp only [List.append_assoc, List.cons_append, List.nil_append] at heq
  have hopen : isBlank '(' = false := by decide
  obtain ⟨-, heq⟩ := append_inj_of_stop hw₁ hv₁ (by simp [hopen]) (by simp [hopen])
    (List.append_cancel_left heq)
  obtain ⟨-, heq⟩ := append_inj_of_stop hw₂ hv₂ (by simp [isBlank_of_isQuote hq])
    (by simp [isBlank_of_isQuote hr]) (List.cons.inj heq).2
  obtain ⟨hkeys, heq⟩ := append_inj_of_stop (p := (!isQuote ·)) (by simpa using hkey.2)
    (by simpa using hkey'.2) (by simp [hq']) (by simp [hr']) (List.cons.inj heq).2
  exact ⟨hkeys, (List.cons.inj heq).2⟩

/-- The controller of a call is determined. -/
theorem ControllerText.unique {u v : List Char} (h : ControllerText controller u)
    (h' : ControllerText controller' v) (heq : u ++ rest = v ++ rest') :
    controller = controller' := by
  obtain ⟨w₁, w₂, w₃, rfl, hw₁, hw₂, hx, hw₃⟩ := h
  obtain ⟨v₁, v₂, v₃, rfl, hv₁, hv₂, hy, hv₃⟩ := h'
  simp only [List.append_assoc, List.cons_append, List.nil_append] at heq
  have hcomma : isBlank ',' = false := by decide
  obtain ⟨-, heq⟩ := append_inj_of_stop hw₁ hv₁ (by simp [hcomma]) (by simp [hcomma]) heq
  obtain ⟨-, heq⟩ := append_inj_of_stop hw₂ hv₂ (hx.head?_append _) (hy.head?_append _)
    (List.cons.inj heq).2
  -- a controller goes on as long as it can
  have hstop {w : List Char} (hw : Blanks w) (rest : List Char) :
      (w ++ ')' :: rest).head?.all (!isPart ·) = true := by
    cases w with
    | nil =>
      have hclose : isPart ')' = false := by decide +kernel
      simp [hclose]
    | cons c w => simp [isPart_of_isBlank (hw c List.mem_cons_self)]
  exact (append_inj_of_stop (fun c hc ↦ hx.isPart hc) (fun c hc ↦ hy.isPart hc) (hstop hw₃ _)
    (hstop hv₃ _) heq).1

/-- The call determines the key and the controller, whatever follows it. -/
theorem CallText.unique (h : CallText key controller call) (h' : CallText key' controller' call')
    (heq : call ++ rest = call' ++ rest') : key = key' ∧ controller = controller' := by
  obtain ⟨u, v, rfl, hkey, hcontroller⟩ := h
  obtain ⟨u', v', rfl, hkey', hcontroller'⟩ := h'
  rw [List.append_assoc, List.append_assoc] at heq
  obtain ⟨hkeys, hrest⟩ := hkey.unique hkey' heq
  exact ⟨hkeys, hcontroller.unique hcontroller' hrest⟩

/-- A call starts with a full stop. -/
theorem CallText.exists_cons (h : CallText key controller call) : ∃ rest, call = '.' :: rest := by
  obtain ⟨_, v, rfl, ⟨w₁, w₂, q, q', rfl, -⟩, -⟩ := h
  exact ⟨"register".toList ++ (w₁ ++ '(' :: (w₂ ++ q :: (key ++ [q']))) ++ v, by simp⟩

/-! ### The form of registrations -/

/-- The pattern of a call up to its key. -/
def keyForm : List Node :=
  letters ".register" ++ [blanks, char (.single '('), blanks, Analysis.quoteMark,
    Analysis.specifier, Analysis.quoteMark]

/-- The pattern of the rest of a call. -/
def controllerForm : List Node :=
  [blanks, char (.single ','), blanks, group 1 Script.identifier, blanks, char (.single ')')]

theorem registration_eq (application : String) :
    registration application = concat ([anchor .wordEdge,
      anyOf [literal "Stimulus", literal application]] ++ (keyForm ++ controllerForm)) := by
  simp only [registration, keyForm, controllerForm, List.append_assoc, List.cons_append,
    List.nil_append]

variable {s s' : State}

private theorem mem_ends_keyForm : s' ∈ (concat keyForm).ends s ↔
    ∃ key cs rest, s.rest = cs ++ rest ∧ KeyText key cs ∧ s' = s.after cs rest [] := by
  simp only [keyForm, mem_ends_concat_append, mem_ends_concat_cons, mem_ends_concat_nil,
    mem_ends_letters, mem_ends_blanks, mem_ends_char, mem_ends_quoteMark, mem_ends_specifier,
    contains_single]
  constructor
  · rintro ⟨_, ⟨r, hs, rfl⟩, _, ⟨w₁, r₁, hr, hw₁, rfl⟩, _, ⟨_, r₂, hr₁, rfl, rfl⟩, _,
      ⟨w₂, r₃, hr₂, hw₂, rfl⟩, _, ⟨q, r₄, hr₃, hq, rfl⟩, _, ⟨key, r₅, hr₄, hkey, rfl⟩, _,
      ⟨q', rest, hr₅, hq', rfl⟩, rfl⟩
    simp only [State.rest_after] at hr hr₁ hr₂ hr₃ hr₄ hr₅
    subst hr hr₁ hr₂ hr₃ hr₄ hr₅
    exact ⟨key, _, rest, by simpa using hs, ⟨w₁, w₂, q, q', rfl, hw₁, hw₂, hq, hkey, hq'⟩, by simp⟩
  · rintro ⟨key, _, rest, hs, ⟨w₁, w₂, q, q', rfl, hw₁, hw₂, hq, hkey, hq'⟩, rfl⟩
    simp only [List.append_assoc, List.cons_append, List.nil_append] at hs
    exact ⟨_, ⟨_, hs, rfl⟩, _, ⟨w₁, _, rfl, hw₁, rfl⟩, _, ⟨_, _, rfl, rfl, rfl⟩, _,
      ⟨w₂, _, rfl, hw₂, rfl⟩, _, ⟨q, _, rfl, hq, rfl⟩, _, ⟨key, _, rfl, hkey, rfl⟩, _,
      ⟨q', rest, rfl, hq', rfl⟩, by simp⟩

private theorem of_mem_ends_controllerForm (h : s' ∈ (concat controllerForm).ends s) :
    ∃ controller cs, s.rest = cs ++ s'.rest ∧ ControllerText controller cs ∧
      s'.group? 1 = some (String.ofList controller) := by
  simp only [controllerForm, mem_ends_concat_cons, mem_ends_concat_nil, mem_ends_blanks,
    mem_ends_char, mem_ends_group, mem_ends_identifier, contains_single] at h
  obtain ⟨_, ⟨w₁, r, hs, hw₁, rfl⟩, _, ⟨_, r₁, hr, rfl, rfl⟩, _, ⟨w₂, r₂, hr₁, hw₂, rfl⟩, _,
    ⟨_, ⟨x, r₃, hr₂, hx, rfl⟩, rfl⟩, _, ⟨w₃, r₄, hr₃, hw₃, rfl⟩, _, ⟨_, rest, hr₄, rfl, rfl⟩,
    rfl⟩ := h
  simp only [State.rest_after, State.capture_after] at hr hr₁ hr₂ hr₃ hr₄
  subst hr hr₁ hr₂ hr₃ hr₄
  refine ⟨x, _, ?_, ⟨w₁, w₂, w₃, rfl, hw₁, hw₂, hx, hw₃⟩, ?_⟩
  · rw [hs]
    simp
  · rw [State.capture_after]
    simp [State.group?, Span.text_append]

private theorem exists_mem_ends_controllerForm {cs : List Char} (h : ControllerText controller cs)
    (hs : s.rest = cs ++ rest) : ∃ s' ∈ (concat controllerForm).ends s, s'.rest = rest := by
  obtain ⟨w₁, w₂, w₃, rfl, hw₁, hw₂, hx, hw₃⟩ := h
  simp only [List.append_assoc, List.cons_append, List.nil_append] at hs
  simp only [controllerForm, mem_ends_concat_cons, mem_ends_concat_nil, mem_ends_blanks,
    mem_ends_char, mem_ends_group, mem_ends_identifier, contains_single]
  exact ⟨_, ⟨_, ⟨w₁, _, hs, hw₁, rfl⟩, _, ⟨_, _, rfl, rfl, rfl⟩, _, ⟨w₂, _, rfl, hw₂, rfl⟩, _,
    ⟨_, ⟨controller, _, rfl, hx, rfl⟩, rfl⟩, _, ⟨w₃, _, rfl, hw₃, rfl⟩, _, ⟨_, rest, rfl, rfl, rfl⟩,
    rfl⟩, rfl⟩

private theorem mem_ends_registrationSubject (application : String) :
    s' ∈ (anyOf [literal "Stimulus", literal application]).ends s ↔
      ∃ subject rest, s.rest = subject ++ rest ∧
        RegistrationSubject application.toList subject ∧ s' = s.after subject rest [] := by
  simp only [mem_ends_anyOf_cons, mem_ends_anyOf_singleton, mem_ends_literal]
  constructor
  · rintro (⟨rest, hs, rfl⟩ | ⟨rest, hs, rfl⟩)
    · exact ⟨_, rest, hs, .inl rfl, rfl⟩
    · exact ⟨_, rest, hs, .inr rfl, rfl⟩
  · rintro ⟨_, rest, hs, rfl | rfl, rfl⟩
    · exact .inl ⟨rest, hs, rfl⟩
    · exact .inr ⟨rest, hs, rfl⟩

/-- What the form reads is a registration, of which it keeps the controller. -/
theorem of_mem_ends_registration {application : String}
    (h : s' ∈ (registration application).ends s) :
    s.atWordEdge = true ∧ ∃ subject key controller call,
      RegistrationSubject application.toList subject ∧ CallText key controller call ∧
      s.rest = subject ++ (call ++ s'.rest) ∧ s'.group? 1 = some (String.ofList controller) := by
  simp only [registration_eq, mem_ends_concat_append, mem_ends_concat_cons, mem_ends_concat_nil,
    mem_ends_anchor, mem_ends_registrationSubject, mem_ends_keyForm] at h
  obtain ⟨_, ⟨_, ⟨rfl, hedge⟩, _, ⟨subject, r, hs, hsubject, rfl⟩, rfl⟩, _,
    ⟨key, u, r', hr, hkey, rfl⟩, hend⟩ := h
  obtain ⟨controller, v, hr', hcontroller, hgroup⟩ := of_mem_ends_controllerForm hend
  rw [State.rest_after] at hr hr'
  exact ⟨hedge, subject, key, controller, u ++ v, hsubject, ⟨u, v, rfl, hkey, hcontroller⟩,
    by rw [hs, hr, hr', List.append_assoc], hgroup⟩

/-- Every registration at the edge of a word is read. -/
theorem exists_mem_ends_registration {application : String} {subject : List Char}
    (hedge : s.atWordEdge = true) (hsubject : RegistrationSubject application.toList subject)
    (hcall : CallText key controller call) (hs : s.rest = subject ++ (call ++ rest)) :
    ∃ s' ∈ (registration application).ends s, s'.rest = rest := by
  obtain ⟨u, v, rfl, hkey, hcontroller⟩ := hcall
  rw [List.append_assoc] at hs
  obtain ⟨s', hs', hrest⟩ := exists_mem_ends_controllerForm hcontroller
    (State.rest_after (s.after subject (u ++ (v ++ rest)) []) u (v ++ rest) [])
  simp only [registration_eq, mem_ends_concat_append, mem_ends_concat_cons, mem_ends_concat_nil,
    mem_ends_anchor, mem_ends_registrationSubject, mem_ends_keyForm]
  exact ⟨s', ⟨_, ⟨s, ⟨rfl, hedge⟩, _, ⟨subject, _, hs, hsubject, rfl⟩, rfl⟩, _,
    ⟨key, u, _, rfl, hkey, rfl⟩, hs'⟩, hrest⟩

end ModuleScript.Stimulus
