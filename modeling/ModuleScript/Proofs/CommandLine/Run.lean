import ModuleScript.CommandLine.Run
import ModuleScript.Proofs.Cache.Holding

/-!
# How a command ends

What a command gives does not depend on what was logged before. A command itself logs nothing as an
error, so that an error is logged once if it ends the command, and not at all otherwise.
-/

namespace ModuleScript.CommandLine

variable {α β : Type}

/-! ### Results -/

/-- A computation has this result, whatever was logged before. -/
def EndsWith (x : Run α) (result : Except Ending α) : Prop :=
  ∀ records, (x.run records).1 = result

theorem endsWith_pure (a : α) : EndsWith (pure a) (.ok a) := fun _ ↦ rfl

theorem endsWith_throw (ending : Ending) : EndsWith (throw ending : Run α) (.error ending) :=
  fun _ ↦ rfl

theorem endsWith_log (level : Level) (message : String) : EndsWith (log level message) (.ok ()) :=
  fun _ ↦ rfl

/-- What does not end hands its value on. -/
theorem EndsWith.bind {x : Run α} {f : α → Run β} {a : α} {result : Except Ending β}
    (hx : EndsWith x (.ok a)) (hf : EndsWith (f a) result) : EndsWith (x >>= f) result := by
  intro records
  have hvalue := hx records
  rw [Cache.run_bind]
  rcases hrun : x.run records with ⟨ending | value, later⟩
  · rw [hrun] at hvalue
    exact absurd hvalue (by simp)
  · rw [hrun] at hvalue
    obtain rfl := Except.ok.inj hvalue
    exact hf later

/-- What ends does not go on. -/
theorem EndsWith.bind_error {x : Run α} {ending : Ending} (hx : EndsWith x (.error ending))
    (f : α → Run β) : EndsWith (x >>= f) (.error ending) := by
  intro records
  have hending := hx records
  rw [Cache.run_bind]
  rcases hrun : x.run records with ⟨other | value, later⟩
  · rw [hrun] at hending
    rw [Except.error.inj hending]
  · rw [hrun] at hending
    exact absurd hending (by simp)

/-- A computation ends with the failures that are told, and with no other one. -/
def FailsAs (x : Run α) (q : Failure → Prop) : Prop :=
  ∃ result, EndsWith x result ∧ ∀ f, result = .error (.failure f) ↔ q f

/-- A computation ends early, by a logged error or by a failure that is told. -/
def EndsEarly (x : Run α) (q : Failure → Prop) : Prop :=
  ∃ ending, EndsWith x (.error ending) ∧ ∀ f, ending = .failure f ↔ q f

section FailsAs

variable {x : Run α} {f : α → Run β} {q q' : Failure → Prop}

theorem EndsWith.endsEarly_of_logged {message : String}
    (h : EndsWith x (.error (.logged message))) (hq : ∀ f, ¬ q f) : EndsEarly x q :=
  ⟨_, h, fun f ↦ ⟨fun heq ↦ absurd heq (by simp), fun hf ↦ absurd hf (hq f)⟩⟩

theorem EndsWith.endsEarly_of_failure {failure : Failure}
    (h : EndsWith x (.error (.failure failure))) (hq : ∀ f, q f ↔ f = failure) : EndsEarly x q :=
  ⟨_, h, fun f ↦ by rw [hq, Ending.failure.injEq, eq_comm]⟩

/-- What ends early does so whatever would follow. -/
theorem EndsEarly.bind (h : EndsEarly x q) (f : α → Run β) : EndsEarly (x >>= f) q := by
  obtain ⟨ending, hending, hq⟩ := h
  exact ⟨ending, hending.bind_error f, hq⟩

theorem EndsEarly.failsAs (h : EndsEarly x q) : FailsAs x q := by
  obtain ⟨ending, hending, hq⟩ := h
  exact ⟨_, hending, fun f ↦ by rw [Except.error.injEq, hq]⟩

theorem EndsWith.failsAs_of_ok {a : α} (h : EndsWith x (.ok a)) (hq : ∀ f, ¬ q f) : FailsAs x q :=
  ⟨_, h, fun f ↦ ⟨fun heq ↦ absurd heq (by simp), fun hf ↦ absurd hf (hq f)⟩⟩

theorem FailsAs.congr (h : FailsAs x q) (hq : ∀ f, q f ↔ q' f) : FailsAs x q' := by
  obtain ⟨result, hresult, hfails⟩ := h
  exact ⟨result, hresult, fun f ↦ (hfails f).trans (hq f)⟩

/-- What goes on fails as what follows does. -/
theorem FailsAs.bind {a : α} (hx : EndsWith x (.ok a)) (hf : FailsAs (f a) q) :
    FailsAs (x >>= f) q := by
  obtain ⟨result, hresult, hq⟩ := hf
  exact ⟨result, hx.bind hresult, hq⟩

end FailsAs

/-! ### Records -/

/-- A computation logs no error. -/
def Quiet (x : Run α) : Prop :=
  ∀ records, (∀ r ∈ records, r.level ≠ .error) → ∀ r ∈ (x.run records).2, r.level ≠ .error

theorem quiet_pure (a : α) : Quiet (pure a) := fun _ h ↦ h

theorem quiet_throw (ending : Ending) : Quiet (throw ending : Run α) := fun _ h ↦ h

theorem quiet_log {level : Level} (hlevel : level ≠ .error) (message : String) :
    Quiet (log level message) := fun _ h ↦ List.forall_mem_cons.mpr ⟨hlevel, h⟩

theorem Quiet.bind {x : Run α} {f : α → Run β} (hx : Quiet x) (hf : ∀ a, Quiet (f a)) :
    Quiet (x >>= f) := by
  intro records h
  have hlater := hx records h
  rw [Cache.run_bind]
  rcases hrun : x.run records with ⟨ending | value, later⟩
  · rw [hrun] at hlater
    exact hlater
  · rw [hrun] at hlater
    exact hf value later hlater

variable {engine : Engine} {inputs : Inputs}

theorem quiet_textOf (bytes : List UInt8) : Quiet (textOf bytes) := by
  rw [textOf]
  split
  · exact quiet_pure _
  · exact quiet_throw _

theorem quiet_readText (path : String) : Quiet (readText inputs path) := by
  rw [readText]
  split
  · exact quiet_throw _
  · split
    · exact quiet_textOf _
    · exact quiet_throw _
    · exact quiet_throw _
    · exact quiet_throw _
    · exact quiet_throw _

theorem quiet_readScript (path : String) : Quiet (readScript inputs path) := by
  rw [readScript]
  split
  · exact (quiet_textOf _).bind fun text ↦ quiet_pure _
  · exact (quiet_readText path).bind fun text ↦ quiet_pure _

theorem quiet_readJson (text : List Char) : Quiet (readJson text) := by
  rw [readJson]
  split
  · exact quiet_pure _
  · exact quiet_throw _
  · exact quiet_throw _
  · exact quiet_throw _

theorem quiet_importMapOf (v : Value) : Quiet (importMapOf v) := by
  rw [importMapOf]
  split
  · exact quiet_throw _
  · split
    · exact quiet_pure _
    · split
      · exact quiet_throw _
      · exact quiet_throw _
      · exact quiet_throw _
      · exact quiet_throw _
      · exact quiet_throw _

theorem quiet_readImportMap (path : Option String) : Quiet (readImportMap inputs path) := by
  rw [readImportMap]
  split
  · exact (quiet_readText _).bind fun text ↦ (quiet_readJson text).bind quiet_importMapOf
  · exact quiet_pure _

theorem quiet_rendered (run : ExceptT Engine.Fault (StateM Store) String) :
    Quiet (rendered run) := by
  rw [rendered]
  split
  · exact quiet_pure _
  · exact quiet_throw _
  · exact quiet_throw _

theorem quiet_warnUnknown (framework : String) : Quiet (warnUnknown engine framework) := by
  rw [warnUnknown]
  split
  · exact quiet_pure _
  · exact quiet_log (by decide) _

theorem quiet_needNames (m : LooseMap) (isFit : Value → Bool) (fault : Value → ImportMap.Fault) :
    Quiet (needNames m isFit fault) := by
  rw [needNames]
  split
  · exact quiet_throw _
  · exact quiet_pure _

/-- An application needs names that are texts before anything else. -/
theorem takeMap_application (m : LooseMap) (looksUp : Bool) : takeMap m true looksUp = (do
    needNames m (·.points?.isSome) .unsearchableName
    takeMap m false looksUp) := by
  cases looksUp <;> rfl

/-- Names that are looked up have to be keys. -/
theorem takeMap_lookingUp (m : LooseMap) : takeMap m false true = (do
    needNames m (·.isKey) .noKey
    takeMap m false false) := rfl

/-- A map without a key is refused. -/
theorem takeMap_unkeyed {m : LooseMap} {fault : KeyFault} (h : m.contentKey? = .error fault) :
    takeMap m false false = refuse fault.message := by
  simp [takeMap, h]

/-- Names of a map with a key have to be texts. -/
theorem takeMap_keyed {m : LooseMap} {key : String} (h : m.contentKey? = .ok key) :
    takeMap m false false = needNames m (·.points?.isSome) .unsearchableName := by
  simp [takeMap, h]

theorem quiet_takeMap (m : LooseMap) (isApplication looksUp : Bool) :
    Quiet (takeMap m isApplication looksUp) := by
  have hkey : Quiet (takeMap m false false) := by
    cases hm : m.contentKey? with
    | error fault =>
      rw [takeMap_unkeyed hm]
      exact quiet_throw _
    | ok key =>
      rw [takeMap_keyed hm]
      exact quiet_needNames m _ _
  have hplain : Quiet (takeMap m false looksUp) := by
    cases looksUp with
    | false => exact hkey
    | true => exact (quiet_needNames m _ _).bind fun _ ↦ hkey
  cases isApplication with
  | false => exact hplain
  | true =>
    rw [takeMap_application]
    exact (quiet_needNames m _ _).bind fun _ ↦ hplain

theorem quiet_takeMapFor (o : RenderOptions) (m : LooseMap) (r : Except Renderer.Fault Renderer) :
    Quiet (takeMapFor o m r) := by
  cases r with
  | ok r => exact quiet_takeMap m _ _
  | error fault => exact quiet_pure _

theorem quiet_render (path : String) (o : RenderOptions) : Quiet (render engine inputs path o) := by
  rw [render]
  refine (quiet_readScript path).bind fun script ↦ (quiet_readImportMap _).bind fun m ↦
    (quiet_log (by decide) _).bind fun _ ↦ ?_
  split
  · refine (quiet_warnUnknown _).bind fun _ ↦ (quiet_takeMapFor o m _).bind fun _ ↦ ?_
    split
    · exact quiet_rendered _
    · exact quiet_rendered _
  · exact (quiet_takeMapFor o m _).bind fun _ ↦ quiet_rendered _

theorem quiet_analyze (path : String) (withComplexity : Bool) :
    Quiet (analyze engine inputs path withComplexity) := by
  rw [analyze]
  refine (quiet_readScript path).bind fun script ↦ (quiet_log (by decide) _).bind fun _ ↦ ?_
  dsimp only
  split
  · exact quiet_pure _
  · exact quiet_throw _

/-- No command logs an error by itself. -/
theorem quiet_run (c : Command) : Quiet (c.run engine inputs) := by
  cases c with
  | analyze script withComplexity => exact quiet_analyze script withComplexity
  | render script o => exact quiet_render script o
  | frameworks => exact quiet_pure _

/-! ### Outcomes -/

/-- What a command leaves behind, by its result and what it logged, latest first. -/
def concluded (records : List Record) : Except Ending String → Except Failure Outcome
  | .ok output => .ok { exitCode := 0, output := output ++ "\n", records := records.reverse }
  | .error (.logged message) => .ok {
      exitCode := 1
      records := (({ source := "main", level := .error, message } : Record) :: records).reverse }
  | .error (.failure f) => .error f

/-- The record that is there before the command itself logs anything. -/
def firstRecords : List Record := [loadingRecord RuleSet.bundled]

theorem run_eq_concluded {i : Invocation} (hlevel : i.level ≠ none) :
    i.run inputs = concluded ((i.command.run {} inputs).run firstRecords).2
      ((i.command.run {} inputs).run firstRecords).1 := by
  have hsome : i.level.isNone = false :=
    Option.isNone_eq_false_iff.mpr (Option.isSome_iff_ne_none.mpr hlevel)
  have hrecords : [loadingRecord ({} : Engine).analyzer.rules] = firstRecords := rfl
  rw [Invocation.run, hsome]
  simp only [hrecords, Bool.false_eq_true, if_false]
  rcases (i.command.run {} inputs).run firstRecords with ⟨(message | f) | output, records⟩
  · rfl
  · rfl
  · rfl

/-- An outcome with exit code zero and no error in the log, or with code one, no output and exactly
one error. -/
def Outcome.Orderly (outcome : Outcome) : Prop :=
  (outcome.exitCode = 0 ∧ outcome.records.countP (·.level = .error) = 0) ∨
    (outcome.exitCode = 1 ∧ outcome.output = "" ∧
      outcome.records.countP (·.level = .error) = 1)

/-- Whatever is carried out ends orderly. -/
theorem orderly_of_run {i : Invocation} {outcome : Outcome} (h : i.run inputs = .ok outcome) :
    outcome.Orderly := by
  by_cases hlevel : i.level = none
  · rw [Invocation.run, hlevel] at h
    exact absurd h (by simp [bind, Except.bind, throw, throwThe, MonadExceptOf.throw])
  · rw [run_eq_concluded hlevel] at h
    have hcommand : Quiet (i.command.run {} inputs) := quiet_run i.command
    have hquiet := hcommand firstRecords (by simp [firstRecords, loadingRecord])
    have hcount : ((i.command.run {} inputs).run firstRecords).2.countP
        (·.level = .error) = 0 := by simpa [List.countP_eq_zero] using hquiet
    rcases hrun : (i.command.run {} inputs).run firstRecords with
      ⟨(message | f) | output, records⟩ <;> rw [hrun] at h hcount
    · obtain rfl := Except.ok.inj h
      refine .inr ⟨rfl, rfl, ?_⟩
      rw [List.countP_reverse, List.countP_cons, hcount]
      rfl
    · exact absurd h (by simp [concluded])
    · obtain rfl := Except.ok.inj h
      exact .inl ⟨rfl, by rw [List.countP_reverse, hcount]⟩

/-- A command that has a level for the log fails as its computation does. -/
theorem FailsAs.run_eq_error_iff {i : Invocation} {q : Failure → Prop} {f : Failure}
    (h : FailsAs (i.command.run {} inputs) q) (hlevel : i.level ≠ none) :
    i.run inputs = .error f ↔ q f := by
  obtain ⟨result, hresult, hq⟩ := h
  rw [run_eq_concluded hlevel, hresult firstRecords, ← hq]
  rcases result with (message | f') | output
  · simp [concluded]
  · simp [concluded]
  · simp [concluded]

end ModuleScript.CommandLine
