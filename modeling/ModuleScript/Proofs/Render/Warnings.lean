import ModuleScript.Proofs.Analysis.Answers
import ModuleScript.Proofs.Render.Requests
import ModuleScript.Proofs.Script.Parts

/-!
# Scripts with warnings

Without caches, a script with warnings has a comment for each piece of advice on what is missing,
between its imports and the rest. A store that holds nothing but a renderer's own texts, findings
and specifiers under its keys gives that script. What warns can be told from the script.
-/

namespace ModuleScript

open Store

/-! ### Texts without caches -/

/-- What the analyzer's own rules make of a block, without caches. -/
def Analyzer.outcome (a : Analyzer) (block : String) : Except RenderFault Findings :=
  (Analysis.findings a.rules block).mapError .analysis

namespace Renderer

/-- What the rules of the analyzer find in the block, nothing if analysis is off. -/
def ownFindings (r : Renderer) : Except RenderFault Findings :=
  match r.analyzer with
  | some analyzer => analyzer.outcome r.block
  | none => .ok {}

/-- They are what the analyzer's own rules find. -/
theorem ownFindings_of_finds {r : Renderer} {a : Analyzer} {found : Findings}
    (ha : r.analyzer = some a) (h : a.Finds r.block found) : r.ownFindings = .ok found := by
  rw [Analyzer.Finds] at h
  rw [ownFindings, ha]
  change (Analysis.findings a.rules r.block).mapError _ = _
  rw [h]
  rfl

/-- The specifiers that the block imports, none if analysis is off. -/
def specifiers (r : Renderer) : List String :=
  match r.analyzer with
  | some _ => Analysis.existingImports r.block
  | none => []

/-- Advice on libraries and modules by the rules of the analyzer, none if analysis is off. -/
def advice (r : Renderer) (external localModules : List String) : List String :=
  match r.analyzer with
  | some analyzer => Analysis.suggestions analyzer.rules external localModules
  | none => []

/-- The names that the script can import already. -/
def providedNames (r : Renderer) (m : ImportMap) : List String :=
  m.names ++ r.specifiers ++ r.ownNames

/-- Findings without what can be imported already, with advice on what is left. -/
def withoutProvided (r : Renderer) (m : ImportMap) (found : Findings) : Findings :=
  if found.isEmpty then {}
  else
    let isMissing (name : String) : Bool := !(r.providedNames m).contains name
    let external := found.external.filter isMissing
    let localModules := found.localModules.filter isMissing
    { external, localModules, suggestions := r.advice external localModules }

/-- The warnings as comments, one to a line. -/
def warningText (r : Renderer) (m : ImportMap) : Except RenderFault String :=
  r.ownFindings.map fun found ↦
    Text.joinLines ((r.withoutProvided m found).suggestions.map warningLine)

/-- The script in its tag, with imports and warnings at its head. -/
def warnedScript (r : Renderer) (imports warnings : String) : String :=
  Script.wrap (Script.joinParts [Script.joinFilled "\n" [imports, warnings], r.bodyText])

/-- The script with warnings. -/
def warnedText (r : Renderer) (m : ImportMap) : Except RenderFault String := do
  let warnings ← r.warningText m
  let imports ← r.importText m
  return r.warnedScript imports warnings

/-- Parts that are texts can always be joined, whatever stands between them. -/
theorem joinFilled_text (sep : String) (parts : List String) :
    joinFilled sep (parts.map .text) = .ok (Script.joinFilled sep parts) := by
  rw [joinFilled, mapM_partText_text]
  rfl

/-- A name is provided exactly if it is among the texts that are. -/
private theorem any_isText_map_text (names : List String) (name : String) :
    (names.map Value.text).any (·.isText name) = names.contains name := by
  rw [List.any_map, List.contains_eq_any_beq]
  congr 1
  funext other
  exact Bool.beq_comm

end Renderer

/-! ### Scripts with warnings from caches -/

namespace Ensures

variable {α β ε : Type} {P Q : Store → Prop} {x : ExceptT ε (StateM Store) α}
  {f : α → ExceptT ε (StateM Store) β} {p : Except ε α → Prop}

/-- A further property that is kept does not change a judgement. -/
theorem and_keeps (h : Ensures P x p) (hkeeps : Keeps Q x) : Ensures (fun s ↦ P s ∧ Q s) x p :=
  fun s hs ↦ ⟨⟨(h s hs.1).1, (hkeeps s hs.2).1⟩, (h s hs.1).2⟩

/-- Computations with known results compose like these do. -/
theorem bind_eq {result : Except ε α} {g : α → Except ε β} (hx : Ensures P x (· = result))
    (hf : ∀ a, result = .ok a → Ensures P (f a) (· = g a)) :
    Ensures P (x >>= f) (· = result >>= g) := by
  refine hx.bind (fun a h ↦ ?_) fun fault h ↦ ?_
  · rw [← h]
    exact hf a h.symm
  · rw [← h]
    rfl

end Ensures

namespace Rendering

variable {d : Rendering}

/-- What may be kept as an analysis of the block: what the analyzer's own rules find, and the
specifiers that the block imports. -/
structure Analysed (d : Rendering) (name key : String) (kept : Artifact) : Prop where
  findings (a : Analyzer) : d.renderer.analyzer = some a → name = Partition.dependencies.name →
    key = a.key d.renderer.block → ∃ found, a.Finds d.renderer.block found ∧
      kept = .findings found
  specifiers (a : Analyzer) : d.renderer.analyzer = some a →
    name = Partition.existingImports.name → key = a.key d.renderer.block →
      kept = .data (.texts (Analysis.existingImports d.renderer.block))

/-- What belongs to other partitions is no analysis. -/
theorem analysed_of_ne {name key : String} {kept : Artifact}
    (hfindings : name ≠ Partition.dependencies.name)
    (hspecifiers : name ≠ Partition.existingImports.name) : d.Analysed name key kept where
  findings _ _ hname := absurd hname hfindings
  specifiers _ _ hname := absurd hname hspecifiers

/-- The findings come out as they are without caches. -/
theorem ensures_findings (d : Rendering) :
    Ensures (Holds d.Analysed) d.renderer.findings (· = d.renderer.ownFindings) := by
  rw [Renderer.findings, Renderer.ownFindings]
  cases ha : d.renderer.analyzer with
  | none => exact .pure rfl
  | some a =>
    have hkept : Ensures (Holds d.Analysed) (a.keptFindings d.renderer.block)
        (· = (a.outcome d.renderer.block).map .findings) := by
      rw [Analyzer.outcome]
      refine Ensures.getOrCompute (fun kept hkept ↦ ?_) ?_
      · obtain ⟨found, hfound, rfl⟩ := hkept.findings a ha rfl rfl
        unfold Analyzer.Finds at hfound
        rw [hfound]
        rfl
      · cases hfound : Analysis.findings a.rules d.renderer.block with
        | error fault => exact .throw ⟨by simp, by rintro _ ⟨⟩; rfl⟩
        | ok found =>
          refine .pure ⟨?_, by simp⟩
          rintro _ ⟨⟩
          refine ⟨fun b hb _ _ ↦ ⟨found, ?_, rfl⟩, fun _ _ hname ↦ absurd hname (by decide)⟩
          obtain rfl := Option.some.inj (ha.symm.trans hb)
          exact hfound
    change Ensures _ (a.analyze d.renderer.block) (· = a.outcome d.renderer.block)
    rw [Analyzer.analyze]
    refine (hkept.bind_eq (g := fun kept ↦ (kept.findings?.map Except.ok).getD
      (.error .noFindings)) fun kept _ ↦ ?_).mono fun result h ↦ ?_
    · cases kept.findings? with
      | some found => exact .pure rfl
      | none => exact .throw rfl
    · rw [h]
      cases a.outcome d.renderer.block <;> rfl

/-- So do the specifiers that the analyzer finds. -/
theorem ensures_existingImports_of_analyzer (d : Rendering) {a : Analyzer}
    (ha : d.renderer.analyzer = some a) :
    Ensures (Holds d.Analysed) (a.existingImports d.renderer.block)
      (· = .ok (.texts (Analysis.existingImports d.renderer.block))) := by
  refine Ensures.bind
    (p := (· = .ok (.data (.texts (Analysis.existingImports d.renderer.block))))) ?_
    (fun kept h ↦ .pure (by rw [Except.ok.inj h]; rfl)) (by simp)
  refine Ensures.getOrCompute (fun kept hkept ↦ ?_) (.pure ⟨?_, by simp⟩)
  · rw [hkept.specifiers a ha rfl rfl]
  · rintro _ ⟨⟩
    exact ⟨fun _ _ hname ↦ absurd hname (by decide), fun _ _ _ _ ↦ rfl⟩

/-- So do the specifiers of the renderer. -/
theorem ensures_specifiers (d : Rendering) :
    Ensures (Holds d.Analysed) d.renderer.existingImports
      (· = .ok (d.renderer.specifiers.map .text)) := by
  rw [Renderer.existingImports, Renderer.specifiers]
  cases ha : d.renderer.analyzer with
  | none => exact .pure rfl
  | some a =>
    refine (d.ensures_existingImports_of_analyzer ha).bind (fun names h ↦ ?_) (by simp)
    obtain rfl := Except.ok.inj h
    have hitems (names : List String) :
        (Value.texts names).elements? = some (names.map .text) := rfl
    have hkeys (names : List String) : (names.map Value.text).all (·.isKey) = true := by
      simp [Value.isKey]
    simp only [hitems, hkeys, if_true]
    exact .pure rfl

/-- So do the names that can be imported already. -/
theorem ensures_provided (d : Rendering) :
    Ensures (Holds d.Analysed) (d.renderer.provided d.map)
      (· = .ok ((d.renderer.providedNames d.map).map .text)) := by
  rw [Renderer.provided]
  refine d.ensures_specifiers.bind (fun names hnames ↦ .pure ?_) (by simp)
  rw [Except.ok.inj hnames, Renderer.providedNames, List.map_append, List.map_append]

/-- So does what is missing. -/
theorem ensures_missing (d : Rendering) :
    Ensures (Holds d.Analysed) (d.renderer.missing d.map)
      (· = d.renderer.ownFindings.map (d.renderer.withoutProvided d.map)) := by
  rw [Renderer.missing]
  refine (d.ensures_findings.bind_eq (g := (.ok <| d.renderer.withoutProvided d.map ·))
    fun found _ ↦ ?_).mono fun result h ↦ ?_
  · rw [Renderer.withoutProvided]
    split
    · exact .pure rfl
    · refine d.ensures_provided.bind (fun provided hprovided ↦ .pure ?_) (by simp)
      obtain rfl := Except.ok.inj hprovided
      simp only [Renderer.any_isText_map_text]
      rfl
  · rw [h]
    cases d.renderer.ownFindings <;> rfl

/-- The look-ups of texts leave what is kept of the analysis as it is. -/
theorem keeps_keptText_analysed (d : Rendering) {p : Partition}
    (hp : p ∈ Renderer.partitions) {parts : List String} {text : Shared String}
    (htext : Keeps (Holds d.Analysed) text) :
    Keeps (Holds d.Analysed) (Renderer.keptText p parts text) := by
  have hne : ∀ q ∈ Renderer.partitions, q.name ≠ Partition.dependencies.name ∧
      q.name ≠ Partition.existingImports.name := by decide
  refine keeps_keptText (fun _ _ hcompute ↦ .getOrCompute (fun _ _ ↦ ?_) hcompute) htext
  exact analysed_of_ne (hne p hp).1 (hne p hp).2

/-- A store with nothing else under the keys of a rendering and of the analysis of its block. -/
def Informs (d : Rendering) (s : Store) : Prop := s.Holds d.Served ∧ s.Holds d.Analysed

/-- The analysis of one rendering can stand in for that of another where they share a key: it goes
by the same rules, and the blocks are the same. -/
def AnalysesFor (c d : Rendering) : Prop :=
  ∀ a b, d.renderer.analyzer = some a → c.renderer.analyzer = some b →
    b.key c.renderer.block = a.key d.renderer.block →
      b.rules = a.rules ∧ c.renderer.block = d.renderer.block

theorem AnalysesFor.refl (d : Rendering) : d.AnalysesFor d := by
  intro a b ha hb _
  obtain rfl := Option.some.inj (ha.symm.trans hb)
  exact ⟨rfl, rfl⟩

/-- Whatever is asked of a rendering whose analysis can stand in, that of the other stays. -/
theorem AnalysesFor.keeps {c : Rendering} (h : c.AnalysesFor d) (q : Request) :
    Keeps (Holds d.Analysed) (q.run c) := by
  apply q.keeps_of_answers
  case htext =>
    intro p hp key text
    have hne : ∀ p ∈ Renderer.partitions, p.name ≠ Partition.dependencies.name ∧
        p.name ≠ Partition.existingImports.name := by decide
    exact analysed_of_ne (hne p hp).1 (hne p hp).2
  case hfindings =>
    intro b found hb hfound
    refine ⟨fun a ha _ hkey ↦ ⟨found, ?_, rfl⟩, fun _ _ hname ↦ absurd hname (by decide)⟩
    obtain ⟨hrules, hblock⟩ := h a b ha hb hkey
    unfold Analyzer.Finds at hfound ⊢
    rw [← hrules, ← hblock, hfound]
  case hspecifiers =>
    intro b hb
    refine ⟨fun _ _ hname ↦ absurd hname (by decide), fun a ha _ hkey ↦ ?_⟩
    rw [(h a b ha hb hkey).2]

/-- The script with warnings comes out as it is without caches. -/
theorem ensures_renderWithWarnings (d : Rendering) :
    Ensures d.Informs (d.renderer.renderWithWarnings d.map) (· = d.renderer.warnedText d.map) := by
  have hmissing : Ensures d.Informs (d.renderer.missing d.map)
      (· = d.renderer.ownFindings.map (d.renderer.withoutProvided d.map)) := fun s hs ↦
    ⟨⟨(d.keeps_missing_served d s hs.1).1, (d.ensures_missing s hs.2).1⟩,
      (d.ensures_missing s hs.2).2⟩
  have himports : Ensures d.Informs (d.renderer.imports d.map) (· = d.importText.map .text) :=
    d.ensures_imports.and_keeps (d.keeps_keptText_analysed (by decide) (keeps_ofResult _))
  have hbody {imports : String} (h : d.importText = .ok imports) :
      Ensures d.Informs (d.renderer.body d.map) (· = .ok (.text d.renderer.bodyText)) :=
    (ensures_body h).and_keeps (keeps_body (d.keeps_keptText_analysed (by decide) (.pure _)))
  rw [Renderer.renderWithWarnings]
  refine (hmissing.bind_eq (g := fun missing ↦ d.importText.bind fun imports ↦
    .ok (d.renderer.warnedScript imports
      (Text.joinLines (missing.suggestions.map Renderer.warningLine))))
    fun missing _ ↦ ?_).mono fun result h ↦ ?_
  · cases hown : d.importText with
    | error fault =>
      rw [hown] at himports
      refine himports.bind (fun imports h ↦ absurd h (by simp [Except.map])) fun fault' h ↦ ?_
      rw [Except.error.inj h]
      rfl
    | ok imports =>
      rw [hown] at himports
      refine himports.bind (fun value h ↦ ?_) (by simp [Except.map])
      obtain rfl := Except.ok.inj h
      refine Ensures.bind (p := (· = .ok (Script.joinFilled "\n" [imports, _])))
        (ensures_ofResult (Renderer.joinFilled_text "\n" [imports, _])) (fun head h ↦ ?_) (by simp)
      obtain rfl := Except.ok.inj h
      refine (hbody hown).bind (fun value h ↦ ?_) (by simp)
      obtain rfl := Except.ok.inj h
      refine Ensures.bind (p := (· = .ok (Script.joinParts [_, d.renderer.bodyText])))
        (ensures_ofResult (Renderer.joinParts_text [_, d.renderer.bodyText])) (fun content h ↦ ?_)
        (by simp)
      rw [Except.ok.inj h]
      exact .pure rfl
  · rw [h, Renderer.warnedText, Renderer.warningText]
    cases d.renderer.ownFindings <;> rfl

/-- So it does where nothing is kept. -/
theorem run_renderWithWarnings_of_cold (d : Rendering) {s : Store} (hs : s.Cold) :
    ((d.renderer.renderWithWarnings d.map).run s).1 = d.renderer.warnedText d.map :=
  (d.ensures_renderWithWarnings s ⟨hs.holds _, hs.holds _⟩).2

end Rendering

/-! ### What a script tells of its warnings -/

namespace Renderer

variable {r r' : Renderer} {m : ImportMap} {imports warnings : String}

/-- Warnings are more than blanks if there are any. -/
theorem all_isBlank_warningText (h : r.warningText m = .ok warnings) (hne : warnings ≠ "") :
    warnings.toList.all Text.isBlank = false := by
  rw [warningText] at h
  cases hown : r.ownFindings with
  | error fault =>
    rw [hown] at h
    exact absurd h (by simp [Except.map])
  | ok found =>
    rw [hown] at h
    have htext : Text.joinLines ((r.withoutProvided m found).suggestions.map warningLine) =
        warnings := Except.ok.inj h
    subst htext
    generalize (r.withoutProvided m found).suggestions = advice at hne ⊢
    cases advice with
    | nil => exact absurd rfl hne
    | cons first rest =>
      have hslash : Text.isBlank '/' = false := by decide
      rw [List.map_cons, Text.joinLines, Script.toList_joinWith_cons, warningLine]
      simp [toString, hslash]

/-- Where imports and body are the same, scripts with warnings are if and only if their warnings
are. -/
theorem warnedText_eq_iff (hbody : r.bodyText = r'.bodyText)
    (himports : r.importText m = .ok imports) (himports' : r'.importText m = .ok imports) :
    r.warnedText m = r'.warnedText m ↔ r.warningText m = r'.warningText m := by
  -- a comment is more than blanks, so the content can be told from the script
  have tell {r r' : Renderer} {w w' : String} (hbody : r.bodyText = r'.bodyText)
      (hw : r.warningText m = .ok w) (hne : w ≠ "")
      (h : r.warnedScript imports w = r'.warnedScript imports w') : w = w' := by
    have hfilled := Script.all_isBlank_joinFilled_pair "\n"
      (.inr (all_isBlank_warningText hw hne) : imports.toList.all _ = false ∨ _)
    have hcontent := Script.wrap_inj (Script.all_isBlank_joinParts hfilled _) h
    rw [← hbody] at hcontent
    exact Script.joinFilled_pair_right_inj (Script.joinFilled_pair_left_inj hcontent)
  have htext (r : Renderer) (h : r.importText m = .ok imports) :
      r.warnedText m = (r.warningText m).map (r.warnedScript imports) := by
    rw [warnedText, h]
    cases r.warningText m <;> rfl
  rw [htext r himports, htext r' himports']
  cases hw : r.warningText m with
  | error fault => cases r'.warningText m <;> simp [Except.map]
  | ok w =>
    cases hw' : r'.warningText m with
    | error fault => simp [Except.map]
    | ok w' =>
      simp only [Except.map, Except.ok.injEq]
      constructor
      · intro h
        by_cases hne : w = ""
        · by_cases hne' : w' = ""
          · rw [hne, hne']
          · exact (tell hbody.symm hw' hne' h.symm).symm
        · exact tell hbody hw hne h
      · rintro rfl
        rw [warnedScript, warnedScript, hbody]

end Renderer

end ModuleScript
