import ModuleScript.Proofs.CommandLine.MapFile
import ModuleScript.Proofs.Framework.Fallback

/-!
# Rendering from the files of a command

Where the files of a rendering are there, whatever is wrong in them is logged as one error, but
for what the command does not foresee in the file of the map: nesting that is too deep, a list or
a dictionary that is missing, a name that is no text or no key, and a location that an application
cannot look through.
-/

namespace ModuleScript.CommandLine

open Stimulus

/-! ### Arguments -/

/-- The arguments after the name of the command decide on its script and its options only. -/
theorem exists_render_of_parse {args : List String} {i : Invocation}
    (h : parse ("render" :: args) = .ok i) :
    ∃ script o, i = { command := .render script o } := by
  have hword : classify mainOptions "render" = .word := by decide +kernel
  rw [parse] at h
  split at h
  next => exact absurd h (by simp)
  next =>
    rw [List.length_cons, parseFrom, if_neg (by decide), hword] at h
    simp only [parseCommand] at h
    cases hread : readCommand renderOptions args with
    | error stop => rw [hread] at h; exact absurd h (by simp [bind, Except.bind])
    | ok r =>
      rw [hread] at h
      cases hscript : r.theWord with
      | error stop =>
        simp only [bind, Except.bind, hscript] at h
        exact absurd h (by simp)
      | ok script =>
        simp only [bind, Except.bind, hscript] at h
        exact ⟨script, _, (Except.ok.inj h).symm⟩

variable {inputs : Inputs} {path : String} {o : RenderOptions} {block : String}
  {text : List Char} {v : Value} {m : LooseMap}

/-! ### Rendering the script -/

/-- The script of a renderer, with warnings if they are asked for. -/
def presented (withAnalysis : Bool) (m : ImportMap) (r : Renderer) : Shared String :=
  if withAnalysis then r.renderWithWarnings m else r.render m

/-- Render a script over a map that was read. -/
def renderOver (o : RenderOptions) (m : LooseMap) (script : String) : Run String :=
  match filled? o.framework with
  | some framework => do
    warnUnknown {} framework
    takeMapFor o m (o.renderer {} m.outline.names script)
    rendered (({} : Engine).withFramework framework m.outline script o.applicationName
      (presented o.withAnalysis m.outline))
  | none => do
    takeMapFor o m (o.renderer {} m.outline.names script)
    rendered ((presented o.withAnalysis m.outline
      (({} : Engine).plainRenderer script)).adapt .render)

/-- A rendering reads its script and its map first. -/
theorem render_eq_renderOver (inputs : Inputs) (path : String) (o : RenderOptions) :
    render {} inputs path o = (do
      let script ← readScript inputs path
      let m ← readImportMap inputs o.importMap
      log .info s!"Rendering with {m.entries.length} imports"
      renderOver o m script) := by
  unfold render renderOver presented
  cases filled? o.framework with
  | none => cases o.withAnalysis <;> rfl
  | some framework => cases o.withAnalysis <;> rfl

/-- A renderer of the block looks names up if the analyzer finds something in it. -/
theorem looksUpNames_iff {r : Renderer} (hanalyzer : r.analyzer = some .bundled) :
    looksUpNames r = true ↔ FindsSomething r.block := by
  have hgrouped : Analyzer.bundled.rules.Grouped := RuleSet.grouped_bundled
  obtain ⟨found, hfound⟩ := Analyzer.exists_finds hgrouped r.block
  have hrun : onFreshCaches r.findings = .ok found := by
    have hown := Renderer.ownFindings_of_finds hanalyzer hfound
    exact ((Rendering.ensures_findings ⟨r, {}⟩ {} (Store.cold_empty.holds _)).2).trans hown
  rw [looksUpNames, hrun]
  constructor
  · intro h
    exact ⟨found, hfound, by simpa using h⟩
  · rintro ⟨found', hfound', h⟩
    obtain rfl := Except.ok.inj (hfound.symm.trans hfound')
    simpa using h

section Rendered

variable {m : ImportMap} {r : Renderer}

/-- Imports that do not fail do not keep the script of their renderer from being printed. -/
theorem exists_endsWith_rendered (withAnalysis : Bool)
    (hrules : ∀ a, r.analyzer = some a → a.rules.Grouped)
    (h : ∃ text, r.importText m = .ok text) :
    ∃ text, EndsWith (rendered ((presented withAnalysis m r).adapt .render)) (.ok text) := by
  have hempty : ({} : Store).Holds Store.Proper := Store.cold_empty.holds _
  have hpresented : ∃ text, ((presented withAnalysis m r).run {}).1 = .ok text := by
    cases withAnalysis with
    | false =>
      obtain ⟨text, htext, -⟩ := (Renderer.ensures_render_gives h {} hempty).2
      exact ⟨text, htext⟩
    | true =>
      obtain ⟨text, htext, -⟩ := (Renderer.ensures_renderWithWarnings_gives hrules h {} hempty).2
      exact ⟨text, htext⟩
  obtain ⟨text, htext⟩ := hpresented
  refine ⟨text, ?_⟩
  rw [rendered, onFreshCaches, Engine.run_adapt, htext]
  exact endsWith_pure text

/-- An undecided entry makes the rendering of an application fail. -/
theorem endsWith_rendered_of_undecided (withAnalysis : Bool) {a : Application}
    (hkind : r.kind = .stimulus a) (hrules : ∀ a, r.analyzer = some a → a.rules.Grouped) {e : Entry}
    (he : m.entries.find? (Undecided ·) = some e) :
    EndsWith (rendered ((presented withAnalysis m r).adapt .render))
      (.error (.failure (.rendering (.noLocation e.name)))) := by
  obtain ⟨hscript, hwarned⟩ := Renderer.run_of_undecided hkind hrules he Store.cold_empty
  have hpresented : ((presented withAnalysis m r).run {}).1 = .error (.noLocation e.name) := by
    cases withAnalysis with
    | false => exact hscript
    | true => exact hwarned
  rw [rendered, onFreshCaches, Engine.run_adapt, hpresented]
  exact endsWith_throw _

/-- So an application fails exactly if an entry is undecided. -/
theorem failsAs_rendered_of_application (withAnalysis : Bool) {a : Application}
    (hkind : r.kind = .stimulus a) (hrules : ∀ a, r.analyzer = some a → a.rules.Grouped) :
    FailsAs (rendered ((presented withAnalysis m r).adapt .render)) fun f ↦
      ∃ e, m.entries.find? (Undecided ·) = some e ∧ f = .rendering (.noLocation e.name) := by
  cases he : m.entries.find? (Undecided ·) with
  | none =>
    obtain ⟨text, htext⟩ := exists_endsWith_rendered withAnalysis hrules
      (Renderer.exists_importText hkind (by simpa using he))
    exact htext.failsAs_of_ok (by simp)
  | some e =>
    exact ((endsWith_rendered_of_undecided withAnalysis hkind hrules he).endsEarly_of_failure
      fun f ↦ by simp).failsAs

end Rendered

theorem endsWith_warnUnknown (engine : Engine) (framework : String) :
    EndsWith (warnUnknown engine framework) (.ok ()) := by
  rw [warnUnknown]
  split
  · exact endsWith_pure ()
  · exact endsWith_log _ _

private theorem grouped_of_bundled : ∀ a, some Analyzer.bundled = some a → a.rules.Grouped := by
  rintro a ⟨⟩
  exact RuleSet.grouped_bundled

/-- A plain rendering of a map that was read fails where the map breaks it off. -/
theorem failsAs_plain (hplain : filled? o.framework ≠ some "stimulus") (m : LooseMap)
    (script : String) : FailsAs (do
      takeMapFor o m (.ok (.ofBlock script (some .bundled)))
      rendered ((presented o.withAnalysis m.outline
        (.ofBlock script (some .bundled))).adapt .render)) (MapBreaksOff o script m) := by
  obtain ⟨text, hrendered⟩ := exists_endsWith_rendered (m := m.outline) o.withAnalysis
    grouped_of_bundled ⟨_, Renderer.importText_ofBlock script _ m.outline⟩
  have hlooks : (o.withAnalysis && looksUpNames (.ofBlock script (some .bundled))) = true ↔
      o.withAnalysis = true ∧ FindsSomething script := by
    rw [Bool.and_eq_true, looksUpNames_iff rfl]
    rfl
  refine (FailsAs.takeMap_plain _ (hrendered.failsAs_of_ok fun _ ↦ not_false)).congr fun f ↦ ?_
  rw [hlooks]
  constructor
  · rintro (⟨⟨hwarned, hfound⟩, name, hname, rfl⟩ | ⟨hkeys, key, hkey, ⟨name, hname, rfl⟩ | ⟨-, h⟩⟩)
    · exact .lookedUp hplain hwarned hfound hname
    · exact .imported hplain (fun hwarned hfound ↦ hkeys ⟨hwarned, hfound⟩) hkey hname
    · exact h.elim
  · rintro (⟨hasked, -⟩ | ⟨hasked, -⟩ | ⟨-, hwarned, hfound, hname⟩ | ⟨-, hkeys, hkey, hname⟩)
    · exact absurd hasked.1 hplain
    · exact absurd hasked.1 hplain
    · exact .inl ⟨⟨hwarned, hfound⟩, _, hname, rfl⟩
    · exact .inr ⟨fun h ↦ hkeys h.1 h.2, _, hkey, .inl ⟨_, hname, rfl⟩⟩

/-- The rendering of an application over a map that was read fails where the map breaks it off. -/
theorem failsAs_application (hasked : o.AsksForApplication) {r : Renderer} {a : Application}
    (hkind : r.kind = .stimulus a) (hanalyzer : r.analyzer = some .bundled) (m : LooseMap)
    (block : String) : FailsAs (do
      takeMapFor o m (.ok r)
      rendered ((presented o.withAnalysis m.outline r).adapt .render))
      (MapBreaksOff o block m) := by
  have happlication : r.isApplication = true := by rw [Renderer.isApplication, hkind]
  have hfirst : m.outline.entries.find? (Undecided ·) =
      (m.entries.find? (Undecided ·.outline)).map LooseEntry.outline := List.find?_map
  have hrendered := failsAs_rendered_of_application (m := m.outline) o.withAnalysis hkind
    (hanalyzer ▸ grouped_of_bundled)
  rw [takeMapFor, happlication]
  refine (FailsAs.takeMap_application _ hrendered).congr fun f ↦ ?_
  rw [hfirst]
  constructor
  · rintro (⟨name, hname, rfl⟩ | ⟨hnames, ⟨key, hkey⟩, e, he, rfl⟩)
    · exact .searched hasked hname
    · obtain ⟨loose, hloose, rfl⟩ := Option.map_eq_some_iff.mp he
      exact .location hasked hnames hkey hloose
  · rintro (⟨-, hname⟩ | ⟨-, hnames, hkey, he⟩ | ⟨hplain, -⟩ | ⟨hplain, -⟩)
    · exact .inl ⟨_, hname, rfl⟩
    · exact .inr ⟨hnames, ⟨_, hkey⟩, _, congrArg (Option.map LooseEntry.outline) he, rfl⟩
    · exact absurd hasked.1 hplain
    · exact absurd hasked.1 hplain

/-- Rendering over a map that was read fails exactly where the map breaks it off. -/
theorem failsAs_renderOver (o : RenderOptions) (m : LooseMap) (script : String) :
    FailsAs (renderOver o m script) (MapBreaksOff o script m) := by
  rw [renderOver]
  cases hframework : filled? o.framework with
  | none =>
    have hrenderer : o.renderer {} m.outline.names script =
        .ok (.ofBlock script (some .bundled)) := by
      rw [RenderOptions.renderer, hframework]
      rfl
    rw [hrenderer]
    exact failsAs_plain (by simp [hframework]) m script
  | some framework =>
    refine .bind (endsWith_warnUnknown _ framework) ?_
    have hrenderer : o.renderer {} m.outline.names script =
        ({} : Engine).registry.create framework m.outline.names script o.applicationName := by
      rw [RenderOptions.renderer, hframework]
    rw [hrenderer]
    by_cases hname : framework = "stimulus"
    · subst hname
      have hcreate : ({} : Engine).registry.create "stimulus" m.outline.names script
          o.applicationName = Renderer.stimulus? m.outline.names script o.applicationName
            (some .bundled) := rfl
      rw [Engine.withFramework, hcreate]
      by_cases hid : Script.isIdentifier (Renderer.nameOr "application" o.applicationName) = true
      · rw [Renderer.stimulus?_of_isIdentifier _ _ _ hid]
        exact failsAs_application ⟨hframework, hid⟩ rfl rfl m script
      · rw [Renderer.stimulus?, if_neg hid]
        refine FailsAs.bind (endsWith_pure ()) ((endsWith_throw _).endsEarly_of_logged ?_).failsAs
        rintro f (⟨hasked, -⟩ | ⟨hasked, -⟩ | ⟨hplain, -⟩ | ⟨hplain, -⟩)
        · exact hid hasked.2
        · exact hid hasked.2
        · exact hplain hframework
        · exact hplain hframework
    · have hunregistered : ({} : Engine).registry.contains framework = false := by
        have hbundled : ({} : Engine).registry.contains framework =
            decide ("stimulus" = framework) := Bool.or_false _
        rw [hbundled, decide_eq_false (Ne.symm hname)]
      have hcreate : ({} : Engine).registry.create framework m.outline.names script
          o.applicationName = .ok (.ofBlock script (some .bundled)) := by
        rw [Registry.create, Registry.find?_eq_none_of_contains hunregistered]
      rw [hcreate, Engine.withFramework_of_unregistered hunregistered]
      exact failsAs_plain (by simpa [hframework] using hname) m script

/-! ### Outcomes -/

/-- What is read from a text as a map breaks a rendering off as this map does. -/
theorem breaksOff_iff_of_ofValue? (hread : Json.read text = .ok v)
    (hmap : LooseMap.ofValue? v = .ok m) (f : Failure) :
    BreaksOff o block text f ↔ MapBreaksOff o block m f := by
  refine ⟨?_, .map hread hmap⟩
  rintro (hdeep | ⟨hok, hshape⟩ | ⟨hok, hmap', h⟩)
  · exact absurd (hread.symm.trans hdeep) (by simp)
  · obtain rfl := Except.ok.inj (hread.symm.trans hok)
    exact absurd (hmap.symm.trans hshape.ofValue?_eq) (by simp)
  · obtain rfl := Except.ok.inj (hread.symm.trans hok)
    exact Except.ok.inj (hmap.symm.trans hmap') ▸ h

/-- Once the text of a map has been read, a rendering fails exactly where that breaks it off. -/
theorem failsAs_of_text (o : RenderOptions) (text : List Char) (script : String) :
    FailsAs (do
      let m ← (do importMapOf (← readJson text))
      log .info s!"Rendering with {m.entries.length} imports"
      renderOver o m script) (BreaksOff o script text) := by
  rcases readJson_cases o script text with ⟨v, hread, hv⟩ | hearly
  · rcases importMapOf_cases o script hread with ⟨m, hmap, hm⟩ | hearly
    · have hover := (failsAs_renderOver o m script).congr fun f ↦
        (breaksOff_iff_of_ofValue? hread hmap f).symm
      exact .bind (hv.bind hm) (.bind (endsWith_log _ _) hover)
    · obtain ⟨ending, hending, hbreaks⟩ := hearly
      exact EndsEarly.failsAs ⟨ending, (hv.bind hending).bind_error _, hbreaks⟩
  · exact ((hearly.bind _).bind _).failsAs

/-- A rendering from files that are there fails exactly where the text of its map breaks it off,
once its script has been read. -/
theorem failsAs_render {script : String} {scriptBytes mapBytes : List UInt8}
    (hpath : filled? o.importMap = some path)
    (hscript : inputs.scriptBytes? script = some scriptBytes)
    (hmap : inputs.bytes? path = some mapBytes) :
    FailsAs (render {} inputs script o) fun f ↦ ∃ block text, Decodes scriptBytes block ∧
      Decodes mapBytes text ∧ BreaksOff o (String.ofList block) text f := by
  rw [render_eq_renderOver, readScript_eq_textOf hscript, readImportMap_eq_textOf hpath hmap]
  rcases textOf_cases scriptBytes with ⟨block, hblock, hread⟩ | ⟨⟨message, hrefused⟩, hnone⟩
  next =>
    refine .bind (hread.bind (endsWith_pure _)) ?_
    rw [bind_assoc]
    rcases textOf_cases mapBytes with ⟨text, htext, hread⟩ | ⟨⟨message, hrefused⟩, hnone⟩
    next =>
      have hover := failsAs_of_text o text (String.ofList block)
      refine .bind hread (hover.congr fun f ↦ ⟨fun h ↦ ⟨block, text, hblock, htext, h⟩, ?_⟩)
      rintro ⟨block', text', hblock', htext', h⟩
      rwa [hblock.unique hblock', htext.unique htext'] at h
    next =>
      refine ((hrefused.bind_error _).endsEarly_of_logged ?_).failsAs
      rintro f ⟨-, text, -, htext, -⟩
      exact hnone text htext
  next =>
    refine (((hrefused.bind_error _).bind_error _).endsEarly_of_logged ?_).failsAs
    rintro f ⟨block, -, hblock, -, -⟩
    exact hnone block hblock

/-- A rendering whose script and map are there ends with zero and no error, or with one, no output
and exactly one error, or fails. It fails exactly where its script is a text and the text of its map
breaks it off. -/
theorem renderings_fail_exactly_where_their_map_breaks_off {args : List String} {i : Invocation}
    (hi : parse ("render" :: args) = .ok i) (inputs : Inputs) :
    ∃ script o, i.command = .render script o ∧
      ∀ path scriptBytes mapBytes, filled? o.importMap = some path →
        inputs.scriptBytes? script = some scriptBytes → inputs.bytes? path = some mapBytes →
        (∀ outcome, i.run inputs = .ok outcome → outcome.Orderly) ∧
          ∀ f, i.run inputs = .error f ↔ ∃ block text, Decodes scriptBytes block ∧
            Decodes mapBytes text ∧ BreaksOff o (String.ofList block) text f := by
  obtain ⟨script, o, rfl⟩ := exists_render_of_parse hi
  refine ⟨script, o, rfl, fun path scriptBytes mapBytes hpath hscript hmap ↦
    ⟨fun outcome ↦ orderly_of_run, fun f ↦ ?_⟩⟩
  exact FailsAs.run_eq_error_iff (i := { command := .render script o })
    (failsAs_render hpath hscript hmap) (by simp)

/-- A map whose imports are a number. -/
theorem number_as_imports_breaks_off :
    ∃ (i : Invocation) (files : FileTree),
      parse ["render", "app.js", "--import-map", "map.json"] = .ok i ∧
      files.find "app.js" = .file (Text.Utf8.encode "run();") ∧
      files.find "map.json" = .file (Text.Utf8.encode "\x7b\"imports\": 5\x7d") ∧
      i.run { path := files.find } = .error (.importMap .noItems) := by
  let o : RenderOptions := { importMap := some "map.json" }
  let i : Invocation := { command := .render "app.js" o }
  let text := "\x7b\"imports\": 5\x7d"
  let files : FileTree := .ofList [("app.js", Text.Utf8.encode "run();"),
    ("map.json", Text.Utf8.encode text)]
  have hi : parse ["render", "app.js", "--import-map", "map.json"] = .ok i := by decide +kernel
  have hblock : Decodes (Text.Utf8.encode "run();") "run();".toList :=
    ⟨"run();", by decide +kernel, by decide +kernel⟩
  have hmap : Decodes (Text.Utf8.encode text) text.toList :=
    ⟨text, by decide +kernel, by decide +kernel⟩
  have hread : ∃ v, Json.read text.toList = .ok v ∧ LooseMap.listed v = .error .noItems := by
    have hcheck : (match Json.read text.toList with
      | .ok v => match LooseMap.listed v with
        | .error .noItems => true
        | _ => false
      | .error _ => false) = true := by decide +kernel
    split at hcheck
    next v hv =>
      split at hcheck
      next hlisted => exact ⟨v, hv, hlisted⟩
      next => exact absurd hcheck (by simp)
    next => exact absurd hcheck (by simp)
  obtain ⟨v, hread, hlisted⟩ := hread
  obtain ⟨script, o', hcommand, h⟩ :=
    renderings_fail_exactly_where_their_map_breaks_off hi { path := files.find }
  obtain ⟨rfl, rfl⟩ := Command.render.inj hcommand
  obtain ⟨-, hfails⟩ := h "map.json" (Text.Utf8.encode "run();") (Text.Utf8.encode text) rfl
    (by decide +kernel) (by decide +kernel)
  exact ⟨i, files, hi, by decide +kernel, by decide +kernel,
    (hfails _).mpr ⟨_, _, hblock, hmap, .misshapen hread (.imports hlisted)⟩⟩

end ModuleScript.CommandLine
