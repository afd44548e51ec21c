import ModuleScript.Proofs.Analysis.Advice
import ModuleScript.Proofs.Render.Controllers
import ModuleScript.Proofs.Render.Failures

/-!
# Advice that is followed

When all that is missing is added to a map, a renderer that is made over it finds nothing missing,
and its script with warnings is its script. New names can make controllers of the map out of those
of the block, but what could be imported before is never lost.
-/

namespace ModuleScript

open Store

/-! ### Names that are found -/

namespace Analysis

open Stimulus (mem_foldl_addNew)

/-- What is detected as a module has a name that modules can have. -/
theorem isModuleName_of_mem_detectModules {rules : RuleSet} {block x : String}
    {names : List String} (h : detectModules rules block = .ok names) (hx : x ∈ names) :
    isModuleName rules x = true := by
  rw [detectModules] at h
  cases hcaptured : rules.modulePatterns.mapM (capturedNames · block) with
  | error fault =>
    rw [hcaptured] at h
    exact absurd h (by simp [bind, Except.bind])
  | ok captured =>
    rw [hcaptured] at h
    obtain rfl := Except.ok.inj h
    rcases mem_foldl_addNew.mp hx with hnil | hmem
    · exact absurd hnil List.not_mem_nil
    · exact (List.mem_filter.mp hmem).2

/-- Where libraries have names, whatever is found in a block has one. -/
theorem ne_empty_of_findings {rules : RuleSet} {block : String} {found : Findings}
    (hnames : ∀ library ∈ rules.libraries, library.name ≠ "")
    (h : findings rules block = .ok found) {x : String}
    (hx : x ∈ found.external ∨ x ∈ found.localModules) : x ≠ "" := by
  cases hmodules : detectModules rules block with
  | error fault =>
    rw [findings, hmodules] at h
    exact absurd h (by simp [bind, Except.bind])
  | ok names =>
    obtain rfl := Except.ok.inj (h.symm.trans (findings_eq hmodules))
    rcases hx with hx | hx
    · obtain ⟨library, hlibrary, rfl⟩ := List.mem_map.mp (mem_names_of_mem_detectLibraries hx)
      exact hnames library hlibrary
    · rintro rfl
      have hmodule := isModuleName_of_mem_detectModules hmodules hx
      rw [isModuleName, Bool.and_eq_true] at hmodule
      exact absurd hmodule.1 (by decide +kernel)

end Analysis

namespace Stimulus

/-- What a block brings to an application stays, unless the map comes to have it. -/
theorem mem_discoverControllers_or_mem {known known' : List String} {application block x : String}
    (h : x ∈ discoverControllers known application block) :
    x ∈ known' ∨ x ∈ discoverControllers known' application block :=
  or_iff_not_imp_left.mpr fun hnew ↦
    mem_discoverControllers.mpr ⟨hnew, (mem_discoverControllers.mp h).2⟩

/-- More names in a map give at least the same controllers. -/
theorem Application.controllers_discover_subset {names names' : List String} (h : names ⊆ names')
    (application block : String) : (discover application names block).controllers ⊆
      (discover application names' block).controllers := by
  intro x hx
  refine List.mem_append.mpr ?_
  rcases List.mem_append.mp hx with hx | hx
  · exact .inl (List.filter_subset _ h hx)
  · exact mem_discoverControllers_or_mem hx

end Stimulus

namespace Renderer

/-! ### Renderers of one form -/

/-- What a renderer is made as: a plain one, or one of an application for which a name may be
given. -/
inductive Form where
  | plain
  | application (given : Option String)

/-- The renderer of a form, over the names of a map. -/
def Form.make? (form : Form) (names : List String) (block : String)
    (analyzer : Option Analyzer) : Except Fault Renderer :=
  match form with
  | .plain => .ok (.ofBlock block analyzer)
  | .application given => stimulus? names block given analyzer

namespace Form

variable {form : Form} {names names' : List String} {block : String} {analyzer : Option Analyzer}
  {r r' : Renderer}

/-- A renderer has the block and the analyzer that it is made with. -/
theorem block_analyzer_of_make? (h : form.make? names block analyzer = .ok r) :
    r.block = block ∧ r.analyzer = analyzer := by
  cases form with
  | plain =>
    obtain rfl := Except.ok.inj h
    exact ⟨rfl, rfl⟩
  | application given =>
    obtain ⟨a, -, -, rfl⟩ := exists_discovered h
    exact ⟨rfl, rfl⟩

/-- What can be made over the names of one map can be over those of another. With more names, it
provides at least the same by itself. -/
theorem exists_make? (h : form.make? names block analyzer = .ok r) (hsub : names ⊆ names') :
    ∃ r', form.make? names' block analyzer = .ok r' ∧ r.ownNames ⊆ r'.ownNames := by
  cases form with
  | plain =>
    obtain rfl := Except.ok.inj h
    exact ⟨_, rfl, List.Subset.refl _⟩
  | application given =>
    rw [make?, stimulus?] at h
    split at h
    next happ =>
      obtain rfl := Except.ok.inj h
      refine ⟨_, stimulus?_of_isIdentifier names' block analyzer happ, fun x hx ↦ ?_⟩
      rcases List.mem_append.mp hx with hx | hx
      · exact List.mem_append_left _ (Stimulus.Application.controllers_discover_subset hsub _ _ hx)
      · exact List.mem_append_right _ hx
    next => exact absurd h (by simp)

end Form

/-! ### What is missing -/

variable {r r' : Renderer} {m m' : ImportMap} {found : Findings}

/-- Nothing that could be imported is lost when a map gets more names. -/
theorem providedNames_subset (hspecifiers : r.specifiers = r'.specifiers)
    (hnames : m.names ⊆ m'.names) (hown : r.ownNames ⊆ r'.ownNames) :
    r.providedNames m ⊆ r'.providedNames m' := by
  intro x hx
  simp only [providedNames, hspecifiers, List.mem_append] at hx ⊢
  exact hx.imp (Or.imp_left (hnames ·)) (hown ·)

/-- The missing libraries and modules are those that cannot be imported already, in order. -/
theorem withoutProvided_lists (r : Renderer) (m : ImportMap) (found : Findings) :
    (r.withoutProvided m found).external = found.external.filter (· ∉ r.providedNames m) ∧
      (r.withoutProvided m found).localModules =
        found.localModules.filter (· ∉ r.providedNames m) := by
  rw [withoutProvided]
  split
  next hempty =>
    rw [Findings.isEmpty, Bool.and_eq_true, List.isEmpty_iff, List.isEmpty_iff] at hempty
    rw [hempty.1, hempty.2]
    exact ⟨rfl, rfl⟩
  next => simp [List.contains_eq_mem]

/-- What is missing is what is found and cannot be imported already. -/
theorem mem_withoutProvided_iff {x : String} :
    x ∈ (r.withoutProvided m found).external ∨ x ∈ (r.withoutProvided m found).localModules ↔
      (x ∈ found.external ∨ x ∈ found.localModules) ∧ x ∉ r.providedNames m := by
  obtain ⟨hexternal, hlocal⟩ := r.withoutProvided_lists m found
  rw [hexternal, hlocal]
  simp only [List.mem_filter, decide_eq_true_eq, or_and_right]

/-- A map takes an entry for each name that is missing. -/
theorem add_missing_eq_ok {added : List Entry} (hnodup : (added.map (·.name)).Nodup)
    (hnamed : ∀ x, x ∈ found.external ∨ x ∈ found.localModules → x ≠ "")
    (hadded : ∀ e ∈ added, e.name ∈ (r.withoutProvided m found).external ∨
      e.name ∈ (r.withoutProvided m found).localModules) :
    added.foldlM ImportMap.add m = .ok { m with entries := m.entries ++ added } := by
  refine ImportMap.foldlM_add_eq_ok hnodup fun e he ↦ ?_
  obtain ⟨hfound, hnew⟩ := mem_withoutProvided_iff.mp (hadded e he)
  exact ⟨hnamed _ hfound, fun hlisted ↦
    hnew (List.mem_append_left _ (List.mem_append_left _ hlisted))⟩

/-- Nothing is missing if all that is found can be imported already. -/
theorem withoutProvided_eq_empty
    (h : ∀ x, x ∈ found.external ∨ x ∈ found.localModules → x ∈ r.providedNames m) :
    r.withoutProvided m found = {} := by
  rw [withoutProvided]
  split
  next => rfl
  next =>
    have hnone {names : List String} (hnames : ∀ x ∈ names, x ∈ r.providedNames m) :
        names.filter (fun name ↦ !(r.providedNames m).contains name) = [] := by
      refine List.filter_eq_nil_iff.mpr fun x hx ↦ ?_
      simpa using hnames x hx
    simp only [hnone fun x hx ↦ h x (.inl hx), hnone fun x hx ↦ h x (.inr hx)]
    rw [advice]
    cases r.analyzer <;> rfl

/-- Nothing is missing any more once a map has all the names that were. -/
theorem withoutProvided_eq_empty_of_added (hprovided : r.providedNames m ⊆ r'.providedNames m')
    (hadded : ∀ x, x ∈ (r.withoutProvided m found).external ∨
      x ∈ (r.withoutProvided m found).localModules → x ∈ m'.names) :
    r'.withoutProvided m' found = {} := by
  refine withoutProvided_eq_empty fun x hx ↦ ?_
  by_cases hbefore : x ∈ r.providedNames m
  · exact hprovided hbefore
  · have hlisted := hadded x (mem_withoutProvided_iff.mpr ⟨hx, hbefore⟩)
    exact List.mem_append_left _ (List.mem_append_left _ hlisted)

/-- Where there is no advice, the script with warnings is the script. -/
theorem warnedText_eq_scriptText (hown : r.ownFindings = .ok found)
    (hnone : (r.withoutProvided m found).suggestions = []) : r.warnedText m = r.scriptText m := by
  cases himports : r.importText m with
  | error fault => rw [warnedText_of_error hown himports, scriptText_of_error himports]
  | ok imports =>
    have hwarnings : r.warningText m = .ok "" := by
      rw [warningText, hown]
      change Except.ok (Text.joinLines ((r.withoutProvided m found).suggestions.map _)) = _
      rw [hnone]
      rfl
    rw [warnedText, hwarnings, scriptText, contentText, himports]
    change Except.ok (r.warnedScript imports "") = .ok (Script.wrap _)
    have hhead : Script.joinFilled "\n" [imports, ""] = imports := by
      rw [Script.joinFilled_pair]
      split
      next h => exact h.symm
      next => rfl
    rw [warnedScript, hhead]

end Renderer

namespace Rendering

variable {c d : Rendering}

/-- The store after requests, one after the other. -/
def after (d : Rendering) (requests : List Request) (s : Store) : Store :=
  requests.foldl (fun s q ↦ ((q.run d).run s).2) s

/-- A store with nothing but a rendering's own stays so, whatever is asked of it. -/
theorem Informs.after {s : Store} (h : d.Informs s) (requests : List Request) :
    d.Informs (d.after requests s) :=
  List.foldlRecOn requests _ h fun s hs q _ ↦
    ⟨((StandsFor.refl d).keeps q s hs.1).1, ((AnalysesFor.refl d).keeps q s hs.2).1⟩

/-- The analysis of a block serves every rendering with the same block and analyzer. -/
theorem informs_of_missing (hblock : c.renderer.block = d.renderer.block)
    (hanalyzer : c.renderer.analyzer = d.renderer.analyzer) {s : Store} (hs : s.Cold) :
    d.Informs ((c.renderer.missing c.map).run s).2 := by
  refine ⟨(keeps_missing_served c d s (hs.holds _)).1, fun name key kept hkept ↦ ?_⟩
  have hanalysed := (c.ensures_missing s (hs.holds _)).1 name key kept hkept
  exact {
    findings := hblock ▸ hanalyzer ▸ hanalysed.findings
    specifiers := hblock ▸ hanalyzer ▸ hanalysed.specifiers }

end Rendering

namespace Renderer

variable {m : ImportMap} {block : String} {r : Renderer}

/-- A script is there unless it is that of an application and a location is missing. -/
theorem exists_scriptText {form : Form} {analyzer : Option Analyzer}
    (hr : form.make? m.names block analyzer = .ok r)
    (h : form = .plain ∨ ∀ e ∈ m.entries, e.location ≠ none) :
    ∃ script, r.scriptText m = .ok script := by
  have himports : ∃ imports, r.importText m = .ok imports := by
    cases form with
    | plain =>
      obtain rfl := Except.ok.inj hr
      exact ⟨_, rfl⟩
    | application given =>
      obtain ⟨a, -, -, rfl⟩ := exists_discovered hr
      obtain ⟨statements, hstatements⟩ := exists_importLines a (h.resolve_left (by simp))
      exact ⟨Text.joinLines statements, by simp only [importText, hstatements]⟩
  obtain ⟨imports, himports⟩ := himports
  rw [scriptText, contentText, himports]
  exact ⟨_, rfl⟩

/-- By rules whose libraries have names and whose module patterns have groups, and from caches with
nothing in them, a renderer of either form finds missing what the analysis detects and the renderer
does not provide, in the order of detection. When one entry is added for each name that is missing,
no addition is refused, and a renderer of the same form can be made over the larger map. Whatever it
has been asked, it then finds nothing missing and gives one and the same script with and without
warnings, which is there unless an application is rendered and a location is missing. -/
theorem followed_advice_leaves_nothing_missing {form : Form} {a : Analyzer}
    (hgrouped : a.rules.Grouped) (hnames : ∀ library ∈ a.rules.libraries, library.name ≠ "")
    (hr : form.make? m.names block (some a) = .ok r) {s : Store} (hs : s.Cold) :
    ∃ found missing : Findings, Analysis.findings a.rules block = .ok found ∧
      ((r.provided m).run s).1 = .ok ((r.providedNames m).map .text) ∧
      ((r.missing m).run s).1 = .ok missing ∧
      missing.external = found.external.filter (· ∉ r.providedNames m) ∧
      missing.localModules = found.localModules.filter (· ∉ r.providedNames m) ∧
      ∀ added : List Entry, (added.map (·.name)).Nodup →
        (∀ x, x ∈ added.map (·.name) ↔ x ∈ missing.external ∨ x ∈ missing.localModules) →
        ∃ m' r' script, added.foldlM ImportMap.add m = .ok m' ∧
          form.make? m'.names block (some a) = .ok r' ∧
          (form = .plain ∨ (∀ e ∈ m'.entries, e.location ≠ none) → ∃ text, script = .ok text) ∧
          ∀ requests : List Request,
            let later := Rendering.after ⟨r', m'⟩ requests ((r.missing m).run s).2
            ((r'.missing m').run later).1 = .ok {} ∧
            ((r'.renderWithWarnings m').run later).1 = script ∧
            ((r'.render m').run later).1 = script := by
  obtain ⟨hblock, hanalyzer⟩ := Form.block_analyzer_of_make? hr
  obtain ⟨found, hfound⟩ := Analyzer.exists_finds hgrouped block
  have hown : r.ownFindings = .ok found := ownFindings_of_finds hanalyzer (hblock ▸ hfound)
  obtain ⟨hexternal, hlocal⟩ := r.withoutProvided_lists m found
  refine ⟨found, r.withoutProvided m found, hfound,
    (Rendering.ensures_provided ⟨r, m⟩ s (hs.holds _)).2, ?_, hexternal, hlocal,
    fun added hnodup hadded ↦ ?_⟩
  · rw [(Rendering.ensures_missing ⟨r, m⟩ s (hs.holds _)).2, hown]
    rfl
  have hadd : added.foldlM ImportMap.add m = .ok { m with entries := m.entries ++ added } :=
    add_missing_eq_ok hnodup (fun x ↦ Analysis.ne_empty_of_findings hnames hfound)
      fun e he ↦ (hadded e.name).mp (List.mem_map_of_mem he)
  generalize hm' : ({ m with entries := m.entries ++ added } : ImportMap) = m' at hadd
  have hlisted : m'.names = m.names ++ added.map (·.name) := by
    rw [← hm', ImportMap.names, List.map_append]
    rfl
  have hsub : m.names ⊆ m'.names := hlisted ▸ List.subset_append_left _ _
  obtain ⟨r', hr', hownNames⟩ := Form.exists_make? hr hsub
  obtain ⟨hblock', hanalyzer'⟩ := Form.block_analyzer_of_make? hr'
  have hown' : r'.ownFindings = .ok found := ownFindings_of_finds hanalyzer' (hblock' ▸ hfound)
  have hspecifiers : r.specifiers = r'.specifiers := by
    rw [specifiers, specifiers, hanalyzer, hanalyzer', hblock, hblock']
  have hnone : r'.withoutProvided m' found = {} :=
    withoutProvided_eq_empty_of_added (providedNames_subset hspecifiers hsub hownNames)
      fun x hx ↦ hlisted ▸ List.mem_append_right _ ((hadded x).mpr hx)
  have hwarned : r'.warnedText m' = r'.scriptText m' :=
    warnedText_eq_scriptText hown' (by rw [hnone])
  refine ⟨m', r', r'.scriptText m', hadd, hr', exists_scriptText hr', fun requests ↦ ?_⟩
  have hinforms := (Rendering.informs_of_missing (c := ⟨r, m⟩) (d := ⟨r', m'⟩)
    (hblock.trans hblock'.symm) (hanalyzer.trans hanalyzer'.symm) hs).after requests
  refine ⟨?_, ?_, (Rendering.ensures_render ⟨r', m'⟩ _ hinforms.1).2⟩
  · rw [(Rendering.ensures_missing ⟨r', m'⟩ _ hinforms.2).2, hown']
    exact congrArg Except.ok hnone
  · rw [(Rendering.ensures_renderWithWarnings ⟨r', m'⟩ _ hinforms).2]
    exact hwarned

/-- Two names that are missing at first, one of which becomes a controller of the map. -/
theorem tabs_and_query_library_are_added :
    ∃ (block : String) (r : Renderer) (missing : Findings) (added : List Entry) (m' : ImportMap)
        (r' : Renderer) (script : String),
      (Form.application none).make? [] block (some .bundled) = .ok r ∧
      ((r.missing {}).run {}).1 = .ok missing ∧ missing.external = ["jquery"] ∧
      missing.localModules = ["TabsController"] ∧
      added.map (·.name) = ["TabsController", "jquery"] ∧
      added.foldlM ImportMap.add {} = .ok m' ∧
      (Form.application none).make? m'.names block (some .bundled) = .ok r' ∧
      ((r'.missing m').run ((r.missing {}).run {}).2).1 = .ok {} ∧
      ((r'.renderWithWarnings m').run ((r.missing {}).run {}).2).1 = .ok script ∧
      ((r'.render m').run ((r.missing {}).run {}).2).1 = .ok script := by
  let block := "$(start);\nnew TabsController();"
  let added : List Entry := [{ name := "TabsController", location := some "/tabs.js" },
    { name := "jquery", location := some "/jquery.js" }]
  let r : Renderer := {
    kind := .stimulus (.discover "application" [] block)
    block, analyzer := some .bundled }
  have happ : Script.isIdentifier (nameOr "application" none) = true := by decide +kernel
  have hr : (Form.application none).make? [] block (some .bundled) = .ok r :=
    stimulus?_of_isIdentifier [] block (some .bundled) happ
  obtain ⟨found, missing, -, -, hmissing, -, -, hall⟩ := followed_advice_leaves_nothing_missing
    (m := {}) RuleSet.grouped_bundled (by decide +kernel) hr Store.cold_empty
  have hlists : ((r.missing {}).run {}).1.toOption.map
      (fun missing ↦ (missing.external, missing.localModules)) =
        some (["jquery"], ["TabsController"]) := by decide +kernel
  rw [hmissing] at hlists
  obtain ⟨hexternal, hlocal⟩ := Prod.mk.inj (Option.some.inj hlists)
  obtain ⟨m', r', script, hadd, hr', hthere, hanswers⟩ := hall added (by decide +kernel) fun x ↦ by
    rw [hexternal, hlocal, List.mem_singleton, List.mem_singleton, or_comm]
    simp [added]
  obtain ⟨hnone, hwarned, hscript⟩ := hanswers []
  have hentries : m'.entries = added := by
    have hown : added.foldlM ImportMap.add {} = .ok { ({} : ImportMap) with entries := added } :=
      ImportMap.foldlM_add_eq_ok (by decide +kernel) (by decide +kernel)
    rw [Except.ok.inj (hadd.symm.trans hown)]
  obtain ⟨text, rfl⟩ := hthere (.inr (by rw [hentries]; decide))
  exact ⟨block, r, missing, added, m', r', text, hr, hmissing, hexternal, hlocal, rfl, hadd, hr',
    hnone, hwarned, hscript⟩

end Renderer

end ModuleScript
