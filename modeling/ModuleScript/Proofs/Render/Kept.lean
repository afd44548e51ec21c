import Mathlib.Logic.Function.Basic
import ModuleScript.Proofs.Render.Keys
import ModuleScript.Proofs.Render.Requests
import ModuleScript.Proofs.Script.Parts

/-!
# What a rendering makes of kept texts

The renderer of an application looks for all its texts under one key. What is kept there, in the
partitions of scripts, decides which texts it takes over and which it makes itself, and what is kept
afterwards.
-/

namespace ModuleScript

open Function Store

/-- Texts by the partitions that keep them. -/
abbrev Texts := Partition → Option String

theorem Partition.name_injective : Injective name := by
  intro p p' h
  cases p <;> cases p' <;> first | rfl | exact absurd h (by decide)

/-- A store with room that keeps these texts for a key in the partitions of scripts. -/
structure Store.Shows (s : Store) (key : String) (kept : Texts) : Prop where
  roomy : s.Roomy
  find : ∀ p ∈ Renderer.partitions,
    (s.partition p.name).find? key = (kept p).map fun text ↦ .data (.text text)

/-- The texts that a store keeps for a key. -/
def Store.keptTexts (s : Store) (key : String) : Texts := fun p ↦
  match (s.partition p.name).find? key with
  | some (.data (.text text)) => some text
  | _ => none

/-- Where nothing but texts is kept, a store shows these. -/
theorem Store.shows_keptTexts {s : Store} (h : s.Holds Textual) (hroom : s.Roomy) (key : String) :
    s.Shows key (s.keptTexts key) where
  roomy := hroom
  find p hp := by
    rw [keptTexts]
    cases hfind : (s.partition p.name).find? key with
    | none => rfl
    | some kept =>
      have htext : Textual p.name key kept := h _ _ _ (Cache.mem_entries_of_find? hfind)
      rw [Textual] at htext
      obtain ⟨text, rfl⟩ := htext p hp rfl
      rfl

/-- A store without entries keeps no texts. -/
theorem Store.Cold.shows {s : Store} (h : s.Cold) (hroom : s.Roomy) (key : String) :
    s.Shows key fun _ ↦ none where
  roomy := hroom
  find p _ := by
    have hentries : (s.partition p.name).table.entries = [] := h p.name
    simp [Cache.find?, Table.find?, hentries]

/-- Putting back a partition that keeps a text for the key, or none. -/
theorem Store.Shows.setPartition {s : Store} {key : String} {kept : Texts} (h : s.Shows key kept)
    {p : Partition} {c : Cache Artifact} {text : Option String} (hroom : 0 < c.capacity)
    (hfind : c.find? key = text.map fun t ↦ .data (.text t)) :
    (s.setPartition p.name c).Shows key (update kept p text) where
  roomy := h.roomy.setPartition hroom
  find other hother := by
    by_cases hp : other = p
    · subst hp
      rw [partition_setPartition_self, update_self, hfind]
    · rw [partition_setPartition_of_ne _ _ fun hname ↦ hp (Partition.name_injective hname).symm,
        update_of_ne hp, h.find other hother]

/-- What a look-up finds. -/
theorem Store.Shows.read {s : Store} {key : String} {kept : Texts} (h : s.Shows key kept)
    {p : Partition} (hp : p ∈ Renderer.partitions) :
    ((slot p.name).read s).find? key = (kept p).map fun text ↦ .data (.text text) := h.find p hp

/-- Putting back a partition that keeps the same text. -/
theorem Store.Shows.write {s : Store} {key : String} {kept : Texts} (h : s.Shows key kept)
    {p : Partition} {c : Cache Artifact} (hroom : 0 < c.capacity)
    (hfind : c.find? key = (kept p).map fun text ↦ .data (.text text)) :
    ((slot p.name).write c s).Shows key kept := by
  have hstore := h.setPartition (p := p) hroom hfind
  rwa [update_eq_self] at hstore

/-- From a store that shows the one texts for a key, the computation gives this result and leaves a
store that shows the other ones. -/
def Turns {α : Type} (key : String) (kept : Texts) (x : Shared α) (result : Except RenderFault α)
    (kept' : Texts) : Prop :=
  ∀ s : Store, s.Shows key kept → ∃ s', x.run s = (result, s') ∧ s'.Shows key kept'

namespace Turns

variable {α β : Type} {key : String} {kept kept' kept'' : Texts} {x : Shared α}
  {f : α → Shared β} {a : α} {fault : RenderFault} {result : Except RenderFault β} {p : Partition}
  {text : String}

theorem pure (a : α) : Turns key kept (pure a) (.ok a) kept := fun s hs ↦ ⟨s, rfl, hs⟩

theorem ofResult (result : Except RenderFault α) :
    Turns key kept (Renderer.ofResult result) result kept := by
  cases result with
  | error fault => exact fun s hs ↦ ⟨s, rfl, hs⟩
  | ok a => exact .pure a

theorem bind (hx : Turns key kept x (.ok a) kept') (hf : Turns key kept' (f a) result kept'') :
    Turns key kept (x >>= f) result kept'' := by
  intro s hs
  obtain ⟨s', hrun, hs'⟩ := hx s hs
  rw [Cache.run_bind, hrun]
  exact hf s' hs'

theorem bind_error (hx : Turns key kept x (.error fault) kept') :
    Turns key kept (x >>= f) (.error fault) kept' := by
  intro s hs
  obtain ⟨s', hrun, hs'⟩ := hx s hs
  rw [Cache.run_bind, hrun]
  exact ⟨s', rfl, hs'⟩

/-- A look-up takes over what is kept. -/
theorem getOrCompute_of_some {compute : Shared Artifact} (hp : p ∈ Renderer.partitions)
    (h : kept p = some text) :
    Turns key kept ((slot p.name).getOrCompute key compute) (.ok (.data (.text text))) kept := by
  intro s hs
  have hfind : ((slot p.name).read s).find? key = some (.data (.text text)) := by
    rw [hs.read hp, h]
    rfl
  rw [Cache.Slot.run_getOrCompute, hfind]
  exact ⟨_, rfl, hs.write (hs.roomy p.name) (hs.find p hp)⟩

/-- Where nothing is kept, what is computed is kept from now on. -/
theorem getOrCompute_of_none {compute : Shared Artifact} (hp : p ∈ Renderer.partitions)
    (h : kept p = none) (hcompute : Turns key kept compute (.ok (.data (.text text))) kept')
    (h' : kept' p = none) :
    Turns key kept ((slot p.name).getOrCompute key compute) (.ok (.data (.text text)))
      (update kept' p (some text)) := by
  intro s hs
  obtain ⟨s', hrun, hs'⟩ := hcompute _ (hs.write (c := ((slot p.name).read s).countMiss)
    (hs.roomy p.name) (hs.find p hp))
  have hfind : ((slot p.name).read s').find? key = none := by
    rw [hs'.read hp, h']
    rfl
  rw [Cache.Slot.run_getOrCompute, hs.read hp, h]
  simp only [Option.map_none, hrun]
  exact ⟨_, rfl, hs'.setPartition (hs'.roomy p.name)
    (Cache.find?_store_self _ (hs'.roomy p.name) hfind)⟩

/-- Where the computation fails, nothing more is kept. -/
theorem getOrCompute_of_error {compute : Shared Artifact} (hp : p ∈ Renderer.partitions)
    (h : kept p = none) (hcompute : Turns key kept compute (.error fault) kept') :
    Turns key kept ((slot p.name).getOrCompute key compute) (.error fault) kept' := by
  intro s hs
  obtain ⟨s', hrun, hs'⟩ := hcompute _ (hs.write (c := ((slot p.name).read s).countMiss)
    (hs.roomy p.name) (hs.find p hp))
  rw [Cache.Slot.run_getOrCompute, hs.read hp, h]
  simp only [Option.map_none, hrun]
  exact ⟨_, rfl, hs'⟩

theorem keptText_of_some {parts : List String} {compute : Shared String}
    (hp : p ∈ Renderer.partitions) (h : kept p = some text) :
    Turns (Digest.contentKey parts) kept (Renderer.keptText p parts compute) (.ok (.text text))
      kept :=
  (getOrCompute_of_some hp h).bind (.pure _)

theorem keptText_of_none {parts : List String} {compute : Shared String}
    (hp : p ∈ Renderer.partitions) (h : kept p = none)
    (hcompute : Turns (Digest.contentKey parts) kept compute (.ok text) kept')
    (h' : kept' p = none) :
    Turns (Digest.contentKey parts) kept (Renderer.keptText p parts compute) (.ok (.text text))
      (update kept' p (some text)) :=
  (getOrCompute_of_none hp h (hcompute.bind (.pure _)) h').bind (.pure _)

theorem keptText_of_error {parts : List String} {compute : Shared String}
    (hp : p ∈ Renderer.partitions) (h : kept p = none)
    (hcompute : Turns (Digest.contentKey parts) kept compute (.error fault) kept') :
    Turns (Digest.contentKey parts) kept (Renderer.keptText p parts compute) (.error fault) kept' :=
  (getOrCompute_of_error hp h hcompute.bind_error).bind_error

end Turns

/-! ### Renderings of applications -/

namespace Rendering

/-- The imports that are kept, or else the rendering's own. -/
def importsFrom (d : Rendering) (kept : Texts) : Except RenderFault String :=
  (kept .importStatements).elim d.importText .ok

/-- The block that is kept, or else the rendering's own. -/
def blockFrom (d : Rendering) (kept : Texts) : String :=
  (kept .processedBlock).getD d.renderer.blockText

/-- The content that is kept, or else the one that is joined from these. -/
def contentFrom (d : Rendering) (kept : Texts) : Except RenderFault String :=
  (kept .scriptContent).elim
    ((d.importsFrom kept).map fun imports ↦
      Script.joinParts [imports, d.renderer.surroundText (d.blockFrom kept)]) .ok

variable {d : Rendering} {application : Stimulus.Application} {imports : String}
  {fault : RenderFault} (hd : d.renderer.kind = .stimulus application)
include hd

/-- The imports are kept afterwards. -/
theorem turns_imports (kept : Texts) (h : d.importsFrom kept = .ok imports) :
    Turns d.contentKey kept (d.renderer.imports d.map) (.ok (.text imports))
      (update kept .importStatements (some imports)) := by
  rw [Renderer.imports, importParts_of_stimulus hd]
  rw [importsFrom] at h
  cases hkept : kept .importStatements with
  | some text =>
    rw [hkept] at h
    obtain rfl : text = imports := Except.ok.inj h
    rw [← hkept, update_eq_self]
    exact .keptText_of_some (by decide) hkept
  | none =>
    rw [hkept] at h
    exact .keptText_of_none (by decide) hkept (h ▸ .ofResult d.importText) hkept

/-- If they fail, nothing more is kept. -/
theorem turns_imports_of_error {kept : Texts} (h : d.importsFrom kept = .error fault) :
    Turns d.contentKey kept (d.renderer.imports d.map) (.error fault) kept := by
  rw [Renderer.imports, importParts_of_stimulus hd]
  rw [importsFrom] at h
  cases hkept : kept .importStatements with
  | some text =>
    rw [hkept] at h
    exact absurd h (by simp)
  | none =>
    rw [hkept] at h
    exact .keptText_of_error (by decide) hkept (h ▸ .ofResult d.importText)

/-- The block is kept afterwards. -/
theorem turns_processed (kept : Texts) :
    Turns d.contentKey kept (d.renderer.processed d.map) (.ok (.text (d.blockFrom kept)))
      (update kept .processedBlock (some (d.blockFrom kept))) := by
  rw [Renderer.processed, blockParts_of_stimulus hd, blockFrom]
  cases hkept : kept .processedBlock with
  | some text =>
    rw [Option.getD_some, ← hkept, update_eq_self]
    exact .keptText_of_some (by decide) hkept
  | none => exact .keptText_of_none (by decide) hkept (.pure _) hkept

/-- It is surrounded by what belongs to the rendering itself. -/
theorem turns_body (kept : Texts) : Turns d.contentKey kept (d.renderer.body d.map)
    (.ok (.text (d.renderer.surroundText (d.blockFrom kept))))
    (update kept .processedBlock (some (d.blockFrom kept))) := by
  refine (turns_processed hd kept).bind ?_
  rw [Renderer.surround_text]
  exact .pure _

/-- The content is kept afterwards, unless it fails. -/
theorem turns_content (kept : Texts) :
    ∃ kept', Turns d.contentKey kept (d.renderer.content d.map)
      ((d.contentFrom kept).map .text) kept' ∧
        ∀ content, d.contentFrom kept = .ok content → kept' .scriptContent = some content := by
  rw [contentFrom]
  cases hkept : kept .scriptContent with
  | some content =>
    refine ⟨kept, .keptText_of_some (by decide) hkept, fun content' h ↦ ?_⟩
    rw [hkept, Except.ok.inj h]
  | none =>
    cases himports : d.importsFrom kept with
    | error fault =>
      refine ⟨kept, .keptText_of_error (by decide) hkept ?_, fun content h ↦ ?_⟩
      · exact (turns_imports_of_error hd himports).bind_error
      · exact absurd h (by simp [Except.map])
    | ok imports =>
      have hbody := turns_body hd (update kept .importStatements (some imports))
      have hjoin := Renderer.joinParts_text [imports, d.renderer.surroundText (d.blockFrom kept)]
      rw [List.map_cons, List.map_cons, List.map_nil] at hjoin
      have hjoined := (turns_imports hd kept himports).bind (f := fun imports ↦ do
        Renderer.ofResult (Renderer.joinParts [imports, ← d.renderer.body d.map]))
        (hbody.bind (.ofResult _))
      refine ⟨_, .keptText_of_none (by decide) hkept (hjoin ▸ hjoined) ?_, fun content h ↦ ?_⟩
      · rw [update_of_ne (by decide), update_of_ne (by decide), hkept]
      · rw [update_self, Except.ok.inj h]

/-- The script is the content in its tag. -/
theorem turns_script (kept : Texts) :
    ∃ kept', Turns d.contentKey kept (Request.script.run d)
      (((d.contentFrom kept).map Script.wrap).map .text) kept' := by
  obtain ⟨kept', hcontent, -⟩ := turns_content hd kept
  refine ⟨kept', ?_⟩
  cases hfrom : d.contentFrom kept with
  | error fault =>
    rw [hfrom] at hcontent
    have hrender : Turns d.contentKey kept (d.renderer.render d.map) (.error fault) kept' := by
      rw [Renderer.render]
      exact hcontent.bind_error
    exact Turns.bind_error hrender
  | ok content =>
    rw [hfrom] at hcontent
    have hrender : Turns d.contentKey kept (d.renderer.render d.map)
        (.ok (Script.wrap content)) kept' := by
      rw [Renderer.render]
      exact hcontent.bind (.pure _)
    exact Turns.bind hrender (.pure _)

/-! ### What answers tell of kept texts -/

/-- The imports of an application are more than blanks: they start with the one of the package. -/
theorem all_isBlank_importText (h : d.importText = .ok imports) :
    imports.toList.all Text.isBlank = false := by
  rw [importText, Renderer.importText, hd] at h
  simp only at h
  split at h
  next lines hlines =>
    obtain ⟨others, -, rfl⟩ := Stimulus.Application.importLines_eq_ok_iff.mp hlines
    have hmodule : Stimulus.coreModule.toList.all Text.isBlank = false := by decide +kernel
    rw [← Except.ok.inj h, Text.joinLines, Script.toList_joinWith_cons,
      Stimulus.Application.coreImport]
    simp only [String.toList_append, List.all_append, hmodule, Bool.and_false, Bool.false_and]
  next => exact absurd h (by simp)

/-- A block can be told from what surrounds it. -/
theorem surroundText_inj {a b : String}
    (h : d.renderer.surroundText a = d.renderer.surroundText b) : a = b := by
  rw [Renderer.surroundText, Renderer.surroundText, hd] at h
  refine Script.joinParts_right_inj ?_ h
  rw [Stimulus.Application.setup]
  intro hsetup
  have hstart := String.append_eq_empty_iff.mp hsetup
  exact absurd (String.append_eq_empty_iff.mp hstart.1).1 (by decide)

omit hd in
/-- The content is joined from the imports and what stands behind them. -/
theorem contentText_eq : d.contentText =
    d.importText.map fun imports ↦ Script.joinParts [imports, d.renderer.bodyText] := rfl

/-- The content is more than blanks. -/
theorem all_isBlank_contentText {content : String} (h : d.contentText = .ok content) :
    content.toList.all Text.isBlank = false := by
  rw [contentText_eq] at h
  cases himports : d.importText with
  | error fault =>
    rw [himports] at h
    exact absurd h (by simp [Except.map])
  | ok imports =>
    rw [himports] at h
    rw [← Except.ok.inj h]
    exact Script.all_isBlank_joinParts (all_isBlank_importText hd himports) _

/-- The script from what is kept is the rendering's own if and only if the content is. -/
theorem script_contentFrom_eq_iff {kept : Texts} :
    ((d.contentFrom kept).map Script.wrap).map Value.text =
      (d.renderer.scriptText d.map).map .text ↔ d.contentFrom kept = d.contentText := by
  change _ = (d.contentText.map Script.wrap).map Value.text ↔ _
  refine ⟨fun h ↦ ?_, fun h ↦ by rw [h]⟩
  rcases hown : d.contentText with fault | own <;>
    rcases hfrom : d.contentFrom kept with fault' | content <;> rw [hown, hfrom] at h
  · exact congrArg Except.error (Except.error.inj h)
  · exact absurd h (by simp [Except.map])
  · exact absurd h (by simp [Except.map])
  · have hwrap := Value.text.inj (Except.ok.inj h)
    rw [Script.wrap_inj (all_isBlank_contentText hd hown) hwrap.symm]

/-- The script comes from what is kept. -/
theorem run_script {s : Store} {kept : Texts} (hs : s.Shows d.contentKey kept) :
    ((Request.script.run d).run s).1 = ((d.contentFrom kept).map Script.wrap).map .text := by
  obtain ⟨_, hturns⟩ := turns_script hd kept
  obtain ⟨_, hrun, -⟩ := hturns s hs
  rw [hrun]

/-- A rendering that is alike leaves its own texts to the other one, from a store without entries.
If the script still is the one without caches, whatever is asked first, the renderings agree. -/
theorem Alike.agreesWith_of_answers {c : Rendering} {b : Stimulus.Application} {s : Store}
    (h : c.Alike d) (hc : c.renderer.kind = .stimulus b) (hcold : s.Cold) (hroom : s.Roomy)
    (hctext : c.importText = .ok imports)
    (hanswer : ∀ q : Request, ((Request.script.run d).run ((q.run c).run s).2).1 =
      (d.renderer.scriptText d.map).map .text) : c.AgreesWith d := by
  have hkey : c.contentKey = d.contentKey := (h.keys_eq hc hd).2.2
  have hne := Script.ne_empty_of_all_isBlank (all_isBlank_importText hc hctext)
  -- what the first request leaves makes the content of the other one
  have hcontent {q : Request} {result : Except RenderFault Value} {kept : Texts}
      (hq : Turns d.contentKey (fun _ ↦ none) (q.run c) result kept) :
      d.contentFrom kept = d.contentText := by
    obtain ⟨s', hrun, hs'⟩ := hq s (hcold.shows hroom _)
    rw [← script_contentFrom_eq_iff hd, ← hanswer q, hrun, run_script hd hs']
  have himports : d.importText = .ok imports := by
    have hjoin := hcontent (q := .imports) (hkey ▸ turns_imports hc (fun _ ↦ none) hctext)
    rw [contentText_eq] at hjoin
    cases hown : d.importText with
    | error fault =>
      rw [hown] at hjoin
      exact absurd hjoin (by simp [contentFrom, importsFrom, Except.map])
    | ok own =>
      rw [hown] at hjoin
      have hne' := Script.ne_empty_of_all_isBlank (all_isBlank_importText hd hown)
      rw [Script.joinParts_left_inj hne' hne (Except.ok.inj hjoin).symm]
  have hblock : c.renderer.blockText = d.renderer.blockText := by
    have hjoin := hcontent (q := .processed) (hkey ▸ turns_processed hc fun _ ↦ none)
    change d.importText.map _ = d.importText.map _ at hjoin
    rw [himports] at hjoin
    exact surroundText_inj hd (Script.joinParts_right_inj hne (Except.ok.inj hjoin))
  have hsurround : c.renderer.surroundText d.renderer.blockText = d.renderer.bodyText := by
    obtain ⟨kept, hq, hkept⟩ := hkey ▸ turns_content hc fun _ ↦ none
    have hown : (c.contentFrom fun _ ↦ none) =
        .ok (Script.joinParts [imports, c.renderer.bodyText]) := by
      change c.importText.map _ = _
      rw [hctext]
      rfl
    have hjoin := hcontent (q := .content) hq
    rw [contentFrom, hkept _ hown, contentText_eq, himports] at hjoin
    have hbody := Script.joinParts_right_inj hne (Except.ok.inj hjoin)
    rw [← hblock]
    exact hbody
  exact {
    imports := fun text htext ↦ by rw [himports, ← hctext, htext]
    block := fun _ _ ↦ hblock
    body := fun _ _ ↦ hsurround }

end Rendering

end ModuleScript
