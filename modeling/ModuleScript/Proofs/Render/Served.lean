import ModuleScript.Proofs.Cache.Computation
import ModuleScript.Proofs.Render.Uncached

/-!
# What a rendering finds in the caches

A rendering is a renderer with the map as it stands. A store serves a rendering when whatever it
holds under the keys of the rendering are the texts that it has without caches; from such a store
the rendering gives these texts, and the store goes on serving it. Other renderings leave the
store so, as long as those that share a key with it can stand in for it.
-/

namespace ModuleScript

open Store

/-- A renderer and the map as it stands when something is rendered. -/
structure Rendering where
  renderer : Renderer
  map : ImportMap

namespace Rendering

/-- The keys of the imports, the processed block and the content. -/
def importKey (d : Rendering) : String := Digest.contentKey (d.renderer.importParts d.map)

@[inherit_doc importKey]
def blockKey (d : Rendering) : String := Digest.contentKey (d.renderer.blockParts d.map)

@[inherit_doc importKey]
def contentKey (d : Rendering) : String := Digest.contentKey (d.renderer.contentParts d.map)

/-- The imports without caches. -/
def importText (d : Rendering) : Except RenderFault String := d.renderer.importText d.map

/-- The content without caches. -/
def contentText (d : Rendering) : Except RenderFault String := d.renderer.contentText d.map

/-- What may be kept in a store that serves a rendering. A block is of no use to a rendering
whose imports fail. -/
structure Served (d : Rendering) (name key : String) (kept : Artifact) : Prop where
  imports : name = Partition.importStatements.name → key = d.importKey →
    ∃ text, d.importText = .ok text ∧ kept = .data (.text text)
  block : name = Partition.processedBlock.name → key = d.blockKey →
    ∀ text, d.importText = .ok text → kept = .data (.text d.renderer.blockText)
  content : name = Partition.scriptContent.name → key = d.contentKey →
    ∃ text, d.contentText = .ok text ∧ kept = .data (.text text)

/-- One rendering can stand in for another where they share a key. -/
structure StandsFor (c d : Rendering) : Prop where
  imports : c.importKey = d.importKey → ∀ text, c.importText = .ok text → d.importText = .ok text
  block : c.blockKey = d.blockKey → ∀ text, d.importText = .ok text →
    c.renderer.blockText = d.renderer.blockText
  content : c.contentKey = d.contentKey → c.importKey = d.importKey ∧ c.blockKey = d.blockKey ∧
    ∀ text, d.importText = .ok text →
      c.renderer.surroundText d.renderer.blockText = d.renderer.bodyText

theorem StandsFor.refl (d : Rendering) : d.StandsFor d :=
  ⟨fun _ _ h ↦ h, fun _ _ _ ↦ rfl, fun _ ↦ ⟨rfl, rfl, fun _ _ ↦ rfl⟩⟩

/-- What belongs to other partitions serves every rendering. -/
theorem served_of_ne {d : Rendering} {name key : String} {kept : Artifact}
    (h : ∀ p ∈ Renderer.partitions, name ≠ p.name) : d.Served name key kept where
  imports hname := absurd hname (h _ (by simp [Renderer.partitions]))
  block hname := absurd hname (h _ (by simp [Renderer.partitions]))
  content hname := absurd hname (h _ (by simp [Renderer.partitions]))

/-- A result that is served: the text of one rendering, or the failure of the other. -/
def Serves (text own : Except RenderFault String) (result : Except RenderFault Value) : Prop :=
  (∃ t, text = .ok t ∧ result = .ok (.text t)) ∨
    ∃ fault, own = .error fault ∧ result = .error fault

/-- What a rendering serves itself is its text or its failure. -/
theorem Serves.eq {text : Except RenderFault String} {result : Except RenderFault Value}
    (h : Serves text text result) : result = text.map .text := by
  rcases h with ⟨t, rfl, rfl⟩ | ⟨fault, rfl, rfl⟩ <;> rfl

/-- A kept text is judged by what may be kept and by how its computation fails. -/
theorem ensures_keptText {ok : Condition} {p : Partition} {parts : List String}
    {text : Shared String} {q : Except RenderFault Value → Prop}
    (hkept : ∀ kept, ok p.name (Digest.contentKey parts) kept → q (.ok kept.toValue))
    (htext : Ensures (Holds ok) text fun result ↦
      (∀ t, result = .ok t → ok p.name (Digest.contentKey parts) (.data (.text t))) ∧
        ∀ fault, result = .error fault → q (.error fault)) :
    Ensures (Holds ok) (Renderer.keptText p parts text) q := by
  rw [Renderer.keptText]
  refine Ensures.bind (p := fun result ↦ (∀ kept, result = .ok kept → q (.ok kept.toValue)) ∧
    ∀ fault, result = .error fault → q (.error fault)) ?_ ?_ ?_
  · refine Ensures.getOrCompute (fun kept h ↦ ⟨?_, ?_⟩) (htext.bind (fun t h ↦ .pure ⟨?_, ?_⟩) ?_)
    · rintro _ ⟨⟩
      exact hkept kept h
    · rintro fault ⟨⟩
    · rintro _ ⟨⟩
      exact h.1 t rfl
    · rintro fault ⟨⟩
    · refine fun fault h ↦ ⟨?_, ?_⟩
      · rintro _ ⟨⟩
      · rintro _ ⟨⟩
        refine ⟨?_, ?_⟩
        · rintro _ ⟨⟩
        · rintro _ ⟨⟩
          exact h.2 fault rfl
  · intro kept h
    exact .pure (h.1 kept rfl)
  · intro fault h
    exact h.2 fault rfl

/-- A result that needs no caches is what it is. -/
theorem ensures_ofResult {α : Type} {P : Store → Prop} {result : Except RenderFault α}
    {q : Except RenderFault α → Prop} (h : q result) : Ensures P (Renderer.ofResult result) q := by
  cases result with
  | error fault => exact .throw h
  | ok a => exact .pure h

theorem keeps_ofResult {α : Type} {P : Store → Prop} (result : Except RenderFault α) :
    Keeps P (Renderer.ofResult result) := ensures_ofResult trivial

variable {c d : Rendering}

/-- The imports of a rendering that can stand in are served. -/
theorem StandsFor.ensures_imports (h : c.StandsFor d) :
    Ensures (Holds d.Served) (c.renderer.imports c.map) fun result ↦
      c.importKey = d.importKey → Serves d.importText c.importText result := by
  refine ensures_keptText (fun kept hkept hkey ↦ ?_) (ensures_ofResult ⟨?_, ?_⟩)
  · obtain ⟨t, ht, rfl⟩ := hkept.imports rfl hkey
    exact .inl ⟨t, ht, rfl⟩
  · intro t ht
    exact {
      imports := fun _ hkey ↦ ⟨t, h.imports hkey t ht, rfl⟩
      block := fun hname ↦ absurd hname (by decide)
      content := fun hname ↦ absurd hname (by decide) }
  · intro fault hfault _
    exact .inr ⟨fault, hfault, rfl⟩

/-- So is its processed block, as long as the imports do not fail. -/
theorem StandsFor.ensures_processed (h : c.StandsFor d) :
    Ensures (Holds d.Served) (c.renderer.processed c.map) fun result ↦
      c.blockKey = d.blockKey → ∀ text, d.importText = .ok text →
        result = .ok (.text d.renderer.blockText) := by
  refine ensures_keptText (fun kept hkept hkey text htext ↦ ?_) (.pure ⟨?_, ?_⟩)
  · rw [hkept.block rfl hkey text htext]
    rfl
  · rintro t ⟨⟩
    exact {
      imports := fun hname ↦ absurd hname (by decide)
      block := fun _ hkey text htext ↦ by rw [← h.block hkey text htext]; rfl
      content := fun hname ↦ absurd hname (by decide) }
  · rintro fault ⟨⟩

/-- And what stands behind the imports. -/
theorem StandsFor.ensures_body (h : c.StandsFor d) :
    Ensures (Holds d.Served) (c.renderer.body c.map) fun result ↦
      c.contentKey = d.contentKey → ∀ text, d.importText = .ok text →
        result = .ok (.text d.renderer.bodyText) := by
  rw [Renderer.body]
  refine h.ensures_processed.bind (fun processed hprocessed ↦ ensures_ofResult ?_) ?_
  · intro hkey text htext
    obtain ⟨-, hblock, hsurround⟩ := h.content hkey
    obtain rfl := Except.ok.inj (hprocessed hblock text htext)
    rw [Renderer.surround_text, hsurround text htext]
  · intro fault hfault hkey text htext
    exact absurd (hfault (h.content hkey).2.1 text htext) (by simp)

/-- And its content. -/
theorem StandsFor.ensures_content (h : c.StandsFor d) :
    Ensures (Holds d.Served) (c.renderer.content c.map) fun result ↦
      c.contentKey = d.contentKey → Serves d.contentText c.contentText result := by
  -- a served import is a text of `d`, and the rest of the content then is that of `d` as well
  have parts {imports : Value} (hkey : c.contentKey = d.contentKey)
      (himports : c.importKey = d.importKey → Serves d.importText c.importText (.ok imports)) :
      ∃ text, d.importText = .ok text ∧ imports = .text text := by
    rcases himports (h.content hkey).1 with ⟨text, htext, heq⟩ | ⟨_, -, ⟨⟩⟩
    exact ⟨text, htext, Except.ok.inj heq⟩
  have whole {imports body : Value} (hkey : c.contentKey = d.contentKey)
      (himports : c.importKey = d.importKey → Serves d.importText c.importText (.ok imports))
      (hbody : c.contentKey = d.contentKey → ∀ text, d.importText = .ok text →
        (.ok body : Except RenderFault Value) = .ok (.text d.renderer.bodyText)) :
      ∃ t, d.contentText = .ok t ∧
        Renderer.joinParts [imports, body] = .ok t := by
    obtain ⟨text, htext, rfl⟩ := parts hkey himports
    obtain rfl := Except.ok.inj (hbody hkey text htext)
    refine ⟨Script.joinParts [text, d.renderer.bodyText], ?_,
      Renderer.joinParts_text [text, d.renderer.bodyText]⟩
    change d.importText.map _ = _
    rw [htext]
    rfl
  refine ensures_keptText (fun kept hkept hkey ↦ ?_) (h.ensures_imports.bind
    (fun imports himports ↦ h.ensures_body.bind (fun body hbody ↦ ensures_ofResult ⟨?_, ?_⟩) ?_) ?_)
  · obtain ⟨t, ht, rfl⟩ := hkept.content rfl hkey
    exact .inl ⟨t, ht, rfl⟩
  · intro t ht
    refine ⟨fun hname ↦ absurd hname (by decide), fun hname ↦ absurd hname (by decide),
      fun _ hkey ↦ ?_⟩
    obtain ⟨t', hcontent, hjoin⟩ := whole hkey himports hbody
    exact ⟨t', hcontent, by rw [Except.ok.inj (ht.symm.trans hjoin)]⟩
  · intro fault hfault hkey
    obtain ⟨t, -, hjoin⟩ := whole hkey himports hbody
    exact absurd (hfault.symm.trans hjoin) (by simp)
  · refine fun fault hfault ↦ ⟨by simp, fun fault' _ hkey ↦ ?_⟩
    obtain ⟨text, htext, -⟩ := parts hkey himports
    exact absurd (hfault hkey text htext) (by simp)
  · refine fun fault hfault ↦ ⟨by simp, fun fault' hfault' hkey ↦ ?_⟩
    obtain rfl := Except.error.inj hfault'
    rcases hfault (h.content hkey).1 with ⟨_, -, ⟨⟩⟩ | ⟨fault', hown, heq⟩
    refine .inr ⟨fault, ?_, rfl⟩
    change c.importText.map _ = _
    rw [hown, Except.error.inj heq]
    rfl

/-! ### A store that serves a rendering -/

/-- The imports come out as they are without caches. -/
theorem ensures_imports (d : Rendering) :
    Ensures (Holds d.Served) (d.renderer.imports d.map) (· = d.importText.map .text) :=
  (StandsFor.refl d).ensures_imports.mono fun _ h ↦ (h rfl).eq

/-- The processed block comes out as it is, as long as the imports do not fail. -/
theorem ensures_processed {d : Rendering} {text : String} (h : d.importText = .ok text) :
    Ensures (Holds d.Served) (d.renderer.processed d.map) (· = .ok (.text d.renderer.blockText)) :=
  (StandsFor.refl d).ensures_processed.mono fun _ hblock ↦ hblock rfl text h

/-- So does what stands behind the imports. -/
theorem ensures_body {d : Rendering} {text : String} (h : d.importText = .ok text) :
    Ensures (Holds d.Served) (d.renderer.body d.map) (· = .ok (.text d.renderer.bodyText)) :=
  (StandsFor.refl d).ensures_body.mono fun _ hbody ↦ hbody rfl text h

/-- The script comes out as it is without caches. -/
theorem ensures_render (d : Rendering) :
    Ensures (Holds d.Served) (d.renderer.render d.map) (· = d.renderer.scriptText d.map) := by
  rw [Renderer.render]
  refine (StandsFor.refl d).ensures_content.bind (fun content hcontent ↦ ?_) fun fault hfault ↦ ?_
  · rcases hcontent rfl with ⟨t, ht, heq⟩ | ⟨_, -, ⟨⟩⟩
    obtain rfl := Except.ok.inj heq
    refine .pure ?_
    change _ = d.contentText.map Script.wrap
    rw [ht]
    rfl
  · rcases hfault rfl with ⟨_, -, ⟨⟩⟩ | ⟨fault', hown, heq⟩
    change _ = d.contentText.map Script.wrap
    rw [hown, Except.error.inj heq]
    rfl

end Rendering

end ModuleScript
