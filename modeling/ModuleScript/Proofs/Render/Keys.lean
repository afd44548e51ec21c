import ModuleScript.Proofs.Digest.Framing
import ModuleScript.Proofs.Render.Served
import ModuleScript.Proofs.Script.Names

/-!
# What the keys of a rendering tell

As long as digests do not collide, renderings that share a key have the same label, and then the
same application name, the same map as far as its key goes and, where it enters the key, the same
block.
-/

namespace ModuleScript

open Digest

/-- Plain renderers, and those of applications with an accepted name. -/
def Renderer.Accepted (r : Renderer) : Prop :=
  r.kind = .plain ∨ ∃ a, r.kind = .stimulus a ∧ Script.isIdentifier a.name = true

namespace Rendering

variable {c d : Rendering}

/-- The messages whose digests are taken for a rendering. -/
def messages (d : Rendering) : List (List UInt8) :=
  d.map.framing :: [d.renderer.contentParts d.map, d.renderer.importParts d.map,
    d.renderer.blockParts d.map].map framing

/-- Collisions are a matter of two renderings at a time. -/
theorem collisionFree_pair {calls : List Rendering} {c d : Rendering} (hc : c ∈ calls)
    (h : CollisionFree ((d :: calls).flatMap Rendering.messages)) :
    CollisionFree (c.messages ++ d.messages) := by
  refine h.of_subset fun a ha ↦ List.mem_flatMap.mpr ?_
  rcases List.mem_append.mp ha with ha | ha
  · exact ⟨c, List.mem_cons_of_mem _ hc, ha⟩
  · exact ⟨d, List.mem_cons_self, ha⟩

private theorem nul_notMem_label {r : Renderer} (h : r.Accepted) : '\x00' ∉ r.label.toList := by
  rcases h with h | ⟨a, h, -⟩
  · simp only [Renderer.label, h]
    decide
  · simp only [Renderer.label, h]
    decide

/-- An accepted name is free of NUL. -/
private theorem nul_notMem_stateKey {r : Renderer} (h : r.Accepted) :
    '\x00' ∉ r.stateKey.toList := by
  rcases h with h | ⟨a, h, hname⟩
  · simp only [Renderer.stateKey, h]
    decide
  · simp only [Renderer.stateKey, h]
    intro hmem
    rcases Script.isPart_or_lineFeed_of_isIdentifier hname hmem with hpart | hfeed
    · exact absurd hpart (by decide +kernel)
    · exact absurd hfeed (by decide)

/-- The key parts tell the label, the application name and what follows them. -/
theorem keyParts_inj {r r' : Renderer} {parts parts' : List String} (hr : r.Accepted)
    (hr' : r'.Accepted) (h : framing (r.keyParts parts) = framing (r'.keyParts parts')) :
    r.label = r'.label ∧ r.stateKey = r'.stateKey ∧ framing parts = framing parts' := by
  obtain ⟨hlabel, h⟩ := framing_cons_inj (nul_notMem_label hr) (nul_notMem_label hr') h
  obtain ⟨hstate, h⟩ := framing_cons_inj (nul_notMem_stateKey hr) (nul_notMem_stateKey hr') h
  exact ⟨hlabel, hstate, h⟩

theorem importParts_of_plain {r : Renderer} (h : r.kind = .plain) (m : ImportMap) :
    r.importParts m = r.keyParts [m.contentKey] := by rw [Renderer.importParts, h]

theorem blockParts_of_plain {r : Renderer} (h : r.kind = .plain) (m : ImportMap) :
    r.blockParts m = r.keyParts [r.block] := by rw [Renderer.blockParts, h]

theorem importParts_of_stimulus {r : Renderer} {a : Stimulus.Application}
    (h : r.kind = .stimulus a) (m : ImportMap) : r.importParts m = r.contentParts m := by
  rw [Renderer.importParts, h, Renderer.contentParts]

theorem blockParts_of_stimulus {r : Renderer} {a : Stimulus.Application}
    (h : r.kind = .stimulus a) (m : ImportMap) : r.blockParts m = r.contentParts m := by
  rw [Renderer.blockParts, h, Renderer.contentParts]

/-- The renderer of an application makes all its keys of the same parts. -/
theorem messages_of_stimulus {a : Stimulus.Application} (h : d.renderer.kind = .stimulus a) :
    d.messages = d.map.framing ::
      List.replicate 3 (framing (d.renderer.contentParts d.map)) := by
  rw [messages, importParts_of_stimulus h, blockParts_of_stimulus h]
  rfl

/-- All keys of an accepted renderer start with the label and the application name. -/
theorem exists_importParts {r : Renderer} (h : r.Accepted) (m : ImportMap) :
    ∃ parts, r.importParts m = r.keyParts parts := by
  rcases h with h | ⟨a, h, -⟩
  · exact ⟨_, importParts_of_plain h m⟩
  · exact ⟨_, importParts_of_stimulus h m⟩

theorem exists_blockParts {r : Renderer} (h : r.Accepted) (m : ImportMap) :
    ∃ parts, r.blockParts m = r.keyParts parts := by
  rcases h with h | ⟨a, h, -⟩
  · exact ⟨_, blockParts_of_plain h m⟩
  · exact ⟨_, blockParts_of_stimulus h m⟩

/-- A map key and a block can be told apart. -/
theorem mapKey_block_inj {m m' : ImportMap} {block block' : String}
    (h : framing [m.contentKey, block] = framing [m'.contentKey, block']) :
    m.contentKey = m'.contentKey ∧ block = block' := by
  obtain ⟨hmap, h⟩ := framing_cons_inj (nul_notMem_sha256Hex _) (nul_notMem_sha256Hex _) h
  exact ⟨hmap, framing_singleton_inj h⟩

/-- A renderer with the label of a plain one is plain, if it is accepted. -/
theorem kind_eq_plain {r r' : Renderer} (hr : r.Accepted) (hr' : r'.kind = .plain)
    (h : r.label = r'.label) : r.kind = .plain := by
  rcases hr with hr | ⟨a, hr, -⟩
  · exact hr
  · simp only [Renderer.label, hr, hr'] at h
    exact absurd h (by decide)

/-- A renderer with the label of an application's is one, if it is accepted. -/
theorem exists_kind_eq_stimulus {r r' : Renderer} {a : Stimulus.Application} (hr : r.Accepted)
    (hr' : r'.kind = .stimulus a) (h : r.label = r'.label) : ∃ b, r.kind = .stimulus b := by
  rcases hr with hr | ⟨b, hr, -⟩
  · simp only [Renderer.label, hr, hr'] at h
    exact absurd h (by decide)
  · exact ⟨b, hr⟩

section CollisionFree

variable (hfree : CollisionFree (c.messages ++ d.messages))
include hfree

theorem framing_contentParts_eq (h : c.contentKey = d.contentKey) :
    framing (c.renderer.contentParts c.map) = framing (d.renderer.contentParts d.map) :=
  hfree _ (by simp [messages]) _ (by simp [messages]) h

theorem framing_importParts_eq (h : c.importKey = d.importKey) :
    framing (c.renderer.importParts c.map) = framing (d.renderer.importParts d.map) :=
  hfree _ (by simp [messages]) _ (by simp [messages]) h

theorem framing_blockParts_eq (h : c.blockKey = d.blockKey) :
    framing (c.renderer.blockParts c.map) = framing (d.renderer.blockParts d.map) :=
  hfree _ (by simp [messages]) _ (by simp [messages]) h

theorem map_framing_eq (h : c.map.contentKey = d.map.contentKey) :
    c.map.framing = d.map.framing :=
  hfree _ (by simp [messages]) _ (by simp [messages]) h

/-! ### Plain renderings -/

/-- A rendering that shares the import key of a plain one is plain and has the same map key. -/
theorem of_importKey_eq_plain (hd : d.renderer.kind = .plain) (hc : c.renderer.Accepted)
    (h : c.importKey = d.importKey) :
    c.renderer.kind = .plain ∧ c.map.contentKey = d.map.contentKey := by
  have hparts := framing_importParts_eq hfree h
  rw [importParts_of_plain hd] at hparts
  obtain ⟨parts, heq⟩ := exists_importParts hc c.map
  have hplain := kind_eq_plain hc hd (keyParts_inj hc (.inl hd) (heq ▸ hparts)).1
  rw [importParts_of_plain hplain] at hparts
  exact ⟨hplain, framing_singleton_inj (keyParts_inj hc (.inl hd) hparts).2.2⟩

/-- A rendering that shares the block key of a plain one is plain and has the same block. -/
theorem of_blockKey_eq_plain (hd : d.renderer.kind = .plain) (hc : c.renderer.Accepted)
    (h : c.blockKey = d.blockKey) :
    c.renderer.kind = .plain ∧ c.renderer.block = d.renderer.block := by
  have hparts := framing_blockParts_eq hfree h
  rw [blockParts_of_plain hd] at hparts
  obtain ⟨parts, heq⟩ := exists_blockParts hc c.map
  have hplain := kind_eq_plain hc hd (keyParts_inj hc (.inl hd) (heq ▸ hparts)).1
  rw [blockParts_of_plain hplain] at hparts
  exact ⟨hplain, framing_singleton_inj (keyParts_inj hc (.inl hd) hparts).2.2⟩

/-- A rendering that shares the content key of a plain one shares all its keys. -/
theorem of_contentKey_eq_plain (hd : d.renderer.kind = .plain) (hc : c.renderer.Accepted)
    (h : c.contentKey = d.contentKey) :
    c.renderer.kind = .plain ∧ c.importKey = d.importKey ∧ c.blockKey = d.blockKey := by
  obtain ⟨hlabel, hstate, hrest⟩ := keyParts_inj hc (.inl hd) (framing_contentParts_eq hfree h)
  have hplain := kind_eq_plain hc hd hlabel
  obtain ⟨hmap, hblock⟩ := mapKey_block_inj hrest
  refine ⟨hplain, ?_, ?_⟩
  · rw [importKey, importKey, importParts_of_plain hplain, importParts_of_plain hd,
      Renderer.keyParts, Renderer.keyParts, hlabel, hstate, hmap]
  · rw [blockKey, blockKey, blockParts_of_plain hplain, blockParts_of_plain hd,
      Renderer.keyParts, Renderer.keyParts, hlabel, hstate, hblock]

/-- Accepted renderings can stand in for plain ones, as long as the maps hold no separators. -/
theorem standsFor_plain (hd : d.renderer.kind = .plain) (hc : c.renderer.Accepted)
    (hcmap : c.map.FreeOfSeparators) (hdmap : d.map.FreeOfSeparators) : c.StandsFor d := by
  constructor
  · intro hkey text htext
    obtain ⟨hplain, hmap⟩ := of_importKey_eq_plain hfree hd hc hkey
    have hnames := ImportMap.names_eq_of_framing_eq hcmap hdmap (map_framing_eq hfree hmap)
    rw [← htext, importText, importText, Renderer.importText, Renderer.importText, hplain, hd]
    simp only [hnames]
  · intro hkey text _
    obtain ⟨hplain, hblock⟩ := of_blockKey_eq_plain hfree hd hc hkey
    rw [Renderer.blockText, Renderer.blockText, Renderer.process, Renderer.process, hplain, hd]
    simp only [hblock]
  · intro hkey
    obtain ⟨hplain, himport, hblock⟩ := of_contentKey_eq_plain hfree hd hc hkey
    refine ⟨himport, hblock, fun text _ ↦ ?_⟩
    rw [Renderer.bodyText, Renderer.surroundText, Renderer.surroundText, hplain, hd]

end CollisionFree

/-! ### Renderings of applications -/

/-- Renderings that their keys do not tell apart: with the same label, application name and block,
and with maps that have the same framing. -/
structure Alike (c d : Rendering) : Prop where
  label : c.renderer.label = d.renderer.label
  name : c.renderer.stateKey = d.renderer.stateKey
  map : c.map.framing = d.map.framing
  block : c.renderer.block = d.renderer.block

/-- What one rendering keeps is what the other one would. Where its imports fail it never comes
to use what is kept of the rest. -/
structure AgreesWith (c d : Rendering) : Prop where
  imports : ∀ text, c.importText = .ok text → d.importText = .ok text
  block : ∀ text, d.importText = .ok text → c.renderer.blockText = d.renderer.blockText
  body : ∀ text, d.importText = .ok text →
    c.renderer.surroundText d.renderer.blockText = d.renderer.bodyText

/-- Renderings that are alike share the parts behind their keys. -/
theorem Alike.contentParts_eq (h : c.Alike d) :
    c.renderer.contentParts c.map = d.renderer.contentParts d.map := by
  simp only [Renderer.contentParts, Renderer.keyParts, ImportMap.contentKey, h.label, h.name,
    h.map, h.block]

/-- Renderings of applications that are alike share all keys. -/
theorem Alike.keys_eq {a b : Stimulus.Application} (h : c.Alike d)
    (hc : c.renderer.kind = .stimulus b) (hd : d.renderer.kind = .stimulus a) :
    c.importKey = d.importKey ∧ c.blockKey = d.blockKey ∧ c.contentKey = d.contentKey := by
  simp only [importKey, blockKey, contentKey, importParts_of_stimulus hc,
    importParts_of_stimulus hd, blockParts_of_stimulus hc, blockParts_of_stimulus hd,
    h.contentParts_eq, and_self]

/-- The renderer of an application that was discovered over the names of the map as it stands. -/
def Current (d : Rendering) : Prop :=
  d.renderer.kind = .stimulus (.discover d.renderer.stateKey d.map.names d.renderer.block)

/-- Alike renderings agree, if both are current and the same entries load the package. So what their
keys miss is what was discovered earlier, the tags and locations by which these entries are told,
and separators within names and locations. -/
theorem Alike.agreesWith_of_current (h : c.Alike d) (hc : c.Current) (hd : d.Current)
    (hcmap : c.map.FreeOfSeparators) (hdmap : d.map.FreeOfSeparators)
    (hcore : c.map.entries.map Stimulus.isCoreEntry = d.map.entries.map Stimulus.isCoreEntry) :
    c.AgreesWith d := by
  have hnames : c.map.names = d.map.names := ImportMap.names_eq_of_framing_eq hcmap hdmap h.map
  have hkind : c.renderer.kind = d.renderer.kind := by rw [hc, hd, h.name, hnames, h.block]
  have himports : c.importText = d.importText := by
    rw [importText, importText, Renderer.importText, Renderer.importText, hkind, hd]
    simp only [Stimulus.Application.importLines_eq_of_isCoreEntry _ hnames hcore]
  have hblock : c.renderer.blockText = d.renderer.blockText := by
    rw [Renderer.blockText, Renderer.blockText, Renderer.process, Renderer.process, hkind, h.block]
  exact {
    imports := fun text htext ↦ himports ▸ htext
    block := fun _ _ ↦ hblock
    body := fun _ _ ↦ by
      rw [Renderer.bodyText, Renderer.surroundText, Renderer.surroundText, hkind] }

/-- An alike rendering that agrees can stand in. -/
theorem AgreesWith.standsFor {a b : Stimulus.Application} (h : c.AgreesWith d)
    (halike : c.Alike d) (hc : c.renderer.kind = .stimulus b)
    (hd : d.renderer.kind = .stimulus a) : c.StandsFor d where
  imports _ := h.imports
  block _ := h.block
  content _ := ⟨(halike.keys_eq hc hd).1, (halike.keys_eq hc hd).2.1, h.body⟩

section CollisionFree

variable {a : Stimulus.Application} (hfree : CollisionFree (c.messages ++ d.messages))
  (hd : d.renderer.kind = .stimulus a) (hd' : d.renderer.Accepted) (hc : c.renderer.Accepted)
include hfree hd hd' hc

/-- A rendering that shares the content key of an application's is alike. -/
theorem alike_of_contentKey_eq (h : c.contentKey = d.contentKey) :
    c.Alike d ∧ ∃ b, c.renderer.kind = .stimulus b := by
  obtain ⟨hlabel, hstate, hrest⟩ := keyParts_inj hc hd' (framing_contentParts_eq hfree h)
  obtain ⟨hmap, hblock⟩ := mapKey_block_inj hrest
  exact ⟨⟨hlabel, hstate, map_framing_eq hfree hmap, hblock⟩, exists_kind_eq_stimulus hc hd hlabel⟩

/-- So is one that shares the import key. -/
theorem alike_of_importKey_eq (h : c.importKey = d.importKey) :
    c.Alike d ∧ ∃ b, c.renderer.kind = .stimulus b := by
  have hparts := framing_importParts_eq hfree h
  rw [importParts_of_stimulus hd] at hparts
  obtain ⟨parts, heq⟩ := exists_importParts hc c.map
  obtain ⟨b, hb⟩ := exists_kind_eq_stimulus hc hd (keyParts_inj hc hd' (heq ▸ hparts)).1
  rw [importParts_of_stimulus hb] at hparts
  exact alike_of_contentKey_eq hfree hd hd' hc (congrArg sha256Hex hparts)

/-- And one that shares the block key. -/
theorem alike_of_blockKey_eq (h : c.blockKey = d.blockKey) :
    c.Alike d ∧ ∃ b, c.renderer.kind = .stimulus b := by
  have hparts := framing_blockParts_eq hfree h
  rw [blockParts_of_stimulus hd] at hparts
  obtain ⟨parts, heq⟩ := exists_blockParts hc c.map
  obtain ⟨b, hb⟩ := exists_kind_eq_stimulus hc hd (keyParts_inj hc hd' (heq ▸ hparts)).1
  rw [blockParts_of_stimulus hb] at hparts
  exact alike_of_contentKey_eq hfree hd hd' hc (congrArg sha256Hex hparts)

/-- A rendering can stand in for an application's if it agrees with it or is not alike. -/
theorem standsFor_stimulus (h : c.Alike d → c.AgreesWith d) : c.StandsFor d where
  imports hkey := (h (alike_of_importKey_eq hfree hd hd' hc hkey).1).imports
  block hkey := (h (alike_of_blockKey_eq hfree hd hd' hc hkey).1).block
  content hkey := by
    obtain ⟨halike, b, hb⟩ := alike_of_contentKey_eq hfree hd hd' hc hkey
    exact ((h halike).standsFor halike hb hd).content hkey

end CollisionFree

end Rendering

end ModuleScript
