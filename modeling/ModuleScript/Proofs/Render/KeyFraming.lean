import ModuleScript.Proofs.Render.Keys

/-!
# What the bytes of a key tell

The key of a rendered part is the digest of a framing, and texts are framed without an escape for
the byte that closes them. Still the framing tells all that enters it, since a block, in which this
byte may occur, comes last, and what comes before it cannot hold the byte. Where a plain renderer
leaves the map or the block out, an application's has both, but then the labels differ.
-/

namespace ModuleScript

open Digest

/-- Renderers of the same class, and of applications with the same name if they are of
applications. -/
def Renderer.Akin (r r' : Renderer) : Prop :=
  (r.kind = .plain ∧ r'.kind = .plain) ∨
    ∃ a a', r.kind = .stimulus a ∧ r'.kind = .stimulus a' ∧ a.name = a'.name

namespace Rendering

variable {r r' : Renderer} {m m' : ImportMap}

/-- A text that stands alone is told, and so are texts behind a map key. -/
theorem framing_singleton_iff {a b : String} : framing [a] = framing [b] ↔ a = b :=
  ⟨framing_singleton_inj, congrArg fun s ↦ framing [s]⟩

theorem framing_mapKey_block_iff {block block' : String} :
    framing [m.contentKey, block] = framing [m'.contentKey, block'] ↔
      m.contentKey = m'.contentKey ∧ block = block' := by
  refine ⟨mapKey_block_inj, ?_⟩
  rintro ⟨hmap, rfl⟩
  rw [hmap]

section Accepted

variable (hr : r.Accepted) (hr' : r'.Accepted)
include hr hr'

/-- Label and application name tell the class. -/
theorem akin_iff : r.Akin r' ↔ r.label = r'.label ∧ r.stateKey = r'.stateKey := by
  constructor
  · rintro (⟨hplain, hplain'⟩ | ⟨a, a', ha, ha', hname⟩)
    · simp only [Renderer.label, Renderer.stateKey, hplain, hplain', and_self]
    · simp only [Renderer.label, Renderer.stateKey, ha, ha', hname, and_self]
  · rintro ⟨hlabel, hname⟩
    rcases hr' with hplain' | ⟨a', ha', -⟩
    · exact .inl ⟨kind_eq_plain hr hplain' hlabel, hplain'⟩
    · obtain ⟨a, ha⟩ := exists_kind_eq_stimulus hr ha' hlabel
      simp only [Renderer.stateKey, ha, ha'] at hname
      exact .inr ⟨a, a', ha, ha', hname⟩

/-- All framings tell the class and the application name, apart from what follows them. -/
theorem framing_keyParts_iff {parts parts' : List String} :
    framing (r.keyParts parts) = framing (r'.keyParts parts') ↔
      r.Akin r' ∧ framing parts = framing parts' := by
  rw [akin_iff hr hr', and_assoc]
  refine ⟨keyParts_inj hr hr', ?_⟩
  rintro ⟨hlabel, hname, hparts⟩
  rw [Renderer.keyParts, Renderer.keyParts, hlabel, hname, framing_cons, framing_cons, hparts,
    framing_cons, framing_cons]

theorem framing_contentParts_iff : framing (r.contentParts m) = framing (r'.contentParts m') ↔
    r.Akin r' ∧ m.contentKey = m'.contentKey ∧ r.block = r'.block := by
  rw [Renderer.contentParts, Renderer.contentParts, framing_keyParts_iff hr hr',
    framing_mapKey_block_iff]

/-- Renderers that are not akin share no framing, so what a shared one tells is a matter of the two
kinds. -/
theorem framing_iff_of_kinds {agree : Prop} {parts parts' : List String}
    (hparts : ∃ own, parts = r.keyParts own) (hparts' : ∃ own, parts' = r'.keyParts own)
    (hplain : r.kind = .plain → r'.kind = .plain →
      (framing parts = framing parts' ↔ r.Akin r' ∧ agree))
    (hstimulus : ∀ a a', r.kind = .stimulus a → r'.kind = .stimulus a' →
      (framing parts = framing parts' ↔ r.Akin r' ∧ agree)) :
    framing parts = framing parts' ↔ r.Akin r' ∧ agree := by
  by_cases hakin : r.Akin r'
  · rcases hakin with ⟨hkind, hkind'⟩ | ⟨a, a', hkind, hkind', -⟩
    · exact hplain hkind hkind'
    · exact hstimulus a a' hkind hkind'
  · obtain ⟨own, rfl⟩ := hparts
    obtain ⟨own', rfl⟩ := hparts'
    rw [framing_keyParts_iff hr hr']
    simp only [hakin, false_and]

/-- The imports of a plain renderer do not depend on its block. -/
theorem framing_importParts_iff : framing (r.importParts m) = framing (r'.importParts m') ↔
    r.Akin r' ∧ m.contentKey = m'.contentKey ∧ (r.kind = .plain ∨ r.block = r'.block) := by
  refine framing_iff_of_kinds hr hr' (exists_importParts hr m) (exists_importParts hr' m')
    (fun hkind hkind' ↦ ?_) fun a a' hkind hkind' ↦ ?_
  · rw [importParts_of_plain hkind, importParts_of_plain hkind', framing_keyParts_iff hr hr',
      framing_singleton_iff]
    simp only [hkind, true_or, and_true]
  · rw [importParts_of_stimulus hkind, importParts_of_stimulus hkind',
      framing_contentParts_iff hr hr']
    simp only [hkind, reduceCtorEq, false_or]

/-- Its processed block does not depend on the map. -/
theorem framing_blockParts_iff : framing (r.blockParts m) = framing (r'.blockParts m') ↔
    r.Akin r' ∧ (r.kind = .plain ∨ m.contentKey = m'.contentKey) ∧ r.block = r'.block := by
  refine framing_iff_of_kinds hr hr' (exists_blockParts hr m) (exists_blockParts hr' m')
    (fun hkind hkind' ↦ ?_) fun a a' hkind hkind' ↦ ?_
  · rw [blockParts_of_plain hkind, blockParts_of_plain hkind', framing_keyParts_iff hr hr',
      framing_singleton_iff]
    simp only [hkind, true_or, true_and]
  · rw [blockParts_of_stimulus hkind, blockParts_of_stimulus hkind',
      framing_contentParts_iff hr hr']
    simp only [hkind, reduceCtorEq, false_or]

end Accepted

/-- For plain renderers and renderers of applications with accepted names, over any maps and with
any blocks, the bytes that are digested for a partition are the same if and only if the renderers
are of the same class with the same application name, and agree on whatever else enters the key: map
key and block, except that a plain renderer leaves the block out for the imports and the map out for
the processed block. -/
theorem key_bytes_tell_all_parts (hr : r.Accepted) (hr' : r'.Accepted) (m m' : ImportMap) :
    (framing (r.contentParts m) = framing (r'.contentParts m') ↔
      r.Akin r' ∧ m.contentKey = m'.contentKey ∧ r.block = r'.block) ∧
    (framing (r.importParts m) = framing (r'.importParts m') ↔
      r.Akin r' ∧ m.contentKey = m'.contentKey ∧ (r.kind = .plain ∨ r.block = r'.block)) ∧
    (framing (r.blockParts m) = framing (r'.blockParts m') ↔
      r.Akin r' ∧ (r.kind = .plain ∨ m.contentKey = m'.contentKey) ∧ r.block = r'.block) :=
  ⟨framing_contentParts_iff hr hr', framing_importParts_iff hr hr', framing_blockParts_iff hr hr'⟩

/-- A block that ends with the byte that closes it. -/
theorem closing_byte_in_block_is_told :
    ∃ (r r' plain plain' : Renderer) (m : ImportMap),
      r.Accepted ∧ r'.Accepted ∧ plain.Accepted ∧ plain'.Accepted ∧
      r.block = "run();" ∧ r'.block = "run();\x00" ∧
      plain.block = r.block ∧ plain'.block = r'.block ∧
      framing (r.contentParts m) ≠ framing (r'.contentParts m) ∧
      framing (r.importParts m) ≠ framing (r'.importParts m) ∧
      framing (plain.importParts m) = framing (plain'.importParts m) ∧
      framing (plain.blockParts m) ≠ framing (plain'.blockParts m) := by
  let application (block : String) : Renderer :=
    { kind := .stimulus (.discover "app" [] block), block, analyzer := none }
  have hdiffers : "run();" ≠ "run();\x00" := by decide
  have hname : Script.isIdentifier "app" = true := by decide +kernel
  have happlication (block : String) : (application block).Accepted := .inr ⟨_, rfl, hname⟩
  have hplain (block : String) : (Renderer.ofBlock block none).Accepted := .inl rfl
  obtain ⟨hcontent, himports, -⟩ :=
    key_bytes_tell_all_parts (happlication "run();") (happlication "run();\x00") {} {}
  obtain ⟨-, himports', hblock'⟩ :=
    key_bytes_tell_all_parts (hplain "run();") (hplain "run();\x00") {} {}
  refine ⟨application "run();", application "run();\x00", .ofBlock "run();" none,
    .ofBlock "run();\x00" none, {}, happlication _, happlication _, hplain _, hplain _, rfl, rfl,
    rfl, rfl, fun h ↦ hdiffers (hcontent.mp h).2.2, fun h ↦ ?_,
    himports'.mpr ⟨.inl ⟨rfl, rfl⟩, rfl, .inl rfl⟩, fun h ↦ hdiffers (hblock'.mp h).2.2⟩
  rcases (himports.mp h).2.2 with hkind | hblock
  · exact absurd hkind (by simp [application])
  · exact hdiffers hblock

end Rendering

end ModuleScript
