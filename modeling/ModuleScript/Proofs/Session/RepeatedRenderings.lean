import ModuleScript.Proofs.ImportMap.KeyReadings
import ModuleScript.Proofs.Session.AcceptedMaps
import ModuleScript.Proofs.Session.StimulusRenderings

/-!
# Rendering once more

The content of a script that was just rendered is kept: what was stored last is not what is evicted,
and the imports and the processed block are kept in other partitions. So to render the same once
more finds the content and does nothing but count this.
-/

namespace ModuleScript

open Store

/-! ### Looking up once more -/

/-- Look-ups in one partition leave the others alone. -/
theorem looksUp_partition_eq {p q : Partition} (h : p.name ≠ q.name) (c : Cache Artifact) :
    LooksUp (fun s ↦ s.partition q.name = c) p := by
  have hwrite {s : Store} (hs : s.partition q.name = c) (c' : Cache Artifact) :
      (s.setPartition p.name c').partition q.name = c := by
    rw [partition_setPartition_of_ne s c' h, hs]
  exact fun _ _ ↦ .getOrCompute_of_writes (fun hs ↦ hwrite hs _) (fun hs ↦ hwrite hs _)
    fun _ hs ↦ hwrite hs _

/-- A value that a look-up gives is found afterwards, if there is room for it and its computation
leaves the partition alone. -/
theorem find?_of_getOrCompute {name key : String} {compute : Shared Artifact} {s s' : Store}
    {value : Artifact} (hroom : 0 < (s.partition name).capacity)
    (hcompute : ∀ c, Keeps (fun s ↦ s.partition name = c) compute)
    (h : ((slot name).getOrCompute key compute).run s = (.ok value, s')) :
    (s'.partition name).find? key = some value := by
  rw [Cache.Slot.run_getOrCompute] at h
  cases hfound : ((slot name).read s).find? key with
  | some kept =>
    rw [hfound] at h
    obtain ⟨hvalue, rfl⟩ := Prod.mk.inj h
    obtain rfl := Except.ok.inj hvalue
    change ((s.setPartition name (s.partition name).countHit).partition name).find? key = _
    rw [partition_setPartition_self]
    exact hfound
  | none =>
    rw [hfound] at h
    obtain ⟨hleft, -⟩ := hcompute (s.partition name).countMiss
      ((slot name).write ((slot name).read s).countMiss s) (partition_setPartition_self s name _)
    rcases hrun : compute.run ((slot name).write ((slot name).read s).countMiss s)
      with ⟨fault | computed, left⟩
    · rw [hrun] at h
      exact absurd (Prod.mk.inj h).1 (by simp)
    · rw [hrun] at h hleft
      obtain ⟨hvalue, rfl⟩ := Prod.mk.inj h
      obtain rfl := Except.ok.inj hvalue
      change ((left.setPartition name ((left.partition name).store key computed)).partition
        name).find? key = _
      rw [partition_setPartition_self, hleft]
      exact Cache.find?_store_self computed hroom hfound

/-- A partition in which something is found exists. -/
theorem mem_keys_of_find?_partition {s : Store} {name key : String} {kept : Artifact}
    (h : (s.partition name).find? key = some kept) : name ∈ s.partitions.keys := by
  by_contra hmissing
  have hempty : s.partition name = { capacity := defaultCapacity name } := by
    rw [partition, Table.find?_eq_none_iff.mpr hmissing, Option.getD_none]
  rw [hempty] at h
  exact absurd h (by simp [Cache.find?, Table.find?, EmptyCollection.emptyCollection, Table.empty])

namespace Rendering

variable {c d : Rendering} {s s' : Store} {script : String}

/-! ### Contents -/

/-- Imports and body are kept apart from contents. -/
theorem keeps_partition_scriptContent (d : Rendering) (c : Cache Artifact) :
    Keeps (fun s ↦ s.partition Partition.scriptContent.name = c) (do
      let imports ← d.renderer.imports d.map
      let body ← d.renderer.body d.map
      Renderer.ofResult (Renderer.joinParts [imports, body])) := by
  have hother {p : Partition} (h : p.name ≠ Partition.scriptContent.name) :
      LooksUp (fun s ↦ s.partition Partition.scriptContent.name = c) p :=
    looksUp_partition_eq h c
  have himports : Keeps _ (d.renderer.imports d.map) :=
    keeps_keptText (hother (by decide)) (keeps_ofResult _)
  have hprocessed : Keeps _ (d.renderer.processed d.map) :=
    keeps_keptText (hother (by decide)) (.pure _)
  exact himports.bind fun imports ↦ (keeps_body hprocessed).bind fun body ↦ keeps_ofResult _

/-- A content that is given is found afterwards. -/
theorem exists_find?_of_content {content : Value} (hroom : s.Roomy)
    (h : (d.renderer.content d.map).run s = (.ok content, s')) :
    ∃ kept : Artifact, kept.toValue = content ∧
      (s'.partition Partition.scriptContent.name).find? d.contentKey = some kept := by
  rw [Renderer.content, Renderer.keptText, Cache.run_bind] at h
  split at h
  next kept left hrun =>
    obtain ⟨hcontent, rfl⟩ := Prod.mk.inj h
    refine ⟨kept, Except.ok.inj hcontent, find?_of_getOrCompute (hroom _) (fun c ↦ ?_) hrun⟩
    exact (d.keeps_partition_scriptContent c).bind fun _ ↦ .pure _
  next => exact absurd (Prod.mk.inj h).1 (by simp)

/-- A content that is found is given, and this is counted. -/
theorem run_content_of_find? {kept : Artifact}
    (h : (s.partition Partition.scriptContent.name).find? d.contentKey = some kept) :
    (d.renderer.content d.map).run s = (.ok kept.toValue, s.setPartition
      Partition.scriptContent.name (s.partition Partition.scriptContent.name).countHit) := by
  have hfound : ((slot Partition.scriptContent.name).read s).find?
      (Digest.contentKey (d.renderer.contentParts d.map)) = some kept := h
  rw [Renderer.content, Renderer.keptText, Cache.run_bind, Cache.Slot.run_getOrCompute, hfound]
  rfl

/-- A script is given whenever the content is a text. -/
theorem run_render_eq_ok_iff : (d.renderer.render d.map).run s = (.ok script, s') ↔
    ∃ content, (d.renderer.content d.map).run s = (.ok (.text content), s') ∧
      Script.wrap content = script := by
  rw [Renderer.render, Cache.run_bind]
  constructor
  · intro h
    split at h
    next content left hrun =>
      cases content with
      | text content =>
        obtain ⟨hscript, rfl⟩ := Prod.mk.inj h
        exact ⟨content, hrun, Except.ok.inj hscript⟩
      | _ => exact absurd (Prod.mk.inj h).1 (by simp)
    next => exact absurd (Prod.mk.inj h).1 (by simp)
  · rintro ⟨content, hrun, rfl⟩
    rw [hrun]
    rfl

/-! ### Scripts -/

/-- Where a script was given, an alike rendering gives it once more and counts a hit. -/
theorem Alike.run_render (h : d.Alike c) (hroom : s.Roomy)
    (hfirst : (c.renderer.render c.map).run s = (.ok script, s')) :
    (d.renderer.render d.map).run s' = (.ok script, s'.setPartition
      Partition.scriptContent.name (s'.partition Partition.scriptContent.name).countHit) ∧
    ∃ kept, (s'.partition Partition.scriptContent.name).find? d.contentKey = some kept := by
  have hkey : d.contentKey = c.contentKey := congrArg Digest.contentKey h.contentParts_eq
  obtain ⟨content, hcontent, hscript⟩ := run_render_eq_ok_iff.mp hfirst
  obtain ⟨kept, hkept, hfound⟩ := exists_find?_of_content hroom hcontent
  rw [← hkey] at hfound
  have hagain := run_content_of_find? hfound
  rw [hkept] at hagain
  exact ⟨run_render_eq_ok_iff.mpr ⟨content, hagain, hscript⟩, kept, hfound⟩

/-- Let a rendering give a script, in caches with room, as there is in all that come about. The next
rendering, if it has the same label, application name and block and its map has the same names and
locations in order, gives the same script. It leaves all partitions as they are, keys, values and
order included, but that one more hit is counted for the contents. -/
theorem rendering_again_only_counts_a_hit (hroom : s.Roomy)
    (hfirst : (c.renderer.render c.map).run s = (.ok script, s'))
    (hlabel : d.renderer.label = c.renderer.label)
    (hname : d.renderer.stateKey = c.renderer.stateKey)
    (hblock : d.renderer.block = c.renderer.block) (hmap : d.map.listing = c.map.listing) :
    ∃ s'', (d.renderer.render d.map).run s' = (.ok script, s'') ∧
      s''.partitions.keys = s'.partitions.keys ∧
      ∀ name, s''.partition name = { s'.partition name with
        hits := (s'.partition name).hits +
          if name = Partition.scriptContent.name then 1 else 0 } := by
  have halike : d.Alike c := ⟨hlabel, hname, ImportMap.framing_eq_of_listing_eq hmap, hblock⟩
  obtain ⟨hrun, kept, hfound⟩ := halike.run_render hroom hfirst
  refine ⟨_, hrun, ?_, fun name ↦ ?_⟩
  · have hkeys := s'.partitions.keys_insert Partition.scriptContent.name
      (s'.partition Partition.scriptContent.name).countHit
    rw [if_pos (mem_keys_of_find?_partition hfound)] at hkeys
    exact hkeys
  · by_cases hcontent : name = Partition.scriptContent.name
    · subst hcontent
      rw [partition_setPartition_self, if_pos rfl]
      rfl
    · rw [partition_setPartition_of_ne _ _ (Ne.symm hcontent), if_neg hcontent]
      rfl

/-- Contents with room for one script, which another script takes at first. -/
theorem rendering_again_with_room_for_one :
    ∃ (s s' s'' : Store) (script : String) (c d : Rendering),
      s.Roomy ∧ (s.partition "script_content").capacity = 1 ∧
      (s.partition "script_content").size = 1 ∧ c.map.entries ≠ d.map.entries ∧
      (c.renderer.render c.map).run s = (.ok script, s') ∧
      (d.renderer.render d.map).run s' = (.ok script, s'') ∧
      (s''.partition "script_content").keys = (s'.partition "script_content").keys ∧
      (s''.partition "script_content").hits = (s'.partition "script_content").hits + 1 := by
  let entry : Entry := { name := "chart", location := some "/chart.js" }
  let m : ImportMap := { entries := [entry] }
  let tagged : ImportMap := { entries := [{ entry with kind := .text "library" }] }
  let steps : List Workshop.Step := [.addMap m, .configure "script_content" 1,
    .configure "import_statements" 1, .configure "processed_js" 1, .addPlain 0 "stop();" none,
    .request 0 .script]
  let c : Rendering := ⟨.ofBlock "run();" none, m⟩
  let d : Rendering := ⟨.ofBlock "run();" none, tagged⟩
  have hcapacity : ((Workshop.run {} steps).store.partition "script_content").capacity = 1 := by
    decide +kernel
  have hsize : ((Workshop.run {} steps).store.partition "script_content").size = 1 := by
    decide +kernel
  have hproper := Workshop.holds_proper_run steps
  have hroom := Workshop.roomy_run steps
  generalize (Workshop.run {} steps).store = s at hcapacity hsize hproper hroom
  obtain ⟨⟨script, hscript⟩, -⟩ := Workshop.unfailing_of_exists_importText hproper
    (r := c.renderer) (m := m) (by simp [c, Renderer.ofBlock]) ⟨_, rfl⟩
  obtain ⟨s', hfirst⟩ : ∃ s', (c.renderer.render m).run s = (.ok script, s') :=
    ⟨_, Prod.ext hscript rfl⟩
  obtain ⟨s'', hagain, -, hleft⟩ := rendering_again_only_counts_a_hit (c := c) (d := d)
    hroom hfirst rfl rfl rfl rfl
  refine ⟨s, s', s'', script, c, d, hroom, hcapacity, hsize, by simp [c, d, m, tagged, entry],
    hfirst, hagain, ?_, ?_⟩
  · rw [hleft]
    rfl
  · rw [hleft]
    rfl

end Rendering

end ModuleScript
