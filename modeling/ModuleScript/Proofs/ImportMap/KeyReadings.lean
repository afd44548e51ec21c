import ModuleScript.Proofs.Digest.Framing
import ModuleScript.Proofs.ImportMap.Reachable

/-!
# Which maps their keys tell

What the key of a map digests is a text that closes every name and every location by a separator.
Two entries make up the same text as a single one whose location holds what stood in between, so
that a key tells a map from all others only if the map has one entry at most, and then only if that
entry can be read in no other way. Among maps that keep the separators apart, a key tells the names
and the locations, except that it takes a location that is null for a text.
-/

namespace ModuleScript

open Text

/-- An entry as it enters the key of its map. -/
def Entry.keyText (e : Entry) : List Char :=
  e.name.toList ++ '\x1f' :: (e.keyLocation.toList ++ ['\x1e'])

namespace ImportMap

/-- The names of a map with their locations, in order. -/
def listing (m : ImportMap) : List (String × Option String) :=
  m.entries.map fun e ↦ (e.name, e.location)

/-- What the key of a map digests, as a text. -/
def keyText (m : ImportMap) : List Char := m.entries.flatMap Entry.keyText

variable {m m' : ImportMap}

/-! ### The text behind a key -/

/-- The bytes are those of the text. -/
theorem framing_eq_encode (m : ImportMap) : m.framing = Utf8.encode (String.ofList m.keyText) := by
  have hmark : String.utf8EncodeChar '\x1f' = [0x1f] ∧ String.utf8EncodeChar '\x1e' = [0x1e] := by
    decide
  have hentry (e : Entry) : e.framing = e.keyText.flatMap String.utf8EncodeChar := by
    rw [Entry.framing, Entry.keyText, List.flatMap_append, List.flatMap_cons, List.flatMap_append,
      List.flatMap_singleton, hmark.1, hmark.2]
    simp [Utf8.encode, Entry.keyLocation]
  rw [framing, Utf8.encode, String.toList_ofList, keyText, List.flatMap_assoc]
  exact List.flatMap_congr fun e _ ↦ hentry e

/-- So the bytes tell as much as the text. -/
theorem framing_eq_iff : m.framing = m'.framing ↔ m.keyText = m'.keyText := by
  rw [framing_eq_encode, framing_eq_encode]
  constructor
  · intro h
    exact String.ofList_inj.mp (Utf8.encode_injective h)
  · intro h
    rw [h]

/-- They are made of nothing but names and locations. -/
theorem framing_eq_of_listing_eq (h : m.listing = m'.listing) : m.framing = m'.framing := by
  have hlisted (m : ImportMap) : m.framing = m.listing.flatMap fun pair ↦
      Utf8.encode pair.1 ++ 0x1f :: Utf8.encode (pair.2.getD "None") ++ [0x1e] := by
    rw [listing, List.flatMap_map]
    rfl
  rw [hlisted, hlisted, h]

/-- A separator of names for each entry is in the text. -/
private theorem keyText_eq_nil_of_notMem {entries : List Entry}
    (h : '\x1f' ∉ entries.flatMap Entry.keyText) : entries = [] := by
  cases entries with
  | nil => rfl
  | cons e rest => exact absurd (by simp [Entry.keyText]) h

/-! ### Maps that are told -/

/-- A map that can be read in one way: it has no entry, or a single one with a location that is a
text, not the one that stands for null, in which no name ends; and its name cannot end early. -/
def Told (m : ImportMap) : Prop :=
  m.entries = [] ∨ ∃ e location, m.entries = [e] ∧ e.location = some location ∧
    location ≠ "None" ∧ '\x1f' ∉ location.toList ∧ '\x1f' ∉ e.name.toList.tail

/-- A single separator of names, behind the first character of the text, tells the name and what
follows it. -/
private theorem first_separator_inj {c c' : Char} {xs ys xs' ys' : List Char}
    (hxs : '\x1f' ∉ xs) (hys : '\x1f' ∉ ys)
    (h : c :: (xs ++ '\x1f' :: ys) = c' :: (xs' ++ '\x1f' :: ys')) :
    c = c' ∧ xs = xs' ∧ ys = ys' := by
  obtain ⟨hc, hrest⟩ := List.cons.inj h
  have hcount : List.count '\x1f' xs' + List.count '\x1f' ys' = 0 := by
    have hboth := congrArg (List.count '\x1f') hrest
    rw [List.count_append, List.count_append, List.count_cons_self, List.count_cons_self,
      List.count_eq_zero.mpr hxs, List.count_eq_zero.mpr hys] at hboth
    omega
  have hxs' : '\x1f' ∉ xs' := List.count_eq_zero.mp (by omega)
  have free {zs : List Char} (hzs : '\x1f' ∉ zs) : ∀ d ∈ zs, (d != '\x1f') = true :=
    fun d hd ↦ by simpa using ne_of_mem_of_not_mem hd hzs
  obtain ⟨hx, hy⟩ := append_inj_of_stop (free hxs) (free hxs') (by simp) (by simp) hrest
  exact ⟨hc, hx, (List.cons.inj hy).2⟩

/-- A map with the same key as one that is told has the same names and locations. -/
theorem Told.listing_eq (htold : m.Told) (hm : m.WellNamed) (hm' : m'.WellNamed)
    (h : m'.framing = m.framing) : m'.listing = m.listing := by
  rw [framing_eq_iff] at h
  rcases htold with hnil | ⟨e, location, hone, hlocation, hnone, hfree, hname⟩
  · rw [keyText, keyText, hnil, List.flatMap_nil] at h
    have hnil' := keyText_eq_nil_of_notMem (h ▸ List.not_mem_nil)
    rw [listing, listing, hnil, hnil']
  · obtain ⟨n, ns, hn⟩ := List.exists_cons_of_ne_nil
      (mt String.toList_eq_nil_iff.mp (hm.named e.name (by simp [names, hone])))
    have hkey : e.keyLocation = location := by rw [Entry.keyLocation, hlocation, Option.getD_some]
    cases hentries : m'.entries with
    | nil =>
      rw [keyText, keyText, hentries, hone] at h
      exact absurd h (by simp [Entry.keyText])
    | cons e' rest =>
      obtain ⟨n', ns', hn'⟩ := List.exists_cons_of_ne_nil
        (mt String.toList_eq_nil_iff.mp (hm'.named e'.name (by simp [names, hentries])))
      have htext : n :: (ns ++ '\x1f' :: (location.toList ++ ['\x1e'])) =
          n' :: (ns' ++ '\x1f' :: (e'.keyLocation.toList ++ '\x1e' ::
            rest.flatMap Entry.keyText)) := by
        rw [keyText, keyText, hentries, hone] at h
        simpa [Entry.keyText, hn, hn', hkey] using h.symm
      rw [hn, List.tail_cons] at hname
      obtain ⟨rfl, rfl, hend⟩ := first_separator_inj hname (by simpa using hfree) htext
      -- what follows the location holds no separator of names, so that no entry is in it
      have hrest : rest = [] := by
        apply keyText_eq_nil_of_notMem
        intro hmem
        have hbehind : '\x1f' ∈ location.toList ++ ['\x1e'] := by
          rw [hend]
          simp [hmem]
        exact hfree (by simpa using hbehind)
      subst hrest
      have hlocation' : e'.keyLocation = location := by
        rw [List.flatMap_nil] at hend
        exact (String.toList_inj.mp (List.append_cancel_right hend)).symm
      have hsome : e'.location = some location := by
        cases hcases : e'.location with
        | none =>
          rw [Entry.keyLocation, hcases, Option.getD_none] at hlocation'
          exact absurd hlocation'.symm hnone
        | some given =>
          rw [Entry.keyLocation, hcases, Option.getD_some] at hlocation'
          rw [hlocation']
      rw [listing, listing, hentries, hone, List.map_singleton, List.map_singleton, hsome,
        hlocation, String.toList_inj.mp (hn'.trans hn.symm)]

/-! ### Maps that are not told -/

/-- Additions to a new map build one with the same key, but with other names or locations. -/
def HasTwin (m : ImportMap) : Prop :=
  ∃ (added : List Entry) (m' : ImportMap), added.foldlM add {} = .ok m' ∧
    m'.framing = m.framing ∧ m'.listing ≠ m.listing

/-- Entries that can be added, with the same text but a different listing, make a twin. -/
private theorem hasTwin_of_keyText (entries : List Entry) (hnamed : WellNamed { entries })
    (htext : entries.flatMap Entry.keyText = m.keyText)
    (hne : (entries.map fun e ↦ (e.name, e.location)) ≠ m.listing) : m.HasTwin :=
  have hnew : ∀ e ∈ entries, e.name ≠ "" ∧ e.name ∉ ({} : ImportMap).names := fun e he ↦
    ⟨hnamed.named e.name (List.mem_map_of_mem he), List.not_mem_nil⟩
  ⟨entries, { entries }, foldlM_add_eq_ok hnamed.nodup hnew, framing_eq_iff.mpr htext, hne⟩

/-- Two entries that are next to each other read as one. -/
private theorem hasTwin_of_two {e₁ e₂ : Entry} {rest : List Entry} (hm : m.WellNamed)
    (hentries : m.entries = e₁ :: e₂ :: rest) : m.HasTwin := by
  let merged : Entry := {
    name := e₁.name
    location := some (e₁.keyLocation ++ "\x1e" ++ e₂.name ++ "\x1f" ++ e₂.keyLocation) }
  have hsub : ({ entries := merged :: rest } : ImportMap).names.Sublist m.names := by
    have hnames : m.names = e₁.name :: e₂.name :: rest.map (·.name) := by simp [names, hentries]
    rw [hnames]
    exact (List.sublist_cons_self _ _).cons_cons e₁.name
  refine hasTwin_of_keyText (merged :: rest)
    ⟨hm.nodup.sublist hsub, fun name hname ↦ hm.named name (hsub.subset hname)⟩ ?_ ?_
  · simp [keyText, hentries, Entry.keyText, merged, Entry.keyLocation]
  · intro h
    have hlength := congrArg List.length h
    simp [listing, hentries] at hlength

/-- A single entry that reads as another one. -/
private theorem hasTwin_of_single {e : Entry} (hentries : m.entries = [e]) (e' : Entry)
    (hname : e'.name ≠ "") (htext : e'.keyText = e.keyText)
    (hne : (e'.name, e'.location) ≠ (e.name, e.location)) : m.HasTwin := by
  refine hasTwin_of_keyText [e'] ⟨?_, ?_⟩ ?_ ?_
  · simp [names]
  · simpa [names] using hname
  · simpa [keyText, hentries] using htext
  · simpa [listing, hentries] using hne

/-- A null location reads as a text, and the text as null. -/
private theorem hasTwin_of_none {e : Entry} (hentries : m.entries = [e]) (hname : e.name ≠ "")
    (h : e.keyLocation = "None") : m.HasTwin := by
  cases hlocation : e.location with
  | none =>
    refine hasTwin_of_single hentries { e with location := some "None" } hname ?_ ?_
    · simp [Entry.keyText, Entry.keyLocation, hlocation]
    · simp [hlocation]
  | some location =>
    refine hasTwin_of_single hentries { e with location := none } hname ?_ ?_
    · rw [Entry.keyText, Entry.keyText, h]
      rfl
    · simp [hlocation]

/-- A name can go on into a location with a separator of names. -/
private theorem hasTwin_of_mem_location {e : Entry} (hentries : m.entries = [e])
    (h : '\x1f' ∈ e.keyLocation.toList) : m.HasTwin := by
  obtain ⟨a, b, hsplit⟩ := List.append_of_mem h
  refine hasTwin_of_single hentries {
    name := e.name ++ "\x1f" ++ String.ofList a
    location := some (String.ofList b) } (by simp) ?_ ?_
  · rw [Entry.keyText, Entry.keyText, hsplit]
    simp [Entry.keyLocation]
  · intro heq
    have hname := congrArg (fun pair : String × Option String ↦ pair.1.toList.length) heq
    simp at hname

/-- A name with a separator behind its first character can end there. -/
private theorem hasTwin_of_mem_name {e : Entry} (hentries : m.entries = [e])
    (h : '\x1f' ∈ e.name.toList.tail) : m.HasTwin := by
  obtain ⟨c, cs, hcs⟩ := List.exists_cons_of_ne_nil
    (List.ne_nil_of_tail_ne_nil (List.ne_nil_of_mem h))
  rw [hcs, List.tail_cons] at h
  obtain ⟨a, b, hsplit⟩ := List.append_of_mem h
  refine hasTwin_of_single hentries {
    name := String.ofList (c :: a)
    location := some (String.ofList (b ++ '\x1f' :: e.keyLocation.toList)) } (by simp) ?_ ?_
  · rw [Entry.keyText, Entry.keyText, hcs, hsplit]
    simp [Entry.keyLocation]
  · intro heq
    have hname := congrArg (fun pair : String × Option String ↦ pair.1.toList.length) heq
    simp [hcs, hsplit] at hname

/-- A map that is not told has a twin. -/
theorem hasTwin_of_not_told (hm : m.WellNamed) (h : ¬ m.Told) : m.HasTwin := by
  rw [Told, not_or] at h
  obtain ⟨hne, h⟩ := h
  obtain ⟨e, rest, hentries⟩ := List.exists_cons_of_ne_nil hne
  cases rest with
  | cons e₂ rest => exact hasTwin_of_two hm hentries
  | nil =>
    have hname : e.name ≠ "" := hm.named e.name (by simp [names, hentries])
    by_cases hnone : e.keyLocation = "None"
    · exact hasTwin_of_none hentries hname hnone
    · by_cases hfree : '\x1f' ∈ e.keyLocation.toList
      · exact hasTwin_of_mem_location hentries hfree
      · by_cases htail : '\x1f' ∈ e.name.toList.tail
        · exact hasTwin_of_mem_name hentries htail
        · cases hlocation : e.location with
          | none => exact absurd (by rw [Entry.keyLocation, hlocation]; rfl) hnone
          | some location =>
            have hkey : e.keyLocation = location := by
              rw [Entry.keyLocation, hlocation, Option.getD_some]
            rw [hkey] at hnone hfree
            exact absurd ⟨e, location, hentries, hlocation, hnone, hfree, htail⟩ h

/-- The bytes behind the key of a map tell its names and locations if there is one entry at most and
that entry reads in one way. If not, additions alone build a map with the same bytes and a different
listing. Among legible maps the bytes tell the names and the locations, up to locations that are
null, which read as a text. -/
theorem key_tells_single_readings (hm : Reachable m) :
    (m.Told → ∀ m', Reachable m' → m'.framing = m.framing → m'.listing = m.listing) ∧
    (¬ m.Told → m.HasTwin) ∧
    ∀ m' : ImportMap, m.Legible → m'.Legible → (m'.framing = m.framing ↔
      m'.entries.map (fun e ↦ (e.name, e.keyLocation)) =
        m.entries.map fun e ↦ (e.name, e.keyLocation)) := by
  refine ⟨fun htold m' hm' h ↦ htold.listing_eq hm.wellNamed hm'.wellNamed h,
    hasTwin_of_not_told hm.wellNamed, fun m' hlegible hlegible' ↦
      ⟨names_locations_eq_of_framing_eq hlegible' hlegible, fun h ↦ ?_⟩⟩
  have htext (m : ImportMap) : m.keyText = (m.entries.map fun e ↦ (e.name, e.keyLocation)).flatMap
      fun pair ↦ pair.1.toList ++ '\x1f' :: (pair.2.toList ++ ['\x1e']) := by
    rw [List.flatMap_map]
    rfl
  rw [framing_eq_iff, htext, htext, h]

/-- Two entries share the bytes of one whose location holds the separators; a single entry without
separators shares its bytes with no other. -/
theorem second_entry_hides_in_location :
    ∃ one two : ImportMap, Reachable one ∧ Reachable two ∧
      one.listing = [("a", some "b\x1ec\x1fd")] ∧
      two.listing = [("a", some "b"), ("c", some "d")] ∧ one.framing = two.framing ∧
      two.HasTwin ∧
      ∀ m' : ImportMap, Reachable m' →
        m'.framing = (({} : ImportMap).change (.add ⟨"a", some "b", false, .null, .null⟩)).framing →
        m'.listing = [("a", some "b")] := by
  let first : ImportMap := ({} : ImportMap).change (.add { name := "a", location := some "b" })
  let two := first.change (.add { name := "c", location := some "d" })
  let one : ImportMap := ({} : ImportMap).change
    (.add { name := "a", location := some "b\x1ec\x1fd" })
  have hfirst : Reachable first := .change _ (.new _)
  have htwo : Reachable two := .change _ hfirst
  obtain ⟨htold, -⟩ := key_tells_single_readings hfirst
  obtain ⟨-, htwin, -⟩ := key_tells_single_readings htwo
  refine ⟨one, two, .change _ (.new _), htwo, by decide +kernel, by decide +kernel,
    by decide +kernel, htwin ?_, htold (.inr ⟨_, "b", rfl, rfl, ?_⟩)⟩
  · rintro (hnil | ⟨e, location, hone, -⟩)
    · exact absurd (congrArg List.length hnil) (by decide +kernel)
    · have hlength := congrArg List.length hone
      rw [List.length_singleton] at hlength
      exact absurd hlength (by decide +kernel)
  · decide +kernel

end ImportMap

end ModuleScript
