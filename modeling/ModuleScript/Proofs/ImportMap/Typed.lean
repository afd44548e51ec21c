import Mathlib.Data.List.TakeWhile
import ModuleScript.ImportMap.Change
import ModuleScript.ImportMap.LooseKey
import ModuleScript.Proofs.ImportMap.Built

/-!
# Typed maps among the loose ones

A map whose names and locations are of the types that are declared for them is a loose map, and the
operations of the two agree on it: they fail for the same reasons, lead to the same maps and give
them the same keys.
-/

namespace ModuleScript

open ImportMap (Fault)

/-! ### Typed parts -/

namespace Value

@[simp] theorem same_text (s t : String) : (text s).same (text t) = (s == t) := rfl

@[simp] theorem sameScalar_text (s t : String) : (text s).sameScalar (text t) = (s == t) := rfl

theorem eq_text_of_toText? {v : Value} {s : String} (h : v.toText? = some s) : v = text s := by
  cases v with
  | text t => exact congrArg text (Option.some.inj h)
  | _ => exact absurd h (by simp [toText?])

theorem eq_ofText?_of_toTextOrNull? {v : Value} {s : Option String}
    (h : v.toTextOrNull? = some s) : v = ofText? s := by
  cases v with
  | null => exact Option.some.inj h ▸ rfl
  | text t => exact Option.some.inj h ▸ rfl
  | _ => exact absurd h (by simp [toTextOrNull?])

/-- Texts are put into a dictionary as they are inserted into a table. -/
theorem put_map_text {α β : Type} (f : α → β) (key : String) (value : α)
    (entries : List (String × α)) :
    put (text key) (f value) (entries.map fun e ↦ (text e.1, f e.2)) =
      (Table.insertInto key value entries).map fun e ↦ (text e.1, f e.2) := by
  induction entries with
  | nil => rfl
  | cons entry rest ih =>
    rw [List.map_cons, put, Table.insertInto, sameScalar_text]
    by_cases hkey : entry.1 = key
    · simp [hkey]
    · simp [hkey, ih]

/-- They are found as in a table. -/
theorem under?_map_text {α β : Type} (f : α → β) (t : Table String α) (key : String) :
    under? (text key) (t.entries.map fun e ↦ (text e.1, f e.2)) = (t.find? key).map f := by
  rw [under?, Table.find?, List.find?_map, Option.map_map, Option.map_map]
  rfl

end Value

/-- Where each item comes from what it is turned into, so does a list. -/
theorem eq_map_of_mapM_eq_some {α β : Type} {f : α → Option β} {g : β → α}
    (hfg : ∀ a b, f a = some b → a = g b) {items : List α} {others : List β}
    (h : items.mapM f = some others) : items = others.map g := by
  induction items generalizing others with
  | nil =>
    obtain rfl := Option.some.inj h
    rfl
  | cons a rest ih =>
    rw [List.mapM_cons] at h
    obtain ⟨b, hb, h⟩ := Option.bind_eq_some_iff.mp h
    obtain ⟨bs, hbs, h⟩ := Option.bind_eq_some_iff.mp h
    obtain rfl := Option.some.inj h
    rw [List.map_cons, ← ih hbs, ← hfg a b hb]

/-- A typed entry is the loose one that it was. -/
theorem LooseEntry.eq_loose_of_typed? {e : LooseEntry} {t : Entry} (h : e.typed? = some t) :
    e = t.loose := by
  obtain ⟨name, hname, h⟩ := Option.bind_eq_some_iff.mp h
  obtain ⟨location, hlocation, h⟩ := Option.bind_eq_some_iff.mp h
  obtain rfl := Option.some.inj h
  rw [Entry.loose, ← Value.eq_text_of_toText? hname, ← Value.eq_ofText?_of_toTextOrNull? hlocation]

namespace LooseMap

/-- Typed overrides are the loose ones that they were. -/
theorem eq_map_of_typedOverrides? {pairs : List (Value × Value)}
    {overrides : Table String (Option String)} (h : typedOverrides? pairs = some overrides) :
    pairs = overrides.entries.map fun override ↦ (.text override.1, .ofText? override.2) := by
  obtain ⟨entries, hentries, h⟩ := Option.bind_eq_some_iff.mp h
  obtain rfl := Option.some.inj h
  refine eq_map_of_mapM_eq_some (fun pair override hpair ↦ ?_) hentries
  obtain ⟨name, hname, hpair⟩ := Option.bind_eq_some_iff.mp hpair
  obtain ⟨location, hlocation, hpair⟩ := Option.bind_eq_some_iff.mp hpair
  obtain rfl := Option.some.inj hpair
  rw [← Value.eq_text_of_toText? hname, ← Value.eq_ofText?_of_toTextOrNull? hlocation]

/-- A typed map is the loose one that it was. -/
theorem eq_loose_of_typed? {l : LooseMap} {m : ImportMap} (h : l.typed? = some m) :
    l = m.loose := by
  obtain ⟨name, hname, h⟩ := Option.bind_eq_some_iff.mp h
  obtain ⟨entries, hentries, h⟩ := Option.bind_eq_some_iff.mp h
  obtain ⟨scopes, hscopes, h⟩ := Option.bind_eq_some_iff.mp h
  obtain rfl := Option.some.inj h
  have hscopes := eq_map_of_mapM_eq_some (g := fun scope : String × Table String (Option String) ↦
      (Value.text scope.1, scope.2.entries.map fun override ↦
        (Value.text override.1, Value.ofText? override.2))) (fun pair scope hpair ↦ ?_) hscopes
  · rw [ImportMap.loose, ← Value.eq_ofText?_of_toTextOrNull? hname,
      ← eq_map_of_mapM_eq_some (fun _ _ ↦ LooseEntry.eq_loose_of_typed?) hentries, ← hscopes]
  · obtain ⟨key, hkey, hpair⟩ := Option.bind_eq_some_iff.mp hpair
    obtain ⟨overrides, hoverrides, hpair⟩ := Option.bind_eq_some_iff.mp hpair
    obtain rfl := Option.some.inj hpair
    rw [← Value.eq_text_of_toText? hkey, ← eq_map_of_typedOverrides? hoverrides]

end LooseMap

/-! ### Operations on typed maps -/

namespace ImportMap

/-- A change as a call on loose maps. -/
def Change.loose : Change → LooseMap.Call
  | .add e => .add e.loose
  | .addScope scope name location => .addScope (.text scope) (.text name) (.ofText? location)
  | .categorize name kind framework => .categorize (.text name) kind framework
  | .autoCategorize => .autoCategorize

variable (m : ImportMap)

theorem names_loose : m.loose.names = m.names.map .text := by
  rw [LooseMap.names, names, loose, List.map_map, List.map_map]
  rfl

theorem contains_loose (name : String) : m.loose.contains (.text name) = m.contains name := by
  rw [LooseMap.contains, contains, loose, List.any_map]
  rfl

/-- Texts start alike exactly if their code points do. -/
theorem isPrefixOf_map_toNat (part s : List Char) :
    (part.map Char.toNat).isPrefixOf (s.map Char.toNat) = part.isPrefixOf s := by
  induction part generalizing s with
  | nil => rfl
  | cons c part ih =>
    cases s with
    | nil => rfl
    | cons d s =>
      have hsame : (c.toNat == d.toNat) = (c == d) := by
        rw [Bool.eq_iff_iff, beq_iff_eq, beq_iff_eq, Char.toNat_inj]
      rw [List.map_cons, List.map_cons, List.isPrefixOf, List.isPrefixOf, hsame, ih]

theorem isScopeKey?_text (scope : String) :
    LooseMap.isScopeKey? (.text scope) = some (isScopeKey scope) := by
  simp only [LooseMap.isScopeKey?, Value.points?, Option.map_some, List.any_cons, List.any_nil,
    isPrefixOf_map_toNat, isScopeKey, Text.startsWith, Bool.or_false, Bool.or_assoc]

theorem overrides_loose (scope : String) : m.loose.overrides (.text scope) =
    ((m.scopes.find? scope).getD ∅).entries.map fun override ↦
      (.text override.1, .ofText? override.2) := by
  have hunder := Value.under?_map_text (fun overrides : Table String (Option String) ↦
    overrides.entries.map fun override ↦ (Value.text override.1, Value.ofText? override.2))
    m.scopes scope
  rw [LooseMap.overrides, loose, hunder]
  cases m.scopes.find? scope <;> rfl

theorem setScope_loose (scope : String) (overrides : Table String (Option String)) :
    m.loose.setScope (.text scope) (overrides.entries.map fun override ↦
        (.text override.1, .ofText? override.2)) =
      loose { m with scopes := m.scopes.insert scope overrides } := by
  rw [LooseMap.setScope, loose, loose]
  congr 1
  exact Value.put_map_text (fun overrides : Table String (Option String) ↦
    overrides.entries.map fun override ↦ (Value.text override.1, Value.ofText? override.2))
    scope overrides m.scopes.entries

theorem modifyEntry_loose {change : Entry → Entry} {change' : LooseEntry → LooseEntry}
    (h : ∀ e : Entry, change' e.loose = (change e).loose) (name : String) (entries : List Entry) :
    LooseMap.modifyEntry (.text name) change' (entries.map Entry.loose) =
      (modifyEntry name change entries).map Entry.loose := by
  induction entries with
  | nil => rfl
  | cons e rest ih =>
    have hsame : e.loose.name.same (.text name) = (e.name == name) := rfl
    rw [List.map_cons, LooseMap.modifyEntry, modifyEntry, hsame]
    by_cases hname : e.name = name
    · simp [hname, h]
    · simp [hname, ih]

/-- A text can always be searched, so that every typed entry is tagged. -/
theorem tagByName?_loose (e : Entry) : e.loose.tagByName? = .ok (tagByName e).loose := by
  have htagged : e.loose.isTagged = e.isTagged := rfl
  rw [LooseEntry.tagByName?, tagByName, htagged]
  split <;> rfl

/-- What a change makes of a typed map is what the call leaves of it as a loose one, with the same
fault if there is one. -/
theorem call_loose (c : Change) : m.loose.call c.loose = match m.change? c with
    | .ok next => { map := next.loose }
    | .error fault => { map := m.loose, fault := some fault } := by
  cases c with
  | add e =>
    have hname : e.loose.name.isTruthy = !e.name.isEmpty := rfl
    rw [Change.loose, LooseMap.call, LooseMap.add, change?, add, hname, Bool.not_not]
    cases e.name.isEmpty with
    | true => rfl
    | false =>
      have hcontains : m.loose.contains e.loose.name = m.contains e.name := m.contains_loose e.name
      rw [hcontains]
      cases m.contains e.name with
      | true => rfl
      | false => simp [loose]
  | addScope scope name location =>
    rw [Change.loose, LooseMap.call, LooseMap.addScope, change?, addScope, isScopeKey?_text]
    cases isScopeKey scope with
    | false => rfl
    | true =>
      rw [overrides_loose, Value.put_map_text]
      simp only [Value.isKey, if_true]
      rw [← setScope_loose]
      rfl
  | categorize name kind framework =>
    rw [Change.loose, LooseMap.call, LooseMap.categorize, change?, categorize, contains_loose]
    cases m.contains name with
    | false => rfl
    | true =>
      have hmodify : LooseMap.modifyEntry (.text name) (·.retag kind framework)
          (m.entries.map Entry.loose) =
            (modifyEntry name (·.retag kind framework) m.entries).map Entry.loose :=
        modifyEntry_loose (fun _ ↦ rfl) name m.entries
      simp only [if_true, loose, hmodify]
  | autoCategorize =>
    have htagged : LooseMap.AreTagged (m.entries.map Entry.loose)
        ((m.entries.map tagByName).map Entry.loose) := by
      rw [LooseMap.AreTagged, List.map_map, List.forall₂_map_left_iff, List.forall₂_map_right_iff,
        List.forall₂_same]
      exact fun e _ ↦ tagByName?_loose e
    rw [Change.loose, LooseMap.call, LooseMap.autoCategorize, change?, autoCategorize]
    simp only [loose, htagged.tagEntries_eq]

/-- So a change and its call go on with the same map. -/
theorem loose_change (c : Change) : (m.change c).loose = (m.loose.call c.loose).map := by
  rw [call_loose, change]
  cases m.change? c <;> rfl

/-- Characters can be encoded. -/
theorem encodePoints?_map_toNat (s : List Char) :
    Text.Utf8.encodePoints? (s.map Char.toNat) = .ok (s.flatMap String.utf8EncodeChar) := by
  have hvalid : (s.map Char.toNat).dropWhile (·.isValidChar) = [] := by
    refine List.dropWhile_eq_nil_iff.mpr fun n hn ↦ ?_
    obtain ⟨c, -, rfl⟩ := List.mem_map.mp hn
    exact decide_eq_true c.valid
  rw [Text.Utf8.encodePoints?, hvalid, List.flatMap_map]
  simp only [Char.ofNat_toNat]

/-- What enters the key of a typed map is what enters its key as a loose one. -/
theorem framing?_loose (e : Entry) : e.loose.framing? = .ok e.framing := by
  have hname : e.loose.name.formPoints? = .ok (e.name.toList.map Char.toNat) := rfl
  have hlocation : e.loose.location.formPoints? =
      .ok ((e.location.getD "None").toList.map Char.toNat) := by
    rw [Entry.loose]
    cases e.location <;> rfl
  have hmarks : e.name.toList.map Char.toNat ++
      0x1f :: (e.location.getD "None").toList.map Char.toNat ++ [0x1e] =
      (e.name.toList ++ '\x1f' :: (e.location.getD "None").toList ++ ['\x1e']).map Char.toNat := by
    simp
  rw [LooseEntry.framing?, hname, hlocation]
  change (Text.Utf8.encodePoints? _).mapError _ = _
  have hbytes : String.utf8EncodeChar '\x1f' = [0x1f] ∧ String.utf8EncodeChar '\x1e' = [0x1e] := by
    decide
  rw [hmarks, encodePoints?_map_toNat]
  simp [Entry.framing, Text.Utf8.encode, Except.mapError, hbytes]

/-- The key of a typed map is its key as a loose one. -/
theorem contentKey?_loose : m.loose.contentKey? = .ok m.contentKey := by
  have hframings (entries : List Entry) :
      (entries.map Entry.loose).mapM LooseEntry.framing? = .ok (entries.map Entry.framing) := by
    induction entries with
    | nil => rfl
    | cons e rest ih =>
      rw [List.map_cons, List.mapM_cons, framing?_loose, ih]
      rfl
  rw [LooseMap.contentKey?, loose, hframings, contentKey, framing, List.flatMap_def]
  rfl

end ImportMap

end ModuleScript
