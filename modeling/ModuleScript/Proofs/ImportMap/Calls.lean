import Mathlib.Data.List.Forall2
import ModuleScript.ImportMap.Record
import ModuleScript.Proofs.Data.Dictionary

/-!
# Calls on import maps

What a call of an operation leaves behind: an entry that is appended, a scope that overrides one
more name, an entry with new tags, or a fault. Most calls that fail leave the map as it was. The two
others get part of their work done: a scope is there before the name for it is found to be no key,
and entries are tagged one by one until a name turns up that cannot be searched.
-/

namespace ModuleScript

open ImportMap (Fault)

/-- What an entry is apart from its tags. -/
def LooseEntry.untagged (e : LooseEntry) : Value × Value × Bool := (e.name, e.location, e.preload)

namespace LooseMap

variable {m m' : LooseMap}

/-! ### Names -/

theorem contains_eq_false_iff {name : Value} :
    m.contains name = false ↔ ∀ other ∈ m.names, other.same name = false := by
  simp [contains, names]

theorem contains_eq_true_iff {name : Value} :
    m.contains name = true ↔ ∃ other ∈ m.names, other.same name = true := by
  simp [contains, names]

/-- An addition fails, or it appends an entry whose name is not empty and not there yet. -/
theorem add_cases (m : LooseMap) (e : LooseEntry) :
    (∃ fault, m.add e = { map := m, fault := some fault }) ∨
      e.name.isTruthy = true ∧ (∀ other ∈ m.names, other.same e.name = false) ∧
        m.add e = { map := { m with entries := m.entries ++ [e] } } := by
  rw [add]
  cases hname : e.name.isTruthy with
  | false => exact .inl ⟨_, rfl⟩
  | true =>
    cases hcontains : m.contains e.name with
    | true => exact .inl ⟨_, rfl⟩
    | false => exact .inr ⟨rfl, contains_eq_false_iff.mp hcontains, rfl⟩

/-! ### Scopes -/

/-- Texts that start like a path from the root of a site, from a place in it or from above. -/
def IsPath (scope : Value) : Prop :=
  ∃ points, scope.points? = some points ∧
    ∃ start ∈ ["/", "./", "../"], start.toList.map Char.toNat <+: points

/-- The keys of scopes are the paths. -/
theorem isScopeKey?_eq_true_iff {scope : Value} :
    isScopeKey? scope = some true ↔ IsPath scope := by
  simp only [isScopeKey?, Option.map_eq_some_iff, List.any_eq_true, List.isPrefixOf_iff_prefix,
    IsPath]

theorem isScopeKey?_eq_none_iff {scope : Value} :
    isScopeKey? scope = none ↔ scope.points? = none :=
  Option.map_eq_none_iff

/-- A scope is refused, or it is set up without the name, or it overrides the location of the
name. -/
theorem addScope_cases (m : LooseMap) (scope name location : Value) :
    (∃ fault, m.addScope scope name location = { map := m, fault := some fault }) ∨
      IsPath scope ∧ name.isKey = false ∧ m.addScope scope name location =
        { map := m.setScope scope (m.overrides scope), fault := some (.noKey name) } ∨
      IsPath scope ∧ name.isKey = true ∧ m.addScope scope name location =
        { map := m.setScope scope (Value.put name location (m.overrides scope)) } := by
  rw [addScope]
  split
  next => exact .inl ⟨_, rfl⟩
  next => exact .inl ⟨_, rfl⟩
  next hscope =>
    have hpath := isScopeKey?_eq_true_iff.mp hscope
    cases hname : name.isKey with
    | false => exact .inr (.inl ⟨hpath, rfl, rfl⟩)
    | true => exact .inr (.inr ⟨hpath, rfl, rfl⟩)

/-- Scopes are added without a change of the entries. -/
theorem entries_addScope (m : LooseMap) (scope name location : Value) :
    (m.addScope scope name location).map.entries = m.entries := by
  rcases m.addScope_cases scope name location with ⟨fault, h⟩ | ⟨-, -, h⟩ | ⟨-, -, h⟩ <;>
    rw [h] <;> rfl

/-! ### Tagging one entry -/

/-- The first entry with a name is changed where it stands. -/
theorem modifyEntry_of_first {name : Value} {before after : List LooseEntry} {e : LooseEntry}
    (hbefore : ∀ other ∈ before, other.name.same name = false) (he : e.name.same name = true)
    (change : LooseEntry → LooseEntry) :
    modifyEntry name change (before ++ e :: after) = before ++ change e :: after := by
  induction before with
  | nil => rw [List.nil_append, modifyEntry, if_pos he, List.nil_append]
  | cons other rest ih =>
    obtain ⟨hother, hrest⟩ := List.forall_mem_cons.mp hbefore
    rw [List.cons_append, modifyEntry, hother, ih hrest]
    rfl

/-- A name is not there, or a first entry has it. -/
theorem exists_first_of_contains {name : Value} (h : m.contains name = true) :
    ∃ before e after, m.entries = before ++ e :: after ∧
      (∀ other ∈ before, other.name.same name = false) ∧ e.name.same name = true := by
  obtain ⟨e, he⟩ := Option.isSome_iff_exists.mp
    (List.find?_isSome.mpr (List.any_eq_true.mp h))
  obtain ⟨hsame, before, after, hentries, hbefore⟩ := List.find?_eq_some_iff_append.mp he
  exact ⟨before, e, after, hentries, by simpa using hbefore, hsame⟩

/-- Tags are set for an entry that is there, and this is the first one with the name. -/
theorem categorize_cases (m : LooseMap) (name kind framework : Value) :
    (∃ fault, m.categorize name kind framework = { map := m, fault := some fault }) ∨
      ∃ before e after, m.entries = before ++ e :: after ∧
        (∀ other ∈ before, other.name.same name = false) ∧ e.name.same name = true ∧
        m.categorize name kind framework =
          { map := { m with entries := before ++ e.retag kind framework :: after } } := by
  rw [categorize]
  cases hcontains : m.contains name with
  | false => exact .inl ⟨_, rfl⟩
  | true =>
    obtain ⟨before, e, after, hentries, hbefore, he⟩ := exists_first_of_contains hcontains
    refine .inr ⟨before, e, after, hentries, hbefore, he, ?_⟩
    rw [hentries, modifyEntry_of_first hbefore he]
    rfl

/-! ### Tagging by name -/

/-- The names that can be searched are the texts. -/
theorem categoryOf?_eq_none_iff {name : Value} :
    ImportMap.categoryOf? name = none ↔ name.points? = none := by
  cases name <;> simp [ImportMap.categoryOf?, Value.points?]

/-- Tags that are there are left alone. -/
theorem tagByName?_of_isTagged {e : LooseEntry} (h : e.isTagged = true) :
    e.tagByName? = .ok e := by
  rw [LooseEntry.tagByName?, if_pos h]

/-- An entry that is not tagged gets tags, and nothing else about it changes. -/
theorem of_tagByName?_eq_ok {e e' : LooseEntry} (h : e.tagByName? = .ok e') :
    e'.isTagged = true ∧ e'.untagged = e.untagged ∧ (e.isTagged = true → e' = e) := by
  rw [LooseEntry.tagByName?] at h
  split at h
  next htagged =>
    obtain rfl := Except.ok.inj h
    exact ⟨htagged, rfl, fun _ ↦ rfl⟩
  next hbare =>
    split at h
    next =>
      obtain rfl := Except.ok.inj h
      exact ⟨rfl, rfl, fun htagged ↦ absurd htagged hbare⟩
    next => exact absurd h (by simp)

/-- It fails to get them if its name is no text. -/
theorem tagByName?_eq_error_iff {e : LooseEntry} {fault : Fault} :
    e.tagByName? = .error fault ↔
      e.isTagged = false ∧ e.name.points? = none ∧ .unsearchableName e.name = fault := by
  rw [LooseEntry.tagByName?, ← categoryOf?_eq_none_iff]
  cases e.isTagged with
  | true => simp
  | false => cases ImportMap.categoryOf? e.name <;> simp

/-- Entries of which each can be tagged. -/
abbrev AreTagged (entries entries' : List LooseEntry) : Prop :=
  List.Forall₂ (fun e e' ↦ e.tagByName? = .ok e') entries entries'

/-- All entries are tagged, if each of them can be. -/
theorem AreTagged.tagEntries_eq {entries entries' : List LooseEntry}
    (h : AreTagged entries entries') : tagEntries entries = (entries', none) := by
  induction h with
  | nil => rfl
  | cons he _ ih => rw [tagEntries, he, ih]

/-- The first entry that cannot be tagged ends it. -/
theorem AreTagged.tagEntries_append {before before' : List LooseEntry} {e : LooseEntry}
    {fault : Fault} (h : AreTagged before before') (he : e.tagByName? = .error fault)
    (after : List LooseEntry) :
    tagEntries (before ++ e :: after) = (before' ++ e :: after, some fault) := by
  induction h with
  | nil => rw [List.nil_append, tagEntries, he]
  | cons hfirst _ ih => rw [List.cons_append, tagEntries, hfirst, ih, List.cons_append]

/-- There is such an entry, or there is none. -/
theorem areTagged_or_exists_first (entries : List LooseEntry) :
    (∃ entries', AreTagged entries entries') ∨
      ∃ before before' e after fault, entries = before ++ e :: after ∧
        AreTagged before before' ∧ e.tagByName? = .error fault := by
  induction entries with
  | nil => exact .inl ⟨[], .nil⟩
  | cons e rest ih =>
    cases he : e.tagByName? with
    | error fault => exact .inr ⟨[], [], e, rest, fault, rfl, .nil, he⟩
    | ok e' =>
      rcases ih with ⟨rest', hrest⟩ | ⟨before, before', other, after, fault, rfl, hbefore, hother⟩
      · exact .inl ⟨e' :: rest', .cons he hrest⟩
      · exact .inr ⟨e :: before, e' :: before', other, after, fault, rfl, .cons he hbefore, hother⟩

/-- All entries are tagged, or those before the first that cannot be. -/
theorem autoCategorize_cases (m : LooseMap) :
    (∃ entries', AreTagged m.entries entries' ∧
      m.autoCategorize = { map := { m with entries := entries' } }) ∨
    ∃ before before' e after fault, m.entries = before ++ e :: after ∧
      AreTagged before before' ∧ e.tagByName? = .error fault ∧ m.autoCategorize =
        { map := { m with entries := before' ++ e :: after }, fault := some fault } := by
  rw [autoCategorize]
  rcases areTagged_or_exists_first m.entries with
    ⟨entries', h⟩ | ⟨before, before', e, after, fault, hentries, hbefore, he⟩
  · exact .inl ⟨entries', h, by rw [h.tagEntries_eq]⟩
  · refine .inr ⟨before, before', e, after, fault, hentries, hbefore, he, ?_⟩
    rw [hentries, hbefore.tagEntries_append he]

/-! ### Which calls fail -/

/-- When a call fails, and how. -/
inductive Fails (m : LooseMap) : Call → Fault → Prop
  | emptyName {e : LooseEntry} (h : e.name.isTruthy = false) : Fails m (.add e) .emptyName
  | repeatedName {e : LooseEntry} (hname : e.name.isTruthy = true)
    (h : ∃ other ∈ m.names, other.same e.name = true) :
    Fails m (.add e) (.repeatedName e.name m.name)
  | untextualScope {scope name location : Value} (h : scope.points? = none) :
    Fails m (.addScope scope name location) (.untextualScope scope)
  | scopeKey {scope name location : Value} (htext : scope.points? ≠ none) (h : ¬IsPath scope) :
    Fails m (.addScope scope name location) .scopeKey
  | noKey {scope name location : Value} (hscope : IsPath scope) (h : name.isKey = false) :
    Fails m (.addScope scope name location) (.noKey name)
  | unknownName {name kind framework : Value} (h : ∀ other ∈ m.names, other.same name = false) :
    Fails m (.categorize name kind framework) (.unknownName name)
  | unsearchableName {before after : List LooseEntry} {e : LooseEntry}
    (hentries : m.entries = before ++ e :: after)
    (hbefore : ∀ other ∈ before, other.isTagged = true ∨ other.name.points? ≠ none)
    (hbare : e.isTagged = false) (h : e.name.points? = none) :
    Fails m .autoCategorize (.unsearchableName e.name)

/-- Entries that are tagged or have a text for a name can be tagged. -/
theorem exists_areTagged {entries : List LooseEntry}
    (h : ∀ e ∈ entries, e.isTagged = true ∨ e.name.points? ≠ none) :
    ∃ entries', AreTagged entries entries' := by
  rcases areTagged_or_exists_first entries with hall | ⟨before, -, e, after, fault, rfl, -, he⟩
  · exact hall
  · obtain ⟨hbare, hname, -⟩ := tagByName?_eq_error_iff.mp he
    rcases h e (by simp) with htagged | htext
    · exact absurd (hbare.symm.trans htagged) (by simp)
    · exact absurd hname htext

/-- Entries that can be tagged are tagged or have a text for a name. -/
theorem AreTagged.isTagged_or {entries entries' : List LooseEntry}
    (h : AreTagged entries entries') :
    ∀ e ∈ entries, e.isTagged = true ∨ e.name.points? ≠ none := by
  induction h with
  | nil => simp
  | @cons e e' _ _ he _ ih =>
    refine List.forall_mem_cons.mpr ⟨?_, ih⟩
    by_contra! hnone
    have hfails := tagByName?_eq_error_iff.mpr ⟨by simpa using hnone.1, hnone.2, rfl⟩
    exact absurd (hfails.symm.trans he) (by simp)

/-- What makes a call fail does so. -/
theorem Fails.call_fault_eq {c : Call} {fault : Fault} (h : m.Fails c fault) :
    (m.call c).fault = some fault := by
  cases h with
  | emptyName hname => rw [call, add, hname]; rfl
  | repeatedName hname hmem =>
    rw [call, add, hname, contains_eq_true_iff.mpr hmem]
    rfl
  | untextualScope htext => rw [call, addScope, isScopeKey?_eq_none_iff.mpr htext]
  | @scopeKey scope _ _ htext hscope =>
    have hkey : isScopeKey? scope = some false := by
      rcases h : isScopeKey? scope with _ | isKey
      · exact absurd (isScopeKey?_eq_none_iff.mp h) htext
      · cases isKey with
        | false => rfl
        | true => exact absurd (isScopeKey?_eq_true_iff.mp h) hscope
    rw [call, addScope, hkey]
  | noKey hscope hname =>
    rw [call, addScope, isScopeKey?_eq_true_iff.mpr hscope]
    simp only [hname, Bool.false_eq_true, if_false]
  | unknownName hmem => rw [call, categorize, contains_eq_false_iff.mpr hmem]; rfl
  | unsearchableName hentries hbefore hbare hname =>
    obtain ⟨before', htagged⟩ := exists_areTagged hbefore
    have he := tagByName?_eq_error_iff.mpr ⟨hbare, hname, rfl⟩
    rw [call, autoCategorize, hentries, htagged.tagEntries_append he]

/-- A call fails exactly so. -/
theorem call_fault_eq_some_iff {c : Call} {fault : Fault} :
    (m.call c).fault = some fault ↔ m.Fails c fault := by
  refine ⟨fun h ↦ ?_, Fails.call_fault_eq⟩
  cases c with
  | add e =>
    rw [call, add] at h
    split at h
    next hname =>
      obtain rfl := Option.some.inj h
      exact .emptyName (by simpa using hname)
    next hname =>
      split at h
      next hmem =>
        obtain rfl := Option.some.inj h
        exact .repeatedName (by simpa using hname) (contains_eq_true_iff.mp hmem)
      next => cases h
  | addScope scope name location =>
    rw [call, addScope] at h
    split at h
    next htext =>
      obtain rfl := Option.some.inj h
      exact .untextualScope (isScopeKey?_eq_none_iff.mp htext)
    next hkey =>
      obtain rfl := Option.some.inj h
      refine .scopeKey (fun htext ↦ ?_) fun hscope ↦ ?_
      · exact absurd (hkey.symm.trans (isScopeKey?_eq_none_iff.mpr htext)) (by simp)
      · exact absurd (hkey.symm.trans (isScopeKey?_eq_true_iff.mpr hscope)) (by simp)
    next hkey =>
      split at h
      next => cases h
      next hname =>
        obtain rfl := Option.some.inj h
        exact .noKey (isScopeKey?_eq_true_iff.mp hkey) (by simpa using hname)
  | categorize name kind framework =>
    rw [call, categorize] at h
    split at h
    next => cases h
    next hmem =>
      obtain rfl := Option.some.inj h
      exact .unknownName (contains_eq_false_iff.mp (by simpa using hmem))
  | autoCategorize =>
    rcases m.autoCategorize_cases with
      ⟨entries', -, hauto⟩ | ⟨before, before', e, after, other, hentries, hbefore, he, hauto⟩
    · rw [call, hauto] at h
      cases h
    · rw [call, hauto] at h
      obtain rfl := Option.some.inj h
      obtain ⟨hbare, hname, rfl⟩ := tagByName?_eq_error_iff.mp he
      exact .unsearchableName hentries hbefore.isTagged_or hbare hname

end LooseMap

end ModuleScript
