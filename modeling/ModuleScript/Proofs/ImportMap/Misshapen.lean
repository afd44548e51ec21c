import ModuleScript.Proofs.ImportMap.Listed

/-!
# Data that is no map

Reading a map refuses an item that is no entry, a name that is empty or repeated, and the key of a
scope that is no path. Where a list, a dictionary, a text or a key is needed and something else
stands, the reading breaks off instead.
-/

namespace ModuleScript

open ImportMap (Fault)

/-- The data is refused for what it says; it is of a shape that can be read. -/
def ImportMap.Fault.IsRefusal : Fault → Prop
  | .emptyName | .repeatedName _ _ | .scopeKey | .invalidEntry _ => True
  | _ => False

namespace LooseMap

/-- The scopes that the data of a map lists. -/
def listedScopes (v : Value) : Except Fault (List (Value × Value)) := do
  needPairs ((field "scopes" (← needPairs v)).orElse (.dict []))

/-- A scope that can be read: its overrides are a dictionary, and if there are any, its key is a
path and they are keyed. -/
def ScopeIsRead (scope : Value × Value) : Prop :=
  ∃ pairs, scope.2.pairs? = some pairs ∧
    (pairs = [] ∨ IsPath scope.1 ∧ ∀ pair ∈ pairs, pair.1.isKey = true)

/-- A scope that breaks a reading off: its overrides are no dictionary, or its key is no text, or
one of the names is no key. -/
inductive ScopeBreaks : Value × Value → Fault → Prop
  | overrides {scope overrides : Value} (h : overrides.pairs? = none) :
    ScopeBreaks (scope, overrides) .noDictionary
  | untextual {scope overrides : Value} {pairs : List (Value × Value)}
    (hpairs : overrides.pairs? = some pairs) (hne : pairs ≠ []) (h : scope.points? = none) :
    ScopeBreaks (scope, overrides) (.untextualScope scope)
  | noKey {scope overrides : Value} {before after : List (Value × Value)} {pair : Value × Value}
    (hscope : IsPath scope) (hpairs : overrides.pairs? = some (before ++ pair :: after))
    (hbefore : ∀ pair ∈ before, pair.1.isKey = true) (h : pair.1.isKey = false) :
    ScopeBreaks (scope, overrides) (.noKey pair.1)

/-- Data that breaks a reading off: its imports have no items; or these are accepted, and the
scopes are no dictionary; or a scope breaks it off, and all scopes before can be read. -/
inductive Misshapen (v : Value) : Fault → Prop
  | imports (h : listed v = .error .noItems) : Misshapen v .noItems
  | scopes {items : List Value} {entries : List LooseEntry} (hitems : listed v = .ok items)
    (haccepted : Accepted items entries) (h : listedScopes v = .error .noDictionary) :
    Misshapen v .noDictionary
  | scope {items : List Value} {entries : List LooseEntry} {before after : List (Value × Value)}
    {scope : Value × Value} {fault : Fault} (hitems : listed v = .ok items)
    (haccepted : Accepted items entries)
    (hscopes : listedScopes v = .ok (before ++ scope :: after))
    (hbefore : ∀ other ∈ before, ScopeIsRead other) (h : ScopeBreaks scope fault) :
    Misshapen v fault

variable {m : LooseMap} {v : Value} {fault : Fault}

theorem ScopeBreaks.not_isRefusal {scope : Value × Value} (h : ScopeBreaks scope fault) :
    ¬ fault.IsRefusal := by
  cases h <;> exact id

theorem Misshapen.not_isRefusal (h : Misshapen v fault) : ¬ fault.IsRefusal := by
  cases h with
  | imports => exact id
  | scopes => exact id
  | scope _ _ _ _ h => exact h.not_isRefusal

/-- Misshapen data is a dictionary. -/
theorem Misshapen.exists_pairs (h : Misshapen v fault) : ∃ fields, v.pairs? = some fields := by
  have hlisted : listed v = .error .noDictionary ∨ ∃ fields, v.pairs? = some fields := by
    rw [listed, needPairs]
    cases v.pairs? with
    | none => exact .inl rfl
    | some fields => exact .inr ⟨fields, rfl⟩
  refine hlisted.resolve_left fun hnone ↦ ?_
  cases h with
  | imports h => exact absurd (hnone.symm.trans h) (by simp)
  | scopes hitems => exact absurd (hnone.symm.trans hitems) (by simp)
  | scope hitems => exact absurd (hnone.symm.trans hitems) (by simp)

/-! ### Faults of single steps -/

/-- A fault stops what follows. -/
theorem bind_eq_error_iff {α β : Type} {x : Except Fault α} {f : α → Except Fault β} :
    (x >>= f) = .error fault ↔ x = .error fault ∨ ∃ a, x = .ok a ∧ f a = .error fault := by
  cases x <;> simp [bind, Except.bind]

theorem needPairs_eq_error (h : needPairs v = .error fault) :
    fault = .noDictionary ∧ v.pairs? = none := by
  rw [needPairs] at h
  cases hpairs : v.pairs? with
  | some pairs => rw [hpairs] at h; exact absurd h (by simp)
  | none => rw [hpairs] at h; exact ⟨(Except.error.inj h).symm, rfl⟩

theorem importItems_eq_error (h : importItems v = .error fault) : fault = .noItems := by
  unfold importItems at h
  split at h
  · exact absurd h (by simp)
  · split at h
    · exact absurd h (by simp)
    · exact (Except.error.inj h).symm

/-- A fault is what a call leaves as its fault. -/
theorem map?_eq_error_iff {left : Left} : left.map? = .error fault ↔ left.fault = some fault := by
  rw [Left.map?]
  cases left.fault <;> simp

/-- An entry is refused for what it says. -/
theorem isRefusal_of_readEntry {item : Value} (h : m.readEntry item = .error fault) :
    fault.IsRefusal := by
  rcases bind_eq_error_iff.mp h with h | ⟨e, -, h⟩
  · unfold entryOf at h
    split at h
    · split at h
      · exact absurd h (by simp)
      · exact Except.error.inj h ▸ trivial
    · exact Except.error.inj h ▸ trivial
  · cases call_fault_eq_some_iff.mp (map?_eq_error_iff.mp h : (m.call (.add e)).fault = some fault)
    · trivial
    · trivial

/-- What holds of the fault of every step holds of the fault that ends a reading. -/
theorem of_foldlM_eq_error {α : Type} {step : LooseMap → α → Except Fault LooseMap}
    {p : Fault → Prop} (hstep : ∀ {m a fault}, step m a = .error fault → p fault)
    {items : List α} (h : items.foldlM step m = .error fault) : p fault := by
  induction items generalizing m with
  | nil => exact absurd h (by simp [pure, Except.pure])
  | cons a items ih =>
    rw [List.foldlM_cons] at h
    rcases bind_eq_error_iff.mp h with h | ⟨next, -, h⟩
    · exact hstep h
    · exact ih h

/-! ### Scopes -/

/-- Add overrides to a scope. -/
def addOverrides (m : LooseMap) (scope : Value) (pairs : List (Value × Value)) :
    Except Fault LooseMap :=
  pairs.foldlM (fun m override ↦ (m.addScope scope override.1 override.2).map?) m

/-- Read scopes into a map. -/
def readScopes (m : LooseMap) (scopes : List (Value × Value)) : Except Fault LooseMap :=
  scopes.foldlM (fun m scope ↦ m.readScope scope.1 scope.2) m

theorem readScopes_cons (m : LooseMap) (scope : Value × Value) (rest : List (Value × Value)) :
    readScopes m (scope :: rest) = m.readScope scope.1 scope.2 >>= (readScopes · rest) := rfl

theorem readScope_of_pairs {scope : Value × Value} {pairs : List (Value × Value)}
    (h : scope.2.pairs? = some pairs) (m : LooseMap) :
    m.readScope scope.1 scope.2 = addOverrides m scope.1 pairs := by
  rw [readScope, needPairs, h]
  rfl

/-- A path takes an override whose name is a key. -/
theorem exists_addScope {scope : Value} (hscope : IsPath scope) {name : Value}
    (hname : name.isKey = true) (m : LooseMap) (location : Value) :
    ∃ next, (m.addScope scope name location).map? = .ok next := by
  rw [addScope, isScopeKey?_eq_true_iff.mpr hscope]
  simp only [hname, if_true]
  exact ⟨_, rfl⟩

/-- So it takes all overrides if their names are keys. -/
theorem exists_addOverrides {scope : Value} (hscope : IsPath scope) {pairs : List (Value × Value)}
    (hkeys : ∀ pair ∈ pairs, pair.1.isKey = true) (m : LooseMap) :
    ∃ m', addOverrides m scope pairs = .ok m' := by
  induction pairs generalizing m with
  | nil => exact ⟨m, rfl⟩
  | cons pair rest ih =>
    obtain ⟨hpair, hrest⟩ := List.forall_mem_cons.mp hkeys
    obtain ⟨next, hnext⟩ := exists_addScope hscope hpair m pair.2
    obtain ⟨m', h⟩ := ih hrest next
    exact ⟨m', bind_eq_ok hnext h⟩

/-- Otherwise the first other name ends the reading. -/
theorem addOverrides_eq_noKey {scope : Value} (hscope : IsPath scope)
    {before : List (Value × Value)} (hbefore : ∀ pair ∈ before, pair.1.isKey = true)
    {pair : Value × Value} (h : pair.1.isKey = false) (after : List (Value × Value))
    (m : LooseMap) : addOverrides m scope (before ++ pair :: after) = .error (.noKey pair.1) := by
  induction before generalizing m with
  | nil =>
    have hfails : m.Fails (.addScope scope pair.1 pair.2) (.noKey pair.1) := .noKey hscope h
    exact bind_eq_error_iff.mpr (.inl (map?_eq_error_iff.mpr hfails.call_fault_eq))
  | cons other before ih =>
    obtain ⟨hother, hbefore⟩ := List.forall_mem_cons.mp hbefore
    obtain ⟨next, hnext⟩ := exists_addScope hscope hother m other.2
    exact bind_eq_error_iff.mpr (.inr ⟨next, hnext, ih hbefore next⟩)

/-- The first override meets the fault of a key that is no path. -/
theorem addOverrides_eq_error {scope : Value} {pairs : List (Value × Value)} (hne : pairs ≠ [])
    (h : ∀ name location, m.Fails (.addScope scope name location) fault) :
    addOverrides m scope pairs = .error fault := by
  cases pairs with
  | nil => exact absurd rfl hne
  | cons pair rest =>
    exact bind_eq_error_iff.mpr (.inl (map?_eq_error_iff.mpr (h pair.1 pair.2).call_fault_eq))

/-- A scope is read, or its key is refused, or it breaks the reading off. -/
theorem readScope_cases (m : LooseMap) (scope : Value × Value) :
    (ScopeIsRead scope ∧ ∃ m', m.readScope scope.1 scope.2 = .ok m') ∨
    m.readScope scope.1 scope.2 = .error .scopeKey ∨
    ∃ fault, ScopeBreaks scope fault ∧ m.readScope scope.1 scope.2 = .error fault := by
  cases hpairs : scope.2.pairs? with
  | none =>
    refine .inr (.inr ⟨_, .overrides hpairs, ?_⟩)
    rw [readScope, needPairs, hpairs]
    rfl
  | some pairs =>
    rw [readScope_of_pairs hpairs]
    by_cases hne : pairs = []
    · exact .inl ⟨⟨pairs, hpairs, .inl hne⟩, m, by rw [hne]; rfl⟩
    by_cases hscope : IsPath scope.1
    · by_cases hkeys : ∀ pair ∈ pairs, pair.1.isKey = true
      · exact .inl ⟨⟨pairs, hpairs, .inr ⟨hscope, hkeys⟩⟩, exists_addOverrides hscope hkeys m⟩
      · -- the first name that is no key is where the reading ends
        obtain ⟨pair, hfound⟩ : ∃ pair, pairs.find? (!·.1.isKey) = some pair :=
          Option.isSome_iff_exists.mp (List.find?_isSome.mpr (by simpa using hkeys))
        obtain ⟨hpair, before, after, rfl, hbefore⟩ := List.find?_eq_some_iff_append.mp hfound
        have hbefore : ∀ pair ∈ before, pair.1.isKey = true := by simpa using hbefore
        have hpair : pair.1.isKey = false := by simpa using hpair
        exact .inr (.inr ⟨_, .noKey hscope hpairs hbefore hpair,
          addOverrides_eq_noKey hscope hbefore hpair after m⟩)
    · by_cases htext : scope.1.points? = none
      · exact .inr (.inr ⟨_, .untextual hpairs hne htext,
          addOverrides_eq_error hne fun _ _ ↦ .untextualScope htext⟩)
      · exact .inr (.inl (addOverrides_eq_error hne fun _ _ ↦ .scopeKey htext hscope))

/-- Nothing else is said of a scope that can be read. -/
theorem ScopeIsRead.exists_readScope {scope : Value × Value} (h : ScopeIsRead scope)
    (m : LooseMap) : ∃ m', m.readScope scope.1 scope.2 = .ok m' := by
  obtain ⟨pairs, hpairs, rfl | ⟨hscope, hkeys⟩⟩ := h
  · exact ⟨m, readScope_of_pairs hpairs m⟩
  · rw [readScope_of_pairs hpairs]
    exact exists_addOverrides hscope hkeys m

/-- Nothing else of one that breaks a reading off. -/
theorem ScopeBreaks.readScope_eq {scope : Value × Value} (h : ScopeBreaks scope fault)
    (m : LooseMap) : m.readScope scope.1 scope.2 = .error fault := by
  cases h with
  | overrides h =>
    rw [readScope, needPairs, h]
    rfl
  | untextual hpairs hne h =>
    rw [readScope_of_pairs hpairs]
    exact addOverrides_eq_error hne fun _ _ ↦ .untextualScope h
  | noKey hscope hpairs hbefore h =>
    rw [readScope_of_pairs hpairs]
    exact addOverrides_eq_noKey hscope hbefore h _ m

/-- Scopes are read one by one, up to one that is refused or breaks the reading off. -/
theorem readScopes_cases (m : LooseMap) (scopes : List (Value × Value)) :
    (∃ m', readScopes m scopes = .ok m') ∨ readScopes m scopes = .error .scopeKey ∨
      ∃ before scope after fault, scopes = before ++ scope :: after ∧
        (∀ other ∈ before, ScopeIsRead other) ∧ ScopeBreaks scope fault ∧
        readScopes m scopes = .error fault := by
  induction scopes generalizing m with
  | nil => exact .inl ⟨m, rfl⟩
  | cons scope rest ih =>
    rw [readScopes_cons]
    rcases m.readScope_cases scope with ⟨hread, next, h⟩ | h | ⟨fault, hbreaks, h⟩
    · rw [h]
      rcases ih next with hok | hkey | ⟨before, other, after, fault, rfl, hbefore, hother, herror⟩
      · exact .inl hok
      · exact .inr (.inl hkey)
      · exact .inr (.inr ⟨scope :: before, other, after, fault, rfl,
          List.forall_mem_cons.mpr ⟨hread, hbefore⟩, hother, herror⟩)
    · rw [h]
      exact .inr (.inl rfl)
    · rw [h]
      exact .inr (.inr ⟨[], scope, rest, fault, rfl, by simp, hbreaks, rfl⟩)

/-- A reading that comes to a scope that breaks it off ends there. -/
theorem readScopes_eq_error {before : List (Value × Value)} {scope : Value × Value}
    (hbefore : ∀ other ∈ before, ScopeIsRead other) (h : ScopeBreaks scope fault)
    (after : List (Value × Value)) (m : LooseMap) :
    readScopes m (before ++ scope :: after) = .error fault := by
  induction before generalizing m with
  | nil => exact bind_eq_error_iff.mpr (.inl (h.readScope_eq m))
  | cons other before ih =>
    obtain ⟨hother, hbefore⟩ := List.forall_mem_cons.mp hbefore
    obtain ⟨next, hnext⟩ := hother.exists_readScope m
    exact bind_eq_error_iff.mpr (.inr ⟨next, hnext, ih hbefore next⟩)

/-! ### Readings -/

/-- A dictionary is read by its items, which are added to a new map, and by its scopes. -/
theorem ofValue?_of_listed {items : List Value} (hitems : listed v = .ok items) :
    ∃ name : Value, ofValue? v = items.foldlM readEntry ({ name } : LooseMap) >>= fun m ↦
      listedScopes v >>= readScopes m := by
  obtain ⟨fields, hfields, hitems⟩ := ok_of_bind_eq_ok hitems
  refine ⟨(Value.get? "name" fields).getD (.text "application"), ?_⟩
  rw [ofValue?, listedScopes, hfields]
  change (importItems _ >>= _) = _
  rw [hitems]
  rfl

/-- A dictionary is read as a map, refused for what it says, or misshapen. -/
theorem ofValue?_cases {fields : List (Value × Value)} (hv : v.pairs? = some fields) :
    (∃ m, ofValue? v = .ok m) ∨ (∃ fault, ofValue? v = .error fault ∧ fault.IsRefusal) ∨
      ∃ fault, ofValue? v = .error fault ∧ Misshapen v fault := by
  have hfields : needPairs v = .ok fields := by rw [needPairs, hv]
  cases hitems : listed v with
  | error fault =>
    have hnone : importItems ((field "imports" fields).orElse (.list [])) = .error fault := by
      rw [listed, hfields] at hitems
      exact hitems
    obtain rfl := importItems_eq_error hnone
    refine .inr (.inr ⟨_, ?_, .imports hitems⟩)
    rw [ofValue?, hfields]
    change (importItems _ >>= _) = _
    exact bind_eq_error_iff.mpr (.inl hnone)
  | ok items =>
    obtain ⟨name, hread⟩ := ofValue?_of_listed hitems
    rw [hread]
    cases hadd : items.foldlM readEntry ({ name } : LooseMap) with
    | error fault => exact .inr (.inl ⟨fault, rfl, of_foldlM_eq_error isRefusal_of_readEntry hadd⟩)
    | ok m =>
      obtain ⟨entries, haccepted, -⟩ := foldlM_readEntry_new_eq_ok_iff.mp hadd
      cases hscopes : listedScopes v with
      | error fault =>
        have hnone : needPairs ((field "scopes" fields).orElse (.dict [])) = .error fault := by
          rw [listedScopes, hfields] at hscopes
          exact hscopes
        obtain ⟨rfl, -⟩ := needPairs_eq_error hnone
        exact .inr (.inr ⟨_, rfl, .scopes hitems haccepted hscopes⟩)
      | ok scopes =>
        change (∃ m', readScopes m scopes = _) ∨ (∃ fault, readScopes m scopes = _ ∧ _) ∨
          ∃ fault, readScopes m scopes = _ ∧ _
        rcases readScopes_cases m scopes with hok | hkey |
          ⟨before, scope, after, fault, rfl, hbefore, hbreaks, herror⟩
        · exact .inl hok
        · exact .inr (.inl ⟨_, hkey, trivial⟩)
        · exact .inr (.inr ⟨_, herror, .scope hitems haccepted hscopes hbefore hbreaks⟩)

/-- Misshapen data breaks its reading off. -/
theorem Misshapen.ofValue?_eq (h : Misshapen v fault) : ofValue? v = .error fault := by
  cases h with
  | imports h =>
    rcases bind_eq_error_iff.mp h with h | ⟨fields, hfields, h⟩
    · exact absurd (needPairs_eq_error h).1 (by simp)
    · rw [ofValue?, hfields]
      change (importItems _ >>= _) = _
      exact bind_eq_error_iff.mpr (.inl h)
  | scopes hitems haccepted h =>
    obtain ⟨name, hread⟩ := ofValue?_of_listed hitems
    rw [hread, foldlM_readEntry_new_eq_ok_iff.mpr ⟨_, haccepted, rfl⟩, h]
    rfl
  | scope hitems haccepted hscopes hbefore h =>
    obtain ⟨name, hread⟩ := ofValue?_of_listed hitems
    rw [hread, foldlM_readEntry_new_eq_ok_iff.mpr ⟨_, haccepted, rfl⟩, hscopes]
    exact readScopes_eq_error hbefore h _ _

end LooseMap

end ModuleScript
