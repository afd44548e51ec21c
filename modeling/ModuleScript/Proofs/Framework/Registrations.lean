import Mathlib.Algebra.GroupWithZero.Nat
import ModuleScript.Framework.Registry
import ModuleScript.Proofs.Data.Table

/-!
# Registries over a run of registrations

A registry keeps the order of its names apart from their frameworks. Over any run of registrations
the two stay in step: the names are those with a framework, in the order of their first
registration, and each framework is the one that was registered last. A registration is refused
for three reasons only, and then changes nothing. All of this holds whatever compiles the patterns
that are offered in writing.
-/

namespace ModuleScript.Registry

open FirstOccurrence

variable {compile : String → Except Pattern.Fault Pattern}

/-! ### Refusals -/

/-- The registry after a registration, which is the registry itself when it is refused. -/
def attempt (compile : String → Except Pattern.Fault Pattern) (r : Registry) (q : Request) :
    Registry :=
  (r.register compile q).toOption.getD r

/-- What a request registers: a framework under its name, or nothing when it is refused. -/
def Request.registered (compile : String → Except Pattern.Fault Pattern) (q : Request) :
    List (String × Framework) :=
  ((q.framework? compile).toOption.map (q.id, ·)).toList

/-- Names and frameworks of a registry are those of a list of registrations: the names in the
order in which they come first, the frameworks as they come last. -/
structure InStep (r : Registry) (log : List (String × Framework)) : Prop where
  order : r.order = (log.map (·.1)).eraseDups
  registrations : r.registrations = .ofList log

namespace InStep

variable {r : Registry} {log : List (String × Framework)}

theorem contains_iff (h : r.InStep log) (id : String) :
    r.contains id = true ↔ id ∈ log.map (·.1) := by
  rw [← List.mem_eraseDups, ← Table.keys_ofList, ← h.registrations]
  simp [contains, Table.contains, Table.keys]

/-- Giving a name a framework is a further registration. -/
theorem insert (h : r.InStep log) (id : String) (f : Framework) :
    (r.insert id f).InStep (log ++ [(id, f)]) where
  order := by
    rw [List.map_append, List.map_singleton, eraseDups_concat, ← h.order]
    simp only [Registry.insert, h.contains_iff]
  registrations := by
    rw [Table.ofList_concat, ← h.registrations]
    rfl

/-- A registration that is refused leaves no trace, every other one a further registration. -/
theorem attempt (h : r.InStep log) (q : Request) :
    (r.attempt compile q).InStep (log ++ q.registered compile) := by
  rw [Registry.attempt, register, Request.registered]
  cases q.framework? compile with
  | error fault =>
    have hsame : r.InStep (log ++ []) := (List.append_nil log).symm ▸ h
    exact hsame
  | ok f => exact h.insert q.id f

/-! ### What can be asked -/

theorem keys_eq (h : r.InStep log) : r.registrations.keys = r.ids := by
  rw [h.registrations, Table.keys_ofList, ids, h.order]

end InStep

end ModuleScript.Registry
