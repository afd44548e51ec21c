import ModuleScript.Proofs.ImportMap.Listed
import ModuleScript.ImportMap.LooseKey

/-!
# Import maps written and read back

Reading adds the entries and scopes of a record one by one, and each addition can be refused. Names
and scopes that are well formed are not refused, so that the record of a map that was built is read
as this map. Only a scope that overrides nothing is lost, as it has nothing to be added.
-/

namespace ModuleScript

/-! ### Parts of a record -/

namespace Value

end Value

namespace LooseMap

variable {m start : LooseMap} {calls : List Call}

end LooseMap

end ModuleScript
