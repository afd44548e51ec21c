import ModuleScript.Analysis.Record
import ModuleScript.Cache.Slot

/-!
# Shared caches

A store holds caches under the names of their partitions. A partition comes into being when it
is first asked for, with a capacity of its own. A host may put values of its own into a partition,
so what is looked up is not always what belongs there.
-/

namespace ModuleScript

/-- What the partitions keep: findings, measures, and plain data, which texts, lists of specifiers
and the values of a host are. -/
inductive Artifact where
  | findings (f : Findings)
  | complexity (c : Complexity)
  | data (v : Value)

namespace Artifact

/-- What is kept as plain data. -/
def toValue : Artifact → Value
  | findings f => f.toValue
  | complexity c => c.toValue
  | data v => v

/-- The findings that are kept. -/
def findings? : Artifact → Option Findings
  | findings f => some f
  | _ => none

/-- The measures that are kept. -/
def complexity? : Artifact → Option Complexity
  | complexity c => some c
  | _ => none

end Artifact

/-- The names of the partitions in use. -/
inductive Partition where
  | dependencies
  | existingImports
  | complexity
  | scriptContent
  | importStatements
  | processedBlock
  deriving DecidableEq, Repr

/-- The name under which a partition is shared. -/
def Partition.name : Partition → String
  | .dependencies => "dependencies"
  | .existingImports => "existing_imports"
  | .complexity => "complexity"
  | .scriptContent => "script_content"
  | .importStatements => "import_statements"
  | .processedBlock => "processed_js"

/-- Caches by the names of their partitions. -/
structure Store where
  partitions : Table String (Cache Artifact) := ∅

namespace Store

/-- The capacity of a partition that nobody has configured. -/
def defaultCapacity (name : String) : Nat :=
  if name = Partition.importStatements.name then 50 else 100

/-- A partition, which is empty if it does not exist yet (`get_cache`). -/
def partition (s : Store) (name : String) : Cache Artifact :=
  (s.partitions.find? name).getD { capacity := defaultCapacity name }

/-- Put a partition back. -/
def setPartition (s : Store) (name : String) (cache : Cache Artifact) : Store :=
  ⟨s.partitions.insert name cache⟩

/-- Bring a partition into being. -/
def touch (s : Store) (name : String) : Store := s.setPartition name (s.partition name)

/-- The slot of a partition. -/
def slot (name : String) : Cache.Slot Store Artifact where
  read s := s.partition name
  write cache s := s.setPartition name cache

/-- Change the capacity of a partition, which exists afterwards even if this is refused
(`configure_cache`). -/
def configure (s : Store) (name : String) (capacity : Int) : Except Cache.Fault Unit × Store :=
  match (s.partition name).resize capacity with
  | .ok cache => (.ok (), s.setPartition name cache)
  | .error fault => (.error fault, s.touch name)

/-- The sizes of the existing partitions (`cache_stats`). -/
def sizes (s : Store) : Table String Nat := s.partitions.map Cache.size

/-- Empty every partition; capacities are kept (`clear_caches`). -/
def clear (s : Store) : Store := ⟨s.partitions.map Cache.clear⟩

/-- Empty one partition, which exists afterwards. -/
def clearPartition (s : Store) (name : String) : Store :=
  s.setPartition name (s.partition name).clear

end Store

end ModuleScript
