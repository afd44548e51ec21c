import Mathlib.Data.List.Pairwise
import ModuleScript.Proofs.Analysis.Answers
import ModuleScript.Proofs.Analysis.ImportText
import ModuleScript.Proofs.Pattern.Captures

/-!
# In which order imports are listed

The specifiers that a block imports are listed each once: first those of its import statements, in
the order of their first statements, and then those that are only called for, in the order of their
first calls. So a call in front of a statement is listed behind it, and the list follows the block
exactly where whatever is called for has everything listed before it in front of the call.
-/

namespace ModuleScript.Analysis

open Pattern Pattern.Node Stimulus

variable {block x y : String} {place : Nat}

/-- An import statement or a call that a scan finds at the place imports the specifier. -/
def ImportsAt (block : String) (place : Nat) (specifier : String) : Prop :=
  FindsAt staticImport block place specifier ∨ FindsAt dynamicImport block place specifier

/-- The one specifier is imported in front of every place at which the other one is. -/
def AppearsBefore (block : String) (x y : String) : Prop :=
  ∃ place, ImportsAt block place x ∧ ∀ other, ImportsAt block other y → place < other

/-- A scan finds the one specifier in front of every place at which it finds the other one. -/
def FoundBefore (form : Node) (block : String) (x y : String) : Prop :=
  ∃ place, FindsAt form block place x ∧ ∀ other, FindsAt form block other y → place < other

/-- The one specifier has a statement, and it stands in front of all statements with the other one;
or neither has one, and the one is called for in front of all calls for the other one. -/
def ListedBefore (block : String) (x y : String) : Prop :=
  FoundBefore staticImport block x y ∨
    (∀ place, ¬ FindsAt staticImport block place x ∧ ¬ FindsAt staticImport block place y) ∧
      FoundBefore dynamicImport block x y

/-! ### The order of the list -/

/-- The patterns of statements and of calls. -/
def importPatterns : List Pattern :=
  [Parsed.pattern ⟨"", staticImport, 1⟩, Parsed.pattern ⟨"", dynamicImport, 1⟩]

theorem keepsWithin_of_mem_importPatterns {p : Pattern} (hp : p ∈ importPatterns) (text : String) :
    p.KeepsWithin text := by
  rcases List.mem_pair.mp hp with rfl | rfl
  · exact Parsed.keepsWithin (by decide) text
  · exact Parsed.keepsWithin (by decide) text

theorem existingImports_eq_eraseDups (block : String) :
    existingImports block = (captured importPatterns block).eraseDups := by
  rw [existingImports, foldl_addNew, captured, importPatterns]
  simp only [List.flatMap_cons, List.flatMap_nil, List.append_nil]
  rfl

theorem nodup_existingImports (block : String) : (existingImports block).Nodup :=
  nodup_foldl_addNew List.nodup_nil

/-- What a scan finds at a place has a rank among what it finds. -/
theorem findsAt_iff {form : Node} : FindsAt form block place x ↔
    ∃ (rank : Nat) (found : Match), (form.scan block.toList)[rank]? = some found ∧
      found.start = place ∧ found.group? 1 = some x := by
  constructor
  · rintro ⟨found, hfound, hplace, hname⟩
    obtain ⟨rank, hrank⟩ := List.mem_iff_getElem?.mp hfound
    exact ⟨rank, found, hrank, hplace, hname⟩
  · rintro ⟨rank, found, hrank, hplace, hname⟩
    exact ⟨found, List.mem_of_getElem? hrank, hplace, hname⟩

/-- A capture by the first pattern is one in a statement, and one by the second pattern is one in a
call. -/
theorem capturedAt_iff {number rank : Nat} : CapturedAt importPatterns block number rank x ↔
    ∃ found : Match, found.group? 1 = some x ∧
      (number = 0 ∧ (staticImport.scan block.toList)[rank]? = some found ∨
        number = 1 ∧ (dynamicImport.scan block.toList)[rank]? = some found) := by
  constructor
  · rintro ⟨found, ⟨p, hp, hfound⟩, hname⟩
    rcases number with _ | _ | number
    · obtain rfl := Option.some.inj hp
      exact ⟨found, hname, .inl ⟨rfl, hfound⟩⟩
    · obtain rfl := Option.some.inj hp
      exact ⟨found, hname, .inr ⟨rfl, hfound⟩⟩
    · exact absurd hp (by simp [importPatterns])
  · rintro ⟨found, hname, ⟨rfl, hfound⟩ | ⟨rfl, hfound⟩⟩
    · exact ⟨found, ⟨_, rfl, hfound⟩, hname⟩
    · exact ⟨found, ⟨_, rfl, hfound⟩, hname⟩

/-- No specifier is empty. -/
theorem ne_nil_of_importsAt (h : ImportsAt block place x) : x.toList ≠ [] := by
  rcases h with h | h
  · obtain ⟨_, _, _, -, -, -, _, _, _, _, -, -, -, hspecifier, -⟩ :=
      tells_staticImport.exists_of_findsAt h
    exact hspecifier.1
  · obtain ⟨_, _, _, -, -, -, _, _, _, _, -, -, -, hspecifier, -⟩ :=
      tells_dynamicImport.exists_of_findsAt h
    exact hspecifier.1

theorem listedBefore_of_capturedBefore (h : CapturedBefore importPatterns block x y) :
    ListedBefore block x y := by
  simp only [CapturedBefore, capturedAt_iff] at h
  obtain ⟨number, rank, ⟨found, hname, hx⟩, hy⟩ := h
  -- a capture of the other one by the same pattern is one by a later match
  have hbefore {form : Node} (hkeeps : (Parsed.pattern ⟨"", form, 1⟩).KeepsWithin block)
      (hfound : (form.scan block.toList)[rank]? = some found) (hne : x.toList ≠ [])
      (hlater : ∀ rank' found', (form.scan block.toList)[rank']? = some found' →
        found'.group? 1 = some y → rank < rank') : FoundBefore form block x y := by
    refine ⟨found.start, findsAt_iff.mpr ⟨rank, found, hfound, rfl, hname⟩, fun other hother ↦ ?_⟩
    obtain ⟨rank', found', hfound', rfl, hname'⟩ := findsAt_iff.mp hother
    exact hkeeps.start_lt hfound hfound' (hlater rank' found' hfound' hname') hname hne
  rcases hx with ⟨rfl, hfound⟩ | ⟨rfl, hfound⟩
  · have hne := ne_nil_of_importsAt (.inl (findsAt_iff.mpr ⟨rank, found, hfound, rfl, hname⟩))
    refine .inl (hbefore (keepsWithin_of_mem_importPatterns (by simp [importPatterns]) block) hfound
      hne fun rank' found' hfound' hname' ↦ ?_)
    have := hy 0 rank' ⟨found', hname', .inl ⟨rfl, hfound'⟩⟩
    omega
  · have hne := ne_nil_of_importsAt (.inr (findsAt_iff.mpr ⟨rank, found, hfound, rfl, hname⟩))
    -- the other one has no statement, since a statement would come before the call
    have hcalled (other : Nat) : ¬ FindsAt staticImport block other y := by
      intro hother
      obtain ⟨rank', found', hfound', -, hname'⟩ := findsAt_iff.mp hother
      have := hy 0 rank' ⟨found', hname', .inl ⟨rfl, hfound'⟩⟩
      omega
    by_cases hstatement : ∃ other, FindsAt staticImport block other x
    · obtain ⟨other, hother⟩ := hstatement
      exact .inl ⟨other, hother, fun p hp ↦ absurd hp (hcalled p)⟩
    · refine .inr ⟨fun other ↦ ⟨fun h ↦ hstatement ⟨other, h⟩, hcalled other⟩, ?_⟩
      refine hbefore (keepsWithin_of_mem_importPatterns (by simp [importPatterns]) block) hfound hne
        fun rank' found' hfound' hname' ↦ ?_
      have := hy 1 rank' ⟨found', hname', .inr ⟨rfl, hfound'⟩⟩
      omega

/-- The specifiers of statements are listed first, in the order of the statements, and then the
others in the order of the calls. -/
theorem pairwise_existingImports (block : String) :
    (existingImports block).Pairwise (ListedBefore block) := by
  have hpairs := pairwise_eraseDups_captured importPatterns block fun _ ↦ true
  rw [List.filter_true, ← existingImports_eq_eraseDups] at hpairs
  exact hpairs.imp listedBefore_of_capturedBefore

/-! ### The order of the block -/

theorem FoundBefore.asymm {form : Node} (h : FoundBefore form block x y) :
    ¬ FoundBefore form block y x := by
  rintro ⟨q, hq, hlater⟩
  obtain ⟨p, hp, hbefore⟩ := h
  exact Nat.lt_asymm (hbefore q hq) (hlater p hp)

theorem ListedBefore.asymm (h : ListedBefore block x y) : ¬ ListedBefore block y x := by
  rcases h with h | ⟨hnone, h⟩
  · rintro (h' | ⟨hnone', -⟩)
    · exact h.asymm h'
    · exact (hnone' _).2 h.choose_spec.1
  · rintro (h' | ⟨-, h'⟩)
    · exact (hnone _).2 h'.choose_spec.1
    · exact h.asymm h'

/-- What is listed before something is imported somewhere. -/
theorem ListedBefore.exists_importsAt (h : ListedBefore block x y) :
    ∃ place, ImportsAt block place x := by
  rcases h with ⟨place, hx, -⟩ | ⟨-, place, hx, -⟩
  · exact ⟨place, .inl hx⟩
  · exact ⟨place, .inr hx⟩

/-- What is listed before a specifier appears in front of its statements. -/
theorem ListedBefore.exists_lt_statement (h : ListedBefore block x y)
    (hy : FindsAt staticImport block place y) : ∃ other < place, ImportsAt block other x := by
  rcases h with ⟨other, hx, hbefore⟩ | ⟨hnone, -⟩
  · exact ⟨other, hbefore place hy, .inl hx⟩
  · exact absurd hy (hnone place).2

/-- The list follows the block exactly where everything that is listed before what a call imports
is imported in front of the call. -/
theorem pairwise_appearsBefore_iff (block : String) :
    (existingImports block).Pairwise (AppearsBefore block) ↔
      ∀ x y place, ListedBefore block x y → FindsAt dynamicImport block place y →
        ∃ other < place, ImportsAt block other x := by
  constructor
  · intro happears x y place hlisted hy
    have hmem : x ∈ existingImports block ∧ y ∈ existingImports block :=
      ⟨mem_existingImports_iff.mpr hlisted.exists_importsAt,
        mem_existingImports_iff.mpr ⟨place, .inr hy⟩⟩
    have hne : x ≠ y := by
      rintro rfl
      exact hlisted.asymm hlisted
    -- the list holds one of the two before the other one, which is as they are listed
    let ordered (x y : String) : Prop := AppearsBefore block x y ∧ ListedBefore block x y
    let related (x y : String) : Prop := ordered x y ∨ ordered y x
    have hsymm : Std.Symm related := ⟨fun _ _ ↦ Or.symm⟩
    have hpairs : (existingImports block).Pairwise related :=
      (happears.and (pairwise_existingImports block)).imp Or.inl
    rcases hpairs.forall hmem.1 hmem.2 hne with h | h
    · obtain ⟨other, hx, hbefore⟩ := h.1
      exact ⟨other, hbefore place (.inr hy), hx⟩
    · exact absurd h.2 hlisted.asymm
  · intro h
    refine (pairwise_existingImports block).imp fun {x y} hlisted ↦ ?_
    classical
    -- the first import of the one is in front of any of the other
    have hx := hlisted.exists_importsAt
    refine ⟨Nat.find hx, Nat.find_spec hx, fun place hy ↦ ?_⟩
    have hfront : ∃ other < place, ImportsAt block other x :=
      hy.elim hlisted.exists_lt_statement (h x y place hlisted)
    obtain ⟨other, hlt, hother⟩ := hfront
    exact Nat.lt_of_le_of_lt (Nat.find_min' hx hother) hlt

end ModuleScript.Analysis

namespace ModuleScript.Analyzer

open Analysis Stimulus

/-- What the analyzer answers about the imports of a block wherever nothing else is kept for it. -/
def AnswersImports (a : Analyzer) (block : String) (specifiers : List String) : Prop :=
  ∀ s : Store, (∀ kept, (s.partition Partition.existingImports.name).find? (a.key block) =
      some kept → kept = .data (.texts specifiers)) →
    ((a.existingImports block).run s).1 = .ok (.texts specifiers)

theorem answersImports_existingImports (a : Analyzer) (block : String) :
    a.AnswersImports block (Analysis.existingImports block) := by
  intro s hs
  rw [existingImports, Cache.run_bind, Cache.Slot.run_getOrCompute]
  cases hkept : ((Store.slot Partition.existingImports.name).read s).find? (a.key block) with
  | none => rfl
  | some kept =>
    rw [hs kept hkept]
    rfl

/-- The answer about the imports of a block lists each specifier that a statement or a call imports
once: those of statements first, and those that are only called for behind them. It follows the
block exactly where everything that is listed before what a call imports is imported in front of the
call. -/
theorem imports_of_statements_are_listed_first (a : Analyzer) (block : String) :
    ∃ specifiers, a.AnswersImports block specifiers ∧ specifiers.Nodup ∧
      (∀ x, x ∈ specifiers ↔ ∃ place, ImportsAt block place x) ∧
      specifiers.Pairwise (ListedBefore block) ∧
      (specifiers.Pairwise (AppearsBefore block) ↔
        ∀ x y place, ListedBefore block x y → FindsAt dynamicImport block place y →
          ∃ other < place, ImportsAt block other x) :=
  ⟨_, a.answersImports_existingImports block, nodup_existingImports block,
    fun _ ↦ mem_existingImports_iff, pairwise_existingImports block,
    pairwise_appearsBefore_iff block⟩

/-- What a call in front of a statement imports is listed behind what the statement does. -/
theorem called_module_is_listed_behind_statement :
    ∃ specifiers,
      Analyzer.bundled.AnswersImports "import(\"a\"); import b from \"b\";" specifiers ∧
      specifiers = ["b", "a"] ∧
      ¬ specifiers.Pairwise (AppearsBefore "import(\"a\"); import b from \"b\";") := by
  let block := "import(\"a\"); import b from \"b\";"
  obtain ⟨specifiers, hanswer, -, -, hlisted, hiff⟩ :=
    imports_of_statements_are_listed_first .bundled block
  -- from an empty store, the answer is what the scans find
  have hempty {P : Artifact → Prop} (kept : Artifact) (hkept :
      (Store.partition {} Partition.existingImports.name).find? (Analyzer.bundled.key block) =
        some kept) : P kept := by
    rw [Store.cold_empty.find?_partition] at hkept
    exact absurd hkept (by simp)
  have hcomputed : Analysis.existingImports block = ["b", "a"] := by decide +kernel
  have hfound := answersImports_existingImports .bundled block {} hempty
  rw [hcomputed] at hfound
  have htexts : Value.texts specifiers = .texts ["b", "a"] :=
    Except.ok.inj ((hanswer {} hempty).symm.trans hfound)
  have hinjective : Function.Injective (List.map Value.text) :=
    List.map_injective_iff.mpr fun _ _ ↦ Value.text.inj
  obtain rfl : specifiers = ["b", "a"] := hinjective (Value.list.inj htexts)
  refine ⟨_, hanswer, rfl, fun hordered ↦ ?_⟩
  -- the module that is listed second is called for at the very start
  have hcalled : FindsAt dynamicImport block 0 "a" := by
    unfold FindsAt
    decide +kernel
  obtain ⟨other, hother, -⟩ := hiff.mp hordered "b" "a" 0
    (List.rel_of_pairwise_cons hlisted (List.mem_singleton_self _)) hcalled
  exact Nat.not_lt_zero other hother

end ModuleScript.Analyzer
