import ModuleScript.Proofs.Analysis.WrittenImports
import ModuleScript.Proofs.ImportMap.Reachable
import ModuleScript.Proofs.Render.Warnings

/-!
# Imports that are read back

What an analyzer finds as imports in the statements that a plain renderer writes for a map. It is
the names of the map, unless one of them is bound with a dollar sign, or two of them go together as
a call.
-/

namespace ModuleScript.Renderer

open Analysis Script Store Stimulus

/-- A renderer writes the imports of a map as a text, and then an analyzer reads specifiers from the
text. -/
def ReadsBack (r : Renderer) (a : Analyzer) (m : ImportMap) (s : Store)
    (specifiers : List String) : Prop :=
  ∃ text, ((r.imports m).run s).1 = .ok (.text text) ∧
    ((a.existingImports text).run ((r.imports m).run s).2).1 = .ok (.texts specifiers)

/-- What an analyzer reads from the statements that a plain renderer writes for the names of a map.
No name that is bound with a dollar sign is read back. Where there is none, the names of the map
come out in order, and behind them the specifier of a call if two neighbouring names go together as
one. So just the names come out if and only if none is bound with a dollar sign and no two go
together as a call, or what that call imports is a name of the map itself. -/
theorem written_imports_are_read_back_without_dollars_and_calls {m : ImportMap} (hm : m.Reachable)
    (hquotes : ∀ x ∈ m.names, Unquoted x.toList) (block : String) (analyzer : Option Analyzer)
    (a : Analyzer) {s : Store} (hs : s.Cold) :
    ∃ specifiers, ReadsBack (ofBlock block analyzer) a m s specifiers ∧
      (∀ x ∈ m.names, isBindingName x = true → '$' ∈ x.toList → x ∉ specifiers) ∧
      ((∀ x ∈ m.names, isBindingName x = true → '$' ∉ x.toList) →
        (¬ CallsAcross m.names → specifiers = m.names) ∧
        (CallsAcross m.names → specifiers = addNew m.names betweenNames)) ∧
      (specifiers = m.names ↔ (∀ x ∈ m.names, isBindingName x = true → '$' ∉ x.toList) ∧
        (¬ CallsAcross m.names ∨ betweenNames ∈ m.names)) := by
  have hnames (x : String) (hx : x ∈ m.names) : SpecifierText x.toList :=
    ⟨by simpa using hm.wellNamed.named x hx, hquotes x hx⟩
  -- the analysis of the statements has caches of its own
  let d : Rendering := ⟨ofBlock (Text.joinLines (m.names.map importStatement)) (some a), m⟩
  have hkeeps : Keeps (Holds d.Analysed) ((ofBlock block analyzer).imports m) :=
    d.keeps_keptText_analysed (by decide) (Rendering.keeps_ofResult _)
  have hwritten := (Rendering.ensures_imports ⟨ofBlock block analyzer, m⟩ s (hs.holds _)).2
  have hread := (d.ensures_existingImports_of_analyzer rfl _ (hkeeps s (hs.holds _)).1).2
  exact ⟨_, ⟨_, hwritten, hread⟩, fun x _ ↦ notMem_existingImports_of_dollar hquotes,
    existingImports_joinLines hnames hm.wellNamed.nodup,
    existingImports_joinLines_eq_iff hnames hm.wellNamed.nodup⟩

/-- A binding and a path are read back; a binding with a dollar sign is lost; and the call that two
names make together is read in addition. -/
theorem foo_bar_is_not_read_back :
    ∃ m m' m'' : ImportMap, m.names = ["Grid", "./import.css"] ∧ m'.names = ["Grid", "$fooBar"] ∧
      m''.names = ["import(", ")"] ∧
      ReadsBack (ofBlock "" none) .bundled m {} ["Grid", "./import.css"] ∧
      (∃ specifiers, ReadsBack (ofBlock "" none) .bundled m' {} specifiers ∧
        "$fooBar" ∉ specifiers) ∧
      ReadsBack (ofBlock "" none) .bundled m'' {} ["import(", ")", ";\nimport "] := by
  let listed (first second : String) : ImportMap :=
    (({} : ImportMap).change (.add { name := first, location := "/a.js" })).change
      (.add { name := second, location := "/b.js" })
  have hlisted (first second : String) : (listed first second).Reachable :=
    .change _ (.change _ (.new _))
  have hnames : (listed "Grid" "./import.css").names = ["Grid", "./import.css"] ∧
      (listed "Grid" "$fooBar").names = ["Grid", "$fooBar"] ∧
      (listed "import(" ")").names = ["import(", ")"] := by decide +kernel
  obtain ⟨hplain, hdollar, hcall⟩ := hnames
  obtain ⟨found, hfound, -, -, hiff⟩ := written_imports_are_read_back_without_dollars_and_calls
    (hlisted "Grid" "./import.css") (by decide +kernel) "" none .bundled Store.cold_empty
  obtain ⟨found', hfound', hlost, -⟩ := written_imports_are_read_back_without_dollars_and_calls
    (hlisted "Grid" "$fooBar") (by decide +kernel) "" none .bundled Store.cold_empty
  obtain ⟨found'', hfound'', -, hread, -⟩ :=
    written_imports_are_read_back_without_dollars_and_calls
      (hlisted "import(" ")") (by decide +kernel) "" none .bundled Store.cold_empty
  refine ⟨_, _, _, hplain, hdollar, hcall, ?_, ⟨found', hfound', hlost _ ?_ ?_ ?_⟩, ?_⟩
  · have hnone : ¬ CallsAcross (listed "Grid" "./import.css").names :=
      not_callsAcross_of_notMem (by decide +kernel)
    obtain rfl := (hiff.mpr ⟨by decide +kernel, .inl hnone⟩).trans hplain
    exact hfound
  · rw [hdollar]
    simp
  · decide +kernel
  · decide +kernel
  · have hacross : CallsAcross ["import(", ")"] :=
      ⟨[], "import(", ")", [], [], "import(".toList, [')'], [], rfl, rfl,
        ⟨[], [], by simp, Text.blanks_nil, Text.blanks_nil⟩, rfl, ⟨[], rfl, Text.blanks_nil⟩⟩
    have hcalled := (hread (by decide +kernel)).2 (hcall ▸ hacross)
    rw [hcall] at hcalled
    obtain rfl := hcalled
    exact hfound''

end ModuleScript.Renderer
