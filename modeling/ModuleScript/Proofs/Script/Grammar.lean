import ModuleScript.Proofs.Analysis.Detected
import ModuleScript.Proofs.Pattern.Occurrence

/-!
# What names are accepted

The checks of names accept what their grammar says, and that with one line feed behind it. Names
of controllers and of classes start with a capital and go on with ASCII word characters; a binding
is an identifier with a capital at its start or behind a small letter.
-/

namespace ModuleScript.Script

open Pattern Pattern.Node Analysis

/-- The name is such a text, or such a text with a line feed behind it. -/
def UpToLineFeed (text : List Char → Prop) (name : String) : Prop :=
  ∃ w t, name.toList = w ++ t ∧ text w ∧ NameEnd t

theorem UpToLineFeed.mono {text text' : List Char → Prop} {name : String}
    (h : UpToLineFeed text name) (hsub : ∀ w, text w → text' w) : UpToLineFeed text' name := by
  obtain ⟨w, t, hname, hw, ht⟩ := h
  exact ⟨w, t, hname, hsub w hw, ht⟩

/-! ### Controllers -/

/-- A capital and ASCII word characters, of which the last ones are the word for a controller. -/
def ControllerName (cs : List Char) : Prop :=
  ∃ c w, cs = c :: (w ++ "Controller".toList) ∧ Text.isAsciiUpper c = true ∧
    ∀ d ∈ w, Text.isAsciiWord d = true

/-- Controllers are named by the grammar, up to a line feed. -/
theorem isControllerName_iff_upToLineFeed (name : String) :
    isControllerName name = true ↔ UpToLineFeed ControllerName name := by
  rw [isControllerName_iff]
  constructor
  · rintro ⟨c, w, t, hname, hc, hw, ht⟩
    refine ⟨c :: (w ++ "Controller".toList), t, ?_, ⟨c, w, rfl, hc, hw⟩, ht⟩
    rw [hname, List.cons_append, List.append_assoc]
  · rintro ⟨_, t, hname, ⟨c, w, rfl, hc, hw⟩, ht⟩
    refine ⟨c, w, t, ?_, hc, hw, ht⟩
    rw [hname, List.cons_append, List.append_assoc]

/-! ### Modules -/

/-- Modules are named by the grammar of classes, up to a line feed, and not by an excluded name. -/
theorem isModuleName_iff_upToLineFeed (rules : RuleSet) (name : String) :
    isModuleName rules name = true ↔ UpToLineFeed ClassText name ∧ name ∉ rules.excluded := by
  rw [isModuleName, Bool.and_eq_true, Bool.not_eq_true', ← Bool.not_eq_true,
    List.contains_iff_mem, isClassName_iff]
  rfl

/-! ### Bindings -/

/-- An identifier with a capital at its start or behind a small letter. -/
def BindingName (cs : List Char) : Prop :=
  IdentifierText cs ∧ (cs.head?.any Text.isAsciiUpper = true ∨
    ∃ before small capital rest, cs = before ++ small :: capital :: rest ∧
      Text.isAsciiLower small = true ∧ Text.isAsciiUpper capital = true)

/-- Where a capital stands behind a small letter. -/
theorem occursIn_innerCapital_iff (cs : List Char) : innerCapital.occursIn cs = true ↔
    ∃ before small capital rest, cs = before ++ small :: capital :: rest ∧
      Text.isAsciiLower small = true ∧ Text.isAsciiUpper capital = true := by
  have hsmall (c : Char) : CharSet.contains { items := [.range 'a' 'z'] } c =
      Text.isAsciiLower c := by
    simp [CharSet.contains, CharItem.contains, Text.isAsciiLower]
  simp only [occursIn_iff, innerCapital, mem_ends_seq, oneOf, mem_ends_char, hsmall,
    contains_capital]
  constructor
  · rintro ⟨before, _, rfl, _, _, ⟨small, _, rfl, hsmall, rfl⟩, capital, rest, hrest, hcapital, -⟩
    rw [State.rest_after] at hrest
    exact ⟨before, small, capital, rest, by rw [hrest], hsmall, hcapital⟩
  · rintro ⟨before, small, capital, rest, rfl, hsmall, hcapital⟩
    exact ⟨before, _, rfl, _, _, ⟨small, _, rfl, hsmall, rfl⟩, capital, rest, rfl, hcapital, rfl⟩

/-- A line feed at the end of a text is no part of a pair of letters. -/
private theorem exists_pair_append_iff {w t : List Char} (ht : NameEnd t) :
    (∃ before small capital rest, w ++ t = before ++ small :: capital :: rest ∧
      Text.isAsciiLower small = true ∧ Text.isAsciiUpper capital = true) ↔
    ∃ before small capital rest, w = before ++ small :: capital :: rest ∧
      Text.isAsciiLower small = true ∧ Text.isAsciiUpper capital = true := by
  rcases ht with rfl | rfl
  · rw [List.append_nil]
  · constructor
    · rintro ⟨before, small, capital, rest, hsplit, hsmall, hcapital⟩
      rcases List.eq_nil_or_concat' rest with rfl | ⟨rest, last, rfl⟩
      · -- the capital would be the line feed
        have hlast := congrArg List.getLast? hsplit
        simp only [List.getLast?_append, List.getLast?_cons_cons, List.getLast?_singleton] at hlast
        rw [← Option.some.inj hlast] at hcapital
        exact absurd hcapital (by decide)
      · have hcut : w ++ ['\n'] = (before ++ small :: capital :: rest) ++ [last] := by
          rw [hsplit, List.append_assoc, List.cons_append, List.cons_append]
        exact ⟨before, small, capital, rest, (List.append_inj' hcut rfl).1, hsmall, hcapital⟩
    · rintro ⟨before, small, capital, rest, rfl, hsmall, hcapital⟩
      refine ⟨before, small, capital, rest ++ ['\n'], ?_, hsmall, hcapital⟩
      rw [List.append_assoc, List.cons_append, List.cons_append]

/-- Bindings are named by the grammar, up to a line feed. -/
theorem isBindingName_iff_upToLineFeed (name : String) :
    isBindingName name = true ↔ UpToLineFeed BindingName name := by
  rw [isBindingName, Bool.and_eq_true, isIdentifier_iff, Bool.or_eq_true,
    occursIn_innerCapital_iff]
  have hhead {w t : List Char} (hw : IdentifierText w) : (w ++ t).head? = w.head? := by
    obtain ⟨c, w, rfl, -⟩ := hw
    rfl
  constructor
  · rintro ⟨⟨w, t, hname, hw, ht⟩, hcapital⟩
    rw [hname, hhead hw, exists_pair_append_iff ht] at hcapital
    exact ⟨w, t, hname, ⟨hw, hcapital⟩, ht⟩
  · rintro ⟨w, t, hname, ⟨hw, hcapital⟩, ht⟩
    rw [hname, hhead hw, exists_pair_append_iff ht]
    exact ⟨⟨w, t, rfl, hw, ht⟩, hcapital⟩

/-! ### All of them are identifiers -/

/-- What a class is named by is an identifier. -/
theorem identifierText_of_classText {cs : List Char} (h : ClassText cs) : IdentifierText cs := by
  obtain ⟨c, w, rfl, hc, hw⟩ := h
  refine ⟨c, w, rfl, ?_, fun d hd ↦ ?_⟩
  · rw [isStart, hc]
    rfl
  · rw [isPart, Text.isWord_of_isAsciiWord (hw d hd), Bool.true_or]

end ModuleScript.Script
