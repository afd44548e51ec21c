import ModuleScript.Proofs.Analysis.Answers
import ModuleScript.Proofs.Analysis.ClassUse
import ModuleScript.Proofs.Stimulus.Discovery

/-!
# Which modules are detected

The bundled module patterns recognise the forms in which classes are used, each from a word edge
on. Since uses of one form keep apart, a scan finds all of them.
-/

namespace ModuleScript.Analysis

open Pattern Pattern.Node Text Script Stimulus

/-! ### What a pattern captures -/

/-- A pattern that matches the uses of one form behind a word edge and keeps the class. -/
structure Recognises (n : Node) (form : List Char → List Char → Prop) : Prop where
  sound {before after : List Char} {t : State} : t ∈ n.ends (.between before after) →
    ∃ x text rest, after = text ++ rest ∧ WordEdge before after ∧ ClassText x ∧ form x text ∧
      t.offset = before.length + text.length ∧ t.group? 1 = some (String.ofList x)
  complete {before x text rest : List Char} : WordEdge before (text ++ rest) → ClassText x →
    form x text → ∃ t, t ∈ n.ends (.between before (text ++ rest))

namespace Recognises

variable {n : Node} {form : List Char → List Char → Prop}

/-- Matches of forms that keep apart do not overlap. -/
theorem apart (h : Recognises n form) (hform : Distinct form) : n.Apart where
  reads := by
    intro before rest t ht
    obtain ⟨x, text, rest, -, -, -, htext, hoffset, -⟩ := h.sound ht
    have hpos := List.length_pos_of_ne_nil (hform.reads htext)
    omega
  inside := by
    intro before inner rest t ht hinner hlength
    obtain ⟨x, text, more, hsplit, -, hx, htext, hoffset, -⟩ := h.sound ht
    rw [List.eq_nil_iff_forall_not_mem]
    intro u hu
    obtain ⟨y, text', rest', rfl, hedge, hy, htext', -⟩ := h.sound hu
    rw [List.length_append] at hlength
    refine hform.inside hx hy htext htext' hsplit.symm hinner (by omega) ?_
    rw [WordEdge, List.getLast?_append_of_ne_nil _ hinner] at hedge
    exact hedge

/-- The scan over a text captures the classes that it uses in this form. -/
theorem mem_captured_iff (h : Recognises n form) (hform : Distinct form) {text : List Char}
    {x : String} : x ∈ (n.scan text).filterMap (·.group? 1) ↔
      ClassText x.toList ∧ ∃ before use rest, text = before ++ (use ++ rest) ∧
        WordEdge before (use ++ rest) ∧ form x.toList use := by
  simp only [List.mem_filterMap, mem_scan_iff (h.apart hform), matchAt?_eq]
  constructor
  · rintro ⟨m, ⟨before, after, rfl, hm⟩, hgroup⟩
    obtain ⟨t, ht, rfl⟩ := Option.map_eq_some_iff.mp hm
    obtain ⟨y, use, rest, rfl, hedge, hy, huse, -, hname⟩ := h.sound (List.mem_of_head? ht)
    have hxy : String.ofList y = x := Option.some.inj (hname.symm.trans hgroup)
    rw [← hxy, String.toList_ofList]
    exact ⟨hy, before, use, rest, rfl, hedge, huse⟩
  · rintro ⟨hx, before, use, rest, rfl, hedge, huse⟩
    obtain ⟨u, hu⟩ := h.complete hedge hx huse
    obtain ⟨t, ht⟩ := Option.isSome_iff_exists.mp (List.isSome_head?.mpr (List.ne_nil_of_mem hu))
    -- the preferred end may be another one, but it keeps the same class
    obtain ⟨y, use', rest', hsplit, -, hy, huse', -, hname⟩ := h.sound (List.mem_of_head? ht)
    have hyx : y = x.toList := hform.unique hy hx huse' huse hsplit.symm
    refine ⟨⟨before.length, t⟩, ⟨before, use ++ rest, rfl, by rw [ht]; rfl⟩, ?_⟩
    change t.group? 1 = some x
    rw [hname, hyx, String.ofList_toList]

end Recognises

/-! ### The bundled patterns -/

variable {s s' : State}

/-- A class name is read as far as the reader wishes, and kept. -/
theorem mem_ends_classGroup : s' ∈ RuleSet.classGroup.ends s ↔
    ∃ x rest, s.rest = x ++ rest ∧ ClassText x ∧
      s' = s.after x rest [(1, ⟨x ++ rest, x.length⟩)] := by
  simp only [RuleSet.classGroup, mem_ends_group, mem_ends_concat_cons, mem_ends_concat_nil, oneOf,
    mem_ends_char, mem_ends_star, contains_capital, contains_plainWord]
  constructor
  · rintro ⟨_, ⟨_, ⟨c, rest, hs, hc, rfl⟩, _, ⟨w, rest', hrest, hw, rfl⟩, rfl⟩, rfl⟩
    rw [State.rest_after] at hrest
    refine ⟨c :: w, rest', by rw [hs, hrest, List.cons_append], ⟨c, w, rfl, hc, hw⟩, ?_⟩
    rw [State.after_after, State.capture_after, hs, hrest]
    rfl
  · rintro ⟨_, rest, hs, ⟨c, w, rfl, hc, hw⟩, rfl⟩
    refine ⟨_, ⟨_, ⟨c, w ++ rest, hs, hc, rfl⟩, _, ⟨w, rest, rfl, hw, rfl⟩, rfl⟩, ?_⟩
    rw [State.after_after, State.capture_after, hs]
    rfl

/-- What was kept of a class name is the class. -/
theorem group?_after_class (before after text rest x more : List Char) :
    ((State.between before after).after text rest
      [(1, ⟨x ++ more, x.length⟩)]).group? 1 = some (String.ofList x) := by
  simp [State.group?, State.between, State.after, Span.text_append]

/-- What a constructor call reads. -/
theorem mem_ends_constructorCall {before after : List Char} {t : State} :
    t ∈ RuleSet.constructorCall.node.ends (.between before after) ↔
      WordEdge before after ∧ ∃ gap x space rest,
        after = "new".toList ++ (gap ++ (x ++ (space ++ '(' :: rest))) ∧ gap ≠ [] ∧
          Blanks gap ∧ ClassText x ∧ Blanks space ∧
            t = (State.between before after).after
              ("new".toList ++ gap ++ x ++ space ++ ['(']) rest
                [(1, ⟨x ++ (space ++ '(' :: rest), x.length⟩)] := by
  simp only [RuleSet.constructorCall, RuleSet.written, RuleSet.callOpens, mem_ends_concat_append,
    mem_ends_concat_cons, mem_ends_concat_nil, mem_ends_anchor, mem_ends_letters,
    mem_ends_someBlanks, mem_ends_blanks, mem_ends_classGroup, mem_ends_char, contains_single,
    Anchor.holds, atWordEdge_between]
  constructor
  · rintro ⟨_, ⟨_, ⟨_, ⟨_, ⟨rfl, hedge⟩, rfl⟩, u, hafter, rfl⟩, _, ⟨gap, v, hu, hne, hgap, rfl⟩,
      _, ⟨x, w, hv, hx, rfl⟩, rfl⟩, _, ⟨space, y, hw, hspace, rfl⟩, _, ⟨c, rest, hy, rfl, rfl⟩, rfl⟩
    rw [State.rest_after] at hu hv hw hy
    subst hy hw hv hu
    exact ⟨hedge, gap, x, space, rest, hafter, hne, hgap, hx, hspace, by simp⟩
  · rintro ⟨hedge, gap, x, space, rest, hafter, hne, hgap, hx, hspace, rfl⟩
    refine ⟨_, ⟨_, ⟨_, ⟨_, ⟨rfl, hedge⟩, rfl⟩, _, hafter, rfl⟩, _, ⟨gap, _, rfl, hne, hgap, rfl⟩,
      _, ⟨x, _, rfl, hx, rfl⟩, rfl⟩, _, ⟨space, _, rfl, hspace, rfl⟩, _,
      ⟨_, rest, rfl, rfl, rfl⟩, ?_⟩
    simp

theorem recognises_constructorCall : Recognises RuleSet.constructorCall.node Construction where
  sound := by
    intro before after t ht
    obtain ⟨hedge, gap, x, space, rest, rfl, hne, hgap, hx, hspace, rfl⟩ :=
      mem_ends_constructorCall.mp ht
    refine ⟨x, _, rest, ?_, hedge, hx, ⟨gap, space, hne, hgap, hspace, rfl⟩, ?_,
      group?_after_class _ _ _ _ _ _⟩
    · simp
    · simp [State.after, State.between]
  complete := by
    rintro before x _ rest hedge hx ⟨gap, space, hne, hgap, hspace, rfl⟩
    refine ⟨_, mem_ends_constructorCall.mpr
      ⟨hedge, gap, x, space, rest, ?_, hne, hgap, hx, hspace, rfl⟩⟩
    simp

/-- A use of a name that belongs to a class, by the characters of the name and the signs. -/
def access (first further sign : CharSet) : Node :=
  concat ([anchor .wordEdge, RuleSet.classGroup] ++ letters "." ++
    [char first, star (char further), blanks, char sign])

/-- What a use of a class's own name reads. -/
theorem mem_ends_access {first further sign : CharSet} {before after : List Char} {t : State} :
    t ∈ (access first further sign).ends (.between before after) ↔
      WordEdge before after ∧ ∃ x name space c rest,
        after = x ++ ('.' :: (name ++ (space ++ c :: rest))) ∧ ClassText x ∧
          NameText first.contains further.contains name ∧ Blanks space ∧ sign.contains c = true ∧
            t = (State.between before after).after (x ++ ['.'] ++ name ++ space ++ [c]) rest
              [(1, ⟨x ++ ('.' :: (name ++ (space ++ c :: rest))), x.length⟩)] := by
  simp only [access, mem_ends_concat_append, mem_ends_concat_cons, mem_ends_concat_nil,
    mem_ends_anchor, mem_ends_letters, mem_ends_blanks, mem_ends_classGroup, mem_ends_char,
    mem_ends_star, Anchor.holds, atWordEdge_between]
  constructor
  · rintro ⟨_, ⟨_, ⟨_, ⟨rfl, hedge⟩, _, ⟨x, u, hafter, hx, rfl⟩, rfl⟩, v, hu, rfl⟩,
      _, ⟨d, w, hv, hd, rfl⟩, _, ⟨name, y, hw, hname, rfl⟩, _, ⟨space, z, hy, hspace, rfl⟩,
      _, ⟨c, rest, hz, hc, rfl⟩, rfl⟩
    rw [State.rest_after] at hu hv hw hy hz
    subst hz hy hw hv hu
    exact ⟨hedge, x, d :: name, space, c, rest, by simpa using hafter, hx,
      ⟨d, name, rfl, hd, hname⟩, hspace, hc, by simp⟩
  · rintro ⟨hedge, x, _, space, c, rest, hafter, hx, ⟨d, name, rfl, hd, hname⟩, hspace, hc, rfl⟩
    refine ⟨_, ⟨_, ⟨_, ⟨rfl, hedge⟩, _, ⟨x, _, hafter, hx, rfl⟩, rfl⟩, _, rfl, rfl⟩,
      _, ⟨d, _, rfl, hd, rfl⟩, _, ⟨name, _, rfl, hname, rfl⟩, _, ⟨space, _, rfl, hspace, rfl⟩,
      _, ⟨c, rest, rfl, hc, rfl⟩, ?_⟩
    simp

theorem recognises_access (first further sign : CharSet) :
    Recognises (access first further sign)
      (Access (NameText first.contains further.contains) sign.contains) where
  sound := by
    intro before after t ht
    obtain ⟨hedge, x, name, space, c, rest, rfl, hx, hname, hspace, hc, rfl⟩ :=
      mem_ends_access.mp ht
    refine ⟨x, _, rest, ?_, hedge, hx, ⟨name, space, c, hname, hspace, hc, rfl⟩, ?_,
      group?_after_class _ _ _ _ _ _⟩
    · simp
    · simp [State.after, State.between]
  complete := by
    rintro before x _ rest hedge hx ⟨name, space, c, hname, hspace, hc, rfl⟩
    refine ⟨_, mem_ends_access.mpr
      ⟨hedge, x, name, space, c, rest, ?_, hx, hname, hspace, hc, rfl⟩⟩
    simp

private theorem contains_memberStart :
    CharSet.contains { items := [.range 'a' 'z', capital, .single '_'] } =
      fun c ↦ isAsciiLower c || isAsciiUpper c || c == '_' := by
  funext c
  simp [CharSet.contains, capital, CharItem.contains, isAsciiUpper, isAsciiLower, Bool.or_assoc]

private theorem contains_constantStart :
    CharSet.contains { items := [capital, .single '_'] } =
      fun c ↦ isAsciiUpper c || c == '_' := by
  funext c
  simp [CharSet.contains, capital, CharItem.contains, isAsciiUpper]

private theorem contains_constantPart :
    CharSet.contains { items := [capital, .range '0' '9', .single '_'] } =
      fun c ↦ isAsciiUpper c || isAsciiDigit c || c == '_' := by
  funext c
  simp [CharSet.contains, capital, CharItem.contains, isAsciiUpper, isAsciiDigit, Bool.or_assoc]

private theorem contains_assignOrCall :
    CharSet.contains { items := [.single '=', .single '('] } =
      fun c ↦ c == '=' || c == '(' := by
  funext c
  simp [CharSet.contains, CharItem.contains]

theorem recognises_staticCall :
    Recognises RuleSet.staticCall.node (Access MemberText (· == '(')) := by
  have h := recognises_access { items := [.range 'a' 'z', capital, .single '_'] }
    { items := plainWord } (.single '(')
  have hword : CharSet.contains { items := plainWord } = isAsciiWord := funext contains_plainWord
  have hparen : (CharSet.single '(').contains = (· == '(') := by
    funext c
    simp [CharSet.contains, CharSet.single, CharItem.contains]
  rw [contains_memberStart, hword, hparen] at h
  exact h

theorem recognises_staticConstant :
    Recognises RuleSet.staticConstant.node
      (Access ConstantText fun c ↦ c == '=' || c == '(') := by
  have h := recognises_access { items := [capital, .single '_'] }
    { items := [capital, .range '0' '9', .single '_'] } { items := [.single '=', .single '('] }
  rw [contains_constantStart, contains_constantPart, contains_assignOrCall] at h
  exact h

/-! ### Detection -/

/-- Accepted names of classes: the text of one, then the end of a name. -/
theorem isClassName_iff (name : String) : isClassName name = true ↔
    ∃ w t, name.toList = w ++ t ∧ ClassText w ∧ NameEnd t := by
  rw [isClassName, isSome_matchStart?_iff, className]
  simp only [mem_ends_concat_cons, mem_ends_concat_nil, mem_ends_anchor, oneOf, mem_ends_char,
    mem_ends_star, contains_capital, contains_plainWord, holds_textEnd]
  constructor
  · rintro ⟨_, _, ⟨rfl, -⟩, _, ⟨c, rest, hname, hc, rfl⟩, _, ⟨w, t, hrest, hw, rfl⟩, _,
      ⟨rfl, ht⟩, rfl⟩
    rw [State.rest_after] at hrest
    exact ⟨c :: w, t, by rw [List.cons_append, ← hrest]; exact hname, ⟨c, w, rfl, hc, hw⟩, ht⟩
  · rintro ⟨_, t, hname, ⟨c, w, rfl, hc, hw⟩, ht⟩
    exact ⟨_, _, ⟨rfl, rfl⟩, _, ⟨c, w ++ t, hname, hc, rfl⟩, _, ⟨w, t, rfl, hw, rfl⟩, _,
      ⟨rfl, ht⟩, rfl⟩

/-- A class name is accepted as one. -/
theorem isClassName_of_classText {name : String} (h : ClassText name.toList) :
    isClassName name = true :=
  (isClassName_iff name).mpr ⟨name.toList, [], (List.append_nil _).symm, h, .inl rfl⟩

/-- The bundled patterns capture the classes that a block uses. -/
theorem mem_captured_bundled_iff {block x : String} :
    x ∈ RuleSet.bundled.modulePatterns.flatMap
        (fun p ↦ (p.scan block).filterMap (·.group? 1)) ↔
      ClassText x.toList ∧ ∃ before use rest, block.toList = before ++ (use ++ rest) ∧
        WordEdge before (use ++ rest) ∧ UsesClass x.toList use := by
  simp only [RuleSet.bundled, RuleSet.bundledCaptures, List.map_cons, List.map_nil,
    List.flatMap_cons, List.flatMap_nil, List.append_nil, List.mem_append, Parsed.pattern,
    recognises_constructorCall.mem_captured_iff distinct_construction,
    recognises_staticCall.mem_captured_iff distinct_call,
    recognises_staticConstant.mem_captured_iff distinct_constant]
  constructor
  · rintro (⟨hx, before, use, rest, hblock, hedge, huse⟩ |
      ⟨hx, before, use, rest, hblock, hedge, huse⟩ | ⟨hx, before, use, rest, hblock, hedge, huse⟩)
    · exact ⟨hx, before, use, rest, hblock, hedge, .inl huse⟩
    · exact ⟨hx, before, use, rest, hblock, hedge, .inr (.inl huse)⟩
    · exact ⟨hx, before, use, rest, hblock, hedge, .inr (.inr huse)⟩
  · rintro ⟨hx, before, use, rest, hblock, hedge, huse | huse | huse⟩
    · exact .inl ⟨hx, before, use, rest, hblock, hedge, huse⟩
    · exact .inr (.inl ⟨hx, before, use, rest, hblock, hedge, huse⟩)
    · exact .inr (.inr ⟨hx, before, use, rest, hblock, hedge, huse⟩)

/-- The bundled rules detect the classes that a block uses and the platform does not provide. -/
theorem exists_detectModules_bundled (block : String) :
    ∃ names, detectModules .bundled block = .ok names ∧ names.Nodup ∧ ∀ x, x ∈ names ↔
      ClassText x.toList ∧ x ∉ RuleSet.platformNames ∧
        ∃ before use rest, block.toList = before ++ (use ++ rest) ∧
          WordEdge before (use ++ rest) ∧ UsesClass x.toList use := by
  have hgrouped : RuleSet.bundled.Grouped := by decide +kernel
  refine ⟨_, detectModules_eq hgrouped block, nodup_foldl_addNew List.nodup_nil, fun x ↦ ?_⟩
  have hname (hx : ClassText x.toList) :
      isModuleName .bundled x = true ↔ x ∉ RuleSet.platformNames := by
    rw [isModuleName, isClassName_of_classText hx, Bool.true_and, Bool.not_eq_true',
      ← Bool.not_eq_true, List.contains_iff_mem]
    rfl
  rw [mem_foldl_addNew, List.mem_filter, mem_captured_bundled_iff]
  constructor
  · rintro (hnil | ⟨⟨hx, huse⟩, haccepted⟩)
    · exact absurd hnil List.not_mem_nil
    · exact ⟨hx, (hname hx).mp haccepted, huse⟩
  · rintro ⟨hx, hplatform, huse⟩
    exact .inr ⟨⟨hx, huse⟩, (hname hx).mpr hplatform⟩

end ModuleScript.Analysis

namespace ModuleScript.Analyzer

open Analysis

/-- An analysis with the bundled rules lists each class once that the block uses, from a word
edge on, in one of the three forms, except for those that the platform provides; no use is missed.
It does so whenever nothing else is kept for the block. -/
theorem bundled_modules_are_the_classes_in_use (block : String) (s : Store)
    (hs : ∀ kept, Analyzer.bundled.kept? block s = some kept →
      ∃ found, Analyzer.bundled.Finds block found ∧ kept = .findings found) :
    ∃ found, ((Analyzer.bundled.analyze block).run s).1 = .ok found ∧
      found.localModules.Nodup ∧ ∀ x, x ∈ found.localModules ↔
        ClassText x.toList ∧ x ∉ RuleSet.platformNames ∧
          ∃ before use rest, block.toList = before ++ (use ++ rest) ∧
            WordEdge before (use ++ rest) ∧ UsesClass x.toList use := by
  obtain ⟨names, hnames, hnodup, hmem⟩ := exists_detectModules_bundled block
  let own : Findings :=
    { external := detectLibraries .bundled block, localModules := names
      suggestions := suggestions .bundled (detectLibraries .bundled block) names }
  have hfinds : Analyzer.bundled.Finds block own := by
    unfold Finds
    rw [findings]
    change (detectModules .bundled block >>= _) = _
    rw [hnames]
    rfl
  refine ⟨own, ?_, hnodup, hmem⟩
  cases hkept : Analyzer.bundled.kept? block s with
  | none => exact analyze_of_none hfinds hkept
  | some kept =>
    obtain ⟨found, hfound, rfl⟩ := hs kept hkept
    rw [analyze_of_some hkept, Except.ok.inj (hfound.symm.trans hfinds)]

/-- A class that is constructed behind a call of another one's method is found, and so is the other
one; what the platform provides is not. -/
theorem grid_and_cell_are_detected :
    ∃ found,
      ((Analyzer.bundled.analyze "Grid.add(new  Cell (Math.max(1, 2)))").run {}).1 = .ok found ∧
      "Grid" ∈ found.localModules ∧ "Cell" ∈ found.localModules ∧ "Math" ∉ found.localModules := by
  have hempty (kept : Artifact) (hkept : Analyzer.bundled.kept?
      "Grid.add(new  Cell (Math.max(1, 2)))" {} = some kept) : False := by
    rw [kept?_of_cold Store.cold_empty] at hkept
    exact absurd hkept (by simp)
  obtain ⟨found, hanswer, -, hmem⟩ := bundled_modules_are_the_classes_in_use
    "Grid.add(new  Cell (Math.max(1, 2)))" {} fun kept hkept ↦ (hempty kept hkept).elim
  have hgrid : UsesClass "Grid".toList "Grid.add(".toList :=
    .inr (.inl ⟨"add".toList, [], '(', ⟨'a', "dd".toList, rfl, rfl, List.all_eq_true.mp rfl⟩,
      Text.blanks_nil, rfl, rfl⟩)
  have hcell : UsesClass "Cell".toList "new  Cell (".toList :=
    .inl ⟨[' ', ' '], [' '], by simp, List.all_eq_true.mp rfl, List.all_eq_true.mp rfl, rfl⟩
  refine ⟨found, hanswer, (hmem _).mpr ⟨?_, ?_, ?_⟩, (hmem _).mpr ⟨?_, ?_, ?_⟩, fun hmath ↦ ?_⟩
  · exact ⟨'G', "rid".toList, rfl, rfl, List.all_eq_true.mp rfl⟩
  · decide +kernel
  · exact ⟨[], _, "new  Cell (Math.max(1, 2)))".toList, by decide +kernel, by decide +kernel, hgrid⟩
  · exact ⟨'C', "ell".toList, rfl, rfl, List.all_eq_true.mp rfl⟩
  · decide +kernel
  · exact ⟨"Grid.add(".toList, _, "Math.max(1, 2)))".toList, by decide +kernel,
      by decide +kernel, hcell⟩
  · exact ((hmem _).mp hmath).2.1 (by decide +kernel)

end ModuleScript.Analyzer
