import ModuleScript.Proofs.Pattern.Preference
import ModuleScript.Proofs.Script.Names
import ModuleScript.Proofs.Stimulus.StatementText

/-!
# Import lines

An import line has a clause, which binds a default name or not, and a specifier. Both are
determined by the line: the specifier stands between its last two quotation marks, and a default
binding is the first identifier behind the word for an import. Blanks around the line change
neither.
-/

namespace ModuleScript.Stimulus

open Pattern Pattern.Node Text Script

/-! ### The text of an import -/

/-- What may follow a default binding within its clause. -/
def ClauseMore (cs : List Char) : Prop :=
  cs = [] ∨ ∃ u, cs = ',' :: u ∧ ∀ c ∈ u, c ≠ ';'

/-- A clause that binds a default name. -/
def BoundClause (binding clause : List Char) : Prop :=
  ∃ w more, clause = binding ++ (w ++ more) ∧ IdentifierText binding ∧ Blanks w ∧ ClauseMore more

/-- A clause without a default name that can be told. -/
def FreeClause (clause : List Char) : Prop := ∀ c ∈ clause, c ≠ ';' ∧ isQuote c = false

instance (clause : List Char) : Decidable (FreeClause clause) := List.decidableBAll _ clause

/-- An import by its clause and its specifier. -/
def ImportText (clause source cs : List Char) : Prop :=
  ∃ w₁ w₂ w₃ q q', cs = "import".toList ++ (w₁ ++ (clause ++ (w₂ ++ ("from".toList ++
      (w₃ ++ (q :: (source ++ [q']))))))) ∧
    (w₁ ≠ [] ∧ Blanks w₁) ∧ (w₂ ≠ [] ∧ Blanks w₂) ∧ (w₃ ≠ [] ∧ Blanks w₃) ∧
    isQuote q = true ∧ SpecifierText source ∧ isQuote q' = true

/-- An import starts with a letter and ends with a quotation mark. -/
theorem tight_importText (clause source : List Char) : Tight (ImportText clause source) where
  first := by
    rintro x ⟨w₁, w₂, w₃, q, q', rfl, -⟩
    exact ⟨'i', _, rfl, by decide⟩
  last := by
    rintro x ⟨w₁, w₂, w₃, q, q', rfl, -, -, -, -, -, hq'⟩
    refine ⟨"import".toList ++ (w₁ ++ (clause ++ (w₂ ++ ("from".toList ++
      (w₃ ++ (q :: source)))))), q', by simp, isBlank_of_isQuote hq'⟩

/-! ### The pattern of import lines in two parts -/

/-- The pattern of a clause with a default binding. -/
def boundClause : Node :=
  concat [group 1 Script.identifier, blanks,
    opt (concat [char (.single ','), blanks, lazyStar (char (.noneOf [';']))])]

/-- The pattern of a clause without one. -/
def freeClause : Node := lazyStar (char (.noneOf [';', '"', '\'']))

/-- The pattern of what stands before the blanks in front of a clause. -/
def importHead : List Node := [blanks] ++ letters "import"

/-- The pattern of what stands behind a clause. -/
def importTail : List Node :=
  [someBlanks] ++ (letters "from" ++ ([someBlanks, Analysis.quotedSpecifier 2] ++ lineEnd))

theorem importLine_eq :
    importLine =
      concat (importHead ++ (someBlanks :: alt boundClause freeClause :: importTail)) := by
  simp only [importLine, importHead, importTail, boundClause, freeClause, List.append_assoc,
    List.cons_append, List.nil_append]

/-- The pattern of import lines with this pattern in place of the clause. -/
def importOf (clause : Node) : Node := concat (importHead ++ (someBlanks :: clause :: importTail))

variable {s s' : State}

private theorem mem_ends_importHead : s' ∈ (concat importHead).ends s ↔
    ∃ w rest, s.rest = w ++ ("import".toList ++ rest) ∧ Blanks w ∧
      s' = s.after (w ++ "import".toList) rest [] := by
  rw [importHead, mem_ends_concat_append]
  simp only [mem_ends_concat_cons, mem_ends_concat_nil, mem_ends_blanks, mem_ends_letters]
  constructor
  · rintro ⟨_, ⟨_, ⟨w, r, hs, hw, rfl⟩, rfl⟩, rest, hr, rfl⟩
    rw [State.rest_after] at hr
    exact ⟨w, rest, by rw [hs, hr], hw, by simp⟩
  · rintro ⟨w, rest, hs, hw, rfl⟩
    exact ⟨_, ⟨_, ⟨w, _, hs, hw, rfl⟩, rfl⟩, rest, rfl, by simp⟩

private theorem mem_ends_importTail : (s' ∈ (concat importTail).ends s ∧ s'.rest = []) ↔
    ∃ w₂ w₃ q source q' t, s.rest = w₂ ++ ("from".toList ++ (w₃ ++ (q :: (source ++ q' :: t)))) ∧
      (w₂ ≠ [] ∧ Blanks w₂) ∧ (w₃ ≠ [] ∧ Blanks w₃) ∧
      isQuote q = true ∧ SpecifierText source ∧ isQuote q' = true ∧ LineEnd t ∧
      s' = s.after s.rest [] [(2, ⟨source ++ q' :: t, source.length⟩)] := by
  rw [importTail]
  simp only [mem_ends_concat_append, mem_ends_concat_cons, mem_ends_concat_nil,
    mem_ends_someBlanks, mem_ends_letters, mem_ends_quotedSpecifier]
  constructor
  · rintro ⟨⟨_, ⟨_, ⟨w₂, r₂, hs, hne₂, hw₂, rfl⟩, rfl⟩, _, ⟨r, hr₂, rfl⟩, _,
      ⟨_, ⟨w₃, r₃, hr, hne₃, hw₃, rfl⟩, _, ⟨q, source, q', t, hr₃, hq, hsource, hq', rfl⟩, rfl⟩,
      hend⟩, hnil⟩
    obtain ⟨ht, rfl⟩ := mem_ends_lineEnd.mp ⟨hend, hnil⟩
    simp only [State.rest_after] at hr₂ hr hr₃ ht
    subst hr₂ hr hr₃
    exact ⟨w₂, w₃, q, source, q', t, hs, ⟨hne₂, hw₂⟩, ⟨hne₃, hw₃⟩, hq, hsource, hq', ht,
      by simp [hs]⟩
  · rintro ⟨w₂, w₃, q, source, q', t, hs, ⟨hne₂, hw₂⟩, ⟨hne₃, hw₃⟩, hq, hsource, hq', ht, rfl⟩
    refine ⟨⟨_, ⟨_, ⟨w₂, _, hs, hne₂, hw₂, rfl⟩, rfl⟩, _, ⟨_, rfl, rfl⟩, _,
      ⟨_, ⟨w₃, _, rfl, hne₃, hw₃, rfl⟩, _, ⟨q, source, q', t, rfl, hq, hsource, hq', rfl⟩, rfl⟩,
      (mem_ends_lineEnd.mpr ⟨?_, ?_⟩).1⟩, rfl⟩
    · exact ht
    · simp [hs]

private theorem mem_ends_boundClause : s' ∈ boundClause.ends s ↔
    ∃ binding clause rest, s.rest = clause ++ rest ∧ BoundClause binding clause ∧
      ∃ p, s.rest = binding ++ p ∧
        s' = s.after clause rest [(1, ⟨binding ++ p, binding.length⟩)] := by
  simp only [boundClause, mem_ends_concat_cons, mem_ends_concat_nil, mem_ends_group,
    mem_ends_identifier, mem_ends_opt, mem_ends_char, mem_ends_blanks, mem_ends_lazyStar,
    contains_single, contains_noneOf]
  constructor
  · rintro ⟨_, ⟨_, ⟨b, r, hs, hb, rfl⟩, rfl⟩, _, ⟨w, r', hr, hw, rfl⟩, _, hmore, rfl⟩
    rw [State.capture_after] at hr hmore
    rw [State.rest_after] at hr
    subst hr
    rcases hmore with ⟨_, ⟨c, r₁, hr₁, rfl, rfl⟩, _, ⟨u, r₂, hr₂, hu, rfl⟩, _,
      ⟨v, rest, hr₃, hv, rfl⟩, rfl⟩ | rfl
    · simp only [State.rest_after] at hr₁ hr₂ hr₃
      subst hr₁ hr₂ hr₃
      refine ⟨b, b ++ (w ++ ',' :: (u ++ v)), rest, by simp [hs], ⟨w, ',' :: (u ++ v), rfl, hb, hw,
        .inr ⟨u ++ v, rfl, ?_⟩⟩, _, hs, by simp [hs]⟩
      intro c hc
      rcases List.mem_append.mp hc with hc | hc
      · rintro rfl
        exact absurd (hu _ hc) (by decide)
      · simpa using hv c hc
    · exact ⟨b, b ++ w, r', by simp [hs], ⟨w, [], by simp, hb, hw, .inl rfl⟩, _, hs, by simp [hs]⟩
  · rintro ⟨b, _, rest, hs, ⟨w, more, rfl, hb, hw, hmore⟩, p, hp, rfl⟩
    have hp' : p = w ++ (more ++ rest) := by
      rw [hs, List.append_assoc, List.append_assoc] at hp
      exact (List.append_cancel_left hp).symm
    subst hp'
    refine ⟨_, ⟨_, ⟨b, _, hp, hb, rfl⟩, rfl⟩, _, ⟨w, more ++ rest, rfl, hw, rfl⟩, ?_⟩
    rw [State.capture_after, hp]
    rcases hmore with rfl | ⟨u, rfl, hu⟩
    · exact ⟨_, .inr rfl, by simp⟩
    · refine ⟨_, .inl ⟨_, ⟨',', u ++ rest, rfl, rfl, rfl⟩, _, ⟨[], u ++ rest, rfl, blanks_nil, rfl⟩,
        _, ⟨u, rest, rfl, ?_, rfl⟩, rfl⟩, by simp⟩
      intro c hc
      simpa using hu c hc

private theorem mem_ends_freeClause : s' ∈ freeClause.ends s ↔
    ∃ clause rest, s.rest = clause ++ rest ∧ FreeClause clause ∧ s' = s.after clause rest [] := by
  have hfree (c : Char) : (CharSet.noneOf [';', '"', '\'']).contains c = true ↔
      c ≠ ';' ∧ isQuote c = false := by
    rw [contains_noneOf]
    simp [isQuote]
  simp only [freeClause, mem_ends_lazyStar, hfree, FreeClause]

/-- An import line ends with its specifier kept before what its clause kept. -/
private theorem exists_of_mem_ends_importOf {clauseNode : Node} {q : List Char →
    List (Nat × Span) → Prop} (hnode : ∀ t u : State, u ∈ clauseNode.ends t →
      ∃ clause rest found, t.rest = clause ++ rest ∧ q clause found ∧ u = t.after clause rest found)
    {line : List Char} (h : s' ∈ (importOf clauseNode).ends (.start line)) (hnil : s'.rest = []) :
    ∃ clause source p found, q clause found ∧ OnLine (ImportText clause source) line ∧
      s'.captures = (2, ⟨source ++ p, source.length⟩) :: found := by
  rw [importOf, mem_ends_concat_append] at h
  simp only [mem_ends_concat_cons, mem_ends_importHead, mem_ends_someBlanks] at h
  obtain ⟨_, ⟨w, r, hline, hw, rfl⟩, _, ⟨w₁, r₁, hr, hne₁, hw₁, rfl⟩, u, hu, htail⟩ := h
  obtain ⟨clause, rest, found, hr₁, hq, rfl⟩ := hnode _ u hu
  obtain ⟨w₂, w₃, q, source, q', t, hrest, hw₂, hw₃, hmark, hsource, hmark', ht, rfl⟩ :=
    mem_ends_importTail.mp ⟨htail, hnil⟩
  simp only [State.rest_after] at hr hr₁ hrest
  subst hr hr₁ hrest
  refine ⟨clause, source, q' :: t, found, hq, ⟨w, _, t, ?_, hw, ⟨w₁, w₂, w₃, q, q', rfl,
    ⟨hne₁, hw₁⟩, hw₂, hw₃, hmark, hsource, hmark'⟩, ht⟩, ?_⟩
  · change line = _ at hline
    rw [hline]
    simp
  · simp [State.start]

/-- The text of an import line is read to its end. -/
private theorem exists_mem_ends_importOf (clauseNode : Node) {clause source line : List Char}
    (hnode : ∀ (t : State) (rest : List Char), t.rest = clause ++ rest →
      ∃ found, t.after clause rest found ∈ clauseNode.ends t)
    (h : OnLine (ImportText clause source) line) :
    ∃ s' ∈ (importOf clauseNode).ends (.start line), s'.rest = [] := by
  obtain ⟨w, _, t, rfl, hw, ⟨w₁, w₂, w₃, q, q', rfl, ⟨hne₁, hw₁⟩, hw₂, hw₃, hmark, hsource,
    hmark'⟩, ht⟩ := h
  let rest := w₂ ++ ("from".toList ++ (w₃ ++ (q :: (source ++ q' :: t))))
  have hline : w ++ ("import".toList ++ (w₁ ++ (clause ++ (w₂ ++ ("from".toList ++
      (w₃ ++ q :: (source ++ [q']))))))) ++ t =
      w ++ ("import".toList ++ (w₁ ++ (clause ++ rest))) := by simp [rest]
  rw [← List.append_assoc, hline, importOf]
  obtain ⟨s₁, h₁, hs₁⟩ : ∃ s₁ ∈ (concat importHead).ends (.start _),
      s₁.rest = w₁ ++ (clause ++ rest) := ⟨_, mem_ends_importHead.mpr ⟨w, _, rfl, hw, rfl⟩, rfl⟩
  obtain ⟨s₂, h₂, hs₂⟩ : ∃ s₂ ∈ someBlanks.ends s₁, s₂.rest = clause ++ rest :=
    ⟨_, mem_ends_someBlanks.mpr ⟨w₁, _, hs₁, hne₁, hw₁, rfl⟩, rfl⟩
  obtain ⟨found, h₃⟩ := hnode s₂ rest hs₂
  obtain ⟨h₄, hnil⟩ := mem_ends_importTail.mpr ⟨w₂, w₃, q, source, q', t,
    (State.rest_after s₂ clause rest found), hw₂, hw₃, hmark, hsource, hmark', ht, rfl⟩
  exact ⟨_, (mem_ends_concat_append _ _).mpr ⟨s₁, h₁, (mem_ends_concat_cons _ _).mpr
    ⟨s₂, h₂, (mem_ends_concat_cons _ _).mpr ⟨_, h₃, h₄⟩⟩⟩, hnil⟩

/-! ### Binding and specifier are determined -/

/-- The import on a line: its specifier is determined, and so is what stands in front of it. -/
private theorem before_source_unique {clause clause' source source' line : List Char}
    (h : OnLine (ImportText clause source) line)
    (h' : OnLine (ImportText clause' source') line) :
    source = source' ∧ ∃ w₁ w₂ v₁ v₂, w₁ ++ (clause ++ w₂) = v₁ ++ (clause' ++ v₂) ∧
      Blanks w₁ ∧ Blanks w₂ ∧ Blanks v₁ ∧ Blanks v₂ := by
  obtain ⟨w, _, t, hline, hw, ⟨w₁, w₂, w₃, q, q', rfl, hw₁, hw₂, hw₃, hq, hsource, hq'⟩, ht⟩ := h
  obtain ⟨v, _, u, hline', hv, ⟨v₁, v₂, v₃, r, r', rfl, hv₁, hv₂, hv₃, hr, hsource', hr'⟩, hu⟩ := h'
  -- the specifier stands between the last two quotation marks
  have hboth : (w ++ ("import".toList ++ (w₁ ++ (clause ++ (w₂ ++ ("from".toList ++
      (w₃ ++ q :: source))))))) ++ q' :: t =
      (v ++ ("import".toList ++ (v₁ ++ (clause' ++ (v₂ ++ ("from".toList ++
        (v₃ ++ r :: source'))))))) ++ r' :: u := by
    simpa using hline.symm.trans hline'
  obtain ⟨hstart, -⟩ := lastQuote_inj hq' hr' ht.isQuote_eq_false hu.isQuote_eq_false hboth
  simp only [← List.append_assoc] at hstart
  obtain ⟨hbefore, heq⟩ := lastQuote_inj hq hr hsource.2 hsource'.2 hstart
  refine ⟨heq, w₁, w₂, v₁, v₂, ?_, hw₁.2, hw₂.2, hv₁.2, hv₂.2⟩
  -- from the second word on backwards, the blanks are the same ones
  have hlast (x : List Char) : (x ++ "from".toList).getLast?.all (!isBlank ·) = true := by
    have hm : "from".toList.getLast? = some 'm' ∧ isBlank 'm' = false := by decide
    simp [List.getLast?_append, hm]
  obtain ⟨hfront, -⟩ := append_inj_of_stop_left hw₃.2 hv₃.2 (hlast _) (hlast _) hbefore
  have hclauses := List.append_cancel_right hfront
  simp only [List.append_assoc] at hclauses
  have hfirst : isBlank 'i' = false := by decide
  obtain ⟨-, hbehind⟩ := append_inj_of_stop hw hv (by simp [hfirst]) (by simp [hfirst]) hclauses
  exact List.append_cancel_left hbehind

/-- A line and the specifier of the import on it. -/
theorem source_unique {clause clause' source source' line : List Char}
    (h : OnLine (ImportText clause source) line)
    (h' : OnLine (ImportText clause' source') line) : source = source' :=
  (before_source_unique h h').1

/-- A line and the clause of the import on it, up to blanks around the clause. -/
theorem trimChars_clause_unique {clause clause' source source' line : List Char}
    (h : OnLine (ImportText clause source) line)
    (h' : OnLine (ImportText clause' source') line) : trimChars clause = trimChars clause' := by
  obtain ⟨-, w₁, w₂, v₁, v₂, heq, hw₁, hw₂, hv₁, hv₂⟩ := before_source_unique h h'
  have hpad : Padded clause (w₁ ++ (clause ++ w₂)) := ⟨w₁, w₂, hw₁, hw₂, rfl⟩
  have hpad' : Padded clause' (w₁ ++ (clause ++ w₂)) := ⟨v₁, v₂, hv₁, hv₂, heq⟩
  rw [← hpad.trimChars_eq, hpad'.trimChars_eq]

/-- Behind the word for an import and blanks, a line goes on with the clause and a blank. -/
theorem exists_behind_import {clause source line : List Char}
    (h : OnLine (ImportText clause source) line) :
    ∃ w w₁ y, line = w ++ ("import".toList ++ (w₁ ++ (clause ++ y))) ∧ Blanks w ∧ Blanks w₁ ∧
      y.head?.any isBlank = true := by
  obtain ⟨w, _, t, rfl, hw, ⟨w₁, w₂, w₃, q, q', rfl, hw₁, ⟨hne₂, hw₂⟩, -⟩, -⟩ := h
  obtain ⟨c, v, rfl⟩ := List.exists_cons_of_ne_nil hne₂
  have hc : isBlank c = true := hw₂ c List.mem_cons_self
  exact ⟨w, w₁, c :: (v ++ ("from".toList ++ (w₃ ++ (q :: (source ++ [q']))))) ++ t, by simp, hw,
    hw₁.2, by simp [hc]⟩

/-- Behind the word for an import and blanks, a line goes on in one way only. -/
theorem eq_behind_import {w w' v v' x x' : List Char} (hw : Blanks w) (hw' : Blanks w')
    (hv : Blanks v) (hv' : Blanks v') (hx : x.head?.all (!isBlank ·) = true)
    (hx' : x'.head?.all (!isBlank ·) = true)
    (h : w ++ ("import".toList ++ (v ++ x)) = w' ++ ("import".toList ++ (v' ++ x'))) : x = x' := by
  have hi : isBlank 'i' = false := by decide
  obtain ⟨-, hrest⟩ := append_inj_of_stop hw hw' (by simp [hi]) (by simp [hi]) h
  exact (append_inj_of_stop hv hv' hx hx' (List.append_cancel_left hrest)).2

/-- An import with a default binding goes on with the binding, which ends where it can. -/
theorem exists_behind_import_bound {binding clause source line : List Char}
    (hclause : BoundClause binding clause) (h : OnLine (ImportText clause source) line) :
    ∃ w v y, line = w ++ ("import".toList ++ (v ++ (binding ++ y))) ∧ Blanks w ∧ Blanks v ∧
      IdentifierText binding ∧ y.head?.all (!isPart ·) = true := by
  obtain ⟨w, w₁, y, hline, hw, hw₁, hy⟩ := exists_behind_import h
  obtain ⟨v, more, rfl, hbinding, hv, hmore⟩ := hclause
  refine ⟨w, w₁, v ++ (more ++ y), by simp [hline], hw, hw₁, hbinding, ?_⟩
  cases v with
  | cons c v => simp [isPart_of_isBlank (hv c List.mem_cons_self)]
  | nil =>
    rcases hmore with rfl | ⟨u, rfl, -⟩
    · cases y with
      | nil => rfl
      | cons c y => simpa using isPart_of_isBlank (by simpa using hy)
    · have hcomma : isPart ',' = false := by decide +kernel
      simp [hcomma]

/-- A line and the default binding of the import on it. -/
private theorem binding_unique {binding binding' clause clause' source source' line : List Char}
    (hclause : BoundClause binding clause) (hclause' : BoundClause binding' clause')
    (h : OnLine (ImportText clause source) line)
    (h' : OnLine (ImportText clause' source') line) : binding = binding' := by
  obtain ⟨w, v, y, hline, hw, hv, hb, hy⟩ := exists_behind_import_bound hclause h
  obtain ⟨w', v', y', hline', hw', hv', hb', hy'⟩ := exists_behind_import_bound hclause' h'
  have hrest := eq_behind_import hw hw' hv hv' (hb.head?_append y) (hb'.head?_append y')
    (hline.symm.trans hline')
  exact (append_inj_of_stop (fun c hc ↦ hb.isPart hc) (fun c hc ↦ hb'.isPart hc) hy hy' hrest).1

/-! ### Which import a line is -/

/-- What a line imports: a default binding, if one can be told, and a specifier. -/
def Imports (line : List Char) : (binding : Option (List Char)) → (source : List Char) → Prop
  | some binding, source => ∃ clause, BoundClause binding clause ∧
      OnLine (ImportText clause source) line
  | none, source => (∃ clause, FreeClause clause ∧ OnLine (ImportText clause source) line) ∧
      ∀ binding clause source', BoundClause binding clause →
        ¬ OnLine (ImportText clause source') line

/-- A line imports one thing at most. -/
theorem Imports.unique {line source source' : List Char} {binding binding' : Option (List Char)}
    (h : Imports line binding source) (h' : Imports line binding' source') :
    binding = binding' ∧ source = source' := by
  match binding, binding', h, h' with
  | some b, some b', ⟨_, hclause, h⟩, ⟨_, hclause', h'⟩ =>
    exact ⟨congrArg some (binding_unique hclause hclause' h h'), source_unique h h'⟩
  | some b, none, ⟨_, hclause, h⟩, ⟨_, hnone⟩ => exact absurd h (hnone _ _ _ hclause)
  | none, some b', ⟨_, hnone⟩, ⟨_, hclause, h'⟩ => exact absurd h' (hnone _ _ _ hclause)
  | none, none, ⟨⟨_, _, h⟩, _⟩, ⟨⟨_, _, h'⟩, _⟩ => exact ⟨rfl, source_unique h h'⟩

/-- Blanks around a line do not change what it imports. -/
theorem imports_iff_of_padded {inner whole source : List Char} {binding : Option (List Char)}
    (hpad : Padded inner whole) : Imports whole binding source ↔ Imports inner binding source := by
  cases binding <;> simp only [Imports, onLine_iff_of_padded (tight_importText _ _) hpad]

private theorem find?_flatMap_const {α β : Type} {items : List α} {a : α} (f : α → List β)
    (p : β → Bool) (h : ∀ x ∈ items, x = a) (hne : items ≠ []) :
    (items.flatMap f).find? p = (f a).find? p := by
  induction items with
  | nil => exact absurd rfl hne
  | cons x items ih =>
    rw [List.flatMap_cons, List.find?_append, h x List.mem_cons_self]
    cases items with
    | nil => simp
    | cons y items =>
      rw [ih (fun z hz ↦ h z (List.mem_cons_of_mem _ hz)) (by simp)]
      cases (f a).find? p <;> rfl

/-- A clause with a default binding is preferred to any other reading of the clause. -/
private theorem find?_ends_importLine (line : List Char) (p : State → Bool) :
    (importLine.ends (.start line)).find? p =
      (((importOf boundClause).ends (.start line)).find? p).or
        (((importOf freeClause).ends (.start line)).find? p) := by
  have hfirst (t : State) (ht : t.rest.head?.any (CharSet.ofClass .blank).contains = true) :
      boundClause.ends t = [] := by
    rw [List.eq_nil_iff_forall_not_mem]
    intro u hu
    obtain ⟨b, clause, rest, hs, ⟨w, more, rfl, ⟨c, v, rfl, hc, -⟩, -⟩, -⟩ :=
      mem_ends_boundClause.mp hu
    have hblank : isBlank c = true := by
      rw [hs] at ht
      simpa [contains_blank] using ht
    rw [isBlank_of_isStart hc] at hblank
    exact Bool.false_ne_true hblank
  -- all ways to read the head end at one place
  have hsame {t u : State} (ht : t ∈ (concat importHead).ends (.start line))
      (hu : u ∈ (concat importHead).ends (.start line)) : t = u := by
    obtain ⟨w, r, hline, hw, rfl⟩ := mem_ends_importHead.mp ht
    obtain ⟨w', r', hline', hw', rfl⟩ := mem_ends_importHead.mp hu
    have hi : isBlank 'i' = false := by decide
    obtain ⟨rfl, hrest⟩ := append_inj_of_stop hw hw' (by simp [hi]) (by simp [hi])
      (hline.symm.trans hline')
    rw [List.append_cancel_left hrest]
  rw [importLine_eq, importOf, importOf, ends_concat_append, ends_concat_append,
    ends_concat_append]
  generalize (concat importHead).ends (.start line) = heads at hsame
  cases heads with
  | nil => rfl
  | cons t heads =>
    have hconst (x : State) (hx : x ∈ t :: heads) : x = t := hsame hx List.mem_cons_self
    rw [find?_flatMap_const _ p hconst (by simp), find?_flatMap_const _ p hconst (by simp),
      find?_flatMap_const _ p hconst (by simp), ← List.find?_append]
    exact congrArg (List.find? p) (ends_plus_alt _ boundClause freeClause (concat importTail)
      hfirst t)

/-- A line read by the form with a bound clause imports the binding that is kept. -/
private theorem imports_of_mem_ends_bound {line : List Char}
    (h : s ∈ (importOf boundClause).ends (.start line)) (hnil : s.rest = []) :
    ∃ binding source, Imports line (some binding) source ∧
      s.group? 1 = some (String.ofList binding) ∧ s.group? 2 = some (String.ofList source) := by
  obtain ⟨clause, source, p, found, ⟨binding, p', hclause, rfl⟩, hline, hfound⟩ :=
    exists_of_mem_ends_importOf (q := fun clause found ↦ ∃ binding p',
      BoundClause binding clause ∧ found = [(1, ⟨binding ++ p', binding.length⟩)])
      (fun t u hu ↦ by
        obtain ⟨binding, clause, rest, ht, hclause, p', -, rfl⟩ := mem_ends_boundClause.mp hu
        exact ⟨clause, rest, _, ht, ⟨binding, p', hclause, rfl⟩, rfl⟩) h hnil
  refine ⟨binding, source, ⟨clause, hclause, hline⟩, ?_, ?_⟩
  · simp [State.group?, hfound, List.lookup_cons, Span.text_append]
  · simp [State.group?, hfound, Span.text_append]

/-- The form with a bound clause reads every line with a default binding. -/
private theorem exists_mem_ends_bound {line binding clause source : List Char}
    (hclause : BoundClause binding clause) (hline : OnLine (ImportText clause source) line) :
    ∃ s ∈ (importOf boundClause).ends (.start line), s.rest = [] := by
  refine exists_mem_ends_importOf _ (fun t rest ht ↦ ?_) hline
  have hstart : ∃ p, t.rest = binding ++ p := by
    obtain ⟨w, more, rfl, -⟩ := hclause
    exact ⟨w ++ more ++ rest, by simp [ht]⟩
  obtain ⟨p, hp⟩ := hstart
  exact ⟨_, mem_ends_boundClause.mpr ⟨binding, clause, rest, ht, hclause, p, hp, rfl⟩⟩

/-- The form of import lines finds what a line imports. -/
theorem imports_of_matchLine? {line : String} {m : Pattern.Match}
    (h : matchLine? importLine line = some m) :
    ∃ binding source, Imports line.toList binding source ∧
      m.group? 1 = binding.map String.ofList ∧ m.group? 2 = some (String.ofList source) := by
  rw [matchLine?, matchWhole?_eq, find?_ends_importLine] at h
  obtain ⟨s, hs, rfl⟩ := Option.map_eq_some_iff.mp h
  rcases Option.or_eq_some_iff.mp hs with hs | ⟨hnone, hs⟩
  · obtain ⟨binding, source, himports, h₁, h₂⟩ := imports_of_mem_ends_bound
      (List.mem_of_find?_eq_some hs) (List.isEmpty_iff.mp (List.find?_some hs :))
    exact ⟨some binding, source, himports, h₁, h₂⟩
  · obtain ⟨clause, source, p, found, ⟨hclause, rfl⟩, hline, hfound⟩ :=
      exists_of_mem_ends_importOf (q := fun clause found ↦ FreeClause clause ∧ found = [])
        (fun t u hu ↦ by
          obtain ⟨clause, rest, ht, hclause, rfl⟩ := mem_ends_freeClause.mp hu
          exact ⟨clause, rest, _, ht, ⟨hclause, rfl⟩, rfl⟩)
        (List.mem_of_find?_eq_some hs) (List.isEmpty_iff.mp (List.find?_some hs :))
    refine ⟨none, source, ⟨⟨clause, hclause, hline⟩, fun b clause' source' hbound hline' ↦ ?_⟩,
      ?_, ?_⟩
    · obtain ⟨s', hs', hnil⟩ := exists_mem_ends_bound hbound hline'
      exact List.find?_eq_none.mp hnone s' hs' (by simp [hnil])
    · simp [Match.group?, State.group?, hfound, List.lookup_cons]
    · simp [Match.group?, State.group?, hfound, Span.text_append]

/-- The form of import lines fits every line that imports something. -/
theorem isSome_matchLine?_of_imports {line : String} {binding : Option (List Char)}
    {source : List Char} (h : Imports line.toList binding source) :
    (matchLine? importLine line).isSome = true := by
  rw [matchLine?, matchWhole?_eq, find?_ends_importLine, Option.isSome_map, Option.isSome_or,
    Bool.or_eq_true, List.find?_isSome, List.find?_isSome]
  cases binding with
  | some binding =>
    obtain ⟨clause, hclause, hline⟩ := h
    obtain ⟨s, hs, hnil⟩ := exists_mem_ends_bound hclause hline
    exact .inl ⟨s, hs, by simp [hnil]⟩
  | none =>
    obtain ⟨⟨clause, hclause, hline⟩, -⟩ := h
    obtain ⟨s, hs, hnil⟩ := exists_mem_ends_importOf freeClause
      (fun t rest ht ↦ ⟨[], mem_ends_freeClause.mpr ⟨clause, rest, ht, hclause, rfl⟩⟩) hline
    exact .inr ⟨s, hs, by simp [hnil]⟩

/-- What a line imports decides whether the form of import lines fits and what it keeps. -/
theorem exists_match_iff_imports {line : String} {binding : Option (List Char)}
    {source : List Char} :
    (∃ m, matchLine? importLine line = some m ∧ m.group? 1 = binding.map String.ofList ∧
      m.group? 2 = some (String.ofList source)) ↔ Imports line.toList binding source := by
  constructor
  · rintro ⟨m, h, h₁, h₂⟩
    obtain ⟨binding', source', himports, h₁', h₂'⟩ := imports_of_matchLine? h
    have hsource : source' = source := by
      rw [h₂', Option.some.injEq, String.ofList_inj] at h₂
      exact h₂
    have hbinding : binding' = binding := by
      rw [h₁'] at h₁
      exact Option.map_injective (fun _ _ ↦ String.ofList_inj.mp) h₁
    rwa [hsource, hbinding] at himports
  · intro h
    obtain ⟨m, hm⟩ := Option.isSome_iff_exists.mp (isSome_matchLine?_of_imports h)
    obtain ⟨binding', source', himports, h₁, h₂⟩ := imports_of_matchLine? hm
    obtain ⟨rfl, rfl⟩ := himports.unique h
    exact ⟨m, hm, h₁, h₂⟩

/-- The two groups of a match are what the line imports. -/
theorem imports_of_groups {line source : String} {binding : Option String}
    (h : (matchLine? importLine line).map (fun found ↦ (found.group? 1, found.group? 2)) =
      some (binding, some source)) :
    Imports line.toList (binding.map String.toList) source.toList := by
  obtain ⟨found, hmatch, hgroups⟩ := Option.map_eq_some_iff.mp h
  obtain ⟨hbinding, hsource⟩ := Prod.mk.inj hgroups
  refine exists_match_iff_imports.mp ⟨found, hmatch, ?_, ?_⟩
  · cases binding <;> simp [hbinding]
  · rw [hsource, String.ofList_toList]

/-- A line that imports a default binding from a specifier. -/
def LineImports (line binding source : String) : Prop :=
  ∃ found, matchLine? importLine line = some found ∧ found.group? 1 = some binding ∧
    found.group? 2 = some source

theorem lineImports_iff {line binding source : String} :
    LineImports line binding source ↔
      Imports line.toList (some binding.toList) source.toList := by
  rw [← exists_match_iff_imports, Option.map_some, String.ofList_toList, String.ofList_toList]
  exact .rfl

/-- Lines with the same text but for blanks around it import the same. -/
theorem LineImports.of_trim_eq {line line' binding source : String} (h : trim line = trim line')
    (himports : LineImports line binding source) : LineImports line' binding source := by
  rw [lineImports_iff, imports_iff_of_padded (padded_trim _)] at himports ⊢
  rwa [← h]

end ModuleScript.Stimulus
