import ModuleScript.Proofs.Stimulus.StatementText

/-!
# Imports without bindings

Such a line has a specifier only, which stands between its last two quotation marks.
-/

namespace ModuleScript.Stimulus

open Pattern Pattern.Node Text

/-- An import without bindings, by its specifier. -/
def SideEffectText (source cs : List Char) : Prop :=
  ∃ w q q', cs = "import".toList ++ (w ++ (q :: (source ++ [q']))) ∧ (w ≠ [] ∧ Blanks w) ∧
    isQuote q = true ∧ SpecifierText source ∧ isQuote q' = true

/-- It starts with a letter and ends with a quotation mark. -/
theorem tight_sideEffectText (source : List Char) : Tight (SideEffectText source) where
  first := by
    rintro x ⟨w, q, q', rfl, -⟩
    exact ⟨'i', _, rfl, by decide⟩
  last := by
    rintro x ⟨w, q, q', rfl, -, -, -, hq'⟩
    exact ⟨"import".toList ++ (w ++ q :: source), q', by simp, isBlank_of_isQuote hq'⟩

/-- The line determines its specifier, which stands between the last two quotation marks. -/
private theorem sideEffect_unique {source source' line : List Char}
    (h : OnLine (SideEffectText source) line) (h' : OnLine (SideEffectText source') line) :
    source = source' := by
  obtain ⟨w, _, t, hline, -, ⟨v, q, q', rfl, -, hq, hsource, hq'⟩, ht⟩ := h
  obtain ⟨w', _, t', hline', -, ⟨v', r, r', rfl, -, hr, hsource', hr'⟩, ht'⟩ := h'
  have heq : (w ++ ("import".toList ++ (v ++ q :: source))) ++ q' :: t =
      (w' ++ ("import".toList ++ (v' ++ r :: source'))) ++ r' :: t' := by
    simpa using hline.symm.trans hline'
  obtain ⟨hstart, -⟩ := lastQuote_inj hq' hr' ht.isQuote_eq_false ht'.isQuote_eq_false heq
  have hopen : (w ++ ("import".toList ++ v)) ++ q :: source =
      (w' ++ ("import".toList ++ v')) ++ r :: source' := by simpa using hstart
  exact (lastQuote_inj hq hr hsource.2 hsource'.2 hopen).2

variable {line : String} {s : State}

private theorem of_mem_ends_sideEffectLine (h : s ∈ sideEffectLine.ends (.start line.toList))
    (hnil : s.rest = []) : ∃ source, OnLine (SideEffectText source) line.toList ∧
      s.group? 1 = some (String.ofList source) := by
  rw [sideEffectLine, List.append_assoc, List.append_assoc] at h
  simp only [mem_ends_concat_append, mem_ends_concat_cons, mem_ends_concat_nil, mem_ends_blanks,
    mem_ends_letters, mem_ends_someBlanks, mem_ends_quotedSpecifier] at h
  obtain ⟨_, ⟨_, ⟨w, r, hline, hw, rfl⟩, rfl⟩, _, ⟨r', hr, rfl⟩, _,
    ⟨_, ⟨v, r'', hr', hne, hv, rfl⟩, _, ⟨q, source, q', t, hr'', hq, hsource, hq', rfl⟩, rfl⟩,
    hend⟩ := h
  obtain ⟨ht, rfl⟩ := mem_ends_lineEnd.mp ⟨hend, hnil⟩
  clear hend
  simp only [State.rest_after, State.rest_start] at hline hr hr' hr'' ht
  subst hr hr' hr''
  refine ⟨source, ⟨w, _, t, ?_, hw, ⟨v, q, q', rfl, ⟨hne, hv⟩, hq, hsource, hq'⟩, ht⟩, ?_⟩
  · simpa using hline
  · simp [State.group?, Span.text_append]

private theorem exists_mem_ends_sideEffectLine {source : List Char}
    (h : OnLine (SideEffectText source) line.toList) :
    ∃ s ∈ sideEffectLine.ends (.start line.toList), s.rest = [] := by
  obtain ⟨w, _, t, hline, hw, ⟨v, q, q', rfl, ⟨hne, hv⟩, hq, hsource, hq'⟩, ht⟩ := h
  simp only [List.append_assoc, List.cons_append, List.nil_append] at hline
  rw [sideEffectLine, List.append_assoc, List.append_assoc]
  simp only [mem_ends_concat_append, mem_ends_concat_cons, mem_ends_concat_nil, mem_ends_blanks,
    mem_ends_letters, mem_ends_someBlanks, mem_ends_quotedSpecifier]
  exact ⟨_, ⟨_, ⟨_, ⟨w, _, hline, hw, rfl⟩, rfl⟩, _, ⟨_, rfl, rfl⟩, _,
    ⟨_, ⟨v, _, rfl, hne, hv, rfl⟩, _, ⟨q, source, q', t, rfl, hq, hsource, hq', rfl⟩, rfl⟩,
    (mem_ends_lineEnd.mpr ⟨ht, rfl⟩).1⟩, rfl⟩

/-- The form fits a line exactly if something is imported without bindings on it. -/
theorem isSome_sideEffectLine_iff :
    (matchLine? sideEffectLine line).isSome = true ↔
      ∃ source, OnLine (SideEffectText source) line.toList := by
  rw [isSome_matchLine?_iff]
  constructor
  · rintro ⟨s, hs, hnil⟩
    obtain ⟨source, hsource, -⟩ := of_mem_ends_sideEffectLine hs hnil
    exact ⟨source, hsource⟩
  · rintro ⟨source, hsource⟩
    exact exists_mem_ends_sideEffectLine hsource

/-- It keeps the specifier. -/
theorem group?_of_sideEffect {m : Pattern.Match} {source : List Char}
    (hm : matchLine? sideEffectLine line = some m)
    (h : OnLine (SideEffectText source) line.toList) :
    m.group? 1 = some (String.ofList source) := by
  obtain ⟨hstop, hnil⟩ := mem_ends_of_matchLine? hm
  obtain ⟨kept, hkept, hgroup⟩ := of_mem_ends_sideEffectLine hstop hnil
  rw [sideEffect_unique h hkept, ← hgroup, Pattern.Match.group?]

end ModuleScript.Stimulus
