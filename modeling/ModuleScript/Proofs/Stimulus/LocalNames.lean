import ModuleScript.Proofs.Stimulus.ControllerKeys
import ModuleScript.Proofs.Text.Words

/-!
# The names that an import binds

The clause of an import binds local names: one by default, one for the whole module behind a star,
or those of the items in braces, where an item may give its name anew. Blanks around the clause
make no difference, and the first sign of a clause decides which of the three it is.
-/

namespace ModuleScript.Stimulus

open Text Script

/-! ### Clauses -/

/-- The characters of a name: no blanks, no quotation marks and no signs of a clause. -/
def isNameChar (c : Char) : Bool := !isBlank c && !isQuote c && !",*\x7b\x7d".toList.contains c

/-- The text of a local name. -/
def LocalText (cs : List Char) : Prop := cs ≠ [] ∧ ∀ c ∈ cs, isNameChar c = true

instance (cs : List Char) : Decidable (LocalText cs) :=
  have : Decidable (∀ c ∈ cs, isNameChar c = true) := List.decidableBAll _ cs
  inferInstanceAs (Decidable (_ ∧ _))

/-- What may stand in front of a star or a brace: blanks, or a default name and a comma. -/
def Lead (cs : List Char) : Prop :=
  Blanks cs ∨ ∃ first w w', cs = first ++ (w ++ ',' :: w') ∧ LocalText first ∧ Blanks w ∧ Blanks w'

/-- An item in braces binds the name that it is, or the one that it gives behind another. -/
def ItemBinds (item name : String) : Prop :=
  words item = [name] ∨ ∃ given, given ≠ [] ∧ words item = given ++ ["as", name]

/-- The local names of a clause. -/
inductive ClauseBinds (name : String) : List Char → Prop
  | default {w more : List Char} (hname : LocalText name.toList) (hw : Blanks w)
      (hmore : more.head?.all (· == ',') = true) : ClauseBinds name (name.toList ++ (w ++ more))
  | star {front rest : List Char} (hfront : Lead front)
      (hrest : words (String.ofList rest) = ["as", name]) : ClauseBinds name (front ++ '*' :: rest)
  | braces {front items behind : List Char} (hfront : Lead front) (hclose : '\x7d' ∉ items)
      (hitem : ∃ item ∈ split (String.ofList items) ',', ItemBinds item name) :
      ClauseBinds name (front ++ '\x7b' :: (items ++ '\x7d' :: behind))

variable {name : String} {clause front p q x rest rest' : List Char} {c d : Char}

theorem isNameChar_of_isBlank (h : isBlank c = true) : isNameChar c = false := by
  simp [isNameChar, h]

/-- There are no blanks in a name. -/
theorem LocalText.isBlank_eq_false (h : LocalText x) (hc : c ∈ x) : isBlank c = false := by
  rw [Bool.eq_false_iff]
  intro hblank
  have hname := h.2 c hc
  rw [isNameChar_of_isBlank hblank] at hname
  exact Bool.false_ne_true hname

/-- A name does not go on with blanks. -/
private theorem head?_all_of_blanks (hq : Blanks q) : q.head?.all (!isNameChar ·) = true := by
  cases q with
  | nil => rfl
  | cons b q => simp [isNameChar_of_isBlank (hq b List.mem_cons_self)]

/-- Nor does it with what follows a default binding. -/
private theorem head?_all_of_default {w more : List Char} (hw : Blanks w)
    (hmore : more.head?.all (· == ',') = true) :
    (w ++ more).head?.all (!isNameChar ·) = true := by
  cases w with
  | cons b w => simp [isNameChar_of_isBlank (hw b List.mem_cons_self)]
  | nil =>
    cases more with
    | nil => rfl
    | cons c more =>
      obtain rfl : c = ',' := by simpa using hmore
      rfl

/-- No blank and no sign of a clause starts a name. -/
private theorem LocalText.append_ne (h : LocalText x) (hp : Blanks p) (hc : isNameChar c = false) :
    x ++ rest ≠ p ++ c :: rest' := by
  intro heq
  obtain ⟨d, y, rfl⟩ := List.exists_cons_of_ne_nil h.1
  have hd : isNameChar d = true := h.2 d List.mem_cons_self
  have hfirst : isNameChar d = false := by
    cases p with
    | nil => rwa [(List.cons.inj heq).1]
    | cons b p =>
      rw [(List.cons.inj heq).1]
      exact isNameChar_of_isBlank (hp b List.mem_cons_self)
  exact Bool.false_ne_true (hfirst.symm.trans hd)

/-- Where a clause starts with a sign, nothing but blanks stands in front of it. -/
private theorem Lead.eq_of_sign (h : Lead front) (hp : Blanks p) (hd : isBlank d = false)
    (hc : isNameChar c = false) (hblank : isBlank c = false)
    (heq : front ++ d :: rest = p ++ c :: rest') : d :: rest = c :: rest' := by
  rcases h with hfront | ⟨first, w, w', rfl, hfirst, -⟩
  · exact (append_inj_of_stop hfront hp (by simp [hd]) (by simp [hblank]) heq).2
  · rw [List.append_assoc] at heq
    exact absurd heq (hfirst.append_ne hp hc)

/-- The first sign of a clause that does not start with a name is a star or an opening brace. -/
theorem ClauseBinds.of_sign (h : ClauseBinds name (p ++ c :: rest)) (hp : Blanks p)
    (hc : isNameChar c = false) (hblank : isBlank c = false) :
    (c = '*' ∧ words (String.ofList rest) = ["as", name]) ∨
    (c = '\x7b' ∧ ∃ items behind, rest = items ++ '\x7d' :: behind ∧ '\x7d' ∉ items ∧
      ∃ item ∈ split (String.ofList items) ',', ItemBinds item name) := by
  generalize hclause : p ++ c :: rest = clause at h
  cases h with
  | default hname hw hmore => exact absurd hclause.symm (hname.append_ne hp hc)
  | star hfront hrest =>
    obtain ⟨rfl, rfl⟩ := List.cons.inj (hfront.eq_of_sign hp (by decide) hc hblank hclause.symm)
    exact .inl ⟨rfl, hrest⟩
  | braces hfront hclose hitem =>
    obtain ⟨rfl, rfl⟩ := List.cons.inj (hfront.eq_of_sign hp (by decide) hc hblank hclause.symm)
    exact .inr ⟨rfl, _, _, rfl, hclose, hitem⟩

/-- A clause that binds something is not blank. -/
theorem ClauseBinds.exists_first (h : ClauseBinds name clause) :
    ∃ p c rest, clause = p ++ c :: rest ∧ Blanks p ∧ isBlank c = false := by
  have hlocal {first : List Char} (hfirst : LocalText first) (more : List Char) :
      ∃ p c rest, first ++ more = p ++ c :: rest ∧ Blanks p ∧ isBlank c = false := by
    obtain ⟨c, y, rfl⟩ := List.exists_cons_of_ne_nil hfirst.1
    exact ⟨[], c, y ++ more, rfl, blanks_nil, hfirst.isBlank_eq_false List.mem_cons_self⟩
  have hlead {front : List Char} (hfront : Lead front) {c : Char} (hc : isBlank c = false)
      (rest : List Char) :
      ∃ p d rest', front ++ c :: rest = p ++ d :: rest' ∧ Blanks p ∧ isBlank d = false := by
    rcases hfront with hblank | ⟨first, w, w', rfl, hfirst, -⟩
    · exact ⟨_, _, _, rfl, hblank, hc⟩
    · rw [List.append_assoc]
      exact hlocal hfirst _
  cases h with
  | default hname hw hmore => exact hlocal hname _
  | star hfront hrest => exact hlead hfront (by decide) _
  | braces hfront hclose hitem => exact hlead hfront (by decide) _

/-- A clause that is a name with blanks around it binds that name only. -/
theorem ClauseBinds.eq_of_localText (h : ClauseBinds name (p ++ (x ++ q))) (hx : LocalText x)
    (hp : Blanks p) (hq : Blanks q) : name.toList = x := by
  have hsign {c : Char} (hc : isNameChar c = false) (hblank : isBlank c = false) :
      c ∉ p ++ (x ++ q) := by
    have hnone {w : List Char} (hw : Blanks w) : c ∉ w := fun hmem ↦
      Bool.false_ne_true (hblank.symm.trans (hw c hmem))
    have hname : c ∉ x := fun hmem ↦ Bool.false_ne_true (hc.symm.trans (hx.2 c hmem))
    simp [hnone hp, hnone hq, hname]
  generalize hclause : p ++ (x ++ q) = clause at h
  cases h with
  | @default w more hname hw hmore =>
    cases p with
    | cons b p =>
      have hb := isNameChar_of_isBlank (hp b List.mem_cons_self)
      exact absurd hclause.symm (hname.append_ne blanks_nil hb)
    | nil =>
      exact (append_inj_of_stop hname.2 hx.2 (head?_all_of_default hw hmore)
        (head?_all_of_blanks hq) hclause.symm).1
  | star hfront hrest =>
    have hmem : '*' ∉ p ++ (x ++ q) := hsign (by decide) (by decide)
    exact absurd (by simp [hclause]) hmem
  | braces hfront hclose hitem =>
    have hmem : '\x7b' ∉ p ++ (x ++ q) := hsign (by decide) (by decide)
    exact absurd (by simp [hclause]) hmem

/-! ### Statements -/

/-- A statement binds a name to something from a specifier. -/
def Binds (statement name source : String) : Prop :=
  ∃ clause, OnLine (ImportText clause source.toList) statement.toList ∧ ClauseBinds name clause

/-- Identifiers can be local names. -/
theorem localText_of_identifierText (h : IdentifierText x) : LocalText x := by
  have hsigns : ",*\x7b\x7d".toList.all (!isPart ·) = true := by decide +kernel
  refine ⟨?_, fun c hc ↦ ?_⟩
  · obtain ⟨c, w, rfl, -⟩ := h
    simp
  · have hpart : isPart c = true := h.isPart hc
    have hblank : isBlank c = false := by
      rw [Bool.eq_false_iff]
      intro hblank
      rw [isPart_of_isBlank hblank] at hpart
      exact Bool.false_ne_true hpart
    have hsign : ",*\x7b\x7d".toList.contains c = false := by
      rw [Bool.eq_false_iff, ne_eq, List.contains_iff_mem]
      intro hmem
      simpa [hpart] using List.all_eq_true.mp hsigns c hmem
    rw [isNameChar, hblank, isQuote_of_isPart (.inl hpart), hsign]
    rfl

/-- Nothing is trimmed from a name. -/
theorem LocalText.trimChars_eq (h : LocalText x) : trimChars x = x := by
  refine trimChars_eq_self ?_ ?_ <;> rw [Option.all_eq_true]
  · intro c hc
    simp [h.isBlank_eq_false (List.mem_of_mem_head? hc)]
  · intro c hc
    simp [h.isBlank_eq_false (List.mem_of_mem_getLast? hc)]

/-- Nor from an identifier without a line feed. -/
theorem trim_eq_of_isIdentifier {given : String} (h : isIdentifier given = true)
    (hfeed : '\n' ∉ given.toList) : trim given = given := by
  have htext := localText_of_identifierText (identifierText_of_isIdentifier h hfeed)
  rw [trim, htext.trimChars_eq, String.ofList_toList]

/-- The default import of an accepted name binds that name, but for a line feed at its end. -/
theorem binds_controllerImport_iff {given source : String} (h : isIdentifier given = true) :
    Binds (controllerImport given) name source ↔ name = trim given ∧ source = given := by
  obtain ⟨w, t, hgiven, hw, ht⟩ := (isIdentifier_iff given).mp h
  have hblank : Blanks t := by
    rcases ht with rfl | rfl <;> decide
  have hlocal := localText_of_identifierText hw
  have htrim : trim given = String.ofList w := by
    have hpad : Padded w given.toList := ⟨[], t, blanks_nil, hblank, by simpa using hgiven⟩
    rw [trim, hpad.trimChars_eq, hlocal.trimChars_eq]
  have hsource : SpecifierText given.toList :=
    ⟨by simp [hgiven, hlocal.1], fun c hc ↦
      isQuote_of_isPart (isPart_or_lineFeed_of_isIdentifier h hc)⟩
  have hread : OnLine (ImportText w given.toList) (controllerImport given).toList := by
    refine ⟨[], _, [';'], ?_, blanks_nil, ⟨[' '], t ++ [' '], [' '], '"', '"', rfl,
      ⟨by simp, blanks_space⟩, ⟨by simp, blanks_append.mpr ⟨hblank, blanks_space⟩⟩,
      ⟨by simp, blanks_space⟩, rfl, hsource, rfl⟩, lineEnd_semicolon⟩
    simp [controllerImport, toString, hgiven]
  rw [htrim]
  constructor
  · rintro ⟨clause, hclause, hbinds⟩
    have hsame := trimChars_clause_unique hread hclause
    rw [hlocal.trimChars_eq] at hsame
    obtain ⟨p, q, hp, hq, heq⟩ := padded_trimChars clause
    rw [heq, ← hsame] at hbinds
    have hname := hbinds.eq_of_localText hlocal hp hq
    exact ⟨by rw [← hname, String.ofList_toList],
      String.toList_inj.mp (source_unique hclause hread)⟩
  · rintro ⟨rfl, rfl⟩
    have hbinds : ClauseBinds (String.ofList w) ((String.ofList w).toList ++ ([] ++ [])) :=
      .default (by rwa [String.toList_ofList]) blanks_nil rfl
    rw [String.toList_ofList, List.append_nil, List.append_nil] at hbinds
    exact ⟨w, hread, hbinds⟩

/-- A statement whose first word is followed by a quotation mark binds nothing. -/
theorem not_binds_of_quote {statement source : String} {rest : List Char}
    (h : statement.toList = "import ".toList ++ '"' :: rest) : ¬ Binds statement name source := by
  rintro ⟨clause, hline, hbinds⟩
  obtain ⟨p, c, more, rfl, hp, hc⟩ := hbinds.exists_first
  obtain ⟨w, w₁, y, htext, hw, hw₁, -⟩ := exists_behind_import hline
  have hquote : isBlank '"' = false := by decide
  have heq : '"' :: rest = c :: (more ++ y) := by
    refine eq_behind_import blanks_nil hw blanks_space (blanks_append.mpr ⟨hw₁, hp⟩)
      (by simp [hquote]) (by simp [hc]) ?_
    rw [h] at htext
    simpa using htext
  rw [← (List.cons.inj heq).1] at hbinds
  rcases hbinds.of_sign hp (by decide) hquote with ⟨hstar, -⟩ | ⟨hbrace, -⟩
  · exact absurd hstar (by decide)
  · exact absurd hbrace (by decide)

end ModuleScript.Stimulus
