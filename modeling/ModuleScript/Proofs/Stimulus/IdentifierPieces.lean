import ModuleScript.Proofs.Stimulus.ControllerKeys
import ModuleScript.Proofs.Text.Padding

/-!
# What keys tell of names

The key of an ASCII name is cut at its hyphens into pieces that start with a small letter each, and
the pieces spell the name without the word for a controller, the first letter in lower case. So two
ASCII names have one key exactly if they agree in that. Other names of one key still agree up to
case.
-/

namespace ModuleScript.Stimulus

open Text Script

variable {name x y : String}

/-! ### Texts with hyphens before their capitals -/

/-- What a character of a name becomes in a key: a capital gets a hyphen in front. -/
def keyChars (c : Char) : List Char :=
  if isAsciiUpper c then ['-', lowerChar c] else [lowerChar c]

/-- An ASCII text is put in lower case with its hyphens character by character. -/
theorem lowerFrom_hyphenate {cs before : List Char} (h : Ascii cs) :
    lowerFrom before (hyphenate cs) = cs.flatMap keyChars := by
  have hyphenated : Ascii (hyphenate cs) := by
    intro d hd
    obtain ⟨c, hc, hform⟩ := List.mem_flatMap.mp hd
    have hmem : d = '-' ∨ d = c := by
      split at hform
      · simpa using hform
      · exact .inr (List.mem_singleton.mp hform)
    rcases hmem with rfl | rfl
    · decide
    · exact h d hc
  rw [lowerFrom_of_ascii hyphenated, hyphenate, List.map_flatMap]
  congr 1
  funext c
  rw [keyChars]
  split <;> rfl

/-- The first character in upper case. -/
def capitalizeChars : List Char → List Char
  | [] => []
  | c :: cs => c.toUpper :: cs

/-- The text with its first character in upper case. -/
def capitalize (s : String) : String := String.ofList (capitalizeChars s.toList)

/-- A piece of a key: it starts with a small letter. -/
def StartsSmall (piece : List Char) : Prop := piece.head?.any isAsciiLower = true

instance (piece : List Char) : Decidable (StartsSmall piece) := inferInstanceAs (Decidable (_ = _))

/-- Behind the first hyphen all pieces start with a small letter, and capitalized they spell the
text. -/
theorem exists_pieces {w : List Char} (hascii : Ascii w) (hhyphen : '-' ∉ w) :
    ∃ first pieces, cutAt '-' (w.flatMap keyChars) = first :: pieces ∧
      first ++ pieces.flatMap capitalizeChars = w ∧ ∀ piece ∈ pieces, StartsSmall piece := by
  induction w with
  | nil => exact ⟨[], [], rfl, rfl, by simp⟩
  | cons c w ih =>
    obtain ⟨hc, hw⟩ := List.forall_mem_cons.mp hascii
    rw [List.mem_cons, not_or] at hhyphen
    obtain ⟨first, pieces, hcut, hspell, hsmall⟩ := ih hw hhyphen.2
    rw [List.flatMap_cons, keyChars]
    by_cases hcapital : isAsciiUpper c = true
    · -- a capital closes a piece and starts the next one
      obtain ⟨hlower, hupper⟩ := lowerChar_of_isAsciiUpper hcapital
      have hne : lowerChar c ≠ '-' := fun heq ↦ absurd hlower (heq ▸ by decide)
      refine ⟨[], (lowerChar c :: first) :: pieces, ?_, ?_, ?_⟩
      · rw [if_pos hcapital, List.cons_append, cutAt_cons_self]
        exact congrArg _ (cutAt_cons_of_ne hne hcut)
      · simp only [List.flatMap_cons, capitalizeChars, hupper, List.nil_append, List.cons_append,
          hspell]
      · exact List.forall_mem_cons.mpr ⟨hlower, hsmall⟩
    · rw [Bool.not_eq_true] at hcapital
      rw [hcapital, lowerChar_of_ascii hc hcapital]
      refine ⟨c :: first, pieces, cutAt_cons_of_ne (Ne.symm hhyphen.1) hcut, ?_, hsmall⟩
      rw [List.cons_append, hspell]

/-- A text is told from its form in a key. -/
theorem eq_of_flatMap_keyChars_eq {v w : List Char} (hv : Ascii v) (hw : Ascii w)
    (hhv : '-' ∉ v) (hhw : '-' ∉ w) (h : v.flatMap keyChars = w.flatMap keyChars) : v = w := by
  obtain ⟨first, pieces, hcut, hspell, -⟩ := exists_pieces hv hhv
  obtain ⟨first', pieces', hcut', hspell', -⟩ := exists_pieces hw hhw
  rw [← h, hcut, List.cons.injEq] at hcut'
  rw [← hspell, ← hspell', hcut'.1, hcut'.2]

/-! ### Keys of ASCII names -/

/-- The name without the word for a controller, its first character in lower case. -/
def stem (name : String) : List Char :=
  match dropSuffix name.toList with
  | [] => []
  | c :: w => lowerChar c :: w

/-- Behind the first character, what is left of a name comes from it. -/
theorem mem_of_mem_tail_stem {c : Char} (h : c ∈ (stem name).tail) : c ∈ name.toList := by
  rw [stem] at h
  split at h
  next => exact absurd h List.not_mem_nil
  next hname => exact mem_of_mem_dropSuffix (hname ▸ List.mem_cons_of_mem _ h)

/-- The text with a hyphen before every capital but for the first character, in lower case but for
that as well. -/
def keyText : List Char → List Char
  | [] => []
  | c :: w => c :: w.flatMap keyChars

/-- A text is told from that form. -/
theorem eq_of_keyText_eq {v w : List Char} (hv : Ascii v.tail) (hw : Ascii w.tail)
    (hhv : '-' ∉ v.tail) (hhw : '-' ∉ w.tail) (h : keyText v = keyText w) : v = w := by
  cases v with
  | nil =>
    cases w with
    | nil => rfl
    | cons d w => exact absurd h (by simp [keyText])
  | cons c v =>
    cases w with
    | nil => exact absurd h (by simp [keyText])
    | cons d w =>
      rw [keyText, keyText, List.cons.injEq] at h
      obtain ⟨rfl, htail⟩ := h
      exact congrArg _ (eq_of_flatMap_keyChars_eq hv hw hhv hhw htail)

/-- The key of an ASCII name is made from its stem. -/
theorem toList_identifier (hascii : Ascii name.toList) (hhyphen : '-' ∉ name.toList) :
    (identifier name).toList = keyText (stem name) := by
  have hbare : Ascii (dropSuffix name.toList) := fun c hc ↦ hascii c (mem_of_mem_dropSuffix hc)
  rw [identifier, String.toList_ofList, lowerFrom_hyphenate hbare, stem]
  cases hname : dropSuffix name.toList with
  | nil => rfl
  | cons c w =>
    have hne : lowerChar c ≠ '-' := by
      intro heq
      rw [← eq_of_lowerChar_eq (by decide) heq] at hhyphen
      exact hhyphen (mem_of_mem_dropSuffix (hname ▸ List.mem_cons_self))
    rw [keyText, List.flatMap_cons, keyChars]
    split <;> simp [hne]

/-- Two ASCII names have one key exactly if they have one stem. -/
theorem identifier_eq_iff (hx : Ascii x.toList) (hy : Ascii y.toList) (hhx : '-' ∉ x.toList)
    (hhy : '-' ∉ y.toList) : identifier x = identifier y ↔ stem x = stem y := by
  rw [← String.toList_inj, toList_identifier hx hhx, toList_identifier hy hhy]
  constructor
  · exact eq_of_keyText_eq (fun c hc ↦ hx c (mem_of_mem_tail_stem hc))
      (fun c hc ↦ hy c (mem_of_mem_tail_stem hc)) (mt mem_of_mem_tail_stem hhx)
      (mt mem_of_mem_tail_stem hhy)
  · intro h
    rw [h]

/-! ### Keys of controllers -/

/-- The name of a controller is ASCII word characters, and possibly a line feed. -/
theorem isAsciiWord_or_lineFeed_of_isControllerName (h : isControllerName name = true) {d : Char}
    (hd : d ∈ name.toList) : isAsciiWord d = true ∨ d = '\n' := by
  obtain ⟨c, w, t, hname, hc, hw, ht⟩ := (isControllerName_iff name).mp h
  rw [hname, List.mem_cons, List.mem_append, List.mem_append] at hd
  rcases hd with rfl | hd | hd | hd
  · exact .inl (by simp [isAsciiWord, hc])
  · exact .inl (hw d hd)
  · exact .inl (List.all_eq_true.mp (by decide : "Controller".toList.all isAsciiWord = true) d hd)
  · rcases ht with rfl | rfl
    · exact absurd hd List.not_mem_nil
    · exact .inr (List.mem_singleton.mp hd)

/-- It is an ASCII text without hyphens. -/
theorem ascii_of_isControllerName (h : isControllerName name = true) :
    Ascii name.toList ∧ '-' ∉ name.toList := by
  refine ⟨fun d hd ↦ ?_, fun hd ↦ ?_⟩
  · rcases isAsciiWord_or_lineFeed_of_isControllerName h hd with hword | rfl
    · exact toNat_lt_of_isAsciiWord hword
    · decide
  · exact absurd (isAsciiWord_or_lineFeed_of_isControllerName h hd) (by decide)

/-- What is left of the name of a controller starts with a capital, and tells the name: the word
for a controller is left only before a line feed. -/
theorem dropSuffix_of_isControllerName (h : isControllerName name = true) :
    ∃ c w, dropSuffix name.toList = c :: w ∧ isAsciiUpper c = true ∧
      name.toList = if '\n' ∈ w then c :: w else c :: w ++ "Controller".toList := by
  obtain ⟨c, w, t, hname, hc, hw, rfl | rfl⟩ := (isControllerName_iff name).mp h
  · have hline : '\n' ∉ w := fun hmem ↦ absurd (hw _ hmem) (by decide)
    rw [List.append_nil, ← List.cons_append] at hname
    exact ⟨c, w, by rw [hname, dropSuffix_append], hc, by rw [hname, if_neg hline]⟩
  · refine ⟨c, w ++ ("Controller".toList ++ ['\n']), ?_, hc, by rw [hname, if_pos (by simp)]⟩
    have hlast : ¬ "Controller".toList.isSuffixOf name.toList = true := by
      rw [List.isSuffixOf_iff_suffix, hname, ← List.append_assoc, ← List.cons_append]
      rintro ⟨u, hu⟩
      have hfeed := congrArg List.getLast? hu
      rw [List.getLast?_concat] at hfeed
      exact absurd hfeed (by simp)
    rw [dropSuffix, if_neg hlast, hname]

/-- Different controllers under the form of a controller have different keys. -/
theorem eq_of_identifier_eq (hx : isControllerName x = true) (hy : isControllerName y = true)
    (h : identifier x = identifier y) : x = y := by
  obtain ⟨hax, hhx⟩ := ascii_of_isControllerName hx
  obtain ⟨hay, hhy⟩ := ascii_of_isControllerName hy
  have hstem := (identifier_eq_iff hax hay hhx hhy).mp h
  obtain ⟨c, v, hv, hc, hxlist⟩ := dropSuffix_of_isControllerName hx
  obtain ⟨d, w, hw, hd, hylist⟩ := dropSuffix_of_isControllerName hy
  rw [stem, hv, stem, hw, List.cons.injEq] at hstem
  obtain ⟨hletter, rfl⟩ := hstem
  have hcapital : c = d := by
    rw [← (lowerChar_of_isAsciiUpper hc).2, hletter, (lowerChar_of_isAsciiUpper hd).2]
  rw [← String.toList_inj, hxlist, hylist, hcapital]

/-- Cut at its hyphens, the key of a controller is pieces that start with small letters and spell
what is left of the name. -/
theorem cutAt_identifier (h : isControllerName name = true) :
    (cutAt '-' (identifier name).toList).flatMap capitalizeChars = dropSuffix name.toList ∧
      ∀ piece ∈ cutAt '-' (identifier name).toList, StartsSmall piece := by
  obtain ⟨hascii, hhyphen⟩ := ascii_of_isControllerName h
  obtain ⟨c, w, hname, hc, -⟩ := dropSuffix_of_isControllerName h
  obtain ⟨hlower, hupper⟩ := lowerChar_of_isAsciiUpper hc
  have hw {d : Char} (hd : d ∈ w) : d ∈ name.toList :=
    mem_of_mem_dropSuffix (hname ▸ List.mem_cons_of_mem c hd)
  obtain ⟨first, pieces, hcut, hspell, hsmall⟩ :=
    exists_pieces (fun d hd ↦ hascii d (hw hd)) (mt hw hhyphen)
  have hne : lowerChar c ≠ '-' := fun heq ↦ absurd hlower (heq ▸ by decide)
  rw [toList_identifier hascii hhyphen, stem, hname, keyText, cutAt_cons_of_ne hne hcut]
  refine ⟨?_, List.forall_mem_cons.mpr ⟨hlower, hsmall⟩⟩
  rw [List.flatMap_cons, capitalizeChars, hupper, List.cons_append, hspell]

/-! ### Keys without regard to case -/

/-- The text without hyphens. -/
def unhyphenated (cs : List Char) : List Char := cs.filter (· ≠ '-')

private theorem unhyphenated_dropWhile (cs : List Char) :
    unhyphenated (cs.dropWhile (· == '-')) = unhyphenated cs := by
  induction cs with
  | nil => rfl
  | cons c cs ih =>
    by_cases hc : c = '-'
    · subst hc
      exact ih
    · rw [List.dropWhile_cons_of_neg (by simpa using hc)]

private theorem unhyphenated_map_plainSigma (cs : List Char) :
    unhyphenated (cs.map plainSigma) = (unhyphenated cs).map plainSigma := by
  rw [unhyphenated, List.filter_map, unhyphenated]
  congr 2
  funext c
  have hhyphen : plainSigma c = '-' ↔ c = '-' := plainSigma_eq_iff (by decide)
  simp [hhyphen]

/-- Without its hyphens, a text with hyphens before its capitals is folded as the text is. -/
private theorem unhyphenated_foldCase {cs : List Char} (h : '-' ∉ cs) :
    unhyphenated (foldCase (hyphenate cs)) = foldCase cs := by
  rw [foldCase, hyphenate, List.flatMap_assoc, unhyphenated, List.filter_flatMap, foldCase]
  refine List.flatMap_congr fun c hc ↦ ?_
  have hform : (foldChar c).filter (· ≠ '-') = foldChar c := by
    refine List.filter_eq_self.mpr fun d hd ↦ decide_eq_true ?_
    rintro rfl
    exact h (eq_of_mem_foldChar (by decide) hd ▸ hc)
  split
  · -- the hyphen before a capital goes
    have hhyphen : (foldChar '-').filter (· ≠ '-') = [] := by decide
    rw [List.flatMap_cons, List.flatMap_singleton, List.filter_append, hhyphen, hform,
      List.nil_append]
  · rw [List.flatMap_singleton, hform]

/-- Two names of one key agree up to case but for the word for a controller. -/
theorem foldCase_eq_of_identifier_eq (hhx : '-' ∉ x.toList) (hhy : '-' ∉ y.toList)
    (h : identifier x = identifier y) :
    foldCase (dropSuffix x.toList) = foldCase (dropSuffix y.toList) := by
  have folded {name : String} (hhyphen : '-' ∉ name.toList) :
      unhyphenated ((identifier name).toList.map plainSigma) =
        foldCase (dropSuffix name.toList) := by
    rw [identifier, String.toList_ofList, unhyphenated_map_plainSigma, unhyphenated_dropWhile,
      ← unhyphenated_map_plainSigma, map_plainSigma_lowerFrom,
      unhyphenated_foldCase (mt mem_of_mem_dropSuffix hhyphen)]
  rw [← folded hhx, ← folded hhy, h]

/-! ### Back to the name -/

/-- What keys are made of: small letters, digits, low lines and hyphens. -/
def isKeyChar (c : Char) : Bool := isAsciiLower c || isAsciiDigit c || c == '_' || c == '-'

private theorem keyChars_points : ∀ n < 128, isAsciiWord (Char.ofNat n) = true →
    (keyChars (Char.ofNat n)).all
      (fun c ↦ isKeyChar c && !isAsciiUpper c && !isQuote c) = true := by
  decide +kernel

/-- The key of a controller without line feeds is made of such characters. They are neither
capitals nor quotation marks. -/
theorem isKeyChar_of_mem_identifier (h : isControllerName name = true) (hline : '\n' ∉ name.toList)
    {c : Char} (hc : c ∈ (identifier name).toList) :
    isKeyChar c = true ∧ isAsciiUpper c = false ∧ isQuote c = false := by
  have hascii : Ascii (dropSuffix name.toList) := fun d hd ↦
    (ascii_of_isControllerName h).1 d (mem_of_mem_dropSuffix hd)
  rw [identifier, String.toList_ofList, lowerFrom_hyphenate hascii] at hc
  obtain ⟨d, hd, hform⟩ := List.mem_flatMap.mp ((List.dropWhile_sublist _).subset hc)
  have hname := mem_of_mem_dropSuffix hd
  have hword : isAsciiWord d = true := by
    rcases isAsciiWord_or_lineFeed_of_isControllerName h hname with hword | rfl
    · exact hword
    · exact absurd hname hline
  have hpoint := keyChars_points d.toNat (toNat_lt_of_isAsciiWord hword)
  rw [Char.ofNat_toNat] at hpoint
  simpa [and_assoc] using List.all_eq_true.mp (hpoint hword) c hform

/-- Capitalizing the parts of a text and putting them together. -/
private theorem toList_join_capitalize (s : String) (sep : Char) :
    (String.join ((split s sep).map capitalize)).toList =
      (cutAt sep s.toList).flatMap capitalizeChars := by
  rw [String.toList_join, split, List.map_map, List.flatMap_map]
  refine List.flatMap_congr fun part _ ↦ ?_
  rw [Function.comp_apply, capitalize, String.toList_ofList, String.toList_ofList]

/-- Cut at its hyphens, the key of a controller is pieces that start with a small letter each.
Capitalized and put together, with the word for a controller at the end, they are its name. So the
key is not empty, is made of small letters, digits, low lines and hyphens, and no hyphen stands at
an end of it or next to another one. -/
theorem identifier_pieces_spell_the_name (h : isControllerName name = true)
    (hline : '\n' ∉ name.toList) :
    String.join ((split (identifier name) '-').map capitalize) ++ "Controller" = name ∧
      (∀ piece ∈ split (identifier name) '-', StartsSmall piece.toList) ∧
      identifier name ≠ "" ∧
      (∀ c ∈ (identifier name).toList,
        isKeyChar c = true ∧ isAsciiUpper c = false ∧ isQuote c = false) ∧
      (identifier name).toList.head? ≠ some '-' ∧ (identifier name).toList.getLast? ≠ some '-' ∧
      ¬ "--".toList <:+: (identifier name).toList := by
  obtain ⟨hspell, hsmall⟩ := cutAt_identifier h
  have hnil : [] ∉ cutAt '-' (identifier name).toList := fun hnil ↦
    absurd (hsmall [] hnil) (by decide)
  refine ⟨?_, ?_, ?_, fun c ↦ isKeyChar_of_mem_identifier h hline,
    seps_apart_of_nil_notMem_cutAt hnil⟩
  · obtain ⟨c, w, hbare, -, hname⟩ := dropSuffix_of_isControllerName h
    have hw : '\n' ∉ w := fun hmem ↦
      hline (mem_of_mem_dropSuffix (hbare ▸ List.mem_cons_of_mem c hmem))
    rw [← String.toList_inj, String.toList_append, toList_join_capitalize, hspell, hbare, hname,
      if_neg hw]
  · intro piece hpiece
    obtain ⟨part, hpart, rfl⟩ := List.mem_map.mp hpiece
    rw [String.toList_ofList]
    exact hsmall part hpart
  · intro hempty
    rw [hempty] at hnil
    exact hnil List.mem_cons_self

/-- Runs of capitals, a digit and a low line, and the word for a controller twice. -/
theorem html_widget_pieces_spell_the_name :
    isControllerName "HTMLWidget_2ControllerController" = true ∧
      identifier "HTMLWidget_2ControllerController" = "h-t-m-l-widget_2-controller" ∧
      String.join (["h", "t", "m", "l", "widget_2", "controller"].map capitalize) ++
        "Controller" = "HTMLWidget_2ControllerController" := by
  have hname : isControllerName "HTMLWidget_2ControllerController" = true := by decide +kernel
  have hkey : identifier "HTMLWidget_2ControllerController" = "h-t-m-l-widget_2-controller" := by
    decide +kernel
  have hpieces : split "h-t-m-l-widget_2-controller" '-' =
      ["h", "t", "m", "l", "widget_2", "controller"] := by
    decide +kernel
  have hspell := (identifier_pieces_spell_the_name hname (by decide)).1
  rw [hkey, hpieces] at hspell
  exact ⟨hname, hkey, hspell⟩

end ModuleScript.Stimulus
