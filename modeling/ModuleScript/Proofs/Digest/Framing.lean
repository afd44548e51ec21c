import ModuleScript.Digest.ContentKey
import ModuleScript.ImportMap.Basic
import ModuleScript.Proofs.Text.Padding

/-!
# What a framing tells

The bytes that are digested tell the texts behind them, as far as these are free of the byte that
closes them. Nothing more can be said of the keys, since a digest is shorter than what it
digests; which messages have different digests is therefore a matter of assumption.
-/

namespace ModuleScript

namespace Text.Utf8

/-- Different texts have different bytes. -/
theorem encode_injective {a b : String} (h : encode a = encode b) : a = b := by
  have hbytes : a.toList.utf8Encode = b.toList.utf8Encode :=
    congrArg List.toByteArray h
  have hdecode := congrArg ByteArray.utf8Decode? hbytes
  rw [List.utf8Decode?_utf8Encode, List.utf8Decode?_utf8Encode, Option.some.injEq] at hdecode
  exact String.toList_inj.mp (by simpa using hdecode)

/-- A byte of an ASCII character comes from that character only. -/
theorem toNat_eq_of_mem_utf8EncodeChar {c : Char} {byte : UInt8} (hbyte : byte.toNat < 128)
    (h : byte ∈ String.utf8EncodeChar c) : c.toNat = byte.toNat := by
  have hsize : UInt8.size = 256 := rfl
  -- the bytes of longer sequences have their highest bit set
  have high {n : Nat} (hlow : 128 ≤ n) (hhigh : n < 256) (h : byte = UInt8.ofNat n) : False := by
    rw [h, UInt8.toNat_ofNat_of_lt' (by omega)] at hbyte
    omega
  rw [String.utf8EncodeChar] at h
  split at h
  · rw [List.mem_singleton.mp h, UInt8.toNat_ofNat_of_lt' (by omega)]
    rfl
  · exfalso
    split at h
    · simp only [List.mem_cons, List.not_mem_nil, or_false] at h
      rcases h with h | h <;> exact high (by omega) (by omega) h
    · split at h
      all_goals
        simp only [List.mem_cons, List.not_mem_nil, or_false] at h
      · rcases h with h | h | h <;> exact high (by omega) (by omega) h
      · rcases h with h | h | h | h <;> exact high (by omega) (by omega) h

/-- A text without an ASCII character is encoded without its byte. -/
theorem notMem_encode {s : String} {sep : Char} (hsep : sep.toNat < 128) (h : sep ∉ s.toList) :
    UInt8.ofNat sep.toNat ∉ encode s := by
  intro hmem
  have hbyte : (UInt8.ofNat sep.toNat).toNat = sep.toNat :=
    UInt8.toNat_ofNat_of_lt' (Nat.lt_trans hsep (by decide))
  obtain ⟨c, hc, hmem⟩ := List.mem_flatMap.mp hmem
  have heq := toNat_eq_of_mem_utf8EncodeChar (by omega) hmem
  rw [hbyte, Char.toNat_inj] at heq
  exact h (heq ▸ hc)

/-- The first text and what follows it can be told apart. -/
theorem encode_append_inj (sep : Char) (hsep : sep.toNat < 128) {a b : String}
    {x y : List UInt8} (ha : sep ∉ a.toList) (hb : sep ∉ b.toList)
    (h : encode a ++ UInt8.ofNat sep.toNat :: x = encode b ++ UInt8.ofNat sep.toNat :: y) :
    a = b ∧ x = y := by
  have free {s : String} (hs : sep ∉ s.toList) :
      ∀ c ∈ encode s, (c != UInt8.ofNat sep.toNat) = true := by
    intro c hc
    rw [bne_iff_ne]
    rintro rfl
    exact notMem_encode hsep hs hc
  obtain ⟨hencode, hrest⟩ := append_inj_of_stop (free ha) (free hb) (by simp) (by simp) h
  exact ⟨encode_injective hencode, (List.cons.inj hrest).2⟩

end Text.Utf8

namespace Digest

/-- No two of the messages have the same digest. -/
def CollisionFree (messages : List (List UInt8)) : Prop :=
  ∀ a ∈ messages, ∀ b ∈ messages, sha256Hex a = sha256Hex b → a = b

instance (messages : List (List UInt8)) : Decidable (CollisionFree messages) :=
  inferInstanceAs (Decidable (∀ a ∈ messages, ∀ b ∈ messages, _ → _))

/-- Fewer messages have fewer collisions. -/
theorem CollisionFree.of_subset {messages more : List (List UInt8)} (h : CollisionFree more)
    (hsub : messages ⊆ more) : CollisionFree messages :=
  fun a ha b hb ↦ h a (hsub ha) b (hsub hb)

theorem framing_cons (s : String) (parts : List String) :
    framing (s :: parts) = Text.Utf8.encode s ++ 0 :: framing parts := by
  simp [framing]

/-- A first text without NUL can be told from the framing, and so can the framing of the rest. -/
theorem framing_cons_inj {a b : String} {as bs : List String} (ha : '\x00' ∉ a.toList)
    (hb : '\x00' ∉ b.toList) (h : framing (a :: as) = framing (b :: bs)) :
    a = b ∧ framing as = framing bs := by
  rw [framing_cons, framing_cons] at h
  exact Text.Utf8.encode_append_inj '\x00' (by decide) ha hb h

/-- Texts without NUL can be told from their framing. -/
theorem framing_inj {as bs : List String} (has : ∀ a ∈ as, '\x00' ∉ a.toList)
    (hbs : ∀ b ∈ bs, '\x00' ∉ b.toList) (h : framing as = framing bs) : as = bs := by
  induction as generalizing bs with
  | nil =>
    cases bs with
    | nil => rfl
    | cons b bs => simp [framing] at h
  | cons a as ih =>
    cases bs with
    | nil => simp [framing] at h
    | cons b bs =>
      obtain ⟨rfl, hrest⟩ :=
        framing_cons_inj (has a List.mem_cons_self) (hbs b List.mem_cons_self) h
      rw [ih (fun a ha ↦ has a (List.mem_cons_of_mem _ ha))
        (fun b hb ↦ hbs b (List.mem_cons_of_mem _ hb)) hrest]

/-- A single text can be told from its framing, also with NUL in it. -/
theorem framing_singleton_inj {a b : String} (h : framing [a] = framing [b]) : a = b := by
  rw [framing_cons, framing_cons] at h
  exact Text.Utf8.encode_injective (List.append_cancel_right h)

/-- Digests are hexadecimal. -/
theorem notMem_sha256Hex {c : Char} (hc : ∀ n < 16, Text.hexDigit n ≠ c) (message : List UInt8) :
    c ∉ (sha256Hex message).toList := by
  rw [sha256Hex, String.toList_ofList]
  intro h
  obtain ⟨w, -, hw⟩ := List.mem_flatMap.mp h
  obtain ⟨place, -, hdigit⟩ := List.mem_map.mp hw
  have hmod (n : Nat) : Text.hexDigit n = Text.hexDigit (n % 16) := by
    simp [Text.hexDigit]
  rw [hmod] at hdigit
  exact hc _ (Nat.mod_lt _ (by decide)) hdigit

theorem nul_notMem_sha256Hex (message : List UInt8) : '\x00' ∉ (sha256Hex message).toList :=
  notMem_sha256Hex (by decide) message

end Digest

/-! ### The framing of maps -/

/-- The location as it enters the key of a map. -/
def Entry.keyLocation (e : Entry) : String := e.location.getD "None"

/-- An entry whose name and location hold neither of the separators of a framing. -/
def Entry.FreeOfSeparators (e : Entry) : Prop :=
  ∀ c ∈ e.name.toList ++ e.keyLocation.toList, c ≠ '\x1e' ∧ c ≠ '\x1f'

-- over the characters of the list, not over all characters
instance (e : Entry) : Decidable e.FreeOfSeparators := List.decidableBAll _ _

namespace ImportMap

/-- A map of such entries. -/
def FreeOfSeparators (m : ImportMap) : Prop := ∀ e ∈ m.entries, e.FreeOfSeparators

instance (m : ImportMap) : Decidable m.FreeOfSeparators :=
  List.decidableBAll Entry.FreeOfSeparators m.entries

private theorem framing_cons (e : Entry) (rest : List UInt8) :
    e.framing ++ rest = Text.Utf8.encode e.name ++
      0x1f :: (Text.Utf8.encode e.keyLocation ++ 0x1e :: rest) := by
  simp [Entry.framing, Entry.keyLocation]

/-- A map whose names do not hold the separator behind them, and whose locations do not hold the
one behind them. -/
def Legible (m : ImportMap) : Prop :=
  ∀ e ∈ m.entries, '\x1f' ∉ e.name.toList ∧ '\x1e' ∉ e.keyLocation.toList

/-- Without separators at all, a map is legible. -/
theorem FreeOfSeparators.legible {m : ImportMap} (h : m.FreeOfSeparators) : m.Legible :=
  fun e he ↦ ⟨fun hc ↦ (h e he _ (List.mem_append_left _ hc)).2 rfl,
    fun hc ↦ (h e he _ (List.mem_append_right _ hc)).1 rfl⟩

/-- Names and locations of a legible map can be told from its framing. -/
theorem names_locations_eq_of_framing_eq {m m' : ImportMap} (hm : m.Legible) (hm' : m'.Legible)
    (h : m.framing = m'.framing) :
    m.entries.map (fun e ↦ (e.name, e.keyLocation)) =
      m'.entries.map fun e ↦ (e.name, e.keyLocation) := by
  rw [Legible] at hm hm'
  rw [framing, framing] at h
  generalize m.entries = es at hm h ⊢
  generalize m'.entries = es' at hm' h ⊢
  induction es generalizing es' with
  | nil =>
    cases es' with
    | nil => rfl
    | cons e' es' => simp [Entry.framing] at h
  | cons e es ih =>
    cases es' with
    | nil => simp [Entry.framing] at h
    | cons e' es' =>
      rw [List.flatMap_cons, List.flatMap_cons, framing_cons, framing_cons] at h
      have he := hm e List.mem_cons_self
      have he' := hm' e' List.mem_cons_self
      obtain ⟨hname, h⟩ := Text.Utf8.encode_append_inj '\x1f' (by decide) he.1 he'.1 h
      obtain ⟨hlocation, h⟩ := Text.Utf8.encode_append_inj '\x1e' (by decide) he.2 he'.2 h
      rw [List.map_cons, List.map_cons, hname, hlocation,
        ih (fun e he ↦ hm e (List.mem_cons_of_mem _ he)) es'
          (fun e he ↦ hm' e (List.mem_cons_of_mem _ he)) h]

/-- Then they have the same names in the same order. -/
theorem names_eq_of_framing_eq {m m' : ImportMap} (hm : m.FreeOfSeparators)
    (hm' : m'.FreeOfSeparators) (h : m.framing = m'.framing) : m.names = m'.names := by
  have hnames := congrArg (List.map Prod.fst)
    (names_locations_eq_of_framing_eq hm.legible hm'.legible h)
  rw [List.map_map, List.map_map] at hnames
  exact hnames

end ImportMap

end ModuleScript
