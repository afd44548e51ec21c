import ModuleScript.Text.Hex

/-!
# UTF-8

Encoding of texts, and decoding that reports the first fault: where it is, which bytes it
covers and what is wrong with them. The bytes at fault are the longest start of a well-formed
sequence that the data holds at that place.
-/

namespace ModuleScript.Text.Utf8

/-- The bytes of a text. -/
def encode (s : String) : List UInt8 := s.toList.flatMap String.utf8EncodeChar

/-- A run of code points that are no characters, and where it starts. -/
structure EncodingFault where
  position : Nat
  halves : List Nat
  deriving DecidableEq, Repr

/-- The wording of a refusal to encode. -/
def EncodingFault.message (f : EncodingFault) : String :=
  let place := match f.halves with
    | [n] => s!"character '\\u{String.ofList (hexDigits 4 n)}' in position {f.position}"
    | halves => s!"characters in position {f.position}-{f.position + halves.length - 1}"
  s!"'utf-8' codec can't encode {place}: surrogates not allowed"

/-- The bytes of code points, all of which need to be characters. -/
def encodePoints? (points : List Nat) : Except EncodingFault (List UInt8) :=
  match points.dropWhile (·.isValidChar) with
  | [] => .ok (points.flatMap fun n ↦ String.utf8EncodeChar (Char.ofNat n))
  | rest => .error {
      position := (points.takeWhile (·.isValidChar)).length
      halves := rest.takeWhile fun n ↦ !n.isValidChar }

/-- What is wrong with a byte sequence. -/
inductive Cause where
  | invalidStart
  | invalidContinuation
  | unexpectedEnd
  deriving DecidableEq, Repr

/-- A fault: the position of its first byte and the bytes that it covers. -/
structure Fault where
  cause : Cause
  position : Nat
  bytes : List UInt8
  deriving DecidableEq, Repr

/-- The wording of a cause. -/
def Cause.message : Cause → String
  | .invalidStart => "invalid start byte"
  | .invalidContinuation => "invalid continuation byte"
  | .unexpectedEnd => "unexpected end of data"

/-- The wording of a fault. -/
def Fault.message (f : Fault) : String :=
  let place := match f.bytes with
    | [b] => s!"byte 0x{String.ofList (hexDigits 2 b.toNat)} in position {f.position}"
    | bytes => s!"bytes in position {f.position}-{f.position + bytes.length - 1}"
  s!"'utf-8' codec can't decode {place}: {f.cause.message}"

/-- What a leading byte announces: how many bytes follow, its own bits, and the range of the
byte after it. -/
structure Lead where
  following : Nat
  bits : Nat
  low : UInt8 := 0x80
  high : UInt8 := 0xbf

/-- The announcement of a leading byte; none for a byte that starts no sequence. -/
def Lead.ofByte? (b : UInt8) : Option Lead :=
  if b < 0x80 then some { following := 0, bits := b.toNat }
  else if b < 0xc2 then none
  else if b < 0xe0 then some { following := 1, bits := b.toNat % 32 }
  else if b == 0xe0 then some { following := 2, bits := 0, low := 0xa0 }
  else if b == 0xed then some { following := 2, bits := 13, high := 0x9f }
  else if b < 0xf0 then some { following := 2, bits := b.toNat % 16 }
  else if b == 0xf0 then some { following := 3, bits := 0, low := 0x90 }
  else if b == 0xf4 then some { following := 3, bits := 4, high := 0x8f }
  else if b < 0xf4 then some { following := 3, bits := b.toNat % 8 }
  else none

/-- The bytes that continue a sequence, as far as they fit. -/
def Lead.continuation (lead : Lead) (bytes : List UInt8) : List UInt8 :=
  match bytes.take lead.following with
  | [] => []
  | b :: rest =>
    if lead.low ≤ b && b ≤ lead.high then
      b :: rest.takeWhile fun c ↦ 0x80 ≤ c && c ≤ 0xbf
    else []

/-- One step of decoding: a character with the number of bytes after its first, or a fault. -/
inductive Step where
  | char (c : Char) (following : Nat)
  | fault (cause : Cause) (bytes : List UInt8)

/-- The character at the front of the bytes `b :: rest`, or what is wrong there. -/
def step (b : UInt8) (rest : List UInt8) : Step :=
  match Lead.ofByte? b with
  | none => .fault .invalidStart [b]
  | some lead =>
    let tail := lead.continuation rest
    if tail.length = lead.following then
      .char (Char.ofNat (tail.foldl (fun n c ↦ n * 64 + c.toNat % 64) lead.bits)) lead.following
    else if (rest.drop tail.length).isEmpty then .fault .unexpectedEnd (b :: tail)
    else .fault .invalidContinuation (b :: tail)

/-- The characters up to the first fault, and that fault. `fuel` bounds the characters. -/
def decodeFrom : (fuel position : Nat) → List UInt8 → List Char × Option Fault
  | 0, _, _ | _, _, [] => ([], none)
  | fuel + 1, position, b :: rest =>
    match step b rest with
    | .fault cause bytes => ([], some ⟨cause, position, bytes⟩)
    | .char c following =>
      let (cs, fault) := decodeFrom fuel (position + 1 + following) (rest.drop following)
      (c :: cs, fault)

/-- The text that the bytes encode, or the first fault in them. -/
def decode (bytes : List UInt8) : Except Fault String :=
  match decodeFrom bytes.length 0 bytes with
  | (cs, none) => .ok (String.ofList cs)
  | (_, some fault) => .error fault

/-- The blocks in which a file is read. -/
def blockSize : Nat := 8192

/-- Decoding block by block. A sequence that a block cuts off is carried over into the next
one, and positions count from the start of what is decoded at once. -/
def decodeBlocks : (fuel : Nat) → (carried : List UInt8) → List UInt8 → Except Fault (List Char)
  | 0, _, _ => .ok []
  | fuel + 1, carried, bytes =>
    let data := carried ++ bytes.take blockSize
    let last := bytes.isEmpty
    match decodeFrom data.length 0 data with
    | (cs, none) =>
      if last then .ok cs else (cs ++ ·) <$> decodeBlocks fuel [] (bytes.drop blockSize)
    | (cs, some fault) =>
      if fault.cause = .unexpectedEnd && !last then
        (cs ++ ·) <$> decodeBlocks fuel fault.bytes (bytes.drop blockSize)
      else .error fault

/-- The text of a file that is read block by block. -/
def decodeStream (bytes : List UInt8) : Except Fault String :=
  String.ofList <$> decodeBlocks (bytes.length / blockSize + 2) [] bytes

end ModuleScript.Text.Utf8
