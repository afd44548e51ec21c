/-!
# Base 64

Bytes written with letters, digits, plus signs and slashes, six bits each. Whatever is none of
these is skipped; equals signs that complete a group of four end the text.
-/

namespace ModuleScript.Text.Base64

/-- The six bits of a character. -/
def bits? (c : Char) : Option Nat :=
  if 'A' ≤ c && c ≤ 'Z' then some (c.toNat - 65)
  else if 'a' ≤ c && c ≤ 'z' then some (c.toNat - 71)
  else if '0' ≤ c && c ≤ '9' then some (c.toNat + 4)
  else if c == '+' then some 62
  else if c == '/' then some 63
  else none

/-- The bytes from a place on: `held` are the bits of the group under way that make no byte yet,
`count` is the number of its characters, and `pads` that of the equals signs behind them. -/
def decodeFrom (held count pads : Nat) : List Char → Option (List UInt8)
  | [] => if count = 0 then some [] else none
  | '=' :: rest =>
    if 2 ≤ count && 4 ≤ count + pads + 1 then some []
    else decodeFrom held count (if 2 ≤ count then pads + 1 else pads) rest
  | c :: rest =>
    match bits? c with
    | none => decodeFrom held count pads rest
    | some bits =>
      let all := held * 64 + bits
      if count = 0 then decodeFrom all 1 0 rest
      else
        -- The second character leaves four bits, the third two, and the fourth none.
        let left := Nat.pow 2 (6 - 2 * count)
        (decodeFrom (all % left) ((count + 1) % 4) 0 rest).map (UInt8.ofNat (all / left) :: ·)

/-- The bytes of a text, unless its last group is incomplete. -/
def decode? (text : List Char) : Option (List UInt8) := decodeFrom 0 0 0 text

end ModuleScript.Text.Base64
