import NodeLint.Text.Quoted

/-!
# Reading UTF-8

Bytes are read strictly. The first bad sequence stops the reading and is reported with its
place: a byte that starts nothing, a sequence broken by a byte that does not continue it (the
valid bytes read so far are the reported span), or a sequence cut off by the end of the data.
-/

namespace NodeLint.Text

/-- Why bytes are not UTF-8. -/
inductive Utf8Cause where
  | startByte
  | continuationByte
  | endOfData
deriving Repr, DecidableEq

/-- The first bad sequence: its position, its bytes, and what is wrong with it. -/
structure Utf8Fault where
  position : Nat
  bytes : List UInt8
  cause : Utf8Cause
deriving Repr, DecidableEq

namespace Utf8Fault

/-- The words for a cause. -/
def reason : Utf8Cause → String
  | .startByte => "invalid start byte"
  | .continuationByte => "invalid continuation byte"
  | .endOfData => "unexpected end of data"

/-- The message of a decoding fault. -/
def message (f : Utf8Fault) : String :=
  "'utf-8' codec can't decode " ++
    (match f.bytes with
      | [b] => "byte 0x" ++ String.ofList (hexPadded 2 b.toNat) ++ " in position " ++
          toString f.position
      | bs => "bytes in position " ++ toString f.position ++ "-" ++
          toString (f.position + bs.length - 1)) ++
    ": " ++ reason f.cause

end Utf8Fault

/-- The shape of a sequence: how many bytes continue it, and the range its second byte must
lie in. -/
def sequenceShape? (lead : UInt8) : Option (Nat × Nat × Nat) :=
  let n := lead.toNat
  if 0xC2 ≤ n && n ≤ 0xDF then some (1, 0x80, 0xBF)
  else if n = 0xE0 then some (2, 0xA0, 0xBF)
  else if n = 0xED then some (2, 0x80, 0x9F)
  else if 0xE1 ≤ n && n ≤ 0xEF then some (2, 0x80, 0xBF)
  else if n = 0xF0 then some (3, 0x90, 0xBF)
  else if n = 0xF4 then some (3, 0x80, 0x8F)
  else if 0xF1 ≤ n && n ≤ 0xF3 then some (3, 0x80, 0xBF)
  else none

/-- Read the continuation of a sequence. `seen` are its bytes so far, last first. -/
def continueSequence (position : Nat) : (count : Nat) → (low high : Nat) → (value : Nat) →
    (seen : List UInt8) → List UInt8 → Except Utf8Fault (Nat × List UInt8)
  | 0, _, _, value, _, rest => .ok (value, rest)
  | _ + 1, _, _, _, seen, [] => .error ⟨position, seen.reverse, .endOfData⟩
  | count + 1, low, high, value, seen, b :: rest =>
    if low ≤ b.toNat && b.toNat ≤ high then
      continueSequence position count 0x80 0xBF (64 * value + b.toNat % 64) (b :: seen) rest
    else .error ⟨position, seen.reverse, .continuationByte⟩

/-- The payload of a leading byte followed by `count` bytes. -/
def leadValue (lead : UInt8) (count : Nat) : Nat :=
  lead.toNat % Nat.pow 2 (6 - count)

/-- Decode the bytes from a position on; each step takes at least one byte. -/
def decodeFrom : (fuel : Nat) → (position : Nat) → List UInt8 → Except Utf8Fault (List Char)
  | 0, _, _ => .ok []
  | _ + 1, _, [] => .ok []
  | fuel + 1, position, b :: rest =>
    if b.toNat < 0x80 then do
      let cs ← decodeFrom fuel (position + 1) rest
      return Char.ofNat b.toNat :: cs
    else match sequenceShape? b with
      | none => .error ⟨position, [b], .startByte⟩
      | some (count, low, high) => do
        let (value, rest) ←
          continueSequence position count low high (leadValue b count) [b] rest
        let cs ← decodeFrom fuel (position + count + 1) rest
        return Char.ofNat value :: cs

/-- Decode a sequence of bytes. -/
def decodeUtf8 (bytes : List UInt8) : Except Utf8Fault (List Char) :=
  decodeFrom bytes.length 0 bytes

end NodeLint.Text
