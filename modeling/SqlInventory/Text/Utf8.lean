import SqlInventory.Text.Basic

/-!
# UTF-8

A character is a lead byte and up to three further bytes; `Lead` says, for a lead byte, which
ranges the further bytes must lie in. Reading is done in two ways that share one step,
`readChar`:

* `decode` never fails: where no character can be read, the longest start of a character counts as
  one U+FFFD (each such start is a *maximal subpart*), and reading goes on behind it;
* `decode?` stops at the first such place and tells where and why.

A newline byte is never part of a longer sequence, so newlines of the bytes and of the decoded
text correspond one to one.
-/

namespace SqlInventory

/-- The content of a file. -/
abbrev Bytes : Type := List UInt8

namespace Utf8

/-- What a lead byte announces: the bits that it gives to the code point, and a range for each
byte that must follow. -/
structure Lead where
  /-- The leading bits of the code point. -/
  bits : Nat
  /-- The range of each byte to follow. -/
  tail : List (Nat × Nat)
  deriving DecidableEq, Repr

/-- The lead bytes. The ranges rule out overlong forms, surrogates and code points above
U+10FFFF. -/
def lead? (byte : UInt8) : Option Lead :=
  let b := byte.toNat
  let any := (0x80, 0xBF)
  if b < 0x80 then some ⟨b, []⟩
  else if 0xC2 ≤ b ∧ b ≤ 0xDF then some ⟨b - 0xC0, [any]⟩
  else if b = 0xE0 then some ⟨0, [(0xA0, 0xBF), any]⟩
  else if b = 0xED then some ⟨0xD, [(0x80, 0x9F), any]⟩
  else if 0xE1 ≤ b ∧ b ≤ 0xEF then some ⟨b - 0xE0, [any, any]⟩
  else if b = 0xF0 then some ⟨0, [(0x90, 0xBF), any, any]⟩
  else if 0xF1 ≤ b ∧ b ≤ 0xF3 then some ⟨b - 0xF0, [any, any, any]⟩
  else if b = 0xF4 then some ⟨4, [(0x80, 0x8F), any, any]⟩
  else none

/-- Why no character could be read. -/
inductive Cause where
  /-- The byte is no lead byte. -/
  | badStart
  /-- A byte of the sequence is out of range. -/
  | badContinuation
  /-- The bytes end inside a sequence. -/
  | endOfData
  deriving DecidableEq, Repr

/-- What the bytes behind a lead byte give: how many of them are used, and the code point or the
reason why there is none. -/
def readTail : Nat → List (Nat × Nat) → Bytes → Nat × Except Cause Nat
  | bits, [], _ => (0, .ok bits)
  | _, _ :: _, [] => (0, .error .endOfData)
  | bits, (low, high) :: ranges, byte :: rest =>
    if low ≤ byte.toNat ∧ byte.toNat ≤ high then
      let (used, code) := readTail (bits * 64 + (byte.toNat - 0x80)) ranges rest
      (used + 1, code)
    else (0, .error .badContinuation)

/-- The character that starts with `byte`: how many of the bytes behind it are used, and the
character or the reason why there is none. -/
def readChar (byte : UInt8) (rest : Bytes) : Nat × Except Cause Char :=
  match lead? byte with
  | none => (0, .error .badStart)
  | some lead =>
    let (used, code) := readTail lead.bits lead.tail rest
    (used, code.map Char.ofNat)

/-- The character shown where the bytes hold none. -/
def replacement : Char := '�'

/-- The text of some bytes, of which `skip` are already used. -/
def decodeFrom : Nat → Bytes → Text
  | _, [] => []
  | skip + 1, _ :: rest => decodeFrom skip rest
  | 0, byte :: rest =>
    match readChar byte rest with
    | (used, .ok c) => c :: decodeFrom used rest
    | (used, .error _) => replacement :: decodeFrom used rest

/-- The text of some bytes, with U+FFFD for every maximal subpart that is no character. -/
def decode (bytes : Bytes) : Text :=
  decodeFrom 0 bytes

@[simp] theorem decode_nil : decode [] = [] := rfl

/-- Bytes that are not UTF-8: the first stretch that is no character, and why. -/
structure Malformed where
  /-- The first byte of the stretch. -/
  byte : UInt8
  /-- The place of the first byte. -/
  start : Nat
  /-- The place behind the last byte. -/
  stop : Nat
  /-- Why the stretch is no character. -/
  cause : Cause
  deriving DecidableEq, Repr

/-- The text of some bytes, of which `skip` are already used and the first is at `place`. -/
def decodeFrom? : Nat → Nat → Bytes → Except Malformed Text
  | _, _, [] => .ok []
  | skip + 1, place, _ :: rest => decodeFrom? skip (place + 1) rest
  | 0, place, byte :: rest =>
    match readChar byte rest with
    | (used, .ok c) => (decodeFrom? used (place + 1) rest).map (c :: ·)
    | (used, .error cause) => .error ⟨byte, place, place + used + 1, cause⟩

/-- The text of some bytes, if they are UTF-8. -/
def decode? (bytes : Bytes) : Except Malformed Text :=
  decodeFrom? 0 0 bytes

/-- The bytes of a character. -/
def encodeChar (c : Char) : Bytes :=
  let n := c.toNat
  let tail (unit : Nat) : UInt8 := UInt8.ofNat (0x80 + n / unit % 64)
  if n < 0x80 then [UInt8.ofNat n]
  else if n < 0x800 then [UInt8.ofNat (0xC0 + n / 64), tail 1]
  else if n < 0x10000 then [UInt8.ofNat (0xE0 + n / 4096), tail 64, tail 1]
  else [UInt8.ofNat (0xF0 + n / 262144), tail 4096, tail 64, tail 1]

/-- The bytes of a text. -/
def encode (t : Text) : Bytes :=
  t.flatMap encodeChar

end Utf8

end SqlInventory
