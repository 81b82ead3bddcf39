import ClassWiki.Text.Basic

/-!
# UTF-8

Characters as bytes and back.  Reading is strict: a byte that no encoded
character has at its place, an encoding longer than needed, a surrogate and a
character cut off at the end are all refused.
-/

namespace ClassWiki

abbrev Bytes := List UInt8

namespace Utf8

/-! ## Writing -/

def encodeChar (c : Char) : Bytes :=
  let n := c.toNat
  if n < 0x80 then [n.toUInt8]
  else if n < 0x800 then [(0xC0 + n / 0x40).toUInt8, (0x80 + n % 0x40).toUInt8]
  else if n < 0x10000 then
    [(0xE0 + n / 0x1000).toUInt8, (0x80 + n / 0x40 % 0x40).toUInt8,
      (0x80 + n % 0x40).toUInt8]
  else
    [(0xF0 + n / 0x40000).toUInt8, (0x80 + n / 0x1000 % 0x40).toUInt8,
      (0x80 + n / 0x40 % 0x40).toUInt8, (0x80 + n % 0x40).toUInt8]

def encode (text : Text) : Bytes := text.flatMap encodeChar

@[simp] theorem encode_nil : encode [] = [] := rfl

@[simp] theorem encode_cons (c : Char) (text : Text) :
    encode (c :: text) = encodeChar c ++ encode text := rfl

@[simp] theorem encode_append (first second : Text) :
    encode (first ++ second) = encode first ++ encode second := by
  simp [encode]

def size (text : Text) : Nat := (encode text).length

theorem size_append (first second : Text) : size (first ++ second) = size first + size second := by
  simp [size]

/-! ## Reading -/

/-- A character that has begun: how many bytes are still awaited, the bits read so
far, and the least code point that may be written in this many bytes. -/
structure Pending where
  awaited : Nat
  bits : Nat
  least : Nat
  deriving DecidableEq, Repr

def lead? (b : UInt8) : Option Pending :=
  let n := b.toNat
  if n < 0xC0 then none
  else if n < 0xE0 then some ⟨1, n - 0xC0, 0x80⟩
  else if n < 0xF0 then some ⟨2, n - 0xE0, 0x800⟩
  else if n < 0xF8 then some ⟨3, n - 0xF0, 0x10000⟩
  else none

def trail? (b : UInt8) : Option Nat :=
  let n := b.toNat
  if 0x80 ≤ n && n < 0xC0 then some (n - 0x80) else none

def char? (least n : Nat) : Option Char :=
  if least ≤ n ∧ n.isValidChar then some (Char.ofNat n) else none

def decodeFrom? : Option Pending → Bytes → Option Text
  | none, [] => some []
  | some _, [] => none
  | none, b :: bytes =>
      if b.toNat < 0x80 then (decodeFrom? none bytes).map (Char.ofNat b.toNat :: ·)
      else
        match lead? b with
        | none => none
        | some pending => decodeFrom? (some pending) bytes
  | some pending, b :: bytes =>
      match trail? b with
      | none => none
      | some low =>
          let bits := pending.bits * 0x40 + low
          if pending.awaited ≤ 1 then
            match char? pending.least bits with
            | none => none
            | some c => (decodeFrom? none bytes).map (c :: ·)
          else decodeFrom? (some ⟨pending.awaited - 1, bits, pending.least⟩) bytes

def decode? (bytes : Bytes) : Option Text := decodeFrom? none bytes

end Utf8

end ClassWiki
