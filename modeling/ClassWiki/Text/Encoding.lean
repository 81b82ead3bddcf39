import ClassWiki.Text.Utf8

/-!
# Encodings

The encodings that are known by themselves, the names they go by, and how each one turns
bytes into text.  Codecs for other names come from outside.
-/

namespace ClassWiki

inductive Encoding where
  | utf8
  | utf8Signed
  | latin1
  | ascii
  | utf16
  | utf16Little
  | utf16Big
  deriving DecidableEq, Repr

/-- Why bytes are no text: they break a rule of the encoding, or they lack the mark
that says how they are ordered. -/
inductive DecodeFault where
  | malformed
  | unmarked
  deriving DecidableEq, Repr

abbrev Decoder := Bytes → Except DecodeFault Text

/-- What a name stands for.  Some codecs have no text on either side. -/
inductive Codec where
  | text (decode : Decoder)
  | binary

namespace Encoding

/-! ## Names -/

def isNameChar (c : Char) : Bool := c.isAlphanum || c == '.'

def canonicalName (name : Text) : Text :=
  -- Any run of other characters between two words counts as one underscore.
  go false (name.dropWhile fun c => !isNameChar c)
where
  go (gap : Bool) : Text → Text
    | [] => []
    | c :: rest =>
        if isNameChar c then
          if gap then '_' :: c.toLower :: go false rest else c.toLower :: go false rest
        else go true rest

def name : Encoding → Text
  | .utf8 => "utf_8"
  | .utf8Signed => "utf_8_sig"
  | .latin1 => "latin_1"
  | .ascii => "ascii"
  | .utf16 => "utf_16"
  | .utf16Little => "utf_16_le"
  | .utf16Big => "utf_16_be"

def aliases : Encoding → List Text
  | .utf8 => ["u8", "utf", "utf8", "utf8_ucs2", "utf8_ucs4", "cp65001"]
  | .utf8Signed => []
  | .latin1 =>
      ["8859", "cp819", "csisolatin1", "ibm819", "iso8859", "iso8859_1", "iso_8859_1",
        "iso_8859_1_1987", "iso_ir_100", "l1", "latin", "latin1"]
  | .ascii =>
      ["646", "ansi_x3.4_1968", "ansi_x3_4_1968", "ansi_x3.4_1986", "cp367", "csascii",
        "ibm367", "iso646_us", "iso_646.irv_1991", "iso_ir_6", "us", "us_ascii"]
  | .utf16 => ["u16", "utf16"]
  | .utf16Little => ["unicodelittleunmarked", "utf_16le"]
  | .utf16Big => ["unicodebigunmarked", "utf_16be"]

def answersTo (encoding : Encoding) (name : Text) : Bool :=
  -- In an alias, and only there, a dot may stand for an underscore.
  name == encoding.name || encoding.aliases.contains name ||
    encoding.aliases.contains (name.map fun c => if c = '.' then '_' else c)

def all : List Encoding :=
  [.utf8, .utf8Signed, .latin1, .ascii, .utf16, .utf16Little, .utf16Big]

def ofName? (name : Text) : Option Encoding :=
  all.find? (·.answersTo (canonicalName name))

/-! ## Reading -/

def byteChar (b : UInt8) : Char := Char.ofNat b.toNat

def asciiText? : Bytes → Option Text
  | [] => some []
  | b :: bytes =>
      if b.toNat < 0x80 then (asciiText? bytes).map (byteChar b :: ·) else none

def units? (bigEndian : Bool) : Bytes → Option (List Nat)
  | [] => some []
  | [_] => none
  | a :: b :: bytes =>
      let unit := if bigEndian then a.toNat * 0x100 + b.toNat else b.toNat * 0x100 + a.toNat
      (units? bigEndian bytes).map (unit :: ·)

def unitsText? : Option Nat → List Nat → Option Text
  | none, [] => some []
  | some _, [] => none
  | none, n :: units =>
      if 0xD800 ≤ n && n < 0xDC00 then unitsText? (some n) units
      else if 0xDC00 ≤ n && n < 0xE000 then none
      else (unitsText? none units).map (Char.ofNat n :: ·)
  | some high, n :: units =>
      if 0xDC00 ≤ n && n < 0xE000 then
        (unitsText? none units).map
          (Char.ofNat (0x10000 + (high - 0xD800) * 0x400 + (n - 0xDC00)) :: ·)
      else none

def utf16Text? (bigEndian : Bool) (bytes : Bytes) : Option Text :=
  (units? bigEndian bytes).bind (unitsText? none)

def utf8Mark : Bytes := [0xEF, 0xBB, 0xBF]

def ofOption : Option Text → Except DecodeFault Text
  | none => .error .malformed
  | some text => .ok text

/-- A mark at the start is dropped by the encodings that ask for one; bytes that
break off inside the mark are read as no text.  Unmarked 16-bit units are read in
little-endian order before the missing mark is reported. -/
def decode : Encoding → Decoder
  | .utf8, bytes => ofOption (Utf8.decode? bytes)
  | .utf8Signed, bytes =>
      if bytes.length < 3 && bytes.isPrefixOf utf8Mark then .ok []
      else if utf8Mark.isPrefixOf bytes then ofOption (Utf8.decode? (bytes.drop 3))
      else ofOption (Utf8.decode? bytes)
  | .latin1, bytes => .ok (bytes.map byteChar)
  | .ascii, bytes => ofOption (asciiText? bytes)
  | .utf16, 0xFF :: 0xFE :: bytes => ofOption (utf16Text? false bytes)
  | .utf16, 0xFE :: 0xFF :: bytes => ofOption (utf16Text? true bytes)
  | .utf16, bytes =>
      match utf16Text? false bytes with
      | none => .error .malformed
      | some [] => .ok []
      | some _ => .error .unmarked
  | .utf16Little, bytes => ofOption (utf16Text? false bytes)
  | .utf16Big, bytes => ofOption (utf16Text? true bytes)

end Encoding

end ClassWiki
