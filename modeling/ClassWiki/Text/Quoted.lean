import ClassWiki.Text.Basic
import ClassWiki.Text.Printable

/-!
# Quoted text

Messages show a text between quotes.  The single quote is the usual mark; a text
that holds single quotes and no double quote is put between double quotes.  The
mark, the backslash and every character that is not printable are escaped.
-/

namespace ClassWiki.Text

def singleQuote : Char := '\x27'

def doubleQuote : Char := '\x22'

def hexadecimal (width n : Nat) : Text :=
  let digits := Nat.toDigits 16 n
  List.replicate (width - digits.length) '0' ++ digits

def quoteMark (text : Text) : Char :=
  if text.contains singleQuote && !text.contains doubleQuote then doubleQuote
  else singleQuote

def escape (mark c : Char) : Text :=
  if c = '\\' || c = mark then ['\\', c]
  else if c = '\t' then "\\t"
  else if c = '\n' then "\\n"
  else if c = '\r' then "\\r"
  else if isPrintable c then [c]
  else if c.toNat < 0x100 then "\\x" ++ hexadecimal 2 c.toNat
  else if c.toNat < 0x10000 then "\\u" ++ hexadecimal 4 c.toNat
  else "\\U" ++ hexadecimal 8 c.toNat

def quoted (text : Text) : Text :=
  let mark := quoteMark text
  mark :: text.flatMap (escape mark) ++ [mark]

end ClassWiki.Text
