import ClassWiki.Text.Basic

/-!
# Exact numbers

Integers and floating-point numbers are compared by their exact values.  A finite
number is an odd mantissa times a power of two, so that equal numbers have one form
only.  A floating-point number is given by decimal digits and stands for the nearest
number that 53 binary digits can hold, a tie going to the even one.
-/

namespace ClassWiki

inductive Number where
  | nan
  | infinite (negative : Bool)
  | finite (mantissa exponent : Int)
  deriving DecidableEq, Repr

namespace Number

/-! ## Normal form -/

def splitTwos (n : Nat) : Nat × Nat :=
  if n = 0 then (0, 0)
  else if n % 2 = 0 then
    let (odd, count) := splitTwos (n / 2)
    (odd, count + 1)
  else (n, 0)
termination_by n

def ofScaled (negative : Bool) (magnitude : Nat) (exponent : Int) : Number :=
  if magnitude = 0 then .finite 0 0
  else
    let (odd, count) := splitTwos magnitude
    .finite (if negative then -(odd : Int) else odd) (exponent + count)

def ofInt (n : Int) : Number := ofScaled (n < 0) n.natAbs 0

/-! ## Nearest binary fraction -/

def roundDiv (numerator denominator : Nat) : Nat :=
  let quotient := numerator / denominator
  let twice := 2 * (numerator % denominator)
  if twice < denominator then quotient
  else if denominator < twice then quotient + 1
  else quotient + quotient % 2

def scale (numerator denominator : Nat) (exponent : Int) : Nat × Nat :=
  if 0 ≤ exponent then (numerator, denominator * Nat.pow 2 exponent.toNat)
  else (numerator * Nat.pow 2 (-exponent).toNat, denominator)

/-- The exponent at which the quotient has 53 binary digits, and no less than the
least exponent there is. -/
def binaryExponent (numerator denominator : Nat) : Int :=
  let low : Int := (numerator.log2 : Int) - denominator.log2 - 53
  let (n, d) := scale numerator denominator low
  let exponent := if Nat.pow 2 53 ≤ n / d then low + 1 else low
  if exponent < -1074 then -1074 else exponent

def nearest (negative : Bool) (numerator denominator : Nat) : Number :=
  if numerator = 0 then .finite 0 0
  else
    let exponent := binaryExponent numerator denominator
    let (n, d) := scale numerator denominator exponent
    ofScaled negative (roundDiv n d) exponent

/-! ## Decimal literals -/

def digitsValue (digits : Text) : Nat :=
  digits.foldl (fun n c => n * 10 + (c.toNat - '0'.toNat)) 0

def exponentValue : Text → Int
  | '-' :: digits => -(digitsValue digits : Int)
  | '+' :: digits => digitsValue digits
  | digits => digitsValue digits

def ofUnsigned (negative : Bool) (literal : Text) : Number :=
  let isMark (c : Char) : Bool := c == 'e' || c == 'E'
  let mantissa := literal.takeWhile (!isMark ·)
  let whole := mantissa.takeWhile (· != '.')
  let fraction := (mantissa.dropWhile (· != '.')).drop 1
  let tens := exponentValue ((literal.dropWhile (!isMark ·)).drop 1) - fraction.length
  let digits := digitsValue (whole ++ fraction)
  if 0 ≤ tens then nearest negative (digits * Nat.pow 10 tens.toNat) 1
  else nearest negative digits (Nat.pow 10 (-tens).toNat)

def ofLiteral (literal : Text) : Number :=
  if literal = "nan" then .nan
  else if literal = "inf" then .infinite false
  else if literal = "-inf" then .infinite true
  else
    match literal with
    | '-' :: rest => ofUnsigned true rest
    | _ => ofUnsigned false literal

/-! ## Order -/

def lt : Number → Number → Bool
  | .nan, _ | _, .nan => false
  | .infinite first, .infinite second => first && !second
  | .infinite negative, .finite _ _ => negative
  | .finite _ _, .infinite negative => !negative
  | .finite m e, .finite n f =>
      if e ≤ f then m < n * Nat.pow 2 (f - e).toNat else m * Nat.pow 2 (e - f).toNat < n

def isZero (number : Number) : Bool := number == .finite 0 0

end Number

end ClassWiki
