import ClassWiki.Config.Number

/-!
# Dates and moments

Days and times of day as they stand in a configuration.  A moment may say how many
microseconds its clock is ahead of universal time; two such moments are compared by
the instant they mean, and all others by what their clock shows.
-/

namespace ClassWiki

structure Date where
  year : Nat
  month : Nat
  day : Nat
  deriving DecidableEq, Repr

structure Moment where
  date : Date
  hour : Nat
  minute : Nat
  second : Nat
  microsecond : Nat
  offset? : Option Int
  deriving DecidableEq, Repr

def decimal (width n : Nat) : Text :=
  let digits := Nat.toDigits 10 n
  List.replicate (width - digits.length) '0' ++ digits

namespace Date

def isLeap (year : Nat) : Bool := year % 4 == 0 && (year % 100 != 0 || year % 400 == 0)

def monthLength (year month : Nat) : Nat :=
  if month = 2 then if isLeap year then 29 else 28
  else if month = 4 ∨ month = 6 ∨ month = 9 ∨ month = 11 then 30
  else 31

def daysOfMonths (year : Nat) : Nat → Nat
  | 0 => 0
  | month + 1 => daysOfMonths year month + monthLength year (month + 1)

def ordinal (date : Date) : Nat :=
  let years := date.year - 1
  365 * years + years / 4 - years / 100 + years / 400 +
    daysOfMonths date.year (date.month - 1) + date.day

def text (date : Date) : Text :=
  Text.join "-" [decimal 4 date.year, decimal 2 date.month, decimal 2 date.day]

def ofText (text : Text) : Date :=
  ⟨Number.digitsValue (text.take 4), Number.digitsValue ((text.drop 5).take 2),
    Number.digitsValue ((text.drop 8).take 2)⟩

end Date

namespace Moment

def clock (moment : Moment) : Int :=
  let seconds := (moment.date.ordinal * 24 + moment.hour) * 3600 + moment.minute * 60 +
    moment.second
  (seconds * 1000000 + moment.microsecond : Nat)

def fractionText (microseconds : Nat) : Text :=
  if microseconds = 0 then [] else "." ++ decimal 6 microseconds

def offsetText (offset : Int) : Text :=
  let n := offset.natAbs
  let seconds := n / 1000000
  let sign : Text := if offset < 0 then "-" else "+"
  let short := sign ++ decimal 2 (seconds / 3600) ++ ":" ++ decimal 2 (seconds / 60 % 60)
  if n % 60000000 = 0 then short
  else short ++ ":" ++ decimal 2 (seconds % 60) ++ fractionText (n % 1000000)

def text (moment : Moment) : Text :=
  let time := Text.join ":"
    [decimal 2 moment.hour, decimal 2 moment.minute, decimal 2 moment.second]
  moment.date.text ++ "T" ++ time ++ fractionText moment.microsecond ++
    (match moment.offset? with
    | none => []
    | some offset => offsetText offset)

def offsetValue (text : Text) : Int :=
  let two (start : Nat) : Int := Number.digitsValue ((text.drop start).take 2)
  (two 0 * 3600 + two 3 * 60 + two 6) * 1000000 +
    Number.digitsValue ((text.drop 9).take 6)

def offsetOf? : Text → Option Int
  | '+' :: text => some (offsetValue text)
  | '-' :: text => some (-offsetValue text)
  | _ => none

/-- Read a date, a time with one character before it, a fraction of six digits and an
offset, the last two only where they are written. -/
def ofText (text : Text) : Moment :=
  let two (start : Nat) : Nat := Number.digitsValue ((text.drop start).take 2)
  let (fraction, rest) : Text × Text :=
    match text.drop 19 with
    | '.' :: rest => (rest.take 6, rest.drop 6)
    | rest => ([], rest)
  ⟨Date.ofText (text.take 10), two 11, two 14, two 17, Number.digitsValue fraction,
    offsetOf? rest⟩

end Moment

end ClassWiki
