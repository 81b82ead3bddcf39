import ClassWiki.Config.Time
import ClassWiki.Text.Quoted
import ClassWiki.Text.Utf8

/-!
# Scalars

The values without parts.  Scalars are equal when their keys are: truth values count
as the numbers zero and one, and numbers of either kind are compared by value.  A
number that is not a number equals nothing, not even itself.
-/

namespace ClassWiki

/-- A floating-point number has its value beside the shortest decimal literal that means
it. -/
inductive Scalar where
  | null
  | bool (value : Bool)
  | int (value : Int)
  | float (literal : Text) (value : Number)
  | text (value : Text)
  | bytes (value : Bytes)
  | date (value : Date)
  | moment (value : Moment)
  deriving DecidableEq, Repr

inductive Key where
  | null
  | number (value : Number)
  | text (value : Text)
  | bytes (value : Bytes)
  | day (ordinal : Nat)
  | clock (microseconds : Int)
  | instant (microseconds : Int)
  deriving DecidableEq, Repr

namespace Key

def lt? : Key → Key → Option Bool
  | .number first, .number second => some (first.lt second)
  | .text first, .text second => some (first < second)
  | .bytes first, .bytes second => some (first < second)
  | .day first, .day second => some (first < second)
  | .clock first, .clock second => some (first < second)
  | .instant first, .instant second => some (first < second)
  | _, _ => none

end Key

namespace Scalar

def ofLiteral (literal : Text) : Scalar := .float literal (.ofLiteral literal)

def key : Scalar → Key
  | .null => .null
  | .bool value => .number (.ofInt (if value then 1 else 0))
  | .int value => .number (.ofInt value)
  | .float _ value => .number value
  | .text value => .text value
  | .bytes value => .bytes value
  | .date value => .day value.ordinal
  | .moment value =>
      match value.offset? with
      | none => .clock value.clock
      | some offset => .instant (value.clock - offset)

def same (first second : Scalar) : Bool :=
  first.key == second.key && first.key != .number .nan

def truthy : Scalar → Bool
  | .null => false
  | .bool value => value
  | .int value => value != 0
  | .float _ value => !value.isZero
  | .text value => !value.isEmpty
  | .bytes value => !value.isEmpty
  | .date _ | .moment _ => true

def distinct (scalars : List Scalar) : List Scalar :=
  scalars.foldl (fun kept scalar => if kept.any (same scalar) then kept else kept ++ [scalar]) []

/-! ## How messages show a scalar -/

def intText (n : Int) : Text := (if n < 0 then "-" else "") ++ Nat.toDigits 10 n.natAbs

def bytesText (bytes : Bytes) : Text :=
  let chars := bytes.map fun b => Char.ofNat b.toNat
  let mark := Text.quoteMark chars
  let escape (c : Char) : Text :=
    if c.toNat < 0x80 then Text.escape mark c else "\\x" ++ Text.hexadecimal 2 c.toNat
  'b' :: mark :: chars.flatMap escape ++ [mark]

def call (name : Text) (arguments : List Text) : Text :=
  name ++ "(" ++ Text.join ", " arguments ++ ")"

/-- A duration is shown in days, in seconds of the day and in microseconds of the
second, each only if not zero. -/
def durationText (microseconds : Int) : Text :=
  let part (name : Text) (n : Int) : List Text := if n = 0 then [] else [name ++ intText n]
  let seconds := microseconds.fdiv 1000000
  call "datetime.timedelta"
    (part "days=" (seconds.fdiv 86400) ++ part "seconds=" (seconds.fmod 86400) ++
      part "microseconds=" (microseconds.fmod 1000000))

def zoneText (offset : Int) : Text :=
  if offset = 0 then "datetime.timezone.utc"
  else call "datetime.timezone" [durationText offset]

def dateArguments (date : Date) : List Text :=
  [date.year, date.month, date.day].map (decimal 0)

def timeArguments (moment : Moment) : List Text :=
  let fine : List Nat :=
    if moment.microsecond ≠ 0 then [moment.second, moment.microsecond]
    else if moment.second ≠ 0 then [moment.second]
    else []
  (moment.hour :: moment.minute :: fine).map (decimal 0)

def zoneArguments (moment : Moment) : List Text :=
  match moment.offset? with
  | none => []
  | some offset => ["tzinfo=" ++ zoneText offset]

def shown : Scalar → Text
  | .null => "None"
  | .bool value => if value then "True" else "False"
  | .int value => intText value
  | .float literal _ => literal
  | .text value => Text.quoted value
  | .bytes value => bytesText value
  | .date value => call "datetime.date" (dateArguments value)
  | .moment value =>
      call "datetime.datetime"
        (dateArguments value.date ++ timeArguments value ++ zoneArguments value)

def shownList (scalars : List Scalar) : Text :=
  "[" ++ Text.join ", " (scalars.map shown) ++ "]"

end Scalar

end ClassWiki
