import ClassWiki.Config.Value
import ClassWiki.Store.Access
import ClassWiki.Text.Encoding

/-!
# Faults

Why a run stops.  Some faults end the program with a message of its own; faults of
files have the message and number of the operating system; the others are told apart
by their kind alone.
-/

namespace ClassWiki

def classLikeKinds : List Text :=
  ["class_declaration", "interface_declaration", "record_declaration", "struct_declaration"]

inductive Fault where
  | documentNotMap (path : Path)
  | tableNotMap (path : Path) (key : Text)
  | kindsNotTexts (path : Path)
  | noKinds
  | unknownKinds (kinds : List Scalar)
  | inputNotFound (path : Path)
  | file (cause : FileFault) (path : Path)
  | unknownEncoding (name : Text)
  | notTextEncoding (name : Text)
  | decoding (cause : DecodeFault)
  -- A document breaks the rules of its format.
  | document (kind : Text)
  -- A value that is no map is asked for an entry.
  | notMap
  | noPath
  | wrongType
  | missingKey
  | outOfRange
  -- A text holds a character that it must not hold.
  | invalidText
  deriving DecidableEq, Repr

namespace FileFault

def number : FileFault → Nat
  | .notFound => 2
  | .alreadyThere => 17
  | .notFolder => 20
  | .isFolder => 21
  | .nameTooLong => 36
  | .nulCharacter => 0

def reason : FileFault → Text
  | .notFound => "No such file or directory"
  | .alreadyThere => "File exists"
  | .notFolder => "Not a directory"
  | .isFolder => "Is a directory"
  | .nameTooLong => "File name too long"
  | .nulCharacter => "embedded null byte"

def message (cause : FileFault) (path : Path) : Text :=
  "[Errno " ++ Nat.toDigits 10 cause.number ++ "] " ++ cause.reason ++ ": " ++
    Text.quoted path.text

end FileFault

namespace Fault

/-- A path that no file can have is a fault of its text. -/
def ofFile (cause : FileFault) (path : Path) : Fault :=
  match cause with
  | .nulCharacter => .invalidText
  | _ => .file cause path

def expected : Text := "expected any of: " ++ Text.join ", " classLikeKinds

def invalid (path : Path) (problem : Text) : Text :=
  "Invalid configuration " ++ path.text ++ ": " ++ problem

def ending? : Fault → Option Text
  | .documentNotMap path => some (invalid path "expected a mapping at the top level")
  | .tableNotMap path key => some (invalid path ("'" ++ key ++ "' must be a mapping"))
  | .kindsNotTexts path => some (invalid path "'declaration_kinds' must be a list")
  | .noKinds => some ("No declaration kinds configured; " ++ expected)
  | .unknownKinds kinds =>
      some ("Unknown declaration kinds " ++ Scalar.shownList kinds ++ "; " ++ expected)
  | .inputNotFound path => some ("Input directory not found: " ++ path.text)
  | _ => none

def message? : Fault → Option Text
  | .file cause path => some (cause.message path)
  | .unknownEncoding name => some ("unknown encoding: " ++ name)
  | .notTextEncoding name =>
      some ("'" ++ name ++ "' is not a text encoding; use codecs.open() to handle arbitrary codecs")
  | fault => fault.ending?

end Fault

end ClassWiki
