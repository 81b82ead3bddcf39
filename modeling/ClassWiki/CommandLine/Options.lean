import ClassWiki.Text.Digit
import ClassWiki.Text.Quoted

/-!
# Options

The options of the command line and how arguments are read.  A long option may be
shortened as long as it stays unique, a value may be attached to its option, and short
flags may be written together.  All arguments are classified before any option is
carried out.
-/

namespace ClassWiki.CommandLine

inductive Opt where
  | help
  | input
  | output
  | config
  | verbose
  deriving DecidableEq, Repr

namespace Opt

def all : List Opt := [.help, .input, .output, .config, .verbose]

def spellings : Opt → List Text
  | .help => ["-h", "--help"]
  | .input => ["--input", "-i"]
  | .output => ["--output", "-o"]
  | .config => ["--config"]
  | .verbose => ["--verbose", "-v"]

def takesValue : Opt → Bool
  | .input | .output | .config => true
  | .help | .verbose => false

def title (opt : Opt) : Text := Text.join "/" opt.spellings

def table : List (Text × Opt) :=
  all.flatMap fun opt => opt.spellings.map fun spelling => (spelling, opt)

def ofSpelling? (spelling : Text) : Option Opt := table.lookup spelling

end Opt

inductive Refusal where
  | ambiguous (argument : Text) (candidates : List Text)
  | missingValue (opt : Opt)
  | ignoredValue (opt : Opt) (value : Text)
  | missingOptions (opts : List Opt)
  | unrecognized (arguments : List Text)
  deriving DecidableEq, Repr

def Refusal.message : Refusal → Text
  | .ambiguous argument candidates =>
      "ambiguous option: " ++ argument ++ " could match " ++ Text.join ", " candidates
  | .missingValue opt => "argument " ++ opt.title ++ ": expected one argument"
  | .ignoredValue opt value =>
      "argument " ++ opt.title ++ ": ignored explicit argument " ++ Text.quoted value
  | .missingOptions opts =>
      "the following arguments are required: " ++ Text.join ", " (opts.map Opt.title)
  | .unrecognized arguments => "unrecognized arguments: " ++ Text.join " " arguments

/-! ## Classification -/

/-- An argument stands alone, is the mark behind which all arguments stand alone, is an
option with or without an attached value, or looks like an option and is none. -/
inductive Token where
  | plain (argument : Text)
  | mark
  | option (opt : Opt) (long : Bool) (attached? : Option Text)
  | unknown (argument : Text)
  deriving DecidableEq, Repr

def splitEquals (argument : Text) : Text × Option Text :=
  match argument.dropWhile (· != '=') with
  | _ :: value => (argument.takeWhile (· != '='), some value)
  | [] => (argument, none)

def isLong (argument : Text) : Bool := ("--" : Text).isPrefixOf argument

/-- What an argument that starts with a dash may mean when it is no spelling of an
option: the beginning of a long option, or a short option with its value. -/
def candidates (argument : Text) : List (Text × Token) :=
  if isLong argument then
    let (start, attached?) := splitEquals argument
    (Opt.table.filter fun entry => start.isPrefixOf entry.1).map
      fun (spelling, opt) => (spelling, .option opt true attached?)
  else
    (Opt.table.filter fun entry => entry.1 = argument.take 2).map
      fun (spelling, opt) => (spelling, .option opt false (some (argument.drop 2)))

def withoutFinalBreak (text : Text) : Text := Text.dropTail "\n" text

def isNegativeNumber (argument : Text) : Bool :=
  match withoutFinalBreak argument with
  | '-' :: rest =>
      let fraction := rest.dropWhile Text.isDigit
      match fraction with
      | [] => !rest.isEmpty
      | '.' :: digits => !digits.isEmpty && digits.all Text.isDigit
      | _ => false
  | _ => false

def classify (argument : Text) : Except Refusal Token :=
  match argument with
  | [] | ['-'] => .ok (.plain argument)
  | '-' :: _ =>
      match Opt.ofSpelling? argument, splitEquals argument with
      | some opt, _ => .ok (.option opt (isLong argument) none)
      | none, (start, attached?) =>
          match attached?, Opt.ofSpelling? start with
          | some value, some opt => .ok (.option opt (isLong start) (some value))
          | _, _ =>
              match candidates argument with
              | [(_, token)] => .ok token
              | [] =>
                  if isNegativeNumber argument || argument.contains ' ' then
                    .ok (.plain argument)
                  else .ok (.unknown argument)
              | found => .error (.ambiguous argument (found.map Prod.fst))
  | _ => .ok (.plain argument)

def tokens : List Text → Except Refusal (List Token)
  | [] => .ok []
  | argument :: arguments =>
      if argument = "--" then .ok (.mark :: arguments.map .plain)
      else do
        let token ← classify argument
        return token :: (← tokens arguments)

/-! ## Reading -/

structure Group where
  flags : List Opt
  last : Opt
  value? : Option Text
  deriving DecidableEq, Repr

def unpack (opt : Opt) : Text → Except Refusal Group
  | [] =>
      if opt.takesValue then .ok ⟨[], opt, some []⟩ else .error (.ignoredValue opt [])
  | c :: rest =>
      if opt.takesValue then .ok ⟨[], opt, some (c :: rest)⟩
      else
        match Opt.ofSpelling? ['-', c] with
        | none => .error (.ignoredValue opt (c :: rest))
        | some next =>
            if rest.isEmpty then .ok ⟨[opt], next, none⟩
            else (unpack next rest).map fun group => { group with flags := opt :: group.flags }

def group (opt : Opt) (long : Bool) : Option Text → Except Refusal Group
  | none => .ok ⟨[], opt, none⟩
  | some attached =>
      if opt.takesValue then .ok ⟨[], opt, some attached⟩
      else if long then .error (.ignoredValue opt attached)
      else unpack opt attached

/-- The values read so far.  A value of two dashes is taken and dropped, which leaves
the option given but empty. -/
structure Given where
  input? : Option (Option Text)
  output? : Option (Option Text)
  config? : Option (Option Text)
  verbose : Bool
  extras : List Text
  deriving DecidableEq, Repr

inductive Stop where
  | help
  | refused (refusal : Refusal)
  deriving DecidableEq, Repr

namespace Given

def nothing : Given := ⟨none, none, none, false, []⟩

def addExtra (given : Given) (argument : Text) : Given :=
  { given with extras := given.extras ++ [argument] }

def setValue (given : Given) (opt : Opt) (value : Text) : Given :=
  let value? : Option Text := if value = "--" then none else some value
  match opt with
  | .input => { given with input? := some value? }
  | .output => { given with output? := some value? }
  | .config => { given with config? := some value? }
  | .help | .verbose => given

def raise (given : Given) : List Opt → Except Stop Given
  | [] => .ok given
  | .help :: _ => .error .help
  | .verbose :: flags => raise { given with verbose := true } flags
  | _ :: flags => raise given flags

end Given

/-- Carry out the options in order.  The value of an option that has none attached is
the argument behind it. -/
def consume (given : Given) : List Token → Except Stop Given
  | [] => .ok given
  | .plain argument :: rest => consume (given.addExtra argument) rest
  | .unknown argument :: rest => consume (given.addExtra argument) rest
  | .mark :: rest => consume (given.addExtra "--") rest
  | .option opt long attached? :: rest =>
      match group opt long attached? with
      | .error refusal => .error (.refused refusal)
      | .ok ⟨flags, last, value?⟩ =>
          if last.takesValue then
            match value? with
            | some value => do consume ((← given.raise flags).setValue last value) rest
            | none =>
                match rest with
                | .plain value :: after =>
                    do consume ((← given.raise flags).setValue last value) after
                | _ => .error (.refused (.missingValue last))
          else do consume (← given.raise (flags ++ [last])) rest

structure Arguments where
  input : Option Text
  output : Option Text
  config : Option Text
  verbose : Bool
  deriving DecidableEq, Repr

def Given.finish (given : Given) : Except Stop Arguments :=
  match given.input?, given.output? with
  | some input, some output =>
      if given.extras.isEmpty then
        .ok ⟨input, output, given.config?.getD none, given.verbose⟩
      else .error (.refused (.unrecognized given.extras))
  | input?, output? =>
      let missing := (if input?.isNone then [Opt.input] else []) ++
        (if output?.isNone then [Opt.output] else [])
      .error (.refused (.missingOptions missing))

def parse (arguments : List Text) : Except Stop Arguments :=
  match tokens arguments with
  | .error refusal => .error (.refused refusal)
  | .ok tokens => do (← consume .nothing tokens).finish

end ClassWiki.CommandLine
