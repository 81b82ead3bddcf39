import ClassWiki.CommandLine.Usage
import ClassWiki.Conversion

/-!
# Running the program

A run prints lines, writes lines about errors and what was logged, and ends with an
exit code or a fault.
-/

namespace ClassWiki.CommandLine

inductive Ending where
  | code (value : Nat)
  | fault (fault : Fault)
  deriving DecidableEq, Repr

structure Report where
  store : Store
  output : List Text
  errors : List Text
  ending : Ending

/-- Load the settings, convert, and say how many pages there are.  Paths are given in the
working directory, and the output folder is named in full. -/
def job (readers : Readers) (working : Location) (arguments : Arguments) : Job Unit := do
  let settings ← Job.ofExcept
    (Settings.load readers.document working (← Job.store) arguments.config)
  let output ← path arguments.output
  if output.hasNul then throw .invalidText
  let out := output.resolve
  let input ← path arguments.input
  let count ← Conversion.convertFolder readers settings input out
  Job.print ("Generated " ++ Nat.toDigits 10 count ++ " Markdown pages into: " ++ out.text)
where
  path : Option Text → Job Path
    | none => throw .noPath
    | some text => return Path.ofText working text

def Level.name : Level → Text
  | .info => "INFO"
  | .warning => "WARNING"

def logLine (entry : LogEntry) : Text :=
  Level.name entry.level ++ " cs_to_markdown.convert_directory: " ++ entry.message

def shows (verbose : Bool) (entry : LogEntry) : Bool := verbose || entry.level == .warning

def run (readers : Readers) (working : Location) (store : Store) (arguments : List Text) :
    Report :=
  match parse arguments with
  | .error .help => ⟨store, helpLines, [], .code 0⟩
  | .error (.refused refusal) => ⟨store, [], refusalLines refusal, .code 2⟩
  | .ok arguments =>
      let (outcome, world) := (job readers working arguments).run ⟨store, [], []⟩
      let errors := (world.logged.filter (shows arguments.verbose)).map logLine
      match outcome with
      | .ok () => ⟨world.store, world.printed, errors, .code 0⟩
      | .error fault => ⟨world.store, world.printed, errors, .fault fault⟩

end ClassWiki.CommandLine
