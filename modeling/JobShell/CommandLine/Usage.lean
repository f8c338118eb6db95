import JobShell.Text.Blank

/-!
# Reading the command line

The arguments are read from left to right into flags and operands. Short flags may share one dash,
a long flag's argument may follow an equals sign or be the next argument, whatever that is, and a
double dash ends the flags. An argument with a dash in front and a blank inside is an operand,
unless the blank stands in a long flag's argument behind the equals sign, which may hold anything
but a line feed. An argument that cannot be read is an error at once, so the leftmost such argument
is the one reported. What was read then has to fit one of three forms: a run of the shell with each
option at most once, a request for help, or a request for the version.
-/

namespace JobShell.CommandLine

/-- The forms of a command line. -/
def forms : String :=
  "Usage:\n    tsh [-v] [-p] [--log=<path>]\n    tsh (-h | --help)\n    tsh --version\n"

/-- The whole help text. -/
def help : String :=
  "tsh - a tiny shell with job control.\n\n" ++ forms ++
    "\nOptions:\n" ++
    "    -h --help       Show this screen.\n" ++
    "    --version       Show version.\n" ++
    "    -v              Emit additional diagnostic information.\n" ++
    "    -p              Do not emit a command prompt.\n" ++
    "    --log=<path>    File to write log to, defaults to ~/.tsh_log\n"

/-- The version that is shown. -/
def version : String := "tsh version 0.1.0\n"

/-- A flag, with its argument if it takes one. -/
inductive Flag
  | verbose
  | noPrompt
  | log (path : String)
  | help
  | version
  deriving DecidableEq

/-- An argument that was read. -/
inductive Token
  | flag (flag : Flag)
  | operand (text : String)
  deriving DecidableEq

/-- Why a command line was refused. -/
inductive UsageError
  | unknownFlag (flag : String) (suggestion : Option String)
  | missingArgument (flag : String)
  | unexpectedArgument (flag argument : String)
  /-- The arguments fit none of the forms. -/
  | noForm
  deriving DecidableEq

/-- The wording of a refusal. -/
def UsageError.text : UsageError → String
  | unknownFlag flag none => s!"Unknown flag: '{flag}'"
  | unknownFlag flag (some suggestion) =>
    s!"Unknown flag: '{flag}'. Did you mean '{suggestion}'?"
  | missingArgument flag => s!"Expected argument for flag '{flag}' but reached end of arguments."
  | unexpectedArgument flag argument =>
    s!"Flag '{flag}' cannot have an argument, but found '{argument}'."
  | noForm => "Invalid arguments."

/-! ### Suggestions -/

/-- The next row of a table of edit distances: `above` is the row above, `left` the entry to the
left, and `c` the character of the new row. -/
def nextRow (c : Char) (left : Nat) : List Char → List Nat → List Nat
  | d :: ds, corner :: top :: above =>
    let entry := min (min (left + 1) (top + 1)) (if c = d then corner else corner + 1)
    entry :: nextRow c entry ds (top :: above)
  | _, _ => []

/-- The least number of insertions, deletions and substitutions that turn one word into another. -/
def editDistance (a b : List Char) : Nat :=
  let first := List.range (b.length + 1)
  let step (row : List Nat) (c : Char) : List Nat :=
    let left := row.headD 0 + 1
    left :: nextRow c left b row
  (a.foldl step first).getLastD 0

/-- The long flags. -/
def longFlags : List String := ["--help", "--log", "--version"]

/-- The first of the nearest long flags, if it is fewer than three edits away. -/
def suggestion? (flag : String) : Option String :=
  let distance (known : String) := editDistance flag.toList known.toList
  longFlags.foldl (fun best known ↦
    if distance known < 3 ∧ best.all (distance known < distance ·) then some known else best) none

/-! ### Reading -/

/-- The flag that a letter after a single dash stands for. -/
def shortFlag? : Char → Option Flag
  | 'v' => some .verbose
  | 'p' => some .noPrompt
  | 'h' => some .help
  | _ => none

/-- Reads the letters that share a dash. -/
def shortFlags : List Char → Except UsageError (List Token)
  | [] => .ok []
  | c :: cs =>
    match shortFlag? c with
    | none => .error (.unknownFlag (String.ofList ['-', c]) none)
    | some flag => (shortFlags cs).map (Token.flag flag :: ·)

/-- An argument cut at its first equals sign. -/
def cutAtEquals (cs : List Char) : String × Option String :=
  let name := String.ofList (cs.takeWhile (· ≠ '='))
  match cs.dropWhile (· ≠ '=') with
  | [] => (name, none)
  | _ :: value => (name, some (String.ofList value))

/-- A long flag as far as it can be read without the next argument: complete, or in want of one. -/
def longFlag (cs : List Char) : Except UsageError (Option Flag) :=
  match cutAtEquals cs with
  | ("--log", path?) => .ok (path?.map Flag.log)
  | ("--help", none) => .ok (some .help)
  | ("--version", none) => .ok (some .version)
  | (name, value?) =>
    if name ∈ longFlags then .error (.unexpectedArgument name (value?.getD ""))
    else .error (.unknownFlag name (suggestion? name))

/-- An argument by its shape. -/
inductive Shape
  /-- A double dash alone. -/
  | endOfFlags
  /-- A double dash and more. -/
  | long
  /-- A single dash and the letters after it. -/
  | short (letters : List Char)
  | operand

/-- What follows a double dash reads as a flag: it has no blank, except in a value behind an equals
sign, and the value is then on one line. -/
def readsAsFlag (cs : List Char) : Bool :=
  let head := cs.takeWhile fun c ↦ !Text.isBlank c
  head == cs || (head.tail.contains '=' && !cs.contains '\n')

/-- The shape of an argument. -/
def shape : List Char → Shape
  | ['-', '-'] => .endOfFlags
  | '-' :: '-' :: cs => if readsAsFlag cs then .long else .operand
  | '-' :: c :: cs => if cs.any Text.isBlank then .operand else .short (c :: cs)
  | _ => .operand

/-- Reads arguments from left to right. -/
def tokens : List String → Except UsageError (List Token)
  | [] => .ok []
  | arg :: args =>
    match shape arg.toList with
    | .endOfFlags => .ok (args.map Token.operand)
    | .short letters => do
      let flags ← shortFlags letters
      return flags ++ (← tokens args)
    | .operand => do return .operand arg :: (← tokens args)
    | .long => do
      match ← longFlag arg.toList with
      | some flag => return .flag flag :: (← tokens args)
      | none =>
        match args with
        | [] => .error (.missingArgument "--log")
        | path :: args => return .flag (.log path) :: (← tokens args)

/-! ### Forms -/

/-- The options of a run. -/
structure Options where
  /-- Echo arguments and new jobs. -/
  verbose : Bool := false
  /-- Print no prompt. -/
  noPrompt : Bool := false
  /-- Where the log goes, if not to the usual place. -/
  log? : Option String := none
  deriving DecidableEq

/-- What a command line asks for. -/
inductive Invocation
  | run (options : Options)
  | help
  | version
  deriving DecidableEq

/-- Adds an option to those already given; an option is given at most once. -/
def Options.add (options : Options) : Token → Option Options
  | .flag .verbose => if options.verbose then none else some { options with verbose := true }
  | .flag .noPrompt => if options.noPrompt then none else some { options with noPrompt := true }
  | .flag (.log path) =>
    if options.log?.isSome then none else some { options with log? := some path }
  | .flag .help | .flag .version | .operand _ => none

/-- The form that the arguments fit. -/
def invocation? : List Token → Option Invocation
  | [.flag .help] => some .help
  | [.flag .version] => some .version
  | ts => (ts.foldlM Options.add {}).map Invocation.run

/-- Reads a command line. -/
def read (args : List String) : Except UsageError Invocation := do
  match invocation? (← tokens args) with
  | some invocation => return invocation
  | none => .error .noForm

end JobShell.CommandLine
