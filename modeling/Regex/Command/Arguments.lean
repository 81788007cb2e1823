import Regex.Command.Usage
import Regex.Options

/-!
# Arguments of the command

What a list of arguments asks for.

* `Settings` and `Mode`: the options gathered, and what is to be done.
* `Invocation.ofArguments`: reads a list of arguments, which are bytes and need not be text.

Arguments are read from left to right; the first help option or the first faulty argument decides,
whatever follows. Short options may be written together behind one hyphen. An option with a value
takes it from behind an equals sign, or else takes the next argument, whatever that looks like.
-/

namespace Regex.Command

/-- The options of a run. -/
structure Settings where
  compileOptions : CompileOptions
  matchOptions : MatchOptions
  startOffset : Nat
  verbose : Nat
  deriving DecidableEq

/-- What is to be done. -/
inductive Mode where
  /-- Match each subject, or each line of the input if there are none. -/
  | search (pattern : String) (subjects : List String)
  /-- Show the text of an error number. -/
  | describe (code : Int)
  | help
  deriving DecidableEq

/-- A run of the command. -/
structure Invocation where
  settings : Settings
  mode : Mode
  deriving DecidableEq

/-- What has been gathered from the arguments read so far. -/
structure Draft where
  settings : Settings
  describe : Option Int
  positional : List String

namespace Draft

/-- Nothing gathered yet. -/
def empty : Draft := ⟨⟨.empty, .empty, 0, 0⟩, none, []⟩

/-- Adds compile options. -/
def withCompile (d : Draft) (options : CompileOptions) : Draft :=
  { d with settings.compileOptions := d.settings.compileOptions ||| options }

/-- Adds match options. -/
def withMatch (d : Draft) (options : MatchOptions) : Draft :=
  { d with settings.matchOptions := d.settings.matchOptions ||| options }

/-- Counts one more request for logging; the count stops at 255. -/
def withVerbose (d : Draft) : Draft :=
  { d with settings.verbose := min 255 (d.settings.verbose + 1) }

/-- Adds a positional argument. -/
def withPositional (d : Draft) (value : String) : Draft :=
  { d with positional := d.positional ++ [value] }

/-- The run that asks for help. -/
def help (d : Draft) : Invocation := ⟨d.settings, .help⟩

/-- The run asked for when all arguments are read: a description comes first. -/
def finish (d : Draft) : Except UsageError Invocation :=
  match d.describe, d.positional with
  | some code, _ => .ok ⟨d.settings, .describe code⟩
  | none, pattern :: subjects => .ok ⟨d.settings, .search pattern subjects⟩
  | none, [] => .error .missingPattern

end Draft

/-- Argument bytes as text. -/
def textOf (value : List UInt8) : Except UsageError String :=
  match Utf8.text? value with
  | some text => .ok text
  | none => .error (.notText value)

/-- The newline conventions by name. -/
def newlineKinds : List (String × CompileOptions) :=
  [("cr", .newlineCr), ("lf", .newlineLf), ("crlf", .newlineCrlf), ("any", .newlineAny),
   ("anycrlf", .newlineAnycrlf), ("nul", .newlineNul)]

/-- The kinds of partial matching by name. -/
def partialKinds : List (String × MatchOptions) :=
  [("soft", .partialSoft), ("hard", .partialHard)]

/-- A number given as the value of an option. -/
def numberOf {α : Type} (read : List Char → Except Decimal.Fault α) (value : List UInt8) :
    Except UsageError α := do
  let text ← textOf value
  match read text.toList with
  | .ok n => return n
  | .error fault => throw (.badNumber text fault)

/-- What an option with a value does, given its name. -/
def valuedOption? (name : String) : Option (Draft → List UInt8 → Except UsageError Draft) :=
  if name = "newline" then some fun d value => do
    let kind ← textOf value
    match newlineKinds.lookup kind with
    | some options => return d.withCompile options
    | none => throw (.unknownNewline kind)
  else if name = "offset" then some fun d value => do
    let n ← numberOf (Decimal.readNatural 0xFFFFFFFFFFFFFFFF) value
    return { d with settings.startOffset := n }
  else if name = "partial" then some fun d value => do
    let kind ← textOf value
    match partialKinds.lookup kind with
    | some options => return d.withMatch options
    | none => throw (.unknownPartial kind)
  else if name = "describe" then some fun d value => do
    let code ← numberOf (Decimal.readInteger 0x7FFFFFFF) value
    return { d with describe := some code }
  else none

/-- What an option without a value does, given its long name. -/
def longFlag? (name : String) : Option (Draft → Draft) :=
  if name = "notbol" then some (·.withMatch .notbol)
  else if name = "noteol" then some (·.withMatch .noteol)
  else if name = "notempty" then some (·.withMatch .notempty)
  else none

/-- What an option without a value does, given its letter. -/
def shortFlag? (letter : Char) : Option (Draft → Draft) :=
  match letter with
  | 'i' => some (·.withCompile .caseless)
  | 'm' => some (·.withCompile .multiline)
  | 's' => some (·.withCompile .dotall)
  | 'x' => some (·.withCompile .extended)
  | 'u' => some (·.withCompile .utf)
  | 'U' => some (·.withCompile .ungreedy)
  | 'A' => some (·.withCompile .anchored)
  | 'v' => some (·.withVerbose)
  | _ => none

/-- The result of reading one argument: the run is decided, or there is more to read. -/
inductive Progress where
  | decided (run : Invocation)
  | more (d : Draft)

/-- The letters of a cluster of short options; a broken character counts as U+FFFD. -/
def lettersOf (bytes : List UInt8) : List Char :=
  (Utf8.pieces bytes).map fun
    | .char c => c
    | .broken _ => '\uFFFD'

/-- Reads the letters of a cluster. -/
def readLetters (d : Draft) : List Char → Except UsageError Progress
  | [] => .ok (.more d)
  | letter :: rest =>
    if letter = 'h' then .ok (.decided d.help)
    else match shortFlag? letter with
      | some act => readLetters (act d) rest
      | none => .error (.invalidOption (String.ofList ['-', letter]))

/-- A name before an equals sign and the value behind it, if there is one. -/
def splitValue (bytes : List UInt8) : List UInt8 × Option (List UInt8) :=
  let name := bytes.takeWhile (· != 0x3D)
  match bytes.drop name.length with
  | [] => (name, none)
  | _ :: value => (name, some value)

/-- Reads a cluster of short options, given without its hyphen. An equals sign in the first place is
a letter like others; behind a letter it starts a value, which no short option takes. -/
def readCluster (d : Draft) : List UInt8 → Except UsageError Progress
  | [] => .ok (.more d)
  | first :: rest => do
    let (others, value) := splitValue rest
    let letters := lettersOf (first :: others)
    match ← readLetters d letters, value with
    | .more _, some value =>
      throw (.unexpectedValue (String.ofList ('-' :: letters.getLast?.toList)) value)
    | progress, _ => return progress

/-- Reads a long option that takes no value, given without its hyphens. -/
def readLong (d : Draft) (name : String) (value : Option (List UInt8)) :
    Except UsageError Progress :=
  if name = "help" then .ok (.decided d.help)
  else match longFlag? name, value with
    | none, _ => .error (.invalidOption ("--" ++ name))
    | some _, some value => .error (.unexpectedValue ("--" ++ name) value)
    | some act, none => .ok (.more (act d))

/-- Reads arguments behind `--`, which are all positional. -/
def readPositionals (d : Draft) : List (List UInt8) → Except UsageError Invocation
  | [] => d.finish
  | value :: rest => do readPositionals (d.withPositional (← textOf value)) rest

/-- Reads arguments. -/
def readArguments (d : Draft) : List (List UInt8) → Except UsageError Invocation
  | [] => d.finish
  | (0x2D :: 0x2D :: long) :: rest =>
    if long.isEmpty then readPositionals d rest
    else
      let (nameBytes, value) := splitValue long
      let name := Utf8.lossy nameBytes
      match valuedOption? name, value, rest with
      | some act, some value, rest => do readArguments (← act d value) rest
      | some act, none, value :: rest => do readArguments (← act d value) rest
      | some _, none, [] => .error (.missingValue ("--" ++ name))
      | none, value, rest => do
        match ← readLong d name value with
        | .decided run => return run
        | .more d => readArguments d rest
  | (0x2D :: first :: cluster) :: rest => do
    match ← readCluster d (first :: cluster) with
    | .decided run => return run
    | .more d => readArguments d rest
  | value :: rest => do readArguments (d.withPositional (← textOf value)) rest

/-- The run that arguments ask for. -/
def Invocation.ofArguments (arguments : List (List UInt8)) : Except UsageError Invocation :=
  readArguments .empty arguments

end Regex.Command
