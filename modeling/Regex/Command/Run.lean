import Regex.Command.Arguments
import Regex.Command.Log
import Regex.Command.Report

/-!
# Running the command

* `Outcome`: exit code and output of a run.
* `inputLines`: the lines of the standard input.
* `Batch.ofSubjects`: matches subjects in order, up to the first failure.
* `readsInput`: whether the command reads the standard input.
* `run`: the whole command as a function of its arguments, its input and the log filter.

A run exits with 0 if some subject matched, with 1 if none did, with 2 after an error, and with 101
if a range could not be shown.
-/

namespace Regex.Command

/-- What a run leaves behind. -/
structure Outcome where
  exit : Nat
  stdout : String
  stderr : String
  deriving DecidableEq

/-- Lines as text, each ended by a line feed. -/
def linesText (lines : List String) : String := String.join (lines.map (· ++ "\n"))

/-- Splits bytes behind each line feed; the line feeds are dropped, and a carriage return before one
as well. What follows the last line feed is a line unless it is empty. -/
def inputLines (input : List UInt8) : List (List UInt8) :=
  let rec split (line : List UInt8) : List UInt8 → List (List UInt8)
    | [] => if line.isEmpty then [] else [line.reverse]
    | b :: rest =>
      if b = 0x0A then
        let whole := match line with
          | 0x0D :: before => before
          | _ => line
        whole.reverse :: split [] rest
      else split (b :: line) rest
  split [] input

/-- Why a batch stopped. -/
inductive Failure where
  | error (e : Error)
  /-- A line of the input is not text. -/
  | notText
  /-- A range has no text. -/
  | brokenRange (range : Range)

/-- The text that tells of a failure. -/
def Failure.message : Failure → String
  | .error e => e.display
  | .notText => "stream did not contain valid UTF-8"
  | .brokenRange range =>
    "slice index starts at " ++ toString range.start ++ " but ends at " ++ toString range.stop

/-- The result of matching subjects in order: the lines printed, whether something matched, and why
the batch stopped early, if it did. -/
structure Batch where
  lines : List String
  matched : Bool
  log : List LogRecord
  failure : Option Failure

namespace Batch

/-- The record of an engine's answer. -/
def answerRecord (p : Pattern) (request : Request) : LogRecord :=
  ⟨.trace, "pcregex_core::matcher",
    Quoted.text p.source ++ " at " ++ toString request.start ++ ": engine returned " ++
      toString (p.engine.attempts request).answer.code⟩

/-- The records of a match in bytes: one for each request that reaches the engine. -/
def records (p : Pattern) (settings : Settings) (subject : String) : List LogRecord :=
  match Pattern.bytesRequest subject.toUTF8 settings.startOffset settings.matchOptions with
  | .ok request =>
    if request.subject.size < request.start then [] else [answerRecord p request]
  | .error _ => []

/-- Matches one subject. -/
def ofSubject (p : Pattern) (settings : Settings) (subject : String) : Batch :=
  let log := records p settings subject
  match p.firstMatchBytes subject.toUTF8 settings.startOffset settings.matchOptions with
  | .error e => ⟨[], false, log, some (.error e)⟩
  | .ok found =>
    let report := Report.ofMatch subject found
    ⟨report.lines, found.isSome, log, report.broken.map .brokenRange⟩

/-- One batch after another; nothing follows a failure. -/
def append (a : Batch) (b : Unit → Batch) : Batch :=
  match a.failure with
  | some _ => a
  | none =>
    let b := b ()
    ⟨a.lines ++ b.lines, a.matched || b.matched, a.log ++ b.log, b.failure⟩

/-- Matches subjects in order; a subject that is not text ends the batch. -/
def ofSubjects (p : Pattern) (settings : Settings) : List (Option String) → Batch
  | [] => ⟨[], false, [], none⟩
  | none :: _ => ⟨[], false, [], some .notText⟩
  | some subject :: rest =>
    (ofSubject p settings subject).append fun _ => ofSubjects p settings rest

/-- The exit code. -/
def exit (b : Batch) : Nat :=
  match b.failure with
  | some (.brokenRange _) => 101
  | some _ => 2
  | none => if b.matched then 0 else 1

end Batch

/-- The log filter that a count of requests for logging stands for. -/
def defaultFilter (verbose : Nat) : String :=
  match verbose with
  | 0 => "warn"
  | 1 => "debug"
  | _ => "trace"

/-- The record of a compiled pattern. -/
def compiledRecord (p : Pattern) : LogRecord :=
  ⟨.trace, "pcregex_core::pattern",
    "compiled " ++ Quoted.text p.source ++ " (" ++ toString p.groupCount ++ " groups, studied: ?)"⟩

/-- The record of the pattern in use. -/
def patternRecord (p : Pattern) : LogRecord :=
  ⟨.debug, "pcregex", p.describe ++ ", studied: ? \x7d"⟩

/-- What a failure adds to the error output, log lines included. -/
def failureLines (shown : LogRecord → Bool) (f : Failure) : List String :=
  match f with
  | .brokenRange _ => [f.message]
  | _ =>
    (([⟨.error, "pcregex", f.message⟩] : List LogRecord).filter shown).map (·.line) ++
      ["pcregex: " ++ f.message]

/-- Compiles the pattern and matches the subjects. -/
def search (settings : Settings) (source : String) (subjects : List (Option String))
    (shown : LogRecord → Bool) : Outcome :=
  match Pattern.compile source settings.compileOptions with
  | .error e => ⟨2, "", linesText (failureLines shown (.error e))⟩
  | .ok p =>
    let batch := Batch.ofSubjects p settings subjects
    let records := compiledRecord p :: patternRecord p :: batch.log
    let log := (records.filter shown).map (·.line)
    let failure := (batch.failure.map (failureLines shown)).getD []
    ⟨batch.exit, linesText batch.lines, linesText (log ++ failure)⟩

/-- Whether a run reads the standard input: it matches, its pattern compiles, and no subject is
given. -/
def readsInput (arguments : List (List UInt8)) : Bool :=
  match Invocation.ofArguments arguments with
  | .ok ⟨settings, .search source []⟩ => (Pattern.compile source settings.compileOptions).isOk
  | _ => false

/-- Runs the command. `filter` replaces the log filter that the arguments ask for. -/
def run (arguments : List (List UInt8)) (input : List UInt8) (filter : Option String) : Outcome :=
  match Invocation.ofArguments arguments with
  | .error e => ⟨2, "", "pcregex: " ++ e.message ++ "\n\n" ++ usageText ++ "\n"⟩
  | .ok ⟨settings, mode⟩ =>
    let (logFilter, warnings) := LogFilter.ofText (filter.getD (defaultFilter settings.verbose))
    let outcome : Outcome := match mode with
      | .help => ⟨0, usageText ++ "\n", ""⟩
      | .describe code => ⟨0, toString code ++ ": " ++ describeErrorCode code ++ "\n", ""⟩
      | .search source subjects =>
        let subjects :=
          if subjects.isEmpty then (inputLines input).map Utf8.text? else subjects.map some
        search settings source subjects logFilter.shows
    { outcome with stderr := linesText warnings ++ outcome.stderr }

end Regex.Command
