import Regex.Pattern

/-!
# Log filters

What the command logs and which of it is shown.

* `LogRecord`: a message with its level and the part of the program it comes from. The message is
  worked out only if it is shown.
* `LogFilter.ofText`: reads a filter such as `warn,pcregex=debug`.
* `LogFilter.shows`: whether a record passes.

Of several directives for a record the one with the longest name counts; a record for which there is
none is dropped.
-/

namespace Regex.Command

/-- How much is shown, from nothing to everything. -/
inductive LogLevel where
  | off
  | error
  | warn
  | info
  | debug
  | trace
  deriving DecidableEq

namespace LogLevel

/-- The levels in order. -/
def all : List LogLevel := [.off, .error, .warn, .info, .debug, .trace]

/-- The name of a level. -/
def name : LogLevel → String
  | .off => "OFF"
  | .error => "ERROR"
  | .warn => "WARN"
  | .info => "INFO"
  | .debug => "DEBUG"
  | .trace => "TRACE"

/-- The place of a level in the order. -/
def rank : LogLevel → Nat
  | .off => 0
  | .error => 1
  | .warn => 2
  | .info => 3
  | .debug => 4
  | .trace => 5

/-- The level with a name, in whatever case it is written. -/
def ofName? (text : String) : Option LogLevel := all.find? fun l => l.name = text.toUpper

end LogLevel

/-- A message for the log. -/
structure LogRecord where
  level : LogLevel
  target : String
  message : Thunk String

/-- The line that shows a record. -/
def LogRecord.line (r : LogRecord) : String :=
  let level := r.level.name
  let blanks := String.ofList (List.replicate (5 - level.length) ' ')
  "[" ++ level ++ blanks ++ " " ++ r.target ++ "] " ++ r.message.get

/-- The level up to which records are shown whose target starts with `name`. -/
structure LogDirective where
  name : String
  level : LogLevel

/-- Which records are shown. -/
structure LogFilter where
  directives : List LogDirective
  /-- What the message must match. -/
  message : Option Pattern

namespace LogFilter

/-- Reads one directive: a level, a name, or both joined by an equals sign; the error is the part
that makes no sense. -/
def directive? (text : String) : Except String LogDirective :=
  match (text.splitOn "=").map (·.trimAscii.toString) with
  | [_] =>
    match LogLevel.ofName? text with
    | some level => .ok ⟨"", level⟩
    | none => .ok ⟨text, .trace⟩
  | [name, ""] => .ok ⟨name, .trace⟩
  | [name, level] =>
    match LogLevel.ofName? level with
    | some level => .ok ⟨name, level⟩
    | none => .error level
  | _ => .error text

/-- Adds a directive in place of an earlier one of the same name. -/
def insert (directives : List LogDirective) (d : LogDirective) : List LogDirective :=
  if directives.any (·.name = d.name) then
    directives.map fun old => if old.name = d.name then d else old
  else directives ++ [d]

/-- The warning about a part of a filter that makes no sense. -/
def warning (part : String) : String :=
  "warning: invalid logging spec '" ++ part ++ "', ignoring it"

/-- Reads the directives of a filter, with warnings about those that make no sense. Without any,
errors are shown. -/
def readDirectives (text : String) : List LogDirective × List String :=
  let parts := ((text.splitOn ",").map (·.trimAscii.toString)).filter (!·.isEmpty)
  let (directives, warnings) := parts.foldl
    (fun (acc : List LogDirective × List String) part =>
      match directive? part with
      | .ok d => (insert acc.1 d, acc.2)
      | .error e => (acc.1, acc.2 ++ [warning e]))
    ([], [])
  (if directives.isEmpty then [⟨"", .error⟩] else directives, warnings)

/-- Reads a filter, with warnings about what makes no sense in it. A slash starts a pattern for the
messages. -/
def ofText (text : String) : LogFilter × List String :=
  match text.splitOn "/" with
  | [directives] =>
    let (directives, warnings) := readDirectives directives
    (⟨directives, none⟩, warnings)
  | [directives, message] =>
    let (directives, warnings) := readDirectives directives
    (⟨directives, (Pattern.compile message .utf).toOption⟩, warnings)
  | _ =>
    (⟨[⟨"", .error⟩], none⟩,
      ["warning: invalid logging spec '" ++ text ++ "' (too many '/'s), ignoring it"])

/-- The level that applies to a target: that of the longest name it starts with, and of the last of
equally long ones. -/
def levelFor (f : LogFilter) (target : String) : LogLevel :=
  let fitting := f.directives.filter fun d => d.name.isPrefixOf target
  match fitting.foldl
    (fun (best : Option LogDirective) d =>
      match best with
      | some b => if b.name.utf8ByteSize ≤ d.name.utf8ByteSize then some d else some b
      | none => some d) none with
  | some d => d.level
  | none => .off

/-- Whether a record passes. -/
def shows (f : LogFilter) (r : LogRecord) : Bool :=
  r.level.rank ≤ (f.levelFor r.target).rank &&
    match f.message with
    | none => true
    | some p => (p.firstMatch r.message.get 0 |>.toOption |>.join).isSome

end LogFilter

end Regex.Command
