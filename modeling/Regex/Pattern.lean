import Regex.Program
import Regex.Text.Quoted

/-!
# Patterns

The front door of the library.

* `Pattern`: a compiled pattern with its source and options.
* `Library`: what patterns are compiled and run with, an engine and memory.
* `Library.compile`, `Library.exec`: compiling a source text and making a request, with every way in
  which they fail.
* `Library.ample`: the engine that is defined here, with as much memory as it needs.
* `Pattern.compile`, `Pattern.exec`: compiling and making a request with it.
* `Pattern.firstMatch` and its variants: the first match at or after a place in a subject. They
  differ in what they take for a subject and in whether they let the check of UTF-8 be skipped.

A pattern is a value: matching never changes it.
-/

namespace Regex

/-- A compiled pattern. -/
structure Pattern where
  source : String
  options : CompileOptions
  program : Program

/-- The number of capturing groups. -/
def Pattern.groupCount (p : Pattern) : Nat := p.program.groupCount

/-- What patterns are compiled and run with. -/
structure Library where
  /-- Whether there is memory for what a pattern keeps besides its program. -/
  hasGeneral : Bool
  /-- Whether there is memory for a context to compile in. -/
  hasContext : Bool
  /-- The program of a text, or the number of what is wrong with it and the place. -/
  program : String → EngineBits → CompileContext → Except (Int × Nat) Program
  /-- The number that says why the groups of a program cannot be counted, if so. -/
  countFault? : Program → Option Int
  /-- Whether there is memory for so many pairs of offsets. -/
  hasPairs : Nat → Bool
  engine : Program → Engine

namespace Library

variable (l : Library)

/-- Takes memory for a context, which points at the start of the pattern if there is none. -/
def allocate (hasMemory : Bool) : Except Error Unit :=
  if hasMemory then .ok () else .error (.inSetup ErrorCode.noMemory)

/-- Reads a text. -/
def read (source : String) (bits : EngineBits) (context : CompileContext) : Except Error Program :=
  match l.program source bits context with
  | .ok program => .ok program
  | .error (code, offset) => .error (.inPattern code (engineMessage code) offset)

/-- Counts the groups of a program. -/
def checkCount (program : Program) : Except Error Unit :=
  match l.countFault? program with
  | some code => .error (.inSetup code)
  | none => .ok ()

/-- Compiles a pattern. Conflicts among the options are found before the source is read. -/
def compile (source : String) (options : CompileOptions) : Except Error Pattern := do
  let resolved ← options.resolve
  allocate l.hasGeneral
  allocate l.hasContext
  let context ← CompileContext.ofOptions resolved
  let program ← l.read source ⟨resolved.native⟩ context
  l.checkCount program
  return ⟨source, options, program⟩

/-- Makes a request, whose start must not lie beyond the end of the subject. -/
def exec (p : Pattern) (request : Request) : Except Error (Option Captures) :=
  if request.subject.size < request.start then .error (.ofCode .matching ErrorCode.badOffset)
  else if l.hasPairs (p.groupCount + 1) then
    (l.engine p.program).find p.groupCount request
  else .error (.ofCode .matching ErrorCode.noMemory)

/-- The engine that is defined here, with as much memory as it needs. -/
def ample : Library where
  hasGeneral := true
  hasContext := true
  program source bits context :=
    (Program.compile source bits context).mapError fun fault =>
      (fault.cause.code, fault.offset.getD 0)
  countFault? _ := none
  hasPairs _ := true
  engine := Program.engine

end Library

namespace Pattern

/-- Compiles a pattern. -/
def compile (source : String) (options : CompileOptions) : Except Error Pattern :=
  Library.ample.compile source options

/-- With enough memory, nothing but options in conflict, a setting that is refused and a fault of
the source keeps a pattern from being compiled. -/
theorem compile_unfold (source : String) (options : CompileOptions) : compile source options = (do
    let resolved ← options.resolve
    let context ← CompileContext.ofOptions resolved
    match Program.compile source ⟨resolved.native⟩ context with
    | .ok program => return ⟨source, options, program⟩
    | .error fault => throw fault.toError) := by
  refine bind_congr fun resolved => ?_
  -- there is memory for both contexts
  show (CompileContext.ofOptions resolved >>= _) = CompileContext.ofOptions resolved >>= _
  refine bind_congr fun context => ?_
  unfold Library.read Library.ample
  dsimp only
  cases Program.compile source ⟨resolved.native⟩ context <;> rfl

/-- A description of a compiled pattern, up to what depends on the machine. -/
def describe (p : Pattern) : String :=
  "CompiledPattern \x7b pattern: " ++ Quoted.text p.source ++ ", options: " ++
    p.options.describe ++ ", capture_count: " ++ toString p.groupCount

/-- The engine that runs a pattern. -/
def engine (p : Pattern) : Engine := Library.ample.engine p.program

/-- Makes a request. -/
def exec (p : Pattern) (request : Request) : Except Error (Option Captures) :=
  Library.ample.exec p request

theorem exec_unfold (p : Pattern) (request : Request) : p.exec request =
    if request.subject.size < request.start then .error (.ofCode .matching ErrorCode.badOffset)
    else p.engine.find p.groupCount request :=
  rfl

/-- Whether `start` is the end of `subject` or the first byte of one of its characters. -/
def isBoundary (subject : ByteArray) (start : Nat) : Bool :=
  match subject[start]? with
  | some b => !Utf8.isContinuation b
  | none => start = subject.size

/-- The request for a match in a text. As the text is valid, a pattern that works on characters
need not check it again, provided that it starts between two characters. -/
def textRequest (p : Pattern) (subject : String) (start : Nat) : Except Error Request :=
  let bytes := subject.toUTF8
  if p.options.contains .utf then
    if start ≤ bytes.size && !isBoundary bytes start then
      .error (.ofCode .matching ErrorCode.badUtfOffset)
    else .ok ⟨bytes, start, .noUtfCheck⟩
  else .ok ⟨bytes, start, .empty⟩

/-- The request for a match in bytes, which are always checked. -/
def bytesRequest (subject : ByteArray) (start : Nat) (options : MatchOptions) :
    Except Error Request :=
  if options.contains .noUtfCheck then .error (.ofCode .options ErrorCode.uncheckedUtf)
  else .ok ⟨subject, start, options⟩

/-- The first match in a text. -/
def firstMatch (p : Pattern) (subject : String) (start : Nat) :
    Except Error (Option Captures) :=
  p.textRequest subject start >>= p.exec

/-- The first match in bytes. -/
def firstMatchBytes (p : Pattern) (subject : ByteArray) (start : Nat) (options : MatchOptions) :
    Except Error (Option Captures) :=
  bytesRequest subject start options >>= p.exec

/-- The part of a buffer before its first zero byte. -/
def untilNul (buffer : ByteArray) : ByteArray :=
  match buffer.findIdx? (· == 0) with
  | some length => buffer.extract 0 length
  | none => buffer

/-- The first match in the bytes before the first zero byte of a buffer. -/
def firstMatchTerminated (p : Pattern) (buffer : ByteArray) (start : Nat)
    (options : MatchOptions) : Except Error (Option Captures) :=
  p.firstMatchBytes (untilNul buffer) start options

/-- The first match in bytes. With `noUtfCheck` the caller promises that they are UTF-8 and that
`start` lies between two characters. -/
def firstMatchUnchecked (p : Pattern) (subject : ByteArray) (start : Nat)
    (options : MatchOptions) : Except Error (Option Captures) :=
  p.exec ⟨subject, start, options⟩

end Pattern

end Regex
