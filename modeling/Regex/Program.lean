import Regex.Code.Hints
import Regex.Code.Possessive
import Regex.Engine
import Regex.Match.Search
import Regex.Syntax.Preamble

/-!
# Programs

A pattern as the engine holds it.

* `Program.compile`: the program of a pattern's text, and `Program.ofText` that of the text after
  the settings at its head.
* `Program.run`: the answer to a request, and `Program.engine` the engine that gives it.

A subject of characters must be UTF-8 from a little before the place where the search starts. A
program may allow broken parts; then it is matched between them.

A request is answered by machine code or by interpreting the program. Machine code is not modelled
as such: what it comes to is what matching comes to here, but that it looks back without a limit.
-/

namespace Regex

open Code Match

/-- A pattern ready to be run. -/
structure Program where
  dialect : Dialect
  groupCount : Nat
  groups : GroupCodes
  hints : Hints
  /-- Whether a verb occurs that goes to the next branch. -/
  splits : Bool
  /-- Whether a line break is asked for by itself. -/
  lineBreaks : Bool
  /-- Whether single bytes are taken out of characters. -/
  bytes : Bool
  /-- How many characters are looked at before the place where matching starts. -/
  farthest : Nat
  /-- Whether there may be a match of nothing. -/
  matchesEmpty : Bool

namespace Program

/-- Compiles a text without settings at its head. -/
def ofText (d : Dialect) (modes : Modes) (text : String) : Except PatternFault Program := do
  let s := Syntax.Source.ofText d.utf text
  let pattern ← Syntax.readPattern s d modes
  let behinds ← Syntax.Lookbehinds.of pattern (Syntax.GroupTable.of pattern)
    (d.bits.has EngineBits.matchUnsetBackref)
  let (code, a) ← assemble ⟨d, pattern, behinds.reaches, s.length⟩ behinds.farthest
  let branches := if d.autoPossess then possessify d.utf a.calls code.branches else code.branches
  let hints := Hints.of d code a branches pattern.groups pattern.shared
  return {
    dialect := d
    groupCount := pattern.groups
    groups := GroupCodes.of (spreadBranches branches) pattern.groups
    hints
    splits := a.splits
    lineBreaks := a.lineBreaks
    bytes := a.bytes
    farthest := a.farthest
    matchesEmpty := !code.certain }

/-- Compiles the text of a pattern: the settings at its head say how the rest is to be understood.
Faults in the rest are reported where they stand in the whole. -/
def compile (source : String) (bits : EngineBits) (context : CompileContext) :
    Except PatternFault Program := do
  let head ← Syntax.Preamble.read bits context source.toList
  (ofText head.dialect head.modes (head.body source)).mapError (·.after head.length)

/-- The options that a match can be given. -/
def matchFlags : UInt32 := 0xE004603F

/-- Lets a group call itself at one place without this being looked for. -/
def noLoopCheck : MatchOptions := ⟨0x40000⟩

/-- The options that machine code knows. -/
def fastFlags : UInt32 := 0x4000403F

/-- Whether machine code is made of a program. It cannot take single bytes out of characters. -/
def studied (p : Program) : Bool := p.dialect.fastPath && !(p.dialect.utf && p.bytes)

/-- Whether a request is answered by machine code; if not, the program is interpreted. -/
def isFast (p : Program) (request : Request) : Bool :=
  p.studied && request.options.bits &&& ~~~fastFlags == 0

/-- Whether subjects may have broken parts. -/
def allowsBroken (p : Program) : Bool := p.dialect.bits.has EngineBits.matchInvalidUtf

/-- The offset `n` characters before `offset`, or 0. -/
def stepBack (subject : ByteArray) (n offset : Nat) : Nat :=
  match n, offset with
  | 0, _ => offset
  | _, 0 => 0
  | n + 1, offset + 1 => stepBack subject n (start offset)
where
  /-- The first byte of the character that a byte belongs to. -/
  start : Nat → Nat
    | 0 => 0
    | i + 1 => if Utf8.isContinuation (subject.get! (i + 1)) then start i else i + 1

/-- The number of what is wrong with a subject, as far as it is looked at. -/
def utfFault? (p : Program) (subject : ByteArray) (start : Nat) : Option Int :=
  let inside := start < subject.size && Utf8.isContinuation (subject.get! start)
  if inside then some (if 0 < start then ErrorCode.badUtfOffset else -22)
  else
    let first := stepBack subject p.farthest start
    (Utf8.defect? 0 (subject.extract first subject.size).toList).map (·.2.code)

/-- The subject as places. -/
def subjectOf (p : Program) (bytes : ByteArray) : Subject :=
  if !p.dialect.utf then .ofBytes bytes
  else if p.bytes then .ofUnits bytes
  else .ofChars bytes

/-- The first place from an offset on where a character starts. -/
def firstStart (subject : Subject) (offset : Nat) : Nat :=
  let place := subject.placeAt offset
  let place := if subject.offset place < offset then place + 1 else place
  subject.seek
    (fun i =>
      subject.code i != Subject.brokenCode ||
        !Utf8.isContinuation (subject.bytes.get! (subject.offset i)))
    place subject.size

/-- The first place that may be looked back to. An interpreted match does not look at what comes
before the part of the subject that is checked. Machine code does, and so does a match in a subject
that is not checked. -/
def reach (p : Program) (subject : Subject) (request : Request) : Nat :=
  let first := subject.placeAt (stepBack request.subject p.farthest request.start)
  let inside := request.start < request.subject.size &&
    Utf8.isContinuation (request.subject.get! request.start)
  if !p.dialect.utf || p.isFast request then 0
  else if p.allowsBroken then if inside then firstStart subject request.start else first
  else if request.options.contains .noUtfCheck then 0
  else first

/-- What matching depends on. -/
def context (p : Program) (subject : Subject) (request : Request) : Context :=
  let d := p.dialect
  let has (flag : MatchOptions) : Bool := request.options.contains flag
  { subject
    newline := d.newline
    bsr := d.bsr
    groups := p.groups
    start := subject.placeAt request.start
    reach := p.reach subject request
    notBol := has .notbol
    notEmpty := d.notEmpty || has .notempty
    notEmptyAtStart := d.notEmptyAtStart || has .notemptyAtstart
    endAnchored := d.bits.has EngineBits.endanchored || has .endanchored
    dollarEndonly := d.bits.has EngineBits.dollarEndonly
    altCircumflex := d.bits.has EngineBits.altCircumflex
    unsetMatches := d.bits.has EngineBits.matchUnsetBackref
    partiality := if has .partialHard then .hard else if has .partialSoft then .soft else .no
    emptyPartial := 0 < p.farthest || p.matchesEmpty
    checksLoops := !has noLoopCheck
    splits := p.splits
    ignoredSkips := 0
    limit := d.matchLimit }

/-- The search that a request asks for. -/
def search (p : Program) (subject : Subject) (request : Request) : Search :=
  let anchored := p.hints.anchored || request.options.contains .anchored
  { context := p.context subject request
    hints := { p.hints with anchored }
    region := ⟨subject.size, subject.size, request.options.contains .noteol⟩
    firstLine := !anchored && p.dialect.bits.has EngineBits.firstline
    lineBreaks := p.lineBreaks }

/-- The place from `place` on where the next broken part starts. -/
def nextBroken (subject : Subject) (place : Nat) : Nat :=
  subject.seek (fun i => subject.code i == Subject.brokenCode) place subject.size

/-- Searches one part after another of a subject with broken parts. -/
def searchParts (s : Search) (notEol : Bool) : Nat → Nat → Found
  | 0, _ => .nothing none
  | fuel + 1, place =>
    let subject := s.context.subject
    let stop := nextBroken subject place
    let part := { s with region := ⟨stop, subject.size, notEol || stop < subject.size⟩ }
    match part.run place with
    | .nothing partialStart =>
      if stop = subject.size then .nothing partialStart
      else
        let next := subject.seek (fun i => subject.code i != Subject.brokenCode) stop subject.size
        if next = subject.size then .nothing none else searchParts s notEol fuel next
    | found => found

/-- The answer to a match: its groups, as far as the last one that is set. -/
def answerOf (subject : Subject) (s : State) : Answer :=
  let offsets (span : Span) : List (Option Nat) :=
    [some (subject.offset span.start), some (subject.offset span.stop)]
  let whole := offsets ⟨s.keep, s.place⟩
  let groups := s.captures.toList.drop 1
  let last := (groups.reverse.dropWhile (·.isNone)).length
  ⟨1 + last, (whole ++ groups.flatMap fun g => (g.map offsets).getD [none, none]).toArray⟩

/-- The answer to a request. -/
def run (p : Program) (request : Request) : Answer :=
  let d := p.dialect
  let refuse (code : Int) : Answer := ⟨code, #[]⟩
  let has (flag : MatchOptions) : Bool := request.options.contains flag
  let wantsPartial := has .partialHard || has .partialSoft
  if request.options.bits &&& ~~~matchFlags != 0 then refuse ErrorCode.badOption
  else if wantsPartial && (d.bits.has EngineBits.endanchored || has .endanchored) then
    refuse ErrorCode.badOption
  else
    let checked := d.utf && !has .noUtfCheck && !p.allowsBroken
    match if checked then p.utfFault? request.subject request.start else none with
    | some code => refuse code
    | none =>
      let subject := p.subjectOf request.subject
      let s := p.search subject request
      let found :=
        if d.utf && p.allowsBroken then
          searchParts s (has .noteol) (subject.size + 1) (firstStart subject request.start)
        else s.run s.context.start
      match found with
      | .matched state => answerOf subject state
      | .gaveUp .loop => refuse ErrorCode.recursionLoop
      | .gaveUp _ => refuse ErrorCode.matchLimit
      | .nothing (some start) =>
        ⟨ErrorCode.partialMatch, #[some (subject.offset start), some request.subject.size]⟩
      | .nothing none => refuse ErrorCode.noMatch

/-- The engine that runs a program as it is defined here. It has as much memory as it needs, and its
machine code keeps what is promised of machine code: that matches do not depend on it. -/
def engine (p : Program) : Engine := ⟨p.studied, p.run⟩

end Program

end Regex
