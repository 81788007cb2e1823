import Regex.Match.Cluster
import Regex.Match.Context

/-!
# Single items

How the items that are no groups match.

* `Context.probe`: takes one character.
* `Context.takeSome`: takes characters one after another.
* `Context.giveBack`: the place after one character less.
* `Context.holdsAt`: whether a place fits.
* `Context.back?`: goes back by some characters.
* `Context.takeRef`: takes the text of a group once more.
-/

namespace Regex.Match

open Chars Code Syntax

/-- The outcome of an attempt to take something: the place after it, if it matched. -/
structure Probe where
  next : Option Nat
  touch : Touch

namespace Probe

/-- No match. -/
def reject : Probe := ⟨none, .none⟩

/-- No match at the end of the subject. -/
def rejectAt (place : Nat) : Probe := ⟨none, .atEnd place⟩

/-- A match up to `next`. -/
def accept (next : Nat) : Probe := ⟨some next, .none⟩

end Probe

namespace Context

variable (ctx : Context)

/-- Whether `place` is before what may be the first half of a line ending of two characters. -/
def halfLineEnd (r : Region) (place : Nat) : Bool :=
  ctx.newline = .crlf && r.stop ≤ place + 1 && ctx.subject.code place == 0x0D

/-- Takes a line ending. When it is one of a row, a single CR at the end of the subject is no reason
for a partial match. -/
def probeLineEnding (r : Region) (place : Nat) (inRow : Bool) : Probe :=
  let next := ctx.subject.next place
  match ctx.subject.code place with
  | 0x0D =>
    if next < r.stop then
      .accept (if ctx.subject.code next = 0x0A then ctx.subject.next next else next)
    else ⟨some next, if inRow then .none else .atEnd next⟩
  | 0x0A => .accept next
  | c => if ctx.bsr = .unicode && isVerticalSpace c then .accept next else .reject

/-- Takes one character, or what counts as one. -/
def probe (r : Region) (t : Test) (place : Nat) (inRow : Bool) : Probe :=
  match t with
  | .notNewline =>
    if (ctx.subject.lineEnd? ctx.newline place r.stop).isSome then .reject
    else if r.stop ≤ place then .rejectAt place
    else
      ⟨some (ctx.subject.next place), if ctx.halfLineEnd r place then .always else .none⟩
  | t =>
    if r.stop ≤ place then .rejectAt place
    else
      match t with
      | .byte => .accept (place + 1)
      | .lineEnding => ctx.probeLineEnding r place inRow
      | .cluster =>
        let next := ctx.subject.clusterEnd place r.stop
        ⟨some next, if r.stop ≤ next then .atEnd next else .none⟩
      | t =>
        if t.accepts (ctx.subject.code place) then .accept (ctx.subject.next place) else .reject

/-- Some characters that were taken: their number, the place after them, and whether more could have
been. -/
structure Taken where
  count : Nat
  place : Nat
  touch : Touch

/-- Takes at most `left` characters that pass a test about a code point alone; `count` have been
taken before. -/
def takeCodes (r : Region) (t : Test) : Nat → Nat → Nat → Taken
  | 0, count, place => ⟨count, place, .none⟩
  | left + 1, count, place =>
    if place < r.stop then
      if t.accepts (ctx.subject.code place) then
        takeCodes r t left (count + 1) (ctx.subject.next place)
      else ⟨count, place, .none⟩
    else ⟨count, place, .atEnd place⟩

/-- Takes at most `left` characters one by one; `count` have been taken before. -/
def takeOneByOne (r : Region) (t : Test) (touch : Touch) : Nat → Nat → Nat → Taken
  | 0, count, place => ⟨count, place, touch⟩
  | left + 1, count, place =>
    let p := ctx.probe r t place true
    let touch := touch.or p.touch
    match p.next with
    | none => ⟨count, place, touch⟩
    | some next =>
      if touch = .always && ctx.partiality = .hard then ⟨count, place, touch⟩
      else takeOneByOne r t touch left (count + 1) next

/-- Takes at most `max` characters. There are no more than places up to the end of the subject. -/
def takeSome (r : Region) (t : Test) (max : Option Nat) (place : Nat) : Taken :=
  let bound := r.stop - place + 1
  let most := match max with
    | some max => if max < bound then max else bound
    | none => bound
  if t.isSimple then ctx.takeCodes r t most 0 place else ctx.takeOneByOne r t .none most 0 place

/-- The place to go on from when one of a row of characters is given back. -/
def giveBack (t : Test) (place least : Nat) : Nat :=
  match t with
  | .byte => place - 1
  | .cluster => ctx.subject.clusterBack place least
  | .lineEnding =>
    let before := ctx.subject.previous place
    if least < before && ctx.subject.code before == 0x0A &&
        ctx.subject.code (ctx.subject.previous before) == 0x0D then ctx.subject.previous before
    else before
  | _ => ctx.subject.previous place

/-- Whether `place` is before the end of the subject or before a line ending at its end. -/
def atLastLineEnd (r : Region) (place : Nat) : Bool × Touch :=
  if place < r.final && ctx.subject.lineEnd? ctx.newline place r.stop != some r.final then
    (false, if ctx.halfLineEnd r place then .always else .none)
  else (true, .always)

/-- Whether a character counts as part of a word. -/
def isWordAt (unicode : Bool) (place : Nat) : Bool :=
  let c := ctx.subject.code place
  if unicode then Property.word.contains c else isWord c

/-- Whether the edge of a word at `place` depends on the character before it. Where the subject has
not been checked before `place`, there is none. -/
def looksBack (place : Nat) : Bool := 0 < place && place != ctx.reach

/-- Whether a place that takes no characters fits. -/
def holdsAt (r : Region) (p : Point) (place : Nat) : Bool × Touch :=
  match p with
  | .lineStart multiline =>
    if place = 0 then (!ctx.notBol, .none)
    else
      (multiline && (place < r.stop || ctx.altCircumflex) &&
        ctx.subject.afterLineEnd ctx.newline place, .none)
  | .lineEnd true =>
    if place < r.stop then
      if (ctx.subject.lineEnd? ctx.newline place r.stop).isSome then (true, .none)
      else (false, if ctx.halfLineEnd r place then .always else .none)
    else if r.notEol then (false, .none)
    else (true, .atEnd place)
  | .lineEnd false =>
    if r.notEol then (false, .none)
    else if ctx.dollarEndonly then
      if place < r.final then (false, .none) else (true, .always)
    else ctx.atLastLineEnd r place
  | .subjectStart => (place = 0, .none)
  | .subjectEnd => if place < r.final then (false, .none) else (true, .always)
  | .lastLineEnd => ctx.atLastLineEnd r place
  | .matchStart => (place = ctx.start, .none)
  | .wordBoundary unicode negated =>
    let before := ctx.looksBack place && ctx.isWordAt unicode (ctx.subject.previous place)
    let after := place < r.stop && ctx.isWordAt unicode place
    ((before != after) != negated, if place < r.stop then .none else .atEnd place)

/-- The places that are looked at around an edge of a word. -/
def lookAround (r : Region) (p : Point) (place : Nat) (seen : Seen) : Seen :=
  match p with
  | .wordBoundary _ _ =>
    let seen := if ctx.looksBack place then seen.downTo (ctx.subject.previous place) else seen
    if place < r.stop then seen.upTo (ctx.subject.next place) else seen
  | _ => seen

/-- The place `n` characters before `place`, if so many may be looked at. -/
def back? (place : Nat) : Nat → Option Nat
  | 0 => some place
  | n + 1 =>
    if ctx.reach < place && ctx.subject.hasPrevious place then
      back? (ctx.subject.previous place) n
    else none

/-- The first range of some groups that is set. -/
def firstSet (captures : Array (Option Span)) (groups : List Nat) : Option Span :=
  groups.findSome? fun g => (captures[g]?).join

/-- Whether the character `c` stands for the character `d` of a group's text. -/
def sameChar (casing : Casing) (c d : Nat) : Bool :=
  c == d || (casing.ignored && (casing.forms d).contains c)

/-- Takes the text from `source` to `stop` once more: the place after it. A partial match goes up to
the end of the subject. -/
def takeText (r : Region) (casing : Casing) (stop fuel source place : Nat) : Probe :=
  match fuel with
  | 0 => .accept place
  | fuel + 1 =>
    if stop ≤ source then .accept place
    else if r.stop ≤ place then
      if casing.ignored || ctx.partiality != .no then .rejectAt r.stop else .reject
    else if sameChar casing (ctx.subject.code place) (ctx.subject.code source) then
      takeText r casing stop fuel (ctx.subject.next source) (ctx.subject.next place)
    else .reject

/-- Takes the text of a group once more. -/
def takeRef (r : Region) (casing : Casing) (text : Option Span) (place : Nat) : Probe :=
  match text with
  | none =>
    if ctx.unsetMatches then .accept place
    else if r.stop ≤ place then .rejectAt place else .reject
  | some text =>
    match ctx.takeText r casing text.stop (text.stop - text.start + 1) text.start place with
    | ⟨none, .none⟩ => if r.stop ≤ place then .rejectAt place else .reject
    | p => p

/-- Takes the text of a group at most `max` times: the places after each time, the last one
first. -/
def takeRefs (r : Region) (casing : Casing) (text : Option Span) (max : Option Nat)
    (fuel : Nat) (places : List Nat) (place : Nat) : List Nat × Nat × Touch :=
  match fuel with
  | 0 => (places, place, .none)
  | fuel + 1 =>
    if max == some places.length then (places, place, .none)
    else
      match ctx.takeRef r casing text place with
      | ⟨some next, _⟩ => takeRefs r casing text max fuel (place :: places) next
      | ⟨none, touch⟩ => (places, place, touch)

end Context

end Regex.Match
