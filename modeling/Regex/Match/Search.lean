import Regex.Code.Hints
import Regex.Match.Machine

/-!
# Searching a subject

* `Search`: what stays fixed during a search.
* `Search.nextStart?`: the next place at which the hints allow a match.
* `Search.run`: the first match from a place on, with what it comes to if there is none.

Matching is tried at one place after another. Verbs can end the search or let it go on further
ahead.
-/

namespace Regex.Match

open Code

/-- What stays fixed during a search. -/
structure Search where
  /-- What matching at a place depends on. -/
  context : Context
  hints : Hints
  region : Region
  /-- Whether a match must start in the first line. -/
  firstLine : Bool
  /-- Whether the pattern asks for a line break by itself. -/
  lineBreaks : Bool

/-- Where a search stands. -/
structure Progress where
  place : Nat
  /-- The number of verbs with a name to go to that do nothing this time. -/
  ignoredSkips : Nat
  /-- Where the required byte was found last. -/
  required : Option Nat
  /-- The first partial match. -/
  partialStart : Option Nat

/-- What a search comes to. -/
inductive Found where
  | matched (s : State)
  | nothing (partialStart : Option Nat)
  /-- The search was given up. -/
  | gaveUp (o : Outcome)

namespace Search

variable (s : Search)

/-- The byte at a place. -/
def byteAt (place : Nat) : UInt8 :=
  let subject := s.context.subject
  let i := subject.offset place
  if h : i < subject.bytes.size then subject.bytes[i] else 0

/-- The end of the stretch in which a match can start. -/
def startsEnd (place : Nat) : Nat :=
  if s.firstLine then
    s.context.subject.seek
      (fun i => (s.context.subject.lineEnd? s.context.newline i s.region.stop).isSome) place
      s.region.stop
  else s.region.stop

/-- Whether partial matches are looked for. -/
def wantsPartial : Bool := s.context.partiality != .no

/-- The start of the next line from `place` on, unless that is where the search started. -/
def nextLine (place stop : Nat) : Nat :=
  let subject := s.context.subject
  if place ≤ s.context.start then place
  else
    let next := subject.seek (subject.afterLineEnd s.context.newline) place stop
    let split := s.context.newline = .any || s.context.newline = .anyCrlf
    if split && next < stop && subject.code (next - 1) == 0x0D && subject.code next == 0x0A then
      next + 1
    else next

/-- The next place at which a match can start, judging by how it starts. -/
def nextStart? (place : Nat) : Option Nat :=
  let h := s.hints
  let stop := s.startsEnd place
  let reached (next : Nat) : Option Nat :=
    if !s.wantsPartial && s.region.stop ≤ next then none else some next
  let allowed (b : UInt8) : Bool :=
    h.first.any (·.contains b) || h.starts.any fun set => set.getD b.toNat false
  if h.anchored then
    if (h.first.isSome || h.starts.isSome) && !(place < stop && allowed (s.byteAt place)) then none
    else some place
  else if h.first.isSome then
    reached (s.context.subject.seek (fun i => allowed (s.byteAt i)) place stop)
  else if h.atLineStart then some (s.nextLine place stop)
  else if h.starts.isSome then
    reached (s.context.subject.seek (fun i => allowed (s.byteAt i)) place stop)
  else some place

/-- The greatest number of bytes in which the required byte is looked for. -/
def requiredReach : Nat := 5000

/-- The offset of a byte of some form in a stretch of bytes. -/
def findByte (bytes : ByteArray) (forms : ByteForms) (i stop : Nat) : Option Nat :=
  if h : i < stop ∧ i < bytes.size then
    if forms.contains (bytes.get i h.2) then some i else findByte bytes forms (i + 1) stop
  else none
termination_by stop - i

/-- Whether a match from `place` on is not ruled out by its length and the byte that it needs, and
where that byte was found. -/
def rest? (place : Nat) (required : Option Nat) : Option (Option Nat) :=
  let subject := s.context.subject
  let start := subject.offset place
  let stop := subject.offset s.region.stop
  if s.wantsPartial then some required
  else if stop - start < s.hints.minLength then none
  else
    match s.hints.required with
    | none => some required
    | some forms =>
      let from_ := start + if s.hints.first.isSome then 1 else 0
      let length := stop - start
      let worthwhile :=
        length < requiredReach || (!s.hints.anchored && length < requiredReach * 1000)
      if worthwhile && required.all (· < from_) then
        (findByte subject.bytes forms from_ stop).map some
      else some required

/-- The place after `place`. Between a carriage return and a line feed none is tried if they end a
line together. -/
def bump (place : Nat) : Nat :=
  let subject := s.context.subject
  let newline := s.context.newline
  let pairs := newline = .any || newline = .anyCrlf || newline = .crlf
  if pairs && !s.lineBreaks && s.context.start < place && place < s.region.stop &&
      subject.code (place - 1) == 0x0D && subject.code place == 0x0A then place + 1
  else place

/-- Searches from a place on, with a bound on the number of places tried. -/
def runFrom : Nat → Progress → Found
  | 0, p => .nothing p.partialStart
  | fuel + 1, p =>
    let ready : Option (Nat × Option Nat) :=
      if s.hints.enabled then do
        let place ← s.nextStart? p.place
        let required ← s.rest? place p.required
        return (place, required)
      else some (p.place, p.required)
    match ready with
    | none => .nothing p.partialStart
    | some (place, required) =>
      let (outcome, seen) := { s.context with ignoredSkips := p.ignoredSkips }.run place s.region
      let partialStart := p.partialStart.or (if seen.hitEnd then some place else none)
      match outcome with
      | .matched state => .matched state
      | .partialMatch => .nothing partialStart
      | .limit | .loop => .gaveUp outcome
      | .failed f =>
        let goOn (next ignoredSkips : Nat) : Found :=
          if s.firstLine &&
              (s.context.subject.lineEnd? s.context.newline place s.region.stop).isSome then
            .nothing partialStart
          else if s.hints.anchored || s.region.stop < next then .nothing partialStart
          else runFrom fuel ⟨s.bump next, ignoredSkips, required, partialStart⟩
        match f.signal with
        | .commit => .nothing partialStart
        | .skip next =>
          if place < next then goOn next p.ignoredSkips
          else goOn (s.context.subject.next place) 0
        | .skipTo _ => goOn place seen.skips
        | _ => goOn (s.context.subject.next place) 0

/-- The first match from a place on. No place is tried more often than there are verbs to ignore. -/
def run (place : Nat) : Found :=
  s.runFrom ((s.context.subject.size + 2) * (s.context.limit + 2)) ⟨place, 0, none, none⟩

end Search

end Regex.Match
