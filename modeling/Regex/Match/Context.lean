import Regex.Code.Node
import Regex.Match.Subject

/-!
# The setting of a match

* `Context`: what stays fixed while matching at one place is tried.
* `Seen`: what is kept whatever turn matching takes.
* `Touch`: how an item came to the end of the subject.

A partial match is one that could go on if the subject did. So it is noted when matching comes to
the end of the subject with more to be looked at.
-/

namespace Regex.Match

open Code

/-- Whether partial matches are looked for: not at all, when there is no other match, or at once. -/
inductive Partiality where
  | no
  | soft
  | hard
  deriving DecidableEq

/-- What stays fixed while matching at one place is tried. -/
structure Context where
  subject : Subject
  newline : Newline
  bsr : Bsr
  groups : GroupCodes
  /-- Where the search started. -/
  start : Nat
  /-- The first place that may be looked back to. What comes before it has not been checked. -/
  reach : Nat
  notBol : Bool
  notEmpty : Bool
  notEmptyAtStart : Bool
  endAnchored : Bool
  /-- Whether a dollar does not match before a last line ending. -/
  dollarEndonly : Bool
  /-- Whether a circumflex also matches after a last line ending. -/
  altCircumflex : Bool
  /-- Whether a reference to a group that is not set matches nothing at all. -/
  unsetMatches : Bool
  partiality : Partiality
  /-- Whether a partial match can be empty. -/
  emptyPartial : Bool
  /-- Whether calls can be nested at one place without end being looked for. -/
  checksLoops : Bool
  /-- Whether groups remember that their branches have been tried, for verbs that go to the next
  one. -/
  splits : Bool
  /-- The number of verbs with a name to go to that do nothing. -/
  ignoredSkips : Nat
  /-- The greatest number of steps that can be taken back. -/
  limit : Nat

/-- A stretch of the subject between two places. -/
structure Span where
  start : Nat
  stop : Nat
  deriving DecidableEq, Inhabited

/-- How an item came to the end of the subject. -/
inductive Touch where
  | none
  /-- It could have gone on from a place. -/
  | atEnd (place : Nat)
  /-- It depends on what comes next. -/
  | always
  deriving DecidableEq

/-- The touch of an item that has both. -/
def Touch.or : Touch → Touch → Touch
  | .none, t => t
  | t, .none => t
  | .always, _ => .always
  | .atEnd _, t => t

/-- What is kept whatever turn matching takes. -/
structure Seen where
  /-- Whether the end of the subject was come to with more to be looked at. -/
  hitEnd : Bool
  /-- The first place looked at. -/
  first : Nat
  /-- The end of what was looked at. -/
  last : Nat
  /-- The number of steps that could be taken back. -/
  calls : Nat
  /-- The number of verbs with a name to go to that have been run. -/
  skips : Nat

namespace Seen

/-- Before matching at `start`. -/
def initial (start : Nat) : Seen := ⟨false, start, start, 1, 0⟩

/-- Notes a touch; none if matching ends with a partial match. -/
def touch (ctx : Context) (s : Seen) (t : Touch) : Option Seen :=
  let hit : Bool :=
    match ctx.partiality, t with
    | .no, _ | _, .none => false
    | _, .always => true
    | _, .atEnd place => s.first < place || ctx.emptyPartial
  if hit then if ctx.partiality = .hard then none else some { s with hitEnd := true }
  else some s

/-- Notes that the place before `place` was looked at. -/
def upTo (s : Seen) (place : Nat) : Seen := if s.last < place then { s with last := place } else s

/-- Notes that `place` was looked at. -/
def downTo (s : Seen) (place : Nat) : Seen :=
  if place < s.first then { s with first := place } else s

/-- Counts a step that can be taken back. -/
def call (s : Seen) : Seen := { s with calls := s.calls + 1 }

end Seen

/-- The stretch of the subject that is searched. -/
structure Region where
  /-- Where characters end. -/
  stop : Nat
  /-- Where the subject ends, which can be further on. -/
  final : Nat
  /-- Whether `stop` does not end a line. -/
  notEol : Bool
  deriving DecidableEq

end Regex.Match
