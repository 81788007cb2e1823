import Regex.Match.Item

/-!
# States of a match

* `State`: where matching stands, and what is left to be done.
* `Frame`: a group or call that has been entered.
* `Choice`: a place where matching can go on in another way.
* `Failure`: how matching failed, which decides where it goes on.

A state is plain data, so going back is to take an older one. Frames name the choices that were
there when they were entered by their number, so that leaving an atomic group is to forget the later
ones.
-/

namespace Regex.Match

open Chars Code Syntax

/-- A group or a call that has been entered. -/
inductive Frame where
  /-- A group. `node` runs it again, `start` is where it was entered, `base` the number of choices
  at that time, `after` what follows it. -/
  | group (kind : Kind) (again : Again) (node : Node) (start base : Nat) (after : List Node)
  /-- The assertion of a conditional group. -/
  | condition (negated : Bool) (start keep base : Nat) (yes no : List Node)
  /-- A call of a group: what was set before, the call around it, where it was made, and the end of
  what had been looked at. -/
  | call (number : Nat) (captures : Array (Option Span)) (calling : Option Nat)
      (start last base : Nat) (after : List Node)
  /-- A group that works inside a part of the subject: the part to return to, and the place. -/
  | scan (region : Region) (place base : Nat) (after : List Node)
  deriving Inhabited

/-- Where matching stands. -/
structure State where
  /-- What is left of the branch. -/
  todo : List Node
  /-- The groups and calls around it, the innermost first. -/
  frames : List Frame
  place : Nat
  /-- The start of the match. -/
  keep : Nat
  captures : Array (Option Span)
  /-- The group that is being called. -/
  calling : Option Nat
  region : Region

/-- How matching failed. -/
inductive Signal where
  /-- Matching goes on in another way, if there is one. -/
  | noMatch
  /-- There is no match at all. -/
  | commit
  /-- There is no match at this start. -/
  | prune
  /-- There is no match before a place. -/
  | skip (place : Nat)
  /-- There is no match before the place that has a name. -/
  | skipTo (name : List Char)
  /-- The next branch of a group is tried. -/
  | split (target : Option Nat)
  deriving DecidableEq

/-- A signal with the group that was being called when it arose. -/
structure Failure where
  signal : Signal
  calling : Option Nat
  deriving DecidableEq

/-- There just is no match this way. -/
def Failure.plain : Failure := ⟨.noMatch, none⟩

/-- A place where matching can go on in another way. -/
inductive Choice where
  | resume (s : State)
  /-- Other branches. The last one leaves an entry as well where a verb may have to be stopped:
  those that go to the next branch of group `id`, or all such verbs. -/
  | branches (s : State) (rest : List (List Node)) (id : Nat) (all : Bool)
  /-- One of the characters taken from `least` on can be given back. -/
  | giveBack (s : State) (t : Test) (least : Nat)
  /-- One more character can be taken, if not `left` is 0. -/
  | takeMore (s : State) (t : Test) (left : Option Nat)
  /-- Matching can go on from one of these places. -/
  | places (s : State) (places : List Nat)
  /-- The text of a group can be taken once more. -/
  | takeRef (s : State) (groups : List Nat) (casing : Casing) (left : Option Nat)
  /-- Matching can go on up to `left` characters further on. -/
  | forth (s : State) (left : Nat)
  /-- A verb turns a failure into its own. -/
  | verb (v : Verb) (name : List Char) (target : Option Nat) (place : Nat) (calling : Option Nat)
  /-- A negative assertion holds if nothing in it matches. -/
  | unless (s : State)
  /-- The other branch of a conditional group, when its assertion does not match. -/
  | otherwise (s : State)
  /-- Verbs of a called group do not reach beyond the call. -/
  | callEdge (number : Nat)

/-- What a choice makes of a failure. -/
inductive Reaction where
  /-- It goes further back. -/
  | pass (f : Failure)
  /-- It goes further back, having come to the end of the subject. -/
  | passAt (f : Failure) (touch : Touch)
  /-- Matching goes on in a state. -/
  | go (s : State)
  /-- Matching goes on in a state, and there is another choice after that. -/
  | goOr (s : State) (choice : Choice) (touch : Touch)

end Regex.Match
