import Regex.Chars.Test

/-!
# Pattern expressions

A pattern as it was written, before it is made ready for matching.

* `Expr`: the items of a pattern. Switched modes are already applied: an item holds what it needs.
* `GroupKind` and `Condition`: the kinds of groups and of conditions.
* `NamedGroup`: a group with a name.

Items that can be at fault later on keep the offset that is then reported, which for a group can be
the very start of the pattern.
-/

namespace Regex.Syntax

open Chars

/-- How a repetition goes about its work: as much as possible, as little as possible, or as much as
possible without giving anything back. -/
inductive Greed where
  | greedy
  | lazy
  | possessive
  deriving DecidableEq, Inhabited

/-- A reference to a group, or to all groups of a name. -/
inductive GroupRef where
  | number (n : Nat)
  | name (text : List Char)
  deriving DecidableEq

/-- A place that takes no characters. -/
inductive Point where
  | lineStart (multiline : Bool)
  | lineEnd (multiline : Bool)
  /-- The start of the subject. -/
  | subjectStart
  /-- The end of the subject. -/
  | subjectEnd
  /-- The end of the subject, or the last line ending of it. -/
  | lastLineEnd
  /-- Where matching was asked to start. -/
  | matchStart
  | wordBoundary (unicode negated : Bool)
  deriving DecidableEq

/-- Instructions that control backtracking. -/
inductive Verb where
  | mark
  | commit
  | prune
  | skip
  | skipTo
  | split
  deriving DecidableEq

/-- What a conditional group depends on. -/
inductive Condition where
  /-- Never holds: the group is only there to be referred to. -/
  | define
  /-- The assertion that the first branch starts with. -/
  | assertion
  | decided (holds : Bool)
  /-- A group is set. -/
  | groupSet (group : GroupRef)
  /-- Inside a call of a group, or of any group for number 0. -/
  | inCall (group : GroupRef)
  /-- A group of this name is set, if there is one; else inside a call of the group whose number
  follows the first letter. -/
  | setOrInCall (text : List Char)
  deriving DecidableEq

/-- The kinds of groups. -/
inductive GroupKind where
  | plain
  | capture (number : Nat)
  | atomic
  | scriptRun
  | ahead (negated atomic : Bool)
  | behind (negated atomic : Bool)
  | conditional (condition : Condition)
  /-- Matches inside the text of the first group of a list that is set. -/
  | scan (groups : List (GroupRef × Nat))
  deriving DecidableEq

/-- A named group. -/
structure NamedGroup where
  text : List Char
  number : Nat
  /-- Whether the name stands for more than one group. -/
  duplicate : Bool
  deriving DecidableEq

/-- The items of a pattern. -/
inductive Expr where
  | literal (c : Nat) (casing : Casing)
  | test (t : Test)
  /-- A class in square brackets. -/
  | charClass (tree : ClassTree) (casing : Casing)
  | emptyClass (negated : Bool)
  | point (p : Point)
  /-- Moves the start of the match to here. -/
  | keep
  | backref (group : GroupRef) (casing : Casing) (place offset : Nat)
  | call (group : GroupRef) (place offset : Nat)
  | verb (v : Verb) (name : List Char)
  | accept
  | fail
  /-- A callout, by the room it takes. -/
  | callout (width : Nat)
  | group (kind : GroupKind) (start stop : Nat) (offset : Option Nat) (branches : List (List Expr))
  | repeated (item : Expr) (min : Nat) (max : Option Nat) (greed : Greed)
  deriving Inhabited

end Regex.Syntax
