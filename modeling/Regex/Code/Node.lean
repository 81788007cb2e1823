import Regex.Syntax.Expr

/-!
# Matching code

A pattern made ready for matching.

* `Node`: one instruction. A branch is a list of nodes; groups hold their branches, so code is a
  tree.
* `Kind`: what a group does when it is entered and left.
* `Again`: what happens when the end of a group is reached.
* `GroupCode`: the branches that a call of a group runs.

A quantifier is written out: a group that is repeated `min` times stands there `min` times. Only a
repetition without end is a loop, and only the last copy of its group loops.
-/

namespace Regex.Code

open Chars Syntax

/-- What happens at the end of a group: it is left for good, or it can be entered again. -/
inductive Again where
  | once
  | greedy
  | lazy
  | possessive
  deriving DecidableEq, Inhabited

/-- How an unlimited repetition of a group ends. -/
def Again.ofGreed : Greed → Again
  | .greedy => .greedy
  | .lazy => .lazy
  | .possessive => .possessive

/-- What a group does when it is entered and left. -/
inductive Kind where
  | plain
  | capture (number : Nat)
  /-- Nothing inside is tried again after the group has been left. -/
  | atomic
  /-- Atomic in nothing, but what it matches must be in one script. -/
  | scriptRun
  | ahead (negated atomic : Bool)
  | behind (negated atomic : Bool)
  /-- Works inside the text of the first of these groups that is set. -/
  | scan (groups : List Nat)
  deriving DecidableEq, Inhabited

/-- Whether a group returns to where it was entered. -/
def Kind.isAssertion : Kind → Bool
  | .ahead _ _ | .behind _ _ | .scan _ => true
  | _ => false

/-- What a conditional group depends on, assertions apart. -/
inductive Guard where
  | decided (holds : Bool)
  /-- One of these groups is set. -/
  | someSet (groups : List Nat)
  /-- In a call of one of these groups. -/
  | inCallOf (groups : List Nat)
  /-- In any call. -/
  | inCall
  deriving DecidableEq, Inhabited

/-- An instruction. -/
inductive Node where
  /-- Takes one character. -/
  | one (t : Test)
  /-- Takes characters one after another. -/
  | many (t : Test) (min : Nat) (max : Option Nat) (greed : Greed)
  | point (p : Point)
  /-- Moves the start of the match to here. -/
  | keep
  /-- Takes the text of the first of these groups that is set. -/
  | backref (groups : List Nat) (casing : Casing) (min : Nat) (max : Option Nat) (greed : Greed)
  | call (group : Nat)
  /-- A verb, with its name and the innermost group of several branches around it. -/
  | verb (v : Verb) (name : List Char) (target : Option Nat)
  /-- Ends the innermost assertion or call, or the match. -/
  | accept
  | fail
  /-- Goes back by `greatest` characters, and then by fewer, down to `least`. -/
  | back (least greatest : Nat)
  /-- Holds at the place where the assertion around it was entered. -/
  | returned
  | group (kind : Kind) (id : Nat) (again : Again) (branches : List (List Node))
  /-- A conditional group. -/
  | conditional (guard : Guard) (id : Nat) (again : Again) (yes no : List Node)
  /-- A conditional group that depends on an assertion. -/
  | onMatch (negated : Bool) (look : List (List Node)) (id : Nat) (again : Again)
      (yes no : List Node)
  /-- Can be left out; whether that is tried first, last or not at all depends on `greed`. -/
  | optional (greed : Greed) (item : Node)
  /-- Is never run from here. -/
  | hidden (item : Node)
  deriving Inhabited

/-- The nodes in place of a node: a plain group of one branch is no more than that branch. -/
def Node.spread : Node → List Node
  | .group .plain _ .once [branch] => branch
  | node => [node]

mutual

/-- A node with all that is inside it spread out. -/
def Node.spreadInside : Node → Node
  | .group kind id again branches => .group kind id again (spreadBranches branches)
  | .conditional guard id again yes no =>
    .conditional guard id again (spreadNodes yes) (spreadNodes no)
  | .onMatch negated look id again yes no =>
    .onMatch negated (spreadBranches look) id again (spreadNodes yes) (spreadNodes no)
  | .optional greed item => .optional greed item.spreadInside
  | .hidden item => .hidden item.spreadInside
  | node => node

/-- A branch spread out. -/
def spreadNodes : List Node → List Node
  | [] => []
  | node :: rest => node.spreadInside.spread ++ spreadNodes rest

/-- Branches spread out. -/
def spreadBranches : List (List Node) → List (List Node)
  | [] => []
  | nodes :: rest => spreadNodes nodes :: spreadBranches rest

end

mutual

/-- The numbers of the groups in a node. -/
def Node.groupNumbers : Node → List Nat
  | .group kind _ _ branches =>
    match kind with
    | .capture n => n :: branchesGroupNumbers branches
    | _ => branchesGroupNumbers branches
  | .conditional _ _ _ yes no => nodesGroupNumbers yes ++ nodesGroupNumbers no
  | .onMatch _ look _ _ yes no =>
    branchesGroupNumbers look ++ nodesGroupNumbers yes ++ nodesGroupNumbers no
  | .optional _ item | .hidden item => item.groupNumbers
  | _ => []

/-- The numbers of the groups in a branch. -/
def nodesGroupNumbers : List Node → List Nat
  | [] => []
  | n :: rest => n.groupNumbers ++ nodesGroupNumbers rest

/-- The numbers of the groups in some branches. -/
def branchesGroupNumbers : List (List Node) → List Nat
  | [] => []
  | nodes :: rest => nodesGroupNumbers nodes ++ branchesGroupNumbers rest

end

/-- What a call of a group runs. -/
structure GroupCode where
  id : Nat
  branches : List (List Node)
  deriving Inhabited

/-- The groups of a pattern by number. Of several groups with a number the first counts; number 0 is
the whole pattern. -/
abbrev GroupCodes := Array (Option GroupCode)

namespace GroupCodes

/-- Enters a group unless its number is taken. -/
def enter (table : GroupCodes) (number : Nat) (code : GroupCode) : GroupCodes :=
  table.modify number fun
    | none => some code
    | known => known

mutual

/-- Enters the groups of a node. -/
def ofNode (table : GroupCodes) : Node → GroupCodes
  | .group kind id _ branches =>
    let table :=
      match kind with
      | .capture n => table.enter n ⟨id, branches⟩
      | _ => table
    ofBranches table branches
  | .conditional _ _ _ yes no => ofNodes (ofNodes table yes) no
  | .onMatch _ look _ _ yes no => ofNodes (ofNodes (ofBranches table look) yes) no
  | .optional _ item | .hidden item => ofNode table item
  | _ => table

/-- Enters the groups of a branch. -/
def ofNodes (table : GroupCodes) : List Node → GroupCodes
  | [] => table
  | n :: rest => ofNodes (ofNode table n) rest

/-- Enters the groups of all branches. -/
def ofBranches (table : GroupCodes) : List (List Node) → GroupCodes
  | [] => table
  | nodes :: rest => ofBranches (ofNodes table nodes) rest

end

/-- The groups of a pattern with `groups` groups. -/
def of (branches : List (List Node)) (groups : Nat) : GroupCodes :=
  ofBranches ((Array.replicate (groups + 1) none).set! 0 (some ⟨0, branches⟩)) branches

end GroupCodes

end Regex.Code
