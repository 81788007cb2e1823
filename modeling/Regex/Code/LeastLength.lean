import Regex.Code.Node

/-!
# The least length of matches

* `LeastLength.of`: a number of characters that no match of a pattern goes below.

References and calls count as much as the group that they refer to. In a branch that leads back to
itself they count nothing, and such a branch does not count beside others. A reference that has been
followed once is not followed again.
-/

namespace Regex.Code

open Chars Syntax

namespace LeastLength

/-- The greatest length that is told. -/
def most : Nat := 65535

/-- The greatest number of groups that are looked at. -/
def maxGroups : Nat := 1000

/-- The greatest number of a group that may be referred to. -/
def maxReference : Nat := 128

mutual

/-- Whether a node takes a character for certain, references and calls not being followed. -/
def takesOne : Node → Bool
  | .one _ => true
  | .many _ min _ _ => 0 < min
  | .group kind _ _ branches => !kind.isAssertion && allTakeOne branches
  | .conditional _ _ _ yes no | .onMatch _ _ _ _ yes no =>
    !no.isEmpty && someTakesOne yes && someTakesOne no
  | _ => false

/-- Whether a branch takes a character for certain. -/
def someTakesOne : List Node → Bool
  | [] => false
  | node :: rest => takesOne node || someTakesOne rest

/-- Whether each of some branches takes a character for certain. -/
def allTakeOne : List (List Node) → Bool
  | [] => true
  | nodes :: rest => someTakesOne nodes && allTakeOne rest

end

/-- Whether a group can be repeated without end although it may match nothing. -/
def isEmptyLoop (again : Again) (branches : List (List Node)) : Bool :=
  again != .once && !allTakeOne branches

/-- A group that can be referred to. -/
structure Entry where
  /-- The groups around it, itself included. -/
  around : List Nat
  again : Again
  branches : List (List Node)

/-- The groups of a pattern by number. Of several groups with a number the first counts. -/
abbrev Entries := Array (Option Entry)

namespace Entries

mutual

/-- Enters the groups of a node that have the groups `around` around them. -/
def ofNode (around : List Nat) (table : Entries) : Node → Entries
  | .group kind _ again branches =>
    match kind with
    | .capture n =>
      let entry : Entry := ⟨n :: around, again, branches⟩
      ofBranches (n :: around) (table.modify n (·.or (some entry))) branches
    | _ => ofBranches around table branches
  | .conditional _ _ _ yes no => ofNodes around (ofNodes around table yes) no
  | .onMatch _ look _ _ yes no =>
    ofNodes around (ofNodes around (ofBranches around table look) yes) no
  | .optional _ item | .hidden item => ofNode around table item
  | _ => table

/-- Enters the groups of a branch. -/
def ofNodes (around : List Nat) (table : Entries) : List Node → Entries
  | [] => table
  | node :: rest => ofNodes around (ofNode around table node) rest

/-- Enters the groups of some branches. -/
def ofBranches (around : List Nat) (table : Entries) : List (List Node) → Entries
  | [] => table
  | nodes :: rest => ofBranches around (ofNodes around table nodes) rest

end

/-- The entries of a pattern with `groups` groups. -/
def of (branches : List (List Node)) (groups : Nat) : Entries :=
  ofBranches [0] (Array.replicate (groups + 1) none) branches

end Entries

/-- What the lengths depend on. -/
structure Setting where
  entries : Entries
  /-- Whether single bytes can be taken out of characters. -/
  bytes : Bool
  /-- Whether a reference to a group that is not set matches nothing at all. -/
  unsetMatches : Bool
  /-- Whether groups in different branches can share a number. -/
  shared : Bool
  /-- The numbers of all groups, each as often as there is a group of it. -/
  numbers : List Nat

/-- What is remembered: how many groups have been looked at, and the lengths of the texts that are
referred to. -/
structure Memory where
  looked : Nat
  texts : List (Nat × Nat)

/-- Finding lengths; none if too many groups have to be looked at. -/
abbrev Finding := StateT Memory Option

/-- Looks at a group. -/
def look : Finding Unit := do
  if maxGroups < (← get).looked then failure
  modify fun m => { m with looked := m.looked + 1 }

/-- Remembers the length of the text of group `n`. What is known of later groups is forgotten. -/
def remember (n length : Nat) : Finding Unit :=
  modify fun m => { m with texts := (n, length) :: m.texts.filter (·.1 < n) }

/-- Where a node stands: in which groups, and which groups are being followed. -/
structure Site where
  around : List Nat
  followed : List Nat

/-- Whether group `n` leads back to itself. -/
def Site.isIn (site : Site) (n : Nat) : Bool := site.around.contains n || site.followed.contains n

/-- How far a group has been looked at: the length of the branch so far, whether it leads back to
itself, and the last group and the last call with their lengths. -/
structure Progress where
  length : Nat
  recurs : Bool
  lastGroup : Option (Nat × Nat)
  lastCall : Option (Nat × Nat)

namespace Progress

/-- Before the first branch. -/
def start : Progress := ⟨0, false, none, none⟩

/-- Before another branch. -/
def restart (p : Progress) : Progress := { p with length := 0, recurs := false }

/-- After something of some length. -/
def add (p : Progress) (length : Nat) : Progress := { p with length := p.length + length }

end Progress

/-- Finds the length of a group that is referred to, given the groups that are followed. -/
abbrev Refer := List Nat → Nat → Finding Nat

/-- The length of the text of group `n`, and whether it leads back to itself. -/
def textLength (s : Setting) (refer : Refer) (site : Site) (n : Nat) : Finding (Nat × Bool) := do
  match (← get).texts.lookup n with
  | some length => return (length, false)
  | none =>
    let isOpen := s.unsetMatches || (s.shared && 1 < s.numbers.count n)
    let recurs := !isOpen && site.isIn n
    let length ← if isOpen || recurs then pure 0 else refer site.followed n
    remember n length
    return (length, recurs)

/-- The least length of the texts of some groups, those so far having the length `known`. -/
def shortestText (s : Setting) (refer : Refer) (site : Site) (known : Option Nat) (recurs : Bool) :
    List Nat → Finding (Nat × Bool)
  | [] => return (known.getD 0, recurs)
  | n :: rest => do
    let (length, back) ← textLength s refer site n
    let length := match known with
      | some k => Nat.min k length
      | none => length
    if length = 0 then return (0, recurs || back)
    else shortestText s refer site (some length) (recurs || back) rest

/-- The progress after a reference. -/
def afterText (s : Setting) (refer : Refer) (site : Site) (p : Progress) (groups : List Nat)
    (min : Nat) : Finding Progress := do
  let (length, recurs) ←
    match groups with
    | [n] => textLength s refer site n
    | groups =>
      if s.shared || s.unsetMatches then pure (0, false)
      else shortestText s refer site none false groups
  return { p.add (length * min) with recurs := p.recurs || recurs }

/-- The progress after a call. -/
def afterCall (refer : Refer) (site : Site) (p : Progress) (n : Nat) : Finding Progress := do
  match p.lastCall with
  | some (m, length) => if m = n then return p.add length else follow
  | none => follow
where
  /-- The progress after a call that is not the same as the last one. -/
  follow : Finding Progress := do
    if site.isIn n then return { p with recurs := true }
    else
      let length ← refer site.followed n
      return { p.add length with lastCall := some (n, length) }

/-- The least of the length so far and that of a further branch. -/
def leastOf (known : Option Nat) (p : Progress) : Nat :=
  match known with
  | none => p.length
  | some n => if !p.recurs && p.length < n then p.length else n

mutual

/-- The progress after a node. -/
def ofNode (s : Setting) (refer : Refer) (site : Site) (p : Progress) : Node → Finding Progress
  | .one .byte => if s.bytes then failure else return p.add 1
  | .one _ => return p.add 1
  | .many _ min _ _ => return p.add min
  | .backref groups _ min _ _ => afterText s refer site p groups min
  | .call n => afterCall refer site p n
  | .accept => failure
  | .group .plain _ .once [[.call n]] => afterCall refer site p n
  | .group kind _ again branches => do
    match kind with
    | .ahead _ _ | .behind _ _ | .scan _ => return p
    | .capture n =>
      let known : Option Nat :=
        match p.lastGroup with
        | some (m, length) => if m = n && !s.shared then some length else none
        | none => none
      match known with
      | some length => return p.add length
      | none =>
        let length ←
          if isEmptyLoop again branches then pure 0
          else do
            look
            ofBranches s refer { site with around := n :: site.around } none .start branches
        return { p.add length with lastGroup := some (n, length) }
    | .plain =>
      if isEmptyLoop again branches then return p
      else
        look
        return p.add (← ofBranches s refer site none .start branches)
    | .atomic | .scriptRun =>
      look
      return p.add (← ofBranches s refer site none .start branches)
  | .conditional _ _ again yes no | .onMatch _ _ _ again yes no => do
    if no.isEmpty || (again != .once && !(someTakesOne yes && someTakesOne no)) then return p
    else
      look
      let first ← ofNodes s refer site .start yes
      let least := leastOf none first
      if least = 0 then return p
      else return p.add (leastOf (some least) (← ofNodes s refer site first.restart no))
  | _ => return p

/-- The progress after a branch, or when it is longer than can be told. -/
def ofNodes (s : Setting) (refer : Refer) (site : Site) (p : Progress) :
    List Node → Finding Progress
  | [] => return { p with length := Nat.min most p.length }
  | node :: rest => do
    if most ≤ p.length then return { p with length := most }
    else ofNodes s refer site (← ofNode s refer site p node) rest

/-- The length of a group: the least of its branches. One without length ends the search. -/
def ofBranches (s : Setting) (refer : Refer) (site : Site) (known : Option Nat) (p : Progress) :
    List (List Node) → Finding Nat
  | [] => return known.getD 0
  | nodes :: rest => do
    let p ← ofNodes s refer site p.restart nodes
    let least := leastOf known p
    if least = 0 then return 0 else ofBranches s refer site (some least) p rest

end

/-- The length of a group that is referred to; `depth` bounds how many are followed in a row. -/
def refer (s : Setting) : Nat → Refer
  | 0, _, _ => failure
  | depth + 1, followed, n =>
    match (s.entries[n]?).join with
    | some entry =>
      if isEmptyLoop entry.again entry.branches then return 0
      else do
        look
        ofBranches s (refer s depth) ⟨entry.around, n :: followed⟩ none .start entry.branches
    | none => return 0

/-- The least length of the matches of a pattern; 0 if it takes too long to tell. -/
def of (s : Setting) (branches : List (List Node)) : Nat :=
  let finding := do
    look
    ofBranches s (refer s (maxGroups + 2)) ⟨[0], []⟩ none .start branches
  match finding.run ⟨0, []⟩ with
  | some (length, _) => length
  | none => 0

end LeastLength

end Regex.Code
