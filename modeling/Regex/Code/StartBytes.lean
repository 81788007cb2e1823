import Regex.Code.Literal
import Regex.Code.Node

/-!
# The bytes that matches start with

* `ByteSet`: a set of bytes as a table.
* `startsOf?`: the bytes that characters which pass a test start with, if it is worth while to tell.
* `startBytes?`: the bytes that matches of a pattern start with.

A branch is looked through up to the first item that takes a character for certain.
-/

namespace Regex.Code

open Chars Syntax

/-- A set of bytes: whether each of the 256 is in it. -/
abbrev ByteSet := Array Bool

namespace ByteSet

/-- The set without members. -/
def empty : ByteSet := Array.replicate 256 false

/-- The bytes of which `p` holds. -/
def of (p : Nat → Bool) : ByteSet := (Array.range 256).map p

/-- The bytes that are in one of two sets. -/
def union (a b : ByteSet) : ByteSet := a.zipWith (· || ·) b

/-- The members of a set in order. -/
def members (s : ByteSet) : List Nat := (List.range 256).filter fun b => s.getD b false

end ByteSet

/-- The number of the byte that a character starts with. -/
def leadByte (utf : Bool) (c : Nat) : Nat := ((charBytes utf c).headD 0).toNat

/-- The bytes that some characters start with. -/
def leadBytes (utf : Bool) (cs : List Nat) : ByteSet :=
  let leads := cs.map (leadByte utf)
  .of leads.contains

/-- The first bytes of the characters below 256 of which `p` holds. -/
def lowBytes (utf : Bool) (p : Nat → Bool) : ByteSet :=
  if utf then
    let reaches (lead : Nat) : Bool :=
      (List.range 0x40).any fun i => p ((lead - 0xC0) * 0x40 + i)
    .of fun b => (b < 0x80 && p b) || ((b == 0xC2 || b == 0xC3) && reaches b)
  else .of p

/-- Whether a byte starts characters from 256 on. -/
def isHighLead (b : Nat) : Bool := 0xC4 ≤ b

/-- The first bytes of the characters from 256 on that a class lists. -/
def highBytes (items : List ClassItem) : ByteSet :=
  .of fun b =>
    isHighLead b &&
      items.any fun
        | .range lo hi => between (leadByte true (max lo 0x100)) (leadByte true hi) b && 0x100 ≤ hi
        | .kind .horizontal false => between 0xE1 0xE3 b
        | .kind .vertical false => b == 0xE2
        | .kind _ negated => negated
        | .posix _ negated => negated
        | .property _ _ => false

/-- The items that a class lists. -/
def listed : ClassTree → List ClassItem
  | .leaf items => items
  | .complement a => listed a
  | _ => []

/-- The bytes that characters of a set start with. -/
def startsOfSet? (utf : Bool) (s : CharSet) : Option ByteSet :=
  let low := lowBytes utf fun c => s.low.getD c false
  if !utf then if s.shape = .mixed then none else some low
  else
    match s.shape with
    | .narrow => some low
    | .wide => some (low.union (.of isHighLead))
    | .listed hasLow negated =>
      if !negated then some (low.union (highBytes (listed s.tree)))
      else if hasLow then some (low.union (.of isHighLead))
      else none
    | .mixed => none

/-- The bytes that characters which pass a test start with; none if there are too many. -/
def startsOf? (utf : Bool) (t : Test) : Option ByteSet :=
  match t with
  | .char c _ forms => some (leadBytes utf (c :: forms))
  | .form forms false => some (leadBytes utf forms)
  | .kind k negated =>
    match k with
    | .horizontal =>
      if negated then none
      else some ((lowBytes utf isHorizontalSpace).union
        (.of fun b => utf && between 0xE1 0xE3 b))
    | .vertical =>
      if negated then none
      else some ((lowBytes utf isVerticalSpace).union (.of fun b => utf && b == 0xE2))
    | k =>
      let low := lowBytes utf fun c => k.contains c != negated
      some (if negated && utf then low.union (.of isHighLead) else low)
  | .lineEnding => some ((lowBytes utf isVerticalSpace).union (.of fun b => utf && b == 0xE2))
  | .set s => startsOfSet? utf s
  | _ => none

/-- What is known of the start of a branch: the bytes so far, and whether there is more to come. -/
structure Starts where
  bytes : ByteSet
  more : Bool

namespace Starts

mutual

/-- The bytes that a node can start with. -/
def ofNode? (utf : Bool) : Node → Option Starts
  | .one t => (startsOf? utf t).map (⟨·, false⟩)
  | .many t min _ _ =>
    match min, t with
    | 0, .form _ _ => none
    | min, t => (startsOf? utf t).map (⟨·, min == 0⟩)
  | .point (.lineStart false) | .point (.wordBoundary _ _) => some ⟨.empty, true⟩
  | .group kind _ _ branches =>
    match kind with
    | .ahead true _ | .behind _ _ | .scan _ => some ⟨.empty, true⟩
    | _ => ofBranches? utf branches
  | .optional _ item => (ofNode? utf item).map fun s => ⟨s.bytes, true⟩
  | .hidden _ => some ⟨.empty, true⟩
  | _ => none

/-- The bytes that a branch can start with. -/
def ofNodes? (utf : Bool) : List Node → Option Starts
  | [] => some ⟨.empty, true⟩
  | node :: rest =>
    match ofNode? utf node with
    | none => none
    | some s =>
      if s.more then (ofNodes? utf rest).map fun r => ⟨s.bytes.union r.bytes, r.more⟩ else some s

/-- The bytes that one of some branches can start with. -/
def ofBranches? (utf : Bool) : List (List Node) → Option Starts
  | [] => some ⟨.empty, false⟩
  | nodes :: rest =>
    match ofNodes? utf nodes with
    | none => none
    | some s => (ofBranches? utf rest).map fun r => ⟨s.bytes.union r.bytes, s.more || r.more⟩

end

end Starts

/-- The bytes that matches of a pattern start with, if every match has one of some few. -/
def startBytes? (utf : Bool) (branches : List (List Node)) : Option ByteSet :=
  match Starts.ofBranches? utf branches with
  | some s => if s.more then none else some s.bytes
  | none => none

end Regex.Code
