import Regex.Code.Node

/-!
# Key bytes

A byte that every match starts with, and a byte that every match has further on, let a search skip
places where nothing can match.

* `KeyByte`: what is known of such a byte.
* `Keys`: what is known of both, for a stretch of a pattern.
* `Keys.addChar`, `Keys.addGroup` and their like: how an item that follows changes this.
* `Keys.merge`: what is known of two branches together.

An item can be followed by a quantifier that lets it occur no times at all, so the knowledge from
before the last item is kept.
-/

namespace Regex.Code

/-- What is known of a key byte. -/
inductive KeyByte where
  /-- Nothing was there to tell. -/
  | unset
  /-- There is no such byte. -/
  | none
  /-- The byte, whether it stands for both of its cases, and whether something of varying length
  comes before it. -/
  | byte (value : UInt8) (caseless vary : Bool)
  deriving DecidableEq, Inhabited

namespace KeyByte

/-- Whether the byte is known. -/
def isByte : KeyByte → Bool
  | .byte _ _ _ => true
  | _ => false

/-- Whether something of varying length comes before the byte. -/
def varies : KeyByte → Bool
  | .byte _ _ vary => vary
  | _ => false

/-- The byte as one behind something of varying length. -/
def orVary (k : KeyByte) (vary : Bool) : KeyByte :=
  match k with
  | .byte value caseless v => .byte value caseless (v || vary)
  | k => k

/-- No byte, unless it is known already. -/
def settle (k : KeyByte) : KeyByte :=
  match k with
  | .unset => .none
  | k => k

/-- Two required bytes together: they must agree, up to what comes before them. -/
def meet (a b : KeyByte) : KeyByte :=
  match a, b with
  | .unset, .unset => .unset
  | .byte x c v, .byte y d w => if x = y ∧ c = d then .byte x c (v || w) else .none
  | _, _ => .none

end KeyByte

/-- What is known of the first byte and of a later one; `zeroFirst` and `zeroRequired` are what was
known without the last item. -/
structure Keys where
  first : KeyByte
  required : KeyByte
  zeroFirst : KeyByte
  zeroRequired : KeyByte
  deriving Inhabited

namespace Keys

/-- What is known of nothing at all. -/
def empty : Keys := ⟨.unset, .unset, .unset, .unset⟩

/-- After an item that leaves all as it is. -/
def remember (k : Keys) : Keys := { k with zeroFirst := k.first, zeroRequired := k.required }

/-- After an item that can start with various bytes. -/
def addVarious (k : Keys) : Keys := { k with first := k.first.settle }.remember

/-- After a multiline circumflex. -/
def addLineStart (k : Keys) : Keys :=
  if k.first = .unset then { k with first := .none, zeroFirst := .none } else k

/-- After a reference to one group. -/
def addBackref (k : Keys) : Keys := k.addLineStart

/-- After a reference to all groups of a name. -/
def addBackrefs (k : Keys) : Keys := { k with first := k.first.settle }

/-- After a call of a group. -/
def addCall (k : Keys) : Keys :=
  let first := k.first.settle
  { k with first, zeroFirst := first }

/-- After a letter that has more than two forms. -/
def addForms (k : Keys) : Keys := k.addLineStart

/-- After a character, given by its bytes. -/
def addChar (k : Keys) (bytes : List UInt8) (caseless vary : Bool) : Keys :=
  match bytes with
  | [] => k
  | b :: rest =>
    let last := rest.getLastD b
    let single := rest.isEmpty
    if k.first = .unset then
      let k := { k with zeroFirst := .none, zeroRequired := k.required }
      if single then { k with first := .byte b caseless false }
      else if caseless then { k with first := .none, required := .none }
      else { k with first := .byte b false false, required := .byte last false vary }
    else
      let k := k.remember
      if single || !caseless then { k with required := .byte last caseless vary } else k

/-- After a group that is no assertion; `vary` tells whether something of varying length comes
before it. Whether the first byte comes from the group is told as well. -/
def addGroup (k : Keys) (first required : KeyByte) (vary : Bool) : Keys × Bool :=
  let r := k.remember
  let (r, required, sets) :=
    if k.first = .unset && first != .unset then
      ({ r with first := if first.isByte then first else .none, zeroFirst := .none }, required,
        first.isByte)
    else if first.isByte && !required.isByte then (r, first.orVary vary, false)
    else (r, required, false)
  (if required.isByte then { r with required } else r, sets)

/-- After an assertion about what follows. -/
def addAhead (k : Keys) (first required : KeyByte) : Keys :=
  let r := k.remember
  if first.isByte && required.isByte then { r with required } else r

/-- When the last item can occur no times at all. -/
def withoutLast (k : Keys) : Keys := { k with first := k.zeroFirst, required := k.zeroRequired }

/-- What is known of two branches, one or the other of which matches. -/
def merge (a b : KeyByte × KeyByte) : KeyByte × KeyByte :=
  let (first, required) := a
  let (branchFirst, branchRequired) := b
  let (first, required) :=
    if first = branchFirst then (first, required)
    else (.none, if first.isByte && !required.isByte then first else required)
  let branchRequired :=
    if !first.isByte && branchFirst.isByte && !branchRequired.isByte then branchFirst
    else branchRequired
  (first, required.meet branchRequired)

end Keys

end Regex.Code
