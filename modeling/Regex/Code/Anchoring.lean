import Regex.Code.KeyByte
import Regex.Code.Literal

/-!
# Where matches can start

* `Anchors.anchored`: whether a pattern can only match where the search starts.
* `Anchors.atLineStart`: whether it can only match at the start of a line.
* `assertedFirst`: the byte that an assertion at the start of a pattern asks for.

All three look at the first item of every branch that is more than a note.
-/

namespace Regex.Code

open Chars Syntax

/-- Whether a node has no say in how a match starts; with `edges`, this includes assertions that are
not about what the match starts with. -/
def isNote (edges : Bool) : Node → Bool
  | .hidden _ => true
  | .conditional (.decided false) _ _ _ [] => true
  | .verb v name _ =>
    match v with
    | .mark | .skipTo => true
    | _ => !name.isEmpty
  | .group kind _ _ _ =>
    match kind with
    | .ahead true _ | .behind _ _ => edges
    | _ => false
  | .point (.wordBoundary _ _) => edges
  | _ => false

/-- What the place of matches depends on. -/
structure Anchors where
  /-- The groups that are referred to by what they have matched. -/
  references : List Nat
  /-- Whether a repetition of any character may start only at one place. -/
  dots : Bool
  /-- The test of such a repetition, and the places that do. -/
  isDot : Test → Bool
  isStart : Point → Bool
  /-- Whether a conditional group is judged by its assertion and its first branch alone, which both
  have to start there; otherwise by its assertion and its other branch. -/
  byFirst : Bool

/-- Where in a pattern its start is looked for. -/
structure Nest where
  captures : List Nat
  atomic : Bool
  inAssertion : Bool

namespace Anchors

variable (a : Anchors)

/-- Whether two groups are not told apart when references to them are looked for. -/
def sameGroup (m n : Nat) : Bool := m == n || (32 ≤ m && 32 ≤ n)

/-- Whether what is matched here can be referred to. -/
def isReferred (n : Nest) : Bool :=
  n.captures.any fun c => a.references.any (sameGroup c)

mutual

/-- Whether a node can only match at such a place. -/
def ofNode (n : Nest) : Node → Bool
  | .group kind _ _ branches =>
    match kind with
    | .plain => ofBranches n branches
    | .capture c => ofBranches { n with captures := c :: n.captures } branches
    | .ahead false _ => ofBranches { n with inAssertion := true } branches
    | .atomic => ofBranches { n with atomic := true } branches
    | _ => false
  | .many t 0 none _ =>
    a.isDot t && a.dots && !a.isReferred n && !n.atomic && !n.inAssertion
  | .point p => a.isStart p
  | .conditional _ _ _ yes no => !a.byFirst && ofNodes n yes && ofNodes n no
  | .onMatch negated look _ _ yes no =>
    ofBranches { n with inAssertion := true } look &&
      if a.byFirst then ofNodes n yes else !negated && ofNodes n no
  | _ => false

/-- Whether a branch can only match at such a place. -/
def ofNodes (n : Nest) : List Node → Bool
  | [] => false
  | node :: rest => if isNote false node then ofNodes n rest else ofNode n node

/-- Whether all branches can only match at such a place. -/
def ofBranches (n : Nest) : List (List Node) → Bool
  | [] => true
  | nodes :: rest => ofNodes n nodes && ofBranches n rest

end

/-- Outside of all groups. -/
def outside : Nest := ⟨[], false, false⟩

/-- Whether a pattern can only match where the search starts. `dots` tells whether a repetition of
all characters tells as much. -/
def anchored (references : List Nat) (dots : Bool) (branches : List (List Node)) : Bool :=
  let isDot : Test → Bool
    | .all => true
    | _ => false
  let isStart : Point → Bool
    | .subjectStart | .matchStart | .lineStart false => true
    | _ => false
  (⟨references, dots, isDot, isStart, false⟩ : Anchors).ofBranches outside branches

/-- Whether a pattern can only match at the start of a line. -/
def atLineStart (references : List Nat) (dots : Bool) (branches : List (List Node)) : Bool :=
  let isDot : Test → Bool
    | .notNewline => true
    | _ => false
  let isStart : Point → Bool
    | .lineStart _ => true
    | _ => false
  (⟨references, dots, isDot, isStart, true⟩ : Anchors).ofBranches outside branches

end Anchors

mutual

/-- The byte that a node asks for at its start; `inside` tells whether it is in an assertion. -/
def assertedByNode (utf inside : Bool) : Node → KeyByte
  | .group kind _ again branches =>
    match kind with
    | .plain | .capture _ | .atomic | .scriptRun => assertedByBranches utf inside branches .none
    | .ahead false _ => if again = .once then assertedByBranches utf true branches .none else .none
    | _ => .none
  | .one t => if inside then assertedByTest utf t else .none
  | .many t min _ _ => if inside && 0 < min then assertedByTest utf t else .none
  | _ => .none
where
  /-- The first byte of a character that is asked for. -/
  assertedByTest (utf : Bool) : Test → KeyByte
    | .char c caseless _ =>
      if caseless then if c < 0x80 then .byte (UInt8.ofNat c) true false else .none
      else
        .byte ((charBytes utf c).headD 0) false false
    | _ => .none

/-- The byte that a branch asks for at its start. -/
def assertedByNodes (utf inside : Bool) : List Node → KeyByte
  | [] => .none
  | node :: rest =>
    if isNote true node then assertedByNodes utf inside rest else assertedByNode utf inside node

/-- The byte that all branches ask for at their start, those so far asking for `known`. -/
def assertedByBranches (utf inside : Bool) : List (List Node) → KeyByte → KeyByte
  | [], known => known
  | nodes :: rest, known =>
    match assertedByNodes utf inside nodes, known with
    | .byte b c v, known =>
      if known = .byte b c v || !known.isByte then assertedByBranches utf inside rest (.byte b c v)
      else .none
    | _, _ => .none

end

/-- The byte that an assertion at the start of a pattern asks for. -/
def assertedFirst (utf : Bool) (branches : List (List Node)) : KeyByte :=
  assertedByBranches utf false branches .none

end Regex.Code
