import Regex.Chars.Casing
import Regex.Chars.Property
import Regex.Unicode.Runs

/-!
# Character sets

What a class in square brackets stands for.

* `ClassItem`: what can be written in a class, letters in whatever case being separate items.
* `ClassTree`: classes combined by set operations.
* `CharSet`: a class made ready for matching, with its members below 256 as a table.
* `CharSet.Shape`: what the analyses of a pattern may know of the members from 256 on.
-/

namespace Regex.Chars

open Unicode

/-- The named classes of bracket expressions. -/
inductive PosixClass where
  | alpha
  | lower
  | upper
  | alnum
  | ascii
  | blank
  | cntrl
  | digit
  | graph
  | print
  | punct
  | space
  | word
  | xdigit
  deriving DecidableEq

namespace PosixClass

/-- The named classes by name. -/
def named : List (String × PosixClass) :=
  [("alpha", .alpha), ("lower", .lower), ("upper", .upper), ("alnum", .alnum), ("ascii", .ascii),
   ("blank", .blank), ("cntrl", .cntrl), ("digit", .digit), ("graph", .graph), ("print", .print),
   ("punct", .punct), ("space", .space), ("word", .word), ("xdigit", .xdigit)]

/-- Whether a code point is in a named class; all members are in ASCII. -/
def contains (k : PosixClass) (c : Nat) : Bool :=
  match k with
  | alpha => isAlpha c
  | lower => isLower c
  | upper => isUpper c
  | alnum => isAlnum c
  | ascii => isAscii c
  | blank => c == 0x20 || c == 0x09
  | cntrl => isControl c
  | digit => isDigit c
  | graph => isGraph c
  | print => isPrint c
  | punct => isPunct c
  | space => isSpace c
  | word => isWord c
  | xdigit => isHexDigit c

end PosixClass

/-- A kind of characters with an escape of its own. -/
inductive CharKind where
  | digit
  | space
  | word
  | horizontal
  | vertical
  deriving DecidableEq

/-- Whether a code point is of a kind. -/
def CharKind.contains (k : CharKind) (c : Nat) : Bool :=
  match k with
  | digit => isDigit c
  | space => isSpace c
  | word => isWord c
  | horizontal => isHorizontalSpace c
  | vertical => isVerticalSpace c

/-- Something written in a class. -/
inductive ClassItem where
  | range (lo hi : Nat)
  | kind (k : CharKind) (negated : Bool)
  | posix (k : PosixClass) (negated : Bool)
  | property (p : Property) (negated : Bool)
  deriving DecidableEq

/-- Whether an item covers a code point. -/
def ClassItem.contains (item : ClassItem) (c : Nat) : Bool :=
  match item with
  | range lo hi => between lo hi c
  | kind k negated => k.contains c != negated
  | posix k negated => k.contains c != negated
  | property p negated => p.contains c != negated

/-- Classes combined by set operations. -/
inductive ClassTree where
  | leaf (items : List ClassItem)
  | complement (a : ClassTree)
  | union (a b : ClassTree)
  | intersection (a b : ClassTree)
  | difference (a b : ClassTree)
  | symmetricDifference (a b : ClassTree)
  deriving Inhabited

namespace ClassTree

/-- Whether a code point is in the set. -/
def contains (c : Nat) : ClassTree → Bool
  | leaf items => items.any (·.contains c)
  | complement a => !a.contains c
  | union a b => a.contains c || b.contains c
  | intersection a b => a.contains c && b.contains c
  | difference a b => a.contains c && !b.contains c
  | symmetricDifference a b => a.contains c != b.contains c

/-- The tree with each range widened to all forms of its letters. -/
def expand (casing : Casing) : ClassTree → ClassTree
  | leaf items =>
    .leaf <| items.flatMap fun
      | .range lo hi => (casing.expand lo hi).map fun r => .range r.1 r.2
      | .posix k negated =>
        [.posix (if casing.ignored && (k == .lower || k == .upper) then .alpha else k) negated]
      | item => [item]
  | complement a => .complement (a.expand casing)
  | union a b => .union (a.expand casing) (b.expand casing)
  | intersection a b => .intersection (a.expand casing) (b.expand casing)
  | difference a b => .difference (a.expand casing) (b.expand casing)
  | symmetricDifference a b => .symmetricDifference (a.expand casing) (b.expand casing)

end ClassTree

namespace CharSet

/-- What is known of the members of a set from 256 on. -/
inductive Shape where
  /-- There are none. -/
  | narrow
  /-- All code points are members. -/
  | wide
  /-- Some are, as listed, without properties; the flags tell whether there are members below 256
  and whether the list is of those that are not members. -/
  | listed (low negated : Bool)
  /-- It takes properties, or set operations, to tell. -/
  | mixed
  deriving DecidableEq, Inhabited

end CharSet

/-- A set of characters made ready for matching. -/
structure CharSet where
  tree : ClassTree
  /-- The members below 256. -/
  low : Array Bool
  shape : CharSet.Shape

namespace CharSet

/-- Whether a code point is in the set. -/
def contains (s : CharSet) (c : Nat) : Bool :=
  if h : c < s.low.size then s.low[c]
  else
    match s.shape with
    | .narrow => false
    | .wide => true
    | _ => s.tree.contains c

/-- Whether every code point from 256 on is a member, in a list of ranges. -/
def coversHigh (items : List ClassItem) : Bool :=
  items.any fun
    | .range lo hi => lo ≤ 0x100 && 0x10FFFF ≤ hi
    | .kind _ negated => negated
    | .posix _ negated => negated
    | .property _ _ => false

/-- Whether some code point from 256 on is a member, in a list of items without properties. -/
def reachesHigh (items : List ClassItem) : Bool :=
  items.any fun
    | .range _ hi => 0x100 ≤ hi
    | .kind .horizontal _ | .kind .vertical _ => true
    | .kind _ negated => negated
    | .posix _ negated => negated
    | .property _ _ => false

/-- Whether some item is a property. -/
def hasProperty (items : List ClassItem) : Bool :=
  items.any fun
    | .property _ _ => true
    | _ => false

/-- The shape of a list of items or of its complement. -/
def shapeOf (utf : Bool) (items : List ClassItem) (negated : Bool) : Shape :=
  if utf && coversHigh items then if negated then .narrow else .wide
  else if hasProperty items then .mixed
  else if utf && reachesHigh items then
    .listed (items.any fun
      | .range lo _ => lo < 0x100
      | _ => true) negated
  else if negated then .wide
  else .narrow

/-- Makes a set ready. `utf` tells whether there are characters from 256 on. -/
def ofTree (utf : Bool) (tree : ClassTree) : CharSet where
  tree := tree
  low := (Array.range 256).map tree.contains
  shape :=
    match tree with
    | .leaf items => shapeOf utf items false
    | .complement (.leaf items) => shapeOf utf items true
    | _ => .mixed

/-- Whether every code point is a member, as far as `shape` tells. -/
def isFull (utf : Bool) (s : CharSet) : Bool :=
  (!utf || s.shape == .wide) && s.shape != .mixed && s.low.all id

/-- The set without members. -/
def empty : CharSet := ⟨.leaf [], Array.replicate 256 false, .narrow⟩

end CharSet

end Regex.Chars
