import Regex.Error

/-!
# Captures

The ranges that a match found.

* `Captures`: the range of each group, group 0 being the whole match.
* `Answer`: what the engine returns, a number and its offsets.
* `Captures.ofAnswer`: what an answer says.
-/

namespace Regex

/-- A range of byte offsets, the end excluded. -/
structure Range where
  start : Nat
  stop : Nat
  deriving DecidableEq, Inhabited

/-- The part of `subject` in a range; none if the range does not lie in it. -/
def Range.slice? (r : Range) (subject : ByteArray) : Option ByteArray :=
  if r.start ≤ r.stop ∧ r.stop ≤ subject.size then some (subject.extract r.start r.stop) else none

/-- What the engine returns: a number, and start and end offsets in turn for each group; an offset
may be unset. -/
structure Answer where
  code : Int
  offsets : Array (Option Nat)

/-- The ranges of one match; `none` marks a group that took no part. -/
structure Captures where
  ranges : List (Option Range)
  isPartial : Bool
  deriving DecidableEq

namespace Captures

/-- The number of entries, group 0 included. -/
def length (c : Captures) : Nat := c.ranges.length

/-- Whether there is no entry at all. -/
def isEmpty (c : Captures) : Bool := c.ranges.isEmpty

/-- The range of a group; none if it is unset or there is no such group. -/
def get (c : Captures) (group : Nat) : Option Range := (c.ranges[group]?).join

/-- The extent of the whole match. -/
def whole (c : Captures) : Range := (c.get 0).getD ⟨0, 0⟩

/-- The captured parts of `subject`. -/
def extract (c : Captures) (subject : ByteArray) : List (Option ByteArray) :=
  c.ranges.map fun range => range.bind (·.slice? subject)

/-- The range that `offsets` hold for a group, if both ends are there. -/
def rangeAt (offsets : Array (Option Nat)) (group : Nat) : Option Range :=
  match offsets[2 * group]?, offsets[2 * group + 1]? with
  | some (some start), some (some stop) => some ⟨start, stop⟩
  | _, _ => none

/-- The ranges of `groups` groups, read from the first `filled` pairs of offsets. -/
def ofOffsets (offsets : Array (Option Nat)) (groups filled : Nat) : List (Option Range) :=
  (List.range groups).map fun group => if group < filled then rangeAt offsets group else none

/-- What an answer says: no match, captures, or an error. A partial match fills only the first pair;
0 says that more groups were set than there were pairs. -/
def ofAnswer (answer : Answer) (groups : Nat) : Except Error (Option Captures) :=
  if answer.code = ErrorCode.noMatch then .ok none
  else if answer.code = ErrorCode.partialMatch then
    .ok (some ⟨ofOffsets answer.offsets groups 1, true⟩)
  else if answer.code < 0 then .error (.ofCode .matching answer.code)
  else if answer.code = 0 then
    .ok (some ⟨ofOffsets answer.offsets groups (answer.offsets.size / 2), false⟩)
  else .ok (some ⟨ofOffsets answer.offsets groups answer.code.toNat, false⟩)

end Captures

end Regex
