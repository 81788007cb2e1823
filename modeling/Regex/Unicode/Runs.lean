/-!
# Tables over code points

Character data is constant over long runs of code points, so a table is kept as the list of places
where its value changes.

* `Runs α`: a total map from code points to `α`, written as words `tag` or `tag` and a run length.
* `CodeSet`: a set of code points, written as alternating lengths of a gap and of a run of members.

Both are read from plain text and searched by halving.
-/

namespace Regex.Unicode

/-- The number of entries of the ascending array `bounds` that are at most `c`, found by halving the
stretch from `lo` to `hi` in which it must lie. -/
def countUpTo (bounds : Array Nat) (c lo hi : Nat) : Nat :=
  if h : lo < hi then
    let mid := (lo + hi) / 2
    if bounds.getD mid 0 ≤ c then countUpTo bounds c (mid + 1) hi else countUpTo bounds c lo mid
  else lo
termination_by hi - lo

/-- A map on code points given by the first code point of each run and the value held from there
up to the next run. -/
structure Runs (α : Type) where
  starts : Array Nat
  values : Array α

namespace Runs

variable {α : Type}

/-- The value at `c`. -/
def get [Inhabited α] (runs : Runs α) (c : Nat) : α :=
  runs.values.getD (countUpTo runs.starts c 0 runs.starts.size - 1) default

/-- A table while it is being read: the word in progress and the runs before it. -/
structure Reading (α : Type) where
  tag : String
  length : Nat
  counted : Bool
  next : Nat
  starts : Array Nat
  values : Array α

/-- Ends the word in progress. A word without a number stands for one code point. -/
def Reading.finish (value : String → α) (r : Reading α) : Reading α :=
  if r.tag.isEmpty then r
  else
    { tag := "", length := 0, counted := false
      next := r.next + (if r.counted then r.length else 1)
      starts := r.starts.push r.next
      values := r.values.push (value r.tag) }

/-- Takes one character of the text: a digit of a run length, a letter of a tag, or a space. -/
def Reading.feed (value : String → α) (r : Reading α) (c : Char) : Reading α :=
  if c.isWhitespace then r.finish value
  else if c.isDigit then
    { r with length := r.length * 10 + (c.toNat - 48), counted := true }
  else { r with tag := r.tag.push c }

/-- Reads a table whose tags mean `value tag`; the runs follow one another from code point 0. -/
def ofText (value : String → α) (text : String) : Runs α :=
  let r := (text.foldl (Reading.feed value) ⟨"", 0, false, 0, #[], #[]⟩).finish value
  ⟨r.starts, r.values⟩

end Runs

/-- A set of code points, as the places where membership changes: the first is where the first
members begin. -/
structure CodeSet where
  bounds : Array Nat

namespace CodeSet

/-- Whether `c` is in the set: an odd number of changes lie at or before it. -/
def contains (s : CodeSet) (c : Nat) : Bool :=
  countUpTo s.bounds c 0 s.bounds.size % 2 == 1

/-- The empty set. -/
def empty : CodeSet := ⟨#[]⟩

/-- Reads the decimal numbers of a text. -/
def numbers (text : String) : List Nat :=
  let step := fun (acc : Array Nat × Option Nat) (c : Char) =>
    if c.isDigit then (acc.1, some (acc.2.getD 0 * 10 + (c.toNat - 48)))
    else match acc.2 with
      | some n => (acc.1.push n, none)
      | none => acc
  let (done, last) := text.foldl step (#[], none)
  (match last with
    | some n => done.push n
    | none => done).toList

/-- Reads a set from alternating lengths of gaps and runs, the first being the gap before the first
member. -/
def ofText (text : String) : CodeSet :=
  ⟨((numbers text).foldl
    (fun (acc : Array Nat × Nat) n => (acc.1.push (acc.2 + n), acc.2 + n)) (#[], 0)).1⟩

end CodeSet

end Regex.Unicode
