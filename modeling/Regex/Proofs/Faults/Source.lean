import Regex.Proofs.Match.Places
import Regex.Proofs.Syntax.Marks

/-!
# Places of faults

A fault is reported by the byte offset of a place in the text.  Places are counted in units from the
start, and the end is the last one; a place beyond it would be reported beyond the text.

* `Source.Formed`: the offsets of the units rise and lie inside the text.
* `Source.formed_ofText`: the units of every text are so.
* `Source.scan_le`, `Source.lt_of_get?`, `Source.le_of_hasText`: which places are in a text.
* `Reading.Within`: a fault stands in the text, and what is read has a property.
-/

namespace Regex

/-- A fault stands in a text of `n` bytes. -/
def PatternFault.Within (n : Nat) (fault : PatternFault) : Prop := ∀ k ∈ fault.offset, k ≤ n

theorem le_of_mem_some {n offset : Nat} (offset_le : offset ≤ n) : ∀ k ∈ some offset, k ≤ n :=
  fun _ mem => Option.some.inj mem ▸ offset_le

namespace Syntax

open Unicode

namespace Source

/-- The offsets of units rise and lie inside the text. -/
structure Formed (s : Source) : Prop where
  aligned : s.offsets.size = s.units.size
  rising : Rising s.offsets
  below : ∀ o ∈ s.offsets, o < s.length

variable {s : Source} {i j : Nat} {c : Char}

/-! ## Offsets -/

theorem offset_of_lt (inside : i < s.offsets.size) : s.offset i = s.offsets[i] := by
  rw [offset, Array.getElem?_eq_getElem inside]

namespace Formed

theorem offset_size (formed : s.Formed) : s.offset s.size = s.length := by
  have none : s.offsets[s.size]? = none :=
    Array.getElem?_eq_none (Nat.le_of_eq formed.aligned)
  rw [offset, none, Nat.sub_self, Nat.add_zero]

/-- Every unit has a byte at least. -/
theorem offset_lt (formed : s.Formed) (lt : i < j) (inside : j ≤ s.size) :
    s.offset i < s.offset j := by
  have bound : i < s.offsets.size := by
    rw [formed.aligned]
    exact Nat.lt_of_lt_of_le lt inside
  rw [offset_of_lt bound]
  rcases Nat.lt_or_eq_of_le inside with before | rfl
  · have bound' : j < s.offsets.size := formed.aligned ▸ before
    rw [offset_of_lt bound']
    exact formed.rising i j bound bound' lt
  · rw [formed.offset_size]
    exact formed.below _ (Array.getElem_mem bound)

theorem offset_add_le (formed : s.Formed) (le : i ≤ j) (inside : j ≤ s.size) :
    s.offset i + (j - i) ≤ s.offset j := by
  induction j, le using Nat.le_induction with
  | base => rw [Nat.sub_self, Nat.add_zero]
  | succ j le ih =>
      have more : s.offset j < s.offset (j + 1) := formed.offset_lt (Nat.lt_succ_self j) inside
      have := ih (Nat.le_of_succ_le inside)
      omega

/-- The offsets of places do not lie beyond the text. -/
theorem offset_le (formed : s.Formed) (inside : i ≤ s.size) : s.offset i ≤ s.length := by
  have := formed.offset_add_le inside (Nat.le_refl _)
  rw [formed.offset_size] at this
  omega

end Formed

theorem formed_ofBytes (text : String) : (ofBytes text).Formed where
  aligned := by
    unfold ofBytes
    rw [Array.size_range, List.size_toArray]
  rising := Match.Subject.rising_range _
  below := by
    intro o mem
    exact Array.mem_range.mp mem

theorem formed_ofChars (text : String) : (ofChars text).Formed := by
  have fold : ∀ (list : List Char) (acc : Array Char × Array Nat × Nat),
      (⟨acc.1, acc.2.1, acc.2.2⟩ : Source).Formed →
      let acc := list.foldl (fun (acc : Array Char × Array Nat × Nat) c =>
        (acc.1.push c, acc.2.1.push acc.2.2, acc.2.2 + c.utf8Size)) acc
      (⟨acc.1, acc.2.1, acc.2.2⟩ : Source).Formed := by
    intro list
    induction list with
    | nil => exact fun _ formed => formed
    | cons c rest ih =>
        intro acc formed
        refine ih _ ⟨?_, formed.rising.push formed.below, fun o mem => ?_⟩
        · rw [Array.size_push, Array.size_push]
          exact congrArg (· + 1) formed.aligned
        · have size := c.utf8Size_pos
          rcases Array.mem_push.mp mem with old | rfl
          · exact Nat.lt_add_right _ (formed.below o old)
          · exact Nat.lt_add_of_pos_right size
  exact fold text.toList (#[], #[], 0) ⟨rfl, Rising.empty, by simp⟩

theorem formed_ofText (byChars : Bool) (text : String) : (ofText byChars text).Formed := by
  unfold ofText
  split_ifs
  · exact formed_ofChars text
  · exact formed_ofBytes text

/-- A text is as long as it is, however it is read. -/
theorem length_ofText (byChars : Bool) (text : String) :
    (ofText byChars text).length = text.utf8ByteSize := by
  have fold : ∀ (list : List Char) (acc : Array Char × Array Nat × Nat),
      (list.foldl (fun (acc : Array Char × Array Nat × Nat) c =>
        (acc.1.push c, acc.2.1.push acc.2.2, acc.2.2 + c.utf8Size)) acc).2.2 =
          acc.2.2 + (list.flatMap String.utf8EncodeChar).length := by
    intro list
    induction list with
    | nil => exact fun _ => rfl
    | cons c rest ih =>
        intro acc
        rw [List.foldl_cons, ih, List.flatMap_cons, List.length_append,
          String.length_utf8EncodeChar, Nat.add_assoc]
  unfold ofText
  split_ifs
  · refine (fold text.toList _).trans ?_
    rw [← Utf8.encode_eq, Utf8.length_encode, Nat.zero_add]
  · change ((Utf8.encode text).map _).length = _
    rw [List.length_map, Utf8.length_encode]

/-! ## Places -/

theorem lt_of_get? (unit : s.get? i = some c) : i < s.size :=
  (Array.getElem?_eq_some_iff.mp unit).1

theorem lt_of_has (found : s.has i c = true) : i < s.size := by
  rw [has, beq_iff_eq] at found
  exact lt_of_get? found

/-- A unit that is not found to be missing is there. -/
theorem lt_of_not_missing (found : ¬(!s.has i c) = true) : i < s.size := by
  rw [Bool.not_eq_true', Bool.not_eq_false] at found
  exact lt_of_has found

theorem le_of_hasText {text : List Char} (found : s.hasText i text = true) (inside : i ≤ s.size) :
    i + text.length ≤ s.size := by
  induction text generalizing i with
  | nil => exact inside
  | cons c rest ih =>
      rw [hasText, Bool.and_eq_true] at found
      have := ih found.2 (lt_of_has found.1)
      rw [List.length_cons]
      omega

theorem le_scan (stops : Char → Bool) (i : Nat) : i ≤ s.scan stops i := by
  fun_induction s.scan stops i with
  | case1 i c unit stop => exact Nat.le_refl i
  | case2 i c unit more ih => omega
  | case3 i none => exact Nat.le_refl i

theorem scan_le (stops : Char → Bool) (inside : i ≤ s.size) : s.scan stops i ≤ s.size := by
  fun_induction s.scan stops i with
  | case1 i c unit stop => exact inside
  | case2 i c unit more ih => exact ih (lt_of_get? unit)
  | case3 i none => exact inside

theorem length_slice (i j : Nat) : (s.slice i j).length = min j s.size - i := by
  rw [slice, Array.length_toList, Array.size_extract, size]

end Source

/-! ## Reading -/

namespace Reading

/-- A fault stands in a text of `n` bytes, and whatever is read has a property. -/
def Within {α : Type} (n : Nat) (x : Reading α) (Q : α → Prop) : Prop :=
  match x with
  | .ok a => Q a
  | .error fault => fault.Within n

namespace Within

variable {α β : Type} {n : Nat} {x : Reading α} {Q : α → Prop} {R : β → Prop}

theorem ok {a : α} (holds : Q a) : Within n (.ok a) Q := holds

theorem error {fault : PatternFault} (within : fault.Within n) : Within n (.error fault) Q :=
  within

theorem bind {f : α → Reading β} (first : Within n x Q) (next : ∀ a, Q a → Within n (f a) R) :
    Within n (x >>= f) R := by
  cases x with
  | error fault => exact first
  | ok a => exact next a first

theorem map {f : α → β} (first : Within n x fun a => R (f a)) : Within n (x.map f) R := by
  cases x with
  | error fault => exact first
  | ok a => exact first

theorem mono {Q' : α → Prop} (first : Within n x Q) (weaker : ∀ a, Q a → Q' a) :
    Within n x Q' := by
  cases x with
  | error fault => exact first
  | ok a => exact weaker a first

/-- What stands in a text stands in a longer one. -/
theorem widen {m : Nat} (first : Within n x Q) (le : n ≤ m) : Within m x Q := by
  cases x with
  | error fault => exact fun k mem => (first k mem).trans le
  | ok a => exact first

theorem mapM {f : α → Reading β} {list : List α}
    (each : ∀ a ∈ list, Within n (f a) fun _ => True) :
    Within n (list.mapM f) fun _ => True := by
  induction list with
  | nil => exact ok trivial
  | cons a rest ih =>
      rw [List.mapM_cons]
      refine bind (each a List.mem_cons_self) fun _ _ => ?_
      exact bind (ih fun a mem => each a (List.mem_cons_of_mem _ mem)) fun _ _ => ok trivial

end Within

/-- A fault at a place of a text stands in it. -/
theorem within_fault {α : Type} {s : Source} (formed : s.Formed) {i : Nat} (inside : i ≤ s.size)
    {cause : PatternFault.Cause} {Q : α → Prop} :
    Within s.length (.error (s.fault cause i)) Q :=
  .error (le_of_mem_some (formed.offset_le inside))

end Reading

end Syntax

end Regex
