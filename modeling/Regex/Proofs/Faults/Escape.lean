import Regex.Proofs.Faults.Source
import Regex.Syntax.Escape
import Regex.Syntax.Name
import Regex.Syntax.PropertyName

/-!
# Faults in numbers, names and escapes

What is read of a part of a text from one of its places on ends at one of its places, and a fault in
it stands in the text.

* `Source.Ends`: what has been read ends in the text.
* `Source.within_readGroupNumber`, `Source.within_readCounts`: numbers.
* `Source.within_readGroupName`, `Source.within_readWord`, `Source.within_readProperty`: names.
* `Source.within_readEscape`: escapes.
-/

namespace Regex.Syntax.Source

open Chars Reading

/-- What follows something that may have been read is a place of the text. -/
def Ends (s : Source) {α : Type} : Option (α × Nat) → Prop
  | some (_, next) => next ≤ s.size
  | none => True

variable {s : Source} {i : Nat}

theorem lt_of_hasDigit (digit : s.hasDigit i = true) : i < s.size := by
  unfold hasDigit at digit
  split at digit
  · rename_i c unit
    exact lt_of_get? unit
  · cases digit

theorem skipDigits_le (inside : i ≤ s.size) : s.skipDigits i ≤ s.size :=
  scan_le _ inside

theorem skipBlanks_le (inside : i ≤ s.size) : s.skipBlanks i ≤ s.size :=
  scan_le _ inside

variable (formed : s.Formed)

include formed

/-! ## Numbers -/

theorem within_readNumber (inside : i ≤ s.size) (limit : Nat) (cause : PatternFault.Cause) :
    Within s.length (s.readNumber i limit cause) s.Ends := by
  have next_le := skipDigits_le inside
  unfold readNumber
  extract_lets next n
  split_ifs
  · exact within_fault formed next_le
  · exact .ok next_le
  · exact .ok trivial

theorem within_readGroupNumber (inside : i ≤ s.size) (groups : Nat) :
    Within s.length (s.readGroupNumber i groups) s.Ends := by
  unfold readGroupNumber
  split_ifs with plus minus
  · refine .bind (within_readNumber formed (lt_of_has plus) _ _) fun found ends => ?_
    split
    · exact within_fault formed ends
    · exact .ok ends
    · exact .ok trivial
  · refine .bind (within_readNumber formed (lt_of_has minus) _ _) fun found ends => ?_
    split
    · exact within_fault formed ends
    · split_ifs
      · exact within_fault formed ends
      · exact .ok ends
    · exact .ok trivial
  · exact within_readNumber formed inside _ _

omit formed in
/-- The parts of counts are places of the text. -/
theorem countShape?_inside (inside : i ≤ s.size) {shape : CountShape}
    (found : s.countShape? i = some shape) :
    (∀ p ∈ shape.first, p ≤ s.size) ∧ (∀ p ∈ shape.second.join, p ≤ s.size) ∧
      shape.next ≤ s.size := by
  have digits : ∀ {p : Nat}, p ≤ s.size →
      ∀ q ∈ (if s.hasDigit p then some p else none), q ≤ s.size := by
    intro p inside q mem
    split_ifs at mem
    · cases mem
      exact inside
    · cases mem
  unfold countShape? at found
  extract_lets start first after start' second after' at found
  have start_le : start ≤ s.size := skipBlanks_le inside
  have first_le := digits start_le
  split_ifs at found with single some comma closed
  · cases found
    exact ⟨first_le, nofun, lt_of_has single⟩
  · have start_le : start' ≤ s.size := skipBlanks_le (lt_of_has comma)
    rw [Bool.and_eq_true] at closed
    cases found
    exact ⟨first_le, digits start_le, lt_of_has closed.1⟩

theorem within_readCounts (inside : i ≤ s.size) :
    Within s.length (s.readCounts i) fun found => ∀ r ∈ found, r.2.2 ≤ s.size := by
  unfold readCounts
  split
  · exact .ok nofun
  rename_i shape found
  obtain ⟨first, second, next⟩ := countShape?_inside inside found
  extract_lets number
  have number : ∀ place : Option Nat, (∀ p ∈ place, p ≤ s.size) →
      Within s.length (number place) s.Ends := by
    rintro (_ | p) place_le
    · exact .ok trivial
    · exact within_readNumber formed (place_le p rfl) _ _
  have done : ∀ (a : Nat) (b : Option Nat),
      ∀ r ∈ some (a, b, shape.next), r.2.2 ≤ s.size := by
    rintro a b r ⟨⟩
    exact next
  refine .bind (number _ first) fun min _ => ?_
  split
  · exact .ok (done _ _)
  · rename_i place eq
    rw [eq] at second
    refine .bind (number _ second) fun max ends => ?_
    split
    · exact .ok (done _ _)
    · split_ifs
      · exact within_fault formed ends
      · exact .ok (done _ _)

/-! ## Names -/

theorem within_nameEnd (inside : i ≤ s.size) (accepts : Char → Bool) :
    Within s.length (s.nameEnd i accepts) fun stop => i ≤ stop ∧ stop ≤ s.size := by
  have stop_le := scan_le (fun c => !accepts c) inside
  unfold nameEnd
  extract_lets stop
  split_ifs
  · exact within_fault formed stop_le
  · exact .ok ⟨le_scan _ i, stop_le⟩

/-- A name stands where it is said to, and the place after it is not the start of the text. -/
theorem within_readGroupName (inside : i ≤ s.size) (wide : Bool) (terminator : Char) :
    Within s.length (s.readGroupName wide i terminator) fun found =>
      found.2.1 + found.1.length ≤ s.size ∧ 0 < found.2.2 ∧ found.2.2 ≤ s.size := by
  unfold readGroupName
  extract_lets braced start
  have start_le : start ≤ s.size := by
    unfold start
    split_ifs
    · exact skipBlanks_le inside
    · exact inside
  split
  · exact within_fault formed start_le
  split
  · exact within_fault formed start_le
  refine .bind (within_nameEnd formed start_le _) fun stop inside => ?_
  split
  · exact within_fault formed start_le
  · extract_lets place
    have place_le : place ≤ s.size := by
      unfold place
      split_ifs
      · exact skipBlanks_le inside.2
      · exact inside.2
    split_ifs with closed
    · refine .ok ⟨?_, Nat.succ_pos _, lt_of_has closed⟩
      change start + (s.slice start stop).length ≤ s.size
      rw [length_slice]
      omega
    · exact within_fault formed place_le

theorem within_readWord (inside : i ≤ s.size) :
    Within s.length (s.readWord i) fun found => found.2 ≤ s.size := by
  unfold readWord
  exact .bind (within_nameEnd formed inside _) fun stop inside => .ok inside.2

theorem within_malformed {α : Type} {Q : α → Prop} (inside : i ≤ s.size) :
    Within s.length (.error (s.malformed i)) Q := by
  refine .error (le_of_mem_some ?_)
  split_ifs with before
  · exact Nat.lt_of_lt_of_le (formed.offset_lt (Nat.lt_succ_self i) before)
      (formed.offset_le before)
  · exact formed.offset_le inside

theorem within_readKey (fuel : Nat) (inside : i ≤ s.size) (negated : Bool) (key : List Char) :
    Within s.length (s.readKey fuel i negated key) fun found => found.2.2 ≤ s.size := by
  fun_induction s.readKey fuel i negated key with
  | case1 => exact within_malformed formed inside
  | case2 => exact within_malformed formed inside
  | case3 i negated key fuel c unit ignored ih => exact ih (lt_of_get? unit)
  | case4 i negated key fuel c unit counted caret ih => exact ih (lt_of_get? unit)
  | case5 i negated key fuel c unit counted plain closes => exact .ok (lt_of_get? unit)
  | case6 => exact within_malformed formed inside
  | case7 => exact within_malformed formed inside
  | case8 i negated key fuel c unit counted plain inner valid short ih =>
      exact ih (lt_of_get? unit)

theorem within_readProperty (inside : i ≤ s.size) :
    Within s.length (s.readProperty i) fun found => found.2.2 ≤ s.size := by
  unfold readProperty
  extract_lets rest
  have rest : ∀ found : Bool × List Char × Nat, found.2.2 ≤ s.size →
      Within s.length (rest found) fun found => found.2.2 ≤ s.size := by
    rintro ⟨negated, key, next⟩ next_le
    unfold rest
    dsimp only
    split
    · exact .ok next_le
    · exact within_fault formed next_le
  split
  · rename_i unit
    exact .bind (within_readKey formed _ (lt_of_get? unit) _ _) rest
  · rename_i unit
    split_ifs
    · exact rest (_, _, i + 1) (lt_of_get? unit)
    · exact .bind (within_malformed formed inside) rest
  · exact .bind (within_malformed formed inside) rest

/-! ## Escapes -/

omit formed in
/-- Digits are taken from the place where they are looked for, up to where they end. -/
theorem readDigits_le (base limit : Nat) (value? : Char → Option Nat) (inside : i ≤ s.size) :
    (s.readDigits base limit value? i).2 ≤ s.size := by
  have fold : ∀ (digits : List Char) (n next : Nat),
      (digits.foldl (fun (acc : Nat × Nat) c =>
        if limit < acc.1 then (acc.1, acc.2)
        else (acc.1 * base + (value? c).getD 0, acc.2 + 1)) (n, next)).2 ≤
          next + digits.length := by
    intro digits
    induction digits with
    | nil => exact fun _ _ => Nat.le_refl _
    | cons c rest ih =>
        intro n next
        rw [List.foldl_cons, List.length_cons]
        split_ifs
        · exact Nat.le_succ_of_le (ih n next)
        · exact (ih _ _).trans (by omega)
  have stop_le := scan_le (fun c => (value? c).isNone) inside
  have := fold (s.slice i (s.scan (fun c => (value? c).isNone) i)) 0 i
  rw [length_slice] at this
  exact this.trans (by omega)

omit formed in
theorem missingAt_le (inside : i ≤ s.size) : s.missingAt i ≤ s.size := by
  unfold missingAt
  split_ifs <;> omega

theorem within_readBraced (ctx : EscapeContext) (base : Nat) (value? : Char → Option Nat)
    (cause : PatternFault.Cause) (inside : i ≤ s.size) :
    Within s.length (s.readBraced ctx base value? cause i) fun found => found.2 ≤ s.size := by
  have stop_le := readDigits_le base ctx.maxCode value? inside
  unfold readBraced
  split
  rename_i n stop eq
  rw [eq] at stop_le
  extract_lets next
  have next_le : next ≤ s.size := skipBlanks_le stop_le
  split_ifs with large open_ surrogate
  · exact within_fault formed (scan_le _ next_le)
  · exact within_fault formed (missingAt_le next_le)
  · exact within_fault formed next_le
  · exact .ok (lt_of_not_missing open_)

theorem within_readHexBraced (ctx : EscapeContext) (inside : i ≤ s.size) :
    Within s.length (s.readHexBraced ctx i) fun found => found.2 ≤ s.size := by
  unfold readHexBraced
  split
  · exact within_fault formed inside
  · exact within_fault formed inside
  · exact within_readBraced formed ctx _ _ _ inside

omit formed in
/-- A fixed number of digits that are there are in the text. -/
theorem fixedHex?_le {count n : Nat} (found : s.fixedHex? count i = some n)
    (inside : i ≤ s.size) : i + count ≤ s.size := by
  unfold fixedHex? at found
  extract_lets text at found
  split_ifs at found with all
  rw [Bool.and_eq_true, decide_eq_true_eq] at all
  have length : (s.slice i (i + count)).length = count := all.1
  rw [length_slice] at length
  omega

theorem within_readHex (ctx : EscapeContext) (inside : i ≤ s.size) :
    Within s.length (s.readHex ctx i) fun found => found.2 ≤ s.size := by
  have stop_le := scan_le (fun c => (hexValue? c).isNone) inside
  unfold readHex
  split
  · split
    · rename_i found
      exact .ok (fixedHex?_le found inside)
    · exact .ok inside
  split
  · rename_i brace
    exact within_readHexBraced formed ctx (skipBlanks_le (lt_of_has brace))
  · extract_lets stop
    split_ifs
    · exact within_fault formed inside
    · exact .ok ((Nat.min_le_left _ _).trans stop_le)

theorem within_readShort (ctx : EscapeContext) (inside : i ≤ s.size) :
    Within s.length (s.readShort ctx i) fun found => found.2 ≤ s.size := by
  unfold readShort
  split
  · exact within_fault formed inside
  split
  · exact .ok inside
  · rename_i found
    have stop_le := fixedHex?_le found inside
    split_ifs
    · exact within_fault formed stop_le
    · exact within_fault formed stop_le
    · exact .ok stop_le

theorem within_readOctalBraced (ctx : EscapeContext) (inside : i ≤ s.size) :
    Within s.length (s.readOctalBraced ctx i) fun found => found.2 ≤ s.size := by
  unfold readOctalBraced
  split
  · exact within_fault formed (missingAt_le inside)
  · rename_i brace
    extract_lets start
    have start_le : start ≤ s.size := skipBlanks_le (lt_of_not_missing brace)
    split
    · exact within_fault formed start_le
    · exact within_fault formed start_le
    · exact within_readBraced formed ctx _ _ _ start_le

theorem within_readOctal (ctx : EscapeContext) (inside : i ≤ s.size) :
    Within s.length (s.readOctal ctx i) fun found => found.2 ≤ s.size := by
  unfold readOctal
  extract_lets text n next
  have next_le : next ≤ s.size := by
    have shorter := (List.takeWhile_prefix (l := s.slice i (i + 3))
      (octalValue? · |>.isSome)).length_le
    rw [length_slice] at shorter
    change i + text.length ≤ s.size
    change text.length ≤ _ at shorter
    omega
  split_ifs
  · exact within_fault formed next_le
  · exact .ok next_le

theorem within_readControl (inside : i ≤ s.size) :
    Within s.length (s.readControl i) fun found => found.2 ≤ s.size := by
  unfold readControl
  split
  · exact within_fault formed inside
  · rename_i unit
    split_ifs
    · exact .ok (lt_of_get? unit)
    · exact within_fault formed inside

theorem within_readNumeric (ctx : EscapeContext) (first : Char) (inside : i < s.size) :
    Within s.length (s.readNumeric ctx i first) fun found => found.2 ≤ s.size := by
  unfold readNumeric
  extract_lets next n
  have next_le : next ≤ s.size := skipDigits_le (Nat.le_of_lt inside)
  split_ifs
  · exact within_fault formed next_le
  · exact .ok next_le
  · exact .ok inside
  · exact .map (within_readOctal formed ctx (Nat.le_of_lt inside))

theorem within_readGroupEscape (ctx : EscapeContext) (inside : i ≤ s.size) :
    Within s.length (s.readGroupEscape ctx i) fun found => found.2 ≤ s.size := by
  unfold readGroupEscape
  split
  · exact within_fault formed inside
  · exact .ok inside
  · exact .ok inside
  · rename_i unit
    have number := within_readGroupNumber formed (skipBlanks_le (lt_of_get? unit)) ctx.groups
    split
    · exact within_fault formed inside
    · exact .ok inside
    · rename_i n stop eq
      rw [eq] at number
      extract_lets stop'
      split
      · exact within_fault formed inside
      · rename_i closed
        have closed := lt_of_not_missing closed
        split_ifs
        · exact within_fault formed closed
        · exact .ok closed
  · refine .bind (within_readGroupNumber formed inside ctx.groups) fun found ends => ?_
    split
    · exact within_fault formed inside
    · exact within_fault formed ends
    · exact .ok ends

theorem within_readNotNewline (ctx : EscapeContext) (inside : i ≤ s.size) :
    Within s.length (s.readNotNewline ctx i) fun found => found.2 ≤ s.size := by
  unfold readNotNewline
  split
  · exact .ok inside
  · rename_i brace
    extract_lets start
    have start_le : start ≤ s.size := skipBlanks_le (lt_of_not_missing brace)
    split
    · rename_i code
      have code_le := le_of_hasText code start_le
      split_ifs
      · exact .map (within_readHexBraced formed ctx code_le)
      · exact within_fault formed inside
    split
    · exact within_fault formed inside
    split
    · exact .ok inside
    · exact within_fault formed inside
    · exact within_fault formed inside

/-- **An escape ends in the text**, and so does whatever is at fault in it. -/
theorem within_readEscape (ctx : EscapeContext) (inside : i ≤ s.size) :
    Within s.length (s.readEscape ctx i) fun found => found.2 ≤ s.size := by
  unfold readEscape
  extract_lets code
  have code : ∀ {x : Reading (Nat × Nat)}, Within s.length x (fun found => found.2 ≤ s.size) →
      Within s.length (code x) fun found => found.2 ≤ s.size := fun within => .map within
  split
  · exact within_fault formed inside
  rename_i c unit
  have next_le : i + 1 ≤ s.size := lt_of_get? unit
  split
  · exact .ok next_le
  split
  · exact .ok next_le
  · exact .ok next_le
  split
  · exact within_readNotNewline formed ctx next_le
  · exact within_fault formed next_le
  · exact within_fault formed next_le
  · exact within_fault formed next_le
  · split_ifs
    · exact .ok next_le
    · exact within_fault formed next_le
  · exact code (within_readShort formed ctx next_le)
  · exact code (within_readHex formed ctx next_le)
  · exact code (within_readOctalBraced formed ctx next_le)
  · exact code (within_readControl formed next_le)
  · split_ifs
    · exact .ok next_le
    · exact within_readGroupEscape formed ctx next_le
  · exact code (within_readOctal formed ctx inside)
  · split_ifs
    · exact within_readNumeric formed ctx c next_le
    · exact within_fault formed inside

end Regex.Syntax.Source
