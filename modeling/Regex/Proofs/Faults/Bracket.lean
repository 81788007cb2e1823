import Regex.Proofs.Faults.Escape
import Regex.Syntax.Bracket

/-!
# Faults in classes

A class is read part by part, with the classes around it kept as levels.  A hyphen that can only
come last is remembered by its place, which is reported once something comes after it.

* `Brackets.Inside`: the places that are remembered are in the text.
* `Brackets.within_step`: the next part of a class ends in the text, and so does what is at fault.
* `Source.within_readClass`: the same for a whole class.
-/

namespace Regex.Syntax

open Chars Reading

/-- A hyphen that can only come last is in the text. -/
def Level.Inside (s : Source) (l : Level) : Prop :=
  ∀ place, l.dash = .wasLast place → place ≤ s.size

namespace Level

variable {s : Source} {l : Level}

/-- Nothing is remembered of other hyphens. -/
theorem inside_of_eq {dash : DashState} (eq : l.dash = dash)
    (other : ∀ place, dash ≠ .wasLast place) : l.Inside s :=
  fun place last => absurd (eq.symm.trans last) (other place)

theorem inside_of_literal (eq : l.dash = .literal) : l.Inside s :=
  inside_of_eq eq nofun

theorem inside_opened (mode : ClassMode) (negated : Bool) : (opened mode negated).Inside s :=
  inside_of_literal rfl

theorem inside_addNested (tree : ClassTree) : (l.addNested tree).Inside s :=
  inside_of_literal rfl

theorem Inside.settleDash (inside : l.Inside s) : l.settleDash.Inside s := by
  unfold Level.settleDash
  split
  · exact inside_of_literal rfl
  · exact inside

theorem inside_operate (op : ClassOp) : (l.operate op).Inside s := by
  unfold operate
  cases op <;> exact inside_of_literal rfl

end Level

/-- The places that are remembered of open classes are in the text. -/
structure Brackets.Inside (s : Source) (b : Brackets) : Prop where
  place : b.place ≤ s.size
  levels : ∀ l ∈ b.levels, l.Inside s

namespace Brackets

/-- A step ends in the text. -/
def Ends (s : Source) : Brackets ⊕ ClassResult × Nat → Prop
  | .inl b => b.Inside s
  | .inr (_, next) => next ≤ s.size

variable {s : Source} {ctx : ClassContext} {b : Brackets} {l : Level} {outer : List Level}

theorem levels_cons (inside : l.Inside s) (others : ∀ l ∈ outer, l.Inside s) :
    ∀ l' ∈ l :: outer, l'.Inside s :=
  List.forall_mem_cons.mpr ⟨inside, others⟩

theorem skipClassStart_le (blanks : Bool) (fuel : Nat) {i : Nat} (inside : i ≤ s.size)
    (negated : Bool) : (s.skipClassStart blanks fuel i negated).1 ≤ s.size := by
  fun_induction s.skipClassStart blanks fuel i negated with
  | case1 => exact inside
  | case2 i negated fuel ends ih => exact ih (Source.le_of_hasText ends inside)
  | case3 i negated fuel plain empty ih => exact ih (Source.le_of_hasText empty inside)
  | case4 i negated fuel plain some blank ih =>
      rw [Bool.and_eq_true, Bool.or_eq_true] at blank
      exact ih (blank.2.elim Source.lt_of_has Source.lt_of_has)
  | case5 i negated fuel plain some counted caret ih =>
      rw [Bool.and_eq_true] at caret
      exact ih (Source.lt_of_has caret.2)
  | case6 => exact inside

theorem classStart_le (mode : ClassMode) {i : Nat} (inside : i ≤ s.size) :
    (s.classStart ctx mode i).1 ≤ s.size := by
  unfold Source.classStart
  split
  · exact inside
  · exact skipClassStart_le _ _ inside _

/-- A named class ends in the text. -/
theorem posixEnd?_le {i stop : Nat} (found : s.posixEnd? i = some stop) : stop + 2 ≤ s.size := by
  have search : ∀ (sign : Char) (text : List Char) (i : Nat),
      Source.posixEnd?.search sign text i = some stop → stop + 2 ≤ i + text.length := by
    intro sign text i found
    fun_induction Source.posixEnd?.search sign text i with
    | case1 i c d rest escaped ih =>
        have := ih found
        simp only [List.length_cons]
        omega
    | case2 => cases found
    | case3 i c d rest plain unended ends =>
        cases found
        simp only [List.length_cons]
        omega
    | case4 i c d rest plain unended more ih =>
        have := ih found
        simp only [List.length_cons] at this ⊢
        omega
    | case5 => cases found
  unfold Source.posixEnd? at found
  split at found
  · cases found
  · rename_i sign unit
    have := search _ _ _ found
    rw [Source.length_slice] at this
    have := Source.lt_of_get? unit
    omega

variable (formed : s.Formed)

include formed

theorem within_openClass (others : ∀ l ∈ b.levels, l.Inside s) (mode : ClassMode) (bracket : Char)
    {i : Nat} (inside : i ≤ s.size) :
    Within s.length (b.openClass s ctx mode bracket i) (Ends s) := by
  have first_le := @classStart_le s ctx mode i inside
  unfold openClass
  split
  rename_i first negated start
  rw [start] at first_le
  split
  · exact within_fault formed first_le
  rename_i unit
  have next_le : first + 1 ≤ s.size := Source.lt_of_get? unit
  extract_lets plain all opened b'
  split
  · split
    · exact .ok next_le
    · rename_i levels
      rw [levels] at others
      refine .ok ⟨next_le, levels_cons (Level.inside_addNested _) ?_⟩
      exact (List.forall_mem_cons.mp others).2
  · split
    · exact .ok ⟨next_le, levels_cons (Level.inside_of_eq rfl nofun) others⟩
    · exact .ok ⟨first_le, levels_cons (Level.inside_opened _ _) others⟩

theorem within_addChar (others : ∀ l ∈ outer, l.Inside s) (inside : l.Inside s) (c : Nat)
    {next : Nat} (next_le : next ≤ s.size) :
    Within s.length (b.addChar s l outer c next) (·.Inside s) := by
  have before : next - 1 ≤ s.size := (Nat.sub_le _ _).trans next_le
  unfold addChar
  extract_lets done
  split
  · exact within_fault formed next_le
  split
  · split_ifs
    · exact within_fault formed before
    · exact .ok ⟨next_le, levels_cons (Level.inside_of_eq rfl nofun) others⟩
  · rename_i place last
    exact within_fault formed (inside place last)
  · exact .ok ⟨next_le, levels_cons (Level.inside_of_eq rfl nofun) others⟩

theorem within_checkItem (inside : l.Inside s) {next : Nat} (next_le : next ≤ s.size) :
    Within s.length (checkItem s l next) fun _ => True := by
  unfold checkItem
  split
  · exact within_fault formed next_le
  · rename_i place last
    exact within_fault formed (inside place last)
  · split_ifs
    · exact within_fault formed next_le
    · exact .ok trivial

omit formed in
theorem inside_addItem (others : ∀ l ∈ outer, l.Inside s) (item : ClassItem) {next : Nat}
    (next_le : next ≤ s.size) : (b.addItem l outer item next).Inside s :=
  ⟨next_le, levels_cons (Level.inside_of_eq rfl nofun) others⟩

theorem within_addPosix (others : ∀ l ∈ outer, l.Inside s) (inside : l.Inside s) (i : Nat)
    {stop : Nat} (stop_le : stop + 2 ≤ s.size) :
    Within s.length (b.addPosix s ctx l outer i stop) (·.Inside s) := by
  unfold addPosix
  extract_lets next negated name
  refine .bind (within_checkItem formed inside stop_le) fun _ _ => ?_
  split
  · exact within_fault formed stop_le
  · split
    · exact .ok (inside_addItem others _ stop_le)
    · exact within_fault formed stop_le

theorem within_addEscape (kept : ∀ l ∈ b.levels, l.Inside s) (others : ∀ l ∈ outer, l.Inside s)
    (inside : l.Inside s) {i : Nat} (place_le : i ≤ s.size) :
    Within s.length (b.addEscape s ctx l outer i) (·.Inside s) := by
  unfold addEscape
  refine .bind (s.within_readEscape formed _ place_le) fun ⟨e, next⟩ next_le => ?_
  have before : next - 1 ≤ s.size := (Nat.sub_le _ _).trans next_le
  dsimp only at next_le ⊢
  split
  · exact within_addChar formed others inside _ next_le
  · exact within_addChar formed others inside _ next_le
  · exact within_addChar formed others inside _ next_le
  · exact .ok ⟨next_le, kept⟩
  · exact .ok ⟨next_le, kept⟩
  · exact within_fault formed before
  · exact within_fault formed before
  · exact within_fault formed before
  · refine .bind (within_checkItem formed inside next_le) fun _ _ => ?_
    split
    · exact .ok (inside_addItem others _ next_le)
    · refine .bind (s.within_readProperty formed next_le) fun ⟨p, inverted, next⟩ next_le => ?_
      exact .ok (inside_addItem others _ next_le)
    · exact within_fault formed next_le
    · exact within_fault formed before

theorem within_closeClass (others : ∀ l ∈ outer, l.Inside s) (bracket : Char)
    {next : Nat} (next_le : next ≤ s.size) :
    Within s.length (b.closeClass s l outer bracket next) (Ends s) := by
  have before : next - 1 ≤ s.size := (Nat.sub_le _ _).trans next_le
  unfold closeClass
  extract_lets expression
  split
  · exact within_fault formed before
  split
  · exact within_fault formed before
  split
  · exact within_fault formed next_le
  split
  · exact within_fault formed next_le
  split
  · split
    · split_ifs with closed
      · exact .ok (Source.lt_of_has closed)
      · exact within_fault formed next_le
    · exact .ok next_le
  · rename_i rest
    refine .ok ⟨next_le, levels_cons (Level.inside_addNested _) ?_⟩
    exact (List.forall_mem_cons.mp others).2

theorem within_addOperator (others : ∀ l ∈ outer, l.Inside s) (op : ClassOp) (sign : Char)
    {next : Nat} (next_le : next ≤ s.size) :
    Within s.length (b.addOperator s l outer op sign next) (·.Inside s) := by
  unfold addOperator
  split_ifs
  · exact within_fault formed next_le
  · exact within_fault formed next_le
  · exact .ok ⟨next_le, levels_cons (Level.inside_operate op) others⟩

theorem within_nest (others : ∀ l ∈ outer, l.Inside s) (inside : l.Inside s) (bracket : Char)
    {next : Nat} (next_le : next ≤ s.size) :
    Within s.length (b.nest s ctx l outer bracket next) (Ends s) := by
  unfold nest
  split
  · exact within_fault formed next_le
  split
  · exact within_fault formed next_le
  · exact within_openClass formed (levels_cons inside.settleDash others) _ _ next_le

theorem within_addPlain (others : ∀ l ∈ outer, l.Inside s) (inside : l.Inside s) (c : Char)
    {next : Nat} (next_le : next ≤ s.size) :
    Within s.length (b.addPlain s l outer c next) (·.Inside s) := by
  unfold addPlain
  extract_lets hyphen
  split
  · exact within_fault formed next_le
  split
  · split
    · exact .ok ⟨next_le, levels_cons (Level.inside_of_eq rfl nofun) others⟩
    · refine .ok ⟨next_le, levels_cons ?_ others⟩
      intro place last
      cases last
      exact next_le
    · exact within_addChar formed others inside _ next_le
  · exact within_addChar formed others inside _ next_le

theorem within_addDoubled (others : ∀ l ∈ outer, l.Inside s) (op : ClassOp) {sign : Char}
    {next : Nat} (doubled : s.has next sign = true) :
    Within s.length (b.addDoubled s l outer op sign next) (·.Inside s) := by
  have next_le := Source.lt_of_has doubled
  unfold addDoubled
  split
  · exact within_fault formed (Source.scan_le _ next_le)
  · exact within_addOperator formed others op sign next_le

/-- **The next part of a class ends in the text**, and so does whatever is at fault in it. -/
theorem within_step (inside : b.Inside s) : Within s.length (b.step s ctx) (Ends s) := by
  have go : ∀ {x : Reading Brackets}, Within s.length x (·.Inside s) →
      Within s.length (x >>= fun b => .ok (.inl b)) (Ends s) :=
    fun within => within.bind fun _ inside => .ok inside
  unfold step
  split
  · exact .ok inside.place
  rename_i l outer levels
  have known := inside.levels
  rw [levels, List.forall_mem_cons] at known
  obtain ⟨top, others⟩ := known
  extract_lets expression blanks i next complemented
  split
  · exact within_fault formed inside.place
  rename_i c unit
  have next_le : next ≤ s.size := Source.lt_of_get? unit
  split
  · split
    · rename_i ends
      exact .ok ⟨Source.le_of_hasText ends inside.place, inside.levels⟩
    · exact go (within_addChar formed others top _ next_le)
  split
  · exact .ok ⟨next_le, inside.levels⟩
  extract_lets posix
  have posix_le : ∀ stop, posix = some stop → stop + 2 ≤ s.size := by
    intro stop found
    unfold posix at found
    split_ifs at found
    exact posixEnd?_le found
  clear_value posix
  split
  · exact go (within_addPosix formed others top _ (posix_le _ rfl))
  split
  · exact within_nest formed others top _ next_le
  split
  · exact within_closeClass formed others _ next_le
  split
  · exact go (within_addEscape formed inside.levels others top next_le)
  split
  · split
    · exact within_fault formed next_le
    · exact .ok ⟨next_le, levels_cons top others⟩
  split
  · split
    · exact go (within_addOperator formed others _ _ next_le)
    split
    · rename_i doubled
      rw [Bool.and_eq_true] at doubled
      exact go (within_addDoubled formed others _ doubled.2)
    · exact go (within_addPlain formed others top _ next_le)
  · exact go (within_addPlain formed others top _ next_le)

theorem within_run (fuel : Nat) (inside : b.Inside s) :
    Within s.length (run s ctx fuel b) fun found => found.2 ≤ s.size := by
  induction fuel generalizing b with
  | zero => exact within_fault formed inside.place
  | succ fuel ih =>
      unfold run
      refine .bind (within_step formed inside) fun next ends => ?_
      split
      · exact ih ends
      · exact .ok ends

end Brackets

/-- **A class ends in the text**, and so does whatever is at fault in it. -/
theorem Source.within_readClass {s : Source} (formed : s.Formed) (ctx : ClassContext)
    (mode : ClassMode) {i : Nat} (inside : i ≤ s.size) :
    Within s.length (s.readClass ctx mode i) fun found => found.2 ≤ s.size := by
  unfold readClass
  refine .bind (Brackets.within_openClass formed (by simp) _ _ inside) fun next ends => ?_
  split
  · exact Brackets.within_run formed _ ends
  · exact .ok ends

end Regex.Syntax
