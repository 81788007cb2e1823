import Regex.Code.Assembly
import Regex.Proofs.Faults.Items
import Regex.Proofs.Faults.Source

/-!
# Faults in assembling

A reference that cannot be resolved is a fault at an offset that its item keeps.  From a reference
on, faults of the conditional groups around are reported at its offset, and the first of those is
kept until the end.

* `Blueprint.within_guard`, `within_kindOf`: faults of conditions and of the groups of a list.
* `Assembling.Within`: a fault found in a part of assembling stands in the text, and so does the one
  that is kept.
* `Assembling.within_item`, `Assembling.within_bodyOf`: it does in items and in groups.
* `within_assemble`: the same for a whole pattern.
-/

namespace Regex.Code

open Chars Syntax

variable {n : Nat} {b : Blueprint}

/-! ## References -/

namespace Blueprint

theorem within_resolve (group : GroupRef) {offset : Option Nat} (inside : ∀ k ∈ offset, k ≤ n) :
    Reading.Within n (b.resolve group offset) fun _ => True := by
  unfold resolve
  split
  · split_ifs
    · exact .error inside
    · exact .ok trivial
  · split
    · exact .error inside
    · exact .ok trivial

/-- Digits of a number are reported where they stand. -/
theorem within_recursionNumber {offset : Option Nat} (text : List Char) {i : Nat} (number : Nat)
    (inside : ∀ k ∈ offset, k + i + text.length ≤ n) :
    Reading.Within n (recursionNumber offset i number text) fun _ => True := by
  induction text generalizing i number with
  | nil => exact .ok trivial
  | cons c rest ih =>
      unfold recursionNumber
      dsimp only
      split_ifs
      · refine .error fun k mem => ?_
        obtain ⟨k, kept, rfl⟩ := Option.map_eq_some_iff.mp mem
        exact Nat.le_of_add_right_le (inside k kept)
      · refine ih _ fun k mem => ?_
        have := inside k mem
        rw [List.length_cons] at this
        omega

theorem within_guard (condition : Condition) {offset : Option Nat} (inside : ∀ k ∈ offset, k ≤ n)
    (within : (GroupKind.conditional condition).Within n offset) :
    Reading.Within n (b.guard condition offset) fun _ => True := by
  unfold guard
  extract_lets room
  split
  · exact .ok trivial
  · exact .ok trivial
  · exact .ok trivial
  · exact .bind (within_resolve _ inside) fun _ _ => .ok trivial
  · exact .bind (within_resolve _ inside) fun _ _ => .ok trivial
  · rename_i text
    split
    · have number : Reading.Within n (recursionNumber offset 1 0 text.tail) fun _ => True := by
        cases text with
        | nil => exact .ok trivial
        | cons c rest =>
            refine within_recursionNumber rest 0 fun k mem => ?_
            have : k + (rest.length + 1) ≤ n := within k mem
            change k + 1 + rest.length ≤ n
            omega
      refine .bind number fun number _ => ?_
      dsimp only
      split
      · exact .error inside
      · exact .ok trivial
    · exact .ok trivial

/-- A condition does not move faults out of the text. -/
theorem guardOffset_le (condition : Condition) {offset before : Option Nat}
    (inside : ∀ k ∈ offset, k ≤ n) (before_le : ∀ k ∈ before, k ≤ n) :
    ∀ k ∈ guardOffset condition offset before, k ≤ n := by
  unfold guardOffset
  split
  · exact before_le
  · exact before_le
  · intro k mem
    obtain ⟨k, kept, rfl⟩ := Option.map_eq_some_iff.mp mem
    exact (Nat.sub_le k 2).trans (inside k kept)
  · exact inside

end Blueprint

/-- The last of the groups of a list is where faults are reported from there on. -/
theorem within_kindOf {kind : GroupKind} {offset : Option Nat} (within : kind.Within n offset) :
    Reading.Within n (kindOf b kind) fun found => found.2.2 ≤ n := by
  unfold kindOf
  split
  all_goals try exact .ok (Nat.zero_le n)
  rename_i groups
  have within : ∀ g ∈ groups, g.2 ≤ n := within
  have last_le : (groups.getLast?.map (·.2)).getD 0 ≤ n := by
    cases last : groups.getLast? with
    | none => exact Nat.zero_le n
    | some g => exact within g (List.mem_of_getLast? last)
  exact .bind (.mapM fun g mem => Blueprint.within_resolve _ (le_of_mem_some (within g mem)))
    fun _ _ => .ok last_le

/-! ## Parts -/

/-- The fault that is kept stands in a text of `n` bytes. -/
def Assembly.Within (n : Nat) (a : Assembly) : Prop := ∀ fault ∈ a.late, fault.Within n

/-- Faults from a branch in progress on are reported in a text of `n` bytes. -/
def Draft.Within (n : Nat) (d : Draft) : Prop := ∀ k ∈ d.offset, k ≤ n

/-- Faults from a piece on are reported in a text of `n` bytes. -/
def Piece.Within (n : Nat) (p : Piece) : Prop := ∀ k ∈ p.offset, k ≤ n

namespace Assembling

/-- A fault found in a part of assembling stands in a text of `n` bytes, as does the one that is
kept, and what is assembled has a property. -/
def Within (n : Nat) {α : Type} (m : Assembling α) (Q : α → Prop) : Prop :=
  ∀ a, a.Within n → Reading.Within n (m a) fun r => Q r.1 ∧ r.2.Within n

namespace Within

variable {α β : Type} {m : Assembling α} {Q Q' : α → Prop} {R : β → Prop}

theorem pure {v : α} (holds : Q v) : Within n (pure v) Q :=
  fun _ within => .ok ⟨holds, within⟩

theorem bind {f : α → Assembling β} (first : Within n m Q)
    (next : ∀ v, Q v → Within n (f v) R) : Within n (m >>= f) R :=
  fun a within => .bind (first a within) fun r holds => next r.1 holds.1 r.2 holds.2

theorem mono (first : Within n m Q) (weaker : ∀ v, Q v → Q' v) : Within n m Q' :=
  fun a within => (first a within).mono fun r holds => ⟨weaker r.1 holds.1, holds.2⟩

theorem throw {fault : PatternFault} (inside : fault.Within n) :
    Within n (throw fault : Assembling α) Q :=
  fun _ _ => .error inside

theorem get : Within n get fun _ => True :=
  fun _ within => .ok ⟨trivial, within⟩

/-- The fault that is kept is left alone. -/
theorem modify {f : Assembly → Assembly} (same : ∀ a, (f a).late = a.late) :
    Within n (modify f) fun _ => True := by
  refine fun a within => .ok ⟨trivial, ?_⟩
  change ∀ fault ∈ (f a).late, fault.Within n
  rw [same]
  exact within

theorem lift {x : Reading α} (read : Reading.Within n x Q) : Within n (liftM x) Q :=
  fun _ within => .bind read fun _ holds => .ok ⟨holds, within⟩

end Within

theorem within_freshId : Within n freshId fun _ => True :=
  fun _ within => .ok ⟨trivial, within⟩

theorem within_reportLate {fault : PatternFault} (inside : fault.Within n) :
    Within n (reportLate fault) fun _ => True := by
  refine fun a within => .ok ⟨trivial, fun kept mem => ?_⟩
  change kept ∈ a.late.or (some fault) at mem
  cases late : a.late with
  | none =>
      rw [late] at mem
      obtain rfl := Option.some.inj mem
      exact inside
  | some first =>
      rw [late] at mem
      exact within kept (late.trans mem)

/-! ## Items -/

section Items

variable {s : Surroundings} {d : Draft} (inside : d.Within n)

include inside

theorem within_literal (l : Literal) : Within n (literal b d l) (·.Within n) := by
  unfold literal
  dsimp only
  split_ifs
  · exact .pure inside
  · exact .bind (.modify fun _ => rfl) fun _ _ => .bind .get fun _ _ => .pure inside
  · exact .bind .get fun _ _ => .pure inside

theorem within_charClass (tree : ClassTree) (casing : Casing) :
    Within n (charClass b d tree casing) (·.Within n) := by
  unfold charClass
  split
  · exact within_literal inside _
  · dsimp only
    split_ifs
    · exact .bind (.modify fun _ => rfl) fun _ _ => .pure inside
    · exact .pure inside

theorem within_point (p : Point) : Within n (point d p) (·.Within n) := by
  unfold point
  dsimp only
  split
  · split_ifs <;> exact .pure inside
  · exact .pure inside
  · exact .bind (.modify fun _ => rfl) fun _ _ => .pure inside
  · exact .bind (.modify fun _ => rfl) fun _ _ => .pure inside
  · exact .pure inside

theorem within_verb (v : Verb) (name : List Char) : Within n (verb s d v name) (·.Within n) := by
  unfold verb
  dsimp only
  split
  all_goals exact .bind (.modify fun _ => rfl) fun _ _ => .pure inside

omit inside in
theorem within_backref (d : Draft) (group : GroupRef) (casing : Casing) {offset : Nat}
    (offset_le : offset ≤ n) : Within n (backref b d group casing offset) (·.Within n) := by
  have offset_le := le_of_mem_some offset_le
  unfold backref
  exact .bind (.lift (b.within_resolve group offset_le)) fun _ _ =>
    .bind (.modify fun _ => rfl) fun _ _ => .pure offset_le

omit inside in
theorem within_call (d : Draft) (group : GroupRef) {offset : Nat} (offset_le : offset ≤ n) :
    Within n (call b d group offset) (·.Within n) := by
  have offset_le := le_of_mem_some offset_le
  unfold call
  exact .bind (.lift (b.within_resolve group offset_le)) fun _ _ =>
    .bind (.modify fun _ => rfl) fun _ _ => .pure offset_le

omit inside in
/-- Too many branches are reported where faults of the group are. -/
theorem within_conditional (d : Draft) (condition : Condition) (guard : Guard)
    {offset : Option Nat} (offset_le : ∀ k ∈ offset, k ≤ n) (g : Group) (vary : Bool) :
    Within n (conditional d condition guard offset g vary) (·.Within n) := by
  unfold conditional
  refine .bind within_freshId fun id _ => ?_
  extract_lets count first second node piece
  have late : ∀ cause, Within n (reportLate ⟨cause, offset⟩) fun _ => True :=
    fun _ => within_reportLate offset_le
  split_ifs
  all_goals first
    | exact .bind (late _) fun _ _ => .pure offset_le
    | exact .pure offset_le

omit inside in
theorem within_group (d : Draft) (kind : Kind) (id : Nat) {offset : Option Nat}
    (offset_le : ∀ k ∈ offset, k ≤ n) (g : Group) (vary : Bool) :
    (group d kind id offset g vary).Within n := by
  unfold group
  dsimp only
  split
  all_goals exact offset_le

omit inside in
theorem within_repeated {p : Piece} (within : p.Within n) (min : Nat) (max : Option Nat)
    (greed : Greed) : Within n (repeated p min max greed) (·.Within n) := by
  unfold repeated
  refine .bind .get fun _ _ => ?_
  extract_lets vary keys piece other jp
  have rest : Within n (jp ()) (·.Within n) := by
    unfold jp
    split
    · split_ifs <;> exact .pure within
    · split_ifs <;> exact .pure within
    · exact .pure within
    · exact .pure within
    · exact .pure within
    · exact .pure within
  split_ifs
  · exact .bind (.modify fun _ => rfl) fun _ _ => rest
  · exact rest

omit inside in
/-- A piece is what a branch goes on from. -/
theorem within_add {p : Piece} (within : p.Within n) (accepts : Bool) :
    (d.add p accepts).Within n :=
  within

end Items

mutual

/-- **A fault found in assembling an item stands in the text.** -/
theorem within_item (length_le : b.length ≤ n) : ∀ (e : Expr) (s : Surroundings) (d : Draft)
    (quantified : Bool), e.Within n → d.Within n → Within n (item b s d quantified e) (·.Within n)
  | .literal c casing, s, d, quantified, _, inside => by
      unfold item
      exact within_literal inside _
  | .test t, s, d, quantified, _, inside => by
      unfold item
      extract_lets test width rest
      have rest : Within n (rest ()) (·.Within n) := .pure inside
      clear_value test
      split
      · exact .bind (.modify fun _ => rfl) fun _ _ => rest
      · exact rest
  | .charClass tree casing, s, d, quantified, _, inside => by
      unfold item
      exact within_charClass inside _ _
  | .emptyClass negated, s, d, quantified, _, inside => by
      unfold item
      split_ifs
      · exact .pure inside
      · exact .pure inside
  | .point p, s, d, quantified, _, inside => by
      unfold item
      exact within_point inside p
  | .keep, s, d, quantified, _, inside => by
      unfold item
      split_ifs
      · exact .throw (le_of_mem_some length_le)
      · exact .pure inside
  | .backref group casing place offset, s, d, quantified, offset_le, _ => by
      unfold item
      exact within_backref d group casing offset_le
  | .call group place offset, s, d, quantified, offset_le, _ => by
      unfold item
      exact within_call d group offset_le
  | .verb v name, s, d, quantified, _, inside => by
      unfold item
      exact within_verb inside v name
  | .accept, s, d, quantified, _, inside => by
      unfold item
      exact .bind (.modify fun _ => rfl) fun _ _ => .pure inside
  | .fail, s, d, quantified, _, inside => by
      unfold item
      exact .pure inside
  | .callout width, s, d, quantified, _, inside => by
      unfold item
      exact .pure inside
  | .group kind start stop offset branches, s, d, quantified, within, inside => by
      obtain ⟨extra, offset_le, within⟩ := within
      unfold item
      refine .bind .get fun _ _ => ?_
      split
      · rename_i condition
        refine .bind (.lift (b.within_guard condition offset_le extra)) fun _ _ => ?_
        refine .bind (within_bodyOf length_le branches _ _ _ within) fun g _ => ?_
        exact within_conditional d condition _
          (Blueprint.guardOffset_le condition offset_le inside) g _
      · extract_lets vary emptyAhead
        split
        · exact .pure inside
        · refine .bind (.lift (within_kindOf extra)) fun ⟨code, room, last⟩ last_le => ?_
          refine .bind within_freshId fun id _ => ?_
          refine .bind (within_bodyOf length_le branches _ _ _ within) fun g _ => ?_
          refine .pure (within_group d code id ?_ g _)
          dsimp only at last_le ⊢
          split_ifs
          · exact inside
          · exact le_of_mem_some last_le
  | .repeated e min max greed, s, d, quantified, within, inside => by
      unfold item
      exact .bind (within_item length_le e s d true within inside) fun p within =>
        within_repeated within min max greed

/-- So does one that is found in a branch. -/
theorem within_itemsOf (length_le : b.length ≤ n) : ∀ (items : List Expr) (s : Surroundings)
    (before : Nat) (d : Draft), ItemsWithin n items → d.Within n →
      Within n (itemsOf b s before d items) fun _ => True
  | [], s, before, d, _, _ => by
      unfold itemsOf
      exact .pure trivial
  | e :: rest, s, before, d, within, inside => by
      unfold itemsOf
      refine .bind (within_item length_le e s d false within.1 inside) fun p piece => ?_
      extract_lets accepts added
      have more := within_itemsOf length_le rest s before added within.2 (within_add piece _)
      split_ifs
      · exact .bind (Q := fun _ => True) (.throw (le_of_mem_some length_le)) fun _ _ => more
      · exact more

/-- So does one that is found in the branches of a group. -/
theorem within_bodyOf (length_le : b.length ≤ n) : ∀ (branches : List (List Expr))
    (s : Surroundings) (backs : List (List Node × List Node × Nat)) (g : Group),
      BranchesWithin n branches → Within n (bodyOf b s backs branches g) fun _ => True
  | [], s, backs, g, _ => by
      unfold bodyOf
      exact .pure trivial
  | items :: rest, s, backs, g, within => by
      unfold bodyOf
      extract_lets isFirst
      refine .bind (within_itemsOf length_le items s _ .empty within.1 nofun) fun d _ => ?_
      exact within_bodyOf length_le rest s backs.tail _ within.2

end

end Assembling

/-- **A fault found in assembling a pattern stands in its text.** -/
theorem within_assemble (length_le : b.length ≤ n) (within : BranchesWithin n b.pattern.branches)
    (farthest : Nat) : Reading.Within n (assemble b farthest) fun _ => True := by
  unfold assemble
  extract_lets start scope empty
  have body := Assembling.within_bodyOf length_le b.pattern.branches ⟨false, scope⟩ [] empty within
  refine .bind (body start nofun) fun ⟨g, a⟩ holds => ?_
  dsimp only at holds ⊢
  split_ifs
  · exact .error (le_of_mem_some length_le)
  · split
    · rename_i fault late
      exact .error (holds.2 fault late)
    · exact .ok trivial

end Regex.Code
