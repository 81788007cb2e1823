import Regex.Proofs.Faults.Items
import Regex.Proofs.Faults.Source
import Regex.Syntax.Lookbehind

/-!
# Faults of lookbehinds

A fault that is found when lookbehinds are measured is reported at an offset that some item keeps.

* `GroupTable.Within`: the groups that can be called keep offsets in the text.
* `Lookbehinds.Measuring.Within`: a fault found in measuring stands in the text.
* `Lookbehinds.within_measure`: it does, for whatever is measured.
* `Lookbehinds.within_of`: the same for all lookbehinds of a pattern.
-/

namespace Regex.Syntax

variable {n : Nat}

/-! ## Groups -/

namespace GroupTable

/-- The groups of a table keep offsets in a text of `n` bytes. -/
def Within (n : Nat) (table : GroupTable) : Prop :=
  ∀ (i : Nat) (g : GroupText), table[i]? = some (some g) → BranchesWithin n g.branches

variable {table : GroupTable}

theorem within_enter (within : table.Within n) (number : Nat) {text : GroupText}
    (branches : BranchesWithin n text.branches) : (table.enter number text).Within n := by
  intro i g found
  rw [enter, Array.getElem?_modify] at found
  split_ifs at found
  · obtain ⟨known, old, eq⟩ := Option.map_eq_some_iff.mp found
    split at eq
    · cases eq
      exact branches
    · exact within i g (eq ▸ old)
  · exact within i g found

mutual

theorem within_ofExpr : ∀ (e : Expr) (table : GroupTable), table.Within n → e.Within n →
    (ofExpr table e).Within n
  | .group kind start stop offset branches, table, within, inside => by
      unfold ofExpr
      refine within_ofBranches branches _ ?_ inside.2.2
      cases kind with
      | capture number => exact within_enter within number inside.2.2
      | _ => exact within
  | .repeated e _ _ _, table, within, inside => by
      unfold ofExpr
      exact within_ofExpr e table within inside
  | .literal _ _, _, within, _ | .test _, _, within, _ | .charClass _ _, _, within, _
  | .emptyClass _, _, within, _ | .point _, _, within, _ | .keep, _, within, _
  | .backref _ _ _ _, _, within, _ | .call _ _ _, _, within, _ | .verb _ _, _, within, _
  | .accept, _, within, _ | .fail, _, within, _ | .callout _, _, within, _ => within

theorem within_ofItems : ∀ (items : List Expr) (table : GroupTable), table.Within n →
    ItemsWithin n items → (ofItems table items).Within n
  | [], _, within, _ => within
  | e :: rest, table, within, inside =>
      within_ofItems rest _ (within_ofExpr e table within inside.1) inside.2

theorem within_ofBranches : ∀ (branches : List (List Expr)) (table : GroupTable),
    table.Within n → BranchesWithin n branches → (ofBranches table branches).Within n
  | [], _, within, _ => within
  | items :: rest, table, within, inside =>
      within_ofBranches rest _ (within_ofItems items table within inside.1) inside.2

end

/-- The groups of a pattern keep offsets in its text. -/
theorem within_of {p : Pattern} (inside : BranchesWithin n p.branches) : (of p).Within n := by
  refine within_ofBranches _ _ (fun i g found => ?_) inside
  rw [Array.getElem?_replicate] at found
  split_ifs at found
  cases found

end GroupTable

namespace Lookbehinds

/-! ## Measuring -/

namespace Measuring

/-- A fault found in measuring stands in a text of `n` bytes. -/
def Within (n : Nat) {α : Type} (m : Measuring α) : Prop :=
  ∀ b cause offset, m b = .error (cause, offset) → ∀ k ∈ offset.join, k ≤ n

namespace Within

variable {α β : Type} {m : Measuring α}

theorem pure (a : α) : Within n (pure a : Measuring α) := by
  intro b cause offset eq
  cases eq

theorem throw_at {cause : PatternFault.Cause} {offset : Option Nat} (inside : ∀ k ∈ offset, k ≤ n) :
    Within n (throw (cause, some offset) : Measuring α) := by
  intro b cause offset eq
  cases eq
  exact inside

/-- A fault of the lookbehind around it has no offset of its own. -/
theorem throw (cause : PatternFault.Cause) : Within n (throw (cause, none) : Measuring α) := by
  intro b cause offset eq
  cases eq
  exact nofun

theorem get : Within n (get : Measuring Lookbehinds) := by
  intro b cause offset eq
  cases eq

theorem set (b : Lookbehinds) : Within n (set b : Measuring PUnit) := by
  intro b cause offset eq
  cases eq

theorem modify (f : Lookbehinds → Lookbehinds) : Within n (modify f : Measuring PUnit) := by
  intro b cause offset eq
  cases eq

theorem bind {f : α → Measuring β} (first : Within n m) (next : ∀ a, Within n (f a)) :
    Within n (m >>= f) := by
  intro b cause offset eq
  change (m b >>= fun r => f r.1 r.2) = .error (cause, offset) at eq
  cases result : m b with
  | error fault =>
      rw [result] at eq
      cases eq
      exact first b cause offset result
  | ok r =>
      rw [result] at eq
      exact next r.1 r.2 cause offset eq

theorem map (f : α → β) (within : Within n m) : Within n (f <$> m) :=
  bind within fun a => pure (f a)

theorem mapM {f : α → Measuring β} {list : List α} (each : ∀ a ∈ list, Within n (f a)) :
    Within n (list.mapM f) := by
  induction list with
  | nil => exact pure []
  | cons a rest ih =>
      rw [List.mapM_cons]
      refine bind (each a List.mem_cons_self) fun _ => ?_
      exact bind (ih fun a mem => each a (List.mem_cons_of_mem _ mem)) fun _ => pure _

theorem forIn {f : α → β → Measuring (ForInStep β)} {list : List α}
    (each : ∀ a ∈ list, ∀ s, Within n (f a s)) (s : β) : Within n (forIn list s f) := by
  induction list generalizing s with
  | nil => exact pure s
  | cons a rest ih =>
      rw [List.forIn_cons]
      refine bind (each a List.mem_cons_self s) fun step => ?_
      cases step with
      | done s => exact pure s
      | yield s => exact ih (fun a mem => each a (List.mem_cons_of_mem _ mem)) s

end Within

end Measuring

open Measuring

/-- What is to be measured keeps offsets in a text of `n` bytes. -/
def Task.Within (n : Nat) : Task → Prop
  | .branch items => ItemsWithin n items
  | .search branches => BranchesWithin n branches

theorem within_unlimited {α : Type} : Measuring.Within n (unlimited : Measuring α) :=
  .throw _

/-- Nothing is measured where there is no greatest width. -/
theorem within_limited {α : Type} (c : Bool) {next : Unit → Measuring α}
    (within : Measuring.Within n (next ())) :
    Measuring.Within n (if c = true then unlimited >>= next else next ()) := by
  cases c with
  | true => exact .bind within_unlimited fun _ => within
  | false => exact within

theorem within_add (a b : Width) : Measuring.Within n (add a b) := by
  unfold add
  dsimp only
  split_ifs
  · exact .throw _
  · exact .pure _

theorem within_addRepeats (all w : Width) (min max : Nat) :
    Measuring.Within n (addRepeats all w min max) := by
  unfold addRepeats
  extract_lets least greatest
  split_ifs
  · exact .throw _
  · exact .pure _

section Measure

variable {measure : Task → Measuring Width} {ctx : Context} {branches : List (List Expr)}
  (measured : ∀ task, task.Within n → Measuring.Within n (measure task))

include measured

theorem within_branchWidths (inside : BranchesWithin n branches) :
    Measuring.Within n (branchWidths measure branches) := by
  rw [branchesWithin_iff] at inside
  exact .mapM fun items mem => measured _ (inside items mem)

theorem within_groupWidth (number : Option Nat) (inside : BranchesWithin n branches) :
    Measuring.Within n (groupWidth ctx measure number branches) := by
  unfold groupWidth
  refine .bind .get fun b => ?_
  split
  · exact .pure _
  · refine .bind (within_branchWidths measured inside) fun widths => ?_
    split
    · exact .bind (.modify _) fun _ => .pure _
    · exact .pure _

/-- A fault without an offset gets that of the lookbehind. -/
theorem within_enterBehind (start : Nat) {offset : Option Nat} (offset_le : ∀ k ∈ offset, k ≤ n)
    (inside : BranchesWithin n branches) :
    Measuring.Within n (enterBehind measure start offset branches) := by
  unfold enterBehind
  refine .bind ?widths fun widths => ?reach
  case widths =>
    intro b cause offset eq
    dsimp only at eq
    split at eq
    · cases eq
      exact offset_le
    · exact within_branchWidths measured inside b cause offset eq
  case reach =>
    extract_lets w fixed
    split_ifs
    · exact .throw_at offset_le
    · exact .modify _

theorem within_searchItem : ∀ e : Expr, e.Within n → Measuring.Within n (searchItem measure e)
  | .group kind start stop offset branches, inside => by
      unfold searchItem
      split
      · exact within_enterBehind measured start inside.2.1 inside.2.2
      · exact .map _ (measured _ inside.2.2)
  | .repeated e _ _ _, inside => by
      unfold searchItem
      exact within_searchItem e inside
  | .literal _ _, _ | .test _, _ | .charClass _ _, _ | .emptyClass _, _ | .point _, _ | .keep, _
  | .backref _ _ _ _, _ | .call _ _ _, _ | .verb _ _, _ | .accept, _ | .fail, _
  | .callout _, _ => .pure ()

end Measure

section Inside

variable {measure : List Nat → Task → Measuring Width} {ctx : Context} (inside : List Nat)
  (groups : ctx.groups.Within n)
  (measured : ∀ inside task, task.Within n → Measuring.Within n (measure inside task))

include groups measured

theorem within_referenceWidth (number place : Nat) {offset : Nat} (offset_le : offset ≤ n) :
    Measuring.Within n (referenceWidth ctx measure inside number place offset) := by
  unfold referenceWidth
  split_ifs
  · exact .throw_at (le_of_mem_some offset_le)
  split
  · exact within_unlimited
  · rename_i g found
    split_ifs
    · exact within_unlimited
    · exact within_groupWidth (measured _) _ (groups number g (Option.join_eq_some_iff.mp found))

theorem within_itemWidth : ∀ e : Expr, e.Within n →
    Measuring.Within n (itemWidth ctx measure inside e)
  | .literal _ _, _ | .charClass _ _, _ | .emptyClass true, _ | .point _, _ | .keep, _
  | .verb _ _, _ | .callout _, _ | .accept, _ | .fail, _ => .pure _
  | .emptyClass false, _ | .repeated _ _ _ _, _ => within_unlimited
  | .test t, _ => by
      dsimp only [itemWidth]
      split
      · exact within_unlimited
      · exact .pure _
      · exact .throw _
      · exact .pure _
  | .backref group casing place offset, offset_le => by
      have reference (number : Nat) := Measuring.Within.map some
        (within_referenceWidth inside groups measured number place offset_le)
      dsimp -zeta only [itemWidth]
      extract_lets refer
      have refer : Measuring.Within n (refer ()) := by
        unfold refer
        split
        · exact within_limited _ (reference _)
        · split
          · exact .throw_at (le_of_mem_some offset_le)
          · exact within_limited _ (reference _)
      exact within_limited _ refer
  | .call group place offset, offset_le => by
      have reference (number : Nat) := Measuring.Within.map some
        (within_referenceWidth inside groups measured number place offset_le)
      dsimp only [itemWidth]
      split
      · exact within_unlimited
      · exact reference _
      · split
        · exact .throw_at (le_of_mem_some offset_le)
        · exact reference _
  | .group kind start stop offset branches, within => by
      dsimp only [itemWidth]
      split
      · exact .bind (.map _ (measured _ _ within.2.2)) fun _ => .pure _
      · exact .bind (.map _ (measured _ _ within.2.2)) fun _ => .pure _
      · exact .bind (within_enterBehind (measured _) start within.2.1 within.2.2) fun _ => .pure _
      · exact .pure _
      · exact .map _ (within_groupWidth (measured _) _ within.2.2)
      · exact .map _ (within_groupWidth (measured _) _ within.2.2)

theorem within_itemsWidth {items : List Expr} (all : Width) (within : ItemsWithin n items) :
    Measuring.Within n (itemsWidth ctx measure inside all items) := by
  induction items generalizing all with
  | nil => exact .pure all
  | cons e rest ih =>
      have more (all : Width) := ih all within.2
      unfold itemsWidth
      split
      · exact .pure all
      · rename_i eq
        cases eq
        refine .bind (within_itemWidth inside groups measured _ within.1) fun width => ?_
        split
        · exact .pure all
        · refine .bind (within_add all _) fun all => ?_
          dsimp only
          split_ifs
          · exact more all
          · split
            · exact .bind (within_addRepeats all _ _ _) fun all => more all
            · exact .bind within_unlimited fun all => more all
      · rename_i eq
        cases eq
        refine .bind (within_itemWidth inside groups measured _ within.1) fun width => ?_
        split
        · exact .pure all
        · exact .bind (within_add all _) fun all => more all

end Inside

/-- **A fault found in measuring stands in the text.** -/
theorem within_measure (ctx : Context) (groups : ctx.groups.Within n) (depth : Nat)
    (inside : List Nat) (task : Task) (within : task.Within n) :
    Measuring.Within n (measure ctx depth inside task) := by
  induction depth generalizing inside task with
  | zero => exact .throw _
  | succ depth ih =>
      unfold measure
      split
      · refine .bind .get fun b => ?_
        have rest := within_itemsWidth inside groups ih ⟨0, 0⟩ within
        split_ifs
        · exact .bind (.throw _) fun _ => .bind (.set _) fun _ => rest
        · exact .bind (.set _) fun _ => rest
      · rename_i branches
        rw [Task.Within, branchesWithin_iff] at within
        refine .bind (.forIn (fun items mem _ => ?_) _) fun _ => .pure _
        have items_within := itemsWithin_iff.mp (within items mem)
        refine .bind (.forIn (fun e mem _ => ?_) _) fun _ => .pure _
        exact .bind (within_searchItem (ih inside) e (items_within e mem)) fun _ => .pure _

/-- **A fault of a lookbehind stands in the text.** -/
theorem within_of {p : Pattern} {s : GroupTable} (groups : s.Within n)
    (inside : BranchesWithin n p.branches) (unsetMatches : Bool) :
    Reading.Within n (of p s unsetMatches) fun _ => True := by
  unfold of
  extract_lets ctx depth
  split
  · exact .ok trivial
  · rename_i eq
    exact .error (within_measure ctx groups depth [] (.search p.branches) inside _ _ _ eq)

end Lookbehinds

end Regex.Syntax
