import Mathlib.Tactic.Common
import Regex.Syntax.Expr

/-!
# Offsets of items

Some items keep the offset at which they are reported if they turn out to be at fault later on.

* `Expr.Within`: all offsets in an item stand in a text of some length.
* `ItemsWithin`, `BranchesWithin`: the same for a branch and for the branches of a group.
-/

namespace Regex.Syntax

/-- What the kind of a group adds to the offset of the group. -/
def GroupKind.Within (n : Nat) (offset : Option Nat) : GroupKind → Prop
  | .conditional (.setOrInCall text) => ∀ k ∈ offset, k + text.length ≤ n
  | .scan groups => ∀ g ∈ groups, g.2 ≤ n
  | _ => True

mutual

/-- All offsets in an item stand in a text of `n` bytes. -/
def Expr.Within (n : Nat) : Expr → Prop
  | .backref _ _ _ offset => offset ≤ n
  | .call _ _ offset => offset ≤ n
  | .group kind _ _ offset branches =>
    kind.Within n offset ∧ (∀ k ∈ offset, k ≤ n) ∧ BranchesWithin n branches
  | .repeated item _ _ _ => item.Within n
  | _ => True

/-- All offsets in a branch stand in a text of `n` bytes. -/
def ItemsWithin (n : Nat) : List Expr → Prop
  | [] => True
  | item :: rest => item.Within n ∧ ItemsWithin n rest

/-- All offsets in some branches stand in a text of `n` bytes. -/
def BranchesWithin (n : Nat) : List (List Expr) → Prop
  | [] => True
  | items :: rest => ItemsWithin n items ∧ BranchesWithin n rest

end

variable {n : Nat}

theorem itemsWithin_iff {items : List Expr} : ItemsWithin n items ↔ ∀ e ∈ items, e.Within n := by
  induction items with
  | nil => simp [ItemsWithin]
  | cons e rest ih => simp [ItemsWithin, ih]

theorem branchesWithin_iff {branches : List (List Expr)} :
    BranchesWithin n branches ↔ ∀ b ∈ branches, ItemsWithin n b := by
  induction branches with
  | nil => simp [BranchesWithin]
  | cons b rest ih => simp [BranchesWithin, ih]

end Regex.Syntax
