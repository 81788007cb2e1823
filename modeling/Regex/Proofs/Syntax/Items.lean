import Mathlib.Tactic.Common
import Regex.Syntax.Expr

/-!
# The items of a pattern

A pattern is a tree of groups and repetitions over simple items.

* `Expr.All`: a property of all simple items in an item; `ItemsAll` and `BranchesAll` are the same
  for a branch and for the branches of a group.
-/

namespace Regex.Syntax

mutual

/-- Every simple item in an item has a property. -/
def Expr.All (P : Expr → Prop) : Expr → Prop
  | .group _ _ _ _ branches => BranchesAll P branches
  | .repeated item _ _ _ => item.All P
  | item => P item

/-- Every simple item of a branch has a property. -/
def ItemsAll (P : Expr → Prop) : List Expr → Prop
  | [] => True
  | item :: rest => item.All P ∧ ItemsAll P rest

/-- Every simple item of some branches has a property. -/
def BranchesAll (P : Expr → Prop) : List (List Expr) → Prop
  | [] => True
  | items :: rest => ItemsAll P items ∧ BranchesAll P rest

end

variable {P : Expr → Prop}

theorem itemsAll_iff {items : List Expr} : ItemsAll P items ↔ ∀ e ∈ items, e.All P := by
  induction items with
  | nil => simp [ItemsAll]
  | cons e rest ih => simp [ItemsAll, ih]

theorem branchesAll_iff {branches : List (List Expr)} :
    BranchesAll P branches ↔ ∀ b ∈ branches, ItemsAll P b := by
  induction branches with
  | nil => simp [BranchesAll]
  | cons b rest ih => simp [BranchesAll, ih]

mutual

/-- What holds of every item holds of all simple items in one. -/
theorem Expr.all_of_forall (all : ∀ e, P e) : ∀ e : Expr, e.All P
  | .group _ _ _ _ branches => branchesAll_of_forall all branches
  | .repeated item _ _ _ => by
      rw [Expr.All]
      exact Expr.all_of_forall all item
  | .literal _ _ | .test _ | .charClass _ _ | .emptyClass _ | .point _ | .keep | .backref _ _ _ _
  | .call _ _ _ | .verb _ _ | .accept | .fail | .callout _ => all _

theorem itemsAll_of_forall (all : ∀ e, P e) : ∀ items : List Expr, ItemsAll P items
  | [] => trivial
  | e :: rest => ⟨e.all_of_forall all, itemsAll_of_forall all rest⟩

theorem branchesAll_of_forall (all : ∀ e, P e) :
    ∀ branches : List (List Expr), BranchesAll P branches
  | [] => trivial
  | items :: rest => ⟨itemsAll_of_forall all items, branchesAll_of_forall all rest⟩

end

end Regex.Syntax
