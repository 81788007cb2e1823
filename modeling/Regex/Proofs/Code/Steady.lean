import Regex.Proofs.Code.Placement

/-!
# Where code moves the start of a match

An assertion is left at the place where it was entered, but what it has set stays set.  If it moves
the start of the match forward, then the match can end before its own start.  Code that moves the
start is refused inside an assertion; a call, however, leads from an assertion to code outside it.

* `Scope`: what becomes of the start of a match if it is moved at some depth of nesting.
* `Node.Steady`: code that does not move the start where matching goes back afterwards.
* `GroupCodes.Steady`: a table of such code, calls included.
* `GroupCodes.Follows.steady`: a table is steady if no start is moved in assertions, and if either
  nothing is called or no start is moved at all.
-/

namespace Regex.Code

open Syntax

/-- What becomes of the start of a match when it is moved. -/
inductive Scope where
  /-- Matching goes on from the new start. -/
  | forward
  /-- Matching goes back, and the new start stays. -/
  | look
  /-- The new start is given up. -/
  | moot
  deriving DecidableEq

/-- What becomes of it inside a group of some kind. -/
def Scope.within (scope : Scope) (kind : Kind) : Scope :=
  match scope, kind with
  | .moot, _ => .moot
  | _, .ahead true _ | _, .behind true _ => .moot
  | _, .ahead false _ | _, .behind false _ | _, .scan _ => .look
  | scope, _ => scope

@[simp]
theorem Scope.within_plain (scope : Scope) : scope.within .plain = scope := by
  cases scope <;> rfl

/-- Inside an assertion the start stays, unless the assertion is negative. -/
theorem Scope.within_look (kind : Kind) :
    Scope.look.within kind = .look ∨ ∀ scope : Scope, scope.within kind = .moot := by
  cases kind with
  | ahead negated atomic =>
      cases negated with
      | false => exact Or.inl rfl
      | true => exact Or.inr fun scope => by cases scope <;> rfl
  | behind negated atomic =>
      cases negated with
      | false => exact Or.inl rfl
      | true => exact Or.inr fun scope => by cases scope <;> rfl
  | _ => exact Or.inl rfl

section Steady

variable (still : Nat → Prop)

mutual

/-- A node that does not move the start of a match where matching goes back afterwards, and calls no
groups there but those in `still`. -/
def Node.Steady (scope : Scope) : Node → Prop
  | .keep => scope ≠ .look
  | .call n => scope = .look → still n
  | .group kind _ _ branches => BranchesSteady (scope.within kind) branches
  | .conditional _ _ _ yes no => NodesSteady scope yes ∧ NodesSteady scope no
  | .onMatch _ look _ _ yes no =>
    BranchesSteady .moot look ∧ NodesSteady scope yes ∧ NodesSteady scope no
  | .optional _ item | .hidden item => item.Steady scope
  | _ => True

/-- A branch of such nodes. -/
def NodesSteady (scope : Scope) : List Node → Prop
  | [] => True
  | node :: rest => node.Steady scope ∧ NodesSteady scope rest

/-- Branches of such nodes. -/
def BranchesSteady (scope : Scope) : List (List Node) → Prop
  | [] => True
  | nodes :: rest => NodesSteady scope nodes ∧ BranchesSteady scope rest

end

/-- A table of groups that do not move the start of a match where matching goes back afterwards,
even if they are reached through calls. -/
def GroupCodes.Steady (table : GroupCodes) : Prop :=
  ∃ still : Nat → Prop, ∀ (n : Nat) (code : GroupCode), (table[n]?).join = some code →
    BranchesSteady still .forward code.branches ∧
      (still n → BranchesSteady still .look code.branches)

variable {still}

theorem branchesSteady_iff {scope : Scope} {branches : List (List Node)} :
    BranchesSteady still scope branches ↔ ∀ b ∈ branches, NodesSteady still scope b := by
  induction branches with
  | nil => simp [BranchesSteady]
  | cons b rest ih => simp [BranchesSteady, ih]

mutual

/-- Where the start of a match is given up, nothing is asked of the code. -/
theorem Node.steady_moot : ∀ node : Node, node.Steady still .moot
  | .group kind id again branches => by
      simpa [Node.Steady, Scope.within] using branchesSteady_moot branches
  | .conditional guard id again yes no => ⟨nodesSteady_moot yes, nodesSteady_moot no⟩
  | .onMatch negated look id again yes no =>
      ⟨branchesSteady_moot look, nodesSteady_moot yes, nodesSteady_moot no⟩
  | .optional greed item => by simpa [Node.Steady] using item.steady_moot
  | .hidden item => by simpa [Node.Steady] using item.steady_moot
  | .one _ | .many _ _ _ _ | .point _ | .keep | .backref _ _ _ _ _ | .call _ | .verb _ _ _
  | .accept | .fail | .back _ _ | .returned => by simp [Node.Steady]

theorem nodesSteady_moot : ∀ nodes : List Node, NodesSteady still .moot nodes
  | [] => trivial
  | node :: rest => ⟨node.steady_moot, nodesSteady_moot rest⟩

theorem branchesSteady_moot : ∀ branches : List (List Node), BranchesSteady still .moot branches
  | [] => trivial
  | nodes :: rest => ⟨nodesSteady_moot nodes, branchesSteady_moot rest⟩

end

mutual

/-- Code for an assertion is good for every place. -/
theorem Node.Steady.loosen {scope : Scope} :
    ∀ node : Node, node.Steady still .look → node.Steady still scope
  | .group kind id again branches, steady => by
      rw [Node.Steady] at steady ⊢
      rcases Scope.within_look kind with look | moot
      · rw [look] at steady
        exact branchesSteady_loosen branches steady
      · rw [moot scope]
        exact branchesSteady_moot branches
  | .conditional guard id again yes no, steady =>
      ⟨nodesSteady_loosen yes steady.1, nodesSteady_loosen no steady.2⟩
  | .onMatch negated look id again yes no, steady =>
      ⟨steady.1, nodesSteady_loosen yes steady.2.1, nodesSteady_loosen no steady.2.2⟩
  | .optional greed item, steady => by
      rw [Node.Steady] at steady ⊢
      exact Node.Steady.loosen item steady
  | .hidden item, steady => by
      rw [Node.Steady] at steady ⊢
      exact Node.Steady.loosen item steady
  | .keep, steady => absurd rfl steady
  | .call n, steady => fun _ => steady rfl
  | .one _, _ | .many _ _ _ _, _ | .point _, _ | .backref _ _ _ _ _, _ | .verb _ _ _, _
  | .accept, _ | .fail, _ | .back _ _, _ | .returned, _ => by simp [Node.Steady]

theorem nodesSteady_loosen {scope : Scope} :
    ∀ nodes : List Node, NodesSteady still .look nodes → NodesSteady still scope nodes
  | [], _ => trivial
  | node :: rest, steady => ⟨Node.Steady.loosen node steady.1, nodesSteady_loosen rest steady.2⟩

theorem branchesSteady_loosen {scope : Scope} :
    ∀ branches : List (List Node), BranchesSteady still .look branches →
      BranchesSteady still scope branches
  | [], _ => trivial
  | nodes :: rest, steady =>
      ⟨nodesSteady_loosen nodes steady.1, branchesSteady_loosen rest steady.2⟩

end

/-- A table is steady if each entry is, for some groups that assertions may call. -/
theorem GroupCodes.steady_of (still : Nat → Prop) {table : GroupCodes}
    (each : ∀ n : Fin table.size, ∀ code ∈ table[n],
      BranchesSteady still .forward code.branches ∧
        (still n → BranchesSteady still .look code.branches)) : table.Steady := by
  refine ⟨still, fun n code entry => ?_⟩
  obtain ⟨bound, eq⟩ := Array.getElem?_eq_some_iff.mp (Option.join_eq_some_iff.mp entry)
  exact each ⟨n, bound⟩ code eq

/-! ## Code that follows a rule -/

/-- A rule that makes code steady. -/
structure Rule.Calm (still : Nat → Prop) (scope : Scope) (r : Rule) : Prop where
  inside : ¬r.keepInside
  here : scope = .look → ¬r.keep
  calls : r.call → ∀ n, still n

namespace Rule.Calm

variable {r : Rule} {scope : Scope}

theorem look (calm : r.Calm still scope) (other : Scope) : r.inside.Calm still other :=
  ⟨calm.inside, fun _ => calm.inside, calm.calls⟩

end Rule.Calm

mutual

theorem Node.Follows.steady {r : Rule} {scope : Scope} (calm : r.Calm still scope) :
    ∀ node : Node, node.Follows r → node.Steady still scope
  | .group kind id again branches, follows => by
      rw [Node.Steady]
      cases kind with
      | ahead negated atomic => exact looksFollow_steady (calm.look _) branches follows
      | behind negated atomic => exact looksFollow_steady (calm.look _) branches follows
      | scan groups => exact branchesFollow_steady (calm.look _) branches follows
      | _ => cases scope <;> exact branchesFollow_steady calm branches follows
  | .conditional guard id again yes no, follows =>
      ⟨nodesFollow_steady calm yes follows.1, nodesFollow_steady calm no follows.2⟩
  | .onMatch negated look id again yes no, follows =>
      ⟨branchesSteady_moot look, nodesFollow_steady calm yes follows.2.1,
        nodesFollow_steady calm no follows.2.2⟩
  | .optional greed item, follows => by
      rw [Node.Follows] at follows
      rw [Node.Steady]
      exact Node.Follows.steady calm item follows
  | .hidden item, follows => by
      rw [Node.Follows] at follows
      rw [Node.Steady]
      exact Node.Follows.steady calm item follows
  | .keep, follows => fun look => calm.here look follows
  | .call n, follows => fun _ => calm.calls follows n
  | .one _, _ | .many _ _ _ _, _ | .point _, _ | .backref _ _ _ _ _, _ | .verb _ _ _, _
  | .accept, _ | .fail, _ | .back _ _, _ | .returned, _ => by simp [Node.Steady]

theorem nodesFollow_steady {r : Rule} {scope : Scope} (calm : r.Calm still scope) :
    ∀ nodes : List Node, NodesFollow r nodes → NodesSteady still scope nodes
  | [], _ => trivial
  | node :: rest, follow =>
      ⟨Node.Follows.steady calm node follow.1, nodesFollow_steady calm rest follow.2⟩

theorem branchesFollow_steady {r : Rule} {scope : Scope} (calm : r.Calm still scope) :
    ∀ branches : List (List Node), BranchesFollow r branches → BranchesSteady still scope branches
  | [], _ => trivial
  | nodes :: rest, follow =>
      ⟨nodesFollow_steady calm nodes follow.1, branchesFollow_steady calm rest follow.2⟩

theorem lookFollows_steady {r : Rule} {scope : Scope} (calm : r.Calm still scope) :
    ∀ nodes : List Node, LookFollows r nodes → NodesSteady still scope nodes
  | [], _ => trivial
  | node :: rest, look => by
      refine ⟨?_, nodesFollow_steady calm rest look.2⟩
      rcases look.1 with follows | back
      · exact Node.Follows.steady calm node follows
      · cases node with
        | back least greatest => trivial
        | _ => exact back.elim

theorem looksFollow_steady {r : Rule} {scope : Scope} (calm : r.Calm still scope) :
    ∀ branches : List (List Node), LooksFollow r branches → BranchesSteady still scope branches
  | [], _ => trivial
  | nodes :: rest, looks =>
      ⟨lookFollows_steady calm nodes looks.1, looksFollow_steady calm rest looks.2⟩

end

/-- **Code that moves no start in assertions is steady**, if either it calls nothing or it moves no
start at all. -/
theorem GroupCodes.Follows.steady {r : Rule} {table : GroupCodes} (follows : table.Follows r)
    (inside : ¬r.keepInside) (apart : r.call → ¬r.keep) : table.Steady := by
  -- Assertions may call every group if there are calls at all.
  refine ⟨fun _ => r.call, fun n code entry => ⟨?_, fun calls => ?_⟩⟩
  · have calm : r.Calm (fun _ => r.call) .forward :=
      ⟨inside, fun look => absurd look (by decide), fun calls _ => calls⟩
    exact branchesFollow_steady calm _ (follows n code entry)
  · exact branchesFollow_steady ⟨inside, fun _ => apart calls, fun _ _ => calls⟩ _
      (follows n code entry)

/-! ## Finding out -/

variable (still) [DecidablePred still]

mutual

/-- Whether a node is steady can be computed. -/
def Node.decideSteady (scope : Scope) : (node : Node) → Decidable (node.Steady still scope)
  | .keep => inferInstanceAs (Decidable (scope ≠ .look))
  | .call n => inferInstanceAs (Decidable (scope = .look → still n))
  | .group kind _ _ branches => branchesDecideSteady (scope.within kind) branches
  | .conditional _ _ _ yes no =>
    @instDecidableAnd _ _ (nodesDecideSteady scope yes) (nodesDecideSteady scope no)
  | .onMatch _ look _ _ yes no =>
    @instDecidableAnd _ _ (branchesDecideSteady .moot look)
      (@instDecidableAnd _ _ (nodesDecideSteady scope yes) (nodesDecideSteady scope no))
  | .optional _ item | .hidden item => item.decideSteady scope
  | .one _ | .many _ _ _ _ | .point _ | .backref _ _ _ _ _ | .verb _ _ _ | .accept | .fail
  | .back _ _ | .returned => .isTrue trivial

/-- Whether a branch is steady can be computed. -/
def nodesDecideSteady (scope : Scope) :
    (nodes : List Node) → Decidable (NodesSteady still scope nodes)
  | [] => .isTrue trivial
  | node :: rest =>
    @instDecidableAnd _ _ (node.decideSteady scope) (nodesDecideSteady scope rest)

/-- Whether branches are steady can be computed. -/
def branchesDecideSteady (scope : Scope) :
    (branches : List (List Node)) → Decidable (BranchesSteady still scope branches)
  | [] => .isTrue trivial
  | nodes :: rest =>
    @instDecidableAnd _ _ (nodesDecideSteady scope nodes) (branchesDecideSteady scope rest)

end

instance (scope : Scope) (branches : List (List Node)) :
    Decidable (BranchesSteady still scope branches) :=
  branchesDecideSteady still scope branches

end Steady

end Regex.Code
