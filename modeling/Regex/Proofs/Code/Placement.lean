import Mathlib.Tactic.Common
import Regex.Code.Possessive
import Regex.Code.Repetition

/-!
# Where instructions stand

An instruction to go back belongs to a lookbehind: it stands at the head of one of its branches, or
of the branches of a condition, and nowhere else.  This is what bounds the ranges of groups, since
every other instruction goes forward.  Moving the start of the match and calling groups are two more
things that code may be free of, the first of them also in assertions alone.

* `Rule`: what code may hold besides.
* `Node.Follows`, `NodesFollow`, `BranchesFollow`: code that follows a rule, and goes back nowhere
  but in lookbehinds.
* `LooksFollow`: the branches of an assertion, each of which may start by going back.
* `GroupCodes.Follows`: a table of groups whose branches follow a rule.
* `Node.Placed`: code of which no more is asked than where it goes back.
-/

namespace Regex.Code

open Syntax

/-- What code may hold. -/
structure Rule where
  /-- It may move the start of the match. -/
  keep : Prop
  /-- It may do so even in assertions. -/
  keepInside : Prop
  /-- It may call groups. -/
  call : Prop
  outward : keepInside → keep

namespace Rule

/-- The rule for the code inside an assertion. -/
def inside (r : Rule) : Rule := { r with keep := r.keepInside, outward := id }

/-- The rule that allows everything. -/
def free : Rule := ⟨True, True, True, id⟩

/-- The rule of code that never moves the start of the match. -/
def still : Rule := ⟨False, False, True, id⟩

/-- A rule with what it asks in an assertion, if `look` tells that the code is in one. -/
def under (r : Rule) (look : Bool) : Rule := if look then r.inside else r

theorem under_under (r : Rule) (a b : Bool) : (r.under a).under b = r.under (a || b) := by
  cases a <;> cases b <;> rfl

theorem under_call (r : Rule) (look : Bool) : (r.under look).call = r.call := by
  cases look <;> rfl

/-- What one rule allows is allowed by another one. -/
structure Within (r r' : Rule) : Prop where
  keep : r.keep → r'.keep
  keepInside : r.keepInside → r'.keepInside
  call : r.call → r'.call

theorem inside_within (r : Rule) : r.inside.Within r := ⟨r.outward, id, id⟩

theorem Within.inside {r r' : Rule} (le : r.Within r') : r.inside.Within r'.inside :=
  ⟨le.keepInside, le.keepInside, le.call⟩

end Rule

/-- An instruction to go back. -/
def Node.IsBack : Node → Prop
  | .back _ _ => True
  | _ => False

mutual

/-- A node that follows a rule, and goes back nowhere but at the head of the branches of assertions
in it. -/
def Node.Follows (r : Rule) : Node → Prop
  | .back _ _ => False
  | .keep => r.keep
  | .call _ => r.call
  | .group kind _ _ branches =>
    match kind with
    | .ahead _ _ | .behind _ _ => LooksFollow r.inside branches
    | .scan _ => BranchesFollow r.inside branches
    | _ => BranchesFollow r branches
  | .conditional _ _ _ yes no => NodesFollow r yes ∧ NodesFollow r no
  | .onMatch _ look _ _ yes no => LooksFollow r.inside look ∧ NodesFollow r yes ∧ NodesFollow r no
  | .optional _ item | .hidden item => item.Follows r
  | _ => True

/-- A branch of such nodes. -/
def NodesFollow (r : Rule) : List Node → Prop
  | [] => True
  | node :: rest => node.Follows r ∧ NodesFollow r rest

/-- Branches of such nodes. -/
def BranchesFollow (r : Rule) : List (List Node) → Prop
  | [] => True
  | nodes :: rest => NodesFollow r nodes ∧ BranchesFollow r rest

/-- A branch of such nodes that may start by going back. -/
def LookFollows (r : Rule) : List Node → Prop
  | [] => True
  | node :: rest => (node.Follows r ∨ node.IsBack) ∧ NodesFollow r rest

/-- Branches of such nodes, each of which may start by going back. -/
def LooksFollow (r : Rule) : List (List Node) → Prop
  | [] => True
  | nodes :: rest => LookFollows r nodes ∧ LooksFollow r rest

end

/-- A node that goes back nowhere but at the head of the branches of assertions in it. -/
abbrev Node.Placed (node : Node) : Prop := node.Follows .free

/-- A branch of placed nodes. -/
abbrev NodesPlaced (nodes : List Node) : Prop := NodesFollow .free nodes

/-- A branch of placed nodes that may start by going back. -/
abbrev LookPlaced (nodes : List Node) : Prop := LookFollows .free nodes

variable {r : Rule}

theorem nodesFollow_iff {nodes : List Node} : NodesFollow r nodes ↔ ∀ n ∈ nodes, n.Follows r := by
  induction nodes with
  | nil => simp [NodesFollow]
  | cons n rest ih => simp [NodesFollow, ih]

theorem branchesFollow_iff {branches : List (List Node)} :
    BranchesFollow r branches ↔ ∀ b ∈ branches, NodesFollow r b := by
  induction branches with
  | nil => simp [BranchesFollow]
  | cons b rest ih => simp [BranchesFollow, ih]

theorem looksFollow_iff {branches : List (List Node)} :
    LooksFollow r branches ↔ ∀ b ∈ branches, LookFollows r b := by
  induction branches with
  | nil => simp [LooksFollow]
  | cons b rest ih => simp [LooksFollow, ih]

/-- A branch need not start by going back. -/
theorem NodesFollow.look {nodes : List Node} (follow : NodesFollow r nodes) :
    LookFollows r nodes := by
  cases nodes with
  | nil => trivial
  | cons node rest => exact ⟨Or.inl follow.1, follow.2⟩

theorem nodesFollow_append {a b : List Node} :
    NodesFollow r (a ++ b) ↔ NodesFollow r a ∧ NodesFollow r b := by
  simp only [nodesFollow_iff, List.mem_append, or_imp, forall_and]

theorem nodesFollow_reverse {nodes : List Node} (follow : NodesFollow r nodes) :
    NodesFollow r nodes.reverse :=
  nodesFollow_iff.mpr fun n mem => nodesFollow_iff.mp follow n (List.mem_reverse.mp mem)

mutual

/-- Code that follows a rule follows every rule that allows as much. -/
theorem Node.Follows.mono {r r' : Rule} (le : r.Within r') :
    ∀ node : Node, node.Follows r → node.Follows r'
  | .group kind id again branches, follows => by
      cases kind with
      | ahead negated atomic => exact looksFollow_mono le.inside branches follows
      | behind negated atomic => exact looksFollow_mono le.inside branches follows
      | scan groups => exact branchesFollow_mono le.inside branches follows
      | _ => exact branchesFollow_mono le branches follows
  | .conditional guard id again yes no, follows =>
      ⟨nodesFollow_mono le yes follows.1, nodesFollow_mono le no follows.2⟩
  | .onMatch negated look id again yes no, follows =>
      ⟨looksFollow_mono le.inside look follows.1, nodesFollow_mono le yes follows.2.1,
        nodesFollow_mono le no follows.2.2⟩
  | .optional greed item, follows => by
      rw [Node.Follows] at follows ⊢
      exact Node.Follows.mono le item follows
  | .hidden item, follows => by
      rw [Node.Follows] at follows ⊢
      exact Node.Follows.mono le item follows
  | .keep, follows => le.keep follows
  | .call _, follows => le.call follows
  | .back _ _, follows => follows
  | .one _, _ | .many _ _ _ _, _ | .point _, _ | .backref _ _ _ _ _, _ | .verb _ _ _, _
  | .accept, _ | .fail, _ | .returned, _ => trivial

theorem nodesFollow_mono {r r' : Rule} (le : r.Within r') :
    ∀ nodes : List Node, NodesFollow r nodes → NodesFollow r' nodes
  | [], _ => trivial
  | node :: rest, follow => ⟨Node.Follows.mono le node follow.1, nodesFollow_mono le rest follow.2⟩

theorem branchesFollow_mono {r r' : Rule} (le : r.Within r') :
    ∀ branches : List (List Node), BranchesFollow r branches → BranchesFollow r' branches
  | [], _ => trivial
  | nodes :: rest, follow =>
      ⟨nodesFollow_mono le nodes follow.1, branchesFollow_mono le rest follow.2⟩

theorem lookFollows_mono {r r' : Rule} (le : r.Within r') :
    ∀ nodes : List Node, LookFollows r nodes → LookFollows r' nodes
  | [], _ => trivial
  | node :: rest, look =>
      ⟨look.1.imp_left (Node.Follows.mono le node), nodesFollow_mono le rest look.2⟩

theorem looksFollow_mono {r r' : Rule} (le : r.Within r') :
    ∀ branches : List (List Node), LooksFollow r branches → LooksFollow r' branches
  | [], _ => trivial
  | nodes :: rest, looks => ⟨lookFollows_mono le nodes looks.1, looksFollow_mono le rest looks.2⟩

end

/-! ## Repetitions -/

namespace Repetition

variable {node : Node}

theorem nodesFollow_atomically {nodes : List Node} (follows : NodesFollow r nodes) :
    NodesFollow r (atomically nodes) :=
  ⟨⟨follows, trivial⟩, trivial⟩

theorem nodesFollow_replicate (follows : node.Follows r) (n : Nat) :
    NodesFollow r (List.replicate n node) :=
  nodesFollow_iff.mpr fun _ mem => List.eq_of_mem_replicate mem ▸ follows

theorem follows_nest {greed : Greed} (follows : node.Follows r) (n : Nat) :
    (nest greed node n).Follows r := by
  induction n with
  | zero => simpa [nest, Node.Follows] using follows
  | succ n ih => simpa [nest, Node.Follows, BranchesFollow, NodesFollow] using ⟨follows, ih⟩

/-- The last copy of a group holds what the group does. -/
theorem follows_loop (m : Repetition) (follows : node.Follows r) : (m.loop node).1.Follows r := by
  have wrapped : ∀ again : Again, (Node.group .plain 0 again [[node]]).Follows r :=
    fun _ => ⟨⟨follows, trivial⟩, trivial⟩
  unfold loop
  dsimp only
  split
  · exact follows
  · split_ifs
    · exact follows
    · exact follows
  · exact follows
  · split_ifs
    · exact wrapped _
    · exact follows
  · split_ifs
    · exact wrapped _
    · exact follows
  · exact follows

theorem nodesFollow_ofGroupUnlimited (m : Repetition) (follows : node.Follows r) (width : Nat) :
    NodesFollow r (m.ofGroupUnlimited node width).1 := by
  have last := m.follows_loop follows
  have optional : ∀ greed : Greed, NodesFollow r [.optional greed (m.loop node).1] :=
    fun greed => ⟨by simpa [Node.Follows] using last, trivial⟩
  have copies : NodesFollow r (List.replicate (m.min - 1) node ++ [(m.loop node).1]) :=
    nodesFollow_append.mpr ⟨nodesFollow_replicate follows _, last, trivial⟩
  unfold ofGroupUnlimited
  dsimp only
  split_ifs
  all_goals first
    | exact nodesFollow_atomically (optional _)
    | exact nodesFollow_atomically copies
    | exact optional _
    | exact copies

theorem nodesFollow_ofGroupLimited (m : Repetition) (max : Nat) (follows : node.Follows r)
    (width : Nat) : NodesFollow r (m.ofGroupLimited max node width).1 := by
  have copies := nodesFollow_replicate follows m.min
  have nested :
      NodesFollow r (List.replicate m.min node ++ [nest m.order node (max - m.min - 1)]) :=
    nodesFollow_append.mpr ⟨copies, follows_nest follows _, trivial⟩
  unfold ofGroupLimited
  dsimp only
  split_ifs
  all_goals first
    | exact nodesFollow_atomically copies
    | exact nodesFollow_atomically nested
    | exact copies
    | exact nested

theorem nodesFollow_ofGroup (m : Repetition) (follows : node.Follows r) (width : Nat) :
    NodesFollow r (m.ofGroup node width).1 := by
  have never : NodesFollow r [.hidden node] := ⟨by simpa [Node.Follows] using follows, trivial⟩
  have limited := fun max => m.nodesFollow_ofGroupLimited max follows width
  have endless := m.nodesFollow_ofGroupUnlimited follows width
  have once : NodesFollow r ([node], width).1 := ⟨follows, trivial⟩
  refine iteInduction (motive := fun code : List Node × Nat => NodesFollow r code.1)
    (fun _ => once) fun _ => ?_
  refine iteInduction (motive := fun code : List Node × Nat => NodesFollow r code.1)
    (fun _ => once) fun _ => ?_
  split
  · exact never
  · exact limited _
  · exact endless

theorem nodesFollow_ofCall (m : Repetition) (follows : node.Follows r) (width : Nat) :
    NodesFollow r (m.ofCall node width).1 := by
  have wrapped : (Node.group .plain 0 .once [[node]]).Follows r := ⟨⟨follows, trivial⟩, trivial⟩
  have copies := nodesFollow_replicate follows m.min
  unfold ofCall
  dsimp only
  split_ifs
  · exact ⟨by simpa [Node.Follows] using wrapped, trivial⟩
  · exact nodesFollow_atomically copies
  · exact copies
  · exact m.nodesFollow_ofGroup wrapped _
  · exact nodesFollow_append.mpr ⟨copies, nodesFollow_ofGroup _ wrapped _⟩

end Repetition

/-! ## What is done to code afterwards -/

theorem Node.IsBack.possessified (p : Possessing) (after : Ahead) {node : Node}
    (back : node.IsBack) : (p.ofNode after node).IsBack := by
  cases node with
  | back least greatest => trivial
  | _ => exact back.elim

mutual

theorem Node.Follows.possessified {r : Rule} (p : Possessing) : ∀ (node : Node) (after : Ahead),
    node.Follows r → (p.ofNode after node).Follows r
  | .group kind id again branches, after, follows => by
      unfold Possessing.ofNode
      cases kind with
      | ahead negated atomic => exact looksFollow_possessified p branches _ _ follows
      | behind negated atomic => exact looksFollow_possessified p branches _ _ follows
      | _ => exact branchesFollow_possessified p branches _ _ follows
  | .conditional guard id again yes no, after, follows => by
      unfold Possessing.ofNode
      exact ⟨nodesFollow_possessified p yes _ _ follows.1,
        nodesFollow_possessified p no _ _ follows.2⟩
  | .onMatch negated look id again yes no, after, follows => by
      unfold Possessing.ofNode
      exact ⟨looksFollow_possessified p look _ _ follows.1,
        nodesFollow_possessified p yes _ _ follows.2.1,
        nodesFollow_possessified p no _ _ follows.2.2⟩
  | .optional greed item, after, follows => by
      unfold Possessing.ofNode
      rw [Node.Follows] at follows ⊢
      exact Node.Follows.possessified p item after follows
  | .hidden item, after, follows => by
      unfold Possessing.ofNode
      rw [Node.Follows] at follows ⊢
      exact Node.Follows.possessified p item after follows
  | .many _ _ _ _, _, _ => by
      unfold Possessing.ofNode
      trivial
  | .back _ _, _, follows => absurd follows (by simp [Node.Follows])
  | .one _, _, follows | .point _, _, follows | .keep, _, follows | .backref _ _ _ _ _, _, follows
  | .call _, _, follows | .verb _ _ _, _, follows | .accept, _, follows | .fail, _, follows
  | .returned, _, follows => follows

theorem nodesFollow_possessified {r : Rule} (p : Possessing) : ∀ (nodes : List Node)
    (ending : Ending) (outer : Ahead), NodesFollow r nodes →
      NodesFollow r (p.ofNodes ending outer nodes)
  | [], _, _, _ => trivial
  | node :: rest, _, _, follows =>
      ⟨Node.Follows.possessified p node _ follows.1, nodesFollow_possessified p rest _ _ follows.2⟩

theorem branchesFollow_possessified {r : Rule} (p : Possessing) : ∀ (branches : List (List Node))
    (ending : Ending) (outer : Ahead), BranchesFollow r branches →
      BranchesFollow r (p.ofBranches ending outer branches)
  | [], _, _, _ => trivial
  | nodes :: rest, _, _, follows =>
      ⟨nodesFollow_possessified p nodes _ _ follows.1,
        branchesFollow_possessified p rest _ _ follows.2⟩

theorem lookFollows_possessified {r : Rule} (p : Possessing) : ∀ (nodes : List Node)
    (ending : Ending) (outer : Ahead), LookFollows r nodes →
      LookFollows r (p.ofNodes ending outer nodes)
  | [], _, _, _ => trivial
  | node :: rest, _, _, look =>
      ⟨look.1.imp (Node.Follows.possessified p node _) (Node.IsBack.possessified p _),
        nodesFollow_possessified p rest _ _ look.2⟩

theorem looksFollow_possessified {r : Rule} (p : Possessing) : ∀ (branches : List (List Node))
    (ending : Ending) (outer : Ahead), LooksFollow r branches →
      LooksFollow r (p.ofBranches ending outer branches)
  | [], _, _, _ => trivial
  | nodes :: rest, _, _, looks =>
      ⟨lookFollows_possessified p nodes _ _ looks.1, looksFollow_possessified p rest _ _ looks.2⟩

end

/-- A group that is spread out is replaced by what is in it. -/
theorem nodesFollow_of_spread {node : Node} (follows : node.Follows r) :
    NodesFollow r node.spread := by
  unfold Node.spread
  split
  · exact follows.1
  · exact ⟨follows, trivial⟩

mutual

theorem Node.Follows.spreadInside {r : Rule} :
    ∀ node : Node, node.Follows r → node.spreadInside.Follows r
  | .group kind id again branches, follows => by
      unfold Node.spreadInside
      cases kind with
      | ahead negated atomic => exact looksFollow_spread branches follows
      | behind negated atomic => exact looksFollow_spread branches follows
      | _ => exact branchesFollow_spread branches follows
  | .conditional guard id again yes no, follows =>
      ⟨nodesFollow_spread yes follows.1, nodesFollow_spread no follows.2⟩
  | .onMatch negated look id again yes no, follows =>
      ⟨looksFollow_spread look follows.1, nodesFollow_spread yes follows.2.1,
        nodesFollow_spread no follows.2.2⟩
  | .optional greed item, follows => by
      unfold Node.spreadInside
      rw [Node.Follows] at follows ⊢
      exact Node.Follows.spreadInside item follows
  | .hidden item, follows => by
      unfold Node.spreadInside
      rw [Node.Follows] at follows ⊢
      exact Node.Follows.spreadInside item follows
  | .back _ _, follows => absurd follows (by simp [Node.Follows])
  | .one _, follows | .many _ _ _ _, follows | .point _, follows | .keep, follows
  | .backref _ _ _ _ _, follows | .call _, follows | .verb _ _ _, follows | .accept, follows
  | .fail, follows | .returned, follows => follows

theorem nodesFollow_spread {r : Rule} :
    ∀ nodes : List Node, NodesFollow r nodes → NodesFollow r (spreadNodes nodes)
  | [], _ => trivial
  | node :: rest, follows =>
      nodesFollow_append.mpr ⟨nodesFollow_of_spread (Node.Follows.spreadInside node follows.1),
        nodesFollow_spread rest follows.2⟩

theorem branchesFollow_spread {r : Rule} : ∀ branches : List (List Node),
    BranchesFollow r branches → BranchesFollow r (spreadBranches branches)
  | [], _ => trivial
  | nodes :: rest, follows =>
      ⟨nodesFollow_spread nodes follows.1, branchesFollow_spread rest follows.2⟩

theorem lookFollows_spread {r : Rule} :
    ∀ nodes : List Node, LookFollows r nodes → LookFollows r (spreadNodes nodes)
  | [], _ => trivial
  | node :: rest, ⟨head, tail⟩ => by
      have tail := nodesFollow_spread rest tail
      rcases head with follows | back
      · have head := nodesFollow_of_spread (Node.Follows.spreadInside node follows)
        exact (nodesFollow_append.mpr ⟨head, tail⟩).look
      · cases node with
        | back least greatest => exact ⟨Or.inr trivial, tail⟩
        | _ => exact back.elim

theorem looksFollow_spread {r : Rule} : ∀ branches : List (List Node),
    LooksFollow r branches → LooksFollow r (spreadBranches branches)
  | [], _ => trivial
  | nodes :: rest, looks => ⟨lookFollows_spread nodes looks.1, looksFollow_spread rest looks.2⟩

end

/-! ## The groups of a pattern -/

/-- A table of groups whose branches follow a rule. -/
def GroupCodes.Follows (r : Rule) (table : GroupCodes) : Prop :=
  ∀ (n : Nat) (code : GroupCode), (table[n]?).join = some code → BranchesFollow r code.branches

/-- A table of groups with placed branches. -/
abbrev GroupCodes.Placed (table : GroupCodes) : Prop := table.Follows .free

namespace GroupCodes

theorem Follows.enter {table : GroupCodes} (follows : table.Follows r) (number : Nat)
    {code : GroupCode} (branches : BranchesFollow r code.branches) :
    (table.enter number code).Follows r := by
  intro n found eq
  rw [GroupCodes.enter, Array.getElem?_modify] at eq
  split_ifs at eq with same
  · cases known : table[n]? with
    | none => simp [known] at eq
    | some entry =>
        rw [known] at eq
        cases entry with
        | none =>
            obtain rfl : code = found := by simpa using eq
            exact branches
        | some code' => exact follows n found (by simpa [known] using eq)
  · exact follows n found eq

mutual

theorem follows_ofNode : ∀ (node : Node) (table : GroupCodes), node.Follows r → table.Follows r →
    (ofNode table node).Follows r
  | .group kind id again branches, table, follows, known => by
      unfold ofNode
      cases kind with
      | capture n => exact follows_ofBranches branches _ follows (known.enter n follows)
      | ahead negated atomic =>
          exact follows_ofLooks branches _ (looksFollow_mono r.inside_within _ follows) known
      | behind negated atomic =>
          exact follows_ofLooks branches _ (looksFollow_mono r.inside_within _ follows) known
      | scan groups =>
          exact follows_ofBranches branches _ (branchesFollow_mono r.inside_within _ follows) known
      | _ => exact follows_ofBranches branches _ follows known
  | .conditional guard id again yes no, table, follows, known =>
      follows_ofNodes no _ follows.2 (follows_ofNodes yes _ follows.1 known)
  | .onMatch negated look id again yes no, table, follows, known =>
      follows_ofNodes no _ follows.2.2 (follows_ofNodes yes _ follows.2.1
        (follows_ofLooks look _ (looksFollow_mono r.inside_within _ follows.1) known))
  | .optional greed item, table, follows, known => by
      unfold ofNode
      rw [Node.Follows] at follows
      exact follows_ofNode item table follows known
  | .hidden item, table, follows, known => by
      unfold ofNode
      rw [Node.Follows] at follows
      exact follows_ofNode item table follows known
  | .one _, _, _, known | .many _ _ _ _, _, _, known | .point _, _, _, known | .keep, _, _, known
  | .backref _ _ _ _ _, _, _, known | .call _, _, _, known | .verb _ _ _, _, _, known
  | .accept, _, _, known | .fail, _, _, known | .returned, _, _, known
  | .back _ _, _, _, known => known

theorem follows_ofNodes : ∀ (nodes : List Node) (table : GroupCodes), NodesFollow r nodes →
    table.Follows r → (ofNodes table nodes).Follows r
  | [], _, _, known => known
  | node :: rest, table, follows, known =>
      follows_ofNodes rest _ follows.2 (follows_ofNode node table follows.1 known)

theorem follows_ofBranches : ∀ (branches : List (List Node)) (table : GroupCodes),
    BranchesFollow r branches → table.Follows r → (ofBranches table branches).Follows r
  | [], _, _, known => known
  | nodes :: rest, table, follows, known =>
      follows_ofBranches rest _ follows.2 (follows_ofNodes nodes table follows.1 known)

theorem follows_ofLook : ∀ (nodes : List Node) (table : GroupCodes), LookFollows r nodes →
    table.Follows r → (ofNodes table nodes).Follows r
  | [], _, _, known => known
  | node :: rest, table, ⟨head, tail⟩, known => by
      refine follows_ofNodes rest _ tail ?_
      rcases head with follows | back
      · exact follows_ofNode node table follows known
      · cases node with
        | back least greatest => exact known
        | _ => exact back.elim

theorem follows_ofLooks : ∀ (branches : List (List Node)) (table : GroupCodes),
    LooksFollow r branches → table.Follows r → (ofBranches table branches).Follows r
  | [], _, _, known => known
  | nodes :: rest, table, looks, known =>
      follows_ofLooks rest _ looks.2 (follows_ofLook nodes table looks.1 known)

end

/-- The groups of code that follows a rule follow it, too. -/
theorem follows_of {branches : List (List Node)} (follows : BranchesFollow r branches)
    (groups : Nat) : (GroupCodes.of branches groups).Follows r := by
  refine follows_ofBranches branches _ follows fun n code eq => ?_
  rw [Array.set!_eq_setIfInBounds, Array.getElem?_setIfInBounds] at eq
  split_ifs at eq with same bound
  · obtain rfl : GroupCode.mk 0 branches = code := by simpa using eq
    exact follows
  · cases eq
  · rw [Array.getElem?_replicate] at eq
    split_ifs at eq
    · cases eq
    · cases eq

end GroupCodes

end Regex.Code
