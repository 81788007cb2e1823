import Regex.Proofs.Code.Placement
import Regex.Proofs.Code.Yields
import Regex.Proofs.Syntax.Items

/-!
# Assembled code

What holds of the code of every pattern.

* `Assembling.Allowed`: the simple items that a rule allows, outside of assertions at least.
* `Assembling.sound_item`, `Assembling.sound_bodyOf`: the code of items and of groups follows every
  rule that allows the items, and it takes single bytes only where an item asks for them.
* `sound_assemble`: the same for a whole pattern.
-/

namespace Regex.Code

open Chars Syntax

namespace Assembling

/-- The code of an item follows a rule, and no single bytes have been taken. -/
def Sound (r : Rule) (a : Assembly) (p : Piece) (a' : Assembly) : Prop :=
  NodesFollow r p.nodes ∧ a'.bytes = a.bytes

/-- No single bytes have been taken. -/
def Same (a : Assembly) {α : Type} (_ : α) (a' : Assembly) : Prop := a'.bytes = a.bytes

variable {r : Rule} {b : Blueprint} {s : Surroundings} {d : Draft} {a : Assembly}

theorem sound_literal (l : Literal) : Yields (literal b d l) a (Sound r a) := by
  have follows : NodesFollow r [.one l.test] := ⟨trivial, trivial⟩
  unfold literal
  dsimp only
  split_ifs
  · exact .pure ⟨follows, rfl⟩
  · exact .bind (P := Same a) (.modify rfl) fun _ a' same =>
      .bind (P := Same a) (.get same) fun _ a' same => .pure ⟨follows, same⟩
  · exact .bind (P := Same a) (.get rfl) fun _ a' same => .pure ⟨follows, same⟩

theorem sound_various (t : Test) (width : Nat) :
    Yields (pure (d.various t width)) a (Sound r a) :=
  .pure ⟨⟨trivial, trivial⟩, rfl⟩

theorem sound_charClass (tree : ClassTree) (casing : Casing) :
    Yields (charClass b d tree casing) a (Sound r a) := by
  unfold charClass
  split
  · exact sound_literal _
  · dsimp only
    split_ifs
    · exact .bind (P := Same a) (.modify rfl) fun _ a' same => .pure ⟨⟨trivial, trivial⟩, same⟩
    · exact sound_various _ _

theorem sound_point (p : Point) : Yields (point d p) a (Sound r a) := by
  have follows : NodesFollow r [.point p] := ⟨trivial, trivial⟩
  unfold point
  dsimp only
  split
  · split_ifs <;> exact .pure ⟨follows, rfl⟩
  · exact .pure ⟨follows, rfl⟩
  · exact .bind (P := Same a) (.modify rfl) fun _ a' same => .pure ⟨follows, same⟩
  · exact .bind (P := Same a) (.modify rfl) fun _ a' same => .pure ⟨follows, same⟩
  · exact .pure ⟨follows, rfl⟩

theorem sound_verb (v : Verb) (name : List Char) : Yields (verb s d v name) a (Sound r a) := by
  have follows : NodesFollow r [.verb v name s.scope] := ⟨trivial, trivial⟩
  unfold verb
  dsimp only
  split
  all_goals first
    | exact .bind (P := Same a) (.modify rfl) fun _ a' same => .pure ⟨follows, same⟩
    | exact .pure ⟨follows, rfl⟩

theorem sound_backref (group : GroupRef) (casing : Casing) (offset : Nat) :
    Yields (backref b d group casing offset) a (Sound r a) := by
  unfold backref
  exact .bind (P := Same a) (.lift fun _ _ => rfl) fun _ a' same =>
    .bind (P := Same a) (.modify same) fun _ a' same => .pure ⟨⟨trivial, trivial⟩, same⟩

theorem sound_call (allowed : r.call) (group : GroupRef) (offset : Nat) :
    Yields (call b d group offset) a (Sound r a) := by
  unfold call
  exact .bind (P := Same a) (.lift fun _ _ => rfl) fun _ a' same =>
    .bind (P := Same a) (.modify same) fun _ a' same => .pure ⟨⟨allowed, trivial⟩, same⟩

/-- A conditional group is made of its branches, and its assertion is the first item of one. -/
theorem sound_conditional (condition : Condition) (guard : Guard) (offset : Option Nat)
    {g : Group} (vary : Bool) (follows : ∀ nodes ∈ g.branches, NodesFollow r nodes) :
    Yields (conditional d condition guard offset g vary) a (Sound r a) := by
  have headD : ∀ branches : List (List Node), (∀ nodes ∈ branches, NodesFollow r nodes) →
      NodesFollow r (branches.headD []) := by
    intro branches follows
    cases branches with
    | nil => trivial
    | cons nodes rest => exact follows nodes (by simp)
  have yes := headD g.branches follows
  have no := headD (g.branches.drop 1) fun nodes mem => follows nodes (List.mem_of_mem_drop mem)
  unfold conditional
  refine .bind (P := Same a) (.modifyGet rfl) fun id a' same => ?_
  extract_lets count first second node
  have follows : NodesFollow r [node] := by
    change NodesFollow r first at yes
    change NodesFollow r second at no
    refine ⟨?_, trivial⟩
    unfold node
    clear_value first second
    -- The cases are those of the assertion that the first branch may begin with.
    split
    · split
      · exact ⟨yes.1, yes.2, no⟩
      · exact ⟨yes.1, yes.2, no⟩
      · exact ⟨yes.2, no⟩
    · exact ⟨yes.2, no⟩
    · exact ⟨yes, no⟩
  have late : ∀ fault, Yields (reportLate fault) a' (Same a) := fun fault => .modify same
  split_ifs
  all_goals first
    | exact .bind (late _) fun _ a' same => .pure ⟨follows, same⟩
    | exact .pure ⟨follows, same⟩

theorem follows_group {kind : Kind} {id : Nat} {offset : Option Nat} {g : Group} {vary : Bool}
    (follows : (Node.group kind id .once g.branches).Follows r) :
    NodesFollow r (group d kind id offset g vary).nodes := by
  have follows : NodesFollow r [.group kind id .once g.branches] := ⟨follows, trivial⟩
  unfold group
  dsimp only
  split
  all_goals exact follows

/-- A repetition holds what is repeated. -/
theorem sound_repeated {p : Piece} (follows : NodesFollow r p.nodes) (min : Nat) (max : Option Nat)
    (greed : Greed) : Yields (repeated p min max greed) a (Sound r a) := by
  have nothing : NodesFollow r [] := trivial
  unfold repeated
  refine .bind (P := Same a) (.get rfl) fun _ a' same => ?_
  extract_lets vary keys piece other jp
  -- what is noted about variation before has no bearing on the code
  have rest : ∀ a' : Assembly, a'.bytes = a.bytes → Yields (jp ()) a' (Sound r a) := by
    intro a' same
    change NodesFollow r piece.nodes at follows
    unfold jp
    split
    · have many : ∀ t : Test, NodesFollow r [.many t min max greed] := fun _ => ⟨trivial, trivial⟩
      split_ifs
      · exact .pure ⟨follows, same⟩
      · exact .pure ⟨nothing, same⟩
      all_goals exact .pure ⟨many _, same⟩
    · have backref : ∀ groups casing greed, (Node.backref groups casing min max greed).Follows r :=
        fun _ _ _ => trivial
      split_ifs
      · exact .pure ⟨follows, same⟩
      · exact .pure ⟨nothing, same⟩
      · exact .pure ⟨Repetition.nodesFollow_atomically ⟨backref _ _ _, trivial⟩, same⟩
      · exact .pure ⟨⟨backref _ _ _, trivial⟩, same⟩
    · rename_i n _
      rename_i one
      rw [one] at follows
      exact .pure ⟨Repetition.nodesFollow_ofCall _ follows.1 _, same⟩
    · exact .pure ⟨follows, same⟩
    · rename_i one
      rw [one] at follows
      exact .pure ⟨Repetition.nodesFollow_ofGroup _ follows.1 _, same⟩
    · exact .pure ⟨follows, same⟩
  split_ifs
  · exact .bind (P := Same a) (.modify same) fun _ a' same => rest a' same
  · exact rest a' same

/-- Whether a group goes back before its branches. -/
def GroupKind.IsBehind (kind : GroupKind) : Prop := ∃ negated atomic, kind = .behind negated atomic

/-- Only a lookbehind has branches that start by going back. -/
def Fits (r : Rule) (kind : GroupKind) (nodes : List Node) : Prop :=
  LookFollows r nodes ∧ (¬ GroupKind.IsBehind kind → NodesFollow r nodes)

theorem fits_of_follows {kind : GroupKind} {nodes : List Node} (follows : NodesFollow r nodes) :
    Fits r kind nodes :=
  ⟨follows.look, fun _ => follows⟩

/-- A branch of a lookbehind, with what makes it go back. -/
theorem fits_backs {kind : GroupKind} {start : Nat} {back : List Node × List Node × Nat}
    (mem : back ∈ b.backs kind start) {nodes : List Node} (follows : NodesFollow r nodes) :
    Fits r kind (back.1 ++ nodes ++ back.2.1) := by
  have returned : NodesFollow r (nodes ++ [.returned]) :=
    nodesFollow_append.mpr ⟨follows, trivial, trivial⟩
  unfold Blueprint.backs at mem
  split at mem
  · rename_i negated atomic
    refine ⟨?_, fun no => absurd ⟨negated, atomic, rfl⟩ no⟩
    split at mem
    · obtain ⟨width, _, rfl⟩ := List.mem_map.mp mem
      unfold Blueprint.backNodes
      split_ifs
      · simpa using follows.look
      · split
        · exact ⟨Or.inr trivial, by simpa using follows⟩
        · split_ifs
          · exact ⟨Or.inr trivial, by simpa using follows⟩
          · exact ⟨Or.inr trivial, returned⟩
    · cases mem
  · cases mem

/-- A group follows a rule if its branches fit. -/
theorem follows_of_kindOf {kind : GroupKind} {code : Kind} {room last id : Nat} {again : Again}
    {branches : List (List Node)} (eq : kindOf b kind = .ok (code, room, last))
    (fits : ∀ nodes ∈ branches, Fits (r.under (isAssertion kind)) kind nodes) :
    (Node.group code id again branches).Follows r := by
  have looks := looksFollow_iff.mpr fun nodes mem => (fits nodes mem).1
  have plain : ¬ GroupKind.IsBehind kind → BranchesFollow (r.under (isAssertion kind)) branches :=
    fun no => branchesFollow_iff.mpr fun nodes mem => (fits nodes mem).2 no
  cases kind with
  | behind negated atomic =>
      cases eq
      exact looks
  | ahead negated atomic =>
      cases eq
      exact looks
  | scan groups =>
      have plain := plain (by rintro ⟨_, _, no⟩; cases no)
      unfold kindOf at eq
      dsimp only at eq
      generalize (groups.mapM fun g => b.resolve g.1 g.2) = resolved at eq
      cases resolved with
      | error fault => cases eq
      | ok groups =>
          cases eq
          exact plain
  | _ =>
      have plain := plain (by rintro ⟨_, _, no⟩; cases no)
      cases eq
      exact plain

/-- What a rule asks of a simple item.  In an assertion, moving the start is refused anyway. -/
def Allowed (r : Rule) : Expr → Prop
  | .keep => r.keep
  | .call _ _ _ => r.call
  | _ => True

/-- A rule that allows everything asks nothing of an item. -/
theorem allowed_free (e : Expr) : Allowed .free e := by
  cases e <;> trivial

/-- No single bytes are taken. -/
def NoByte (e : Expr) : Prop := e ≠ .test .byte

mutual

/-- **The code of an item follows every rule that allows the item**, and single bytes are only taken
where the item asks for them. -/
theorem sound_item (b : Blueprint) : ∀ (e : Expr) (s : Surroundings) (d : Draft)
    (quantified : Bool) (a : Assembly), e.All (Allowed r) →
      Yields (item b s d quantified e) a fun p a' =>
        NodesFollow (r.under s.inAssertion) p.nodes ∧ (e.All NoByte → a'.bytes = a.bytes)
  | .literal c casing, s, d, quantified, a, allowed => by
      unfold item
      exact (sound_literal _).mono fun _ _ sound => ⟨sound.1, fun _ => sound.2⟩
  | .test t, s, d, quantified, a, allowed => by
      unfold item
      extract_lets t' width
      have follows : NodesFollow (r.under s.inAssertion) [.one t'] := ⟨trivial, trivial⟩
      cases t with
      | byte =>
          exact .bind (P := fun _ _ => True) (.modify trivial) fun _ a' _ =>
            .pure ⟨follows, fun none => absurd rfl none⟩
      | property p negated =>
          cases p <;> cases negated <;> exact .pure ⟨follows, fun _ => rfl⟩
      | _ => exact .pure ⟨follows, fun _ => rfl⟩
  | .charClass tree casing, s, d, quantified, a, allowed => by
      unfold item
      exact (sound_charClass _ _).mono fun _ _ sound => ⟨sound.1, fun _ => sound.2⟩
  | .emptyClass negated, s, d, quantified, a, allowed => by
      unfold item
      split_ifs
      · exact .pure ⟨⟨trivial, trivial⟩, fun _ => rfl⟩
      · exact .pure ⟨⟨trivial, trivial⟩, fun _ => rfl⟩
  | .point p, s, d, quantified, a, allowed => by
      unfold item
      exact (sound_point _).mono fun _ _ sound => ⟨sound.1, fun _ => sound.2⟩
  | .keep, s, d, quantified, a, allowed => by
      unfold item
      split_ifs with inside
      · exact .throw
      · rw [Bool.eq_false_iff.mpr inside]
        exact .pure ⟨⟨allowed, trivial⟩, fun _ => rfl⟩
  | .backref group casing place offset, s, d, quantified, a, allowed => by
      unfold item
      exact (sound_backref _ _ _).mono fun _ _ sound => ⟨sound.1, fun _ => sound.2⟩
  | .call group place offset, s, d, quantified, a, allowed => by
      unfold item
      have call : (r.under s.inAssertion).call := by
        rw [Rule.under_call]
        exact allowed
      exact (sound_call call _ _).mono fun _ _ sound => ⟨sound.1, fun _ => sound.2⟩
  | .verb v name, s, d, quantified, a, allowed => by
      unfold item
      exact (sound_verb _ _).mono fun _ _ sound => ⟨sound.1, fun _ => sound.2⟩
  | .accept, s, d, quantified, a, allowed => by
      unfold item
      exact .bind (P := Same a) (.modify rfl) fun _ a' same =>
        .pure ⟨⟨trivial, trivial⟩, fun _ => same⟩
  | .fail, s, d, quantified, a, allowed => by
      unfold item
      exact .pure ⟨⟨trivial, trivial⟩, fun _ => rfl⟩
  | .callout width, s, d, quantified, a, allowed => by
      unfold item
      exact .pure ⟨trivial, fun _ => rfl⟩
  | .group kind start stop offset branches, s, d, quantified, a, allowed => by
      unfold item
      refine .bind (P := Same a) (.get rfl) fun _ a' same => ?_
      split
      · rename_i condition
        refine .bind (P := Same a) (.lift fun _ _ => same) fun _ a' same => ?_
        refine (sound_bodyOf b branches _ [] _ a' allowed (P := NodesFollow (r.under s.inAssertion))
          (fun _ follows => follows) (by simp) (by simp)).bind fun g a'' sound => ?_
        refine (sound_conditional _ _ _ _ sound.1).mono fun p a''' again =>
          ⟨again.1, fun none => ?_⟩
        exact (again.2.trans (sound.2 none)).trans same
      · extract_lets vary emptyAhead
        split
        · exact .pure ⟨⟨trivial, trivial⟩, fun _ => same⟩
        · refine .bind (P := fun v a' => kindOf b kind = .ok v ∧ a'.bytes = a.bytes)
            (.lift fun v eq => ⟨eq, same⟩) fun v a' known => ?_
          obtain ⟨code, room, last⟩ := v
          refine .bind (P := Same a) (.modifyGet known.2) fun id a' same => ?_
          refine (sound_bodyOf b branches _ _ _ a' allowed
            (P := Fits ((r.under s.inAssertion).under (isAssertion kind)) kind)
            (fun _ follows => ?_) (fun back mem nodes follows => ?_)
            (by simp)).bind fun g a'' sound => ?_
          · rw [Rule.under_under]
            exact fits_of_follows follows
          · rw [Rule.under_under]
            exact fits_backs mem follows
          · exact .pure ⟨follows_group (follows_of_kindOf known.1 sound.1),
              fun none => (sound.2 none).trans same⟩
  | .repeated e min max greed, s, d, quantified, a, allowed => by
      unfold item
      refine (sound_item b e s d true a allowed).bind fun p a' sound => ?_
      refine (sound_repeated sound.1 min max greed).mono fun q a'' again => ?_
      exact ⟨again.1, fun none => again.2.trans (sound.2 none)⟩

/-- The code of a branch follows them, too. -/
theorem sound_itemsOf (b : Blueprint) : ∀ (items : List Expr) (s : Surroundings) (before : Nat)
    (d : Draft) (a : Assembly), ItemsAll (Allowed r) items →
      NodesFollow (r.under s.inAssertion) d.nodes →
      Yields (itemsOf b s before d items) a fun d' a' =>
        NodesFollow (r.under s.inAssertion) d'.nodes ∧ (ItemsAll NoByte items → a'.bytes = a.bytes)
  | [], s, before, d, a, _, follows => by
      unfold itemsOf
      exact .pure ⟨follows, fun _ => rfl⟩
  | e :: rest, s, before, d, a, allowed, follows => by
      unfold itemsOf
      refine (sound_item b e s d false a allowed.1).bind fun p a' sound => ?_
      extract_lets accepts added
      have follows' : NodesFollow (r.under s.inAssertion) added.nodes := by
        rw [show added.nodes = p.nodes.reverse ++ d.nodes from List.reverseAux_eq,
          nodesFollow_append]
        exact ⟨nodesFollow_reverse sound.1, follows⟩
      have more := (sound_itemsOf b rest s before added a' allowed.2 follows').mono
        fun d' a'' (again : NodesFollow (r.under s.inAssertion) d'.nodes ∧ _) =>
          (⟨again.1, fun none => (again.2 none.2).trans (sound.2 none.1)⟩ :
            NodesFollow (r.under s.inAssertion) d'.nodes ∧
              (ItemsAll NoByte (e :: rest) → a''.bytes = a.bytes))
      split_ifs
      · exact .bind (P := fun _ _ => False) .throw fun _ _ no => no.elim
      · exact more

/-- So does the code of the branches of a group, apart from what makes them go back. -/
theorem sound_bodyOf (b : Blueprint) {P : List Node → Prop} : ∀ (branches : List (List Expr))
    (s : Surroundings) (backs : List (List Node × List Node × Nat)) (g : Group) (a : Assembly),
      BranchesAll (Allowed r) branches →
      (∀ nodes, NodesFollow (r.under s.inAssertion) nodes → P nodes) →
      (∀ back ∈ backs, ∀ nodes, NodesFollow (r.under s.inAssertion) nodes →
        P (back.1 ++ nodes ++ back.2.1)) →
      (∀ nodes ∈ g.branches, P nodes) →
      Yields (bodyOf b s backs branches g) a fun g' a' =>
        (∀ nodes ∈ g'.branches, P nodes) ∧ (BranchesAll NoByte branches → a'.bytes = a.bytes)
  | [], s, backs, g, a, _, plain, around, follows => by
      unfold bodyOf
      exact .pure ⟨fun nodes mem => follows nodes (List.mem_reverse.mp mem), fun _ => rfl⟩
  | items :: rest, s, backs, g, a, allowed, plain, around, follows => by
      unfold bodyOf
      extract_lets isFirst
      refine (sound_itemsOf b items s _ .empty a allowed.1 trivial).bind fun d a' sound => ?_
      have whole : ∀ back : List Node × List Node × Nat,
          back = backs.headD ([], [], 0) → P (back.1 ++ d.nodes.reverse ++ back.2.1) := by
        intro back head
        have reversed := nodesFollow_reverse sound.1
        cases backs with
        | nil =>
            subst head
            simpa using plain _ reversed
        | cons first more =>
            subst head
            exact around _ (List.mem_cons_self ..) _ reversed
      refine (sound_bodyOf b rest s backs.tail _ a' allowed.2 plain
        (fun back mem => around back (List.mem_of_mem_tail mem)) ?_).mono fun g' a'' again =>
          ⟨again.1, fun none => (again.2 none.2).trans (sound.2 none.1)⟩
      intro nodes mem
      rcases List.mem_cons.mp mem with rfl | mem
      · exact whole _ rfl
      · exact follows nodes mem

end

end Assembling

/-- **The code of a pattern follows every rule that allows its items**, and single bytes are only
taken where one of them asks for it. -/
theorem sound_assemble {b : Blueprint} {farthest : Nat} {g : Group} {a : Assembly}
    (eq : assemble b farthest = .ok (g, a)) :
    (∀ r, BranchesAll (Assembling.Allowed r) b.pattern.branches → BranchesFollow r g.branches) ∧
      (BranchesAll Assembling.NoByte b.pattern.branches → a.bytes = false) := by
  unfold assemble at eq
  extract_lets start scope empty at eq
  generalize run :
    (Assembling.bodyOf b ⟨false, scope⟩ [] b.pattern.branches empty).run start = result at eq
  cases result with
  | error fault => cases eq
  | ok result =>
      obtain ⟨g', a'⟩ := result
      have sound : ∀ r, BranchesAll (Assembling.Allowed r) b.pattern.branches → _ :=
        fun r allowed =>
          Assembling.sound_bodyOf b b.pattern.branches ⟨false, scope⟩ [] empty start allowed
            (P := NodesFollow r) (fun _ follows => follows) (by simp) (by simp [empty]) g' a' run
      dsimp only [bind, Except.bind] at eq
      split_ifs at eq
      split at eq
      · cases eq
      · cases eq
        refine ⟨fun r allowed => branchesFollow_iff.mpr (sound r allowed).1, ?_⟩
        exact (sound .free (branchesAll_of_forall Assembling.allowed_free _)).2

end Regex.Code
