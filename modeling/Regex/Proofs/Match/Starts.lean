import Regex.Proofs.Code.Steady
import Regex.Proofs.Match.Order

/-!
# Where a match starts

A match starts where matching started, unless its start has been moved.  Moved to the place that
matching has come to, it lies before the end of the match, as long as matching does not go back to
some place before it.  It does go back at the end of an assertion: so the start of a match is in
order exactly as far as no assertion that can hold moves it.

* `scopeOf`: what becomes of the start if it is moved inside some frames.
* `Starts`: the start of a match lies where matching started or after it, and not beyond the place
  that matching is going to go back to.
* `State.Steady.move`: every move keeps this, in code that does not move the start in assertions.
* `Context.run_steady`: so a match of such code does not end before it starts.
-/

namespace Regex.Match

open Chars Code Syntax

theorem eq_moot_of_within {scope : Scope} {kind : Kind} (moot : scope.within kind = .moot) :
    scope = .moot ∨ kind.isNegative = true := by
  cases scope with
  | moot => exact Or.inl rfl
  | _ =>
      cases kind with
      | ahead negated atomic => cases negated <;> first | exact Or.inr rfl | cases moot
      | behind negated atomic => cases negated <;> first | exact Or.inr rfl | cases moot
      | _ => cases moot

theorem eq_forward_of_within {scope : Scope} {kind : Kind}
    (forward : scope.within kind = .forward) : scope = .forward ∧ kind.isLook = false := by
  cases scope with
  | forward =>
      cases kind with
      | ahead negated atomic => cases negated <;> cases forward
      | behind negated atomic => cases negated <;> cases forward
      | scan groups => cases forward
      | _ => exact ⟨rfl, rfl⟩
  | _ =>
      cases kind with
      | ahead negated atomic => cases negated <;> cases forward
      | behind negated atomic => cases negated <;> cases forward
      | _ => cases forward

theorem within_eq (scope : Scope) {kind : Kind} (noLook : kind.isLook = false) :
    scope.within kind = scope ∨ scope.within kind = .look := by
  cases kind with
  | ahead negated atomic => simp [Kind.isLook] at noLook
  | behind negated atomic => simp [Kind.isLook] at noLook
  | scan groups => cases scope <;> first | exact Or.inl rfl | exact Or.inr rfl
  | _ => cases scope <;> exact Or.inl rfl

/-- What becomes of the start of a match if it is moved inside some frames. -/
def scopeOf : List Frame → Scope
  | [] => .forward
  | .group kind _ _ _ _ _ :: frames => (scopeOf frames).within kind
  | .condition _ _ _ _ _ _ :: _ => .moot
  | .call _ _ _ _ _ _ _ :: frames => scopeOf frames
  | .scan _ _ _ _ :: frames => (scopeOf frames).within (.scan [])

/-- Whether the start of a match lies where it must, when the frames around it are left. -/
def Starts (first keep place : Nat) : List Frame → Prop
  | [] => first ≤ keep ∧ keep ≤ place
  | .group kind _ _ start _ _ :: frames =>
    kind.isNegative = true ∨ Starts first keep (if kind.isLook then start else place) frames
  | .condition _ start keep _ _ _ :: frames => Starts first keep start frames
  | .call _ _ _ _ _ _ _ :: frames => Starts first keep place frames
  | .scan _ start _ _ :: frames => Starts first keep start frames

/-- The code in some frames does not move the start of a match where matching goes back. -/
def FramesSteady (still : Nat → Prop) : List Frame → Prop
  | [] => True
  | .group _ _ node _ _ after :: frames =>
    node.Steady still (scopeOf frames) ∧ NodesSteady still (scopeOf frames) after ∧
      FramesSteady still frames
  | .condition _ _ _ _ yes no :: frames =>
    NodesSteady still (scopeOf frames) yes ∧ NodesSteady still (scopeOf frames) no ∧
      FramesSteady still frames
  | .call _ _ _ _ _ _ after :: frames | .scan _ _ _ after :: frames =>
    NodesSteady still (scopeOf frames) after ∧ FramesSteady still frames

namespace Starts

variable {first keep place : Nat} {frames : List Frame}

theorem mono {later : Nat} (starts : Starts first keep place frames) (le : place ≤ later) :
    Starts first keep later frames := by
  induction frames generalizing place later with
  | nil => exact ⟨starts.1, starts.2.trans le⟩
  | cons frame frames ih =>
      cases frame with
      | group kind again node start base after =>
          refine starts.imp_right fun starts => ?_
          split_ifs at starts ⊢
          · exact starts
          · exact ih starts le
      | condition negated start keep base yes no => exact starts
      | call number captures calling start last base after => exact ih starts le
      | scan region start base after => exact starts

/-- A group that is no assertion is left where it ends. -/
theorem leave {kind : Kind} {again : Again} {node : Node} {start base : Nat} {after : List Node}
    (starts : Starts first keep place (.group kind again node start base after :: frames))
    (noLook : kind.isLook = false) : Starts first keep place frames := by
  rcases starts with negative | starts
  · cases kind <;> simp_all [Kind.isLook, Kind.isNegative]
  · simpa only [noLook, Bool.false_eq_true, if_false] using starts

/-- Inside an assertion the place plays no part. -/
theorem anywhere (look : InLook frames) (starts : Starts first keep place frames) (other : Nat) :
    Starts first keep other frames := by
  match frames with
  | .group kind _ _ _ _ _ :: _ =>
      have isLook : kind.isLook = true := look
      simpa only [Starts, isLook, if_true] using starts
  | .condition _ _ _ _ _ _ :: _ => exact starts

/-- Where the start is given up, it plays no part. -/
theorem moot (scope : scopeOf frames = .moot) (starts : Starts first keep place frames)
    (other : Nat) : Starts first other place frames := by
  induction frames generalizing place with
  | nil => cases scope
  | cons frame frames ih =>
      cases frame with
      | group kind again node start base after =>
          rcases starts with negative | starts
          · exact Or.inl negative
          · rcases eq_moot_of_within scope with scope | negative
            · exact Or.inr (ih scope starts)
            · exact Or.inl negative
      | condition negated start keep base yes no => exact starts
      | call number captures calling start last base after => exact ih scope starts
      | scan region start base after =>
          rcases eq_moot_of_within scope with scope | negative
          · exact ih scope starts
          · cases negative

/-- Outside all assertions the start can be moved to the place that matching has come to. -/
theorem here (scope : scopeOf frames = .forward) (inside : Inside first place frames) :
    Starts first place place frames := by
  induction frames generalizing place with
  | nil => exact ⟨inside, le_rfl⟩
  | cons frame frames ih =>
      cases frame with
      | group kind again node start base after =>
          obtain ⟨scope, noLook⟩ := eq_forward_of_within scope
          refine Or.inr ?_
          rw [noLook, if_neg Bool.false_ne_true]
          exact ih scope (inside.2.mono (inside.1 noLook))
      | condition negated start keep base yes no => cases scope
      | call number captures calling start last base after => exact ih scope inside
      | scan region start base after =>
          generalize eq : scopeOf frames = outer at scope
          simp only [scopeOf, eq] at scope
          cases outer <;> cases scope

end Starts

/-- A state in order whose start lies where it must, in code that does not move it in assertions. -/
structure State.Steady (still : Nat → Prop) (first : Nat) (s : State) : Prop where
  orderly : s.Orderly first
  todo : NodesSteady still (scopeOf s.frames) s.todo
  frames : FramesSteady still s.frames
  starts : Starts first s.keep s.place s.frames

namespace State.Steady

variable {ctx : Context} {still : Nat → Prop} {first : Nat} {s s' : State}

/-- The next node of a branch, and what follows it. -/
theorem node {node : Node} {after : List Node} (steady : s.Steady still first)
    (todo : s.todo = node :: after) :
    node.Steady still (scopeOf s.frames) ∧ NodesSteady still (scopeOf s.frames) after := by
  have nodes := steady.todo
  rw [todo] at nodes
  exact nodes

/-- What is known of the innermost frame and of those around it. -/
theorem pop {frames : List Frame} (steady : s.Steady still first) (around : s.frames = frames) :
    FramesSteady still frames ∧ Starts first s.keep s.place frames := by
  subst around
  exact ⟨steady.frames, steady.starts⟩

/-- The branches of a called group. -/
theorem called {scope : Scope} {number : Nat} {code : GroupCode}
    (free : BranchesSteady still .forward code.branches)
    (held : still number → BranchesSteady still .look code.branches)
    (allowed : scope = .look → still number) : BranchesSteady still scope code.branches := by
  cases scope with
  | forward => exact free
  | look => exact held (allowed rfl)
  | moot => exact branchesSteady_moot _

/-- **Every move keeps the start of a match in order**, in code that does not move it in
assertions. -/
theorem move (table : ctx.groups.Placed)
    (groups : ∀ (n : Nat) (code : GroupCode), (ctx.groups[n]?).join = some code →
      BranchesSteady still .forward code.branches ∧
        (still n → BranchesSteady still .look code.branches))
    (steady : s.Steady still first) (m : Move ctx s s') : s'.Steady still first := by
  have orderly := steady.orderly.move table m
  cases m with
  | take todo item le =>
      exact ⟨orderly, (steady.node todo).2, steady.frames, steady.starts.mono le⟩
  | keep todo =>
      obtain ⟨allowed, after⟩ := steady.node todo
      refine ⟨orderly, after, steady.frames, ?_⟩
      -- in an assertion that can hold, the code is not allowed to move the start
      cases scope : scopeOf s.frames with
      | forward => exact Starts.here scope steady.orderly.inside
      | look => exact absurd scope allowed
      | moot => exact steady.starts.moot scope s.place
  | back place todo =>
      exact ⟨orderly, (steady.node todo).2, steady.frames,
        steady.starts.anywhere (steady.orderly.look todo) place⟩
  | leaveOut todo => exact ⟨orderly, (steady.node todo).2, steady.frames, steady.starts⟩
  | putIn todo =>
      obtain ⟨item, after⟩ := steady.node todo
      rw [Node.Steady] at item
      exact ⟨orderly, ⟨item, after⟩, steady.frames, steady.starts⟩
  | @enter kind id again branches after branch base todo mem =>
      obtain ⟨node, after⟩ := steady.node todo
      refine ⟨orderly, ?_, ⟨node, after, steady.frames⟩, Or.inr ?_⟩
      · rw [Node.Steady] at node
        exact branchesSteady_iff.mp node branch mem
      · simpa using steady.starts
  | enterScan base todo found mem =>
      obtain ⟨node, after⟩ := steady.node todo
      rw [Node.Steady] at node
      refine ⟨orderly, ?_, ⟨after, steady.frames⟩, steady.starts⟩
      have within : ∀ (scope : Scope) (groups : List Nat),
          scope.within (.scan groups) = scope.within (.scan []) := by
        intro scope groups
        cases scope <;> rfl
      rw [within] at node
      exact branchesSteady_iff.mp node _ mem
  | refuse todo negative => exact ⟨orderly, (steady.node todo).2, steady.frames, steady.starts⟩
  | enterCall last base todo found mem =>
      obtain ⟨allowed, after⟩ := steady.node todo
      obtain ⟨free, held⟩ := groups _ _ found
      exact ⟨orderly, branchesSteady_iff.mp (called free held allowed) _ mem,
        ⟨after, steady.frames⟩, steady.starts⟩
  | decide base todo choice =>
      obtain ⟨node, after⟩ := steady.node todo
      refine ⟨orderly, ?_, ⟨node, after, steady.frames⟩, Or.inr ?_⟩
      · rw [scopeOf, Scope.within_plain]
        rcases choice with rfl | rfl
        · exact node.1
        · exact node.2
      · simpa using steady.starts
  | ask base todo mem =>
      obtain ⟨node, after⟩ := steady.node todo
      refine ⟨orderly, branchesSteady_iff.mp node.1 _ mem, ?_, Or.inr ?_⟩
      · rw [FramesSteady, scopeOf, Scope.within_plain]
        exact ⟨node.2.1, node.2.2, node, after, steady.frames⟩
      · simpa using steady.starts
  | answer base todo choice =>
      obtain ⟨node, after⟩ := steady.node todo
      refine ⟨orderly, ?_, ⟨node, after, steady.frames⟩, Or.inr ?_⟩
      · rw [scopeOf, Scope.within_plain]
        rcases choice with rfl | rfl
        · exact node.2.1
        · exact node.2.2
      · simpa using steady.starts
  | leave done around noLook next =>
      obtain ⟨⟨node, after, rest⟩, starts⟩ := steady.pop around
      refine ⟨orderly, ?_, rest, starts.leave noLook⟩
      rcases next with rfl | rfl
      · exact after
      · exact ⟨node, after⟩
  | leaveLook ends around look positive =>
      obtain ⟨⟨_, after, rest⟩, starts⟩ := steady.pop around
      refine ⟨orderly, after, rest, ?_⟩
      rcases starts with negative | starts
      · rw [positive] at negative
        cases negative
      · simpa only [look, if_true] using starts
  | leaveCondition ends around next =>
      obtain ⟨⟨yes, no, rest⟩, starts⟩ := steady.pop around
      refine ⟨orderly, ?_, rest, starts⟩
      rcases next with rfl | rfl
      · exact yes
      · exact no
  | leaveCall ends around =>
      obtain ⟨⟨after, rest⟩, starts⟩ := steady.pop around
      exact ⟨orderly, after, rest, starts⟩
  | leaveScan ends around =>
      obtain ⟨⟨after, rest⟩, starts⟩ := steady.pop around
      exact ⟨orderly, after, rest, starts⟩
  | @close kind again node start base rest after frames captures verb around noLook _ =>
      obtain ⟨⟨_, _, rest⟩, starts⟩ := steady.pop around
      refine ⟨orderly, ?_, rest, starts.leave noLook⟩
      have todo := steady.todo
      rw [around, scopeOf] at todo
      -- inside the group the code may have been held to more than outside
      rcases within_eq (scopeOf frames) noLook with same | look
      · rwa [same] at todo
      · rw [look] at todo
        exact nodesSteady_loosen _ todo

end State.Steady

/-- **A match of code that does not move its start in assertions starts where matching started or
after it, and does not end before its start.** -/
theorem Context.run_steady {ctx : Context} (table : ctx.groups.Placed) (steady : ctx.groups.Steady)
    {place : Nat} {region : Region} :
    (ctx.run place region).1.All ctx fun s => place ≤ s.keep ∧ s.keep ≤ s.place := by
  obtain ⟨still, groups⟩ := steady
  have all : (ctx.run place region).1.All ctx (State.Steady still place) :=
    (run_kept (fun steady m => steady.move table groups m) fun code found b mem =>
      ⟨⟨Or.inl (branchesFollow_iff.mp (table 0 code found) b mem), by simp [begins], le_rfl,
        Ordered.replicate _⟩, branchesSteady_iff.mp (groups 0 code found).1 b mem, trivial,
        le_rfl, le_rfl⟩).1
  cases outcome : (ctx.run place region).1 with
  | matched s =>
      rw [outcome] at all
      obtain ⟨here, out, ends⟩ := all
      have starts := here.starts
      rw [out] at starts
      exact ⟨starts, out, ends⟩
  | partialMatch =>
      rw [outcome] at all
      exact all
  | _ => trivial

end Regex.Match
