import Regex.Proofs.Code.Placement
import Regex.Proofs.Match.Moves

/-!
# Ranges in order

Matching goes back only inside an assertion, which is left at the place where it was entered.  So at
each level of nesting the place lies at or after the one at which that level was entered, and what a
group has matched ends at or after its start.

* `Inside`: the place of a state lies where the groups around it allow it to be.
* `State.Orderly`: that, ordered captures, and code in which only lookbehinds go back.
* `State.Orderly.move`: every move keeps it.
* `Context.run_orderly`: a match ends at or after its first place, with ordered captures.
-/

namespace Regex.Match

open Chars Code Syntax

/-- Captures whose ends do not lie before their starts. -/
def Ordered (captures : Array (Option Span)) : Prop :=
  ∀ span, some span ∈ captures → span.start ≤ span.stop

namespace Ordered

variable {captures : Array (Option Span)}

theorem replicate (n : Nat) : Ordered (Array.replicate n none) := by
  intro span mem
  simp [Array.mem_replicate] at mem

theorem capture (ordered : Ordered captures) {number start stop : Nat} (le : start ≤ stop) :
    Ordered (Context.capture captures number start stop) := by
  intro span mem
  obtain ⟨i, bound, eq⟩ := Array.mem_iff_getElem.mp mem
  have inside : i < captures.size := by simpa [Context.capture] using bound
  simp only [Context.capture, Array.getElem_setIfInBounds inside] at eq
  split_ifs at eq
  · obtain rfl := Option.some_inj.mp eq
    exact le
  · exact ordered span (eq ▸ Array.getElem_mem _)

theorem capturesAfter (ordered : Ordered captures) {kind : Kind} {start stop : Nat}
    (le : start ≤ stop) : Ordered (capturesAfter kind captures start stop) := by
  unfold Match.capturesAfter
  split
  · exact ordered.capture le
  · exact ordered

end Ordered

/-- Placed code in a frame, and ordered captures to return to. -/
def Frame.Orderly : Frame → Prop
  | .group _ _ node _ _ after => node.Placed ∧ NodesPlaced after
  | .condition _ _ _ _ yes no => NodesPlaced yes ∧ NodesPlaced no
  | .call _ captures _ _ _ _ after => NodesPlaced after ∧ Ordered captures
  | .scan _ _ _ after => NodesPlaced after

/-- Whether `place` is where the groups around it allow it to be, in a match whose first place is
`first`.  Inside an assertion it can be anywhere; but where the assertion was entered, and where it
is left, must again be such a place. -/
def Inside (first place : Nat) : List Frame → Prop
  | [] => first ≤ place
  | .group kind _ _ start _ _ :: frames =>
    (kind.isLook = false → start ≤ place) ∧ Inside first start frames
  | .condition _ start _ _ _ _ :: frames => Inside first start frames
  | .call _ _ _ _ _ _ _ :: frames => Inside first place frames
  | .scan _ start _ _ :: frames => Inside first start frames

theorem Inside.mono {first place later : Nat} {frames : List Frame}
    (inside : Inside first place frames) (le : place ≤ later) : Inside first later frames := by
  induction frames with
  | nil => exact inside.trans le
  | cons frame frames ih =>
      cases frame with
      | group kind again node start base after =>
          exact ⟨fun noLook => (inside.1 noLook).trans le, inside.2⟩
      | condition negated start keep base yes no => exact inside
      | call number captures calling start last base after => exact ih inside
      | scan region start base after => exact inside

/-- Whether the innermost frame is an assertion. -/
def InLook : List Frame → Prop
  | .group kind _ _ _ _ _ :: _ => kind.isLook
  | .condition _ _ _ _ _ _ :: _ => True
  | _ => False

/-- In an assertion any place is allowed. -/
theorem Inside.anywhere {first place : Nat} {frames : List Frame} (look : InLook frames)
    (inside : Inside first place frames) (other : Nat) : Inside first other frames := by
  match frames with
  | .group kind _ _ _ _ _ :: _ =>
      have isLook : kind.isLook = true := look
      refine ⟨fun noLook => ?_, inside.2⟩
      rw [isLook] at noLook
      cases noLook
  | .condition _ _ _ _ _ _ :: _ => exact inside

/-- A state that is inside the groups around it, with ordered captures and placed code. -/
structure State.Orderly (first : Nat) (s : State) : Prop where
  /-- Only a branch of an assertion can start by going back. -/
  todo : NodesPlaced s.todo ∨ (LookPlaced s.todo ∧ InLook s.frames)
  frames : ∀ f ∈ s.frames, f.Orderly
  inside : Inside first s.place s.frames
  captures : Ordered s.captures

namespace State.Orderly

variable {ctx : Context} {first : Nat} {s s' : State}

/-- The next node of a branch is placed, unless it goes back. -/
theorem placed {node : Node} {after : List Node} (orderly : s.Orderly first)
    (todo : s.todo = node :: after) :
    (node.Placed ∨ (node.IsBack ∧ InLook s.frames)) ∧ NodesPlaced after := by
  rcases orderly.todo with placed | ⟨placed, look⟩
  · rw [todo] at placed
    exact ⟨Or.inl placed.1, placed.2⟩
  · rw [todo] at placed
    exact ⟨placed.1.imp_right fun back => ⟨back, look⟩, placed.2⟩

/-- What follows a node is placed. -/
theorem after {node : Node} {after : List Node} (orderly : s.Orderly first)
    (todo : s.todo = node :: after) : NodesPlaced after :=
  (orderly.placed todo).2

/-- A node that does not go back is placed. -/
theorem node {node : Node} {after : List Node} (orderly : s.Orderly first)
    (todo : s.todo = node :: after) (noBack : ¬node.IsBack) : node.Placed := by
  rcases (orderly.placed todo).1 with placed | ⟨back, _⟩
  · exact placed
  · exact absurd back noBack

/-- Code goes back in an assertion only. -/
theorem look {least greatest : Nat} {after : List Node} (orderly : s.Orderly first)
    (todo : s.todo = .back least greatest :: after) : InLook s.frames := by
  rcases (orderly.placed todo).1 with placed | ⟨_, look⟩
  · exact absurd placed (by simp [Node.Follows])
  · exact look

/-- What is known of the innermost frame and of those around it. -/
theorem pop {frame : Frame} {frames : List Frame} (orderly : s.Orderly first)
    (around : s.frames = frame :: frames) :
    frame.Orderly ∧ (∀ f ∈ frames, f.Orderly) ∧ Inside first s.place (frame :: frames) := by
  have all := orderly.frames
  have inside := orderly.inside
  rw [around] at all inside
  exact ⟨all frame (by simp), fun f mem => all f (List.mem_cons_of_mem _ mem), inside⟩

/-- **Every move keeps ranges in order.** -/
theorem move (table : ctx.groups.Placed) (orderly : s.Orderly first) (m : Move ctx s s') :
    s'.Orderly first := by
  cases m with
  | take todo item le =>
      exact ⟨Or.inl (orderly.after todo), orderly.frames, orderly.inside.mono le, orderly.captures⟩
  | keep todo =>
      exact ⟨Or.inl (orderly.after todo), orderly.frames, orderly.inside, orderly.captures⟩
  | back place todo =>
      exact ⟨Or.inl (orderly.after todo), orderly.frames,
        orderly.inside.anywhere (orderly.look todo) place, orderly.captures⟩
  | leaveOut todo =>
      exact ⟨Or.inl (orderly.after todo), orderly.frames, orderly.inside, orderly.captures⟩
  | putIn todo =>
      have placed := orderly.node todo (by simp [Node.IsBack])
      exact ⟨Or.inl ⟨placed, orderly.after todo⟩, orderly.frames, orderly.inside,
        orderly.captures⟩
  | @enter kind id again branches after branch base todo mem =>
      have placed := orderly.node todo (by simp [Node.IsBack])
      have frame : Frame.Orderly (.group kind again (.group kind id again branches) s.place base
          after) := ⟨placed, orderly.after todo⟩
      refine ⟨?_, List.forall_mem_cons.mpr ⟨frame, orderly.frames⟩, ⟨fun _ => le_rfl,
        orderly.inside⟩, orderly.captures⟩
      cases kind with
      | ahead negated atomic => exact Or.inr ⟨looksFollow_iff.mp placed branch mem, rfl⟩
      | behind negated atomic => exact Or.inr ⟨looksFollow_iff.mp placed branch mem, rfl⟩
      | _ => exact Or.inl (branchesFollow_iff.mp placed branch mem)
  | enterScan base todo found mem =>
      have placed := orderly.node todo (by simp [Node.IsBack])
      exact ⟨Or.inl (branchesFollow_iff.mp placed _ mem),
        List.forall_mem_cons.mpr ⟨orderly.after todo, orderly.frames⟩, orderly.inside,
        orderly.captures⟩
  | refuse todo negative =>
      exact ⟨Or.inl (orderly.after todo), orderly.frames, orderly.inside, orderly.captures⟩
  | enterCall last base todo found mem =>
      exact ⟨Or.inl (branchesFollow_iff.mp (table _ _ found) _ mem),
        List.forall_mem_cons.mpr ⟨⟨orderly.after todo, orderly.captures⟩, orderly.frames⟩,
        orderly.inside, orderly.captures⟩
  | decide base todo choice =>
      have placed := orderly.node todo (by simp [Node.IsBack])
      refine ⟨Or.inl ?_, List.forall_mem_cons.mpr ⟨⟨placed, orderly.after todo⟩, orderly.frames⟩,
        ⟨fun _ => le_rfl, orderly.inside⟩, orderly.captures⟩
      rcases choice with rfl | rfl
      · exact placed.1
      · exact placed.2
  | ask base todo mem =>
      have placed := orderly.node todo (by simp [Node.IsBack])
      exact ⟨Or.inr ⟨looksFollow_iff.mp placed.1 _ mem, trivial⟩,
        List.forall_mem_cons.mpr ⟨placed.2, List.forall_mem_cons.mpr
          ⟨⟨placed, orderly.after todo⟩, orderly.frames⟩⟩,
        ⟨fun _ => le_rfl, orderly.inside⟩, orderly.captures⟩
  | answer base todo choice =>
      have placed := orderly.node todo (by simp [Node.IsBack])
      refine ⟨Or.inl ?_, List.forall_mem_cons.mpr ⟨⟨placed, orderly.after todo⟩, orderly.frames⟩,
        ⟨fun _ => le_rfl, orderly.inside⟩, orderly.captures⟩
      rcases choice with rfl | rfl
      · exact placed.2.1
      · exact placed.2.2
  -- a group is left after the place where it was entered, so its range is in order
  | leave done around noLook next =>
      obtain ⟨frame, frames, inside⟩ := orderly.pop around
      have le := inside.1 noLook
      refine ⟨Or.inl ?_, frames, inside.2.mono le, orderly.captures.capturesAfter le⟩
      rcases next with rfl | rfl
      · exact frame.2
      · exact frame
  | leaveLook ends around look positive =>
      obtain ⟨frame, frames, inside⟩ := orderly.pop around
      exact ⟨Or.inl frame.2, frames, inside.2, orderly.captures⟩
  | leaveCondition ends around next =>
      obtain ⟨frame, frames, inside⟩ := orderly.pop around
      refine ⟨Or.inl ?_, frames, inside, orderly.captures⟩
      rcases next with rfl | rfl
      · exact frame.1
      · exact frame.2
  | leaveCall ends around =>
      obtain ⟨frame, frames, inside⟩ := orderly.pop around
      exact ⟨Or.inl frame.1, frames, inside, frame.2⟩
  | leaveScan ends around =>
      obtain ⟨frame, frames, inside⟩ := orderly.pop around
      exact ⟨Or.inl frame, frames, inside, orderly.captures⟩
  | close verb around noLook captures =>
      obtain ⟨frame, frames, inside⟩ := orderly.pop around
      have le := inside.1 noLook
      refine ⟨Or.inl ?_, frames, inside.2.mono le, ?_⟩
      · rw [verb]
        exact ⟨orderly.node verb (by simp [Node.IsBack]), orderly.after verb⟩
      · rcases captures with rfl | rfl
        · exact orderly.captures
        · exact orderly.captures.capturesAfter le

end State.Orderly

/-- **A match ends at or after its first place, with ordered captures.** -/
theorem Context.run_orderly {ctx : Context} (table : ctx.groups.Placed) {place : Nat}
    {region : Region} :
    (ctx.run place region).1.All ctx (State.Orderly place) ∧
      (ctx.run place region).2.Sound ctx := by
  refine run_kept (fun orderly m => orderly.move table m) fun code found b mem => ?_
  exact ⟨Or.inl (branchesFollow_iff.mp (table 0 code found) b mem), by simp [begins], le_rfl,
    Ordered.replicate _⟩

end Regex.Match
