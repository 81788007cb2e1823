import Regex.Match.Machine
import Regex.Proofs.Match.Advance

/-!
# Moves of a match

The matching machine is deterministic: it keeps a stack of choices and goes back to them one by one.
What it can *come to*, though, is described without that stack.  A state moves on by one node, into
a group or out of one, and each choice that is left behind holds nothing but further states that the
same moves lead to.

* `Move`: one move of a state, whichever way the machine takes.
* `Choice.All`, `Config.All`: what is asked of every state that a choice or a configuration holds.
* `Context.step_all`: a property of states that all moves keep is kept by a step of the machine.
* `Context.run_all`: so every state that a match ends in has it, if the states it starts with do.

Every law about the places, captures and starts of matches is then a short case analysis over
`Move`: neither choices nor the order in which they are tried play any part in it.  The same
induction carries one fact about what has been seen, that the end of the subject is only noted when
partial matches are looked for.
-/

namespace Regex.Code

/-- Whether a node is done with once some text has been taken, or none. -/
def Node.isItem : Node → Bool
  | .one _ | .many _ _ _ _ | .point _ | .backref _ _ _ _ _ | .verb _ _ _ | .returned | .hidden _ =>
    true
  | _ => false

/-- Whether a group is left by going back to where it was entered. -/
def Kind.isLook : Kind → Bool
  | .ahead _ _ | .behind _ _ => true
  | _ => false

/-- Whether a group holds where nothing in it matches. -/
def Kind.isNegative : Kind → Bool
  | .ahead negated _ | .behind negated _ => negated
  | _ => false

end Regex.Code

namespace Regex.Match

open Chars Code Syntax

/-- The captures after a group of some kind has matched. -/
def capturesAfter (kind : Kind) (captures : Array (Option Span)) (start stop : Nat) :
    Array (Option Span) :=
  match kind with
  | .capture n => Context.capture captures n start stop
  | _ => captures

/-- Whether a state is at the end of a branch, be it brought about by a verb. -/
def State.AtEnd (s : State) : Prop := s.todo = [] ∨ ∃ after, s.todo = .accept :: after

/-- One move of a state.  What the machine does is always one of these; which of several it does
first, and what it falls back to, is left open. -/
inductive Move (ctx : Context) : State → State → Prop where
  /-- An item takes some text, or none. -/
  | take {s : State} {node : Node} {after : List Node} {place : Nat} :
      s.todo = node :: after → node.isItem → s.place ≤ place →
        Move ctx s { s with todo := after, place }
  | keep {s : State} {after : List Node} :
      s.todo = .keep :: after → Move ctx s { s with todo := after, keep := s.place }
  /-- A branch of a lookbehind can start anywhere. -/
  | back {s : State} {least greatest : Nat} {after : List Node} (place : Nat) :
      s.todo = .back least greatest :: after → Move ctx s { s with todo := after, place }
  | leaveOut {s : State} {greed : Greed} {item : Node} {after : List Node} :
      s.todo = .optional greed item :: after → Move ctx s { s with todo := after }
  | putIn {s : State} {greed : Greed} {item : Node} {after : List Node} :
      s.todo = .optional greed item :: after → Move ctx s { s with todo := item :: after }
  | enter {s : State} {kind : Kind} {id : Nat} {again : Again} {branches : List (List Node)}
      {after branch : List Node} (base : Nat) :
      s.todo = .group kind id again branches :: after → branch ∈ branches →
        Move ctx s { s with
          todo := branch
          frames := .group kind again (.group kind id again branches) s.place base after ::
            s.frames }
  | enterScan {s : State} {groups : List Nat} {id : Nat} {again : Again}
      {branches : List (List Node)} {after branch : List Node} {span : Span} (base : Nat) :
      s.todo = .group (.scan groups) id again branches :: after →
        Context.firstSet s.captures groups = some span → branch ∈ branches →
        Move ctx s { s with
          todo := branch
          frames := .scan s.region s.place base after :: s.frames
          place := span.start
          region := ⟨span.stop, span.stop, false⟩ }
  /-- Nothing in a negative assertion matches. -/
  | refuse {s : State} {kind : Kind} {id : Nat} {again : Again} {branches : List (List Node)}
      {after : List Node} :
      s.todo = .group kind id again branches :: after → kind.isNegative →
        Move ctx s { s with todo := after }
  | enterCall {s : State} {number : Nat} {after branch : List Node} {code : GroupCode}
      (last base : Nat) :
      s.todo = .call number :: after → (ctx.groups[number]?).join = some code →
        branch ∈ code.branches →
        Move ctx s { s with
          todo := branch
          frames := .call number s.captures s.calling s.place last base after :: s.frames
          calling := some number }
  /-- A conditional group takes one of its branches. -/
  | decide {s : State} {guard : Guard} {id : Nat} {again : Again} {yes no after branch : List Node}
      (base : Nat) :
      s.todo = .conditional guard id again yes no :: after → branch = yes ∨ branch = no →
        Move ctx s { s with
          todo := branch
          frames := .group .plain again (.conditional guard id again yes no) s.place base after ::
            s.frames }
  /-- The assertion of a conditional group is tried. -/
  | ask {s : State} {negated : Bool} {look : List (List Node)} {id : Nat} {again : Again}
      {yes no after branch : List Node} (base : Nat) :
      s.todo = .onMatch negated look id again yes no :: after → branch ∈ look →
        Move ctx s { s with
          todo := branch
          frames := .condition negated s.place s.keep base yes no ::
            .group .plain again (.onMatch negated look id again yes no) s.place base after ::
            s.frames }
  /-- The assertion of a conditional group does not match. -/
  | answer {s : State} {negated : Bool} {look : List (List Node)} {id : Nat} {again : Again}
      {yes no after branch : List Node} (base : Nat) :
      s.todo = .onMatch negated look id again yes no :: after → branch = yes ∨ branch = no →
        Move ctx s { s with
          todo := branch
          frames :=
            .group .plain again (.onMatch negated look id again yes no) s.place base after ::
              s.frames }
  /-- A group that has matched is left or run again. -/
  | leave {s : State} {kind : Kind} {again : Again} {node : Node} {start base : Nat}
      {after todo : List Node} {frames : List Frame} :
      s.todo = [] → s.frames = .group kind again node start base after :: frames →
        kind.isLook = false → todo = after ∨ todo = node :: after →
        Move ctx s { s with todo, frames, captures := capturesAfter kind s.captures start s.place }
  | leaveLook {s : State} {kind : Kind} {again : Again} {node : Node} {start base : Nat}
      {after : List Node} {frames : List Frame} :
      s.AtEnd → s.frames = .group kind again node start base after :: frames →
        kind.isLook → kind.isNegative = false →
        Move ctx s { s with todo := after, frames, place := start }
  | leaveCondition {s : State} {negated : Bool} {start keep base : Nat} {yes no todo : List Node}
      {frames : List Frame} :
      s.AtEnd → s.frames = .condition negated start keep base yes no :: frames →
        todo = yes ∨ todo = no → Move ctx s { s with todo, frames, place := start, keep }
  | leaveCall {s : State} {number : Nat} {captures : Array (Option Span)} {calling : Option Nat}
      {start last base : Nat} {after : List Node} {frames : List Frame} :
      s.AtEnd → s.frames = .call number captures calling start last base after :: frames →
        Move ctx s { s with todo := after, frames, captures, calling }
  | leaveScan {s : State} {region : Region} {place base : Nat} {after : List Node}
      {frames : List Frame} :
      s.AtEnd → s.frames = .scan region place base after :: frames →
        Move ctx s { s with todo := after, frames, place, region }
  /-- A verb that ends the match ends an open group. -/
  | close {s : State} {kind : Kind} {again : Again} {node : Node} {start base : Nat}
      {rest after : List Node} {frames : List Frame} {captures : Array (Option Span)} :
      s.todo = .accept :: rest → s.frames = .group kind again node start base after :: frames →
        kind.isLook = false →
        captures = s.captures ∨ captures = capturesAfter kind s.captures start s.place →
        Move ctx s { s with frames, captures }

/-- What is asked of every state that a choice can go on from. -/
def Choice.All (R : State → Prop) : Choice → Prop
  | .resume s | .unless s | .otherwise s => R s
  | .branches s rest _ _ => ∀ b ∈ rest, R { s with todo := b }
  | .giveBack s _ least => ∀ place, least ≤ place → R { s with place }
  | .takeMore s _ _ | .takeRef s _ _ _ => ∀ place, s.place ≤ place → R { s with place }
  | .places s others => ∀ place ∈ others, R { s with place }
  | .forth s _ => ∀ place, R { s with place }
  | .verb _ _ _ _ _ | .callEdge _ => True

/-- What is asked of every state that some choices can go on from. -/
def ChoicesAll (R : State → Prop) (choices : Array Choice) : Prop := ∀ c ∈ choices, c.All R

namespace ChoicesAll

variable {R : State → Prop} {choices : Array Choice}

theorem empty : ChoicesAll R #[] := by simp [ChoicesAll]

theorem push {c : Choice} (all : ChoicesAll R choices) (one : c.All R) :
    ChoicesAll R (choices.push c) := by
  intro d mem
  rcases Array.mem_push.mp mem with old | rfl
  · exact all d old
  · exact one

theorem pop (all : ChoicesAll R choices) : ChoicesAll R choices.pop := by
  intro c mem
  refine all c (Array.mem_toList_iff.mp ?_)
  rw [← Array.mem_toList_iff, Array.toList_pop] at mem
  exact (List.dropLast_sublist _).subset mem

theorem shrink (all : ChoicesAll R choices) (base : Nat) : ChoicesAll R (choices.shrink base) := by
  intro c mem
  refine all c (Array.mem_toList_iff.mp ?_)
  rw [← Array.mem_toList_iff, Array.toList_shrink] at mem
  exact List.mem_of_mem_take mem

end ChoicesAll

/-- The end of the subject is only noted when partial matches are looked for. -/
def Seen.Sound (ctx : Context) (seen : Seen) : Prop := ctx.partiality = .no → seen.hitEnd = false

namespace Seen

variable {ctx : Context} {seen : Seen}

theorem sound_initial (start : Nat) : (Seen.initial start).Sound ctx := fun _ => rfl

theorem Sound.call (h : seen.Sound ctx) : seen.call.Sound ctx := h

theorem Sound.upTo (h : seen.Sound ctx) (place : Nat) : (seen.upTo place).Sound ctx := by
  unfold Seen.upTo
  split_ifs
  · exact h
  · exact h

theorem Sound.downTo (h : seen.Sound ctx) (place : Nat) : (seen.downTo place).Sound ctx := by
  unfold Seen.downTo
  split_ifs
  · exact h
  · exact h

theorem Sound.touch {t : Touch} {seen' : Seen} (h : seen.Sound ctx)
    (noted : seen.touch ctx t = some seen') : seen'.Sound ctx := by
  intro none
  simp only [Seen.touch, none] at noted
  simp only [Bool.false_eq_true, if_false, Option.some_inj] at noted
  exact noted ▸ h none

theorem touch_eq_none {t : Touch} (ends : seen.touch ctx t = none) : ctx.partiality = .hard := by
  unfold Seen.touch at ends
  dsimp only at ends
  by_contra soft
  simp only [soft, if_false] at ends
  split_ifs at ends

end Seen

/-- Whether a match may end in a state. -/
structure Context.MayEnd (ctx : Context) (s : State) : Prop where
  notEmpty : ctx.subject.offset s.place = ctx.subject.offset s.keep → ctx.notEmpty = false
  notEmptyAtStart : ctx.subject.offset s.place = ctx.subject.offset s.keep →
    ctx.subject.offset s.keep = ctx.subject.offset ctx.start → ctx.notEmptyAtStart = false
  endAnchored : ctx.endAnchored = true → s.region.stop ≤ s.place

/-- What is asked of every state that a reaction goes on in. -/
def Reaction.All (R : State → Prop) : Reaction → Prop
  | .pass _ | .passAt _ _ => True
  | .go s => R s
  | .goOr s next _ => R s ∧ next.All R

/-- What is asked of the state in which matching ends. -/
def Outcome.All (ctx : Context) (R : State → Prop) : Outcome → Prop
  | .matched s => R s ∧ s.frames = [] ∧ ctx.MayEnd s
  | .partialMatch => ctx.partiality = .hard
  | _ => True

/-- What is asked of every state that a configuration holds. -/
def Config.All (ctx : Context) (R : State → Prop) : Config → Prop
  | .run s choices seen => R s ∧ ChoicesAll R choices ∧ seen.Sound ctx
  | .back _ choices seen => ChoicesAll R choices ∧ seen.Sound ctx
  | .done o seen => o.All ctx R ∧ seen.Sound ctx

/-! ## A property that all moves keep -/

section Kept

variable {ctx : Context} {R : State → Prop}

theorem onPlain_all {f : Failure} {react : Reaction} (all : react.All R) :
    (onPlain f react).All R := by
  unfold onPlain
  split_ifs
  · exact all
  · trivial

theorem reactUnless_all {s : State} {f : Failure} (here : R s) : (reactUnless s f).All R := by
  unfold reactUnless
  split
  · trivial
  · exact here

/-- What a choice makes of a failure goes on from states that the choice holds. -/
theorem Choice.react_all {c : Choice} {f : Failure} (all : c.All R) : (c.react ctx f).All R := by
  cases c with
  | resume s => exact onPlain_all all
  | branches s rest id every =>
      unfold Choice.react
      dsimp only
      split_ifs
      · trivial
      · cases rest with
        | nil => trivial
        | cons b more =>
            dsimp only
            split_ifs
            · exact all b (by simp)
            · exact ⟨all b (by simp), fun d mem => all d (List.mem_cons_of_mem _ mem)⟩
  | giveBack s t least =>
      unfold Choice.react
      refine onPlain_all ?_
      dsimp only
      split_ifs with beyond
      -- nothing is left to give back after this place
      · exact all least le_rfl
      · exact ⟨all _ (by omega), fun place le => all place le⟩
  | takeMore s t left =>
      unfold Choice.react
      refine onPlain_all ?_
      split_ifs
      · trivial
      · dsimp only
        cases taken : (ctx.probe s.region t s.place true).next with
        | none => trivial
        | some place =>
            have le : s.place ≤ place := ctx.le_probe taken
            exact ⟨all place le, fun later le' => all later (le.trans le')⟩
  | places s others =>
      unfold Choice.react
      refine onPlain_all ?_
      match others with
      | [] => trivial
      | [place] => exact all place (by simp)
      | place :: next :: more =>
          exact ⟨all place (by simp), fun p mem => all p (List.mem_cons_of_mem _ mem)⟩
  | takeRef s groups casing left =>
      unfold Choice.react
      refine onPlain_all ?_
      split_ifs
      · trivial
      · dsimp only
        cases taken : (ctx.takeRef s.region casing
            (Context.firstSet s.captures groups) s.place).next with
        | none => trivial
        | some place =>
            have le : s.place ≤ place := ctx.le_takeRef taken
            exact ⟨all place le, fun later le' => all later (le.trans le')⟩
  | forth s left =>
      unfold Choice.react
      refine onPlain_all ?_
      split_ifs
      · exact all _
      · exact ⟨all _, fun place => all place⟩
  | verb v name target place calling =>
      unfold Choice.react
      dsimp only
      split <;> trivial
  | «unless» s => exact reactUnless_all all
  | otherwise s => exact reactUnless_all all
  | callEdge number => trivial

namespace Context

variable {choices : Array Choice} {seen : Seen}

theorem fail_all (rest : ChoicesAll R choices) (sound : seen.Sound ctx) :
    (Config.fail choices seen).All ctx R := ⟨rest, sound⟩

theorem run_all {s : State} (here : R s) (rest : ChoicesAll R choices) (sound : seen.Sound ctx) :
    (Config.run s choices seen).All ctx R := ⟨here, rest, sound⟩

theorem touching_all {t : Touch} {next : Seen → Config} (sound : seen.Sound ctx)
    (all : ∀ seen : Seen, seen.Sound ctx → (next seen).All ctx R) :
    (ctx.touching t seen next).All ctx R := by
  unfold touching
  cases noted : if t = .none then some seen else seen.touch ctx t with
  | some seen' =>
      refine all seen' ?_
      split_ifs at noted
      · exact Option.some_inj.mp noted ▸ sound
      · exact sound.touch noted
  | none =>
      split_ifs at noted
      have hard := Seen.touch_eq_none noted
      exact ⟨hard, fun no => by rw [hard] at no; cases no⟩

theorem enter_all {s : State} {branches : List (List Node)} {id : Nat} {every : Bool}
    (all : ∀ b ∈ branches, R { s with todo := b }) (rest : ChoicesAll R choices)
    (sound : seen.Sound ctx) : (ctx.enter s branches id every choices seen).All ctx R := by
  unfold enter
  cases branches with
  | nil => exact fail_all rest sound
  | cons b more =>
      refine ⟨all b (by simp), ?_, sound⟩
      split_ifs
      · exact rest
      · exact rest.push fun d mem => all d (List.mem_cons_of_mem _ mem)

theorem finish_all {s : State} {forced : Bool} (here : R s) (out : s.frames = [])
    (rest : ChoicesAll R choices) (sound : seen.Sound ctx) :
    (ctx.finish s forced choices seen).All ctx R := by
  unfold finish
  extract_lets offset isEmpty atStart
  split_ifs with empty short
  · exact fail_all rest sound
  · exact ⟨trivial, sound⟩
  · exact fail_all rest sound
  · refine ⟨⟨here, out, fun same => ?_, fun same start => ?_, fun anchored => ?_⟩, sound.upTo _⟩
    · have isEmpty : isEmpty = true := decide_eq_true same
      rw [isEmpty, Bool.true_and, Bool.or_eq_true, not_or] at empty
      exact Bool.eq_false_iff.mpr empty.1
    · have isEmpty : isEmpty = true := decide_eq_true same
      have atStart : atStart = true := decide_eq_true start
      rw [isEmpty, atStart, Bool.true_and, Bool.and_true, Bool.or_eq_true, not_or] at empty
      exact Bool.eq_false_iff.mpr empty.2
    · rw [anchored, Bool.true_and, decide_eq_true_eq] at short
      exact Nat.not_lt.mp short

theorem closeAssertion_all {s : State} (base : Nat) (rest : ChoicesAll R choices) :
    ChoicesAll R (ctx.closeAssertion s base choices) := by
  unfold closeAssertion
  dsimp only
  split_ifs
  · exact (rest.shrink base).push fun d mem => absurd mem (List.not_mem_nil)
  · exact rest.shrink base

variable (kept : ∀ {s s' : State}, R s → Move ctx s s' → R s')
include kept

theorem enterGroup_all {s : State} {kind : Kind} {id base : Nat} {again : Again}
    {branches : List (List Node)} {after : List Node}
    (here : R { s with todo := .group kind id again branches :: after })
    (rest : ChoicesAll R choices) (sound : seen.Sound ctx) :
    (ctx.enterGroup s (.group kind id again branches) kind id again branches base after choices
      seen).All ctx R := by
  have inside : ∀ b ∈ branches, R { s with
      todo := b
      frames := .group kind again (.group kind id again branches) s.place base after ::
        s.frames } :=
    fun b mem => kept here (.enter base rfl mem)
  unfold enterGroup
  dsimp only
  split
  · next groups =>
      cases found : firstSet s.captures groups with
      | none => exact fail_all rest sound
      | some span =>
          exact enter_all (fun b mem => kept here (.enterScan base rfl found mem)) rest sound.call
  · exact enter_all inside (rest.push (kept here (.refuse rfl rfl))) sound.call
  · exact enter_all inside (rest.push (kept here (.refuse rfl rfl))) sound.call
  · exact enter_all inside rest sound.call
  · exact enter_all inside rest sound.call
  · exact enter_all inside rest sound
  · exact enter_all inside rest sound.call

theorem goAgain_all {s : State} {again : Again} {node : Node} {start base : Nat}
    {after : List Node} (left : R { s with todo := after })
    (rerun : R { s with todo := node :: after }) (rest : ChoicesAll R choices)
    (sound : seen.Sound ctx) :
    (ctx.goAgain s again node start base after choices seen).All ctx R := by
  have shrunk : ChoicesAll R (choices.shrink base) := rest.shrink base
  unfold goAgain
  dsimp only
  cases again with
  | once => exact ⟨left, rest, sound⟩
  | possessive =>
      dsimp only
      split_ifs
      · exact ⟨left, shrunk, sound⟩
      · split
        · exact enterGroup_all kept rerun (shrunk.push left) sound
        · exact ⟨left, shrunk, sound⟩
  | greedy =>
      dsimp only
      split_ifs
      · exact ⟨left, rest, sound⟩
      · exact ⟨rerun, rest.push left, sound.call⟩
  | lazy =>
      dsimp only
      split_ifs
      · exact ⟨left, rest, sound⟩
      · exact ⟨left, rest.push rerun, sound.call⟩

theorem leave_all {s : State} (here : R s) (done : s.todo = []) (rest : ChoicesAll R choices)
    (sound : seen.Sound ctx) : (ctx.leave s choices seen).All ctx R := by
  unfold leave
  cases around : s.frames with
  | nil => exact finish_all here around rest sound
  | cons frame frames =>
      cases frame with
      | group kind again node start base after =>
          -- A group that is no assertion is left, or run again, with the captures it makes.
          have out : ∀ {captures : Array (Option Span)} {choices : Array Choice},
              kind.isLook = false → captures = capturesAfter kind s.captures start s.place →
              ChoicesAll R choices →
              (ctx.goAgain { s with frames, captures } again node start base after choices
                seen).All ctx R := by
            rintro captures choices noLook rfl rest
            exact goAgain_all kept (kept here (.leave done around noLook (Or.inl rfl)))
              (kept here (.leave done around noLook (Or.inr rfl))) rest sound
          dsimp only
          split
          -- what a negative assertion has matched counts against it
          · exact fail_all (rest.shrink base) sound
          · exact fail_all (rest.shrink base) sound
          -- other assertions are left for the place where they were entered
          · refine ⟨kept here (.leaveLook (Or.inl done) around rfl rfl), ?_, sound.upTo _⟩
            split_ifs
            · exact closeAssertion_all base rest
            · exact rest
          · refine ⟨kept here (.leaveLook (Or.inl done) around rfl rfl), ?_, sound.upTo _⟩
            split_ifs
            · exact closeAssertion_all base rest
            · exact rest
          · split_ifs
            · exact out rfl rfl rest
            · exact fail_all rest sound
          · exact out rfl rfl (rest.shrink base)
          · exact out rfl rfl rest
          · exact out rfl rfl rest
          · exact out rfl rfl rest
      | condition negated start keep base yes no =>
          refine ⟨kept here (.leaveCondition (Or.inl done) around ?_), rest.shrink base, sound⟩
          cases negated
          · exact Or.inl rfl
          · exact Or.inr rfl
      | call number captures calling start last base after =>
          refine ⟨kept here (.leaveCall (Or.inl done) around), ?_, sound⟩
          split_ifs
          · exact rest.shrink base
          · exact rest
      | scan region place base after =>
          exact ⟨kept here (.leaveScan (Or.inl done) around), rest, sound⟩

theorem accept_all {s : State} {frames : List Frame} {after : List Node}
    (here : R { s with frames }) (verb : s.todo = .accept :: after) (rest : ChoicesAll R choices)
    (sound : seen.Sound ctx) : (ctx.accept s choices seen frames).All ctx R := by
  -- the induction goes outwards through the groups that the verb leaves behind
  induction frames generalizing s with
  | nil =>
      rw [accept]
      exact finish_all here rfl rest sound
  | cons frame frames ih =>
      have atEnd : State.AtEnd { s with frames := frame :: frames } := Or.inr ⟨after, verb⟩
      cases frame with
      | group kind again node start base inner =>
          unfold accept
          dsimp only
          split
          · exact fail_all (rest.shrink base) sound
          · exact fail_all (rest.shrink base) sound
          · exact ⟨kept here (.leaveLook atEnd rfl rfl rfl), closeAssertion_all base rest,
              sound.upTo _⟩
          · exact ⟨kept here (.leaveLook atEnd rfl rfl rfl), closeAssertion_all base rest,
              sound.upTo _⟩
          · next n =>
              refine ih (kept here (.close verb rfl rfl ?_)) verb
              split_ifs
              · exact Or.inr rfl
              · exact Or.inl rfl
          · next noAhead _ noBehind _ _ =>
              refine ih (kept here (.close verb rfl ?_ (Or.inl rfl))) verb
              cases kind <;> simp_all [Kind.isLook]
      | condition negated start keep base yes no =>
          refine ⟨kept here (.leaveCondition atEnd rfl ?_), rest.shrink base, sound⟩
          cases negated
          · exact Or.inl rfl
          · exact Or.inr rfl
      | call number captures calling start last base inner =>
          exact ⟨kept here (.leaveCall atEnd rfl), rest.shrink base, sound⟩
      | scan region place base inner =>
          exact ⟨kept here (.leaveScan atEnd rfl), rest.shrink base, sound⟩

theorem runCall_all {s : State} {number : Nat} {after : List Node}
    (here : R { s with todo := .call number :: after }) (rest : ChoicesAll R choices)
    (sound : seen.Sound ctx) : (ctx.runCall s number after choices seen).All ctx R := by
  unfold runCall
  split_ifs
  · exact ⟨trivial, sound⟩
  · cases found : (ctx.groups[number]?).join with
    | none => exact fail_all rest sound
    | some code =>
        exact enter_all (fun b mem => kept here (.enterCall _ _ rfl found mem))
          (rest.push trivial) sound.call

omit kept in
theorem takeMore_all {s : State} {t : Test} {left : Option Nat} {greed : Greed}
    (on : ∀ place, s.place ≤ place → R { s with place }) (rest : ChoicesAll R choices)
    (sound : seen.Sound ctx) : (ctx.takeMore s t left greed choices seen).All ctx R := by
  have far : s.place ≤ (ctx.takeSome s.region t left s.place).place := ctx.le_takeSome _ _
  unfold takeMore
  split
  · exact ⟨on s.place le_rfl, rest.push on, sound.call⟩
  · refine touching_all sound fun seen sound => ?_
    dsimp only
    split_ifs
    · exact ⟨on _ far, rest, sound⟩
    · exact ⟨on _ far, rest.push fun place le => on place le, sound.call⟩

theorem runMany_all {s : State} {t : Test} {min : Nat} {max : Option Nat} {greed : Greed}
    {after : List Node} (here : R s) (todo : s.todo = .many t min max greed :: after)
    (rest : ChoicesAll R choices) (sound : seen.Sound ctx) :
    (ctx.runMany s t min max greed after choices seen).All ctx R := by
  have on : ∀ place, s.place ≤ place → R { s with todo := after, place } :=
    fun place le => kept here (.take todo rfl le)
  have far : s.place ≤ (ctx.takeSome s.region t (some min) s.place).place := ctx.le_takeSome _ _
  unfold runMany
  split
  · exact takeMore_all on rest sound
  · refine touching_all sound fun seen sound => ?_
    dsimp only
    split_ifs
    · exact fail_all rest (sound.upTo _)
    · exact ⟨on _ far, rest, sound⟩
    · exact takeMore_all (fun place le => on place (far.trans le)) rest sound

theorem runRef_all {s : State} {groups : List Nat} {casing : Casing} {min : Nat}
    {max : Option Nat} {greed : Greed} {after : List Node} (here : R s)
    (todo : s.todo = .backref groups casing min max greed :: after) (rest : ChoicesAll R choices)
    (sound : seen.Sound ctx) :
    (ctx.runRef s groups casing min max greed after choices seen).All ctx R := by
  have on : ∀ place, s.place ≤ place → R { s with todo := after, place } :=
    fun place le => kept here (.take todo rfl le)
  -- every copy of the text that is taken lies ahead, and so does every place between two of them
  have far : ∀ (max : Option Nat) (fuel place : Nat),
      place ≤ (ctx.takeRefs s.region casing (firstSet s.captures groups) max fuel [] place).2.1 ∧
        ∀ p ∈ (ctx.takeRefs s.region casing (firstSet s.captures groups) max fuel [] place).1,
          place ≤ p := by
    intro max fuel place
    obtain ⟨far, between⟩ := ctx.le_takeRefs s.region casing
      (firstSet s.captures groups) max fuel [] place
    exact ⟨far, fun p mem => (between p mem).resolve_left (List.not_mem_nil)⟩
  unfold runRef
  refine iteInduction (motive := Config.All ctx R) (fun _ => ?_) (fun _ => ?_)
  · exact run_all (on _ le_rfl) rest sound
  · dsimp only
    have bounds := (far (some min) (ctx.subject.size + 1) s.place).1
    generalize ctx.takeRefs s.region casing (firstSet s.captures groups) (some min)
      (ctx.subject.size + 1) [] s.place = first at bounds ⊢
    refine touching_all sound fun seen sound => ?_
    split
    · exact fail_all rest sound
    split
    · exact run_all (on _ bounds) rest sound
    split
    · exact run_all (on _ bounds) (rest.push fun place le => on place (bounds.trans le)) sound.call
    · have further := far (max.map (· - min)) (ctx.subject.size + 1) first.2.1
      generalize ctx.takeRefs s.region casing (firstSet s.captures groups) (max.map (· - min))
        (ctx.subject.size + 1) [] first.2.1 = second at further ⊢
      refine touching_all sound fun seen sound => run_all (on _ (bounds.trans further.1)) ?_
        sound.call
      split
      · exact rest
      · exact rest.push fun p mem => on p (bounds.trans (further.2 p mem))

theorem runBack_all {s : State} {least greatest : Nat} {after : List Node} (here : R s)
    (todo : s.todo = .back least greatest :: after) (rest : ChoicesAll R choices)
    (sound : seen.Sound ctx) : (ctx.runBack s least greatest after choices seen).All ctx R := by
  have on : ∀ place, R { s with todo := after, place } := fun place => kept here (.back place todo)
  unfold runBack
  dsimp only
  split
  · cases ctx.back? s.place greatest with
    | none => exact fail_all rest sound
    | some place => exact run_all (on place) rest (sound.downTo _)
  · split
    · exact fail_all rest sound
    · refine run_all (on _) ?_ sound.call
      split
      · exact rest
      · exact rest.push fun place => on place

/-- Running a node is a move, or leaves the branch for one of the choices. -/
theorem perform_all {s : State} {node : Node} {after : List Node} (here : R s)
    (todo : s.todo = node :: after) (rest : ChoicesAll R choices) (sound : seen.Sound ctx) :
    (ctx.perform s node after choices seen).All ctx R := by
  have same : { s with todo := node :: after } = s := by rw [← todo]
  have item : node.isItem → ∀ place, s.place ≤ place → R { s with todo := after, place } :=
    fun item place le => kept here (.take todo item le)
  cases node with
  | one t =>
      refine touching_all sound fun seen sound => ?_
      dsimp only
      cases taken : (ctx.probe s.region t s.place false).next with
      | none => exact fail_all rest (sound.upTo _)
      | some place => exact run_all (item rfl place (ctx.le_probe taken)) rest sound
  | many t min max greed => exact runMany_all kept here todo rest sound
  | point p =>
      have looked : (ctx.lookAround s.region p s.place seen).Sound ctx := by
        unfold lookAround
        split
        · dsimp only
          split_ifs
          · exact (sound.downTo _).upTo _
          · exact sound.upTo _
          · exact sound.downTo _
          · exact sound
        · exact sound
      unfold perform
      dsimp only
      generalize ctx.holdsAt s.region p s.place = fits
      refine touching_all looked fun seen sound => ?_
      split
      · exact run_all (item rfl _ le_rfl) rest sound
      · exact fail_all rest sound
  | keep => exact run_all (kept here (.keep todo)) rest sound
  | backref groups casing min max greed => exact runRef_all kept here todo rest sound
  | call n => exact runCall_all kept (same ▸ here) rest sound
  | verb v name target =>
      have counted : Seen.Sound ctx
          (if v = .skipTo then { seen with skips := seen.skips + 1 } else seen) := by
        split_ifs
        · exact sound
        · exact sound
      unfold perform
      dsimp only
      generalize (if v = .skipTo then { seen with skips := seen.skips + 1 } else seen) = seen'
        at counted ⊢
      split
      · exact run_all (item rfl _ le_rfl) rest counted
      · exact run_all (item rfl _ le_rfl) (rest.push trivial) counted.call
  | accept => exact accept_all kept here todo rest sound
  | fail => exact fail_all rest sound
  | back least greatest => exact runBack_all kept here todo rest sound
  | returned =>
      unfold perform
      dsimp only
      split_ifs
      · exact run_all (item rfl _ le_rfl) rest sound
      · exact fail_all rest sound
  | group kind id again branches => exact enterGroup_all kept (same ▸ here) rest sound
  | conditional guard id again yes no =>
      refine run_all (kept here (.decide choices.size todo ?_)) rest sound
      split_ifs
      · exact Or.inl rfl
      · exact Or.inr rfl
  | onMatch negated look id again yes no =>
      refine enter_all (fun b mem => kept here (.ask choices.size todo mem))
        (rest.push (kept here (.answer choices.size todo ?_))) sound.call
      cases negated
      · exact Or.inr rfl
      · exact Or.inl rfl
  | optional greed inner =>
      have without : R { s with todo := after } := kept here (.leaveOut todo)
      have within : R { s with todo := inner :: after } := kept here (.putIn todo)
      cases greed with
      | lazy => exact run_all without (rest.push within) sound.call
      | greedy => exact run_all within (rest.push without) sound.call
      | possessive =>
          cases inner with
          | group kind id again branches =>
              exact enterGroup_all kept within (rest.push without) sound.call
          | _ => exact run_all within (rest.push without) sound.call
  | hidden inner => exact run_all (item rfl _ le_rfl) rest sound

omit kept in
theorem goBack_all {f : Failure} (rest : ChoicesAll R choices) (sound : seen.Sound ctx) :
    (ctx.goBack f choices seen).All ctx R := by
  unfold goBack
  cases last : choices.back? with
  | none => exact ⟨trivial, sound⟩
  | some choice =>
      have popped := rest.pop
      have react := @Choice.react_all ctx R _ f (rest choice (Array.mem_of_back? last))
      dsimp only
      cases made : choice.react ctx f with
      | pass f => exact fail_all popped sound
      | passAt f touch => exact touching_all sound fun seen sound => ⟨popped, sound⟩
      | go s =>
          rw [made] at react
          exact run_all react popped sound.call
      | goOr s next touch =>
          rw [made] at react
          exact touching_all sound fun seen sound =>
            run_all react.1 (popped.push react.2) sound.call

/-- **A property that all moves keep is kept by a step of the machine.** -/
theorem step_all {c : Config} (all : c.All ctx R) : (ctx.step c).All ctx R := by
  cases c with
  | run s choices seen =>
      obtain ⟨here, rest, sound⟩ := all
      unfold step
      dsimp only
      split
      · exact ⟨trivial, sound⟩
      · cases todo : s.todo with
        | nil => exact leave_all kept here todo rest sound
        | cons node after => exact perform_all kept here todo rest sound
  | back f choices seen => exact goBack_all all.1 all.2
  | done o seen => exact all

theorem runFrom_all (fuel : Nat) {c : Config} (all : c.All ctx R) :
    (ctx.runFrom fuel c).1.All ctx R ∧ (ctx.runFrom fuel c).2.Sound ctx := by
  induction fuel generalizing c with
  -- out of fuel, matching is given up
  | zero =>
      cases c with
      | run s choices seen => exact ⟨trivial, all.2.2⟩
      | back f choices seen => exact ⟨trivial, all.2⟩
      | done o seen => exact all
  | succ fuel ih =>
      cases c with
      | run s choices seen => exact ih (step_all kept all)
      | back f choices seen => exact ih (step_all kept all)
      | done o seen => exact all

/-- The state in which a match at a place begins, with one of its branches before it. -/
def begins (ctx : Context) (place : Nat) (region : Region) (branch : List Node) : State :=
  ⟨branch, [], place, place, Array.replicate ctx.groups.size none, none, region⟩

/-- **A property that all moves keep holds where a match ends**, if it holds where the match begins,
whatever is tried first and however often matching goes back. -/
theorem run_kept {place : Nat} {region : Region}
    (first : ∀ code, (ctx.groups[0]?).join = some code → ∀ b ∈ code.branches,
      R (ctx.begins place region b)) :
    (ctx.run place region).1.All ctx R ∧ (ctx.run place region).2.Sound ctx := by
  unfold run
  cases found : (ctx.groups[0]?).join with
  | none => exact ⟨trivial, Seen.sound_initial place⟩
  | some code =>
      exact runFrom_all kept _ (enter_all (first code found) ChoicesAll.empty
        (Seen.sound_initial place))

end Context

end Kept

end Regex.Match
