import Regex.Match.ScriptRun
import Regex.Match.State

/-!
# Matching at one place

* `Config`: a state or a failure, with the choices and what has been seen; or how matching ended.
* `Choice.react`: what a choice makes of a failure.
* `Context.perform`: runs a node.
* `Context.leave`: what happens at the end of a branch.
* `Context.step`: one step of matching.
* `Context.run`: matching from a place on.

Each step that can be taken back is counted, and matching is given up when there are too many.
-/

namespace Regex.Match

open Chars Code Syntax

/-- How matching at one place ends. -/
inductive Outcome where
  | matched (s : State)
  | failed (f : Failure)
  | partialMatch
  /-- Too many steps were taken back. -/
  | limit
  /-- A call leads to itself at one place. -/
  | loop

/-- Where matching at one place has come to. -/
inductive Config where
  | run (s : State) (choices : Array Choice) (seen : Seen)
  | back (f : Failure) (choices : Array Choice) (seen : Seen)
  | done (o : Outcome) (seen : Seen)

/-- Fails this way. -/
@[inline] def Config.fail (choices : Array Choice) (seen : Seen) : Config :=
  .back .plain choices seen

/-- The signal that a verb fails with. -/
def signalOf (v : Verb) (name : List Char) (target : Option Nat) (place : Nat) : Signal :=
  match v with
  | .mark => .noMatch
  | .commit => .commit
  | .prune => .prune
  | .skip => .skip place
  | .skipTo => .skipTo name
  | .split => .split target

/-- What an assertion makes of a failure of what is in it, if that is not to hold. -/
def reactUnless (s : State) (f : Failure) : Reaction :=
  match f.signal with
  | .skipTo _ => .pass f
  | _ => .go s

/-- What a choice that is only about plain failures makes of a failure. -/
@[inline] def onPlain (f : Failure) (react : Reaction) : Reaction :=
  if f.signal = .noMatch then react else .pass f

/-- One less of a number that need not be limited. -/
def oneLess (n : Option Nat) : Option Nat := n.map (· - 1)

/-- What a choice makes of a failure. -/
def Choice.react (ctx : Context) (f : Failure) : Choice → Reaction
  | .resume s => onPlain f (.go s)
  | .branches s rest id all =>
    let caught : Bool :=
      match f.signal with
      | .noMatch => true
      | .split target => all || target == some id
      | _ => false
    if !caught then .pass f
    else
      match rest with
      | [] => .pass .plain
      | b :: more =>
        let next := { s with todo := b }
        if more.isEmpty && !ctx.splits then .go next
        else .goOr next (.branches s more id all) .none
  | .giveBack s t least =>
    let place := ctx.giveBack t s.place least
    onPlain f <|
      if place ≤ least then .go { s with place := least }
      else
        let s := { s with place }
        .goOr s (.giveBack s t least) .none
  | .takeMore s t left =>
    onPlain f <|
      if left = some 0 then .pass f
      else
        let p := ctx.probe s.region t s.place true
        match p.next with
        | none => .passAt f p.touch
        | some place =>
          let s := { s with place }
          .goOr s (.takeMore s t (oneLess left)) p.touch
  | .places s others =>
    onPlain f <|
      match others with
      | [] => .pass f
      | [place] => .go { s with place }
      | place :: more => .goOr { s with place } (.places s more) .none
  | .takeRef s groups casing left =>
    onPlain f <|
      if left = some 0 then .pass f
      else
        let p := ctx.takeRef s.region casing (Context.firstSet s.captures groups) s.place
        match p.next with
        | none => .passAt f p.touch
        | some place =>
          let s := { s with place }
          .goOr s (.takeRef s groups casing (oneLess left)) p.touch
  | .forth s left =>
    let s := { s with place := ctx.subject.next s.place }
    onPlain f (if left ≤ 1 then .go s else .goOr s (.forth s (left - 1)) .none)
  | .verb v name target place calling =>
    match v, f.signal with
    | .mark, .skipTo sought => .pass (if sought = name then { f with signal := .skip place } else f)
    | .mark, _ => .pass f
    | v, .noMatch => .pass ⟨signalOf v name target place, calling⟩
    | _, _ => .pass f
  | .unless s => reactUnless s f
  | .otherwise s => reactUnless s f
  | .callEdge number =>
    .pass (if f.signal != .noMatch && f.calling == some number then .plain else f)

namespace Context

variable (ctx : Context)

/-- Notes a touch and goes on, unless matching ends with a partial match. -/
@[inline] def touching (t : Touch) (seen : Seen) (next : Seen → Config) : Config :=
  match if t = .none then some seen else seen.touch ctx t with
  | some seen => next seen
  | none => .done .partialMatch { seen with hitEnd := true }

/-- Runs the first of some branches and leaves a choice for the others. -/
def enter (s : State) (branches : List (List Node)) (id : Nat) (all : Bool)
    (choices : Array Choice) (seen : Seen) : Config :=
  match branches with
  | [] => .fail choices seen
  | b :: rest =>
    let choices :=
      if rest.isEmpty && !(ctx.splits && all) then choices
      else choices.push (.branches s rest id all)
    .run { s with todo := b } choices seen

/-- Runs a group; `base` is the number of choices that there are without it. -/
def enterGroup (s : State) (node : Node) (kind : Kind) (id : Nat) (again : Again)
    (branches : List (List Node)) (base : Nat) (after : List Node) (choices : Array Choice)
    (seen : Seen) : Config :=
  let inside := { s with frames := .group kind again node s.place base after :: s.frames }
  match kind with
  | .scan groups =>
    match firstSet s.captures groups with
    | none => .fail choices seen
    | some span =>
      let frame : Frame := .scan s.region s.place base after
      ctx.enter
        { s with frames := frame :: s.frames, place := span.start
                 region := ⟨span.stop, span.stop, false⟩ }
        branches id true choices seen.call
  | .ahead true _ | .behind true _ =>
    ctx.enter inside branches id false (choices.push (.unless { s with todo := after })) seen.call
  | .ahead false _ | .behind false _ => ctx.enter inside branches id true choices seen.call
  | .plain => ctx.enter inside branches id false choices seen
  | _ => ctx.enter inside branches id false choices seen.call

/-- After a group has matched: it is left or run again. A group that has matched nothing is left. -/
def goAgain (s : State) (again : Again) (node : Node) (start base : Nat) (after : List Node)
    (choices : Array Choice) (seen : Seen) : Config :=
  let left := { s with todo := after }
  let rerun := { s with todo := node :: after }
  match again with
  | .once => .run left choices seen
  | .possessive =>
    let choices := choices.shrink base
    if s.place = start then .run left choices seen
    else
      match node with
      | .group kind id again branches =>
        ctx.enterGroup s node kind id again branches base after (choices.push (.resume left))
          seen
      | _ => .run left choices seen
  | .greedy =>
    if s.place = start then .run left choices seen
    else .run rerun (choices.push (.resume left)) seen.call
  | .lazy =>
    if s.place = start then .run left choices seen
    else .run left (choices.push (.resume rerun)) seen.call

/-- The captures after group `number` has matched from `start` to `stop`. -/
def capture (captures : Array (Option Span)) (number start stop : Nat) : Array (Option Span) :=
  captures.setIfInBounds number (some ⟨start, stop⟩)

/-- At the end of the whole pattern; `forced` tells whether it was brought about by a verb. Whether
nothing was matched shows in the bytes that places stand for. -/
def finish (s : State) (forced : Bool) (choices : Array Choice) (seen : Seen) : Config :=
  let offset := ctx.subject.offset
  let isEmpty : Bool := offset s.place = offset s.keep
  let atStart : Bool := offset s.keep = offset ctx.start
  if isEmpty && (ctx.notEmpty || (ctx.notEmptyAtStart && atStart)) then .fail choices seen
  else if ctx.endAnchored && s.place < s.region.stop then
    if forced then .done (.failed .plain) seen else .fail choices seen
  else .done (.matched s) (seen.upTo s.place)

/-- Forgets the choices inside an assertion that has matched. Verbs that go to the next branch still
do not reach beyond it. -/
def closeAssertion (s : State) (base : Nat) (choices : Array Choice) : Array Choice :=
  let choices := choices.shrink base
  if ctx.splits then choices.push (.branches s [] 0 true) else choices

/-- At the end of a branch. -/
def leave (s : State) (choices : Array Choice) (seen : Seen) : Config :=
  match s.frames with
  | [] => ctx.finish s false choices seen
  | .group kind again node start base after :: frames =>
    let out := { s with frames }
    match kind with
    | .ahead true _ | .behind true _ => .fail (choices.shrink base) seen
    | .ahead false atomic | .behind false atomic =>
      let out := { out with todo := after, place := start }
      .run out (if atomic then ctx.closeAssertion out base choices else choices)
        (seen.upTo s.place)
    | .scriptRun =>
      if ScriptRun.holds ctx.subject start s.place then
        ctx.goAgain out again node start base after choices seen
      else .fail choices seen
    | .atomic => ctx.goAgain out again node start base after (choices.shrink base) seen
    | .capture n =>
      let captures := capture s.captures n start s.place
      ctx.goAgain { out with captures } again node start base after choices seen
    | .plain | .scan _ => ctx.goAgain out again node start base after choices seen
  | .condition negated start keep base yes no :: frames =>
    .run { s with frames, todo := if negated then no else yes, place := start, keep }
      (choices.shrink base) seen
  | .call number captures calling _ _ base after :: frames =>
    .run { s with frames, todo := after, captures, calling }
      (if number = 0 then choices.shrink base else choices) seen
  | .scan region place _ after :: frames =>
    .run { s with frames, todo := after, place, region } choices seen

/-- Ends the innermost assertion or call, or else the match. Groups that are open on the way end
here, too. -/
def accept (s : State) (choices : Array Choice) (seen : Seen) : List Frame → Config
  | [] => ctx.finish { s with frames := [] } true choices seen
  | .group kind _ _ start base after :: frames =>
    match kind with
    | .ahead true _ | .behind true _ => .fail (choices.shrink base) seen
    | .ahead false _ | .behind false _ =>
      let out := { s with frames, todo := after, place := start }
      .run out (ctx.closeAssertion out base choices) (seen.upTo s.place)
    | .capture n =>
      let captures := if s.calling.isNone then capture s.captures n start s.place else s.captures
      accept { s with captures } choices seen frames
    | _ => accept s choices seen frames
  | .condition negated start keep base yes no :: frames =>
    .run { s with frames, todo := if negated then no else yes, place := start, keep }
      (choices.shrink base) seen
  | .call _ captures calling _ _ base after :: frames =>
    .run { s with frames, todo := after, captures, calling } (choices.shrink base) seen
  | .scan region place base after :: frames =>
    .run { s with frames, todo := after, place, region } (choices.shrink base) seen

/-- Whether a call of a group was made at the same place, with nothing more seen since. -/
def isLoop (number place last : Nat) : List Frame → Bool
  | [] => false
  | .call n _ _ start l _ _ :: frames =>
    if n = number then start = place && l = last else isLoop number place last frames
  | _ :: frames => isLoop number place last frames

/-- Runs a call of a group. -/
def runCall (s : State) (number : Nat) (after : List Node) (choices : Array Choice) (seen : Seen) :
    Config :=
  if ctx.checksLoops && s.calling.isSome && isLoop number s.place seen.last s.frames then
    .done .loop seen
  else
    match (ctx.groups[number]?).join with
    | none => .fail choices seen
    | some code =>
      let frame : Frame :=
        .call number s.captures s.calling s.place seen.last choices.size after
      ctx.enter { s with frames := frame :: s.frames, calling := some number } code.branches code.id
        false (choices.push (.callEdge number)) seen.call

/-- Whether the condition of a conditional group holds. -/
def guardHolds (s : State) : Guard → Bool
  | .decided holds => holds
  | .someSet groups => (firstSet s.captures groups).isSome
  | .inCallOf groups =>
    match s.calling with
    | some n => groups.contains n
    | none => false
  | .inCall => s.calling.isSome

/-- Takes characters one after another: at least those before `s.place` have been taken. -/
def takeMore (s : State) (t : Test) (left : Option Nat) (greed : Greed) (choices : Array Choice)
    (seen : Seen) : Config :=
  match greed with
  | .lazy => .run s (choices.push (.takeMore s t left)) seen.call
  | greed =>
    let least := s.place
    let taken := ctx.takeSome s.region t left least
    ctx.touching taken.touch seen fun seen =>
      let s := { s with place := taken.place }
      if greed = .possessive || taken.place ≤ least then .run s choices seen
      else .run s (choices.push (.giveBack s t least)) seen.call

/-- Takes characters one after another. -/
def runMany (s : State) (t : Test) (min : Nat) (max : Option Nat) (greed : Greed)
    (after : List Node) (choices : Array Choice) (seen : Seen) : Config :=
  if min = 0 then ctx.takeMore { s with todo := after } t max greed choices seen
  else
    let taken := ctx.takeSome s.region t (some min) s.place
    ctx.touching taken.touch seen fun seen =>
      if taken.count < min then
        .fail choices (seen.upTo (Nat.min (taken.place + 1) s.region.stop))
      else
        let s := { s with todo := after, place := taken.place }
        if max = some min then .run s choices seen
        else ctx.takeMore s t (max.map (· - min)) greed choices seen

/-- Takes the text of a group, once or more often. -/
def runRef (s : State) (groups : List Nat) (casing : Casing) (min : Nat) (max : Option Nat)
    (greed : Greed) (after : List Node) (choices : Array Choice) (seen : Seen) : Config :=
  let text := firstSet s.captures groups
  let s := { s with todo := after }
  let isNothing : Bool :=
    match text with
    | some text => text.start = text.stop
    | none => min = 0 || ctx.unsetMatches
  if isNothing then .run s choices seen
  else
    let fuel := ctx.subject.size + 1
    let (before, least, touch) := ctx.takeRefs s.region casing text (some min) fuel [] s.place
    ctx.touching touch seen fun seen =>
      if before.length < min then .fail choices seen
      else
        let left := max.map (· - min)
        let s := { s with place := least }
        if left = some 0 then .run s choices seen
        else
          match greed with
          | .lazy => .run s (choices.push (.takeRef s groups casing left)) seen.call
          | _ =>
            let (before, place, touch) := ctx.takeRefs s.region casing text left fuel [] least
            ctx.touching touch seen fun seen =>
              .run { s with place }
                (if before.isEmpty then choices else choices.push (.places s before)) seen.call

/-- Goes back to where a branch of a lookbehind may start. -/
def runBack (s : State) (least greatest : Nat) (after : List Node) (choices : Array Choice)
    (seen : Seen) : Config :=
  let s := { s with todo := after }
  if least = greatest then
    match ctx.back? s.place greatest with
    | none => .fail choices seen
    | some place => .run { s with place } choices (seen.downTo place)
  else
    let (place, count) := farthest greatest s.place 0
    if count < least then .fail choices seen
    else
      let s := { s with place }
      .run s (if count = least then choices else choices.push (.forth s (count - least))) seen.call
where
  /-- Goes back by at most `n` characters, as far as there are any. -/
  farthest : Nat → Nat → Nat → Nat × Nat
    | 0, place, count => (place, count)
    | n + 1, place, count =>
      if ctx.subject.hasPrevious place then farthest n (ctx.subject.previous place) (count + 1)
      else (place, count)

/-- Whether the innermost assertion was entered at `place`. -/
def enteredAt (place : Nat) : List Frame → Bool
  | .group _ _ _ start _ _ :: _ => start = place
  | .condition _ start _ _ _ _ :: _ => start = place
  | _ => false

/-- Runs a node; `after` is the rest of its branch. -/
def perform (s : State) (node : Node) (after : List Node) (choices : Array Choice) (seen : Seen) :
    Config :=
  let on := { s with todo := after }
  match node with
  | .one t =>
    let p := ctx.probe s.region t s.place false
    ctx.touching p.touch seen fun seen =>
      match p.next with
      | some place => .run { on with place } choices seen
      | none => .fail choices (seen.upTo (Nat.min (s.place + 1) s.region.stop))
  | .many t min max greed => ctx.runMany s t min max greed after choices seen
  | .point p =>
    let (holds, touch) := ctx.holdsAt s.region p s.place
    ctx.touching touch (ctx.lookAround s.region p s.place seen) fun seen =>
      if holds then .run on choices seen else .fail choices seen
  | .keep => .run { on with keep := s.place } choices seen
  | .backref groups casing min max greed =>
    ctx.runRef s groups casing min max greed after choices seen
  | .call n => ctx.runCall s n after choices seen
  | .verb v name target =>
    let seen := if v = .skipTo then { seen with skips := seen.skips + 1 } else seen
    if v = .skipTo && seen.skips ≤ ctx.ignoredSkips then .run on choices seen
    else .run on (choices.push (.verb v name target s.place s.calling)) seen.call
  | .accept => ctx.accept s choices seen s.frames
  | .fail => .fail choices seen
  | .back least greatest => ctx.runBack s least greatest after choices seen
  | .returned => if enteredAt s.place s.frames then .run on choices seen else .fail choices seen
  | .group kind id again branches =>
    ctx.enterGroup s node kind id again branches choices.size after choices seen
  | .conditional guard _ again yes no =>
    let frame : Frame := .group .plain again node s.place choices.size after
    .run { s with todo := if guardHolds s guard then yes else no, frames := frame :: s.frames }
      choices seen
  | .onMatch negated look id again yes no =>
    let base := choices.size
    let frames := .group .plain again node s.place base after :: s.frames
    let other := { s with todo := if negated then yes else no, frames }
    ctx.enter { s with frames := .condition negated s.place s.keep base yes no :: frames } look id
      true (choices.push (.otherwise other)) seen.call
  | .optional .lazy item =>
    .run on (choices.push (.resume { s with todo := item :: after })) seen.call
  | .optional greed item =>
    match greed, item with
    | .possessive, .group kind id again branches =>
      ctx.enterGroup s item kind id again branches choices.size after
        (choices.push (.resume on)) seen.call
    | _, item => .run { s with todo := item :: after } (choices.push (.resume on)) seen.call
  | .hidden _ => .run on choices seen

/-- Goes back to the last choice. -/
def goBack (f : Failure) (choices : Array Choice) (seen : Seen) : Config :=
  match choices.back? with
  | none => .done (.failed f) seen
  | some choice =>
    let choices := choices.pop
    match choice.react ctx f with
    | .pass f => .back f choices seen
    | .passAt f touch => ctx.touching touch seen fun seen => .back f choices seen
    | .go s => .run s choices seen.call
    | .goOr s choice touch =>
      ctx.touching touch seen fun seen => .run s (choices.push choice) seen.call

/-- One step of matching. -/
def step : Config → Config
  | .run s choices seen =>
    if ctx.limit < seen.calls then .done .limit seen
    else
      match s.todo with
      | [] => ctx.leave s choices seen
      | node :: after => ctx.perform s node after choices seen
  | .back f choices seen => ctx.goBack f choices seen
  | .done o seen => .done o seen

/-- Matching from a configuration on. -/
def runFrom : Nat → Config → Outcome × Seen
  | _, .done o seen => (o, seen)
  | 0, .run _ _ seen | 0, .back _ _ seen => (.limit, seen)
  | fuel + 1, c => runFrom fuel (ctx.step c)

/-- A number of steps that is greater than matching can take: there are at most `limit` steps that
can be taken back, and between two of them none is done twice at one place. -/
def fuel : Nat := (ctx.limit + 1) * (ctx.limit + 0x100000)

/-- Matching at a place. -/
def run (place : Nat) (region : Region) : Outcome × Seen :=
  match (ctx.groups[0]?).join with
  | none => (.failed .plain, .initial place)
  | some code =>
    let s : State :=
      ⟨[], [], place, place, Array.replicate ctx.groups.size none, none, region⟩
    ctx.runFrom ctx.fuel (ctx.enter s code.branches code.id false #[] (.initial place))

end Context

end Regex.Match
