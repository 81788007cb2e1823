import Regex.Code.Node

/-!
# Repetitions that need not give anything back

A repetition of characters need not give any of them back if what follows cannot start with one of
them.

* `excludes`: whether no character passes two tests.
* `Ahead`: what follows a place in a pattern.
* `Repeated.isFinal`: whether what follows cannot start with a character of a repetition.
* `possessify`: the code with such repetitions made possessive.
-/

namespace Regex.Code

open Chars Syntax Unicode

/-- The only characters that pass a test, if they are few. -/
def onlyChars? : Test → Option (List Nat)
  | .char c _ forms => some (c :: forms)
  | .form forms false => some forms
  | _ => none

/-- Whether a test can be judged character by character. -/
def isJudged : Test → Bool
  | .notNewline | .all | .byte | .cluster => false
  | _ => true

/-- Whether a character passes a test, a line ending counting by its first character. -/
def passes (t : Test) (c : Nat) : Bool :=
  match t with
  | .lineEnding => isVerticalSpace c
  | t => t.accepts c

/-- The pairs of kinds without common characters, as far as these are told apart. -/
def kindsExclude (a : CharKind) (an : Bool) (b : CharKind) (bn : Bool) : Bool :=
  match a, an, b, bn with
  | .digit, true, .digit, false => true
  | .digit, false, k, true => k = .digit || k = .word
  | .digit, false, k, false => k = .space || k = .horizontal || k = .vertical
  | .space, true, .space, false => true
  | .space, false, .digit, false | .space, false, .word, false => true
  | .space, false, .space, true => true
  | .word, true, .word, false | .word, true, .digit, false => true
  | .word, false, .word, true => true
  | .word, false, k, false => k = .space || k = .horizontal || k = .vertical
  | .horizontal, true, .horizontal, false => true
  | .horizontal, false, .horizontal, true => true
  | .horizontal, false, k, false => k = .digit || k = .word || k = .vertical
  | .vertical, true, .vertical, false => true
  | .vertical, false, .vertical, true => true
  | .vertical, false, k, false => k = .digit || k = .word || k = .horizontal
  | _, _, _, _ => false

/-- Whether no character passes both of two tests with names of their own. -/
def namedExclude (a b : Test) : Bool :=
  match a, b with
  | .kind k kn, .kind l ln => kindsExclude k kn l ln
  | .kind k false, .lineEnding => k = .digit || k = .word || k = .horizontal
  | .kind .vertical true, .lineEnding => true
  | .lineEnding, .kind k false => k = .digit || k = .word || k = .horizontal
  | .lineEnding, .kind .vertical true => true
  | .property p pn, .property q qn =>
    if p = q then pn != qn
    else if pn || qn then false
    else
      match p.categories?, q.categories? with
      | some ps, some qs => ps.all fun c => !qs.contains c
      | _, _ => false
  | _, _ => false

/-- The characters below 256 that pass a test which can be compared with a set of such
characters. -/
def lowOf? : Test → Option (Nat → Bool)
  | .set s => if s.shape = .mixed then none else some fun c => s.low.getD c false
  | .kind k negated =>
    match k with
    | .digit | .space | .word => some fun c => k.contains c != negated
    | _ => none
  | _ => none

/-- Whether a test is for a set without characters from 256 on. -/
def isNarrow (utf : Bool) : Test → Bool
  | .set s => s.shape = .narrow || (!utf && s.shape != .mixed)
  | _ => false

/-- Whether no character passes both of two tests, as far as this is looked into. -/
def excludes (utf : Bool) (a b : Test) : Bool :=
  match onlyChars? a, onlyChars? b with
  | some cs, _ => isJudged b && cs.all fun c => !passes b c
  | none, some cs => isJudged a && cs.all fun c => !passes a c
  | none, none =>
    if isNarrow utf a || isNarrow utf b then
      match lowOf? a, lowOf? b with
      | some p, some q => (List.range 256).all fun c => !(p c && q c)
      | _, _ => false
    else namedExclude a b

/-- Whether what passes a test is no reason for a place to fit. -/
def excludesPoint (a : Test) : Point → Bool
  | .subjectEnd =>
    match a with
    | .set _ => false
    | _ => true
  | .lineEnd _ | .lastLineEnd =>
    match onlyChars? a with
    | some cs => cs.all fun c => !isVerticalSpace c
    | none =>
      match a with
      | .kind k false => k = .digit || k = .word
      | _ => false
  | _ => false

/-- What the end of a group has to say about a repetition before it. -/
inductive Ending where
  /-- What follows the group decides. -/
  | through
  /-- What follows the group decides if the repetition is of one character in its forms. -/
  | throughForms
  /-- Nothing inside the group is tried again, so that nothing needs to be given back, unless the
  group was entered on the way. -/
  | closes
  | unknown
  deriving DecidableEq

/-- What follows a place in a pattern. -/
inductive Ahead where
  /-- The end of the pattern. -/
  | done
  | branch (nodes : List Node) (ending : Ending) (outer : Ahead)

/-- What the end of a group has to say. `calls` tells whether groups are called. -/
def endingOf (calls : Bool) (kind : Kind) (again : Again) (branches : List (List Node)) : Ending :=
  if again = .greedy || again = .lazy then .unknown
  else
    match kind with
    | .plain => .through
    | .capture _ => if calls then .unknown else .through
    | .atomic => .closes
    | .scriptRun => .throughForms
    | .ahead _ atomic => if atomic then .closes else .unknown
    | .behind _ atomic =>
      match branches with
      | (.back least greatest :: _) :: _ =>
        if atomic && least = greatest then .closes else .unknown
      | _ => if atomic then .closes else .unknown
    | .scan _ => .unknown

/-- A repetition that is looked at, with what it depends on. -/
structure Repeated where
  test : Test
  greed : Greed
  utf : Bool
  calls : Bool

namespace Repeated

variable (r : Repeated)

/-- Whether the repetition is of one character in its forms. -/
def few : Bool := (onlyChars? r.test).isSome

/-- Whether a group can be looked into. -/
def opens (kind : Kind) (again : Again) : Bool :=
  again != .possessive &&
    match kind with
    | .plain | .capture _ | .atomic => true
    | _ => false

/-- Counts a look at what follows; false if there have been too many. -/
def look : StateM Nat Bool := modifyGet fun left => (1 < left, left - 1)

/-- Whether what follows cannot start with a character of the repetition, with the number of looks
that are left. `entered` tells whether the last branch of a group has been entered on the way. -/
def clears : Nat → Ahead → Bool → StateM Nat Bool
  | 0, _, _ => return false
  | fuel + 1, ahead, entered => do
    match ahead with
    | .done => return r.greed = .greedy
    | .branch [] ending outer =>
      if r.greed != .greedy then return false
      else
        match ending with
        | .through => clears fuel outer entered
        | .throughForms => if r.few then clears fuel outer entered else return false
        | .closes => return !entered
        | .unknown => return false
    | .branch (node :: rest) ending outer =>
      let after : Ahead := .branch rest ending outer
      let inside (kind : Kind) (again : Again) (branches : List (List Node)) : StateM Nat Bool := do
        let ahead (nodes : List Node) : Ahead :=
          .branch nodes (endingOf r.calls kind again branches) after
        if !opens kind again then return false
        else if ← branches.dropLast.allM fun nodes => do
            if ← look then clears fuel (ahead nodes) false else return false then
          clears fuel (ahead (branches.getLastD [])) true
        else return false
      match node with
      | .one t => return excludes r.utf r.test t
      | .many t min _ _ =>
        if !excludes r.utf r.test t then return false
        else if 0 < min then return true
        else clears fuel after entered
      | .point p => return excludesPoint r.test p
      | .group kind _ again branches => inside kind again branches
      | .optional greed (.group kind _ again branches) =>
        if greed = .possessive then return false
        else if ← look then
          if ← clears fuel after false then inside kind again branches else return false
        else return false
      | _ => return false

/-- The greatest number of looks at what follows. -/
def maxLooks : Nat := 999

/-- A number that is greater than that of the nodes in a row. -/
def reach : Nat := 65536

/-- Whether the repetition need not give anything back to what follows. -/
def isFinal (ahead : Ahead) : Bool := ((clears r reach ahead false).run maxLooks).1

end Repeated

/-- What making repetitions possessive depends on. -/
structure Possessing where
  utf : Bool
  calls : Bool

namespace Possessing

variable (p : Possessing)

mutual

/-- A node with repetitions made possessive; `after` is what follows it. -/
def ofNode (after : Ahead) : Node → Node
  | .many t min max greed =>
    let r : Repeated := ⟨t, greed, p.utf, p.calls⟩
    .many t min max
      (if greed != .possessive && max != some min && r.isFinal after then .possessive else greed)
  | .group kind id again branches =>
    .group kind id again (ofBranches (endingOf p.calls kind again branches) after branches)
  | .conditional guard id again yes no =>
    let ending := endingOf p.calls .plain again []
    .conditional guard id again (ofNodes ending after yes) (ofNodes ending after no)
  | .onMatch negated look id again yes no =>
    let ending := endingOf p.calls .plain again []
    let lookEnding := endingOf p.calls (.behind false true) .once look
    .onMatch negated (ofBranches lookEnding after look) id again (ofNodes ending after yes)
      (ofNodes ending after no)
  | .optional greed item => .optional greed (ofNode after item)
  | .hidden item => .hidden (ofNode after item)
  | node => node

/-- A branch with repetitions made possessive. -/
def ofNodes (ending : Ending) (outer : Ahead) : List Node → List Node
  | [] => []
  | node :: rest => ofNode (.branch rest ending outer) node :: ofNodes ending outer rest

/-- Branches with repetitions made possessive. -/
def ofBranches (ending : Ending) (outer : Ahead) : List (List Node) → List (List Node)
  | [] => []
  | nodes :: rest => ofNodes ending outer nodes :: ofBranches ending outer rest

end

end Possessing

/-- The code of a pattern with repetitions made possessive. -/
def possessify (utf calls : Bool) (branches : List (List Node)) : List (List Node) :=
  (⟨utf, calls⟩ : Possessing).ofBranches .through .done branches

end Regex.Code
