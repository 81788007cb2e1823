import Regex.Code.Node

/-!
# Repetitions written out

A group that is repeated becomes a row of copies, of which some can be left out.

* `nest`: copies, each of which is only there if those before it are.
* `Repetition`: how often something is to occur.
* `Repetition.ofGroup`: a group repeated.
* `Repetition.ofCall`: a call repeated.

Both also give the room that the code takes, from the room of one copy.
-/

namespace Regex.Code

open Syntax

/-- How often something occurs, and in which order the numbers are tried. -/
structure Repetition where
  min : Nat
  max : Option Nat
  greed : Greed
  deriving DecidableEq

/-- At most `n + 1` copies, each of which can only be there if those before it are. -/
def nest (greed : Greed) (node : Node) : Nat → Node
  | 0 => .optional greed node
  | n + 1 => .optional greed (.group .plain 0 .once [[node, nest greed node n]])

namespace Repetition

/-- The order in which optional copies are tried. -/
def order (r : Repetition) : Greed :=
  match r.greed with
  | .possessive => .greedy
  | g => g

/-- Puts nodes into an atomic group. -/
def atomically (nodes : List Node) : List Node := [.group .atomic 0 .once [nodes]]

/-- Whether a node is a group that is only there to be called. -/
def isDefinition : Node → Bool
  | .conditional (.decided false) _ _ _ [] => true
  | _ => false

/-- The last copy of a group in a repetition without end, and whether it still has to be made
possessive. -/
def loop (r : Repetition) (node : Node) : Node × Bool :=
  let possessive := r.greed == .possessive
  let again := if possessive then Again.possessive else Again.ofGreed r.greed
  match node with
  | .group .scriptRun id _ branches =>
    (.group .scriptRun id (Again.ofGreed r.order) branches, possessive)
  | .group .atomic id _ branches =>
    (.group (if possessive then .plain else .atomic) id again branches, possessive && 2 ≤ r.min)
  | .group kind id _ branches => (.group kind id again branches, possessive && 2 ≤ r.min)
  | .conditional guard id _ yes no =>
    if possessive then (.group .plain 0 again [[node]], 2 ≤ r.min)
    else (.conditional guard id again yes no, false)
  | .onMatch negated look id _ yes no =>
    if possessive then (.group .plain 0 again [[node]], 2 ≤ r.min)
    else (.onMatch negated look id again yes no, false)
  | node => (node, possessive)

/-- A group repeated without end. -/
def ofGroupUnlimited (r : Repetition) (node : Node) (width : Nat) : List Node × Nat :=
  let (last, wrap) := r.loop node
  let isPlain := match node with
    | .group _ _ _ _ => true
    | _ => false
  let extra := if isPlain || r.greed != .possessive then 0 else 6
  let (nodes, width) :=
    if r.min = 0 then
      let greed := if r.greed == .possessive && !wrap then .possessive else r.order
      ([.optional greed last], width + 1 + extra)
    else (List.replicate (r.min - 1) node ++ [last], r.min * width + extra)
  if wrap then (atomically nodes, width + 6) else (nodes, width)

/-- A group repeated at most `max` times. -/
def ofGroupLimited (r : Repetition) (max : Nat) (node : Node) (width : Nat) : List Node × Nat :=
  let copies := List.replicate r.min node
  let extra := max - r.min
  let nodes := if extra = 0 then copies else copies ++ [nest r.order node (extra - 1)]
  let width :=
    if r.min = 0 then width + 1 + if max ≤ 1 then 0 else 6 + (max - 1) * (width + 7) - 6
    else r.min * width + if extra = 0 then 0 else extra * (width + 7) - 6
  if r.greed == .possessive then (atomically nodes, width + 6) else (nodes, width)

/-- A group repeated, given the room of one copy. -/
def ofGroup (r : Repetition) (node : Node) (width : Nat) : List Node × Nat :=
  let isAssertion := match node with
    | .group kind _ _ _ => kind.isAssertion
    | _ => false
  let max := if isAssertion && r.max.isNone then some (r.min + 1) else r.max
  if r.min = 1 && max = some 1 && r.greed != .possessive then ([node], width)
  else if isDefinition node then ([node], width)
  else
    match max with
    | some 0 => ([.hidden node], width + 1)
    | some max => r.ofGroupLimited max node width
    | none => r.ofGroupUnlimited node width

/-- A call repeated, given the room of one copy. -/
def ofCall (r : Repetition) (node : Node) (width : Nat) : List Node × Nat :=
  let wrapped : Node := .group .plain 0 .once [[node]]
  if r.max = some r.min then
    let nodes := List.replicate r.min node
    if r.min = 0 then ([.hidden wrapped], width + 7)
    else if r.greed == .possessive then (atomically nodes, r.min * width + 6)
    else (nodes, r.min * width)
  else if r.min = 0 || (r.min = 1 && r.max.isNone) then r.ofGroup wrapped (width + 6)
  else
    let rest : Repetition := ⟨0, r.max.map (· - r.min), r.greed⟩
    let (nodes, w) := rest.ofGroup wrapped (width + 6)
    (List.replicate r.min node ++ nodes, r.min * width + w)

end Repetition

end Regex.Code
