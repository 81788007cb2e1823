import Regex.Syntax.Reader

/-!
# Widths of lookbehinds

A lookbehind goes back by the width of what it looks for, so every branch of it must have a greatest
width.

* `Width`: the least and the greatest number of characters that something takes.
* `Reach`: how far a lookbehind goes back.
* `Lookbehinds.of`: the reach of every lookbehind of a pattern, by its place.

Calls of groups are followed, but a group that is being measured has no width for a call of it.
-/

namespace Regex.Syntax

open Chars

/-- The least and the greatest number of characters that something takes. -/
structure Width where
  least : Nat
  greatest : Nat
  deriving DecidableEq

/-- How far a lookbehind goes back. -/
structure Reach where
  /-- The greatest width of each branch. -/
  widths : List Nat
  /-- The least width of all branches, unless each of them has just one width. -/
  least : Option Nat

/-- Where a group stands, and what is in it. -/
structure GroupText where
  start : Nat
  stop : Nat
  branches : List (List Expr)

/-- The groups by number; of several groups with a number, the first one. -/
abbrev GroupTable := Array (Option GroupText)

namespace GroupTable

/-- Enters a group unless its number is taken. -/
def enter (table : GroupTable) (number : Nat) (text : GroupText) : GroupTable :=
  table.modify number fun
    | none => some text
    | known => known

mutual

/-- Enters the groups of an item. -/
def ofExpr (table : GroupTable) : Expr → GroupTable
  | .group kind start stop _ branches =>
    let table :=
      match kind with
      | .capture n => table.enter n ⟨start, stop, branches⟩
      | _ => table
    ofBranches table branches
  | .repeated item _ _ _ => ofExpr table item
  | _ => table

/-- Enters the groups of a branch. -/
def ofItems (table : GroupTable) : List Expr → GroupTable
  | [] => table
  | e :: rest => ofItems (ofExpr table e) rest

/-- Enters the groups of all branches. -/
def ofBranches (table : GroupTable) : List (List Expr) → GroupTable
  | [] => table
  | items :: rest => ofBranches (ofItems table items) rest

end

/-- The groups of a pattern. -/
def of (p : Pattern) : GroupTable := ofBranches (Array.replicate (p.groups + 1) none) p.branches

end GroupTable

/-- The number of the first group of a name, and whether there are more. -/
def Pattern.named? (p : Pattern) (text : List Char) : Option NamedGroup :=
  p.names.find? (·.text == text)

/-- What has been found out about the lookbehinds of a pattern. -/
structure Lookbehinds where
  /-- The number of branches measured. -/
  calls : Nat
  /-- The widths of groups that have been measured. -/
  groups : List (Nat × Width)
  reaches : List (Nat × Reach)
  /-- The greatest width of a branch. -/
  farthest : Nat

namespace Lookbehinds

/-- The greatest number of branches to be measured. -/
def maxCalls : Nat := 2000

/-- The greatest width of a branch. -/
def maxWidth : Nat := 65535

/-- The greatest width of a branch of a lookbehind whose branches do not all have just one width. -/
def maxVariable : Nat := 255

/-- Measuring: a fault carries its offset unless that is the offset of the lookbehind around it. -/
abbrev Measuring := StateT Lookbehinds (Except (PatternFault.Cause × Option (Option Nat)))

/-- What can be measured. -/
inductive Task where
  | branch (items : List Expr)
  /-- Only looks for lookbehinds. -/
  | search (branches : List (List Expr))

/-- What measuring depends on. -/
structure Context where
  pattern : Pattern
  groups : GroupTable
  /-- Whether a reference to a group that is not set matches. -/
  unsetMatches : Bool

/-- Refuses a lookbehind that has no greatest width. -/
def unlimited {α : Type} : Measuring α := throw (.unlimitedLookbehind, none)

/-- Adds widths, of which the sum must not be too great. -/
def add (a b : Width) : Measuring Width :=
  let w : Width := ⟨a.least + b.least, a.greatest + b.greatest⟩
  if maxWidth < w.greatest then throw (.lookbehindTooLong, none) else return w

/-- The width of a branch that ends with an item of width `w` when that item is repeated. -/
def addRepeats (all w : Width) (min max : Nat) : Measuring Width :=
  let least := if min = 0 then all.least - w.least else all.least + (min - 1) * w.least
  let greatest :=
    if max = 0 then all.greatest - w.greatest else all.greatest + (max - 1) * w.greatest
  if maxWidth < greatest then throw (.lookbehindTooLong, none) else return ⟨least, greatest⟩

/-- Measures the branches of a group by `measure`. -/
def branchWidths (measure : Task → Measuring Width) (branches : List (List Expr)) :
    Measuring (List Width) :=
  branches.mapM fun items => measure (.branch items)

/-- The width of something that takes as much as one of several. -/
def join (widths : List Width) : Width :=
  ⟨(widths.map (·.least)).foldl min ((widths.map (·.greatest)).foldl max 0),
   (widths.map (·.greatest)).foldl max 0⟩

/-- The width of a group of branches, which is remembered for its number if it has one. -/
def groupWidth (ctx : Context) (measure : Task → Measuring Width) (number : Option Nat)
    (branches : List (List Expr)) : Measuring Width := do
  let b ← get
  match if ctx.pattern.shared then none else number.bind (b.groups.lookup ·) with
  | some w => return w
  | none =>
    let w := join (← branchWidths measure branches)
    match number with
    | some n => modify fun b => { b with groups := (n, w) :: b.groups }
    | none => pure ()
    return w

/-- Finds the reach of a lookbehind. -/
def enterBehind (measure : Task → Measuring Width) (start : Nat) (offset : Option Nat)
    (branches : List (List Expr)) : Measuring Unit := do
  let widths ←
    fun b =>
      match branchWidths measure branches b with
      | .error (cause, none) => .error (cause, some offset)
      | result => result
  let w := join widths
  let fixed := widths.all fun w => w.least == w.greatest
  if !fixed && maxVariable < w.greatest then
    throw (.lookbehindBranchTooLong, some offset)
  modify fun b =>
    { b with reaches := (start, ⟨widths.map (·.greatest), if fixed then none else some w.least⟩) ::
                          b.reaches
             farthest := max b.farthest w.greatest }

/-- The width of a group that is referred to from `place`; `inside` are the starts of the groups
that are being measured for calls of them. -/
def referenceWidth (ctx : Context) (measure : List Nat → Task → Measuring Width) (inside : List Nat)
    (number place offset : Nat) : Measuring Width := do
  if ctx.pattern.groups < number then throw (.unknownGroup, some (some offset))
  match ctx.groups[number]?.join with
  | none => unlimited
  | some g =>
    if (g.start ≤ place && place < g.stop) || inside.contains g.start then unlimited
    else groupWidth ctx (measure (g.start :: inside)) (some number) g.branches

/-- The width of an item; `none` if the branch ends here. -/
def itemWidth (ctx : Context) (measure : List Nat → Task → Measuring Width) (inside : List Nat) :
    Expr → Measuring (Option Width)
  | .literal _ _ | .charClass _ _ | .emptyClass true => return some ⟨1, 1⟩
  | .emptyClass false => unlimited
  | .test t =>
    match t with
    | .cluster => unlimited
    | .lineEnding => return some ⟨1, 2⟩
    | .byte => throw (.singleUnitInLookbehind, none)
    | _ => return some ⟨1, 1⟩
  | .point _ | .keep | .verb _ _ | .callout _ => return some ⟨0, 0⟩
  | .accept | .fail => return none
  | .backref group _ place offset => do
    if ctx.unsetMatches then unlimited
    match group with
    | .number n =>
      if ctx.pattern.shared then unlimited
      some <$> referenceWidth ctx measure inside n place offset
    | .name text =>
      match ctx.pattern.named? text with
      | none => throw (.unknownGroup, some (some offset))
      | some g =>
        if g.duplicate || ctx.pattern.shared then unlimited
        some <$> referenceWidth ctx measure inside g.number place offset
  | .call group place offset => do
    match group with
    | .number 0 => unlimited
    | .number n => some <$> referenceWidth ctx measure inside n place offset
    | .name text =>
      match ctx.pattern.named? text with
      | none => throw (.unknownGroup, some (some offset))
      | some g => some <$> referenceWidth ctx measure inside g.number place offset
  | .group kind start _ offset branches => do
    match kind with
    | .ahead _ _ | .scan _ =>
      discard <| measure inside (.search branches)
      return some ⟨0, 0⟩
    | .behind _ _ =>
      enterBehind (measure inside) start offset branches
      return some ⟨0, 0⟩
    | .conditional .define => return some ⟨0, 0⟩
    | .capture n => some <$> groupWidth ctx (measure inside) (some n) branches
    | _ => some <$> groupWidth ctx (measure inside) none branches
  | .repeated _ _ _ _ => unlimited

/-- Whether repeating an item makes no difference to widths. -/
def isAhead : Expr → Bool
  | .group (.ahead _ _) _ _ _ _ | .group (.scan _) _ _ _ _ => true
  | _ => false

/-- The width of a branch whose items so far have the width `all`. -/
def itemsWidth (ctx : Context) (measure : List Nat → Task → Measuring Width) (inside : List Nat)
    (all : Width) : List Expr → Measuring Width
  | [] => return all
  | .repeated e min max _ :: rest => do
    match ← itemWidth ctx measure inside e with
    | none => return all
    | some w =>
      let all ← add all w
      let all ←
        if isAhead e then pure all
        else
          match max with
          | some max => addRepeats all w min max
          | none => unlimited
      itemsWidth ctx measure inside all rest
  | e :: rest => do
    match ← itemWidth ctx measure inside e with
    | none => return all
    | some w => itemsWidth ctx measure inside (← add all w) rest

/-- Looks for lookbehinds in an item. -/
def searchItem (measure : Task → Measuring Width) : Expr → Measuring Unit
  | .group kind start _ offset branches =>
    match kind with
    | .behind _ _ => enterBehind measure start offset branches
    | _ => discard <| measure (.search branches)
  | .repeated e _ _ _ => searchItem measure e
  | _ => return ()

/-- Measures. The depth is bounded by the number of branches that are measured and by the nesting of
groups. -/
def measure (ctx : Context) : Nat → List Nat → Task → Measuring Width
  | 0, _, _ => throw (.lookbehindTooComplicated, none)
  | depth + 1, inside, task => do
    match task with
    | .branch items =>
      let b ← get
      if maxCalls < b.calls then throw (.lookbehindTooComplicated, none)
      set { b with calls := b.calls + 1 }
      itemsWidth ctx (measure ctx depth) inside ⟨0, 0⟩ items
    | .search branches =>
      for items in branches do
        for e in items do
          searchItem (measure ctx depth inside) e
      return ⟨0, 0⟩

/-- The reach of every lookbehind of a pattern. -/
def of (p : Pattern) (groups : GroupTable) (unsetMatches : Bool) : Reading Lookbehinds :=
  let ctx : Context := ⟨p, groups, unsetMatches⟩
  let depth := (maxCalls + 2) * (maxNesting + 2)
  match measure ctx depth [] (.search p.branches) ⟨0, [], [], 0⟩ with
  | .ok (_, b) => .ok b
  | .error (cause, offset) => .error ⟨cause, offset.join⟩

end Lookbehinds

end Regex.Syntax
