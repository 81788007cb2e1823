import Regex.Code.KeyByte
import Regex.Code.Literal
import Regex.Code.Repetition
import Regex.Syntax.Lookbehind

/-!
# Assembling code

From the items of a pattern to matching code.

* `Assembly`: what is gathered about a pattern on the way.
* `Draft`: a branch in progress.
* `Piece`: the code of one item, with what it means for the rest of its branch.
* `assemble`: the code of a pattern.

References are resolved here, so a pattern can still be refused. Too many branches of a conditional
group are only reported when there is no other fault.
-/

namespace Regex.Code

open Chars Syntax

/-- What is gathered about a pattern. -/
structure Assembly where
  /-- The first fault of the kind that is reported last. -/
  late : Option PatternFault
  /-- Whether something of varying length has occurred. -/
  vary : Bool
  /-- The number of the next group of branches. -/
  nextId : Nat
  /-- Whether the verb that goes to the next branch occurs. -/
  splits : Bool
  /-- Whether a verb occurs that rules out starts between here and the next one tried. -/
  skips : Bool
  accepts : Bool
  calls : Bool
  /-- Whether a line break is asked for by itself. -/
  lineBreaks : Bool
  /-- Whether single bytes are taken out of characters. -/
  bytes : Bool
  /-- How many characters are looked at before the place where matching starts. -/
  farthest : Nat
  /-- The groups that are referred to by what they have matched. -/
  references : List Nat

/-- Assembling code. -/
abbrev Assembling := StateT Assembly Reading

/-- What assembling depends on. -/
structure Blueprint where
  dialect : Dialect
  pattern : Syntax.Pattern
  reaches : List (Nat × Reach)
  /-- The length of the pattern's text in bytes. -/
  length : Nat

/-- Where in a pattern an item stands. -/
structure Surroundings where
  inAssertion : Bool
  /-- The innermost group of several branches. -/
  scope : Option Nat

/-- The code of one item. -/
structure Piece where
  nodes : List Node
  width : Nat
  keys : Keys
  /-- Whether it takes a character at least. -/
  matched : Bool
  /-- Whether the first byte of the branch comes from it and it is a group. -/
  leads : Bool
  /-- The offset for faults of conditional groups from here on. -/
  offset : Option Nat

/-- A branch in progress. -/
structure Draft where
  /-- The nodes, the last one first. -/
  nodes : List Node
  width : Nat
  keys : Keys
  matched : Bool
  /-- Whether a character is taken for certain before the last item. -/
  certain : Bool
  accepted : Bool
  offset : Option Nat

/-- The code of some branches. -/
structure Group where
  branches : List (List Node)
  width : Nat
  first : KeyByte
  required : KeyByte
  /-- Whether each branch takes a character for certain. -/
  certain : Bool

/-- The greatest room that code can take. -/
def maxWidth : Nat := 65536

namespace Draft

/-- Before the first item of a branch. -/
def empty : Draft := ⟨[], 0, .empty, false, false, false, none⟩

/-- Whether a character is taken for certain. -/
def isCertain (d : Draft) : Bool := d.certain || (d.matched && !d.accepted)

/-- A piece without code. -/
def nothing (d : Draft) : Piece := ⟨[], 0, d.keys, false, false, d.offset⟩

/-- A piece that takes one character out of several. -/
def various (d : Draft) (t : Test) (width : Nat) : Piece :=
  ⟨[.one t], width, d.keys.addVarious, true, false, d.offset⟩

/-- Adds a piece. -/
def add (d : Draft) (p : Piece) (accepts : Bool) : Draft where
  nodes := p.nodes.reverseAux d.nodes
  width := d.width + p.width
  keys := p.keys
  matched := p.matched
  certain := d.isCertain
  accepted := d.accepted || accepts
  offset := p.offset

end Draft

namespace Blueprint

/-- The numbers of the groups of a name. -/
def named (b : Blueprint) (text : List Char) : List Nat :=
  (b.pattern.names.filter (·.text == text)).map (·.number)

/-- The numbers of the groups that a reference means. -/
def resolve (b : Blueprint) (group : GroupRef) (offset : Option Nat) : Reading (List Nat) :=
  match group with
  | .number n => if b.pattern.groups < n then .error ⟨.unknownGroup, offset⟩ else .ok [n]
  | .name text =>
    match b.named text with
    | [] => .error ⟨.unknownGroup, offset⟩
    | groups => .ok groups

/-- The number after the letter of a recursion test. -/
def recursionNumber (offset : Option Nat) (i n : Nat) : List Char → Reading Nat
  | [] => .ok n
  | c :: rest =>
    let n := n * 10 + (c.toNat - '0'.toNat)
    if maxGroupNumber < n then .error ⟨.groupNumberTooBig, offset.map (· + i)⟩
    else recursionNumber offset (i + 1) n rest

/-- The code of a condition that is no assertion, with its room. -/
def guard (b : Blueprint) (condition : Condition) (offset : Option Nat) :
    Reading (Guard × Nat) := do
  let room (groups : List Nat) : Nat := if groups.length = 1 then 3 else 5
  match condition with
  | .define => return (.decided false, 1)
  | .assertion => return (.decided false, 0)
  | .decided holds => return (.decided holds, 1)
  | .groupSet group =>
    let groups ← b.resolve group offset
    return (.someSet groups, room groups)
  | .inCall group =>
    let groups ← b.resolve group offset
    return (.inCallOf groups, room groups)
  | .setOrInCall text =>
    match b.named text with
    | [] =>
      let n ← recursionNumber offset 1 0 text.tail
      if b.pattern.groups < n then throw ⟨.unknownGroup, offset⟩
      return (if n = 0 then .inCall else .inCallOf [n], 3)
    | groups => return (.someSet groups, room groups)

/-- The offset from a condition on for faults of conditional groups. -/
def guardOffset (condition : Condition) (offset before : Option Nat) : Option Nat :=
  match condition with
  | .assertion | .decided _ => before
  | .groupSet (.number _) => offset.map (· - 2)
  | _ => offset

/-- The code for how far a branch of a lookbehind goes back, with its room: what comes before the
branch, and what comes after it. -/
def backNodes (reach : Reach) (width : Nat) : List Node × List Node × Nat :=
  if width = 0 then ([], [], 0)
  else
    match reach.least with
    | none => ([.back width width], [], 3)
    | some least =>
      if least = width then ([.back width width], [], 3)
      else ([.back least width], [.returned], 5)

/-- The code for how far the branches of a group go back. -/
def backs (b : Blueprint) (kind : GroupKind) (start : Nat) : List (List Node × List Node × Nat) :=
  match kind with
  | .behind _ _ =>
    match b.reaches.lookup start with
    | some reach => reach.widths.map (backNodes reach)
    | none => []
  | _ => []

end Blueprint

/-- The kind of the code of a group that is not conditional. -/
def kindOf (b : Blueprint) (kind : GroupKind) : Reading (Kind × Nat × Nat) := do
  match kind with
  | .plain | .conditional _ => return (.plain, 0, 0)
  | .capture n => return (.capture n, 2, 0)
  | .atomic => return (.atomic, 0, 0)
  | .scriptRun => return (.scriptRun, 0, 0)
  | .ahead negated atomic => return (.ahead negated atomic, 0, 0)
  | .behind negated atomic => return (.behind negated atomic, 0, 0)
  | .scan groups =>
    let resolved ← groups.mapM fun g => b.resolve g.1 g.2
    let room := resolved.foldl (fun n g => n + if g.length = 1 then 3 else 5) 0
    return (.scan resolved.flatten, room, (groups.getLast?.map (·.2)).getD 0)

/-- Whether a group is an assertion. -/
def isAssertion : GroupKind → Bool
  | .ahead _ _ | .behind _ _ | .scan _ => true
  | _ => false

namespace Assembling

/-- A new number for a group of branches. -/
def freshId : Assembling Nat := modifyGet fun a => (a.nextId, { a with nextId := a.nextId + 1 })

/-- Keeps a fault that is only reported when there is no other. -/
def reportLate (fault : PatternFault) : Assembling Unit :=
  modify fun a => { a with late := a.late.or (some fault) }

/-- Notes that characters before the place where matching starts are looked at. -/
def looksBack (n : Nat) : Assembling Unit := modify fun a => { a with farthest := max a.farthest n }

/-- A literal character. -/
def literal (b : Blueprint) (d : Draft) (l : Literal) : Assembling Piece := do
  if l.hasForms then
    return ⟨[.one l.test], 3, d.keys.addForms, true, false, d.offset⟩
  else
    let bytes := charBytes b.dialect.utf l.char
    if l.char = 0x0A || l.char = 0x0D then modify fun a => { a with lineBreaks := true }
    let keys := d.keys.addChar bytes l.casing.ignored (← get).vary
    return ⟨[.one l.test], 1 + bytes.length, keys, true, false, d.offset⟩

/-- A class. -/
def charClass (b : Blueprint) (d : Draft) (tree : ClassTree) (casing : Casing) :
    Assembling Piece := do
  match Literal.ofClass? tree casing with
  | some l => literal b d l
  | none =>
    if ClassTree.hasLineBreak tree then modify fun a => { a with lineBreaks := true }
    let t := classTest b.dialect.utf tree casing
    let width :=
      match t with
      | .set _ => 33
      | .all => 1
      | .form _ _ => 3
      | _ => 1 + onlyWidth b.dialect.utf tree
    return d.various t width
where
  /-- The room of the only character of a class. -/
  onlyWidth (utf : Bool) : ClassTree → Nat
    | .complement (.leaf [.range lo _]) => (charBytes utf lo).length
    | _ => 1

/-- A place that takes no characters. -/
def point (d : Draft) (p : Point) : Assembling Piece := do
  let nothing : Piece := { d.nothing with nodes := [.point p], width := 1 }
  match p with
  | .lineStart multiline =>
    return if multiline then { nothing with keys := d.keys.addLineStart } else nothing
  | .lineEnd _ => return nothing
  | .subjectStart | .wordBoundary _ _ =>
    looksBack 1
    return { nothing with keys := d.keys.remember }
  | _ => return { nothing with keys := d.keys.remember }

/-- A verb. -/
def verb (s : Surroundings) (d : Draft) (v : Verb) (name : List Char) : Assembling Piece := do
  match v with
  | .split => modify ({ · with splits := true })
  | .prune | .skip | .skipTo => modify ({ · with skips := true })
  | .mark | .commit => pure ()
  let argument := match v with
    | .mark | .skipTo => true
    | _ => !name.isEmpty
  let room := if argument then 3 + (charBytesLength name) else 1
  return { d.nothing with nodes := [.verb v name s.scope], width := room }
where
  /-- The length of a name in bytes. -/
  charBytesLength (name : List Char) : Nat := name.foldl (fun n c => n + c.utf8Size) 0

/-- A reference to what a group has matched. -/
def backref (b : Blueprint) (d : Draft) (group : GroupRef) (casing : Casing) (offset : Nat) :
    Assembling Piece := do
  let groups ← b.resolve group offset
  modify fun a => { a with references := groups ++ a.references }
  let single := groups.length = 1
  let keys := if single then d.keys.addBackref else d.keys.addBackrefs
  let room := (if single then 3 else 5) + if casing.ignored then 1 else 0
  return { d.nothing with
    nodes := [.backref groups casing 1 (some 1) .greedy], width := room, keys, offset }

/-- A call of a group. -/
def call (b : Blueprint) (d : Draft) (group : GroupRef) (offset : Nat) : Assembling Piece := do
  let groups ← b.resolve group offset
  modify ({ · with calls := true })
  return { d.nothing with
    nodes := [.call (groups.headD 0)], width := 3, keys := d.keys.addCall, offset }

/-- A conditional group, given the code of its branches. -/
def conditional (d : Draft) (condition : Condition) (guard : Guard) (offset : Option Nat)
    (g : Group) (vary : Bool) : Assembling Piece := do
  let id ← freshId
  let count := g.branches.length
  let yes := g.branches.headD []
  let no := (g.branches.drop 1).headD []
  let node : Node :=
    match condition, yes with
    | .assertion, .group kind _ _ look :: yes =>
      match kind with
      | .ahead negated _ | .behind negated _ => .onMatch negated look id .once yes no
      | _ => .conditional (.decided false) id .once yes no
    | .assertion, _ :: yes => .conditional (.decided false) id .once yes no
    | _, yes => .conditional guard id .once yes no
  let piece : Piece := { d.nothing with nodes := [node], width := g.width, offset }
  if condition = .define then
    if 1 < count then reportLate ⟨.alternativesInDefine, offset⟩
    return piece
  else
    if 2 < count then reportLate ⟨.tooManyConditionBranches, offset⟩
    let single := count = 1
    let (first, required) := if single then (.none, .none) else (g.first, g.required)
    let (keys, leads) := d.keys.addGroup first required vary
    return { piece with keys, leads, matched := !single && g.certain }

/-- A group that is not conditional, given the code of its branches. -/
def group (d : Draft) (kind : Kind) (id : Nat) (offset : Option Nat) (g : Group) (vary : Bool) :
    Piece :=
  let piece : Piece := { d.nothing with
    nodes := [.group kind id .once g.branches], width := g.width, offset }
  match kind with
  | .ahead false true => { piece with keys := d.keys.addAhead g.first g.required }
  | .ahead _ _ | .behind _ _ | .scan _ => { piece with keys := d.keys.remember }
  | _ =>
    let (keys, leads) := d.keys.addGroup g.first g.required vary
    { piece with keys, leads, matched := g.certain }

/-- The room of a repetition of one character. -/
def manyWidth (width min : Nat) (max : Option Nat) : Test → Nat
  | .set _ =>
    match min, max with
    | 0, none | 1, none | 0, some 1 => width + 1
    | _, _ => width + 5
  | _ =>
    match min, max with
    | 0, none | 1, none | 0, some 1 => width
    | 0, some _ => width + 2
    | 1, some m => width + if m = 2 then width else width + 2
    | n, some m =>
      width + 2 + if m = n then 0 else if m = n + 1 then width else width + 2
    | _, none => width + 2 + width

/-- Repeats a piece. -/
def repeated (p : Piece) (min : Nat) (max : Option Nat) (greed : Greed) : Assembling Piece := do
  let r : Repetition := ⟨min, max, greed⟩
  let once := min = 1 && max = some 1
  let vary := (← get).vary
  if max != some min then modify ({ · with vary := true })
  let keys := if min = 0 then p.keys.withoutLast else p.keys
  let p := { p with keys, matched := p.matched && 0 < min }
  match p.nodes with
  | [.one t] =>
    if once then return p
    else if max = some 0 then return { p with nodes := [], width := 0 }
    else
      let keys :=
        match t with
        | .char c caseless _ =>
          if c < 0x80 || p.width = 2 then
            if 1 < min then { keys with required := .byte (UInt8.ofNat c) caseless vary } else keys
          else keys
        | _ => keys
      return { p with nodes := [.many t min max greed], width := manyWidth p.width min max t, keys }
  | [.backref groups casing _ _ _] =>
    if once then return p
    else if max = some 0 then return { p with nodes := [], width := 0 }
    else if greed = .possessive then
      let node : Node := .backref groups casing min max .greedy
      return { p with nodes := Repetition.atomically [node], width := p.width + 11 }
    else
      return { p with nodes := [.backref groups casing min max greed], width := p.width + 5 }
  | [.call n] =>
    let (nodes, width) := r.ofCall (.call n) p.width
    return { p with nodes, width }
  | [.fail] => return p
  | [node] =>
    let (nodes, width) := r.ofGroup node p.width
    let keys :=
      if p.leads && 1 < min && !keys.required.isByte then { keys with required := keys.first }
      else keys
    return { p with nodes, width, keys }
  | _ => return p

mutual

/-- The code of an item; `quantified` tells whether it is repeated. -/
def item (b : Blueprint) (s : Surroundings) (d : Draft) (quantified : Bool) :
    Expr → Assembling Piece
  | .literal c casing => literal b d ⟨c, casing⟩
  | .test t => do
    let t := match t with
      | .property .any negated => if negated then .set .empty else .all
      | t => t
    let width := match t with
      | .property _ _ => 3
      | _ => 1
    if let .byte := t then modify ({ · with bytes := true })
    return d.various t width
  | .charClass tree casing => charClass b d tree casing
  | .emptyClass negated =>
    return if negated then d.various .all 1 else d.various (.set .empty) 33
  | .point p => point d p
  | .keep =>
    if s.inAssertion then throw ⟨.keepInLookaround, b.length⟩
    else return { d.nothing with nodes := [.keep], width := 1, keys := d.keys.remember }
  | .backref group casing _ offset => backref b d group casing offset
  | .call group _ offset => call b d group offset
  | .verb v name => verb s d v name
  | .accept => do
    modify ({ · with accepts := true })
    return { d.nothing with
      nodes := [.accept], width := 1, keys := { d.keys with first := d.keys.first.settle } }
  | .fail => return { d.nothing with nodes := [.fail], width := 1 }
  | .callout width => return { d.nothing with width }
  | .group kind start _ offset branches => do
    let vary := (← get).vary
    match kind with
    | .conditional condition =>
      let (guard, room) ← b.guard condition offset
      let g ← bodyOf b s [] branches ⟨[], 6 + room, .unset, .unset, true⟩
      conditional d condition guard (Blueprint.guardOffset condition offset d.offset) g vary
    | _ =>
      let emptyAhead := match kind, branches with
        | .ahead true true, [[]] => true
        | _, _ => false
      if emptyAhead && !quantified then
        return { d.nothing with nodes := [.fail], width := 1 }
      else
        let (code, room, last) ← kindOf b kind
        let id ← freshId
        let scope := if 1 < branches.length then some id else s.scope
        let inside : Surroundings := ⟨s.inAssertion || isAssertion kind, scope⟩
        let g ← bodyOf b inside (b.backs kind start) branches ⟨[], 6 + room, .unset, .unset, true⟩
        return group d code id (if last = 0 then d.offset else some last) g vary
  | .repeated e min max greed => do
    let p ← item b s d true e
    repeated p min max greed

/-- The rest of a branch. -/
def itemsOf (b : Blueprint) (s : Surroundings) (before : Nat) (d : Draft) :
    List Expr → Assembling Draft
  | [] => return { d with certain := d.isCertain }
  | e :: rest => do
    let p ← item b s d false e
    let accepts := match e with
      | .accept => true
      | _ => false
    let d := d.add p accepts
    if maxWidth < before + d.width then throw ⟨.tooLarge, b.length⟩
    itemsOf b s before d rest

/-- The rest of the branches of a group. -/
def bodyOf (b : Blueprint) (s : Surroundings) (backs : List (List Node × List Node × Nat)) :
    List (List Expr) → Group → Assembling Group
  | [], g => return { g with branches := g.branches.reverse }
  | items :: rest, g => do
    let (before, after, room) := backs.headD ([], [], 0)
    let isFirst := g.branches.isEmpty
    let width := g.width + room + if isFirst then 0 else 3
    let d ← itemsOf b s width .empty items
    let nodes := before ++ d.nodes.reverse ++ after
    let (first, required) :=
      if isFirst then (d.keys.first, d.keys.required)
      else Keys.merge (g.first, g.required) (d.keys.first, d.keys.required)
    bodyOf b s backs.tail rest
      ⟨nodes :: g.branches, width + d.width, first, required, g.certain && d.certain⟩

end

end Assembling

/-- The code of a pattern, and what was gathered about it. -/
def assemble (b : Blueprint) (farthest : Nat) : Reading (Group × Assembly) := do
  let start : Assembly := ⟨none, false, 1, false, false, false, false, false, false, farthest, []⟩
  let scope := if 1 < b.pattern.branches.length then some 0 else none
  let empty : Group := ⟨[], 7, .unset, .unset, true⟩
  let (g, a) ← (Assembling.bodyOf b ⟨false, scope⟩ [] b.pattern.branches empty).run start
  if maxWidth < g.width then throw ⟨.tooLarge, b.length⟩
  match a.late with
  | some fault => throw fault
  | none => return (g, a)

end Regex.Code
