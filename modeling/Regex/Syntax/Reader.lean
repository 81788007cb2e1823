import Regex.Chars.Casing
import Regex.Dialect
import Regex.Syntax.Bracket
import Regex.Syntax.Expr
import Regex.Syntax.Name

/-!
# Reading patterns

From a pattern's text to its items.

* `OpenGroup`: a group that is being read, with what surrounds it.
* `Reader`: all that has been read so far.
* `Reader.step`: takes the next item, quantifier or comment.
* `Pattern` is what a text stands for; `readPattern` reads it.

The reader goes through the text once. An item is put at the head of its branch; a quantifier then
wraps the item at the head. A group that is closed becomes an item of the branch around it.
-/

namespace Regex.Syntax

open Chars

/-- The greatest depth of nested groups. -/
def maxNesting : Nat := 250

/-- The greatest number of different named groups. -/
def maxNames : Nat := 10000

/-- The greatest length of the name of a verb in bytes. -/
def maxVerbName : Nat := 255

/-- The branches of a group: those read completely, the last one first, and the items of the one in
progress, the last one first. -/
structure Body where
  done : List (List Expr)
  items : List Expr

namespace Body

/-- One branch without items. -/
def empty : Body := ⟨[], []⟩

/-- Ends the branch in progress. -/
def split (b : Body) : Body := ⟨b.items.reverse :: b.done, []⟩

/-- All branches in order. -/
def branches (b : Body) : List (List Expr) := b.split.done.reverse

end Body

/-- A group that is being read. -/
structure OpenGroup where
  kind : GroupKind
  start : Nat
  /-- The byte offset for faults of the group. -/
  offset : Option Nat
  /-- The modes to return to. -/
  modes : Modes
  /-- Whether a quantifier can follow. -/
  repeatable : Bool
  /-- If the branches number their groups alike: the number of groups before them, and the greatest
  number reached. -/
  restart : Option (Nat × Nat)
  /-- Whether the branches are also atomic in themselves. -/
  atomicInside : Bool
  /-- What has been read around the group. -/
  outer : Body

/-- What has been read of a pattern. -/
structure Reader where
  place : Nat
  modes : Modes
  /-- The number of groups opened so far. -/
  groups : Nat
  names : List NamedGroup
  /-- The groups being read, the innermost first. -/
  stack : List OpenGroup
  /-- The branches of the innermost group. -/
  body : Body
  /-- The number of items that a quantifier would apply to. -/
  repeatable : Nat
  /-- Whether the last item is a quantifier that can still be qualified. -/
  qualifiable : Bool
  quoted : Bool
  /-- 2 after a condition has been opened, where a callout or an assertion must follow; 1 after that
  callout, where an assertion must follow. -/
  expected : Nat
  /-- Whether groups in different branches can share a number. -/
  shared : Bool
  /-- The offsets of the first references to groups 1 to 9. -/
  firstRefs : List (Nat × Nat)

/-- A pattern as read. -/
structure Pattern where
  branches : List (List Expr)
  groups : Nat
  names : List NamedGroup
  /-- Whether groups in different branches can share a number. -/
  shared : Bool

/-- Adds a name of group `number` to the names so far. A name of a group of the same number is
already there; any other one it stands for makes it a duplicate, which has to be `allowed`. -/
def addName (text : List Char) (number : Nat) (allowed : Bool) (duplicate : Bool) :
    List NamedGroup → Except PatternFault.Cause (List NamedGroup)
  | [] => .ok [⟨text, number, duplicate⟩]
  | g :: rest =>
    if g.text = text then
      if g.number = number then .ok (g :: rest)
      else if allowed then
        (addName text number allowed true rest).map ({ g with duplicate := true } :: ·)
      else .error .duplicateName
    else if g.number = number then .error .differentNamesForNumber
    else (addName text number allowed duplicate rest).map (g :: ·)

/-- Skips a comment up to the end of its line. -/
def Source.skipLine (s : Source) (n : Newline) (fuel i : Nat) : Nat :=
  match fuel, s.get? i with
  | fuel + 1, some c =>
    match n.span c.toNat ((s.get? (i + 1)).map Char.toNat) with
    | 0 => s.skipLine n fuel (i + 1)
    | width => i + width
  | _, _ => i

/-- Whether a character does not count in an extended pattern. -/
def isPatternBlank (c : Char) : Bool :=
  let n := c.toNat
  isSpace n || n == 0x85 || n == 0x200E || n == 0x200F || n == 0x2028 || n == 0x2029

namespace Reader

/-- Before anything is read. -/
def initial (modes : Modes) : Reader where
  place := 0
  modes := modes
  groups := 0
  names := []
  stack := []
  body := .empty
  repeatable := 0
  qualifiable := false
  quoted := false
  expected := 0
  shared := false
  firstRefs := []

/-- Puts an item at the head of the branch. `count` is the number of items that a quantifier would
apply to. -/
def put (r : Reader) (e : Expr) (count next : Nat) : Reader :=
  { r with body := { r.body with items := e :: r.body.items }
           repeatable := count, qualifiable := false, place := next }

/-- Puts a character. -/
def putChar (r : Reader) (d : Dialect) (c next : Nat) : Reader :=
  r.put (.literal c (Casing.of d r.modes)) 1 next

/-- Opens a group. -/
def openGroup (r : Reader) (kind : GroupKind) (start : Nat) (offset : Option Nat) (next : Nat) :
    Reader :=
  { r with
    stack := ⟨kind, start, offset, r.modes, true, none, false, r.body⟩ :: r.stack
    body := .empty, place := next }

/-- Changes the innermost group. -/
def onGroup (r : Reader) (f : OpenGroup → OpenGroup) : Reader :=
  match r.stack with
  | g :: outer => { r with stack := f g :: outer }
  | [] => r

/-- Opens an assertion; if it is a condition it cannot be repeated. -/
def openAssertion (r : Reader) (kind : GroupKind) (start : Nat) (offset : Option Nat) (next : Nat)
    (condition : Bool) : Reader :=
  (r.openGroup kind start offset next).onGroup ({ · with repeatable := !condition })

/-- Starts the next branch. -/
def nextBranch (r : Reader) (next : Nat) : Reader :=
  let r := { r with body := r.body.split, place := next }
  match r.stack with
  | g :: outer =>
    match g.restart with
    | some (first, last) =>
      { r with groups := first
               stack := { g with restart := some (first, max last r.groups) } :: outer }
    | none => r
  | [] => r

/-- Closes the innermost group, which becomes an item. -/
def closeGroup (r : Reader) (s : Source) (next : Nat) : Reading Reader :=
  match r.stack with
  | [] => .error (s.fault .unmatchedClosingParenthesis (next - 1))
  | g :: outer =>
    let branches := r.body.branches
    let branches :=
      if g.atomicInside then [[.group .atomic g.start next g.offset branches]] else branches
    let groups :=
      match g.restart with
      | some (_, last) => max last r.groups
      | none => r.groups
    .ok (put { r with stack := outer, modes := g.modes, body := g.outer, groups }
      (.group g.kind g.start next g.offset branches) (if g.repeatable then 1 else 0) next)

/-- How a repetition goes about its work if nothing else is said. -/
def greed (r : Reader) : Greed := if r.modes.ungreedy then .lazy else .greedy

/-- Applies a quantifier to what it follows. An item that ends the match is made a group first. -/
def quantify (r : Reader) (s : Source) (min : Nat) (max : Option Nat) (next : Nat) :
    Reading Reader :=
  let wrap (item : Expr) (rest : List Expr) : Reader :=
    { r with body := { r.body with items := .repeated item min max r.greed :: rest }
             repeatable := 0, qualifiable := true, place := next }
  match r.repeatable, r.body.items with
  | 0, _ | _, [] => .error (s.fault .nothingToRepeat (next - 1))
  | count, .accept :: rest =>
    .ok (wrap (.group .plain next next none [((.accept :: rest).take count).reverse])
      (rest.drop (count - 1)))
  | _, e :: rest => .ok (wrap e rest)

/-- Applies the sign after a quantifier. -/
def qualify (r : Reader) (possessive : Bool) (next : Nat) : Reader :=
  let r := { r with repeatable := 0, qualifiable := false, place := next }
  match r.body.items with
  | .repeated e min max greed :: rest =>
    let greed :=
      if possessive then .possessive
      else match greed with
        | .greedy => .lazy
        | _ => .greedy
    { r with body := { r.body with items := .repeated e min max greed :: rest } }
  | _ => r

/-- What escapes depend on here. -/
def escapeContext (r : Reader) (d : Dialect) : EscapeContext :=
  ⟨d.utf, d.bits.has EngineBits.altBsux, false, r.groups⟩

/-- What classes depend on here. -/
def classContext (r : Reader) (d : Dialect) : ClassContext :=
  ⟨r.escapeContext d, d.ucp, r.modes, d.bits.has EngineBits.allowEmptyClass⟩

/-- Puts a reference to a group by number. The first offset counts for small numbers. -/
def putBackref (r : Reader) (d : Dialect) (n offset next : Nat) : Reader :=
  let known := r.firstRefs.lookup n
  let r := if n < 10 && known.isNone then { r with firstRefs := (n, offset) :: r.firstRefs } else r
  r.put (.backref (.number n) (Casing.of d r.modes) r.place (known.getD offset)) 1 next

/-- Puts a reference to a group by name. -/
def putBackrefName (r : Reader) (s : Source) (d : Dialect) (name : List Char) (start next : Nat) :
    Reader :=
  r.put (.backref (.name name) (Casing.of d r.modes) r.place (s.offset start)) 1 next

/-- Puts a call of a group. -/
def putCall (r : Reader) (s : Source) (group : GroupRef) (at_ next : Nat) : Reader :=
  r.put (.call group r.place (s.offset at_)) 1 next

/-- The character that ends what the one at `i` opens. -/
def delimiter? (s : Source) (i : Nat) : Option Char :=
  match s.get? i with
  | some '{' => some '}'
  | some '<' => some '>'
  | some '\'' => some '\''
  | _ => none

/-- Reads the number or name of a group to be called, whose opening delimiter is at `i`. -/
def readCallName (r : Reader) (s : Source) (d : Dialect) (i : Nat) : Reading Reader := do
  match delimiter? s i with
  | none => .error (s.fault .malformedGroupEscape i)
  | some terminator =>
    match ← s.readGroupNumber (i + 1) r.groups with
    | some (n, stop) =>
      if s.has stop terminator then return r.putCall s (.number n) stop (stop + 1)
      else .error (s.fault .malformedGroupEscape stop)
    | none =>
      let (name, start, next) ← s.readGroupName d.utf (i + 1) terminator
      return r.putCall s (.name name) start next

/-- The test of an item of a class that stands alone. -/
def testOf : ClassItem → Test
  | .kind k negated => .kind k negated
  | .property p negated => .property p negated
  | _ => .all

/-- Takes an escape, whose backslash is at `i`. -/
def readEscape (r : Reader) (s : Source) (d : Dialect) (i : Nat) : Reading Reader := do
  let (e, next) ← s.readEscape (r.escapeContext d) (i + 1)
  let test (t : Test) : Reading Reader := .ok (r.put (.test t) 1 next)
  let point (p : Point) : Reading Reader := .ok (r.put (.point p) 0 next)
  match e with
  | .char c => return r.putChar d c next
  | .kind k negated => test (testOf ((r.classContext d).kindItem k negated))
  | .property negated =>
    let (p, inverted, next) ← s.readProperty next
    return r.put (.test (testOf ((r.classContext d).propertyItem p (negated != inverted)))) 1 next
  | .notNewline => test .notNewline
  | .byte =>
    if d.bits.has EngineBits.neverBackslashC then .error (s.fault .singleUnitDisabled next)
    else test (if d.utf then .byte else .all)
  | .lineEnding => test .lineEnding
  | .cluster => test .cluster
  | .subjectStart => point .subjectStart
  | .subjectEnd => point .subjectEnd
  | .lastLineEnd => point .lastLineEnd
  | .matchStart => point .matchStart
  | .wordBoundary negated => point (.wordBoundary (d.ucp && !r.modes.asciiWord) negated)
  | .keep => return r.put .keep 0 next
  | .quote => return { r with quoted := true, place := next }
  | .endQuote => return { r with place := next }
  | .backref n => return r.putBackref d n (s.offset (next - 1)) next
  | .backrefName =>
    match delimiter? s next with
    | none => .error (s.fault .malformedNameEscape next)
    | some terminator =>
      let (name, start, next) ← s.readGroupName d.utf (next + 1) terminator
      return r.putBackrefName s d name start next
  | .callName => r.readCallName s d next

/-- The class of word characters, by properties if these are used. -/
def wordTest (d : Dialect) : Test := if d.ucp then .property .word false else .kind .word false

/-- Takes a class or a pair of brackets that looks like one; the first bracket is at `i`. -/
def readBracket (r : Reader) (s : Source) (d : Dialect) (i : Nat) : Reading Reader := do
  let next := i + 1
  let wordEdge (kind : GroupKind) : Reader :=
    let edge := r.put (.point (.wordBoundary (d.ucp && !r.modes.asciiWord) false)) 0 next
    edge.put (.group kind i (i + 7) none [[.test (wordTest d)]]) 1 (i + 7)
  if s.hasText next "[:<:]]".toList then return wordEdge (.ahead false true)
  else if s.hasText next "[:>:]]".toList then return wordEdge (.behind false true)
  else if isPosixSign (s.get? next) && (s.posixEnd? next).isSome then
    .error (s.fault
      (if s.has next ':' then .posixClassOutsideClass else .posixCollatingElement) i)
  else
    let mode := if d.bits.has EngineBits.altExtendedClass then .nesting else .plain
    match ← s.readClass (r.classContext d) mode next with
    | (.set tree, next) => return r.put (.charClass tree (Casing.of d r.modes)) 1 next
    | (.empty negated, next) => return r.put (.emptyClass negated) 1 next

/-- Takes a class of expressions, whose bracket is before `next`. -/
def readExpressionClass (r : Reader) (s : Source) (d : Dialect) (next : Nat) : Reading Reader := do
  match ← s.readClass (r.classContext d) .expression next with
  | (.set tree, next) => return r.put (.charClass tree (Casing.of d r.modes)) 1 next
  | (.empty negated, next) => return r.put (.emptyClass negated) 1 next

/-- The verbs, with whether an argument is their own and whether there must be one. -/
inductive VerbForm where
  | mark
  /-- Takes an argument of its own; the verb without it, and with it. -/
  | named (bare full : Verb)
  /-- An argument stands for a mark before it. -/
  | marked (e : Expr)

/-- The verbs by name. -/
def verbs : List (String × VerbForm) :=
  [("", .mark), ("MARK", .mark), ("ACCEPT", .marked .accept), ("F", .marked .fail),
   ("FAIL", .marked .fail), ("COMMIT", .named .commit .commit), ("PRUNE", .named .prune .prune),
   ("SKIP", .named .skip .skipTo), ("THEN", .named .split .split)]

/-- Reads the name of a verb from `i` up to a closing parenthesis; `name` is what has been read of
it in reverse, `start` the place of its first character. -/
def readVerbName (r : Reader) (s : Source) (d : Dialect) (start : Nat) (fuel i : Nat)
    (quoted : Bool) (name : List Char) : Reading (List Char × Nat) := do
  let escapes := d.bits.has EngineBits.altVerbnames
  match fuel, s.get? i with
  | 0, _ | _, none => .error (s.fault .unknownVerb s.size)
  | fuel + 1, some c =>
    if quoted then
      if s.hasText i ['\\', 'E'] then r.readVerbName s d start fuel (i + 2) false name
      else r.readVerbName s d start fuel (i + 1) true (c :: name)
    else if escapes && r.modes.extended && isPatternBlank c then
      r.readVerbName s d start fuel (i + 1) false name
    else if escapes && r.modes.extended && c == '#' then
      r.readVerbName s d start fuel (s.skipLine d.newline s.size (i + 1)) false name
    else if c == ')' then
      if maxVerbName < s.offset i - s.offset start then .error (s.fault .verbNameTooLong i)
      else return (name.reverse, i + 1)
    else if c == '\\' && escapes then
      let (e, next) ← s.readEscape (r.escapeContext d) (i + 1)
      match e with
      | .char n => r.readVerbName s d start fuel next false (Char.ofNat n :: name)
      | .quote => r.readVerbName s d start fuel next true name
      | .endQuote => r.readVerbName s d start fuel next false name
      | _ => .error (s.fault .badEscapeInVerbName next)
    else r.readVerbName s d start fuel (i + 1) false (c :: name)

/-- Takes a verb, whose name starts at `i`. -/
def readVerb (r : Reader) (s : Source) (d : Dialect) (i : Nat) : Reading Reader := do
  let (word, stop) ← s.readWord i
  if !(s.has stop ':' || s.has stop ')') then throw (s.fault .unknownVerb stop)
  match verbs.lookup (String.ofList word) with
  | none => throw (s.fault .unknownVerb stop)
  | some form =>
    let stop := if s.hasText stop [':', ')'] then stop + 1 else stop
    if s.has stop ':' then
      let start := stop + 1
      let (name, next) ← r.readVerbName s d start (s.size + 1) start false []
      match form with
      | .mark => return r.put (.verb .mark name) 0 next
      | .named _ full => return r.put (.verb full name) 0 next
      | .marked e =>
        let count := match e with
          | .accept => 2
          | _ => 0
        return (r.put (.verb .mark name) 0 next).put e count next
    else
      match form with
      | .mark => throw (s.fault .markWithoutName stop)
      | .named bare _ => return r.put (.verb bare []) 0 (stop + 1)
      | .marked e =>
        let count := match e with
          | .accept => 1
          | _ => 0
        return r.put e count (stop + 1)

/-- What a word after `(*` and before a colon can introduce. -/
inductive WordForm where
  | group (kind : GroupKind)
  | behind (kind : GroupKind)
  | atomicScriptRun
  | scan

/-- The groups that start with a word. -/
def words : List (String × WordForm) :=
  [("pla", .group (.ahead false true)), ("positive_lookahead", .group (.ahead false true)),
   ("plb", .behind (.behind false true)), ("positive_lookbehind", .behind (.behind false true)),
   ("napla", .group (.ahead false false)),
   ("non_atomic_positive_lookahead", .group (.ahead false false)),
   ("naplb", .behind (.behind false false)),
   ("non_atomic_positive_lookbehind", .behind (.behind false false)),
   ("nla", .group (.ahead true true)), ("negative_lookahead", .group (.ahead true true)),
   ("nlb", .behind (.behind true true)), ("negative_lookbehind", .behind (.behind true true)),
   ("scs", .scan), ("scan_substring", .scan),
   ("atomic", .group .atomic), ("sr", .group .scriptRun), ("script_run", .group .scriptRun),
   ("asr", .atomicScriptRun), ("atomic_script_run", .atomicScriptRun)]

/-- Whether a group can be a condition. -/
def WordForm.isCondition : WordForm → Bool
  | .group (.ahead _ true) | .behind (.behind _ true) => true
  | _ => false

/-- The list of groups whose texts are to be scanned, from after its opening parenthesis on; each
group has the offset for faults. -/
def readGroupList (r : Reader) (s : Source) (d : Dialect) (fuel i : Nat)
    (groups : List (GroupRef × Nat)) : Reading (List (GroupRef × Nat) × Nat) := do
  match fuel with
  | 0 => .error (s.fault .missingClosingParenthesis s.size)
  | fuel + 1 =>
    if s.size ≤ i then throw (s.fault .missingClosingParenthesis i)
    let (group, offset, stop) ←
      match ← s.readGroupNumber i r.groups with
      | some (0, stop) => throw (s.fault .unknownGroup stop)
      | some (n, stop) => pure (GroupRef.number n, s.offset i, stop)
      | none =>
        match if s.has i '{' then none else delimiter? s i with
        | some terminator => do
          let (name, start, stop) ← s.readGroupName d.utf (i + 1) terminator
          pure (GroupRef.name name, s.offset start, stop)
        | none => throw (s.fault .unknownGroup i)
    let groups := (group, offset) :: groups
    match s.get? stop with
    | none => throw (s.fault .missingClosingParenthesis stop)
    | some ')' => return (groups.reverse, stop + 1)
    | some ',' => r.readGroupList s d fuel (stop + 1) groups
    | some _ => throw (s.fault .unclosedCondition stop)

/-- Takes a group that starts with a word, which starts at `i`; the parenthesis is at `start`. -/
def readWordGroup (r : Reader) (s : Source) (d : Dialect) (start i : Nat) (condition : Bool) :
    Reading Reader := do
  let (word, stop) ← s.readWord i
  if !s.has stop ':' then throw (s.fault .unknownNamedAssertion stop)
  match words.lookup (String.ofList word) with
  | none => throw (s.fault .unknownNamedAssertion stop)
  | some form =>
    if condition && !form.isCondition then throw (s.fault .assertionExpected stop)
    let next := stop + 1
    match form with
    | .group kind => return r.openAssertion kind start (s.offset start) next condition
    | .behind kind => return r.openAssertion kind start (s.offset (stop - 3)) next condition
    | .atomicScriptRun =>
      return (r.openGroup .scriptRun start (s.offset start) next).onGroup
        ({ · with atomicInside := true })
    | .scan =>
      if s.size ≤ next then throw (s.fault .missingClosingParenthesis next)
      if !s.has next '(' then throw (s.fault .unknownGroup next)
      let (groups, next) ← r.readGroupList s d (s.size + 1) (next + 1) []
      return r.openGroup (.scan groups) start (s.offset start) next

/-- What a letter after `(?` stands for and its width, if it is one; the characters after it can
belong to it. `on` is a set of modes to which the letter's are added. -/
def modeLetter? (s : Source) (i : Nat) (on : Modes) : Option (Modes × Nat) :=
  match s.get? i, s.get? (i + 1) with
  | some 'a', some 'D' => some ({ on with asciiDigit := true }, 2)
  | some 'a', some 'P' => some ({ on with asciiPosix := true, asciiPosixDigit := true }, 2)
  | some 'a', some 'S' => some ({ on with asciiSpace := true }, 2)
  | some 'a', some 'T' => some ({ on with asciiPosixDigit := true }, 2)
  | some 'a', some 'W' => some ({ on with asciiWord := true }, 2)
  | some 'a', _ =>
    some ({ on with asciiDigit := true, asciiSpace := true, asciiWord := true, asciiPosix := true
                    asciiPosixDigit := true }, 1)
  | some 'J', _ => some ({ on with duplicateNames := true }, 1)
  | some 'i', _ => some ({ on with caseless := true }, 1)
  | some 'm', _ => some ({ on with multiline := true }, 1)
  | some 'n', _ => some ({ on with noAutoCapture := true }, 1)
  | some 'r', _ => some ({ on with restricted := true }, 1)
  | some 's', _ => some ({ on with dotall := true }, 1)
  | some 'U', _ => some ({ on with ungreedy := true }, 1)
  | some 'x', some 'x' => some ({ on with extended := true, extendedMore := true }, 2)
  | some 'x', _ => some ({ on with extended := true }, 1)
  | _, _ => none

/-- Reads the letters of a switch of modes from `i` on: the modes to be set and those to be unset,
and the place after them. `unsetting` tells on which side of a hyphen we are, `hyphen` whether one
may come. -/
def readModes (s : Source) (fuel i : Nat) (set unset : Modes) (unsetting hyphen : Bool) :
    Reading (Modes × Modes × Nat) :=
  match fuel, s.get? i with
  | 0, _ | _, none => .error (s.fault .missingClosingParenthesis i)
  | fuel + 1, some c =>
    if c == ')' || c == ':' then .ok (set, unset, i)
    else if c == '-' then
      if hyphen then readModes s fuel (i + 1) set unset true false
      else .error (s.fault .misplacedHyphen i)
    else
      match modeLetter? s i (if unsetting then unset else set) with
      | none => .error (s.fault .unknownGroupKind i)
      | some (on, width) =>
        if unsetting then readModes s fuel (i + width) set on unsetting hyphen
        else readModes s fuel (i + width) on unset unsetting hyphen

/-- Takes a switch of modes, or a group that starts with one; the letters start at `i`. -/
def readSwitch (r : Reader) (s : Source) (start i : Nat) : Reading Reader := do
  let cleared := s.has i '^'
  let (set, unset, stop) ←
    readModes s (s.size + 1) (if cleared then i + 1 else i) .none .none false (!cleared)
  let modes := (if cleared then r.modes.clear else r.modes).switch set unset
  if s.has stop ')' then
    return { r with modes, repeatable := 0, qualifiable := false, place := stop + 1 }
  else
    return { r.openGroup .plain start (s.offset start) (stop + 1) with modes }

/-- Opens a named group, whose name starts at `i`. -/
def readNamedGroup (r : Reader) (s : Source) (d : Dialect) (start i : Nat) (terminator : Char) :
    Reading Reader := do
  let (text, _, next) ← s.readGroupName d.utf i terminator
  if maxGroupNumber ≤ r.groups then throw (s.fault .tooManyGroups next)
  let number := r.groups + 1
  if maxNames ≤ r.names.length then throw (s.fault .tooManyNames next)
  match addName text number r.modes.duplicateNames false r.names with
  | .error cause => throw (s.fault cause next)
  | .ok names =>
    let r := { r with groups := number, names }
    return r.openGroup (.capture number) start (s.offset start) next

/-- Opens a group that is numbered, unless groups without names are not. -/
def readCapture (r : Reader) (s : Source) (start : Nat) : Reading Reader :=
  let next := start + 1
  if r.modes.noAutoCapture then .ok (r.openGroup .plain start (s.offset start) next)
  else if maxGroupNumber ≤ r.groups then .error (s.fault .tooManyGroups next)
  else
    let number := r.groups + 1
    .ok ({ r with groups := number }.openGroup (.capture number) start (s.offset start) next)

/-- The delimiters of the text of a callout, each with the one that ends it. -/
def calloutDelimiters : List (Char × Char) :=
  [('\x60', '\x60'), ('\'', '\''), ('\x22', '\x22'), ('^', '^'), ('%', '%'), ('#', '#'), ('$', '$'),
   ('{', '}')]

/-- The place after the text of a callout; a doubled delimiter is part of the text. -/
def skipCalloutText? (s : Source) (delimiter : Char) (fuel i : Nat) : Option Nat :=
  match fuel, s.get? i with
  | 0, _ | _, none => none
  | fuel + 1, some c =>
    if c == delimiter then
      if s.has (i + 1) delimiter then skipCalloutText? s delimiter fuel (i + 2) else some (i + 1)
    else skipCalloutText? s delimiter fuel (i + 1)

/-- Takes a callout; `i` is the place after its letter, and `expected` what was expected before. -/
def readCallout (r : Reader) (s : Source) (i expected : Nat) : Reading Reader := do
  match s.get? i with
  | none => throw (s.fault .missingClosingParenthesis i)
  | some c =>
    let (width, stop) ←
      if c == ')' || isDigit c.toNat then
        let stop := s.skipDigits i
        let digits := s.slice i stop
        let small := (List.range (digits.length + 1)).findSome? fun k =>
          if 255 < Source.valueOf 255 (digits.take k) then some (i + k) else none
        match small with
        | some place => throw (s.fault .calloutNumberTooBig place)
        | none => pure (6, stop)
      else
        match calloutDelimiters.lookup c with
        | none => throw (s.fault .unknownCalloutDelimiter i)
        | some delimiter =>
          match skipCalloutText? s delimiter (s.size + 1) (i + 1) with
          | none => throw (s.fault .unclosedCalloutText i)
          | some stop => pure (9 + s.offset stop - s.offset i, stop)
    if !s.has stop ')' then throw (s.fault .unclosedCallout stop)
    return { r.put (.callout width) 0 (stop + 1) with expected := expected - 1 }

/-- The number of this engine's version, and its place behind the point in two digits. -/
def version : Nat × Nat := (10, 46)

/-- Reads a condition on the version of the engine from after the word on: whether it holds, and the
place of what must be the closing parenthesis. -/
def readVersion (s : Source) (i : Nat) : Reading (Bool × Nat) := do
  let (atLeast, i) := if s.has i '>' then (true, i + 1) else (false, i)
  if !s.has i '=' then throw (s.fault .badVersionCondition i)
  match ← s.readNumber (i + 1) 1000 .badVersionCondition with
  | none => throw (s.fault .badVersionCondition (i + 1))
  | some (major, stop) =>
    let (minor, stop) ←
      if s.has stop '.' then
        if !s.hasDigit (stop + 1) then throw (s.fault .badVersionCondition (stop + 1))
        let tens := Source.valueOf 9 (s.slice (stop + 1) (stop + 2)) * 10
        if s.size ≤ stop + 2 then throw (s.fault .badVersionCondition (stop + 2))
        let (ones, next) :=
          if s.hasDigit (stop + 2) then (Source.valueOf 9 (s.slice (stop + 2) (stop + 3)), stop + 3)
          else (0, stop + 2)
        if !s.has next ')' then throw (s.fault .badVersionCondition next)
        pure (tens + ones, next)
      else
        if s.size ≤ stop then throw (s.fault .badVersionCondition stop)
        pure (0, stop)
    let holds :=
      if atLeast then major < version.1 || (major == version.1 && minor ≤ version.2)
      else major == version.1 && minor == version.2
    return (holds, stop)

/-- Whether a name is the letter R followed by digits only. -/
def isRecursionName (name : List Char) : Bool :=
  match name with
  | 'R' :: digits => digits.all fun c => isDigit c.toNat
  | _ => false

/-- Reads a condition that is no assertion: the condition, its offset for faults, and the place of
what must be the closing parenthesis. -/
def readCondition (r : Reader) (s : Source) (d : Dialect) (i : Nat) :
    Reading (Condition × Option Nat × Nat) := do
  match ← s.readGroupNumber i r.groups with
  | some (0, stop) => throw (s.fault .unknownGroup stop)
  | some (n, stop) => return (.groupSet (.number n), some (s.offset stop - 2), stop)
  | none =>
    if 10 ≤ s.length - s.offset i && s.hasText i "VERSION".toList && !s.has (i + 7) ')' then
      let (holds, stop) ← readVersion s (i + 7)
      return (.decided holds, none, stop)
    else if s.hasText i ['R', '&'] then
      let (name, start, next) ← s.readGroupName d.utf (i + 2) ')'
      return (.inCall (.name name), s.offset start, next - 1)
    else
      match if s.has i '{' then none else delimiter? s i with
      | some terminator =>
        let (name, start, next) ← s.readGroupName d.utf (i + 1) terminator
        return (.groupSet (.name name), s.offset start, next)
      | none =>
        let (name, start, next) ← s.readGroupName d.utf i ')'
        let condition : Condition :=
          if name = "DEFINE".toList then .define
          else if isRecursionName name then .setOrInCall name
          else .groupSet (.name name)
        return (condition, s.offset start, next - 1)

/-- Opens a conditional group; `i` is the place after the parenthesis of its condition. -/
def readConditional (r : Reader) (s : Source) (d : Dialect) (start i : Nat) : Reading Reader := do
  match s.get? i with
  | none => throw (s.fault .missingClosingParenthesis i)
  | some c =>
    if c == '?' || c == '*' then
      let r := r.openGroup (.conditional .assertion) start none (i - 1)
      return { r with expected := 2 }
    else
      let (condition, offset, stop) ← r.readCondition s d i
      if !s.has stop ')' then throw (s.fault .unclosedCondition stop)
      return r.openGroup (.conditional condition) start offset (stop + 1)

/-- Takes a call of a group by number, which starts at `i`. -/
def readCallNumber (r : Reader) (s : Source) (i : Nat) : Reading Reader := do
  match ← s.readGroupNumber i r.groups with
  | none => throw (s.fault .missingClosingParenthesis i)
  | some (n, stop) =>
    if s.has stop ')' then return r.putCall s (.number n) stop (stop + 1)
    else throw (s.fault .missingClosingParenthesis stop)

/-- Takes a call of a group by name, which starts at `i`. -/
def readCallByName (r : Reader) (s : Source) (d : Dialect) (i : Nat) : Reading Reader := do
  let (name, start, next) ← s.readGroupName d.utf i ')'
  return r.putCall s (.name name) start next

/-- Takes what starts with `(?P`; `i` is the place after that. -/
def readNamedForm (r : Reader) (s : Source) (d : Dialect) (start i : Nat) : Reading Reader := do
  match s.get? i with
  | none => throw (s.fault .missingClosingParenthesis i)
  | some '<' => r.readNamedGroup s d start (i + 1) '>'
  | some '>' => r.readCallByName s d (i + 1)
  | some '=' =>
    let (name, place, next) ← s.readGroupName d.utf (i + 1) ')'
    return r.putBackrefName s d name place next
  | some _ => throw (s.fault .unknownPKind i)

/-- Takes what starts with `(?`; the parenthesis is at `start`, and `expected` is what was expected
before. -/
def readGroup (r : Reader) (s : Source) (d : Dialect) (start expected : Nat) : Reading Reader :=
  let i := start + 2
  let condition := 0 < expected
  let assertion (kind : GroupKind) (next : Nat) : Reading Reader :=
    .ok (r.openAssertion kind start (s.offset start) next condition)
  match s.get? i with
  | none => .error (s.fault .missingClosingParenthesis i)
  | some c =>
    match c with
    | '|' =>
      let r := { r with shared := true }.openGroup .plain start (s.offset start) (i + 1)
      .ok (r.onGroup ({ · with restart := some (r.groups, r.groups) }))
    | 'P' => r.readNamedForm s d start (i + 1)
    | 'R' =>
      if s.has (i + 1) ')' then .ok (r.putCall s (.number 0) (i + 1) (i + 2))
      else .error (s.fault .unclosedRecursion (i + 1))
    | '+' =>
      if s.hasDigit (i + 1) then r.readCallNumber s i
      else .error (s.fault .digitExpectedAfterSign i)
    | '&' => r.readCallByName s d (i + 1)
    | 'C' => r.readCallout s (i + 1) expected
    | '(' => r.readConditional s d start (i + 1)
    | '>' => .ok (r.openGroup .atomic start (s.offset start) (i + 1))
    | '=' => assertion (.ahead false true) (i + 1)
    | '*' => assertion (.ahead false false) (i + 1)
    | '!' => assertion (.ahead true true) (i + 1)
    | '<' =>
      match s.get? (i + 1) with
      | some '=' => assertion (.behind false true) (i + 2)
      | some '!' => assertion (.behind true true) (i + 2)
      | some '*' => assertion (.behind false false) (i + 2)
      | _ => r.readNamedGroup s d start (i + 1) '>'
    | '\'' => r.readNamedGroup s d start (i + 1) '\''
    | '[' => r.readExpressionClass s d (i + 1)
    | _ =>
      if isDigit c.toNat || (c == '-' && s.hasDigit (i + 1)) then r.readCallNumber s i
      else r.readSwitch s start i

/-- Whether the parenthesis before `i` can open what is expected to be a condition. -/
def opensCondition (s : Source) (i expected : Nat) : Bool :=
  3 ≤ s.size - i &&
    if s.has i '*' then
      match s.get? (i + 1) with
      | some c => isLower c.toNat
      | none => false
    else if s.has i '?' then
      match s.get? (i + 1) with
      | some 'C' => expected == 2
      | some '=' | some '!' => true
      | some '<' => s.has (i + 2) '=' || s.has (i + 2) '!'
      | _ => false
    else false

/-- Takes what starts with a parenthesis at `i`; `expected` is what was expected before. -/
def readParenthesis (r : Reader) (s : Source) (d : Dialect) (i expected : Nat) : Reading Reader :=
  match s.get? (i + 1) with
  | none => .error (s.fault .missingClosingParenthesis (i + 1))
  | some '?' => r.readGroup s d i expected
  | some '*' =>
    match s.get? (i + 2) with
    | none | some ')' => .ok { r with place := i + 1 }
    | some c =>
      if isLower c.toNat then r.readWordGroup s d i (i + 2) (0 < expected)
      else r.readVerb s d (i + 2)
  | some _ => r.readCapture s i

/-- Takes an item or a quantifier that starts with the character `c` at `i`. -/
def readItem (r : Reader) (s : Source) (d : Dialect) (c : Char) (i : Nat) : Reading Reader := do
  let next := i + 1
  let expected := r.expected
  let r := { r with expected := 0 }
  match c with
  | '*' => r.quantify s 0 none next
  | '+' => r.quantify s 1 none next
  | '?' => r.quantify s 0 (some 1) next
  | '{' =>
    match ← s.readCounts next with
    | some (min, max, next) => r.quantify s min max next
    | none => return r.putChar d c.toNat next
  | _ =>
    let r := { r with repeatable := 0, qualifiable := false }
    match c with
    | '\\' => r.readEscape s d i
    | '^' => return r.put (.point (.lineStart r.modes.multiline)) 0 next
    | '$' => return r.put (.point (.lineEnd r.modes.multiline)) 0 next
    | '.' => return r.put (.test (if r.modes.dotall then .all else .notNewline)) 1 next
    | '[' => r.readBracket s d i
    | '(' => r.readParenthesis s d i expected
    | '|' => return r.nextBranch next
    | ')' => r.closeGroup s next
    | _ => return r.putChar d c.toNat next

/-- Takes the next part of the text, of which there is some left. -/
def step (r : Reader) (s : Source) (d : Dialect) : Reading Reader :=
  let i := r.place
  let next := i + 1
  match s.get? i with
  | none => .ok r
  | some c =>
    if maxNesting < r.stack.length then .error (s.fault .nestedTooDeeply i)
    else if r.quoted then
      if s.hasText i ['\\', 'E'] then .ok { r with quoted := false, place := i + 2 }
      else .ok (r.putChar d c.toNat next)
    else if c == '\\' && (s.has next 'Q' || s.has next 'E') then
      .ok { r with quoted := s.has next 'Q', place := i + 2 }
    else if r.modes.extended && isPatternBlank c then .ok { r with place := next }
    else if r.modes.extended && c == '#' then
      .ok { r with place := s.skipLine d.newline s.size next }
    else if s.hasText i ['(', '?', '#'] then
      let stop := s.scan (· == ')') (i + 2)
      if s.has stop ')' then .ok { r with place := stop + 1 }
      else .error (s.fault .unclosedComment stop)
    else if 0 < r.expected && !(c == '(' && opensCondition s next r.expected) then
      .error (s.fault .assertionExpected i)
    else if r.qualifiable && (c == '?' || c == '+') then .ok (r.qualify (c == '+') next)
    else r.readItem s d c i

/-- Reads the rest of the text. -/
def run (s : Source) (d : Dialect) : Nat → Reader → Reading Reader
  | 0, r => .ok r
  | fuel + 1, r =>
    if r.place < s.size then
      match r.step s d with
      | .ok r => run s d fuel r
      | .error fault => .error fault
    else .ok r

/-- The pattern that has been read, all groups being closed. -/
def finish (r : Reader) (s : Source) : Reading Pattern :=
  if r.stack.isEmpty then .ok ⟨r.body.branches, r.groups, r.names, r.shared⟩
  else .error (s.fault .missingClosingParenthesis s.size)

end Reader

/-- The pattern whose characters all stand for themselves. -/
def literalPattern (s : Source) (d : Dialect) (modes : Modes) : Pattern :=
  ⟨[s.units.toList.map fun c => .literal c.toNat (Casing.of d modes)], 0, [], false⟩

/-- Reads a pattern. -/
def readPattern (s : Source) (d : Dialect) (modes : Modes) : Reading Pattern := do
  if d.bits.has EngineBits.literal then return literalPattern s d modes
  else (← (Reader.initial modes).run s d (s.size + 1)).finish s

end Regex.Syntax
