import Regex.Syntax.Escape
import Regex.Syntax.PropertyName

/-!
# Bracket expressions

Character classes in square brackets, with the set operations of extended classes.

* `ClassMode`: how the text of a class is read.
* `Level`: an open class with what has been read of it.
* `Brackets`: all open classes; `Brackets.step` takes the next part of the text.
* `Source.readClass`: a whole class.

An intersection in a class of expressions binds more tightly than the other operations. Classes next
to each other form a union, which binds more tightly than any operation.
-/

namespace Regex.Syntax

open Chars

/-- How the text of a class is read. -/
inductive ClassMode where
  /-- Square brackets do not nest. -/
  | plain
  /-- Square brackets nest, and doubled signs are set operations. -/
  | nesting
  /-- Everything is an expression over classes. -/
  | expression
  /-- A plain class within an expression, in which blanks do not count. -/
  | operand
  deriving DecidableEq

/-- The set operations. -/
inductive ClassOp where
  | union
  | intersection
  | difference
  | symmetricDifference
  deriving DecidableEq

/-- What a set operation makes of two sets. -/
def ClassOp.apply (op : ClassOp) (a b : ClassTree) : ClassTree :=
  match op with
  | union => .union a b
  | intersection => .intersection a b
  | difference => .difference a b
  | symmetricDifference => .symmetricDifference a b

/-- What a hyphen can mean next, and what it has meant. -/
inductive DashState where
  /-- A hyphen stands for itself. -/
  | literal
  /-- A hyphen would make a range that starts with this character. -/
  | after (c : Nat)
  /-- A hyphen has been read after this character. -/
  | started (c : Nat)
  /-- A hyphen can only come last, as what precedes it is no character. -/
  | lastOnly
  /-- Such a hyphen has been read; this is the place after it. -/
  | wasLast (place : Nat)
  deriving DecidableEq

/-- What has been read last of an expression. -/
inductive OperandState where
  | nothing
  | operand
  | operator
  deriving DecidableEq

/-- An open class. -/
structure Level where
  mode : ClassMode
  negated : Bool
  dash : DashState
  state : OperandState
  /-- The items since the last operator, the last one first. -/
  items : List ClassItem
  /-- The nested classes since the last operator. -/
  nested : List ClassTree
  /-- Whether the operand in progress is to be complemented. -/
  complemented : Bool
  /-- The left side of an intersection. -/
  factor : Option ClassTree
  /-- The left side of another operation. -/
  left : Option (ClassTree × ClassOp)
  /-- The sign of the operations used so far, if they cannot be mixed. -/
  sign : Option Char

namespace Level

/-- A class that has just been opened. -/
def opened (mode : ClassMode) (negated : Bool) : Level :=
  ⟨mode, negated, .literal, .nothing, [], [], false, none, none, none⟩

/-- Whether an operand cannot follow without an operator. -/
def needsOperator (l : Level) : Bool := l.mode == .expression && l.state == .operand

/-- Adds an item; `dash` is what a hyphen can mean after it. -/
def add (l : Level) (item : ClassItem) (dash : DashState) : Level :=
  { l with items := item :: l.items, dash, state := .operand }

/-- Adds a nested class. -/
def addNested (l : Level) (tree : ClassTree) : Level :=
  { l with nested := tree :: l.nested, dash := .literal, state := .operand }

/-- A hyphen that did not start a range after all is a character. -/
def settleDash (l : Level) : Level :=
  match l.dash with
  | .started _ => { l with items := .range 0x2D 0x2D :: l.items, dash := .literal }
  | _ => l

/-- The set since the last operator. -/
def operand (l : Level) : ClassTree :=
  let all :=
    match l.nested.reverse with
    | [] => .leaf l.items.reverse
    | t :: rest =>
      let trees := rest.foldl .union t
      if l.items.isEmpty then trees else .union (.leaf l.items.reverse) trees
  if l.complemented then .complement all else all

/-- The intersection in progress. -/
def product (l : Level) : ClassTree :=
  match l.factor with
  | some f => .intersection f l.operand
  | none => l.operand

/-- The set read so far. -/
def sum (l : Level) : ClassTree :=
  match l.left with
  | some (t, op) => op.apply t l.product
  | none => l.product

/-- The set of a class that is closed. -/
def close (l : Level) : ClassTree :=
  let l := l.settleDash
  if l.negated then .complement l.sum else l.sum

/-- Begins the next operand. -/
def next (l : Level) (factor : Option ClassTree) (left : Option (ClassTree × ClassOp)) : Level :=
  { l with dash := .literal, state := .operator, items := [], nested := [], complemented := false
           factor, left }

/-- Takes an operator. -/
def operate (l : Level) (op : ClassOp) : Level :=
  let l := l.settleDash
  match op with
  | .intersection => l.next (some l.product) l.left
  | _ => l.next none (some (l.sum, op))

end Level

/-- What a class depends on beyond its own text. -/
structure ClassContext where
  escape : EscapeContext
  ucp : Bool
  modes : Modes
  allowEmpty : Bool

/-- What a class stands for in the end. -/
inductive ClassResult where
  | set (tree : ClassTree)
  /-- Brackets with nothing between them. -/
  | empty (negated : Bool)

/-- The open classes, the innermost first, and the place reached. -/
structure Brackets where
  levels : List Level
  /-- How deeply classes have been nested so far. -/
  deepest : Nat
  /-- Whether characters are quoted. -/
  quoted : Bool
  place : Nat

/-- How deeply classes can nest. -/
def maxClassNesting : Nat := 15

/-- The operation of a sign between operands. -/
def ClassOp.ofSign? (c : Char) : Option ClassOp :=
  match c with
  | '+' | '|' => some .union
  | '-' => some .difference
  | '&' => some .intersection
  | '^' | '~' => some .symmetricDifference
  | _ => none

namespace ClassContext

/-- The item of a kind of characters. -/
def kindItem (ctx : ClassContext) (k : CharKind) (negated : Bool) : ClassItem :=
  let property (p : Property) (asciiOnly : Bool) : ClassItem :=
    if ctx.ucp && !asciiOnly then .property p negated else .kind k negated
  match k with
  | .digit => property (.category .decimalNumber) ctx.modes.asciiDigit
  | .space => property .space ctx.modes.asciiSpace
  | .word => property .word ctx.modes.asciiWord
  | _ => .kind k negated

/-- The property that a named class stands for where properties are used. -/
def posixProperty? : PosixClass → Option Property
  | .alpha => some (.family .letter)
  | .lower => some (.category .lowercaseLetter)
  | .upper => some (.category .uppercaseLetter)
  | .alnum => some .alphanumeric
  | .ascii | .blank => none
  | .cntrl => some (.category .control)
  | .digit => some (.category .decimalNumber)
  | .graph => some .graph
  | .print => some .print
  | .punct => some .punct
  | .space => some .space
  | .word => some .word
  | .xdigit => some .hexDigit

/-- The item of a property. Where case is ignored, the categories of cased letters are one. -/
def propertyItem (ctx : ClassContext) (p : Property) (negated : Bool) : ClassItem :=
  match p with
  | .category .uppercaseLetter | .category .lowercaseLetter | .category .titlecaseLetter =>
    .property (if ctx.modes.caseless then .casedLetter else p) negated
  | _ => .property p negated

/-- The item of a named class. -/
def posixItem (ctx : ClassContext) (k : PosixClass) (negated : Bool) : ClassItem :=
  let asciiOnly :=
    ctx.modes.asciiPosix || (ctx.modes.asciiPosixDigit && (k == .digit || k == .xdigit))
  if ctx.ucp && !asciiOnly then
    match posixProperty? k with
    | some p => ctx.propertyItem p negated
    | none => if k == .blank then .kind .horizontal negated else .posix k negated
  else .posix k negated

end ClassContext

/-- Whether a sign can start a named class. -/
def isPosixSign (c : Option Char) : Bool := c == some ':' || c == some '.' || c == some '='

namespace Source

/-- The end of the named class whose opening sign is at `i`: the place of the same sign before a
closing bracket. Another opening or a closing bracket that comes first means that there is none. -/
def posixEnd? (s : Source) (i : Nat) : Option Nat :=
  match s.get? i with
  | none => none
  | some sign => search sign (s.slice (i + 1) s.size) (i + 1)
where
  search (sign : Char) : List Char → Nat → Option Nat
    | c :: d :: rest, i =>
      if c == '\\' && (d == ']' || d == '\\') then search sign rest (i + 2)
      else if (c == '[' && d == sign) || c == ']' then none
      else if c == sign && d == ']' then some i
      else search sign (d :: rest) (i + 1)
    | _, _ => none

/-- Skips what does not count at the start of a class: an escape that ends quoting, an empty quoted
text, blanks if they do not count, and one circumflex, which negates. -/
def skipClassStart (s : Source) (blanks : Bool) (fuel i : Nat) (negated : Bool) : Nat × Bool :=
  match fuel with
  | 0 => (i, negated)
  | fuel + 1 =>
    if s.hasText i ['\\', 'E'] then s.skipClassStart blanks fuel (i + 2) negated
    else if s.hasText i ['\\', 'Q', '\\', 'E'] then s.skipClassStart blanks fuel (i + 4) negated
    else if blanks && (s.has i ' ' || s.has i '\t') then
      s.skipClassStart blanks fuel (i + 1) negated
    else if !negated && s.has i '^' then s.skipClassStart blanks fuel (i + 1) true
    else (i, negated)

/-- Where a class opened before `i` has its first character, and whether it is negated. -/
def classStart (s : Source) (ctx : ClassContext) (mode : ClassMode) (i : Nat) : Nat × Bool :=
  match mode with
  | .expression => (i, false)
  | _ => s.skipClassStart (ctx.modes.extendedMore || mode == .operand) (s.size + 1) i false

end Source

namespace Brackets

/-- Opens a class whose bracket stands before `i`. The result is complete if the class is empty and
nothing encloses it. -/
def openClass (b : Brackets) (s : Source) (ctx : ClassContext) (mode : ClassMode) (bracket : Char)
    (i : Nat) : Reading (Brackets ⊕ ClassResult × Nat) :=
  let (first, negated) := s.classStart ctx mode i
  match s.get? first with
  | none =>
    .error (s.fault (if bracket == '(' then .missingClosingParenthesis else .unclosedClass) first)
  | some c =>
    let plain := mode == .plain || mode == .nesting
    if c == ']' && ctx.allowEmpty && plain then
      match b.levels with
      | [] => .ok (.inr (.empty negated, first + 1))
      | l :: outer =>
        let all : ClassTree := if negated then .complement (.leaf []) else .leaf []
        .ok (.inl { b with levels := l.addNested all :: outer, place := first + 1 })
    else
      let l := Level.opened mode negated
      let b := { b with deepest := max b.deepest (b.levels.length + 1) }
      if c == ']' && mode != .expression then
        .ok (.inl { b with levels := l.add (.range 0x5D 0x5D) (.after 0x5D) :: b.levels
                           place := first + 1 })
      else .ok (.inl { b with levels := l :: b.levels, place := first })

/-- Adds a character, `next` being the place after it. -/
def addChar (b : Brackets) (s : Source) (l : Level) (outer : List Level) (c next : Nat) :
    Reading Brackets :=
  let done (l : Level) : Reading Brackets := .ok { b with levels := l :: outer, place := next }
  if l.needsOperator then .error (s.fault .operandWithoutOperator next)
  else
    match l.dash with
    | .started lo =>
      if c < lo then .error (s.fault .rangeOutOfOrder (next - 1))
      else done ({ l with items := l.items.drop 1 }.add (.range lo c) .literal)
    | .wasLast place => .error (s.fault .invalidRange place)
    | _ => done (l.add (.range c c) (.after c))

/-- Adds an item that is no single character, `next` being the place after it. -/
def addItem (b : Brackets) (l : Level) (outer : List Level) (item : ClassItem) (next : Nat) :
    Brackets :=
  { b with levels := l.add item .lastOnly :: outer, place := next }

/-- Checks that an item that is no single character can stand here, `next` being where a fault is
reported. -/
def checkItem (s : Source) (l : Level) (next : Nat) : Reading Unit :=
  match l.dash with
  | .started _ => .error (s.fault .invalidRange next)
  | .wasLast place => .error (s.fault .invalidRange place)
  | _ => if l.needsOperator then .error (s.fault .operandWithoutOperator next) else .ok ()

/-- Takes a named class: its opening sign is at `i` and its closing sign at `stop`. -/
def addPosix (b : Brackets) (s : Source) (ctx : ClassContext) (l : Level) (outer : List Level)
    (i stop : Nat) : Reading Brackets := do
  let next := stop + 2
  checkItem s l next
  if !s.has i ':' then .error (s.fault .posixCollatingElement next)
  else
    let negated := s.has (i + 1) '^'
    let name := s.slice (if negated then i + 2 else i + 1) stop
    match PosixClass.named.lookup (String.ofList name) with
    | some k => return b.addItem l outer (ctx.posixItem k negated) next
    | none => .error (s.fault .unknownPosixClass next)

/-- Takes the escape whose backslash stands before `i`. -/
def addEscape (b : Brackets) (s : Source) (ctx : ClassContext) (l : Level) (outer : List Level)
    (i : Nat) : Reading Brackets := do
  let (e, next) ← s.readEscape { ctx.escape with inClass := true } i
  match e with
  | .char c => b.addChar s l outer c next
  | .wordBoundary false => b.addChar s l outer 0x08 next
  | .backrefName => b.addChar s l outer 'k'.toNat next
  | .quote => return { b with quoted := true, place := next }
  | .endQuote => return { b with place := next }
  | .wordBoundary true | .lineEnding | .cluster => .error (s.fault .escapeInClass (next - 1))
  | _ =>
    checkItem s l next
    match e with
    | .kind k negated => return b.addItem l outer (ctx.kindItem k negated) next
    | .property negated =>
      let (p, inverted, next) ← s.readProperty next
      return b.addItem l outer (ctx.propertyItem p (negated != inverted)) next
    | .notNewline => .error (s.fault .nonNewlineInClass next)
    | _ => .error (s.fault .escapeInClass (next - 1))

/-- Closes the innermost class with the bracket before `next`. -/
def closeClass (b : Brackets) (s : Source) (l : Level) (outer : List Level) (bracket : Char)
    (next : Nat) : Reading (Brackets ⊕ ClassResult × Nat) :=
  let expression := l.mode == .expression
  if expression && bracket == ']' && !outer.isEmpty then
    .error (s.fault .missingClosingParenthesis (next - 1))
  else if expression && bracket == ')' && outer.isEmpty then
    .error (s.fault .unmatchedClosingParenthesis (next - 1))
  else if l.state == .operator then .error (s.fault .operatorWithoutRight next)
  else if expression && l.state == .nothing then .error (s.fault .emptyClassExpression next)
  else
    match outer with
    | [] =>
      if expression then
        if s.has next ')' then .ok (.inr (.set l.close, next + 1))
        else .error (s.fault .unclosedClassExpression next)
      else .ok (.inr (.set l.close, next))
    | o :: rest => .ok (.inl { b with levels := o.addNested l.close :: rest, place := next })

/-- Takes an operator between operands; `next` is the place after it. -/
def addOperator (b : Brackets) (s : Source) (l : Level) (outer : List Level) (op : ClassOp)
    (sign : Char) (next : Nat) : Reading Brackets :=
  if l.state != .operand then .error (s.fault .operatorWithoutLeft next)
  else if l.mode == .nesting && l.sign.any (· != sign) then
    .error (s.fault .mixedClassOperators next)
  else
    .ok { b with levels := { l.operate op with sign := some sign } :: outer, place := next }

/-- The fault of a text that ends within a class. -/
def unclosed (b : Brackets) (s : Source) (l : Level) : PatternFault :=
  let depth := b.levels.length
  let cause : PatternFault.Cause :=
    match l.mode with
    | .expression => if 1 < depth then .missingClosingParenthesis else .unclosedClass
    | .nesting => if depth = 1 ∧ b.deepest = 2 then .unclosedNestedClass else .unclosedClass
    | _ => .unclosedClass
  s.fault cause b.place

/-- Opens a class within another one. -/
def nest (b : Brackets) (s : Source) (ctx : ClassContext) (l : Level) (outer : List Level)
    (bracket : Char) (next : Nat) : Reading (Brackets ⊕ ClassResult × Nat) :=
  if l.needsOperator then .error (s.fault .operandWithoutOperator next)
  else if maxClassNesting ≤ b.levels.length then .error (s.fault .classTooDeeplyNested next)
  else
    let mode := if l.mode == .expression && bracket == '[' then .operand else l.mode
    { b with levels := l.settleDash :: outer }.openClass s ctx mode bracket next

/-- Takes the character `c`, which is not special in its own right; `next` is the place after it. -/
def addPlain (b : Brackets) (s : Source) (l : Level) (outer : List Level) (c : Char) (next : Nat) :
    Reading Brackets :=
  if l.mode == .expression then .error (s.fault .unexpectedInClassExpression next)
  else if c == '-' then
    let hyphen (dash : DashState) : Reading Brackets :=
      .ok { b with levels := { l with dash, state := .operand } :: outer, place := next }
    match l.dash with
    | .after lo => hyphen (.started lo)
    | .lastOnly =>
      .ok { b with levels := l.add (.range 0x2D 0x2D) (.wasLast next) :: outer, place := next }
    | _ => b.addChar s l outer c.toNat next
  else b.addChar s l outer c.toNat next

/-- Takes a doubled sign as an operator; `next` is the place after the first of the two. -/
def addDoubled (b : Brackets) (s : Source) (l : Level) (outer : List Level) (op : ClassOp)
    (sign : Char) (next : Nat) : Reading Brackets :=
  if s.has (next + 1) sign then
    .error (s.fault .invalidClassOperator (s.scan (· != sign) (next + 1)))
  else b.addOperator s l outer op sign (next + 1)

/-- Takes the next part of the text. The result is complete once the outermost class is closed. -/
def step (b : Brackets) (s : Source) (ctx : ClassContext) :
    Reading (Brackets ⊕ ClassResult × Nat) := do
  match b.levels with
  | [] => return .inr (.empty false, b.place)
  | l :: outer =>
    let expression := l.mode == .expression
    let blanks := ctx.modes.extendedMore || expression || l.mode == .operand
    let i := b.place
    let next := i + 1
    match s.get? i with
    | none => .error (b.unclosed s l)
    | some c =>
      if b.quoted then
        if s.hasText i ['\\', 'E'] then return .inl { b with quoted := false, place := i + 2 }
        else return .inl (← b.addChar s l outer c.toNat next)
      else if blanks && (c == ' ' || c == '\t') then return .inl { b with place := next }
      else
        let posix := if c == '[' && isPosixSign (s.get? next) then s.posixEnd? next else none
        match posix with
        | some stop => return .inl (← b.addPosix s ctx l outer next stop)
        | none =>
          if (c == '[' && (l.mode == .nesting || expression)) || (c == '(' && expression) then
            b.nest s ctx l outer c next
          else if c == ']' || (c == ')' && expression) then b.closeClass s l outer c next
          else if c == '\\' then return .inl (← b.addEscape s ctx l outer next)
          else if expression && c == '!' then
            if l.state == .operand then .error (s.fault .operandWithoutOperator next)
            else
              let l := { l with complemented := !l.complemented, state := .operator }
              return .inl { b with levels := l :: outer, place := next }
          else
            match ClassOp.ofSign? c with
            | some op =>
              if expression && c != '~' then return .inl (← b.addOperator s l outer op c next)
              else if l.mode == .nesting && c != '+' && c != '^' && s.has next c then
                return .inl (← b.addDoubled s l outer op c next)
              else return .inl (← b.addPlain s l outer c next)
            | none => return .inl (← b.addPlain s l outer c next)

/-- Reads on until the outermost class is closed. -/
def run (s : Source) (ctx : ClassContext) : Nat → Brackets → Reading (ClassResult × Nat)
  | 0, b => .error (s.fault .unclosedClass b.place)
  | fuel + 1, b => do
    match ← b.step s ctx with
    | .inl b => run s ctx fuel b
    | .inr result => return result

end Brackets

namespace Source

/-- Reads a class whose opening bracket stands before `i`, and gives the place after it. -/
def readClass (s : Source) (ctx : ClassContext) (mode : ClassMode) (i : Nat) :
    Reading (ClassResult × Nat) := do
  match ← (⟨[], 0, false, i⟩ : Brackets).openClass s ctx mode '[' i with
  | .inl b => b.run s ctx (s.size + 1)
  | .inr result => return result

end Source

end Regex.Syntax
