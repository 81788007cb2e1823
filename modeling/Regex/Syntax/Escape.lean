import Regex.Syntax.Expr
import Regex.Syntax.Number

/-!
# Escapes

What a backslash can introduce.

* `Escape`: the meanings of an escape. Where a name must follow, the name is not part of it.
* `Source.readEscape`: reads the escape after a backslash.
-/

namespace Regex.Syntax

open Chars

/-- The meaning of an escape. -/
inductive Escape where
  | char (c : Nat)
  | kind (k : CharKind) (negated : Bool)
  /-- The name of a property follows. -/
  | property (negated : Bool)
  | notNewline
  | byte
  | lineEnding
  | cluster
  | subjectStart
  | subjectEnd
  | lastLineEnd
  | matchStart
  | wordBoundary (negated : Bool)
  | keep
  | quote
  | endQuote
  | backref (n : Nat)
  /-- The delimited name of a group to be matched again follows. -/
  | backrefName
  /-- The delimited name or number of a group to be called follows. -/
  | callName
  deriving DecidableEq

/-- What the meaning of an escape can depend on. -/
structure EscapeContext where
  /-- Whether the pattern works on characters. -/
  utf : Bool
  /-- Whether `\u` and `\x` take a fixed number of digits. -/
  bsux : Bool
  inClass : Bool
  /-- The number of groups opened so far. -/
  groups : Nat

/-- The control characters that have a letter. -/
def controlEscapes : List (Char × Nat) :=
  [('a', 0x07), ('e', 0x1B), ('f', 0x0C), ('n', 0x0A), ('r', 0x0D), ('t', 0x09)]

/-- The escapes that are complete with their letter. -/
def letterEscapes : List (Char × Escape) :=
  [('A', .subjectStart), ('B', .wordBoundary true), ('C', .byte), ('D', .kind .digit true),
   ('E', .endQuote), ('G', .matchStart), ('H', .kind .horizontal true), ('K', .keep),
   ('P', .property true), ('Q', .quote), ('R', .lineEnding), ('S', .kind .space true),
   ('V', .kind .vertical true), ('W', .kind .word true), ('X', .cluster), ('Z', .lastLineEnd),
   ('b', .wordBoundary false), ('d', .kind .digit false), ('h', .kind .horizontal false),
   ('k', .backrefName), ('p', .property false), ('s', .kind .space false),
   ('v', .kind .vertical false), ('w', .kind .word false), ('z', .subjectEnd)]

/-- Whether a code point is one that no character has. -/
def isSurrogate (c : Nat) : Bool := between 0xD800 0xDFFF c

namespace EscapeContext

/-- The largest code point that can be written. -/
def maxCode (ctx : EscapeContext) : Nat := if ctx.utf then 0x10FFFF else 0xFF

end EscapeContext

namespace Source

/-- The number that the digits from `i` on make in a base, where `value?` knows the digits, and the
place after them. No digit is taken after the number has grown beyond `limit`. -/
def readDigits (s : Source) (base limit : Nat) (value? : Char → Option Nat) (i : Nat) : Nat × Nat :=
  let stop := s.scan (fun c => (value? c).isNone) i
  (s.slice i stop).foldl
    (fun (n, next) c => if limit < n then (n, next) else (n * base + (value? c).getD 0, next + 1))
    (0, i)

/-- Where something missing is reported: at the unit found instead, but at the end one unit before
it. -/
def missingAt (s : Source) (i : Nat) : Nat := if i < s.size then i else i - 1

/-- The rest of a code point in braces, from its first digit on. `cause` is the fault if what ends
the digits is no closing brace. -/
def readBraced (s : Source) (ctx : EscapeContext) (base : Nat) (value? : Char → Option Nat)
    (cause : PatternFault.Cause) (i : Nat) : Reading (Nat × Nat) :=
  let (n, stop) := s.readDigits base ctx.maxCode value? i
  let next := s.skipBlanks stop
  if ctx.maxCode < n then
    .error (s.fault .codePointTooLarge (s.scan (fun c => (value? c).isNone) next))
  else if !s.has next '}' then .error (s.fault cause (s.missingAt next))
  else if ctx.utf && isSurrogate n then .error (s.fault .surrogateCodePoint next)
  else .ok (n, next + 1)

/-- The code point in hexadecimal digits up to a closing brace. -/
def readHexBraced (s : Source) (ctx : EscapeContext) (i : Nat) : Reading (Nat × Nat) :=
  match s.get? i with
  | none | some '}' => .error (s.fault .digitsMissing i)
  | _ => s.readBraced ctx 16 hexValue? .nonHexDigit i

/-- The value of exactly `count` hexadecimal digits from `i` on. -/
def fixedHex? (s : Source) (count i : Nat) : Option Nat :=
  let text := s.slice i (i + count)
  if text.length = count && text.all (hexValue? · |>.isSome) then
    some (text.foldl (fun n c => n * 16 + (hexValue? c).getD 0) 0)
  else none

/-- `\x`, from what follows the letter on. -/
def readHex (s : Source) (ctx : EscapeContext) (i : Nat) : Reading (Nat × Nat) :=
  if ctx.bsux then
    match s.fixedHex? 2 i with
    | some n => .ok (n, i + 2)
    | none => .ok ('x'.toNat, i)
  else if s.has i '{' then s.readHexBraced ctx (s.skipBlanks (i + 1))
  else
    let stop := min (s.scan (fun c => (hexValue? c).isNone) i) (i + 2)
    if stop = i then .error (s.fault .digitsMissing i)
    else .ok ((s.fixedHex? (stop - i) i).getD 0, stop)

/-- `\u`, from what follows the letter on. -/
def readShort (s : Source) (ctx : EscapeContext) (i : Nat) : Reading (Nat × Nat) :=
  if !ctx.bsux then .error (s.fault .unsupportedEscape i)
  else
    match s.fixedHex? 4 i with
    | none => .ok ('u'.toNat, i)
    | some n =>
      if ctx.maxCode < n then .error (s.fault .shortEscapeTooLarge (i + 4))
      else if ctx.utf && isSurrogate n then .error (s.fault .surrogateCodePoint (i + 4))
      else .ok (n, i + 4)

/-- `\o`, from what follows the letter on. -/
def readOctalBraced (s : Source) (ctx : EscapeContext) (i : Nat) : Reading (Nat × Nat) :=
  if !s.has i '{' then .error (s.fault .missingOctalBrace (s.missingAt i))
  else
    let start := s.skipBlanks (i + 1)
    match s.get? start with
    | none | some '}' => .error (s.fault .digitsMissing start)
    | _ => s.readBraced ctx 8 octalValue? .nonOctalDigit start

/-- An octal code point of at most three digits from `i` on. -/
def readOctal (s : Source) (ctx : EscapeContext) (i : Nat) : Reading (Nat × Nat) :=
  let text := (s.slice i (i + 3)).takeWhile (octalValue? · |>.isSome)
  let n := text.foldl (fun n c => n * 8 + (octalValue? c).getD 0) 0
  let next := i + text.length
  if !ctx.utf && 0xFF < n then .error (s.fault .octalTooLarge next) else .ok (n, next)

/-- An escape that starts with the digit at `i`, which is not zero. A number is a group if it has
one digit, if it cannot be octal, or if there are that many groups; outside a class. -/
def readNumeric (s : Source) (ctx : EscapeContext) (i : Nat) (first : Char) :
    Reading (Escape × Nat) :=
  let next := s.skipDigits i
  let n := valueOf maxGroupNumber (s.slice i next)
  if !ctx.inClass && (n < 10 || '8' ≤ first || n ≤ ctx.groups) then
    if maxGroupNumber < n then .error (s.fault .groupNumberTooBig next)
    else .ok (.backref n, next)
  else if '8' ≤ first then .ok (.char first.toNat, i + 1)
  else (s.readOctal ctx i).map fun (n, next) => (.char n, next)

/-- `\g`, from what follows the letter on. -/
def readGroupEscape (s : Source) (ctx : EscapeContext) (i : Nat) : Reading (Escape × Nat) :=
  match s.get? i with
  | none => .error (s.fault .malformedGroupEscape i)
  | some '<' | some '\'' => .ok (.callName, i)
  | some '{' =>
    match s.readGroupNumber (s.skipBlanks (i + 1)) ctx.groups with
    | .error fault => .error (s.fault fault.cause i)
    | .ok none => .ok (.backrefName, i)
    | .ok (some (n, stop)) =>
      let stop := s.skipBlanks stop
      if !s.has stop '}' then .error (s.fault .malformedGroupEscape i)
      else if n = 0 then .error (s.fault .unknownGroup (stop + 1))
      else .ok (.backref n, stop + 1)
  | some _ => do
    match ← s.readGroupNumber i ctx.groups with
    | none => .error (s.fault .malformedGroupEscape i)
    | some (0, next) => .error (s.fault .unknownGroup next)
    | some (n, next) => return (.backref n, next)

/-- `\N`, from what follows the letter on. -/
def readNotNewline (s : Source) (ctx : EscapeContext) (i : Nat) : Reading (Escape × Nat) :=
  if !s.has i '{' then .ok (.notNewline, i)
  else
    let start := s.skipBlanks (i + 1)
    if s.hasText start ['U', '+'] then
      if ctx.utf then (s.readHexBraced ctx (start + 2)).map fun (n, next) => (.char n, next)
      else .error (s.fault .namedCodePointNeedsUtf i)
    else if ctx.inClass then .error (s.fault .unsupportedEscape i)
    else
      match s.readCounts (i + 1) with
      | .ok (some _) => .ok (.notNewline, i)
      | .ok none => .error (s.fault .unsupportedEscape i)
      | .error fault => .error (s.fault fault.cause i)

/-- `\c`, from what follows the letter on: the control character of a printable one. -/
def readControl (s : Source) (i : Nat) : Reading (Nat × Nat) :=
  match s.get? i with
  | none => .error (s.fault .controlAtEnd i)
  | some c =>
    if isPrint c.toNat then .ok (c.toUpper.toNat ^^^ 0x40, i + 1)
    else .error (s.fault .unprintableControl i)

/-- The escape whose backslash stands before `i`, and the place after it. -/
def readEscape (s : Source) (ctx : EscapeContext) (i : Nat) : Reading (Escape × Nat) :=
  let code (r : Reading (Nat × Nat)) : Reading (Escape × Nat) :=
    r.map fun (n, next) => (.char n, next)
  match s.get? i with
  | none => .error (s.fault .backslashAtEnd i)
  | some c =>
    if !isAlnum c.toNat then .ok (.char c.toNat, i + 1)
    else
      match controlEscapes.lookup c, letterEscapes.lookup c with
      | some n, _ => .ok (.char n, i + 1)
      | none, some e => .ok (e, i + 1)
      | none, none =>
        match c with
        | 'N' => s.readNotNewline ctx (i + 1)
        | 'F' | 'L' | 'l' => .error (s.fault .unsupportedEscape (i + 1))
        | 'U' =>
          if ctx.bsux then .ok (.char c.toNat, i + 1)
          else .error (s.fault .unsupportedEscape (i + 1))
        | 'u' => code (s.readShort ctx (i + 1))
        | 'x' => code (s.readHex ctx (i + 1))
        | 'o' => code (s.readOctalBraced ctx (i + 1))
        | 'c' => code (s.readControl (i + 1))
        | 'g' =>
          if ctx.inClass then .ok (.char c.toNat, i + 1) else s.readGroupEscape ctx (i + 1)
        | '0' => code (s.readOctal ctx i)
        | _ =>
          if isDigit c.toNat then s.readNumeric ctx i c else .error (s.fault .unknownEscape i)

end Source

end Regex.Syntax
