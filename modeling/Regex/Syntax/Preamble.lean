import Regex.Chars.Ascii
import Regex.CompileContext
import Regex.Dialect

/-!
# Settings at the head of a pattern

A pattern can begin with settings in parentheses, such as `(*UTF)`, which hold for all of it.

* `Setting`: what can be set.
* `Preamble`: how the pattern is to be understood, and where its text begins after the settings.
* `Preamble.read`: finds the settings and joins them with the options.
* `Preamble.body`: the text after them.
-/

namespace Regex.Syntax

open Chars

/-- A setting at the head of a pattern. -/
inductive Setting where
  | utf
  | ucp
  | notEmpty
  | notEmptyAtStart
  | noAutoPossess
  | noDotstarAnchor
  /-- No machine code is made of the pattern, so that every match is interpreted. -/
  | noFastPath
  | noStartOptimize
  | caselessRestrict
  | turkish
  | newline (n : Newline)
  | bsr (b : Bsr)
  | matchLimit (n : Nat)
  /-- A limit on the memory that an interpreted match takes, or on its depth. Matching as it is
  defined here takes no account of either; an engine may give up for it. -/
  | memoryLimit (n : Nat)
  deriving DecidableEq

namespace Setting

/-- The settings without a number, as they are written after `(*`. -/
def named : List (String × Setting) :=
  [("UTF)", .utf), ("UTF8)", .utf), ("UCP)", .ucp), ("NOTEMPTY)", .notEmpty),
   ("NOTEMPTY_ATSTART)", .notEmptyAtStart), ("NO_AUTO_POSSESS)", .noAutoPossess),
   ("NO_DOTSTAR_ANCHOR)", .noDotstarAnchor),
   ("NO_JIT)", .noFastPath), ("NO_START_OPT)", .noStartOptimize),
   ("CASELESS_RESTRICT)", .caselessRestrict), ("TURKISH_CASING)", .turkish),
   ("CR)", .newline .cr), ("LF)", .newline .lf), ("CRLF)", .newline .crlf), ("ANY)", .newline .any),
   ("NUL)", .newline .nul), ("ANYCRLF)", .newline .anyCrlf), ("BSR_ANYCRLF)", .bsr .anyCrlf),
   ("BSR_UNICODE)", .bsr .unicode)]

/-- The settings with a number, as they are written before it. -/
def limits : List (String × (Nat → Setting)) :=
  [("LIMIT_HEAP=", .memoryLimit), ("LIMIT_MATCH=", .matchLimit), ("LIMIT_DEPTH=", .memoryLimit),
   ("LIMIT_RECURSION=", .memoryLimit)]

/-- What is left of a text after one of a table's entries, and the value of that entry. -/
def strip? {α : Type} (table : List (String × α)) (text : List Char) : Option (α × List Char) :=
  table.findSome? fun (name, value) =>
    if name.toList.isPrefixOf text then some (value, text.drop name.length) else none

/-- The number from which on no further digit is taken. -/
def digitBound : Nat := 429496728

/-- Reads a limit up to its closing parenthesis. `offset` is where `text` starts, `count` the number
of digits read so far and `n` their value. -/
def readLimit (n count offset : Nat) (text : List Char) :
    Except PatternFault (Nat × Nat × List Char) :=
  match text with
  | c :: rest =>
    if isDigit c.toNat && n ≤ digitBound then
      readLimit (n * 10 + (c.toNat - 0x30)) (count + 1) (offset + 1) rest
    else if c == ')' && 0 < count then .ok (n, offset + 1, rest)
    else .error ⟨.unknownVerb, offset⟩
  | [] => .error ⟨.unknownVerb, offset⟩

/-- The settings at the head of a text, and where they end. `fuel` bounds their number. -/
def readAll (fuel offset : Nat) (text : List Char) : Except PatternFault (List Setting × Nat) :=
  match fuel, text with
  | fuel + 1, '(' :: '*' :: text =>
    match strip? named text, strip? limits text with
    | some (setting, rest), _ => do
      let (more, stop) ← readAll fuel (offset + 2 + (text.length - rest.length)) rest
      return (setting :: more, stop)
    | none, some (setting, rest) => do
      let (n, next, rest) ← readLimit 0 0 (offset + 2 + (text.length - rest.length)) rest
      let (more, stop) ← readAll fuel next rest
      return (setting n :: more, stop)
    | none, none => .ok ([], offset)
  | _, _ => .ok ([], offset)

end Setting

/-- How a pattern is to be understood, and the length of its settings. -/
structure Preamble where
  dialect : Dialect
  modes : Modes
  length : Nat

namespace Preamble

/-- The greatest number of steps of one match. -/
def matchLimit : Nat := 10000000

/-- What options and conventions alone say. -/
def ofOptions (bits : EngineBits) (context : CompileContext) : Preamble :=
  { dialect :=
      { utf := bits.has EngineBits.utf
        ucp := bits.has EngineBits.ucp
        newline := context.newline
        bsr := context.bsr
        bits := bits
        turkish := false
        autoPossess := !bits.has EngineBits.noAutoPossess
        dotstarAnchor := !bits.has EngineBits.noDotstarAnchor
        startOptimize := !bits.has EngineBits.noStartOptimize
        notEmpty := false
        notEmptyAtStart := false
        fastPath := true
        matchLimit := matchLimit }
    modes := Modes.ofBits bits
    length := 0 }

/-- Applies a setting. -/
def set (p : Preamble) (setting : Setting) : Preamble :=
  let onDialect (f : Dialect → Dialect) : Preamble := { p with dialect := f p.dialect }
  match setting with
  | .utf => onDialect fun d => { d with utf := true, bits := d.bits.add EngineBits.utf }
  | .ucp => onDialect fun d => { d with ucp := true, bits := d.bits.add EngineBits.ucp }
  | .notEmpty => onDialect ({ · with notEmpty := true })
  | .notEmptyAtStart => onDialect ({ · with notEmptyAtStart := true })
  | .noAutoPossess => onDialect ({ · with autoPossess := false })
  | .noDotstarAnchor => onDialect ({ · with dotstarAnchor := false })
  | .noFastPath => onDialect ({ · with fastPath := false })
  | .memoryLimit _ => p
  | .noStartOptimize => onDialect ({ · with startOptimize := false })
  | .caselessRestrict => { p with modes := { p.modes with restricted := true } }
  | .turkish => onDialect ({ · with turkish := true })
  | .newline n => onDialect ({ · with newline := n })
  | .bsr b => onDialect ({ · with bsr := b })
  | .matchLimit n => onDialect ({ · with matchLimit := min n matchLimit })

/-- What follows the settings at the head of a text. -/
def body (p : Preamble) (text : String) : String := String.ofList (text.toList.drop p.length)

/-- Why a pattern is refused for its options and settings, if it is. -/
def refusal? (p : Preamble) : Option PatternFault.Cause :=
  let d := p.dialect
  if d.utf && d.bits.has EngineBits.neverUtf then some .utfDisabled
  else if d.ucp && d.bits.has EngineBits.neverUcp then some .ucpDisabled
  else if d.turkish then
    if !d.utf && !d.ucp then some .turkishNeedsUnicode
    else if !d.utf then some .turkishNeedsUtf
    else if p.modes.restricted then some .turkishWithRestriction
    else none
  else none

/-- Joins the options with the settings at the head of a text. Settings are not looked for where the
whole text is literal. -/
def read (bits : EngineBits) (context : CompileContext) (text : List Char) :
    Except PatternFault Preamble := do
  let literal := bits.has EngineBits.literal
  if bits.exceeds EngineBits.known then throw ⟨.unknownOptionBits, none⟩
  if literal && bits.exceeds EngineBits.allowedWithLiteral then throw ⟨.badLiteralOptions, none⟩
  let (settings, length) ←
    if literal then pure ([], 0) else Setting.readAll text.length 0 text
  let p : Preamble := { settings.foldl set (ofOptions bits context) with length := length }
  match p.refusal? with
  | some cause => throw ⟨cause, length⟩
  | none => return p

end Preamble

end Regex.Syntax
