/-!
# Options

The switches of a pattern and of a single match.

* `CompileOptions`: fixed when a pattern is compiled. The low 32 bits go to the engine as they are;
  the high ones choose a newline convention, a meaning of `\R`, or stand for several engine bits.
* `MatchOptions`: given with each match.
* `EngineOptions`: what the engine consumes, from `CompileOptions.resolve`.

Unknown bits are kept: an option value is a word, not a set of known names.
-/

namespace Regex

/-- Options fixed when a pattern is compiled. -/
structure CompileOptions where
  bits : UInt64
  deriving DecidableEq, Inhabited

/-- Options of a single match. -/
structure MatchOptions where
  bits : UInt32
  deriving DecidableEq, Inhabited

/-- A word of options in the form `Name(A | B | 0x40)`: the named bits in the order of `flags`, then
what is left in hexadecimal, and `0x0` for no bits at all. -/
def describeFlags (name : String) (flags : List (String × Nat)) (bits : Nat) : String :=
  let present := flags.filter fun f => bits &&& f.2 == f.2
  let rest := present.foldl (fun left f => left ^^^ (left &&& f.2)) bits
  let words := present.map (·.1) ++
    if rest = 0 then [] else ["0x" ++ String.ofList (Nat.toDigits 16 rest)]
  name ++ "(" ++ (if words.isEmpty then "0x0" else " | ".intercalate words) ++ ")"

namespace CompileOptions

/-- No options. -/
def empty : CompileOptions := ⟨0⟩

/-- A closing bracket right after the opening one ends a class, which then has no members. -/
def allowEmptyClass : CompileOptions := ⟨0x1⟩

/-- The escapes with u and x are read as in JavaScript. -/
def altBsux : CompileOptions := ⟨0x2⟩

/-- Every item is preceded by a callout. -/
def autoCallout : CompileOptions := ⟨0x4⟩

/-- Case is ignored. -/
def caseless : CompileOptions := ⟨0x8⟩

/-- A dollar only matches at the very end. -/
def dollarEndonly : CompileOptions := ⟨0x10⟩

/-- A dot also matches a line ending. -/
def dotall : CompileOptions := ⟨0x20⟩

/-- Several groups may have one name. -/
def dupnames : CompileOptions := ⟨0x40⟩

/-- Blanks and comments between items are ignored. -/
def extended : CompileOptions := ⟨0x80⟩

/-- A match has to start before or at the first line ending. -/
def firstline : CompileOptions := ⟨0x100⟩

/-- A reference to a group that is not set matches nothing at all. -/
def matchUnsetBackref : CompileOptions := ⟨0x200⟩

/-- Circumflex and dollar match at the edges of every line. -/
def multiline : CompileOptions := ⟨0x400⟩

/-- The pattern cannot switch on Unicode properties. -/
def neverUcp : CompileOptions := ⟨0x800⟩

/-- The pattern cannot switch on UTF. -/
def neverUtf : CompileOptions := ⟨0x1000⟩

/-- Groups without a name do not capture. -/
def noAutoCapture : CompileOptions := ⟨0x2000⟩

/-- Repetitions are not made possessive. -/
def noAutoPossess : CompileOptions := ⟨0x4000⟩

/-- A leading repetition of any character is no anchor. -/
def noDotstarAnchor : CompileOptions := ⟨0x8000⟩

/-- Matching is tried everywhere, without hints. -/
def noStartOptimize : CompileOptions := ⟨0x10000⟩

/-- Classes and case follow Unicode properties. -/
def ucp : CompileOptions := ⟨0x20000⟩

/-- Repetitions are lazy unless they are marked. -/
def ungreedy : CompileOptions := ⟨0x40000⟩

/-- Patterns and subjects are UTF-8. -/
def utf : CompileOptions := ⟨0x80000⟩

/-- Blanks are ignored in classes, too. -/
def extendedMore : CompileOptions := ⟨0x1000000⟩

/-- The whole pattern is plain text. -/
def literal : CompileOptions := ⟨0x2000000⟩

/-- A match has to end where the subject ends. -/
def endanchored : CompileOptions := ⟨0x20000000⟩

/-- Pattern and subject are taken to be UTF-8 without being checked. -/
def noUtfCheck : CompileOptions := ⟨0x40000000⟩

/-- A match has to start where the search starts. -/
def anchored : CompileOptions := ⟨0x80000000⟩

/-- Lines end with a carriage return. -/
def newlineCr : CompileOptions := ⟨0x100000000⟩

/-- Lines end with a line feed. -/
def newlineLf : CompileOptions := ⟨0x200000000⟩

/-- Lines end with a carriage return and a line feed. -/
def newlineCrlf : CompileOptions := ⟨0x400000000⟩

/-- Lines end with any Unicode line ending. -/
def newlineAny : CompileOptions := ⟨0x800000000⟩

/-- Lines end with a carriage return, a line feed or both. -/
def newlineAnycrlf : CompileOptions := ⟨0x1000000000⟩

/-- Lines end with a null character. -/
def newlineNul : CompileOptions := ⟨0x2000000000⟩

/-- The escape for line endings stands for a carriage return, a line feed or both. -/
def bsrAnycrlf : CompileOptions := ⟨0x4000000000⟩

/-- The escape for line endings stands for any Unicode line ending. -/
def bsrUnicode : CompileOptions := ⟨0x8000000000⟩

/-- Stands for the options that make patterns mean what they mean in JavaScript. -/
def javascriptCompat : CompileOptions := ⟨0x10000000000⟩

/-- The named options in the order in which they are listed. -/
def named : List (String × CompileOptions) :=
  [("ALLOW_EMPTY_CLASS", allowEmptyClass), ("ALT_BSUX", altBsux), ("AUTO_CALLOUT", autoCallout),
   ("CASELESS", caseless), ("DOLLAR_ENDONLY", dollarEndonly), ("DOTALL", dotall),
   ("DUPNAMES", dupnames), ("EXTENDED", extended), ("FIRSTLINE", firstline),
   ("MATCH_UNSET_BACKREF", matchUnsetBackref), ("MULTILINE", multiline), ("NEVER_UCP", neverUcp),
   ("NEVER_UTF", neverUtf), ("NO_AUTO_CAPTURE", noAutoCapture),
   ("NO_AUTO_POSSESS", noAutoPossess), ("NO_DOTSTAR_ANCHOR", noDotstarAnchor),
   ("NO_START_OPTIMIZE", noStartOptimize), ("UCP", ucp), ("UNGREEDY", ungreedy), ("UTF", utf),
   ("EXTENDED_MORE", extendedMore), ("LITERAL", literal), ("ENDANCHORED", endanchored),
   ("NO_UTF_CHECK", noUtfCheck), ("ANCHORED", anchored), ("NEWLINE_CR", newlineCr),
   ("NEWLINE_LF", newlineLf), ("NEWLINE_CRLF", newlineCrlf), ("NEWLINE_ANY", newlineAny),
   ("NEWLINE_ANYCRLF", newlineAnycrlf), ("NEWLINE_NUL", newlineNul),
   ("BSR_ANYCRLF", bsrAnycrlf), ("BSR_UNICODE", bsrUnicode),
   ("JAVASCRIPT_COMPAT", javascriptCompat)]

instance : OrOp CompileOptions := ⟨fun a b => ⟨a.bits ||| b.bits⟩⟩

/-- Whether every bit of `flag` is set in `o`. -/
def contains (o flag : CompileOptions) : Bool := o.bits &&& flag.bits == flag.bits

/-- The listing of the options that are set. -/
def describe (o : CompileOptions) : String :=
  describeFlags "CompileOptions" (named.map fun f => (f.1, f.2.bits.toNat)) o.bits.toNat

/-- The names of the options that are set. -/
def names (o : CompileOptions) : List String :=
  (named.filter fun f => o.contains f.2).map (·.1)

/-- The bits that the engine takes unchanged. -/
def nativeBits (o : CompileOptions) : UInt32 := o.bits.toUInt32

end CompileOptions

namespace MatchOptions

/-- No options. -/
def empty : MatchOptions := ⟨0⟩

/-- The start of the subject is not the start of a line. -/
def notbol : MatchOptions := ⟨0x1⟩

/-- The end of the subject is not the end of a line. -/
def noteol : MatchOptions := ⟨0x2⟩

/-- A match of nothing does not count. -/
def notempty : MatchOptions := ⟨0x4⟩

/-- A match of nothing does not count where the search starts. -/
def notemptyAtstart : MatchOptions := ⟨0x8⟩

/-- A partial match counts if there is no other match. -/
def partialSoft : MatchOptions := ⟨0x10⟩

/-- A partial match counts before any other match. -/
def partialHard : MatchOptions := ⟨0x20⟩

/-- Matching is not left to compiled machine code. -/
def noJit : MatchOptions := ⟨0x2000⟩

/-- A match has to end where the subject ends. -/
def endanchored : MatchOptions := ⟨0x20000000⟩

/-- Pattern and subject are taken to be UTF-8 without being checked. -/
def noUtfCheck : MatchOptions := ⟨0x40000000⟩

/-- A match has to start where the search starts. -/
def anchored : MatchOptions := ⟨0x80000000⟩

/-- The named options in the order in which they are listed. -/
def named : List (String × MatchOptions) :=
  [("NOTBOL", notbol), ("NOTEOL", noteol), ("NOTEMPTY", notempty),
   ("NOTEMPTY_ATSTART", notemptyAtstart), ("PARTIAL_SOFT", partialSoft),
   ("PARTIAL_HARD", partialHard), ("NO_JIT", noJit), ("ENDANCHORED", endanchored),
   ("NO_UTF_CHECK", noUtfCheck), ("ANCHORED", anchored)]

instance : OrOp MatchOptions := ⟨fun a b => ⟨a.bits ||| b.bits⟩⟩

/-- Whether every bit of `flag` is set in `o`. -/
def contains (o flag : MatchOptions) : Bool := o.bits &&& flag.bits == flag.bits

/-- The listing of the options that are set. -/
def describe (o : MatchOptions) : String :=
  describeFlags "MatchOptions" (named.map fun f => (f.1, f.2.bits.toNat)) o.bits.toNat

/-- The names of the options that are set. -/
def names (o : MatchOptions) : List String :=
  (named.filter fun f => o.contains f.2).map (·.1)

end MatchOptions

end Regex
