import Regex.Error
import Regex.Options

/-!
# Line conventions

What ends a line and what `\R` matches, as chosen by compile options.

* `CompileOptions.newline` and `CompileOptions.bsr`: the one convention asked for, if any.
* `CompileOptions.resolve`: everything the engine is given.

Asking for two conventions of a kind is an error; a conflict of newlines is found first.
-/

namespace Regex

/-- What ends a line. -/
inductive Newline where
  | cr
  | lf
  | crlf
  | any
  | anyCrlf
  | nul
  deriving DecidableEq, Inhabited

/-- What `\R` matches: any Unicode line ending, or only CR, LF and CR LF. -/
inductive Bsr where
  | unicode
  | anyCrlf
  deriving DecidableEq, Inhabited

/-- The engine's number of a newline convention. -/
def Newline.number : Newline → Nat
  | .cr => 1
  | .lf => 2
  | .crlf => 3
  | .any => 4
  | .anyCrlf => 5
  | .nul => 6

/-- The engine's number of a meaning of `\R`. -/
def Bsr.number : Bsr → Nat
  | .unicode => 1
  | .anyCrlf => 2

/-- The number of characters in the line ending that starts with the character `c`, where `next`
comes after it; 0 if no line ends there. -/
def Newline.span (n : Newline) (c : Nat) (next : Option Nat) : Nat :=
  let alone (ends : Bool) : Nat := if ends then 1 else 0
  let pair : Bool := c == 0x0D && next == some 0x0A
  match n with
  | cr => alone (c == 0x0D)
  | lf => alone (c == 0x0A)
  | nul => alone (c == 0)
  | crlf => if pair then 2 else 0
  | anyCrlf => if pair then 2 else alone (c == 0x0A || c == 0x0D)
  | any =>
    if pair then 2
    else alone ((0x0A ≤ c && c ≤ 0x0D) || c == 0x85 || c == 0x2028 || c == 0x2029)

/-- What the engine is given: its own bits and the conventions asked for. -/
structure EngineOptions where
  native : UInt32
  newline : Option Newline
  bsr : Option Bsr
  deriving DecidableEq

namespace CompileOptions

/-- The options that choose a newline convention. -/
def newlineFlags : List (CompileOptions × Newline) :=
  [(newlineCr, .cr), (newlineLf, .lf), (newlineCrlf, .crlf), (newlineAny, .any),
   (newlineAnycrlf, .anyCrlf), (newlineNul, .nul)]

/-- The options that choose a meaning of `\R`. -/
def bsrFlags : List (CompileOptions × Bsr) :=
  [(bsrAnycrlf, .anyCrlf), (bsrUnicode, .unicode)]

/-- The value of the only flag of `flags` that is set; the error numbered `code` if there are
more. -/
def pickOne {α : Type} (o : CompileOptions) (flags : List (CompileOptions × α)) (code : Int) :
    Except Error (Option α) :=
  match flags.filter fun f => o.contains f.1 with
  | [] => .ok none
  | [f] => .ok (some f.2)
  | _ => .error (.ofCode .options code)

/-- The newline convention asked for. -/
def newline (o : CompileOptions) : Except Error (Option Newline) :=
  o.pickOne newlineFlags ErrorCode.conflictingNewline

/-- The meaning of `\R` asked for. -/
def bsr (o : CompileOptions) : Except Error (Option Bsr) :=
  o.pickOne bsrFlags ErrorCode.conflictingBsr

/-- The options that `javascriptCompat` stands for. -/
def javascriptFlags : CompileOptions := altBsux ||| allowEmptyClass ||| matchUnsetBackref

/-- The options as the engine takes them. -/
def resolve (o : CompileOptions) : Except Error EngineOptions := do
  let expanded := if o.contains javascriptCompat then o ||| javascriptFlags else o
  let newline ← o.newline
  let bsr ← o.bsr
  return ⟨expanded.nativeBits, newline, bsr⟩

end CompileOptions

end Regex
