import Regex.Convention
import Regex.Error.Engine

/-!
# Compile contexts

The engine takes line conventions as numbers, one after another, and answers each with a number of
its own.

* `CompileContext`: the conventions that the engine compiles a pattern with.
* `CompileContext.setNewline`, `CompileContext.setBsr`: the engine's side of a setting.
* `CompileContext.ofOptions`: a context with the settings that are asked for.

A setting that is refused is an error of the options.
-/

namespace Regex

/-- The newline convention that the engine knows by a number. -/
def Newline.ofNumber? : Nat → Option Newline
  | 1 => some .cr
  | 2 => some .lf
  | 3 => some .crlf
  | 4 => some .any
  | 5 => some .anyCrlf
  | 6 => some .nul
  | _ => none

/-- The meaning of `\R` that the engine knows by a number. -/
def Bsr.ofNumber? : Nat → Option Bsr
  | 1 => some .unicode
  | 2 => some .anyCrlf
  | _ => none

/-- The conventions that the engine compiles a pattern with. -/
structure CompileContext where
  newline : Newline
  bsr : Bsr
  deriving DecidableEq

namespace CompileContext

/-- A context without settings. -/
def initial : CompileContext := ⟨.lf, .unicode⟩

/-- Sets the newline convention by its number; the engine answers 0 if it knows the number. -/
def setNewline (c : CompileContext) (number : Nat) : CompileContext × Int :=
  match Newline.ofNumber? number with
  | some n => ({ c with newline := n }, 0)
  | none => (c, ErrorCode.badData)

/-- Sets the meaning of `\R` by its number. -/
def setBsr (c : CompileContext) (number : Nat) : CompileContext × Int :=
  match Bsr.ofNumber? number with
  | some b => ({ c with bsr := b }, 0)
  | none => (c, ErrorCode.badData)

/-- What is made of the engine's answer to a setting. -/
def checkSetting (answer : Int) : Except Error Unit :=
  if answer = 0 then .ok ()
  else
    .error ((Error.ofCode .options ErrorCode.contextSetting).withDetail answer
      (engineMessage answer))

/-- The context for some options. -/
def ofOptions (options : EngineOptions) : Except Error CompileContext := do
  let mut c := initial
  if let some n := options.newline then
    let (set, answer) := c.setNewline n.number
    checkSetting answer
    c := set
  if let some b := options.bsr then
    let (set, answer) := c.setBsr b.number
    checkSetting answer
    c := set
  return c

end CompileContext

end Regex
