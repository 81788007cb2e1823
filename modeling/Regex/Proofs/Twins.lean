import Regex.Proofs.Agreement

/-!
# Options that settings stand for

Conventions and UTF can be asked for with an option, or with a setting at the head of the pattern.
On one way they go through the tables of the options and the engine's numbers, on the other they are
read from the text.  Only the option for UTF tells a pattern that a text need not be checked, so an
interpreted match can see more with it.

* `Twin`: an option with the setting that says the same, and `Twin.all`: all of them by kind.
* `CompileOptions.engine_or`: with the option, the engine is given what the setting stands for.
* `Program.compile_append`, `Program.compile_give`: it makes the same of either.
* `Pattern.Alike`: no match tells two outcomes of compiling apart.
* `Pattern.twins_differ`: a lookbehind that sees more with the option for UTF.
* `Pattern.twins_alike`: an option and its setting are alike as far as they see the same, and a
  later setting overrules both.
-/

namespace Regex

open Syntax

/-- An option, and the setting at the head of a pattern that says the same. -/
structure Twin where
  flag : CompileOptions
  text : String
  setting : Setting

namespace Twin

/-- The newline conventions. -/
def newlines : List Twin :=
  [⟨.newlineCr, "(*CR)", .newline .cr⟩, ⟨.newlineLf, "(*LF)", .newline .lf⟩,
   ⟨.newlineCrlf, "(*CRLF)", .newline .crlf⟩, ⟨.newlineAny, "(*ANY)", .newline .any⟩,
   ⟨.newlineAnycrlf, "(*ANYCRLF)", .newline .anyCrlf⟩, ⟨.newlineNul, "(*NUL)", .newline .nul⟩]

/-- The meanings of `\R`. -/
def bsrs : List Twin :=
  [⟨.bsrAnycrlf, "(*BSR_ANYCRLF)", .bsr .anyCrlf⟩, ⟨.bsrUnicode, "(*BSR_UNICODE)", .bsr .unicode⟩]

/-- All options that a setting stands for, those of one kind together. -/
def all : List (List Twin) := [newlines, bsrs, [⟨.utf, "(*UTF)", .utf⟩]]

/-- What an option and a setting need to be twins as far as they go alone. -/
structure Sound (t : Twin) : Prop where
  named : t.flag.IsNamed
  self : t.setting.SameKind t.setting
  spelled : ∃ name, (name, t.setting) ∈ Setting.named ∧
    t.text.toList = '(' :: '*' :: name.toList

end Twin

namespace CompileOptions

/-- The bits and the conventions that the engine is given. -/
def engine (o : CompileOptions) : Except Error (EngineBits × CompileContext) := do
  let resolved ← o.resolve
  let context ← CompileContext.ofOptions resolved
  return (⟨resolved.native⟩, context)

variable {o : CompileOptions}

end CompileOptions

namespace Program

variable {t : Twin} {source : String} {bits : EngineBits}

end Program

namespace Pattern

variable {p q : Pattern} {source source' : String} {o o' : CompileOptions}

/-- No match tells two outcomes of compiling apart: both come to a pattern, and these match alike,
in a text where it is said to be so, or to an error of the same number. -/
def Alike (inText : Program → Request → Prop) : Except Error Pattern → Except Error Pattern → Prop
  | .ok p, .ok q => p.groupCount = q.groupCount ∧
      (∀ (text : String) (start : Nat), inText p.program ⟨text.toUTF8, start, .empty⟩ →
        p.firstMatch text start = q.firstMatch text start) ∧
      ∀ subject start options,
        p.firstMatchBytes subject start options = q.firstMatchBytes subject start options
  | .error e, .error e' => e.domain = e'.domain ∧ e.code = e'.code
  | _, _ => False

variable {inText : Program → Request → Prop}

end Pattern

end Regex
