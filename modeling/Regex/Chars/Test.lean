import Regex.Chars.CharSet

/-!
# Tests on characters

What an item of a pattern that takes one character at a time asks of it.

* `Test`: the question.
* `Test.accepts`: the answer for a code point, for all tests that are about a code point alone.
-/

namespace Regex.Chars

/-- What is asked of a character. -/
inductive Test where
  /-- It is `c`, or if case is ignored one of `forms`. -/
  | char (c : Nat) (caseless : Bool) (forms : List Nat)
  /-- It is none of `forms`; the item was written with the single character `c`. -/
  | notChar (c : Nat) (caseless : Bool) (forms : List Nat)
  /-- It is one of three or more forms of a letter, or none of them. -/
  | form (forms : List Nat) (negated : Bool)
  /-- It does not start a line ending. -/
  | notNewline
  /-- Anything. -/
  | all
  /-- One byte, be it a whole character or not. -/
  | byte
  | kind (k : CharKind) (negated : Bool)
  | property (p : Property) (negated : Bool)
  | set (s : CharSet)
  /-- A line ending, which may have two characters. -/
  | lineEnding
  /-- A user-perceived character, which may have any number of characters. -/
  | cluster
  deriving Inhabited

/-- Whether a code point passes a test that is about a code point alone. -/
def Test.accepts (t : Test) (code : Nat) : Bool :=
  match t with
  | char c _ forms => code == c || forms.contains code
  | notChar c _ forms => !(code == c || forms.contains code)
  | form forms negated => forms.contains code != negated
  | kind k negated => k.contains code != negated
  | property p negated => p.contains code != negated
  | set s => s.contains code
  | notNewline | all | byte => true
  | lineEnding | cluster => false

/-- Whether a test is about a code point alone. -/
def Test.isSimple : Test → Bool
  | notNewline | byte | lineEnding | cluster => false
  | _ => true

end Regex.Chars
