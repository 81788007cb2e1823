import Regex.Text.Utf8
import Regex.Unicode.BinaryProperty
import Regex.Unicode.Category

/-!
# Quoted text

Text between double quotes, with everything escaped that would not show as itself.

* `Quoted.text`: a string in quotes.
* `Quoted.bytes`: bytes that are meant as text but may not be UTF-8, in quotes.
-/

namespace Regex.Quoted

open Unicode

/-- Whether a character shows as itself: it is assigned and neither control nor blank, the plain
space excepted. -/
def isPrintable (c : Char) : Bool :=
  c == ' ' ||
    match Category.of c.toNat with
    | .control | .format | .surrogate | .privateUse | .unassigned | .lineSeparator
    | .paragraphSeparator | .spaceSeparator => false
    | _ => true

/-- The lower-case hexadecimal digits of a number. -/
def hexDigits (n : Nat) : List Char := Nat.toDigits 16 n

/-- A character named by its code point. -/
def codePointEscape (c : Char) : List Char :=
  ['\\', 'u', '\x7b'] ++ hexDigits c.toNat ++ ['\x7d']

/-- How a character is written inside quotes. -/
def escape (c : Char) : List Char :=
  match c with
  | '\x00' => ['\\', '0']
  | '\t' => ['\\', 't']
  | '\n' => ['\\', 'n']
  | '\r' => ['\\', 'r']
  | '\\' => ['\\', '\\']
  | '\x22' => ['\\', '\x22']
  | _ =>
    if BinaryProperty.graphemeExtend.contains c.toNat || !isPrintable c then codePointEscape c
    else [c]

/-- The characters of a text as written inside quotes. -/
def escapeAll (text : List Char) : List Char := text.flatMap escape

/-- A text in quotes. -/
def text (s : String) : String :=
  String.ofList ('\x22' :: escapeAll s.toList ++ ['\x22'])

/-- A byte written as two upper-case hexadecimal digits. -/
def byteEscape (b : UInt8) : List Char :=
  let digit (n : Nat) : Char := (Nat.digitChar n).toUpper
  ['\\', 'x', digit (b.toNat / 16), digit (b.toNat % 16)]

/-- Bytes in quotes: characters as in `text`, the bytes of broken characters one by one. -/
def bytes (bs : List UInt8) : String :=
  let body := (Utf8.pieces bs).flatMap fun
    | .char c => escape c
    | .broken bytes => bytes.flatMap byteEscape
  String.ofList ('\x22' :: body ++ ['\x22'])

end Regex.Quoted
