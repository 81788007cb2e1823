/-!
# Decimal integers

Integers written with digits and an optional sign, within bounds.

* `Decimal.readNatural`: a number with an optional plus sign and an upper bound.
* `Decimal.readInteger`: a number with an optional sign and bounds on both sides.

A text is judged from left to right: the first digit that is none and the first digit that makes the
number too large are faults, whichever comes first.
-/

namespace Regex.Decimal

/-- Why a text is not a number of the wanted kind. -/
inductive Fault where
  | empty
  | invalidDigit
  | tooLarge
  | tooSmall
  deriving DecidableEq

/-- The wording of a fault. -/
def Fault.message : Fault → String
  | .empty => "cannot parse integer from empty string"
  | .invalidDigit => "invalid digit found in string"
  | .tooLarge => "number too large to fit in target type"
  | .tooSmall => "number too small to fit in target type"

/-- Continues a number `n` by digits, up to `bound`; `overflow` is the fault of exceeding it. -/
def readDigits (bound : Nat) (overflow : Fault) (n : Nat) : List Char → Except Fault Nat
  | [] => .ok n
  | c :: rest =>
    if c.isDigit then
      let next := n * 10 + (c.toNat - 48)
      if bound < next then .error overflow else readDigits bound overflow next rest
    else .error .invalidDigit

/-- Reads one or more digits. -/
def readMagnitude (bound : Nat) (overflow : Fault) (digits : List Char) : Except Fault Nat :=
  if digits.isEmpty then .error .invalidDigit else readDigits bound overflow 0 digits

/-- Reads a number that is at most `bound`. -/
def readNatural (bound : Nat) : List Char → Except Fault Nat
  | [] => .error .empty
  | '+' :: digits => readMagnitude bound .tooLarge digits
  | digits => readMagnitude bound .tooLarge digits

/-- Reads a number from `-bound - 1` to `bound`. -/
def readInteger (bound : Nat) : List Char → Except Fault Int
  | [] => .error .empty
  | '+' :: digits => (readMagnitude bound .tooLarge digits).map Int.ofNat
  | '-' :: digits => (readMagnitude (bound + 1) .tooSmall digits).map fun n => -Int.ofNat n
  | digits => (readMagnitude bound .tooLarge digits).map Int.ofNat

end Regex.Decimal
