import Regex.Chars.Ascii
import Regex.Proofs.Text.Quoted

/-!
# Quoted text read back

Whoever reads quoted text goes from sign to sign and knows at each of them what it belongs to: a
character is itself or an escape, an escape ends with its sign or with a brace, and a quote that
belongs to no escape is the closing one.  So whatever a text looks like, it is told from what
follows its quotes.

* `Hexadecimal.number?`: the number that hexadecimal digits write.
* `Quoted.readOn`: reads on inside quotes.
* `readOn_escape`: a character is read back from what is written for it.
* `read?_text_append`: a text in quotes is read back, whatever follows.
-/

namespace Regex

/-! ## Hexadecimal digits -/

namespace Hexadecimal

/-- A number continued by one more digit. -/
def extend? (n : Nat) (c : Char) : Option Nat := (Chars.hexValue? c).map (16 * n + ·)

/-- The number that one or more digits write. -/
def number? (digits : List Char) : Option Nat :=
  if digits.isEmpty then none else digits.foldlM extend? 0

theorem hexValue?_digitChar : ∀ d < 16, Chars.hexValue? (Nat.digitChar d) = some d := by decide

theorem foldlM_toDigits (n : Nat) : (Nat.toDigits 16 n).foldlM extend? 0 = some n := by
  induction n using Nat.strongRecOn with
  | ind n ih =>
      by_cases small : n < 16
      · rw [Nat.toDigits_of_lt_base small, List.foldlM_cons, extend?, hexValue?_digitChar n small]
        simp
      · have last : Chars.hexValue? (n % 16).digitChar = some (n % 16) :=
          hexValue?_digitChar _ (Nat.mod_lt n (by decide))
        rw [Nat.toDigits_of_base_le (by decide) (Nat.not_lt.mp small), List.foldlM_append,
          ih (n / 16) (by omega)]
        simp [extend?, last, Nat.div_add_mod]

/-- A number is read back from its digits. -/
theorem number?_toDigits (n : Nat) : number? (Nat.toDigits 16 n) = some n := by
  have some : ¬(Nat.toDigits 16 n).isEmpty = true := by
    simp
  unfold number?
  rw [if_neg some, foldlM_toDigits]

end Hexadecimal

/-! ## Texts in quotes -/

namespace Quoted

/-- What the next sign inside quotes may be. -/
inductive Expected where
  /-- A character, the start of an escape or the closing quote. -/
  | character
  /-- The sign behind a backslash. -/
  | sign
  /-- The brace in front of a code point. -/
  | brace
  /-- A digit of a code point, behind those that have been read, or the closing brace. -/
  | digit (read : List Char)

/-- The character that a sign behind a backslash stands for. -/
def escaped? : Char → Option Char
  | '0' => some '\x00'
  | 't' => some '\t'
  | 'n' => some '\n'
  | 'r' => some '\r'
  | '\\' => some '\\'
  | '\x22' => some '\x22'
  | _ => none

/-- The character with the code point that digits write. -/
def codePoint? (digits : List Char) : Option Char := do
  let n ← Hexadecimal.number? digits
  if n.isValidChar then some (Char.ofNat n) else none

/-- A character in front of what is read behind it. -/
def withChar (c : Char) (read : List Char × List Char) : List Char × List Char :=
  (c :: read.1, read.2)

/-- Reads on inside quotes: the characters up to the closing quote, and what follows it. -/
def readOn : Expected → List Char → Option (List Char × List Char)
  | _, [] => none
  | .character, c :: rest =>
    if c = '\x22' then some ([], rest)
    else if c = '\\' then readOn .sign rest
    else (readOn .character rest).map (withChar c)
  | .sign, c :: rest =>
    if c = 'u' then readOn .brace rest
    else (escaped? c).bind fun c => (readOn .character rest).map (withChar c)
  | .brace, c :: rest => if c = '\x7b' then readOn (.digit []) rest else none
  | .digit read, c :: rest =>
    if c = '\x7d' then (codePoint? read).bind fun c => (readOn .character rest).map (withChar c)
    else readOn (.digit (read ++ [c])) rest

/-- Reads a text in quotes; the result is the text and what follows it. -/
def read? : List Char → Option (String × List Char)
  | '\x22' :: rest => (readOn .character rest).map fun read => (String.ofList read.1, read.2)
  | _ => none

theorem codePoint?_hexDigits (c : Char) : codePoint? (hexDigits c.toNat) = some c := by
  have valid : c.toNat.isValidChar := c.valid
  rw [codePoint?, hexDigits, Hexadecimal.number?_toDigits, Option.bind_eq_bind, Option.bind_some,
    if_pos valid, Char.ofNat_toNat]

/-- Digits are read up to the closing brace. -/
theorem readOn_digits {digits : List Char} (plain : '\x7d' ∉ digits) (read rest : List Char) :
    readOn (.digit read) (digits ++ '\x7d' :: rest) =
      (codePoint? (read ++ digits)).bind fun c => (readOn .character rest).map (withChar c) := by
  induction digits generalizing read with
  | nil => simp [readOn]
  | cons c digits ih =>
      rw [List.mem_cons, not_or] at plain
      rw [List.cons_append, readOn, if_neg (Ne.symm plain.1), ih plain.2]
      simp

theorem brace_notMem_hexDigits (n : Nat) : '\x7d' ∉ hexDigits n := by
  intro mem
  have digits : ∀ k < 16, '\x7d' ≠ k.digitChar := by decide
  obtain ⟨k, small, eq⟩ := exists_digitChar (by decide) n '\x7d' mem
  exact digits k small eq

/-- A character is read back from what is written for it. -/
theorem readOn_escape (c : Char) (rest : List Char) :
    readOn .character (escape c ++ rest) = (readOn .character rest).map (withChar c) := by
  unfold escape
  split
  case h_7 =>
    rename_i backslash quote
    split_ifs
    · -- a code point between braces
      have digits := readOn_digits (brace_notMem_hexDigits c.toNat) [] rest
      rw [List.nil_append, codePoint?_hexDigits, Option.bind_some] at digits
      simp [codePointEscape, readOn, digits]
    · rw [List.singleton_append, readOn, if_neg quote, if_neg backslash]
  all_goals simp [readOn, escaped?]

theorem readOn_escapeAll (chars rest : List Char) :
    readOn .character (escapeAll chars ++ '\x22' :: rest) = some (chars, rest) := by
  unfold escapeAll
  induction chars with
  | nil => simp [readOn]
  | cons c chars ih =>
      rw [List.flatMap_cons, List.append_assoc, readOn_escape, ih]
      rfl

/-- **A text in quotes is read back, whatever follows.** -/
theorem read?_text_append (s : String) (rest : List Char) :
    read? ((text s).toList ++ rest) = some (s, rest) := by
  have whole : (text s).toList ++ rest = '\x22' :: (escapeAll s.toList ++ '\x22' :: rest) := by
    simp [text]
  rw [whole, read?, readOn_escapeAll]
  simp

end Quoted

end Regex
