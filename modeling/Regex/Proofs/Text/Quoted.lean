import Mathlib.Tactic.Common
import Regex.Text.Quoted

/-!
# Quoted text stays on its line

Whatever is between quotes, it is written without a line feed.

* `exists_digitChar`: the digits of a number.
* `newline_notMem_escape`: a character is written without a line feed.
* `newline_notMem_text`: so is a text in quotes.
-/

namespace Regex.Quoted

/-- The digits of a number are those below its base. -/
theorem exists_digitChar {base : Nat} (one : 1 < base) (n : Nat) :
    ∀ c ∈ Nat.toDigits base n, ∃ k < base, c = k.digitChar := by
  induction n using Nat.strongRecOn with
  | ind n ih =>
      intro c mem
      by_cases small : n < base
      · rw [Nat.toDigits_of_lt_base small, List.mem_singleton] at mem
        exact ⟨n, small, mem⟩
      · have large : base ≤ n := Nat.not_lt.mp small
        rw [Nat.toDigits_of_base_le one large, List.mem_append, List.mem_singleton] at mem
        rcases mem with first | last
        · exact ih (n / base) (Nat.div_lt_self (by omega) one) c first
        · exact ⟨n % base, Nat.mod_lt n (by omega), last⟩

theorem newline_notMem_hexDigits (n : Nat) : '\n' ∉ hexDigits n := by
  intro mem
  have digits : ∀ k < 16, '\n' ≠ k.digitChar := by decide
  obtain ⟨k, small, eq⟩ := exists_digitChar (by decide) n '\n' mem
  exact digits k small eq

/-- A character is written without a line feed. -/
theorem newline_notMem_escape (c : Char) : '\n' ∉ escape c := by
  unfold escape
  split
  all_goals try decide
  -- a character that shows as itself is no line feed
  rename_i feed _ _ _
  split_ifs
  · simp [codePointEscape, newline_notMem_hexDigits]
  · simpa using Ne.symm feed

/-- A text in quotes has no line feed. -/
theorem newline_notMem_text (s : String) : '\n' ∉ (text s).toList := by
  simp [text, escapeAll, newline_notMem_escape]

theorem getLast?_text (s : String) : (text s).toList.getLast? = some '\x22' := by
  unfold text
  rw [String.toList_ofList, List.getLast?_concat]

end Regex.Quoted
