import Regex.Chars.Ascii
import Regex.Proofs.Text.Utf8
import Regex.Syntax.Source

/-!
# Marks in a text

An item that is written in one way only is not in a pattern if its mark is not in the text.  A text
is read by characters or by bytes; but a mark of ASCII characters stands in the one if it stands in
the other, since no byte of another character is ASCII.

* `byteMark`, `keepMark`, `callMarks`: how single bytes, moving the start of a match, and calls of
  groups are written.
* `Source.infix_of_mem_marks`: a mark that is found while reading stands in the text.
-/

namespace Regex.Syntax

open Chars

/-! ## Characters and bytes -/

/-- The bytes of a character as the units of a text that is read by bytes. -/
def byteUnits (c : Char) : List Char := (String.utf8EncodeChar c).map fun b => Char.ofNat b.toNat

/-- An ASCII character is its only byte. -/
theorem byteUnits_ascii {c : Char} (ascii : c.toNat < 0x80) : byteUnits c = [c] := by
  have small : c.val.toNat ≤ 0x7F := Nat.le_of_lt_succ ascii
  have byte : (UInt8.ofNat c.val.toNat).toNat = c.val.toNat :=
    Nat.mod_eq_of_lt (Nat.lt_of_le_of_lt small (by decide))
  unfold byteUnits String.utf8EncodeChar
  dsimp only
  rw [if_pos small, List.map_singleton, byte]
  exact congrArg (fun c => [c]) (Char.ofNat_toNat c)

/-- No byte of another character is ASCII. -/
theorem le_of_mem_byteUnits {c : Char} (wide : 0x80 ≤ c.toNat) :
    ∀ u ∈ byteUnits c, 0x80 ≤ u.toNat := by
  have units : ∀ b : Fin 0x100, 0x80 ≤ b.val → 0x80 ≤ (Char.ofNat b.val).toNat := by
    decide +kernel
  intro u mem
  obtain ⟨b, bytes, rfl⟩ := List.mem_map.mp mem
  refine units ⟨b.toNat, b.toNat_lt⟩ ?_
  have large : ¬c.val.toNat ≤ 0x7F := Nat.not_le.mpr wide
  unfold String.utf8EncodeChar at bytes
  dsimp only at bytes ⊢
  rw [if_neg large] at bytes
  have byte : ∀ n : Nat, n < 0x100 → 0x80 ≤ n → 0x80 ≤ (UInt8.ofNat n).toNat := by
    intro n bound le
    exact le.trans_eq (Nat.mod_eq_of_lt bound).symm
  split_ifs at bytes
  all_goals
    simp only [List.mem_cons, List.not_mem_nil, or_false] at bytes
    rcases bytes with rfl | rfl | rfl | rfl
  all_goals exact byte _ (by omega) (by omega)

section Mark

variable {mark : List Char} (ascii : ∀ c ∈ mark, c.toNat < 0x80)

include ascii

/-- A mark at the start of the bytes of some characters stands at their start. -/
theorem prefix_of_byteUnits {chars : List Char} (found : mark <+: chars.flatMap byteUnits) :
    mark <+: chars := by
  induction mark generalizing chars with
  | nil => exact List.nil_prefix
  | cons m rest ih =>
      cases chars with
      | nil => simp at found
      | cons c chars =>
          rw [List.flatMap_cons] at found
          have small : m.toNat < 0x80 := ascii m (by simp)
          by_cases one : c.toNat < 0x80
          · rw [byteUnits_ascii one, List.singleton_append, List.cons_prefix_cons] at found
            obtain ⟨rfl, found⟩ := found
            exact List.cons_prefix_cons.mpr ⟨rfl, ih (fun c mem => ascii c (by simp [mem])) found⟩
          -- a mark is ASCII, and another character starts with a byte that is not
          · obtain ⟨u, units, eq⟩ : ∃ u units, byteUnits c = u :: units := by
              unfold byteUnits String.utf8EncodeChar
              dsimp only
              split_ifs <;> exact ⟨_, _, rfl⟩
            have wide := le_of_mem_byteUnits (Nat.not_lt.mp one) u (by simp [eq])
            rw [eq, List.cons_append, List.cons_prefix_cons] at found
            obtain ⟨rfl, _⟩ := found
            omega

/-- A mark does not start in what is not ASCII. -/
theorem infix_of_append {units rest : List Char} (wide : ∀ u ∈ units, 0x80 ≤ u.toNat)
    (some : mark ≠ []) (found : mark <:+: units ++ rest) : mark <:+: rest := by
  induction units with
  | nil => exact found
  | cons u units ih =>
      rcases List.infix_cons_iff.mp found with first | later
      · obtain ⟨m, mark, rfl⟩ := List.exists_cons_of_ne_nil some
        obtain ⟨rfl, _⟩ := List.cons_prefix_cons.mp first
        exact absurd (ascii m (by simp)) (Nat.not_lt.mpr (wide m (by simp)))
      · exact ih (fun u mem => wide u (by simp [mem])) later

/-- **A mark in the bytes of some characters stands in the characters.** -/
theorem infix_of_byteUnits (some : mark ≠ []) {chars : List Char}
    (found : mark <:+: chars.flatMap byteUnits) : mark <:+: chars := by
  induction chars with
  | nil => exact found
  | cons c chars ih =>
      rw [List.flatMap_cons] at found
      rw [List.infix_cons_iff]
      by_cases one : c.toNat < 0x80
      · rw [byteUnits_ascii one, List.singleton_append, List.infix_cons_iff] at found
        refine found.imp (fun first => prefix_of_byteUnits ascii ?_) ih
        rwa [List.flatMap_cons, byteUnits_ascii one]
      · have wide := le_of_mem_byteUnits (Nat.not_lt.mp one)
        exact Or.inr (ih (infix_of_append ascii wide some found))

end Mark

/-! ## Reading -/

namespace Source

theorem units_ofChars (text : String) : (ofChars text).units.toList = text.toList := by
  have fold : ∀ (list : List Char) (acc : Array Char × Array Nat × Nat),
      (list.foldl (fun (acc : Array Char × Array Nat × Nat) c =>
        (acc.1.push c, acc.2.1.push acc.2.2, acc.2.2 + c.utf8Size)) acc).1.toList =
          acc.1.toList ++ list := by
    intro list
    induction list with
    | nil => simp
    | cons c rest ih =>
        intro acc
        rw [List.foldl_cons, ih, Array.toList_push, List.append_assoc, List.singleton_append]
  exact fold text.toList (#[], #[], 0)

theorem units_ofBytes (text : String) :
    (ofBytes text).units.toList = text.toList.flatMap byteUnits := by
  change (Utf8.encode text).map (fun b => Char.ofNat b.toNat) = _
  rw [Utf8.encode_eq, List.map_flatMap]
  rfl

/-- A text that stands at a place stands in the units. -/
theorem prefix_of_hasText {s : Source} {i : Nat} {mark : List Char}
    (found : s.hasText i mark = true) : mark <+: s.units.toList.drop i := by
  induction mark generalizing i with
  | nil => exact List.nil_prefix
  | cons c rest ih =>
      rw [hasText, Bool.and_eq_true, has, beq_iff_eq, ← Array.getElem?_toList] at found
      obtain ⟨bound, unit⟩ := List.getElem?_eq_some_iff.mp found.1
      rw [List.drop_eq_getElem_cons bound, unit]
      exact List.cons_prefix_cons.mpr ⟨rfl, ih found.2⟩

/-- What is found while reading stands in the text, be it read by characters or by bytes. -/
theorem infix_of_hasText {byChars : Bool} {text : String} {i : Nat} {mark : List Char}
    (ascii : ∀ c ∈ mark, c.toNat < 0x80) (some : mark ≠ [])
    (found : (ofText byChars text).hasText i mark = true) : mark <:+: text.toList := by
  have units := (prefix_of_hasText found).isInfix.trans (List.drop_suffix _ _).isInfix
  unfold ofText at units
  split_ifs at units
  · rwa [units_ofChars] at units
  · rw [units_ofBytes] at units
    exact infix_of_byteUnits ascii some units

end Source

/-! ## How items are written -/

/-- How a single byte is asked for. -/
def byteMark : List Char := ['\\', 'C']

/-- How the start of a match is moved. -/
def keepMark : List Char := ['\\', 'K']

/-- How calls of groups begin. -/
def callMarks : List (List Char) :=
  [['\\', 'g', '<'], ['\\', 'g', '\''], ['(', '?', '&'], ['(', '?', 'P', '>'], ['(', '?', 'R']] ++
    [['(', '?'], ['(', '?', '+'], ['(', '?', '-']].flatMap fun sign =>
      "0123456789".toList.map fun digit => sign ++ [digit]

/-- All marks. -/
def marks : List (List Char) := byteMark :: keepMark :: callMarks

/-- **A mark that is found while reading stands in the text.** -/
theorem Source.infix_of_mem_marks {byChars : Bool} {text : String} {i : Nat} {mark : List Char}
    (mem : mark ∈ marks) (found : (ofText byChars text).hasText i mark = true) :
    mark <:+: text.toList := by
  have all : marks.all (fun mark => !mark.isEmpty && mark.all fun c => decide (c.toNat < 0x80)) =
      true := by decide
  have known := List.all_eq_true.mp all mark mem
  rw [Bool.and_eq_true, List.all_eq_true, Bool.not_eq_true', List.isEmpty_eq_false_iff] at known
  exact infix_of_hasText (fun c unit => of_decide_eq_true (known.2 c unit)) known.1 found

/-- A group can be called by its number, which may have a sign. -/
theorem mem_callMarks {c : Char} (digit : isDigit c.toNat = true) :
    ['(', '?', c] ∈ callMarks ∧ ['(', '?', '+', c] ∈ callMarks ∧
      ['(', '?', '-', c] ∈ callMarks := by
  have digits : ∀ n : Fin 0x3A, isDigit n.val = true → Char.ofNat n.val ∈ "0123456789".toList := by
    decide
  have range : 0x30 ≤ c.toNat ∧ c.toNat ≤ 0x39 := by simpa [isDigit, between] using digit
  have mem := digits ⟨c.toNat, Nat.lt_succ_of_le range.2⟩ digit
  rw [Char.ofNat_toNat] at mem
  have signed : ∀ sign ∈ [['(', '?'], ['(', '?', '+'], ['(', '?', '-']], sign ++ [c] ∈ callMarks :=
    fun sign known => List.mem_append.mpr
      (Or.inr (List.mem_flatMap.mpr ⟨sign, known, List.mem_map.mpr ⟨c, mem, rfl⟩⟩))
  exact ⟨signed ['(', '?'] (by decide), signed ['(', '?', '+'] (by decide),
    signed ['(', '?', '-'] (by decide)⟩

end Regex.Syntax
