import Mathlib.Order.Nat
import Mathlib.Tactic.Common
import Regex.Text.Utf8

/-!
# Characters in bytes

Bytes are UTF-8 if they are a row of whole characters: a leading byte that continues nothing,
followed by as many continuation bytes as it announces.

* `IsChar`, `Valid`: a whole character, and a row of them.
* `defect?_eq_none_iff`: bytes without a defect are such a row.
* `StartsAt`: whether there is a place between two characters before a byte.
* `Valid.drop`: so is what is left of a row from the start of a character on.
* `utf8EncodeChar_eq`: what is written for a character is a whole character with its number.
* `valid_toUTF8`: the bytes of a text are UTF-8.
* `Defect.Known`, `known_of_defect?`: the twenty-one defects, which are all that is ever found.
-/

namespace Regex.Utf8

/-- A leading byte with the continuation bytes that belong to it. -/
structure IsChar (lead : UInt8) (tail : List UInt8) : Prop where
  sound : leadingDefect? lead tail = none
  length : tail.length = continuationCount lead

/-- A row of whole characters. -/
inductive Valid : List UInt8 → Prop where
  | nil : Valid []
  | cons {lead : UInt8} {tail rest : List UInt8} :
      IsChar lead tail → Valid rest → Valid (lead :: (tail ++ rest))

theorem isContinuation_iff (b : UInt8) : isContinuation b = true ↔ 0x80 ≤ b ∧ b < 0xC0 := by
  have all : ∀ n : Fin 256, isContinuation (UInt8.ofNat n) = true ↔
      0x80 ≤ UInt8.ofNat n ∧ UInt8.ofNat n < 0xC0 := by decide +kernel
  simpa using all ⟨b.toNat, b.toNat_lt⟩

theorem continuationCount_eq_zero {b : UInt8} (ascii : b < 0x80) : continuationCount b = 0 := by
  have small : b < 0xC0 := UInt8.lt_trans ascii (by decide)
  simp [continuationCount, small]

/-- All bytes after the first two of a character without defect continue it. -/
theorem all_of_firstNonContinuation? {index : Nat} {bytes : List UInt8}
    (none : firstNonContinuation? index bytes = none) : ∀ b ∈ bytes, isContinuation b = true := by
  induction bytes generalizing index with
  | nil => simp
  | cons b rest ih =>
      rw [firstNonContinuation?] at none
      split_ifs at none with first
      intro c mem
      rcases List.mem_cons.mp mem with rfl | mem
      · exact first
      · exact ih none c mem

theorem all_of_characterDefect? {lead : UInt8} {tail : List UInt8}
    (none : characterDefect? lead tail = none) : ∀ b ∈ tail, isContinuation b = true := by
  cases tail with
  | nil => simp
  | cons second rest =>
      by_cases first : isContinuation second = true
      · simp only [characterDefect?, first, Bool.not_true, Bool.false_eq_true, if_false] at none
        have others : ∀ b ∈ rest, isContinuation b = true := by
          split at none
          · rename_i short
            rw [List.length_eq_zero_iff] at short
            simp [short]
          all_goals
            simp only [Option.or_eq_none_iff, Option.map_eq_none_iff] at none
            exact all_of_firstNonContinuation? none.1
        intro b mem
        rcases List.mem_cons.mp mem with rfl | mem
        · exact first
        · exact others b mem
      · simp [characterDefect?, first] at none

/-- The first byte of a character and what it asks of the bytes after it. -/
theorem leadingDefect?_eq_none {lead : UInt8} {rest : List UInt8} :
    leadingDefect? lead rest = none ↔ lead < 0x80 ∨
      (0xC0 ≤ lead ∧ lead < 0xFE ∧ continuationCount lead ≤ rest.length ∧
        characterDefect? lead (rest.take (continuationCount lead)) = none) := by
  unfold leadingDefect?
  dsimp only
  split_ifs with ascii continues illegal missing
  · simp [ascii]
  · have low : ¬ 0xC0 ≤ lead := UInt8.not_le.mpr continues
    simp [ascii, low]
  · have high : ¬ lead < 0xFE := UInt8.not_lt.mpr illegal
    simp [ascii, high]
  · have few : ¬ continuationCount lead ≤ rest.length := by
      simp only [List.length_take] at missing
      omega
    simp [ascii, few]
  · simp only [List.length_take] at missing
    simp only [ascii, false_or]
    have bounds : 0xC0 ≤ lead ∧ lead < 0xFE := by
      constructor
      · exact UInt8.not_lt.mp continues
      · exact UInt8.not_le.mp illegal
    have enough : continuationCount lead ≤ rest.length := by omega
    simp [bounds, enough]

/-- The bytes that a leading byte announces are there if there is no defect, and they make up a
character with it; further bytes play no part. -/
theorem isChar_take {lead : UInt8} {rest : List UInt8} (none : leadingDefect? lead rest = none) :
    IsChar lead (rest.take (continuationCount lead)) := by
  rcases leadingDefect?_eq_none.mp none with ascii | ⟨low, high, enough, sound⟩
  · have zero : continuationCount lead = 0 := continuationCount_eq_zero ascii
    rw [zero]
    exact ⟨leadingDefect?_eq_none.mpr (Or.inl ascii), by simp [zero]⟩
  · have length : (rest.take (continuationCount lead)).length = continuationCount lead := by
      rw [List.length_take]
      omega
    refine ⟨leadingDefect?_eq_none.mpr (Or.inr ⟨low, high, length.ge, ?_⟩), length⟩
    rwa [List.take_take, Nat.min_self]

namespace IsChar

variable {lead : UInt8} {tail rest : List UInt8}

/-- What follows a character does not make it a defect. -/
theorem leadingDefect?_append (char : IsChar lead tail) (rest : List UInt8) :
    leadingDefect? lead (tail ++ rest) = none := by
  rcases leadingDefect?_eq_none.mp char.sound with ascii | ⟨low, high, enough, sound⟩
  · exact leadingDefect?_eq_none.mpr (Or.inl ascii)
  · refine leadingDefect?_eq_none.mpr (Or.inr ⟨low, high, ?_, ?_⟩)
    · rw [List.length_append]
      omega
    · rwa [List.take_append_of_le_length enough]

theorem lead_starts (char : IsChar lead tail) : isContinuation lead = false := by
  rw [Bool.eq_false_iff, Ne, isContinuation_iff]
  rintro ⟨low, high⟩
  rcases leadingDefect?_eq_none.mp char.sound with ascii | ⟨lead, _⟩
  · exact absurd ascii (UInt8.not_lt.mpr low)
  · exact absurd high (UInt8.not_lt.mpr lead)

theorem tail_continues (char : IsChar lead tail) : ∀ b ∈ tail, isContinuation b = true := by
  rcases leadingDefect?_eq_none.mp char.sound with ascii | ⟨_, _, _, sound⟩
  · have zero : continuationCount lead = 0 := continuationCount_eq_zero ascii
    have empty : tail = [] := List.length_eq_zero_iff.mp (char.length.trans zero)
    simp [empty]
  · rw [List.take_of_length_le char.length.le] at sound
    exact all_of_characterDefect? sound

end IsChar

/-- **Bytes without a defect are a row of characters.** -/
theorem defect?_eq_none_iff {bytes : List UInt8} {offset : Nat} :
    defect? offset bytes = none ↔ Valid bytes := by
  constructor
  · intro none
    fun_induction defect? offset bytes with
    | case1 => exact .nil
    | case2 => cases none
    | case3 offset lead rest sound n ih =>
        have valid := Valid.cons (isChar_take sound) (ih none)
        rwa [List.take_append_drop] at valid
  · intro valid
    induction valid generalizing offset with
    | nil => rw [defect?]
    | cons char valid ih =>
        rw [defect?, char.leadingDefect?_append]
        dsimp only
        rw [← char.length, List.drop_left]
        exact ih

/-- Whether there is a place between two characters before byte `n`: the byte there, if there is
one, does not continue a character. -/
def StartsAt (bytes : List UInt8) (n : Nat) : Prop :=
  ∀ b, bytes[n]? = some b → isContinuation b = false

theorem startsAt_length (bytes : List UInt8) : StartsAt bytes bytes.length := by
  intro b beyond
  simp at beyond

namespace Valid

variable {bytes : List UInt8}

/-- What is left of a text from the start of a character on. -/
theorem drop (valid : Valid bytes) {n : Nat} (starts : StartsAt bytes n) :
    Valid (bytes.drop n) := by
  induction valid generalizing n with
  | nil => simpa using Valid.nil
  | @cons lead tail rest char valid ih =>
      cases n with
      | zero => exact .cons char valid
      | succ n =>
          rw [List.drop_succ_cons]
          rw [StartsAt, List.getElem?_cons_succ] at starts
          by_cases inside : n < tail.length
          · rw [List.getElem?_append_left inside, List.getElem?_eq_getElem inside] at starts
            have no := starts _ rfl
            rw [char.tail_continues _ (List.getElem_mem inside)] at no
            cases no
          · have beyond : tail.length ≤ n := Nat.not_lt.mp inside
            rw [List.getElem?_append_right beyond] at starts
            rw [List.drop_append, List.drop_eq_nil_of_le beyond, List.nil_append]
            exact ih starts

/-- A text starts with the first byte of a character. -/
theorem startsAt_zero (valid : Valid bytes) : StartsAt bytes 0 := by
  intro b first
  cases valid with
  | nil => cases first
  | cons char _ =>
      obtain rfl := Option.some.inj first
      exact char.lead_starts

/-- The first character of a text, and what follows it. -/
theorem uncons {lead : UInt8} {rest : List UInt8} (valid : Valid (lead :: rest)) :
    leadingDefect? lead rest = none ∧ Valid (rest.drop (continuationCount lead)) := by
  cases valid with
  | cons char valid =>
      refine ⟨char.leadingDefect?_append _, ?_⟩
      rwa [← char.length, List.drop_left]

theorem append {more : List UInt8} (valid : Valid bytes) (rest : Valid more) :
    Valid (bytes ++ more) := by
  induction valid with
  | nil => exact rest
  | cons char valid ih =>
      rw [List.cons_append, List.append_assoc]
      exact .cons char ih

end Valid

/-! ## Texts -/

/-- A byte that is written after the first one of a character. -/
theorem isContinuation_ofNat (n : Nat) : isContinuation (UInt8.ofNat (n % 0x40 + 0x80)) = true := by
  have all : ∀ b : Fin 0x40, isContinuation (UInt8.ofNat (b + 0x80)) = true := by decide +kernel
  exact all ⟨n % 0x40, Nat.mod_lt _ (by decide)⟩

theorem isChar_one {n : Nat} (small : n < 0x80) : IsChar (UInt8.ofNat n) [] := by
  have all : ∀ n : Fin 0x80, leadingDefect? (UInt8.ofNat n) [] = none ∧
      continuationCount (UInt8.ofNat n) = 0 := by decide +kernel
  obtain ⟨sound, length⟩ := all ⟨n, small⟩
  exact ⟨sound, length.symm⟩

theorem isChar_two {a : Nat} {second : UInt8} (low : 2 ≤ a) (high : a < 0x20)
    (continues : isContinuation second = true) : IsChar (UInt8.ofNat (a + 0xC0)) [second] := by
  have all : ∀ a : Fin 0x20, 2 ≤ a.val → 0xC0 ≤ UInt8.ofNat (a + 0xC0) ∧
      UInt8.ofNat (a + 0xC0) < 0xFE ∧ continuationCount (UInt8.ofNat (a + 0xC0)) = 1 ∧
        (UInt8.ofNat (a + 0xC0) &&& 0x3E == 0) = false := by decide +kernel
  obtain ⟨lower, upper, count, short⟩ := all ⟨a, high⟩ low
  dsimp only at lower upper count short
  generalize UInt8.ofNat (a + 0xC0) = lead at lower upper count short ⊢
  refine ⟨leadingDefect?_eq_none.mpr (Or.inr ⟨lower, upper, by simp [count], ?_⟩), by simp [count]⟩
  simp [count, characterDefect?, continues, short]

theorem isChar_three {a b : Nat} {third : UInt8} (a_lt : a < 0x10) (b_lt : b < 0x40)
    (long : a = 0 → 0x20 ≤ b) (noSurrogate : a = 0xD → b < 0x20)
    (continues : isContinuation third = true) :
    IsChar (UInt8.ofNat (a + 0xE0)) [UInt8.ofNat (b + 0x80), third] := by
  have all : ∀ a : Fin 0x10, ∀ b : Fin 0x40, (a.val = 0 → 0x20 ≤ b.val) →
      (a.val = 0xD → b.val < 0x20) → 0xC0 ≤ UInt8.ofNat (a + 0xE0) ∧
      UInt8.ofNat (a + 0xE0) < 0xFE ∧ continuationCount (UInt8.ofNat (a + 0xE0)) = 2 ∧
        isContinuation (UInt8.ofNat (b + 0x80)) = true ∧
        (UInt8.ofNat (a + 0xE0) == 0xE0 && UInt8.ofNat (b + 0x80) &&& 0x20 == 0) = false ∧
        (UInt8.ofNat (a + 0xE0) == 0xED && decide (UInt8.ofNat (b + 0x80) ≥ 0xA0)) = false := by
    decide +kernel
  obtain ⟨lower, upper, count, second, short, range⟩ := all ⟨a, a_lt⟩ ⟨b, b_lt⟩ long noSurrogate
  dsimp only at lower upper count second short range
  generalize UInt8.ofNat (a + 0xE0) = lead at lower upper count short range ⊢
  generalize UInt8.ofNat (b + 0x80) = next at second short range ⊢
  refine ⟨leadingDefect?_eq_none.mpr (Or.inr ⟨lower, upper, by simp [count], ?_⟩), by simp [count]⟩
  simp [count, characterDefect?, firstNonContinuation?, continues, second, short, range]

theorem isChar_four {a b : Nat} {third fourth : UInt8} (a_lt : a ≤ 4) (b_lt : b < 0x40)
    (long : a = 0 → 0x10 ≤ b) (range : a = 4 → b < 0x10)
    (continues : isContinuation third = true ∧ isContinuation fourth = true) :
    IsChar (UInt8.ofNat (a + 0xF0)) [UInt8.ofNat (b + 0x80), third, fourth] := by
  have all : ∀ a : Fin 5, ∀ b : Fin 0x40, (a.val = 0 → 0x10 ≤ b.val) →
      (a.val = 4 → b.val < 0x10) → 0xC0 ≤ UInt8.ofNat (a + 0xF0) ∧
      UInt8.ofNat (a + 0xF0) < 0xFE ∧ continuationCount (UInt8.ofNat (a + 0xF0)) = 3 ∧
        isContinuation (UInt8.ofNat (b + 0x80)) = true ∧
        (UInt8.ofNat (a + 0xF0) == 0xF0 && UInt8.ofNat (b + 0x80) &&& 0x30 == 0) = false ∧
        (decide (UInt8.ofNat (a + 0xF0) > 0xF4) || (UInt8.ofNat (a + 0xF0) == 0xF4 &&
          decide (UInt8.ofNat (b + 0x80) > 0x8F))) = false := by
    decide +kernel
  obtain ⟨lower, upper, count, second, short, large⟩ :=
    all ⟨a, Nat.lt_succ_of_le a_lt⟩ ⟨b, b_lt⟩ long range
  dsimp only at lower upper count second short large
  generalize UInt8.ofNat (a + 0xF0) = lead at lower upper count short large ⊢
  generalize UInt8.ofNat (b + 0x80) = next at second short large ⊢
  refine ⟨leadingDefect?_eq_none.mpr (Or.inr ⟨lower, upper, by simp [count], ?_⟩), by simp [count]⟩
  simp [count, characterDefect?, firstNonContinuation?, continues, second, short, large]

/-! The number of a character, by the length of its bytes. -/

theorem codePoint_two {a b : Nat} (a_lt : a < 0x20) (b_lt : b < 0x40) :
    codePoint (UInt8.ofNat (a + 0xC0)) [UInt8.ofNat (b + 0x80)] = a * 0x40 + b := by
  simp only [codePoint, List.length_cons, List.length_nil, List.foldl_cons, List.foldl_nil,
    UInt8.toNat_ofNat']
  omega

theorem codePoint_three {a b c : Nat} (a_lt : a < 0x10) (b_lt : b < 0x40) (c_lt : c < 0x40) :
    codePoint (UInt8.ofNat (a + 0xE0)) [UInt8.ofNat (b + 0x80), UInt8.ofNat (c + 0x80)] =
      (a * 0x40 + b) * 0x40 + c := by
  simp only [codePoint, List.length_cons, List.length_nil, List.foldl_cons, List.foldl_nil,
    UInt8.toNat_ofNat']
  omega

theorem codePoint_four {a b c d : Nat} (a_lt : a < 0x08) (b_lt : b < 0x40) (c_lt : c < 0x40)
    (d_lt : d < 0x40) :
    codePoint (UInt8.ofNat (a + 0xF0))
      [UInt8.ofNat (b + 0x80), UInt8.ofNat (c + 0x80), UInt8.ofNat (d + 0x80)] =
        ((a * 0x40 + b) * 0x40 + c) * 0x40 + d := by
  simp only [codePoint, List.length_cons, List.length_nil, List.foldl_cons, List.foldl_nil,
    UInt8.toNat_ofNat']
  omega

/-- A character is written as one whole character, with its number. -/
theorem utf8EncodeChar_eq (c : Char) : ∃ lead tail, String.utf8EncodeChar c = lead :: tail ∧
    IsChar lead tail ∧ codePoint lead tail = c.toNat := by
  have scalar : c.toNat < 0xD800 ∨ 0xDFFF < c.toNat ∧ c.toNat < 0x110000 := c.valid
  have digit := isContinuation_ofNat
  unfold String.utf8EncodeChar
  dsimp only
  rw [Char.toNat_val]
  generalize c.toNat = v at scalar ⊢
  split_ifs with one two three
  · refine ⟨_, _, rfl, isChar_one (by omega), ?_⟩
    show (UInt8.ofNat v).toNat = v
    rw [UInt8.toNat_ofNat']
    omega
  · refine ⟨_, _, rfl, isChar_two (by omega) (by omega) (digit _), ?_⟩
    rw [codePoint_two (by omega) (by omega)]
    omega
  · refine ⟨_, _, rfl, isChar_three (by omega) (by omega) (by omega) (by omega) (digit _), ?_⟩
    rw [codePoint_three (by omega) (by omega) (by omega)]
    omega
  · refine ⟨_, _, rfl,
      isChar_four (by omega) (by omega) (by omega) (by omega) ⟨digit _, digit _⟩, ?_⟩
    rw [codePoint_four (by omega) (by omega) (by omega) (by omega)]
    omega

theorem valid_utf8EncodeChar (c : Char) : Valid (String.utf8EncodeChar c) := by
  obtain ⟨lead, tail, eq, char, -⟩ := utf8EncodeChar_eq c
  rw [eq]
  simpa using Valid.cons char .nil

/-- The bytes of an array as a list. -/
theorem toList_eq (bytes : ByteArray) : bytes.toList = bytes.data.toList := by
  have loop : ∀ (i : Nat) (read : List UInt8),
      ByteArray.toList.loop bytes i read = read.reverse ++ bytes.data.toList.drop i := by
    intro i read
    fun_induction ByteArray.toList.loop bytes i read with
    | case1 i read inside ih =>
        have byte : bytes.get! i = bytes.data[i] := getElem!_pos bytes.data i inside
        rw [ih, byte, List.reverse_cons, List.append_assoc, List.singleton_append,
          List.drop_eq_getElem_cons (show i < bytes.data.toList.length from inside)]
        rfl
    | case2 i read beyond =>
        have short : bytes.data.toList.length ≤ i := Nat.not_lt.mp beyond
        rw [List.drop_eq_nil_of_le short, List.append_nil]
  simpa [ByteArray.toList] using loop 0 []

theorem length_encode (text : String) : (encode text).length = text.utf8ByteSize := by
  rw [encode, toList_eq, Array.length_toList]
  rfl

/-- The bytes of a text are those of its characters. -/
theorem encode_eq (text : String) : encode text = text.toList.flatMap String.utf8EncodeChar := by
  have bytes : text.toUTF8 = (text.toList.flatMap String.utf8EncodeChar).toByteArray := by
    rw [← List.utf8Encode, String.toUTF8]
    simp
  rw [encode, toList_eq, bytes, List.toList_data_toByteArray]

/-- **The bytes of a text are UTF-8.** -/
theorem valid_toUTF8 (text : String) : Valid text.toUTF8.data.toList := by
  have all : ∀ chars : List Char, Valid (chars.flatMap String.utf8EncodeChar) := by
    intro chars
    induction chars with
    | nil => exact .nil
    | cons c rest ih =>
        rw [List.flatMap_cons]
        exact (valid_utf8EncodeChar c).append ih
  rw [← toList_eq]
  change Valid (encode text)
  rw [encode_eq]
  exact all text.toList

/-! ## The numbers of defects -/

/-- The twenty-one defects that there are. -/
def Defect.Known : Defect → Prop
  | .missing count => 1 ≤ count ∧ count ≤ 5
  | .notContinuation index => 2 ≤ index ∧ index ≤ 6
  | .tooLong size => size = 5 ∨ size = 6
  | .overlong size => 2 ≤ size ∧ size ≤ 6
  | .tooLarge | .surrogate | .isolatedContinuation | .illegalByte => True

/-- Their numbers follow those for a missing and for a partial match. -/
theorem Defect.Known.code {d : Defect} (known : d.Known) : -23 ≤ d.code ∧ d.code ≤ -3 := by
  cases d with
  | missing | notContinuation | tooLong | overlong =>
      simp only [Known] at known
      simp only [Defect.code]
      omega
  | _ => decide

theorem index_of_firstNonContinuation? {bytes : List UInt8} {index found : Nat}
    (eq : firstNonContinuation? index bytes = some found) :
    index ≤ found ∧ found < index + bytes.length := by
  induction bytes generalizing index with
  | nil => cases eq
  | cons b rest ih =>
      rw [firstNonContinuation?] at eq
      rw [List.length_cons]
      split_ifs at eq
      · have := ih eq
        omega
      · obtain rfl := Option.some.inj eq
        omega

theorem known_of_characterDefect? {lead : UInt8} {tail : List UInt8} {d : Defect}
    (short : tail.length ≤ 5) (found : characterDefect? lead tail = some d) : d.Known := by
  cases tail with
  | nil => cases found
  | cons second rest =>
      rw [List.length_cons] at short
      -- a byte is out of place, or else the character is not what it should be
      have malformed : ∀ other : Option Defect, (∀ d, other = some d → d.Known) →
          ((firstNonContinuation? 3 rest).map Defect.notContinuation).or other = some d →
            d.Known := by
        intro other known eq
        rcases Option.or_eq_some_iff.mp eq with eq | ⟨-, eq⟩
        · obtain ⟨index, inside, rfl⟩ := Option.map_eq_some_iff.mp eq
          have := index_of_firstNonContinuation? inside
          exact ⟨by omega, by omega⟩
        · exact known d eq
      by_cases first : isContinuation second = true
      · simp only [characterDefect?, first, Bool.not_true, Bool.false_eq_true, if_false] at found
        split at found
        · split_ifs at found
          cases found
          exact ⟨le_rfl, by decide⟩
        all_goals
          refine malformed _ (fun d eq => ?_) found
          split_ifs at eq
          all_goals
            cases eq
            simp [Defect.Known]
      · simp only [characterDefect?, first, Bool.not_false, if_true] at found
        cases found
        exact ⟨le_rfl, by decide⟩

theorem known_of_leadingDefect? {lead : UInt8} {rest : List UInt8} {d : Defect}
    (found : leadingDefect? lead rest = some d) : d.Known := by
  have count_le : continuationCount lead ≤ 5 := by
    unfold continuationCount
    split_ifs <;> omega
  unfold leadingDefect? at found
  extract_lets n tail at found
  have length_le : tail.length ≤ n := List.length_take_le ..
  split_ifs at found with _ _ _ missing
  · cases found
    trivial
  · cases found
    trivial
  · cases found
    exact ⟨by omega, by omega⟩
  · exact known_of_characterDefect? (by omega) found

/-- What is found to be wrong with bytes is one of the defects that there are. -/
theorem known_of_defect? {bytes : List UInt8} {offset : Nat} {found : Nat × Defect}
    (eq : defect? offset bytes = some found) : found.2.Known := by
  fun_induction defect? offset bytes with
  | case1 => cases eq
  | case2 offset lead rest defect bad =>
      cases eq
      exact known_of_leadingDefect? bad
  | case3 offset lead rest sound n ih => exact ih eq

end Regex.Utf8
