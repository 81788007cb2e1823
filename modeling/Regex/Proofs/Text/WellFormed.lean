import Regex.Proofs.Text.Utf8

/-!
# Well-formed bytes

The other way to say which bytes are UTF-8: instead of naming what can be wrong with them, list what
a character may look like, byte by byte.

* `rows`: the forms of a character, each a row of ranges for its bytes.
* `WellFormed`: bytes that split into characters of these forms.
* `exists_encode_of_fits`: every such character is the encoding of a code point.
* `wellFormed_iff`: bytes are well-formed if and only if they are those of a text, and if and only
  if nothing is found at fault in them.

The list knows nothing of the twenty-one defects, so neither account can hide a mistake of the
other.
-/

namespace Regex.Utf8

/-- The bytes from `low` to `high`. -/
structure ByteRange where
  low : UInt8
  high : UInt8

/-- Whether a byte is in a range. -/
def ByteRange.Has (range : ByteRange) (b : UInt8) : Prop := range.low ≤ b ∧ b ≤ range.high

instance (range : ByteRange) (b : UInt8) : Decidable (range.Has b) :=
  inferInstanceAs (Decidable (_ ∧ _))

/-- The bytes that continue a character. -/
def tails : ByteRange := ⟨0x80, 0xBF⟩

/-- The forms of a character.  A second byte has a smaller range where a larger one would write a
character in too many bytes, a surrogate, or a number that is no code point. -/
def rows : List (List ByteRange) :=
  [[⟨0x00, 0x7F⟩],
   [⟨0xC2, 0xDF⟩, tails],
   [⟨0xE0, 0xE0⟩, ⟨0xA0, 0xBF⟩, tails],
   [⟨0xE1, 0xEC⟩, tails, tails],
   [⟨0xED, 0xED⟩, ⟨0x80, 0x9F⟩, tails],
   [⟨0xEE, 0xEF⟩, tails, tails],
   [⟨0xF0, 0xF0⟩, ⟨0x90, 0xBF⟩, tails, tails],
   [⟨0xF1, 0xF3⟩, tails, tails, tails],
   [⟨0xF4, 0xF4⟩, ⟨0x80, 0x8F⟩, tails, tails]]

/-- As many bytes as there are ranges, each in its range. -/
def Fits : List ByteRange → List UInt8 → Prop := List.Forall₂ ByteRange.Has

/-- Bytes that split into characters of the listed forms. -/
inductive WellFormed : List UInt8 → Prop where
  | nil : WellFormed []
  | cons {row : List ByteRange} {char rest : List UInt8} :
      row ∈ rows → Fits row char → WellFormed rest → WellFormed (char ++ rest)

/-! ## From characters to forms -/

/-- What is to hold of all bytes can be tried out. -/
instance decidableForallByte {P : UInt8 → Prop} [DecidablePred P] : Decidable (∀ b, P b) :=
  decidable_of_iff (∀ n : Fin 256, P (UInt8.ofNat n))
    ⟨fun all b => by simpa using all ⟨b.toNat, b.toNat_lt⟩, fun all n => all _⟩

theorem tails_has : ∀ b : UInt8, isContinuation b = true → tails.Has b := by decide +kernel

theorem continuationCount_pos : ∀ lead : UInt8, 0xC0 ≤ lead → 0 < continuationCount lead := by
  decide +kernel

section Forms

variable {lead second third fourth : UInt8}

/-- A character of two bytes has a leading byte that needs both. -/
theorem fits_two (low : 0xC0 ≤ lead) (count : continuationCount lead = 1)
    (continues : isContinuation second = true) (sound : characterDefect? lead [second] = none) :
    ∃ row ∈ rows, Fits row [lead, second] := by
  have leads : ∀ lead : UInt8, 0xC0 ≤ lead → continuationCount lead = 1 → ¬lead &&& 0x3E = 0 →
      (⟨0xC2, 0xDF⟩ : ByteRange).Has lead := by decide +kernel
  have long : ¬lead &&& 0x3E = 0 := by
    intro short
    simp [characterDefect?, continues, short] at sound
  exact ⟨[⟨0xC2, 0xDF⟩, tails], by simp [rows],
    .cons (leads lead low count long) (.cons (tails_has second continues) .nil)⟩

/-- In a character of three bytes the second one has a smaller range after two of the leading
bytes. -/
theorem fits_three (low : 0xC0 ≤ lead) (count : continuationCount lead = 2)
    (continues : isContinuation second = true ∧ isContinuation third = true)
    (sound : characterDefect? lead [second, third] = none) :
    ∃ row ∈ rows, Fits row [lead, second, third] := by
  have leads : ∀ lead : UInt8, 0xC0 ≤ lead → continuationCount lead = 2 →
      lead = 0xE0 ∨ (⟨0xE1, 0xEC⟩ : ByteRange).Has lead ∨ lead = 0xED ∨
        (⟨0xEE, 0xEF⟩ : ByteRange).Has lead := by decide +kernel
  have large : ∀ b : UInt8, isContinuation b = true → ¬b &&& 0x20 = 0 →
      (⟨0xA0, 0xBF⟩ : ByteRange).Has b := by decide +kernel
  have small : ∀ b : UInt8, isContinuation b = true → ¬0xA0 ≤ b →
      (⟨0x80, 0x9F⟩ : ByteRange).Has b := by decide +kernel
  have second_has := tails_has second continues.1
  have rest : Fits [tails] [third] := .cons (tails_has third continues.2) .nil
  have sound : (if lead = 0xE0 ∧ second &&& 0x20 = 0 then some (Defect.overlong 3)
      else if lead = 0xED ∧ 0xA0 ≤ second then some .surrogate else none) = none := by
    simpa [characterDefect?, continues.1, continues.2, firstNonContinuation?] using sound
  split_ifs at sound with short surrogate
  rcases leads lead low count with rfl | range | rfl | range
  · have long : ¬second &&& 0x20 = 0 := fun no => short ⟨rfl, no⟩
    exact ⟨[⟨0xE0, 0xE0⟩, ⟨0xA0, 0xBF⟩, tails], by simp [rows],
      .cons (by decide) (.cons (large second continues.1 long) rest)⟩
  · exact ⟨[⟨0xE1, 0xEC⟩, tails, tails], by simp [rows], .cons range (.cons second_has rest)⟩
  · have scalar : ¬0xA0 ≤ second := fun no => surrogate ⟨rfl, no⟩
    exact ⟨[⟨0xED, 0xED⟩, ⟨0x80, 0x9F⟩, tails], by simp [rows],
      .cons (by decide) (.cons (small second continues.1 scalar) rest)⟩
  · exact ⟨[⟨0xEE, 0xEF⟩, tails, tails], by simp [rows], .cons range (.cons second_has rest)⟩

/-- In a character of four bytes the second one has a smaller range after the first and after the
last of the leading bytes. -/
theorem fits_four (low : 0xC0 ≤ lead) (count : continuationCount lead = 3)
    (continues : isContinuation second = true ∧ isContinuation third = true ∧
      isContinuation fourth = true)
    (sound : characterDefect? lead [second, third, fourth] = none) :
    ∃ row ∈ rows, Fits row [lead, second, third, fourth] := by
  have leads : ∀ lead : UInt8, 0xC0 ≤ lead → continuationCount lead = 3 → ¬0xF4 < lead →
      lead = 0xF0 ∨ (⟨0xF1, 0xF3⟩ : ByteRange).Has lead ∨ lead = 0xF4 := by decide +kernel
  have large : ∀ b : UInt8, isContinuation b = true → ¬b &&& 0x30 = 0 →
      (⟨0x90, 0xBF⟩ : ByteRange).Has b := by decide +kernel
  have small : ∀ b : UInt8, isContinuation b = true → ¬0x8F < b →
      (⟨0x80, 0x8F⟩ : ByteRange).Has b := by decide +kernel
  have second_has := tails_has second continues.1
  have rest : Fits [tails, tails] [third, fourth] :=
    .cons (tails_has third continues.2.1) (.cons (tails_has fourth continues.2.2) .nil)
  have sound : (if lead = 0xF0 ∧ second &&& 0x30 = 0 then some (Defect.overlong 4)
      else if 0xF4 < lead ∨ lead = 0xF4 ∧ 0x8F < second then some .tooLarge else none) = none := by
    simpa [characterDefect?, continues.1, continues.2.1, continues.2.2, firstNonContinuation?]
      using sound
  split_ifs at sound with short beyond
  rw [not_or] at beyond
  rcases leads lead low count beyond.1 with rfl | range | rfl
  · have long : ¬second &&& 0x30 = 0 := fun no => short ⟨rfl, no⟩
    exact ⟨[⟨0xF0, 0xF0⟩, ⟨0x90, 0xBF⟩, tails, tails], by simp [rows],
      .cons (by decide) (.cons (large second continues.1 long) rest)⟩
  · exact ⟨[⟨0xF1, 0xF3⟩, tails, tails, tails], by simp [rows], .cons range (.cons second_has rest)⟩
  · have inside : ¬0x8F < second := fun no => beyond.2 ⟨rfl, no⟩
    exact ⟨[⟨0xF4, 0xF4⟩, ⟨0x80, 0x8F⟩, tails, tails], by simp [rows],
      .cons (by decide) (.cons (small second continues.1 inside) rest)⟩

/-- There is no character of more than four bytes. -/
theorem characterDefect?_ne_none {fifth : UInt8} {more : List UInt8} :
    characterDefect? lead (second :: third :: fourth :: fifth :: more) ≠ none := by
  intro sound
  rcases more with _ | ⟨sixth, more⟩
  all_goals
    simp only [characterDefect?, List.length_cons, List.length_nil] at sound
    split_ifs at sound
    all_goals simp at sound

end Forms

/-- A whole character has one of the forms. -/
theorem IsChar.exists_fits {lead : UInt8} {tail : List UInt8} (char : IsChar lead tail) :
    ∃ row ∈ rows, Fits row (lead :: tail) := by
  have continues := char.tail_continues
  have count := char.length.symm
  rcases leadingDefect?_eq_none.mp char.sound with ascii | ⟨low, _, _, sound⟩
  · have empty : tail = [] :=
      List.length_eq_zero_iff.mp (count.symm.trans (continuationCount_eq_zero ascii))
    have range : ∀ lead : UInt8, lead < 0x80 → (⟨0x00, 0x7F⟩ : ByteRange).Has lead := by
      decide +kernel
    exact ⟨[⟨0x00, 0x7F⟩], by simp [rows], empty ▸ .cons (range lead ascii) .nil⟩
  rw [List.take_of_length_le count.ge] at sound
  match tail with
  | [] => exact absurd (continuationCount_pos lead low) (by simp [count])
  | [second] => exact fits_two low count (by simpa using continues) sound
  | [second, third] => exact fits_three low count (by simpa using continues) sound
  | [second, third, fourth] => exact fits_four low count (by simpa using continues) sound
  | second :: third :: fourth :: fifth :: more => exact absurd sound characterDefect?_ne_none

/-! ## From forms to texts -/

/-- Every number but those of surrogates is that of a character. -/
theorem exists_char {v : Nat} (scalar : v < 0xD800 ∨ 0xDFFF < v ∧ v < 0x110000) :
    ∃ c : Char, c.val.toNat = v := by
  have small : v < 2 ^ 32 := by omega
  exact ⟨⟨UInt32.ofNat v, by rwa [UInt32.isValidChar, UInt32.toNat_ofNat_of_lt' small]⟩,
    UInt32.toNat_ofNat_of_lt' small⟩

theorem ByteRange.Has.bounds {range : ByteRange} {b : UInt8} (has : range.Has b) :
    range.low.toNat ≤ b.toNat ∧ b.toNat ≤ range.high.toNat :=
  ⟨UInt8.le_iff_toNat_le.mp has.1, UInt8.le_iff_toNat_le.mp has.2⟩

theorem ofNat_eq {n : Nat} {b : UInt8} (eq : n = b.toNat) : UInt8.ofNat n = b := by
  rw [eq, UInt8.ofNat_toNat]

section Encoded

variable {first second third fourth : UInt8}

theorem exists_encode_one (ascii : first.toNat ≤ 0x7F) :
    ∃ c, String.utf8EncodeChar c = [first] := by
  obtain ⟨c, code⟩ := @exists_char first.toNat (by omega)
  refine ⟨c, ?_⟩
  unfold String.utf8EncodeChar
  dsimp only
  rw [code, if_pos ascii, ofNat_eq rfl]

theorem exists_encode_two (first_le : 0xC2 ≤ first.toNat ∧ first.toNat ≤ 0xDF)
    (second_le : 0x80 ≤ second.toNat ∧ second.toNat ≤ 0xBF) :
    ∃ c, String.utf8EncodeChar c = [first, second] := by
  obtain ⟨c, code⟩ := @exists_char ((first.toNat - 0xC0) * 0x40 + (second.toNat - 0x80)) (by omega)
  refine ⟨c, ?_⟩
  unfold String.utf8EncodeChar
  dsimp only
  rw [code, if_neg (by omega), if_pos (by omega), ofNat_eq (b := first) (by omega),
    ofNat_eq (b := second) (by omega)]

theorem exists_encode_three (first_le : 0xE0 ≤ first.toNat ∧ first.toNat ≤ 0xEF)
    (second_le : 0x80 ≤ second.toNat ∧ second.toNat ≤ 0xBF)
    (third_le : 0x80 ≤ third.toNat ∧ third.toNat ≤ 0xBF)
    (long : first.toNat = 0xE0 → 0xA0 ≤ second.toNat)
    (scalar : first.toNat = 0xED → second.toNat ≤ 0x9F) :
    ∃ c, String.utf8EncodeChar c = [first, second, third] := by
  obtain ⟨c, code⟩ := @exists_char ((first.toNat - 0xE0) * 0x1000 + (second.toNat - 0x80) * 0x40 +
    (third.toNat - 0x80)) (by omega)
  refine ⟨c, ?_⟩
  unfold String.utf8EncodeChar
  dsimp only
  rw [code, if_neg (by omega), if_neg (by omega), if_pos (by omega),
    ofNat_eq (b := first) (by omega), ofNat_eq (b := second) (by omega),
    ofNat_eq (b := third) (by omega)]

theorem exists_encode_four (first_le : 0xF0 ≤ first.toNat ∧ first.toNat ≤ 0xF4)
    (second_le : 0x80 ≤ second.toNat ∧ second.toNat ≤ 0xBF)
    (third_le : 0x80 ≤ third.toNat ∧ third.toNat ≤ 0xBF)
    (fourth_le : 0x80 ≤ fourth.toNat ∧ fourth.toNat ≤ 0xBF)
    (long : first.toNat = 0xF0 → 0x90 ≤ second.toNat)
    (inside : first.toNat = 0xF4 → second.toNat ≤ 0x8F) :
    ∃ c, String.utf8EncodeChar c = [first, second, third, fourth] := by
  obtain ⟨c, code⟩ := @exists_char ((first.toNat - 0xF0) * 0x40000 +
    (second.toNat - 0x80) * 0x1000 + (third.toNat - 0x80) * 0x40 + (fourth.toNat - 0x80)) (by omega)
  refine ⟨c, ?_⟩
  unfold String.utf8EncodeChar
  dsimp only
  rw [code, if_neg (by omega), if_neg (by omega), if_neg (by omega),
    ofNat_eq (b := first) (by omega), ofNat_eq (b := second) (by omega),
    ofNat_eq (b := third) (by omega), ofNat_eq (b := fourth) (by omega)]

end Encoded

/-- **Whatever has one of the forms is the encoding of a character.** -/
theorem exists_encode_of_fits {row : List ByteRange} {bytes : List UInt8} (mem : row ∈ rows)
    (fits : Fits row bytes) : ∃ c, String.utf8EncodeChar c = bytes := by
  simp only [rows, List.mem_cons, List.not_mem_nil, or_false] at mem
  rcases mem with rfl | rfl | rfl | rfl | rfl | rfl | rfl | rfl | rfl
  · obtain _ | ⟨first, _ | _⟩ := fits
    exact exists_encode_one first.bounds.2
  · obtain _ | ⟨first, _ | ⟨second, _ | _⟩⟩ := fits
    exact exists_encode_two first.bounds second.bounds
  -- in the longer forms, the second byte is what rules out a number
  · obtain _ | ⟨first, _ | ⟨second, _ | ⟨third, _ | _⟩⟩⟩ := fits
    have first : 0xE0 ≤ _ ∧ _ ≤ 0xE0 := first.bounds
    have second : 0xA0 ≤ _ ∧ _ ≤ 0xBF := second.bounds
    exact exists_encode_three (by omega) (by omega) third.bounds (by omega) (by omega)
  · obtain _ | ⟨first, _ | ⟨second, _ | ⟨third, _ | _⟩⟩⟩ := fits
    have first : 0xE1 ≤ _ ∧ _ ≤ 0xEC := first.bounds
    exact exists_encode_three (by omega) second.bounds third.bounds (by omega) (by omega)
  · obtain _ | ⟨first, _ | ⟨second, _ | ⟨third, _ | _⟩⟩⟩ := fits
    have first : 0xED ≤ _ ∧ _ ≤ 0xED := first.bounds
    have second : 0x80 ≤ _ ∧ _ ≤ 0x9F := second.bounds
    exact exists_encode_three (by omega) (by omega) third.bounds (by omega) (by omega)
  · obtain _ | ⟨first, _ | ⟨second, _ | ⟨third, _ | _⟩⟩⟩ := fits
    have first : 0xEE ≤ _ ∧ _ ≤ 0xEF := first.bounds
    exact exists_encode_three (by omega) second.bounds third.bounds (by omega) (by omega)
  · obtain _ | ⟨first, _ | ⟨second, _ | ⟨third, _ | ⟨fourth, _ | _⟩⟩⟩⟩ := fits
    have first : 0xF0 ≤ _ ∧ _ ≤ 0xF0 := first.bounds
    have second : 0x90 ≤ _ ∧ _ ≤ 0xBF := second.bounds
    exact exists_encode_four (by omega) (by omega) third.bounds fourth.bounds (by omega) (by omega)
  · obtain _ | ⟨first, _ | ⟨second, _ | ⟨third, _ | ⟨fourth, _ | _⟩⟩⟩⟩ := fits
    have first : 0xF1 ≤ _ ∧ _ ≤ 0xF3 := first.bounds
    exact exists_encode_four (by omega) second.bounds third.bounds fourth.bounds (by omega)
      (by omega)
  · obtain _ | ⟨first, _ | ⟨second, _ | ⟨third, _ | ⟨fourth, _ | _⟩⟩⟩⟩ := fits
    have first : 0xF4 ≤ _ ∧ _ ≤ 0xF4 := first.bounds
    have second : 0x80 ≤ _ ∧ _ ≤ 0x8F := second.bounds
    exact exists_encode_four (by omega) (by omega) third.bounds fourth.bounds (by omega) (by omega)

/-- Bytes that are a row of characters are well-formed. -/
theorem Valid.wellFormed {bytes : List UInt8} (valid : Valid bytes) : WellFormed bytes := by
  induction valid with
  | nil => exact .nil
  | cons char _ ih =>
      obtain ⟨row, mem, fits⟩ := char.exists_fits
      rw [← List.cons_append]
      exact .cons mem fits ih

/-- Well-formed bytes are those of a text. -/
theorem WellFormed.exists_encode {bytes : List UInt8} (formed : WellFormed bytes) :
    ∃ text : String, encode text = bytes := by
  suffices ∃ chars : List Char, chars.flatMap String.utf8EncodeChar = bytes by
    obtain ⟨chars, eq⟩ := this
    exact ⟨String.ofList chars, by rw [encode_eq, String.toList_ofList, eq]⟩
  induction formed with
  | nil => exact ⟨[], rfl⟩
  | cons mem fits _ ih =>
      obtain ⟨c, char⟩ := exists_encode_of_fits mem fits
      obtain ⟨chars, rest⟩ := ih
      exact ⟨c :: chars, by rw [List.flatMap_cons, char, rest]⟩

theorem valid_encode (text : String) : Valid (encode text) := by
  rw [encode, toList_eq]
  exact valid_toUTF8 text

/-- **The three accounts agree**: bytes have the listed forms, they are those of a text, and nothing
is found at fault in them. -/
theorem wellFormed_iff {bytes : List UInt8} :
    (WellFormed bytes ↔ ∃ text : String, encode text = bytes) ∧
      (WellFormed bytes ↔ defect? 0 bytes = none) := by
  have valid : ∀ {bytes}, (∃ text : String, encode text = bytes) → Valid bytes := by
    rintro _ ⟨text, rfl⟩
    exact valid_encode text
  refine ⟨⟨WellFormed.exists_encode, fun text => (valid text).wellFormed⟩, ?_⟩
  rw [defect?_eq_none_iff]
  exact ⟨fun formed => valid formed.exists_encode, Valid.wellFormed⟩

end Regex.Utf8
