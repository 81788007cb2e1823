import Regex.Proofs.Text.WellFormed

/-!
# Texts read back

Bytes are read as text character by character, and what is no character is shown as U+FFFD.  Nothing
is lost on the bytes of a text, so the bytes tell which text it was.

* `pieces_encode`: the bytes of a text fall into its characters.
* `text?_eq_some`: bytes are read as a text if and only if they are those of that text.
* `text?_eq_none`: other bytes are not read as a text.
* `encode_injective`: different texts have different bytes.
* `head?_lossy`, `encode_lossy`: bytes are shown with U+FFFD where they are not those of a text.
* `mem_encode`, `getLast?_encode`, `head?_encode`: an ASCII character stands in a text where its
  byte stands among the bytes.
-/

namespace Regex.Utf8

/-- The first of whole characters, and what follows it. -/
theorem pieces_cons {lead : UInt8} {tail : List UInt8} (char : IsChar lead tail)
    (rest : List UInt8) :
    pieces (lead :: (tail ++ rest)) = .char (Char.ofNat (codePoint lead tail)) :: pieces rest := by
  rw [pieces, char.leadingDefect?_append]
  dsimp only
  rw [← char.length, List.take_left, List.drop_left]

theorem pieces_utf8EncodeChar (c : Char) (rest : List UInt8) :
    pieces (String.utf8EncodeChar c ++ rest) = .char c :: pieces rest := by
  obtain ⟨lead, tail, eq, char, code⟩ := utf8EncodeChar_eq c
  rw [eq, List.cons_append, pieces_cons char, code, Char.ofNat_toNat]

/-- The bytes of a text fall into its characters, whatever follows them. -/
theorem pieces_encode_append (text : String) (rest : List UInt8) :
    pieces (encode text ++ rest) = text.toList.map .char ++ pieces rest := by
  rw [encode_eq]
  induction text.toList with
  | nil => rfl
  | cons c chars ih =>
      rw [List.flatMap_cons, List.append_assoc, pieces_utf8EncodeChar, ih, List.map_cons,
        List.cons_append]

theorem pieces_encode (text : String) : pieces (encode text) = text.toList.map .char := by
  have alone := pieces_encode_append text []
  rwa [List.append_nil, pieces, List.append_nil] at alone

theorem lossy_encode (text : String) : lossy (encode text) = text := by
  unfold lossy
  rw [pieces_encode, List.map_map]
  simp [Function.comp_def]

theorem text?_encode (text : String) : text? (encode text) = some text := by
  have valid : defect? 0 (encode text) = none := defect?_eq_none_iff.mpr (valid_encode text)
  unfold text? isValid
  rw [valid, Option.isNone_none, if_pos rfl, lossy_encode]

/-- **Bytes are read as a text if and only if they are those of that text.** -/
theorem text?_eq_some {bytes : List UInt8} {text : String} :
    text? bytes = some text ↔ encode text = bytes := by
  constructor
  · intro eq
    obtain ⟨found, rfl⟩ : ∃ found : String, encode found = bytes := by
      apply wellFormed_iff.1.mp
      apply wellFormed_iff.2.mpr
      unfold text? isValid at eq
      split_ifs at eq with valid
      exact Option.isNone_iff_eq_none.mp valid
    rw [text?_encode] at eq
    rw [Option.some.inj eq]
  · rintro rfl
    exact text?_encode text

/-- Bytes are no text if and only if they are not well-formed. -/
theorem text?_eq_none {bytes : List UInt8} : text? bytes = none ↔ ¬WellFormed bytes := by
  rw [wellFormed_iff.1, Option.eq_none_iff_forall_ne_some, not_exists]
  simp only [ne_eq, text?_eq_some]

theorem encode_empty : encode "" = [] := by
  rw [encode_eq, String.toList_empty, List.flatMap_nil]

theorem encode_injective : Function.Injective encode := by
  intro text text' eq
  have same := congrArg text? eq
  rw [text?_encode, text?_encode] at same
  exact Option.some.inj same

/-! ## What is shown of bytes -/

/-- Bytes that begin with a character, whatever follows it. -/
def Begins (bytes : List UInt8) (c : Char) : Prop := ∃ rest, bytes = String.utf8EncodeChar c ++ rest

/-- Bytes without a defect at their head begin with a character. -/
theorem exists_begins {lead : UInt8} {rest : List UInt8} (none : leadingDefect? lead rest = none) :
    ∃ c, Begins (lead :: rest) c := by
  obtain ⟨row, mem, fits⟩ := (isChar_take none).exists_fits
  obtain ⟨c, eq⟩ := exists_encode_of_fits mem fits
  refine ⟨c, rest.drop (continuationCount lead), ?_⟩
  rw [eq, List.cons_append, List.take_append_drop]

/-- What is shown of a text and of what follows it. -/
theorem toList_lossy_encode_append (text : String) (rest : List UInt8) :
    (lossy (encode text ++ rest)).toList = text.toList ++ (lossy rest).toList := by
  unfold lossy
  rw [pieces_encode_append, List.map_append, List.map_map, String.toList_ofList,
    String.toList_ofList]
  exact congrArg (· ++ _) (List.map_id _)

/-- Bytes that begin with no character are shown as U+FFFD first of all. -/
theorem head?_lossy {bytes : List UInt8} (some : bytes ≠ []) (broken : ∀ c, ¬Begins bytes c) :
    (lossy bytes).toList.head? = '\uFFFD' := by
  cases bytes with
  | nil => exact absurd rfl some
  | cons lead rest =>
      unfold lossy
      rw [String.toList_ofList, pieces]
      cases defect : leadingDefect? lead rest with
      | none =>
          obtain ⟨c, begins⟩ := exists_begins defect
          exact absurd begins (broken c)
      | some d => rfl

theorem Begins.eq {bytes : List UInt8} {c c' : Char} (begins : Begins bytes c)
    (begins' : Begins bytes c') : c = c' := by
  obtain ⟨rest, rfl⟩ := begins
  obtain ⟨rest', same⟩ := begins'
  have first := congrArg pieces same
  rw [pieces_utf8EncodeChar, pieces_utf8EncodeChar] at first
  exact Piece.char.inj (List.cons.inj first).1

/-- Bytes are taken character by character, as long as there are any. -/
theorem char_induction {P : List UInt8 → Prop}
    (stop : ∀ bytes, (∀ c, ¬Begins bytes c) → P bytes)
    (char : ∀ c rest, P rest → P (String.utf8EncodeChar c ++ rest)) (bytes : List UInt8) :
    P bytes := by
  induction length : bytes.length using Nat.strong_induction_on generalizing bytes with
  | _ n ih =>
      by_cases whole : ∃ c, Begins bytes c
      · obtain ⟨c, rest, rfl⟩ := whole
        have shorter : rest.length < n := by
          have positive := List.length_pos_iff.mpr (@String.utf8EncodeChar_ne_nil c)
          rw [← length, List.length_append]
          omega
        exact char c rest (ih _ shorter rest rfl)
      · exact stop bytes (not_exists.mp whole)

/-- What is shown without U+FFFD is what was written. -/
theorem encode_lossy {bytes : List UInt8} (clear : '\uFFFD' ∉ (lossy bytes).toList) :
    encode (lossy bytes) = bytes := by
  induction bytes using char_induction with
  | stop bytes broken =>
      by_cases empty : bytes = []
      · rw [empty, lossy, pieces, List.map_nil]
        exact encode_empty
      · have head := head?_lossy empty broken
        exact absurd (List.mem_of_head? head) clear
  | char c rest ih =>
      have shown : (lossy (String.utf8EncodeChar c ++ rest)).toList = c :: (lossy rest).toList := by
        unfold lossy
        rw [pieces_utf8EncodeChar, String.toList_ofList, String.toList_ofList, List.map_cons]
      rw [shown, List.mem_cons, not_or] at clear
      rw [encode_eq, shown, List.flatMap_cons, ← encode_eq, ih clear.2]

/-! ## ASCII characters -/

/-- A byte below 0x80 is all that is written for a character, and has its number. -/
theorem utf8EncodeChar_of_mem {c : Char} {b : UInt8} (mem : b ∈ String.utf8EncodeChar c)
    (ascii : b < 0x80) : String.utf8EncodeChar c = [b] ∧ c.toNat = b.toNat := by
  obtain ⟨lead, tail, eq, char, code⟩ := utf8EncodeChar_eq c
  rw [eq] at mem ⊢
  rcases List.mem_cons.mp mem with rfl | later
  · have empty : tail = [] := by
      rw [← List.length_eq_zero_iff, char.length, continuationCount_eq_zero ascii]
    subst empty
    exact ⟨rfl, code.symm⟩
  · have high := ((isContinuation_iff b).mp (char.tail_continues b later)).1
    exact absurd ascii (UInt8.not_lt.mpr high)

section Ascii

variable {c : Char} (ascii : c.toNat < 0x80) {text : String}

include ascii

theorem ofNat_toNat_lt : UInt8.ofNat c.toNat < 0x80 := by
  rw [UInt8.lt_iff_toNat_lt, UInt8.toNat_ofNat_of_lt' (by show c.toNat < 256; omega)]
  exact ascii

theorem utf8EncodeChar_ascii : String.utf8EncodeChar c = [UInt8.ofNat c.toNat] := by
  have small : c.val.toNat ≤ 127 := Nat.le_of_lt_succ ascii
  unfold String.utf8EncodeChar
  dsimp only
  rw [if_pos small, Char.toNat_val]

/-- The byte of an ASCII character is written for no other one. -/
theorem eq_of_mem_utf8EncodeChar {d : Char}
    (mem : UInt8.ofNat c.toNat ∈ String.utf8EncodeChar d) : d = c := by
  have code := (utf8EncodeChar_of_mem mem (ofNat_toNat_lt ascii)).2
  rw [UInt8.toNat_ofNat_of_lt' (by show c.toNat < 256; omega)] at code
  exact Char.toNat_inj.mp code

/-- An ASCII character in front of a text is one byte in front of its bytes. -/
theorem encode_cons (rest : List Char) : encode (String.ofList (c :: rest)) =
    UInt8.ofNat c.toNat :: encode (String.ofList rest) := by
  rw [encode_eq, encode_eq, String.toList_ofList, String.toList_ofList, List.flatMap_cons,
    utf8EncodeChar_ascii ascii, List.singleton_append]

theorem mem_encode : UInt8.ofNat c.toNat ∈ encode text ↔ c ∈ text.toList := by
  rw [encode_eq, List.mem_flatMap]
  constructor
  · rintro ⟨d, mem, byte⟩
    rwa [← eq_of_mem_utf8EncodeChar ascii byte]
  · intro mem
    refine ⟨c, mem, ?_⟩
    rw [utf8EncodeChar_ascii ascii]
    exact List.mem_singleton_self _

theorem getLast?_encode :
    (encode text).getLast? = some (UInt8.ofNat c.toNat) ↔ text.toList.getLast? = some c := by
  rw [encode_eq]
  rcases List.eq_nil_or_concat text.toList with empty | ⟨before, d, chars⟩
  · simp [empty]
  have last : (text.toList.flatMap String.utf8EncodeChar).getLast? =
      (String.utf8EncodeChar d).getLast? := by
    obtain ⟨lead, tail, eq, -⟩ := utf8EncodeChar_eq d
    rw [chars, List.concat_eq_append, List.flatMap_append, List.flatMap_singleton,
      List.getLast?_append, eq, List.getLast?_cons, Option.some_or]
  rw [last, chars, List.concat_eq_append, List.getLast?_concat, Option.some_inj]
  constructor
  · intro byte
    exact eq_of_mem_utf8EncodeChar ascii (List.mem_of_getLast? byte)
  · rintro rfl
    rw [utf8EncodeChar_ascii ascii]
    rfl

theorem head?_encode :
    (encode text).head? = some (UInt8.ofNat c.toNat) ↔ text.toList.head? = some c := by
  rw [encode_eq]
  cases text.toList with
  | nil => simp
  | cons d rest =>
      obtain ⟨lead, tail, eq, -⟩ := utf8EncodeChar_eq d
      have first : ((d :: rest).flatMap String.utf8EncodeChar).head? =
          (String.utf8EncodeChar d).head? := by
        rw [List.flatMap_cons, eq, List.cons_append, List.head?_cons, List.head?_cons]
      rw [first, List.head?_cons, Option.some_inj]
      constructor
      · intro byte
        exact eq_of_mem_utf8EncodeChar ascii (List.mem_of_head? byte)
      · rintro rfl
        rw [utf8EncodeChar_ascii ascii]
        rfl

end Ascii

end Regex.Utf8
