import Mathlib.Data.String.Basic
import Mathlib.Tactic.Common
import Regex.Error.Engine
import Regex.Proofs.Text.Lossless

/-!
# Texts of numbers

The engine has texts for the numbers from 100 upwards and from -1 downwards, and the library for
those of matches and for a few of its own.  The engine is asked first.  It writes into room of a
fixed size, so that it could run short, and what it writes is read back as bytes; the library turns
the sign of a number to find the place of a text.  No number makes any of this go wrong.

* `isSome_engineText?`: the numbers that the engine has texts for.
* `writeText_of_length_lt`: a text for which there is room is written whole.
* `engineMessage_eq`: it is read back, and other numbers have the library's texts.
* `forall_mem_texts`: no text of a table is empty or too long, and none says that it is unknown.
* `describeErrorCode_eq_unknownError`: the numbers that the library has no texts for.
* `exists_place`: the place of a text, worked out in words of 32 bits.
* `message_laws`: all this together.
-/

namespace Regex

/-! ## Tables -/

/-- There is something to read in a text, and room for it and the zero byte behind it. -/
def Fits (text : String) : Prop := 0 < text.utf8ByteSize ∧ text.utf8ByteSize < textRoom

theorem Fits.ne_empty {text : String} (fits : Fits text) : text ≠ "" := by
  rintro rfl
  exact absurd fits.1 (by decide)

/-- The signs of the text of an unknown number. -/
def unknownSigns : List Char :=
  ['u', 'n', 'k', 'n', 'o', 'w', 'n', ' ', 'e', 'r', 'r', 'o', 'r', ' ', 'c', 'o', 'd', 'e']

theorem ofList_unknownSigns : String.ofList unknownSigns = unknownError := rfl

/-- The signs of a text that fits and tells something. -/
def telling (signs : List Char) : Bool :=
  0 < String.utf8Len signs && String.utf8Len signs < textRoom && signs != unknownSigns

theorem forall_mem_cons_ofList {signs : List Char} {texts : List String}
    (first : telling signs = true) (others : ∀ text ∈ texts, Fits text ∧ text ≠ unknownError) :
    ∀ text ∈ String.ofList signs :: texts, Fits text ∧ text ≠ unknownError := by
  unfold telling at first
  simp only [Bool.and_eq_true, decide_eq_true_eq, bne_iff_ne, ← String.utf8ByteSize_ofList]
    at first
  obtain ⟨fits, known⟩ := first
  refine List.forall_mem_cons.mpr ⟨⟨fits, ?_⟩, others⟩
  rw [← ofList_unknownSigns]
  exact fun same => known (String.ofList_inj.mp same)

/-- The tables of the library and of the engine.  They are gone through text by text, and each text
is looked at sign by sign: so none has to be put together from its bytes. -/
theorem forall_mem_texts :
    ∀ text ∈ matchTexts.toList ++ (patternTexts.toList ++ failureTexts.toList),
      Fits text ∧ text ≠ unknownError := by
  unfold matchTexts patternTexts failureTexts
  simp only [List.cons_append, List.nil_append]
  repeat refine forall_mem_cons_ofList (by decide +kernel) ?_
  exact nofun

theorem size_matchTexts : matchTexts.size = 67 := rfl

theorem size_patternTexts : patternTexts.size = 117 := rfl

theorem size_failureTexts : failureTexts.size = 70 := rfl

/-! ## The library -/

/-- A number that is not one of the library's own is looked up, if it is in the table's range. -/
theorem describeErrorCode_of_engine {code : Int} (engine : ¬(-1004 ≤ code ∧ code ≤ -1001)) :
    describeErrorCode code = if -67 ≤ code ∧ code ≤ -1
      then matchTexts.getD (-code - 1).toNat unknownError else unknownError := by
  unfold describeErrorCode
  rw [if_neg (by show code ≠ -1001; omega), if_neg (by show code ≠ -1002; omega),
    if_neg (by show code ≠ -1003; omega), if_neg (by show code ≠ -1004; omega)]

/-- A number from -67 to -1 has the text at its place in the table. -/
theorem describeErrorCode_eq {code : Int} (low : -67 ≤ code) (high : code ≤ -1) :
    ∃ place : Fin matchTexts.size, (place : Int) = -code - 1 ∧
      describeErrorCode code = matchTexts[place] := by
  have inside : (-code - 1).toNat < matchTexts.size := by
    rw [size_matchTexts]
    omega
  refine ⟨⟨_, inside⟩, Int.toNat_of_nonneg (by omega), ?_⟩
  rw [describeErrorCode_of_engine (by omega), if_pos ⟨low, high⟩, Array.getD_eq_getD_getElem?,
    Array.getElem?_eq_getElem inside, Option.getD_some]
  rfl

theorem spec_of_describeErrorCode {code : Int} (low : -67 ≤ code) (high : code ≤ -1) :
    Fits (describeErrorCode code) ∧ describeErrorCode code ≠ unknownError := by
  obtain ⟨place, -, text⟩ := describeErrorCode_eq low high
  rw [text]
  exact forall_mem_texts _ (List.mem_append_left _ (Array.getElem_mem_toList place.isLt))

/-- The numbers that the library has no texts for. -/
theorem describeErrorCode_eq_unknownError {code : Int} : describeErrorCode code = unknownError ↔
    ¬(-67 ≤ code ∧ code ≤ -1) ∧ ¬(-1004 ≤ code ∧ code ≤ -1001) := by
  by_cases own : -1004 ≤ code ∧ code ≤ -1001
  · have named : code = -1004 ∨ code = -1003 ∨ code = -1002 ∨ code = -1001 := by omega
    rcases named with rfl | rfl | rfl | rfl
    all_goals decide
  by_cases inside : -67 ≤ code ∧ code ≤ -1
  · have text := spec_of_describeErrorCode inside.1 inside.2
    simp [inside, text.2]
  · simp only [own, inside, not_false_eq_true, and_self, iff_true]
    rw [describeErrorCode_of_engine own, if_neg inside]

/-- Every number has a text. -/
theorem describeErrorCode_ne_empty (code : Int) : describeErrorCode code ≠ "" := by
  by_cases inside : -67 ≤ code ∧ code ≤ -1
  · exact (spec_of_describeErrorCode inside.1 inside.2).1.ne_empty
  · -- a text of its own, or the one that says that it is unknown
    unfold describeErrorCode
    rw [if_neg inside]
    split_ifs
    all_goals decide

/-- The place of a text in the table is worked out in words of 32 bits, in which no step goes beyond
their range. -/
theorem exists_place {code : Int32} (low : -67 ≤ code.toInt) (high : code.toInt ≤ -1) :
    (-code).toInt = -code.toInt ∧ (-code - 1).toInt = -code.toInt - 1 ∧
      ∃ place : Fin matchTexts.size, (place : Int) = (-code - 1).toInt ∧
        describeErrorCode code.toInt = matchTexts[place] := by
  have turned : (-code).toInt = -code.toInt := by
    rw [Int32.toInt_neg]
    exact Int.bmod_eq_of_le (by omega) (by omega)
  have place : (-code - 1).toInt = -code.toInt - 1 := by
    rw [Int32.toInt_sub, turned]
    exact Int.bmod_eq_of_le (by simp; omega) (by simp; omega)
  obtain ⟨entry, index, text⟩ := describeErrorCode_eq low high
  exact ⟨turned, place, entry, index.trans place.symm, text⟩

/-! ## The engine -/

/-- The numbers that the engine has texts for. -/
theorem isSome_engineText? {code : Int} : (engineText? code).isSome = true ↔
    100 ≤ code ∧ code ≤ 216 ∨ -70 ≤ code ∧ code ≤ -1 := by
  unfold engineText?
  split_ifs with pattern negative
  · rw [isSome_getElem?, size_patternTexts]
    omega
  · rw [isSome_getElem?, size_failureTexts]
    omega
  · simp only [Option.isSome_none, Bool.false_eq_true, false_iff]
    omega

variable {code : Int} {text : String} (found : engineText? code = some text)

include found

theorem mem_of_engineText? : text ∈ patternTexts.toList ++ failureTexts.toList := by
  rw [List.mem_append, Array.mem_toList_iff, Array.mem_toList_iff]
  unfold engineText? at found
  split_ifs at found
  · exact Or.inl (Array.mem_of_getElem? found)
  · exact Or.inr (Array.mem_of_getElem? found)

theorem spec_of_engineText? : Fits text ∧ text ≠ unknownError :=
  forall_mem_texts text (List.mem_append_right _ (mem_of_engineText? found))

/-- A text for which there is room is written whole. -/
theorem writeText_of_length_lt {buffer : List UInt8}
    (room : (Utf8.encode text).length < buffer.length) :
    writeText code buffer = (((Utf8.encode text).length : Int),
      Utf8.encode text ++ 0 :: buffer.drop ((Utf8.encode text).length + 1)) := by
  have some : ¬buffer.isEmpty = true := by
    intro empty
    rw [List.isEmpty_iff] at empty
    simp [empty] at room
  unfold writeText
  rw [if_neg some, found]
  exact if_pos room

/-- There is room for all texts of the engine. -/
theorem writeText_textRoom :
    ∃ rest, writeText code (List.replicate textRoom 0) =
        (((Utf8.encode text).length : Int), Utf8.encode text ++ 0 :: rest) ∧
      (Utf8.encode text ++ 0 :: rest).length = textRoom := by
  have room : (Utf8.encode text).length < textRoom := by
    rw [Utf8.length_encode]
    exact (spec_of_engineText? found).1.2
  refine ⟨_, writeText_of_length_lt found (by rwa [List.length_replicate]), ?_⟩
  rw [List.drop_replicate, List.length_append, List.length_cons, List.length_replicate]
  omega

omit found

/-! ## Both -/

/-- A text of the engine is read back, and a number without one has the text of the library. -/
theorem engineMessage_eq (code : Int) :
    engineMessage code = (engineText? code).getD (describeErrorCode code) := by
  unfold engineMessage
  cases found : engineText? code with
  | none =>
      have refused : writeText code (List.replicate textRoom 0) =
          (ErrorCode.badData, List.replicate textRoom 0) := by
        unfold writeText
        rw [if_neg (by decide), found]
      rw [refused]
      rfl
  | some text =>
      obtain ⟨rest, written, -⟩ := writeText_textRoom found
      have positive : (0 : Int) < (Utf8.encode text).length := by
        rw [Utf8.length_encode, Int.natCast_pos]
        exact (spec_of_engineText? found).1.1
      rw [written]
      dsimp only
      rw [if_pos positive, Int.toNat_natCast, List.take_left, Utf8.lossy_encode, Option.getD_some]

/-- Every number has a text of the engine, or else one of the library. -/
theorem engineMessage_ne_empty (code : Int) : engineMessage code ≠ "" := by
  rw [engineMessage_eq]
  cases found : engineText? code with
  | none => exact describeErrorCode_ne_empty code
  | some text =>
      rintro rfl
      exact absurd (spec_of_engineText? found).1.1 (by decide)

/-- The numbers that nobody has a text for. -/
theorem engineMessage_eq_unknownError {code : Int} : engineMessage code = unknownError ↔
    engineText? code = none ∧ ¬(-1004 ≤ code ∧ code ≤ -1001) := by
  rw [engineMessage_eq]
  cases found : engineText? code with
  | none =>
      have range := @isSome_engineText? code
      rw [found, Option.isSome_none] at range
      rw [Option.getD_none, describeErrorCode_eq_unknownError]
      simp only [Bool.false_eq_true, false_iff] at range
      simp only [true_and, and_iff_right_iff_imp]
      omega
  | some text =>
      simp [(spec_of_engineText? found).2]

/-- **Every number of 32 bits has a text, and a whole one.**  The text is the engine's own if the
engine has one, for there is room for all of it, and otherwise the library's.  There are a few
numbers that only the library knows; where nobody has a text, that is what the text says.  The place
of a text in the library's table is worked out without leaving the range of 32 bits, and is in the
table. -/
theorem message_laws (code : Int32) :
    engineMessage code.toInt = (engineText? code.toInt).getD (describeErrorCode code.toInt) ∧
    engineMessage code.toInt ≠ "" ∧
    ((engineText? code.toInt).isSome = true ↔
      100 ≤ code.toInt ∧ code.toInt ≤ 216 ∨ -70 ≤ code.toInt ∧ code.toInt ≤ -1) ∧
    (∀ text, engineText? code.toInt = some text →
      ∃ rest, writeText code.toInt (List.replicate textRoom 0) =
          (((Utf8.encode text).length : Int), Utf8.encode text ++ 0 :: rest) ∧
        (Utf8.encode text ++ 0 :: rest).length = textRoom) ∧
    (engineMessage code.toInt = unknownError ↔
      engineText? code.toInt = none ∧ ¬(-1004 ≤ code.toInt ∧ code.toInt ≤ -1001)) ∧
    (describeErrorCode code.toInt = unknownError ↔
      ¬(-67 ≤ code.toInt ∧ code.toInt ≤ -1) ∧ ¬(-1004 ≤ code.toInt ∧ code.toInt ≤ -1001)) ∧
    (-67 ≤ code.toInt → code.toInt ≤ -1 →
      (-code).toInt = -code.toInt ∧ (-code - 1).toInt = -code.toInt - 1 ∧
        ∃ place : Fin matchTexts.size, (place : Int) = (-code - 1).toInt ∧
          describeErrorCode code.toInt = matchTexts[place]) :=
  ⟨engineMessage_eq _, engineMessage_ne_empty _, isSome_engineText?,
    fun _ found => writeText_textRoom found, engineMessage_eq_unknownError,
    describeErrorCode_eq_unknownError, exists_place⟩

/-- The number of the last text in the library's table, for which the engine has another text, and
the least and the greatest number. -/
theorem message_laws_ends :
    (∃ rest, writeText (-67) (List.replicate textRoom 0) =
      (40, Utf8.encode "INTERNAL ERROR: invalid substring offset" ++ 0 :: rest)) ∧
    engineMessage (-67) = "INTERNAL ERROR: invalid substring offset" ∧
    (∃ place : Fin matchTexts.size, (place : Nat) = 66 ∧
      describeErrorCode (-67) = matchTexts[place]) ∧
    engineMessage Int32.minValue.toInt = unknownError ∧
    engineMessage Int32.maxValue.toInt = unknownError := by
  have found : engineText? (-67) = some "INTERNAL ERROR: invalid substring offset" := rfl
  have length : (Utf8.encode "INTERNAL ERROR: invalid substring offset").length = 40 := by
    rw [Utf8.length_encode]
    decide
  obtain ⟨text, -, -, whole, -, -, table⟩ := message_laws (-67)
  obtain ⟨rest, written, -⟩ := whole _ found
  obtain ⟨-, -, place, last, entry⟩ := table (by decide) (by decide)
  have word : (-(-67 : Int32) - 1).toInt = 66 := by decide
  refine ⟨⟨rest, ?_⟩, ?_, ⟨place, ?_, entry⟩, ?_, ?_⟩
  · rw [length] at written
    exact written
  · rw [show engineText? (-67 : Int32).toInt = _ from found] at text
    exact text
  · rw [word] at last
    exact Int.natCast_inj.mp last
  · exact (message_laws Int32.minValue).2.2.2.2.1.mpr (by decide)
  · exact (message_laws Int32.maxValue).2.2.2.2.1.mpr (by decide)

end Regex
