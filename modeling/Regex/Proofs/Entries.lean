import Regex.Proofs.Captures

/-!
# Entries of captures

The engine's number says how many pairs of offsets are to be read.  What lies behind them is left
over from before and must not be seen, and a row of offsets may be shorter than the number says.

* `Captures.ofOffsets_get`: which groups are set in a row of offsets, and to what.
* `Captures.Reads`: captures that hold what an answer reports and nothing else.
* `Captures.ofAnswer_reads`: an answer that is no failure is read so.
* `Captures.ofOffsets_filled_mono`: reading more pairs changes no entry that is set.
* `Captures.entries_of_answer`: what an answer says, and on which parts of it that depends.
-/

namespace Regex.Captures

/-- The range of a group is there if both of its offsets are. -/
theorem rangeAt_eq_some {offsets : Array (Option Nat)} {group : Nat} {r : Range} :
    rangeAt offsets group = some r ↔
      offsets[2 * group]? = some (some r.start) ∧ offsets[2 * group + 1]? = some (some r.stop) := by
  unfold rangeAt
  constructor
  · intro eq
    split at eq
    · rename_i start stop first second
      obtain rfl := Option.some.inj eq
      exact ⟨first, second⟩
    · cases eq
  · rintro ⟨first, second⟩
    rw [first, second]

/-- A group is set if it is among those that are filled and both of its offsets are there. -/
theorem ofOffsets_get {offsets : Array (Option Nat)} {groups filled i : Nat} {isPartial : Bool}
    {r : Range} :
    (⟨ofOffsets offsets groups filled, isPartial⟩ : Captures).get i = some r ↔
      i < groups ∧ i < filled ∧
        offsets[2 * i]? = some (some r.start) ∧ offsets[2 * i + 1]? = some (some r.stop) := by
  unfold get ofOffsets
  rw [List.getElem?_map]
  by_cases known : i < groups
  · rw [List.getElem?_range known, Option.map_some, Option.join_some]
    by_cases inside : i < filled
    · rw [if_pos inside, rangeAt_eq_some]
      simp [known, inside]
    · simp [inside]
  · have beyond : (List.range groups)[i]? = none :=
      List.getElem?_eq_none (by simpa using Nat.not_lt.mp known)
    simp [known]

theorem length_ofOffsets (offsets : Array (Option Nat)) (groups filled : Nat) :
    (ofOffsets offsets groups filled).length = groups := by
  simp [ofOffsets]

/-- If more pairs are read, what is set stays as it is. -/
theorem ofOffsets_filled_mono {offsets : Array (Option Nat)} {groups low high i : Nat}
    {isPartial isPartial' : Bool} {r : Range} (le : low ≤ high)
    (set : (⟨ofOffsets offsets groups low, isPartial⟩ : Captures).get i = some r) :
    (⟨ofOffsets offsets groups high, isPartial'⟩ : Captures).get i = some r := by
  obtain ⟨known, inside, pair⟩ := ofOffsets_get.mp set
  exact ofOffsets_get.mpr ⟨known, inside.trans_le le, pair⟩

/-- There is nothing to read beyond the last whole pair. -/
theorem ofOffsets_beyond {offsets : Array (Option Nat)} {filled : Nat}
    (beyond : offsets.size / 2 ≤ filled) (groups : Nat) :
    ofOffsets offsets groups filled = ofOffsets offsets groups (offsets.size / 2) := by
  unfold ofOffsets
  apply List.map_congr_left
  intro group _
  by_cases inside : group < offsets.size / 2
  · rw [if_pos inside, if_pos (inside.trans_le beyond)]
  · have missing : offsets[2 * group + 1]? = none := Array.getElem?_eq_none (by omega)
    have unset : rangeAt offsets group = none := by
      apply Option.eq_none_iff_forall_ne_some.mpr
      intro r set
      rw [(rangeAt_eq_some.mp set).2] at missing
      cases missing
    rw [if_neg inside, unset, ite_self]

/-! ## Reading captures -/

/-- The entries of captures in order are what is there for each group. -/
theorem ranges_eq (c : Captures) : c.ranges = (List.range c.length).map c.get := by
  apply List.ext_getElem
  · simp [length]
  · intro i inside _
    rw [List.getElem_map, List.getElem_range, get, List.getElem?_eq_getElem inside,
      Option.join_some]

/-- The text of a group is there if its range lies in the subject, which need not be the one that
was searched. -/
theorem extract_eq_some {c : Captures} {subject text : ByteArray} {i : Nat} :
    (c.extract subject)[i]? = some (some text) ↔ ∃ r, c.get i = some r ∧
      r.start ≤ r.stop ∧ r.stop ≤ subject.size ∧ subject.extract r.start r.stop = text := by
  have slice : ∀ r : Range, r.slice? subject = some text ↔
      r.start ≤ r.stop ∧ r.stop ≤ subject.size ∧ subject.extract r.start r.stop = text := by
    intro r
    unfold Range.slice?
    split_ifs with inside
    · simp [inside]
    · simp only [false_iff]
      rintro ⟨ordered, le, -⟩
      exact inside ⟨ordered, le⟩
  unfold extract get
  rw [List.getElem?_map]
  cases entry : c.ranges[i]? with
  | none => simp
  | some range => simp [Option.bind_eq_some_iff, slice]

/-- Captures that hold what an answer reports for a number of groups, and nothing else. -/
structure Reads (c : Captures) (answer : Answer) (groups : Nat) : Prop where
  length : c.length = groups
  isEmpty : c.isEmpty = true ↔ groups = 0
  isPartial : c.isPartial = true ↔ answer.code = ErrorCode.partialMatch
  /-- A group is set if it is among those that are reported and both of its offsets are there. -/
  get : ∀ i start stop, c.get i = some ⟨start, stop⟩ ↔
    i < groups ∧ i < answer.filled ∧ 2 * i + 1 < answer.offsets.size ∧
      answer.offsets[2 * i]? = some (some start) ∧ answer.offsets[2 * i + 1]? = some (some stop)
  /-- The whole match is the first entry, and empty if that one is not set. -/
  whole : ∀ r, c.whole = r ↔ c.get 0 = some r ∨ c.get 0 = none ∧ r = ⟨0, 0⟩
  /-- The entries are listed in order. -/
  ranges : c.ranges = (List.range groups).map c.get
  /-- There is a text or none for each entry, for whatever subject. -/
  texts : ∀ subject, (c.extract subject).length = groups
  extract : ∀ subject i text, (c.extract subject)[i]? = some (some text) ↔
    ∃ start stop, c.get i = some ⟨start, stop⟩ ∧ start ≤ stop ∧ stop ≤ subject.size ∧
      subject.extract start stop = text

/-- **The entries that are read from the pairs of an answer.** -/
theorem reads_ofOffsets (answer : Answer) (groups : Nat) :
    Reads ⟨ofOffsets answer.offsets groups answer.filled,
      answer.code = ErrorCode.partialMatch⟩ answer groups := by
  have length := length_ofOffsets answer.offsets groups answer.filled
  constructor
  case length => exact length
  case isEmpty =>
    rw [isEmpty, List.isEmpty_iff_length_eq_zero, length]
  case isPartial => exact decide_eq_true_iff
  case get =>
    intro i start stop
    rw [ofOffsets_get]
    constructor
    · rintro ⟨known, inside, first, second⟩
      exact ⟨known, inside, (Array.getElem?_eq_some_iff.mp second).1, first, second⟩
    · rintro ⟨known, inside, -, first, second⟩
      exact ⟨known, inside, first, second⟩
  case whole =>
    intro r
    unfold whole
    cases get _ 0 with
    | none => simp [eq_comm]
    | some first => simp
  case ranges =>
    rw [ranges_eq, Captures.length, length]
  case texts =>
    intro subject
    rw [extract, List.length_map, length]
  case extract =>
    intro subject i text
    rw [extract_eq_some]
    constructor
    · rintro ⟨⟨start, stop⟩, set, inside⟩
      exact ⟨start, stop, set, inside⟩
    · rintro ⟨start, stop, set, inside⟩
      exact ⟨⟨start, stop⟩, set, inside⟩

/-- An answer that is no failure is read into its entries. -/
theorem ofAnswer_reads {answer : Answer} (found : answer.code = ErrorCode.partialMatch ∨
    0 ≤ answer.code) (groups : Nat) :
    ∃ c, ofAnswer answer groups = .ok (some c) ∧ c.Reads answer groups := by
  have noFailure : answer.code ≠ ErrorCode.noMatch ∧
      ¬(answer.code < 0 ∧ answer.code ≠ ErrorCode.partialMatch) := by
    rw [show ErrorCode.noMatch = -1 from rfl]
    rw [show ErrorCode.partialMatch = -2 from rfl] at found ⊢
    omega
  refine ⟨_, ?_, reads_ofOffsets answer groups⟩
  rw [answer.ofAnswer_eq, if_neg noFailure.1, if_neg noFailure.2]

/-- A positive number is how many pairs are read. -/
theorem ofAnswer_of_pos {code : Int} (positive : 0 < code) (offsets : Array (Option Nat))
    (groups : Nat) :
    ofAnswer ⟨code, offsets⟩ groups = .ok (some ⟨ofOffsets offsets groups code.toNat, false⟩) := by
  unfold ofAnswer
  rw [if_neg (by show code ≠ -1; omega), if_neg (by show code ≠ -2; omega),
    if_neg (by show ¬code < 0; omega), if_neg (by show code ≠ 0; omega)]

/-- **What an answer says.**  Its number tells apart a missing match, an error, and captures with an
entry for each group; an entry is set if it is among those that are reported and both of its offsets
are there.  Offsets behind those that are reported play no part.  The number 0 stands for any number
that is too large for the offsets, and a larger number only adds to what is set. -/
theorem entries_of_answer (answer : Answer) (groups : Nat) :
    (ofAnswer answer groups = .ok none ↔ answer.code = ErrorCode.noMatch) ∧
    ((∃ e, ofAnswer answer groups = .error e) ↔ answer.code < 0 ∧
      answer.code ≠ ErrorCode.noMatch ∧ answer.code ≠ ErrorCode.partialMatch) ∧
    (∀ e, ofAnswer answer groups = .error e →
      e.domain = .matching ∧ e.code = answer.code ∧ e.offset = none) ∧
    (answer.code = ErrorCode.partialMatch ∨ 0 ≤ answer.code →
      ∃ c, ofAnswer answer groups = .ok (some c) ∧ c.Reads answer groups) ∧
    (∀ offsets, (answer.code = 0 → offsets.size / 2 = answer.offsets.size / 2) →
      (∀ i < 2 * answer.filled, offsets[i]? = answer.offsets[i]?) →
        ofAnswer ⟨answer.code, offsets⟩ groups = ofAnswer answer groups) ∧
    (∀ code : Int, 0 < code → (answer.offsets.size / 2 : Nat) ≤ code →
      ofAnswer ⟨code, answer.offsets⟩ groups = ofAnswer ⟨0, answer.offsets⟩ groups) ∧
    ∀ (low high : Int) (c c' : Captures), 0 < low → low ≤ high →
      ofAnswer ⟨low, answer.offsets⟩ groups = .ok (some c) →
      ofAnswer ⟨high, answer.offsets⟩ groups = .ok (some c') →
        ∀ i r, c.get i = some r → c'.get i = some r := by
  refine ⟨?_, ?_, ?_, fun found => ofAnswer_reads found groups, ?_, ?_, ?_⟩
  · rw [answer.ofAnswer_eq]
    split_ifs with none <;> simp [none]
  · rw [answer.ofAnswer_eq]
    split_ifs with none failure
    · simp [none]
    · simp [none, failure]
    · simp only [exists_false, false_iff]
      rintro ⟨negative, -, other⟩
      exact failure ⟨negative, other⟩
  · intro e eq
    obtain rfl := Answer.eq_of_ofAnswer eq
    exact ⟨rfl, rfl, rfl⟩
  -- the two answers report the same pairs
  · intro offsets halves same
    have filled : (⟨answer.code, offsets⟩ : Answer).filled = answer.filled := by
      unfold Answer.filled
      dsimp only
      split_ifs with cut full
      · rfl
      · exact halves full
      · rfl
    have alike : (⟨answer.code, offsets⟩ : Answer).Alike answer :=
      ⟨rfl, filled, by rw [filled]; exact same⟩
    exact alike.ofAnswer groups
  · intro code positive beyond
    have pairs : answer.offsets.size / 2 ≤ code.toNat := by omega
    rw [ofAnswer_of_pos positive, ofOffsets_beyond pairs]
    rfl
  · intro low high c c' positive le eq eq' i r set
    rw [ofAnswer_of_pos positive] at eq
    rw [ofAnswer_of_pos (Int.lt_of_lt_of_le positive le)] at eq'
    cases eq
    cases eq'
    exact ofOffsets_filled_mono (Int.toNat_le_toNat le) set

/-- A row of three and a half pairs, the second of which is half unset: a number beyond it, and 1,
for which a shorter row says the same and a larger number more. -/
theorem entries_of_answer_short :
    let offsets := #[some 0, some 3, none, some 2, some 2, some 3, some 7]
    let whole : Captures := ⟨[some ⟨0, 3⟩, none, none, none, none], false⟩
    let all : Captures := ⟨[some ⟨0, 3⟩, none, some ⟨2, 3⟩, none, none], false⟩
    ofAnswer ⟨9, offsets⟩ 5 = .ok (some all) ∧
      (∃ c, ofAnswer ⟨9, offsets⟩ 5 = .ok (some c) ∧ c.Reads ⟨9, offsets⟩ 5) ∧
      ofAnswer ⟨9, offsets⟩ 5 = ofAnswer ⟨0, offsets⟩ 5 ∧
      ofAnswer ⟨1, #[some 0, some 3, some 9]⟩ 5 = ofAnswer ⟨1, offsets⟩ 5 ∧
      ∀ i r, whole.get i = some r → all.get i = some r := by
  intro offsets whole all
  obtain ⟨-, -, -, read, -, full, -⟩ := entries_of_answer ⟨9, offsets⟩ 5
  obtain ⟨-, -, -, -, unseen, -, more⟩ := entries_of_answer ⟨1, offsets⟩ 5
  refine ⟨by decide, read (Or.inr (by decide)), full 9 (by decide) (by decide), ?_, ?_⟩
  · exact unseen _ (by decide) (by decide)
  · exact more 1 9 whole all (by decide) (by decide) (by decide) (by decide)

end Regex.Captures
