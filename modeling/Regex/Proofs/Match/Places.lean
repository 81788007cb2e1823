import Regex.Match.Subject
import Regex.Proofs.Text.Utf8

/-!
# Places and offsets

Matching stands at places, and what is reported are byte offsets.  Places and offsets are in the
same order, whatever the bytes are; and every byte that continues no character has a place of its
own.

* `Unicode.countUpTo_iff`: halving finds the entries that are not greater than a number.
* `Subject.Sorted`: the offsets of places rise and lie inside the subject.
* `Subject.sorted_ofBytes`, `Subject.sorted_ofUnits`, `Subject.sorted_ofChars`: all subjects are so.
* `Subject.Sorted.offset_placeAt`: a byte that has a place is found again.
* `Subject.startsAt_offset_ofChars`: in UTF-8, all places are between characters.
-/

namespace Regex.Unicode

/-- Numbers in rising order. -/
def Rising (bounds : Array Nat) : Prop :=
  ∀ (i j : Nat) (_ : i < bounds.size) (_ : j < bounds.size), i < j → bounds[i] < bounds[j]

theorem Rising.empty : Rising #[] := by
  intro i j _ bound
  simp at bound

theorem Rising.push {bounds : Array Nat} (rising : Rising bounds) {n : Nat}
    (below : ∀ o ∈ bounds, o < n) : Rising (bounds.push n) := by
  intro i j _ bound lt
  rw [Array.size_push] at bound
  have inside : i < bounds.size := by omega
  rw [Array.getElem_push_lt inside, Array.getElem_push]
  split_ifs with old
  · exact rising i j inside old lt
  · exact below _ (Array.getElem_mem inside)

theorem countUpTo_le {bounds : Array Nat} {c lo hi : Nat} (le : lo ≤ hi) :
    countUpTo bounds c lo hi ≤ hi := by
  fun_induction countUpTo bounds c lo hi with
  | case1 lo hi lt mid small ih => exact ih (by omega)
  | case2 lo hi lt mid large ih => exact (ih (by omega)).trans (by omega)
  | case3 lo hi ge => exact le

/-- **Halving finds the entries up to `c`.** -/
theorem countUpTo_iff {bounds : Array Nat} (rising : Rising bounds) {c lo hi : Nat} (le : lo ≤ hi)
    (hi_le : hi ≤ bounds.size)
    (below : ∀ i, ∀ bound : i < bounds.size, i < lo → bounds[i] ≤ c)
    (above : ∀ i, ∀ bound : i < bounds.size, hi ≤ i → c < bounds[i]) :
    ∀ i, ∀ bound : i < bounds.size, bounds[i] ≤ c ↔ i < countUpTo bounds c lo hi := by
  fun_induction countUpTo bounds c lo hi with
  | case1 lo hi lt mid small ih =>
      have mid_lt : mid < bounds.size := by omega
      rw [← Array.getElem_eq_getD (h := mid_lt)] at small
      refine ih (by omega) hi_le (fun i bound before => ?_) above
      rcases Nat.lt_succ_iff_lt_or_eq.mp before with before | rfl
      · exact (rising i mid bound mid_lt before).le.trans small
      · exact small
  | case2 lo hi lt mid large ih =>
      have mid_lt : mid < bounds.size := by omega
      rw [← Array.getElem_eq_getD (h := mid_lt)] at large
      refine ih (by omega) (by omega) below fun i bound after => ?_
      rcases Nat.lt_or_eq_of_le after with after | rfl
      · exact (Nat.not_le.mp large).trans (rising mid i mid_lt bound after)
      · exact Nat.not_le.mp large
  | case3 lo hi ge =>
      intro i bound
      constructor
      · intro small
        by_contra beyond
        exact absurd (above i bound (by omega)) (Nat.not_lt.mpr small)
      · exact below i bound

end Regex.Unicode

namespace Regex.Match

open Unicode

namespace Subject

/-- The offsets of places rise and lie inside the subject. -/
structure Sorted (s : Subject) : Prop where
  aligned : s.offsets.size = s.codes.size
  rising : Rising s.offsets
  below : ∀ o ∈ s.offsets, o < s.bytes.size

section Offsets

variable {s : Subject}

theorem offset_of_lt {i : Nat} (bound : i < s.offsets.size) : s.offset i = s.offsets[i] :=
  (Array.getElem_eq_getD _).symm

theorem offset_of_le {i : Nat} (le : s.offsets.size ≤ i) : s.offset i = s.bytes.size := by
  rw [offset, Array.getD_eq_getD_getElem?, Array.getElem?_eq_none le, Option.getD_none]

namespace Sorted

theorem offset_le (sorted : s.Sorted) (i : Nat) : s.offset i ≤ s.bytes.size := by
  by_cases bound : i < s.offsets.size
  · rw [offset_of_lt bound]
    exact (sorted.below _ (Array.getElem_mem bound)).le
  · exact (offset_of_le (Nat.not_lt.mp bound)).le

/-- Later places have later offsets. -/
theorem offset_mono (sorted : s.Sorted) {i j : Nat} (le : i ≤ j) : s.offset i ≤ s.offset j := by
  by_cases bound : j < s.offsets.size
  · rcases Nat.lt_or_eq_of_le le with lt | rfl
    · rw [offset_of_lt bound, offset_of_lt (lt.trans bound)]
      exact (sorted.rising i j (by omega) bound lt).le
    · exact le_rfl
  · rw [offset_of_le (Nat.not_lt.mp bound)]
    exact sorted.offset_le i

theorem offset_size (sorted : s.Sorted) : s.offset s.size = s.bytes.size :=
  offset_of_le (by rw [sorted.aligned, size])

/-- The entries up to an offset are counted. -/
theorem countUpTo_iff (sorted : s.Sorted) (offset : Nat) :
    ∀ i, ∀ bound : i < s.offsets.size,
      s.offsets[i] ≤ offset ↔ i < countUpTo s.offsets offset 0 s.offsets.size :=
  Unicode.countUpTo_iff sorted.rising (Nat.zero_le _) le_rfl (fun _ _ no => absurd no (by omega))
    fun _ bound le => absurd bound (by omega)

theorem placeAt_le (sorted : s.Sorted) (offset : Nat) : s.placeAt offset ≤ s.size := by
  unfold placeAt
  split_ifs
  · have count_le : countUpTo s.offsets offset 0 s.offsets.size ≤ s.offsets.size :=
      countUpTo_le (Nat.zero_le _)
    rw [size, ← sorted.aligned]
    omega
  · exact le_rfl

/-- An offset that has a place is found again. -/
theorem offset_placeAt (sorted : s.Sorted) {offset : Nat}
    (has : offset < s.bytes.size → offset ∈ s.offsets) (le : offset ≤ s.bytes.size) :
    s.offset (s.placeAt offset) = offset := by
  unfold placeAt
  split_ifs with inside
  · obtain ⟨i, bound, eq⟩ := Array.mem_iff_getElem.mp (has inside)
    have count_le : countUpTo s.offsets offset 0 s.offsets.size ≤ s.offsets.size :=
      countUpTo_le (Nat.zero_le _)
    have counted := sorted.countUpTo_iff offset
    generalize countUpTo s.offsets offset 0 s.offsets.size = count at count_le counted
    have here := (counted i bound).mp eq.le
    -- two entries at most could be meant, and entries rise
    have last : count - 1 = i := by
      by_contra other
      have later : i < count - 1 := by omega
      have no := (counted (count - 1) (by omega)).mpr (by omega)
      have rising := sorted.rising i (count - 1) bound (by omega) later
      omega
    rw [last, offset_of_lt bound, eq]
  · rw [sorted.offset_size]
    omega

/-- No place but the first is at the first byte. -/
theorem placeAt_zero (sorted : s.Sorted) : s.placeAt 0 = 0 := by
  unfold placeAt
  split_ifs with inside
  · have count_le : countUpTo s.offsets 0 0 s.offsets.size ≤ s.offsets.size :=
      countUpTo_le (Nat.zero_le _)
    have counted := sorted.countUpTo_iff 0
    generalize countUpTo s.offsets 0 0 s.offsets.size = count at count_le counted
    by_contra more
    have second := (counted 1 (by omega)).mpr (by omega)
    have rising := sorted.rising 0 1 (by omega) (by omega) Nat.zero_lt_one
    omega
  · -- a text without bytes has no place but its end
    have none : s.offsets.size = 0 := by
      by_contra some
      have before := sorted.below _ (Array.getElem_mem (Nat.pos_of_ne_zero some))
      omega
    rw [size, ← sorted.aligned, none]

/-- The place after the one at or before an offset does not lie before it. -/
theorem le_offset_succ (sorted : s.Sorted) {offset : Nat}
    (before : s.offset (s.placeAt offset) < offset) (le : offset ≤ s.bytes.size) :
    offset ≤ s.offset (s.placeAt offset + 1) := by
  unfold placeAt at before ⊢
  split_ifs at before ⊢ with inside
  · have counted := sorted.countUpTo_iff offset
    generalize countUpTo s.offsets offset 0 s.offsets.size = count at before counted ⊢
    by_cases bound : count - 1 + 1 < s.offsets.size
    · rw [offset_of_lt bound]
      by_contra small
      have no := (counted _ bound).mp (by omega)
      have first : count = 0 := by omega
      subst first
      rw [offset_of_lt (by omega)] at before
      have no := (counted 0 (by omega)).mp before.le
      omega
    · rw [offset_of_le (by omega)]
      exact le
  · rw [sorted.offset_size] at before
    omega

end Sorted

end Offsets

/-! ## Places of bytes -/

theorem rising_range (n : Nat) : Rising (Array.range n) := by
  intro i j _ _ lt
  simpa using lt

theorem sorted_ofBytes (bytes : ByteArray) : (ofBytes bytes).Sorted where
  aligned := by simp [ofBytes]
  rising := rising_range _
  below o mem := by simpa [ofBytes] using mem

theorem mem_offsets_ofBytes {bytes : ByteArray} {offset : Nat} (inside : offset < bytes.size) :
    offset ∈ (ofBytes bytes).offsets := by
  simpa [ofBytes] using inside

theorem size_decodeUnits (codes widths : Array Nat) (bytes : List UInt8) :
    (decodeUnits codes widths bytes).1.size = codes.size + bytes.length := by
  induction bytes generalizing codes widths with
  | nil => rfl
  | cons lead rest ih =>
      rw [decodeUnits, ih, Array.size_push, List.length_cons]
      omega

theorem sorted_ofUnits (bytes : ByteArray) : (ofUnits bytes).Sorted where
  aligned := by
    have size := size_decodeUnits #[] #[] bytes.toList
    rw [Utf8.toList_eq] at size
    simpa [ofUnits, Utf8.toList_eq] using size.symm
  rising := rising_range _
  below o mem := by simpa [ofUnits] using mem

theorem mem_offsets_ofUnits {bytes : ByteArray} {offset : Nat} (inside : offset < bytes.size) :
    offset ∈ (ofUnits bytes).offsets := by
  simpa [ofUnits] using inside

/-! ## Places of characters -/

/-- What has been read of some bytes before byte `upTo`: the offsets rise, and no start of a
character is missing. -/
structure Marks (bytes : List UInt8) (upTo : Nat) (codes offsets : Array Nat) : Prop where
  aligned : offsets.size = codes.size
  rising : Rising offsets
  below : ∀ o ∈ offsets, o < upTo
  starts : ∀ o < upTo, Utf8.StartsAt bytes o → o ∈ offsets

theorem Marks.push {bytes : List UInt8} {upTo later : Nat} {codes offsets : Array Nat}
    (marks : Marks bytes upTo codes offsets) (code : Nat) (lt : upTo < later)
    (inside : ∀ o, upTo < o → o < later → ¬ Utf8.StartsAt bytes o) :
    Marks bytes later (codes.push code) (offsets.push upTo) where
  aligned := by simp [marks.aligned]
  rising := marks.rising.push marks.below
  below o mem := by
    rcases Array.mem_push.mp mem with old | rfl
    · exact (marks.below o old).trans lt
    · exact lt
  starts o before starts := by
    rcases Nat.lt_trichotomy o upTo with old | rfl | new
    · exact Array.mem_push_of_mem _ (marks.starts o old starts)
    · exact Array.mem_push_self
    · exact absurd starts (inside o new before)

/-- The bytes after the first one of a character are no starts. -/
theorem not_startsAt_of_isChar {bytes tail : List UInt8} {offset : Nat} {lead : UInt8}
    {rest : List UInt8} (drop : bytes.drop offset = lead :: (tail ++ rest))
    (char : Utf8.IsChar lead tail) {o : Nat} (after : offset < o)
    (inside : o < offset + 1 + tail.length) : ¬ Utf8.StartsAt bytes o := by
  intro starts
  obtain ⟨n, rfl⟩ : ∃ n, o = offset + (n + 1) := ⟨o - offset - 1, by omega⟩
  have within : n < tail.length := by omega
  have byte : bytes[offset + (n + 1)]? = some tail[n] := by
    rw [← List.getElem?_drop, drop, List.getElem?_cons_succ, List.getElem?_append_left within,
      List.getElem?_eq_getElem within]
  have no := starts _ byte
  rw [char.tail_continues _ (List.getElem_mem within)] at no
  cases no

/-- What is left after a byte and some that follow it. -/
theorem drop_of_drop {bytes rest : List UInt8} {offset n : Nat} {lead : UInt8}
    (drop : bytes.drop offset = lead :: rest) : bytes.drop (offset + 1 + n) = rest.drop n := by
  rw [← List.drop_drop, ← List.drop_drop, drop, List.drop_succ_cons, List.drop_zero]

theorem marks_decode {bytes rest : List UInt8} {offset : Nat} {codes offsets : Array Nat}
    (drop : bytes.drop offset = rest) (le : offset ≤ bytes.length)
    (marks : Marks bytes offset codes offsets) :
    Marks bytes bytes.length (decode offset codes offsets rest).1
      (decode offset codes offsets rest).2 := by
  have length : ∀ {offset : Nat} {lead : UInt8} {rest : List UInt8},
      bytes.drop offset = lead :: rest → offset + 1 + rest.length ≤ bytes.length := by
    intro offset lead rest drop
    have length := congrArg List.length drop
    rw [List.length_drop, List.length_cons] at length
    omega
  -- a unit is read as an ASCII character, as a byte with a defect, or as a whole character
  fun_induction decode offset codes offsets rest with
  | case1 offset codes offsets =>
      have ge : bytes.length ≤ offset := List.drop_eq_nil_iff.mp drop
      rwa [Nat.le_antisymm ge le]
  | case2 offset codes offsets lead rest ascii ih =>
      refine ih (drop_of_drop (n := 0) drop) (by have := length drop; omega) ?_
      exact marks.push _ (by omega) fun o after before => absurd before (by omega)
  | case3 offset codes offsets lead rest wide defect _ ih =>
      refine ih (drop_of_drop (n := 0) drop) (by have := length drop; omega) ?_
      exact marks.push _ (by omega) fun o after before => absurd before (by omega)
  | case4 offset codes offsets lead rest wide sound n ih =>
      have char := Utf8.isChar_take sound
      have enough : n ≤ rest.length := by
        have count := char.length
        rw [List.length_take] at count
        omega
      refine ih (drop_of_drop drop) (by have := length drop; omega) ?_
      refine marks.push _ (by omega) fun o after before => ?_
      rw [← List.take_append_drop n rest] at drop
      exact not_startsAt_of_isChar drop char after (by rw [char.length]; exact before)

theorem decode_ofChars (bytes : ByteArray) : decode 0 #[] #[] bytes.data.toList =
    ((ofChars bytes).codes, (ofChars bytes).offsets) := by
  rw [← Utf8.toList_eq]
  rfl

theorem marks_ofChars (bytes : ByteArray) :
    Marks bytes.data.toList bytes.size (ofChars bytes).codes (ofChars bytes).offsets := by
  have start : Marks bytes.data.toList 0 #[] #[] :=
    ⟨rfl, .empty, by simp, fun o before => absurd before (Nat.not_lt_zero o)⟩
  have marks := marks_decode List.drop_zero (Nat.zero_le _) start
  rwa [decode_ofChars] at marks

theorem sorted_ofChars (bytes : ByteArray) : (ofChars bytes).Sorted where
  aligned := (marks_ofChars bytes).aligned
  rising := (marks_ofChars bytes).rising
  below := (marks_ofChars bytes).below

/-- Every start of a character has a place. -/
theorem mem_offsets_ofChars {bytes : ByteArray} {offset : Nat} (inside : offset < bytes.size)
    (starts : Utf8.StartsAt bytes.data.toList offset) : offset ∈ (ofChars bytes).offsets :=
  (marks_ofChars bytes).starts offset inside starts

/-- In UTF-8 nothing but starts of characters is read. -/
theorem startsAt_decode {bytes rest : List UInt8} {offset : Nat} {codes offsets : Array Nat}
    (valid : Utf8.Valid rest) (drop : bytes.drop offset = rest)
    (starts : ∀ o ∈ offsets, Utf8.StartsAt bytes o) :
    ∀ o ∈ (decode offset codes offsets rest).2, Utf8.StartsAt bytes o := by
  have push : ∀ {offset : Nat} {offsets : Array Nat} {lead : UInt8} {rest : List UInt8},
      bytes.drop offset = lead :: rest → Utf8.leadingDefect? lead rest = none →
      (∀ o ∈ offsets, Utf8.StartsAt bytes o) →
      ∀ o ∈ offsets.push offset, Utf8.StartsAt bytes o := by
    intro offset offsets lead rest drop sound starts o mem
    rcases Array.mem_push.mp mem with old | rfl
    · exact starts o old
    · intro b byte
      have first : bytes[o]? = some lead := by
        rw [← Nat.add_zero o, ← List.getElem?_drop, drop, List.getElem?_cons_zero]
      obtain rfl := Option.some_inj.mp (byte.symm.trans first)
      exact (Utf8.isChar_take sound).lead_starts
  fun_induction decode offset codes offsets rest with
  | case1 offset codes offsets => exact starts
  | case2 offset codes offsets lead rest ascii ih =>
      obtain ⟨sound, valid⟩ := valid.uncons
      rw [Utf8.continuationCount_eq_zero ascii] at valid
      exact ih valid (drop_of_drop (n := 0) drop) (push drop sound starts)
  | case3 offset codes offsets lead rest wide defect bad ih =>
      rw [valid.uncons.1] at bad
      cases bad
  | case4 offset codes offsets lead rest wide sound n ih =>
      exact ih valid.uncons.2 (drop_of_drop drop) (push drop sound starts)

/-- **In UTF-8 every place is between two characters.** -/
theorem startsAt_offset_ofChars {bytes : ByteArray} (valid : Utf8.Valid bytes.data.toList)
    (i : Nat) : Utf8.StartsAt bytes.data.toList ((ofChars bytes).offset i) := by
  by_cases bound : i < (ofChars bytes).offsets.size
  · rw [offset_of_lt bound]
    have mem := Array.getElem_mem bound
    have start : ∀ o ∈ (#[] : Array Nat), Utf8.StartsAt bytes.data.toList o := by simp
    have all := @startsAt_decode _ _ 0 #[] #[] valid List.drop_zero start
    rw [decode_ofChars] at all
    exact all _ mem
  · rw [offset_of_le (Nat.not_lt.mp bound)]
    intro b byte
    have short : bytes.data.toList.length ≤ bytes.size := le_rfl
    rw [show (ofChars bytes).bytes.size = bytes.size from rfl, List.getElem?_eq_none short] at byte
    cases byte

end Subject

end Regex.Match
