import Regex.Proofs.Answers

/-!
# What an answer says

The engine returns a number and a row of offsets, which are read back as ranges.  Nothing is lost on
the way: the groups that the answer leaves out are those after the last one that is set.

* `Program.rangesOf`: the ranges that the state at the end of a match stands for.
* `Captures.ofAnswer_answerOf`: these are the ranges read from the answer.
* `Answer.Alike`, `Answer.Alike.ofAnswer`: answers are read alike that report the same.
* `Program.Outcome.of_error`: why there is an error.
* `Program.Replies.reports`: captures are either those of a state in order or those of a partial
  match.
-/

namespace Regex

open Match

/-- The range of offsets of a stretch of places. -/
def Range.ofSpan (subject : Subject) (span : Span) : Range :=
  ⟨subject.offset span.start, subject.offset span.stop⟩

namespace Program

/-- The ranges that the state at the end of a match stands for. -/
def rangesOf (subject : Subject) (s : State) (groups : Nat) : List (Option Range) :=
  (List.range groups).map fun group =>
    if group = 0 then some (Range.ofSpan subject ⟨s.keep, s.place⟩)
    else (s.captures[group]?).join.map (Range.ofSpan subject)

end Program

namespace Captures

/-- Two offsets for each entry of a list are found at twice the number of the entry. -/
theorem getElem?_flatMap_pair {α β : Type} (list : List α) (f : α → List β)
    (pair : ∀ a ∈ list, (f a).length = 2) (i k : Nat) (lt : k < 2) :
    (list.flatMap f)[2 * i + k]? = (list[i]?).bind fun a => (f a)[k]? := by
  induction list generalizing i with
  | nil => simp
  | cons a rest ih =>
      have two : (f a).length = 2 := pair a (by simp)
      cases i with
      | zero =>
          rw [List.flatMap_cons, List.getElem?_append_left (by omega)]
          simp
      | succ i =>
          rw [List.flatMap_cons, List.getElem?_append_right (by omega), two]
          have index : 2 * (i + 1) + k - 2 = 2 * i + k := by omega
          rw [index, ih (fun a mem => pair a (List.mem_cons_of_mem _ mem))]
          simp

/-- The groups after the last one that is set are not set. -/
theorem join_getElem?_reverse {α : Type} (list : List (Option α)) {i : Nat}
    (le : (list.dropWhile (·.isNone)).length ≤ i) : (list.reverse[i]?).join = none := by
  induction list with
  | nil => simp
  | cons last rest ih =>
      rw [List.reverse_cons]
      by_cases inside : i < rest.length
      · rw [List.getElem?_append_left (by simpa using inside)]
        cases last with
        | none => exact ih le
        | some a =>
            rw [List.dropWhile_cons_of_neg (by simp), List.length_cons] at le
            omega
      · rw [List.getElem?_append_right (by simpa using inside)]
        cases last with
        | none => cases i - rest.reverse.length <;> simp
        | some a =>
            rw [List.dropWhile_cons_of_neg (by simp), List.length_cons] at le
            rw [List.getElem?_eq_none (by simp; omega)]
            rfl

/-- A group's range, read from the offsets of an answer. -/
theorem rangeAt_answerOf (subject : Subject) (s : State) (group : Nat) :
    rangeAt (Program.answerOf subject s).offsets (group + 1) =
      (s.captures[group + 1]?).join.map (Range.ofSpan subject) := by
  have found : ∀ k < 2, (Program.answerOf subject s).offsets[2 * (group + 1) + k]? =
      (s.captures[group + 1]?).bind fun entry =>
        ((entry.map fun span =>
          [some (subject.offset span.start), some (subject.offset span.stop)]).getD
            [none, none])[k]? := by
    intro k lt
    have index : 2 * (group + 1) + k - 2 = 2 * group + k := by omega
    unfold Program.answerOf
    dsimp only
    rw [List.getElem?_toArray, List.getElem?_append_right (by simp; omega)]
    rw [show 2 * (group + 1) + k -
        [some (subject.offset s.keep), some (subject.offset s.place)].length = 2 * group + k
      from index, getElem?_flatMap_pair _ _ ?_ _ _ lt, List.getElem?_drop,
      Array.getElem?_toList, Nat.add_comm 1 group]
    intro entry _
    cases entry <;> rfl
  have first := found 0 (by omega)
  have second := found 1 (by omega)
  rw [Nat.add_zero] at first
  unfold rangeAt
  rw [first, second]
  cases s.captures[group + 1]? with
  | none => rfl
  | some entry => cases entry <;> rfl

/-- **The ranges of a match are read back from its answer.** -/
theorem ofAnswer_answerOf (subject : Subject) (s : State) (groups : Nat) :
    ofAnswer (Program.answerOf subject s) groups =
      .ok (some ⟨Program.rangesOf subject s groups, false⟩) := by
  -- the code of an answer counts the groups up to the last one that is set
  have code : ∃ last : Nat, (Program.answerOf subject s).code = 1 + (last : Int) ∧
      ∀ group, last ≤ group → (s.captures[group + 1]?).join = none := by
    refine ⟨_, rfl, fun group le => ?_⟩
    have none := join_getElem?_reverse (s.captures.toList.drop 1).reverse le
    rw [List.reverse_reverse, List.getElem?_drop, Array.getElem?_toList] at none
    rwa [Nat.add_comm]
  obtain ⟨last, code, unset⟩ := code
  unfold ofAnswer
  rw [code]
  rw [if_neg (by show (1 + (last : Int)) ≠ -1; omega),
    if_neg (by show (1 + (last : Int)) ≠ -2; omega), if_neg (by omega), if_neg (by omega)]
  have filled : (1 + (last : Int)).toNat = last + 1 := by omega
  rw [filled]
  unfold ofOffsets Program.rangesOf
  congr 3
  -- groups that the code does not count are unset anyway
  refine List.map_congr_left fun group _ => ?_
  cases group with
  | zero =>
      rw [if_pos (Nat.succ_pos last), if_pos rfl]
      rfl
  | succ group =>
      rw [if_neg (Nat.succ_ne_zero group), rangeAt_answerOf]
      split_ifs with inside
      · rfl
      · rw [unset group (by omega)]
        rfl

/-- A number below those of a missing and of a partial match is an error. -/
theorem ofAnswer_of_lt {code : Int} (lt : code < -2) (groups : Nat) :
    ofAnswer ⟨code, #[]⟩ groups = .error (.ofCode .matching code) := by
  unfold ofAnswer
  rw [if_neg (by show code ≠ -1; omega), if_neg (by show code ≠ -2; omega),
    if_pos (by show code < 0; omega)]

/-- The offsets beyond the pairs that are filled are not read. -/
theorem ofOffsets_congr {offsets offsets' : Array (Option Nat)} {filled : Nat}
    (same : ∀ i < 2 * filled, offsets[i]? = offsets'[i]?) (groups : Nat) :
    ofOffsets offsets groups filled = ofOffsets offsets' groups filled := by
  unfold ofOffsets
  refine List.map_congr_left fun group _ => ?_
  split_ifs with inside
  · unfold rangeAt
    rw [same (2 * group) (by omega), same (2 * group + 1) (by omega)]
  · rfl

/-- A partial match has a range for its whole only. -/
theorem ofAnswer_partialMatch (start stop groups : Nat) :
    ofAnswer ⟨ErrorCode.partialMatch, #[some start, some stop]⟩ (groups + 1) =
      .ok (some ⟨some ⟨start, stop⟩ :: List.replicate groups none, true⟩) := by
  unfold ofAnswer
  rw [if_neg (by show ErrorCode.partialMatch ≠ ErrorCode.noMatch; decide), if_pos rfl]
  congr 3
  unfold ofOffsets
  rw [List.range_succ_eq_map, List.map_cons, List.map_map]
  congr 1
  refine List.eq_replicate_iff.mpr ⟨by simp, fun range mem => ?_⟩
  obtain ⟨group, _, rfl⟩ := List.mem_map.mp mem
  rfl

end Captures

namespace Answer

/-- How many pairs of its offsets an answer reports, if it is no error. -/
def filled (a : Answer) : Nat :=
  if a.code = ErrorCode.partialMatch then 1
  else if a.code = 0 then a.offsets.size / 2
  else a.code.toNat

/-- Two answers that report the same, whatever their offsets hold besides. -/
structure Alike (a b : Answer) : Prop where
  code : a.code = b.code
  filled : a.filled = b.filled
  reported : ∀ i < 2 * a.filled, a.offsets[i]? = b.offsets[i]?

/-- What an answer says is told by its number and by the pairs that it reports. -/
theorem ofAnswer_eq (a : Answer) (groups : Nat) :
    Captures.ofAnswer a groups =
      if a.code = ErrorCode.noMatch then .ok none
      else if a.code < 0 ∧ a.code ≠ ErrorCode.partialMatch then
        .error (.ofCode .matching a.code)
      else .ok (some ⟨Captures.ofOffsets a.offsets groups a.filled,
        a.code = ErrorCode.partialMatch⟩) := by
  unfold Captures.ofAnswer filled
  by_cases none : a.code = ErrorCode.noMatch
  · rw [if_pos none, if_pos none]
  rw [if_neg none, if_neg none]
  by_cases cut : a.code = ErrorCode.partialMatch
  · have passed : ¬(a.code < 0 ∧ a.code ≠ ErrorCode.partialMatch) := fun error => error.2 cut
    rw [if_pos cut, if_neg passed, if_pos cut, decide_eq_true cut]
  rw [if_neg cut, if_neg cut, decide_eq_false cut]
  by_cases negative : a.code < 0
  · rw [if_pos negative, if_pos ⟨negative, cut⟩]
  have passed : ¬(a.code < 0 ∧ a.code ≠ ErrorCode.partialMatch) := fun error => negative error.1
  rw [if_neg negative, if_neg passed]
  by_cases full : a.code = 0
  · rw [if_pos full, if_pos full]
  · rw [if_neg full, if_neg full]

/-- An error has the number of the answer. -/
theorem eq_of_ofAnswer {a : Answer} {groups : Nat} {e : Error}
    (eq : Captures.ofAnswer a groups = .error e) : e = .ofCode .matching a.code := by
  rw [ofAnswer_eq] at eq
  split_ifs at eq
  exact (Except.error.inj eq).symm

/-- **Answers are read alike that report the same.** -/
theorem Alike.ofAnswer {a b : Answer} (alike : a.Alike b) (groups : Nat) :
    Captures.ofAnswer a groups = Captures.ofAnswer b groups := by
  rw [ofAnswer_eq, ofAnswer_eq, alike.code, Captures.ofOffsets_congr alike.reported, alike.filled]

end Answer

namespace Program

variable {p : Program} {request : Request} {answer : Answer}

/-- What the check of a subject reports is a start inside a character, or a defect of UTF-8. -/
theorem utfFault?_code {bytes : ByteArray} {start : Nat} {code : Int}
    (fault : p.utfFault? bytes start = some code) :
    code = ErrorCode.badUtfOffset ∧ 0 < start ∨ -23 ≤ code ∧ code ≤ -3 := by
  unfold utfFault? at fault
  extract_lets inside first at fault
  split_ifs at fault with middle later
  · exact Or.inl ⟨(Option.some.inj fault).symm, later⟩
  · cases fault
    exact Or.inr (by decide)
  · obtain ⟨found, eq, rfl⟩ := Option.map_eq_some_iff.mp fault
    exact Or.inr (Utf8.known_of_defect? eq).code

theorem utfFault?_lt {bytes : ByteArray} {start : Nat} {code : Int}
    (fault : p.utfFault? bytes start = some code) : code < -2 := by
  rcases utfFault?_code fault with ⟨rfl, -⟩ | ⟨-, le⟩
  · decide
  · omega

/-- No answer says that a stack ran out. -/
theorem run_code_ne (p : Program) (request : Request) :
    (p.run request).code ≠ ErrorCode.jitStackLimit := by
  have outcome := p.run_outcome request
  generalize p.run request = answer at outcome
  cases outcome with
  | refused mem =>
      rintro rfl
      exact absurd mem (by decide)
  | invalid check fault =>
      rintro rfl
      rcases utfFault?_code fault with ⟨eq, -⟩ | range
      · exact absurd eq (by decide)
      · exact absurd range (by decide)
  | matched valid ended =>
      show (1 + (_ : Int)) ≠ ErrorCode.jitStackLimit
      unfold ErrorCode.jitStackLimit
      omega
  | partly valid ended =>
      show ErrorCode.partialMatch ≠ ErrorCode.jitStackLimit
      decide

/-- The captures that an answer can stand for. -/
inductive Reports (p : Program) (request : Request) : Captures → Prop where
  | matched {s : State} {first : Nat} :
      request.start ≤ (p.subjectOf request.subject).offset first → Ends p.groups first s →
        Reports p request ⟨rangesOf (p.subjectOf request.subject) s (p.groupCount + 1), false⟩
  | partly {place : Nat} :
      request.start ≤ (p.subjectOf request.subject).offset place →
        (request.options.contains .partialHard || request.options.contains .partialSoft) = true →
        Reports p request
          ⟨some ⟨(p.subjectOf request.subject).offset place, request.subject.size⟩ ::
            List.replicate p.groupCount none, true⟩

/-- What is made of an answer without offsets. -/
theorem ofAnswer_refused {code : Int} (mem : code ∈ [ErrorCode.badOption, ErrorCode.recursionLoop,
      ErrorCode.matchLimit, ErrorCode.noMatch]) (groups : Nat) :
    Captures.ofAnswer ⟨code, #[]⟩ groups = .ok none ∨
      Captures.ofAnswer ⟨code, #[]⟩ groups = .error (.ofCode .matching code) := by
  by_cases none : code = ErrorCode.noMatch
  · subst none
    exact Or.inl rfl
  · refine Or.inr (Captures.ofAnswer_of_lt ?_ groups)
    simp only [List.mem_cons, List.not_mem_nil, or_false] at mem
    rcases mem with rfl | rfl | rfl | rfl
    · decide
    · decide
    · decide
    · exact absurd rfl none

/-- **What fails has been refused or given up, or its subject has been found at fault.** -/
theorem Outcome.of_error (outcome : p.Outcome request answer) {e : Error}
    (eq : Captures.ofAnswer answer (p.groupCount + 1) = .error e) :
    ∃ code, e = .ofCode .matching code ∧
      (code ∈ [ErrorCode.badOption, ErrorCode.recursionLoop, ErrorCode.matchLimit] ∨
        p.utfFault? request.subject request.start = some code) := by
  cases outcome with
  | @refused code mem =>
      by_cases none : code = ErrorCode.noMatch
      · subst none
        cases eq
      rcases ofAnswer_refused mem (p.groupCount + 1) with no | error
      · rw [no] at eq
        cases eq
      · rw [error] at eq
        refine ⟨code, (Except.error.inj eq).symm, Or.inl ?_⟩
        simpa [none] using mem
  | @invalid code check fault =>
      rw [Captures.ofAnswer_of_lt (utfFault?_lt fault)] at eq
      exact ⟨code, (Except.error.inj eq).symm, Or.inr fault⟩
  | matched valid ended =>
      rw [Captures.ofAnswer_answerOf] at eq
      cases eq
  | partly valid ended =>
      rw [Captures.ofAnswer_partialMatch] at eq
      cases eq

/-- **What an answer stands for is the state at the end of a match, or a partial match.** -/
theorem Replies.reports (replies : p.Replies request answer) {c : Captures}
    (eq : Captures.ofAnswer answer (p.groupCount + 1) = .ok (some c)) : p.Reports request c := by
  cases replies with
  | @refused code mem =>
      rcases ofAnswer_refused mem (p.groupCount + 1) with none | error
      · rw [none] at eq
        cases eq
      · rw [error] at eq
        cases eq
  | invalid utf checked fault =>
      rw [Captures.ofAnswer_of_lt (utfFault?_lt fault)] at eq
      cases eq
  | matched ahead ends =>
      rw [Captures.ofAnswer_answerOf] at eq
      cases eq
      exact .matched ahead ends
  | partly ahead wanted =>
      rw [Captures.ofAnswer_partialMatch] at eq
      cases eq
      exact .partly ahead wanted

end Program

end Regex
