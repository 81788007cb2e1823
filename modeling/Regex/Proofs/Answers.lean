import Regex.Program
import Regex.Proofs.Match.Fixed
import Regex.Proofs.Match.Places
import Regex.Proofs.Match.Starts

/-!
# Answers of programs

A request is refused, it finds nothing, or it is answered by the state that a match has ended in.

* `Ends`: what is known of that state.
* `Request.Sound`: a request that starts inside its subject and, if UTF-8 is not to be checked,
  holds what the caller has to promise.
* `Program.Outcome`: how a request can come to its answer, and `Program.run_outcome`: each does so.
* `Program.Replies`: the answers to a sound request.
* `Program.run_replies`: every answer to a sound request is one of them, and what it reports lies at
  or after the place that was asked for.
-/

namespace Regex

open Code Match

/-- How a match ends that was looked for from the place `first` on. -/
structure Ends (groups : GroupCodes) (first : Nat) (s : State) : Prop where
  /-- It ends at or after the place. -/
  ahead : first ≤ s.place
  captures : Ordered s.captures
  /-- It starts there too, and not after its end, unless an assertion has moved its start. -/
  starts : groups.Steady → first ≤ s.keep ∧ s.keep ≤ s.place

theorem Ends.mono {groups : GroupCodes} {first earlier : Nat} {s : State}
    (ends : Ends groups first s) (le : earlier ≤ first) : Ends groups earlier s where
  ahead := le.trans ends.ahead
  captures := ends.captures
  starts steady := ⟨le.trans (ends.starts steady).1, (ends.starts steady).2⟩

/-- A search over placed code ends as it should. -/
theorem Match.Search.run_ends {s : Search} (table : s.context.groups.Placed) {first : Nat}
    (inside : first ≤ s.region.stop) :
    (s.run first).All s.context first (Ends s.context.groups first) := by
  refine run_found (fun place le _ ignored => ?_) inside
  -- the skips that are ignored have no bearing on where a match lies
  generalize eq : ({ s.context with ignoredSkips := ignored } : Context) = ctx
  have groups : ctx.groups = s.context.groups := by rw [← eq]
  have partiality : ctx.partiality = s.context.partiality := by rw [← eq]
  have table : ctx.groups.Placed := groups ▸ table
  obtain ⟨orderly, sound⟩ := @Context.run_orderly ctx table place s.region
  refine ⟨fun st matched => ?_, fun no => sound (partiality.trans no)⟩
  rw [matched] at orderly
  obtain ⟨here, out, _⟩ := orderly
  have inside := here.inside
  rw [out] at inside
  refine ⟨le.trans inside, here.captures, fun steady => ?_⟩
  have starts := @Context.run_steady ctx table (groups ▸ steady) place s.region
  rw [matched] at starts
  exact ⟨le.trans starts.1.1, starts.1.2⟩

/-- What the caller of a request has to see to: it starts inside the subject, and if UTF-8 is not to
be checked, the subject is UTF-8 and the start lies between two characters. -/
structure Request.Sound (request : Request) (utf : Bool) : Prop where
  inside : request.start ≤ request.subject.size
  unchecked : request.options.contains .noUtfCheck = true → utf = true →
    Utf8.Valid request.subject.data.toList ∧
      Utf8.StartsAt request.subject.data.toList request.start

namespace Program

variable {p : Program} {request : Request}

/-! ## The subject -/

theorem sorted_subjectOf (p : Program) (bytes : ByteArray) : (p.subjectOf bytes).Sorted := by
  unfold subjectOf
  split_ifs
  · exact Subject.sorted_ofBytes bytes
  · exact Subject.sorted_ofUnits bytes
  · exact Subject.sorted_ofChars bytes

theorem bytes_subjectOf (p : Program) (bytes : ByteArray) : (p.subjectOf bytes).bytes = bytes := by
  unfold subjectOf
  split_ifs <;> rfl

/-- Whether a byte of a subject starts a character. -/
theorem startsAt_iff {bytes : ByteArray} {offset : Nat} :
    Utf8.StartsAt bytes.data.toList offset ↔
      (offset < bytes.size && Utf8.isContinuation (bytes.get! offset)) = false := by
  by_cases inside : offset < bytes.size
  · have byte : bytes.get! offset = bytes.data[offset] := getElem!_pos bytes.data offset inside
    simp [Utf8.StartsAt, byte, inside]
  · simp [Utf8.StartsAt, inside]

theorem startsAt_of_utfFault? {bytes : ByteArray} {start : Nat}
    (sound : p.utfFault? bytes start = none) : Utf8.StartsAt bytes.data.toList start := by
  rw [startsAt_iff]
  unfold utfFault? at sound
  extract_lets inside at sound
  split_ifs at sound with middle
  exact Bool.eq_false_iff.mpr middle

/-- A place between two characters is found again, and so is every place if bytes can be taken out
of characters. -/
theorem offset_placeAt {bytes : ByteArray} {start : Nat} (inside : start ≤ bytes.size)
    (starts : p.dialect.utf = true → Utf8.StartsAt bytes.data.toList start) :
    (p.subjectOf bytes).offset ((p.subjectOf bytes).placeAt start) = start := by
  refine (p.sorted_subjectOf bytes).offset_placeAt ?_ (by rwa [bytes_subjectOf])
  rw [bytes_subjectOf]
  intro before
  unfold subjectOf
  split_ifs with noUtf single
  · exact Subject.mem_offsets_ofBytes before
  · exact Subject.mem_offsets_ofUnits before
  · exact Subject.mem_offsets_ofChars before (starts (by simpa using noUtf))

/-- The first place that is tried in a subject with broken parts. -/
theorem firstStart_spec {bytes : ByteArray} {start : Nat} (inside : start ≤ bytes.size) :
    start ≤ (p.subjectOf bytes).offset (firstStart (p.subjectOf bytes) start) ∧
      firstStart (p.subjectOf bytes) start ≤ (p.subjectOf bytes).size := by
  have sorted := p.sorted_subjectOf bytes
  have size : (p.subjectOf bytes).offset (p.subjectOf bytes).size = bytes.size := by
    rw [sorted.offset_size, bytes_subjectOf]
  have inside : start ≤ (p.subjectOf bytes).bytes.size := by rwa [bytes_subjectOf]
  unfold firstStart
  generalize p.subjectOf bytes = subject at *
  extract_lets place next
  have next_le : next ≤ subject.size := by
    unfold next place
    split_ifs with before
    -- only the end of the subject has no place after it
    · by_contra beyond
      have last : subject.placeAt start = subject.size := by
        have le := sorted.placeAt_le start
        omega
      rw [last] at before
      rw [sorted.offset_size] at before
      omega
    · exact sorted.placeAt_le start
  have ahead : start ≤ subject.offset next := by
    unfold next place
    split_ifs with before
    · exact sorted.le_offset_succ before inside
    · omega
  exact ⟨ahead.trans (sorted.offset_mono (subject.le_seek _ next_le)), subject.seek_le _ next_le⟩

/-! ## The search -/

/-- A search over the parts of a subject ends as it should. -/
theorem searchParts_ends {s : Search} (table : s.context.groups.Placed) (notEol : Bool) (fuel : Nat)
    {first place : Nat} (le : first ≤ place) (inside : place ≤ s.context.subject.size) :
    (searchParts s notEol fuel place).All s.context first (Ends s.context.groups first) := by
  induction fuel generalizing place with
  | zero => trivial
  | succ fuel ih =>
      unfold searchParts
      extract_lets subject stop part next
      have stop_ge : place ≤ stop := subject.le_seek _ inside
      have stop_le : stop ≤ subject.size := subject.seek_le _ inside
      have ends : (part.run place).All s.context place (Ends s.context.groups place) :=
        Search.run_ends (s := part) table stop_ge
      split
      · rename_i partialStart result
        rw [result] at ends
        have next_ge : place ≤ next := stop_ge.trans (subject.le_seek _ stop_le)
        split_ifs
        · cases partialStart with
          | none => trivial
          | some start => exact ⟨le.trans ends.1, ends.2⟩
        · trivial
        · exact ih (le.trans next_ge) (subject.seek_le _ stop_le)
      · cases result : part.run place with
        | matched st =>
            rw [result] at ends
            exact Ends.mono ends le
        | nothing partialStart => rename_i no; exact absurd result (no partialStart)
        | gaveUp o => trivial

/-! ## Answers -/

/-- Whether a subject is checked before it is searched. -/
def checks (p : Program) (request : Request) : Bool :=
  p.dialect.utf && !request.options.contains .noUtfCheck && !p.allowsBroken

/-- What the check of a subject finds is the answer, unless the options are refused before. -/
theorem run_of_fault {code : Int} (known : request.options.bits &&& ~~~matchFlags = 0)
    (soft : request.options.contains .partialSoft = false)
    (hard : request.options.contains .partialHard = false) (check : p.checks request = true)
    (fault : p.utfFault? request.subject request.start = some code) :
    p.run request = ⟨code, #[]⟩ := by
  unfold checks at check
  unfold run
  simp only [known, soft, hard, check, fault, bne_self_eq_false, Bool.or_self, Bool.false_and,
    Bool.false_eq_true, if_false, if_true]

/-- What the search that a request asks for comes to. -/
def found (p : Program) (request : Request) : Found :=
  let subject := p.subjectOf request.subject
  let s := p.search subject request
  if p.dialect.utf && p.allowsBroken then
    searchParts s (request.options.contains .noteol) (subject.size + 1)
      (firstStart subject request.start)
  else s.run s.context.start

/-- How a request can come to its answer. -/
inductive Outcome (p : Program) (request : Request) : Answer → Prop where
  /-- There is no match, or the options are refused, or matching is given up. -/
  | refused {code : Int} :
      code ∈ [ErrorCode.badOption, ErrorCode.recursionLoop, ErrorCode.matchLimit,
        ErrorCode.noMatch] → Outcome p request ⟨code, #[]⟩
  /-- The subject is not UTF-8. -/
  | invalid {code : Int} :
      p.checks request = true → p.utfFault? request.subject request.start = some code →
        Outcome p request ⟨code, #[]⟩
  | matched {s : State} :
      (p.checks request = true → p.utfFault? request.subject request.start = none) →
        p.found request = .matched s → Outcome p request (answerOf (p.subjectOf request.subject) s)
  /-- The end of the subject cuts a match off. -/
  | partly {place : Nat} :
      (p.checks request = true → p.utfFault? request.subject request.start = none) →
        p.found request = .nothing (some place) → Outcome p request ⟨ErrorCode.partialMatch,
          #[some ((p.subjectOf request.subject).offset place), some request.subject.size]⟩

/-- **Every request is answered in one of these ways.** -/
theorem run_outcome (p : Program) (request : Request) : p.Outcome request (p.run request) := by
  unfold run
  extract_lets d refuse has wantsPartial checked subject s found
  by_cases unknown : (request.options.bits &&& ~~~matchFlags != 0) = true
  · rw [if_pos unknown]
    exact .refused (by simp)
  rw [if_neg unknown]
  by_cases contradictory :
      (wantsPartial && (d.bits.has EngineBits.endanchored || has .endanchored)) = true
  · rw [if_pos contradictory]
    exact .refused (by simp)
  rw [if_neg contradictory]
  cases fault : (if checked then p.utfFault? request.subject request.start else none) with
  | some code =>
      split_ifs at fault with check
      exact .invalid check fault
  | none =>
      have valid : p.checks request = true →
          p.utfFault? request.subject request.start = none := by
        intro check
        have check : checked = true := check
        rwa [if_pos check] at fault
      cases ended : found with
      | matched st => exact .matched valid ended
      | nothing start =>
          cases start with
          | none => exact .refused (List.mem_cons_of_mem _ (by simp))
          | some start => exact .partly valid ended
      | gaveUp o =>
          cases o with
          | loop => exact .refused (by simp)
          | _ => exact .refused (by simp)

/-- The start of a subject that is not refused lies between two characters as far as that is
checked. -/
theorem startsAt_of_valid (whole : p.allowsBroken = false)
    (valid : p.checks request = true → p.utfFault? request.subject request.start = none)
    (utf : p.dialect.utf = true) (check : request.options.contains .noUtfCheck = false) :
    Utf8.StartsAt request.subject.data.toList request.start :=
  startsAt_of_utfFault? (valid (by simp [checks, utf, check, whole]))

/-- The answers to a request. -/
inductive Replies (p : Program) (request : Request) : Answer → Prop where
  /-- There is no match, or the request is refused, or matching is given up. -/
  | refused {code : Int} :
      code ∈ [ErrorCode.badOption, ErrorCode.recursionLoop, ErrorCode.matchLimit,
        ErrorCode.noMatch] → Replies p request ⟨code, #[]⟩
  /-- The subject is not UTF-8. -/
  | invalid {code : Int} :
      p.dialect.utf = true → request.options.contains .noUtfCheck = false →
        p.utfFault? request.subject request.start = some code → Replies p request ⟨code, #[]⟩
  | matched {s : State} {first : Nat} :
      request.start ≤ (p.subjectOf request.subject).offset first → Ends p.groups first s →
        Replies p request (answerOf (p.subjectOf request.subject) s)
  /-- The end of the subject cuts a match off. -/
  | partly {place : Nat} :
      request.start ≤ (p.subjectOf request.subject).offset place →
        (request.options.contains .partialHard || request.options.contains .partialSoft) = true →
        Replies p request ⟨ErrorCode.partialMatch,
          #[some ((p.subjectOf request.subject).offset place), some request.subject.size]⟩

/-- What is found ends as it should, and not before the place that was asked for. -/
theorem found_ends (placed : p.groups.Placed) (sound : request.Sound p.dialect.utf)
    (valid : p.checks request = true → p.utfFault? request.subject request.start = none) :
    ∃ first, request.start ≤ (p.subjectOf request.subject).offset first ∧
      (p.found request).All (p.context (p.subjectOf request.subject) request) first
        (Ends p.groups first) := by
  have table : (p.context (p.subjectOf request.subject) request).groups.Placed := placed
  unfold found
  extract_lets subject s
  split_ifs with parts
  · obtain ⟨ahead, inside⟩ := p.firstStart_spec sound.inside
    exact ⟨_, ahead, searchParts_ends table _ _ le_rfl inside⟩
  -- either the caller has seen to it, or it has just been checked
  · have starts : p.dialect.utf = true →
        Utf8.StartsAt request.subject.data.toList request.start := by
      intro utf
      cases unchecked : request.options.contains .noUtfCheck with
      | true => exact (sound.unchecked unchecked utf).2
      | false =>
          have whole : p.allowsBroken = false := by simpa [utf] using parts
          exact startsAt_of_valid whole valid utf unchecked
    exact ⟨_, (offset_placeAt sound.inside starts).ge,
      Search.run_ends table ((p.sorted_subjectOf _).placeAt_le _)⟩

/-- **Every answer to a sound request is as it should be.** -/
theorem run_replies (placed : p.groups.Placed) (sound : request.Sound p.dialect.utf) :
    p.Replies request (p.run request) := by
  have outcome := p.run_outcome request
  generalize p.run request = answer at outcome ⊢
  cases outcome with
  | refused mem => exact .refused mem
  | invalid check fault =>
      simp only [checks, Bool.and_eq_true, Bool.not_eq_true'] at check
      exact .invalid check.1.1 check.1.2 fault
  | matched valid ended =>
      obtain ⟨first, ahead, ends⟩ := found_ends placed sound valid
      rw [ended] at ends
      exact .matched ahead ends
  | partly valid ended =>
      obtain ⟨first, ahead, ends⟩ := found_ends placed sound valid
      rw [ended] at ends
      have wanted : (request.options.contains .partialHard ||
          request.options.contains .partialSoft) = true := by
        by_contra neither
        simp only [Bool.or_eq_true, not_or, Bool.not_eq_true] at neither
        exact ends.2 (by simp [context, neither])
      have le := (p.sorted_subjectOf request.subject).offset_mono ends.1
      exact .partly (ahead.trans le) wanted

end Program

end Regex
