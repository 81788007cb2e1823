import Regex.Proofs.Calls

/-!
# The fast path

An engine may have a fast path for patterns that are studied, which runs on a small fixed stack.
Where that runs out the request is made once more without it, and the second answer goes to the same
offsets as the first.  None of this can be seen from outside, if the fast path agrees with what is
found without it; an interpreter that does not look behind what it has checked need not agree.

* `Engine.Consistent`: what is asked of an engine, that its fast path gives up or agrees.
* `Engine.Consistent.answer_attempts`: the answer that counts is the one without the fast path.
* `Engine.Vector`: an engine that writes all its answers over one vector of offsets, and
  `Engine.Vector.result_eq`: what it finds there from before makes no difference.
* `Engine.fastPath_unseen`: what is returned for a request is what is returned without the fast
  path.
-/

namespace Regex

/-! ## Requests without the fast path -/

namespace Request

theorem contains_withoutFastPath (request : Request) :
    request.withoutFastPath.options.contains .noJit = true :=
  MatchOptions.contains_or_self request.options .noJit

/-- There is nothing to be left out twice. -/
theorem withoutFastPath_eq_self {request : Request}
    (slow : request.options.contains .noJit = true) : request.withoutFastPath = request := by
  show { request with options := request.options ||| .noJit } = request
  rw [MatchOptions.or_eq_self slow]

end Request

namespace Engine

variable {engine : Engine}

/-! ## What is asked of an engine -/

/-- An engine whose fast path gives up or agrees. -/
structure Consistent (engine : Engine) : Prop where
  /-- The fast path runs out of stack, or the answer is the one without it. -/
  fast : ∀ request, request.options.contains .noJit = false →
    (engine.run request).code = ErrorCode.jitStackLimit ∨
      engine.run request = engine.run request.withoutFastPath
  /-- Without the fast path there is no such stack. -/
  slow : ∀ request, request.options.contains .noJit = true →
    (engine.run request).code ≠ ErrorCode.jitStackLimit
  /-- A pattern that is not studied has no fast path. -/
  unstudied : engine.studied = false → ∀ request,
    engine.run request = engine.run request.withoutFastPath

namespace Consistent

/-- **The answer that counts is the one without the fast path.** -/
theorem answer_attempts (consistent : engine.Consistent) (request : Request) :
    (engine.attempts request).answer = engine.run request.withoutFastPath := by
  rw [Engine.answer_attempts]
  split_ifs with again
  · rfl
  cases slow : request.options.contains .noJit with
  | true => rw [Request.withoutFastPath_eq_self slow]
  | false =>
      rcases consistent.fast request slow with gaveUp | agrees
      · -- it gave up and was not made again: there was no fast path, then
        have unstudied : engine.studied = false := by
          simpa [retries, gaveUp, slow] using again
        exact consistent.unstudied unstudied request
      · exact agrees

theorem answer_attempts_withoutFastPath (consistent : engine.Consistent) (request : Request) :
    (engine.attempts request.withoutFastPath).answer = (engine.attempts request).answer := by
  rw [consistent.answer_attempts, consistent.answer_attempts,
    Request.withoutFastPath_eq_self request.contains_withoutFastPath]

/-- It does not say that a stack ran out. -/
theorem answer_code_ne (consistent : engine.Consistent) (request : Request) :
    (engine.attempts request).answer.code ≠ ErrorCode.jitStackLimit := by
  rw [consistent.answer_attempts]
  exact consistent.slow _ request.contains_withoutFastPath

end Consistent

/-! ## One vector for all calls -/

/-- How an engine writes its answers over what a vector of offsets holds. -/
structure Vector (engine : Engine) where
  write : Request → Array (Option Nat) → Array (Option Nat)
  /-- What an answer reports is there to be read.  The rest of the vector may hold anything. -/
  written : ∀ request held,
    Answer.Alike ⟨(engine.run request).code, write request held⟩ (engine.run request)

namespace Vector

variable (v : engine.Vector)

/-- One call: its number, and what the vector holds after it. -/
def call (held : Array (Option Nat)) (request : Request) : Answer :=
  ⟨(engine.run request).code, v.write request held⟩

/-- The calls for a request, the second one written over the first: the number that counts, and what
the vector holds in the end. -/
def answer (held : Array (Option Nat)) (request : Request) : Answer :=
  let first := v.call held request
  if engine.retries request first then v.call first.offsets request.withoutFastPath else first

/-- What is made of a request, for a pattern with `groups` groups. -/
def result (held : Array (Option Nat)) (groups : Nat) (request : Request) :
    Except Error (Option Captures) :=
  if request.subject.size < request.start then .error (.ofCode .matching ErrorCode.badOffset)
  else Captures.ofAnswer (v.answer held request) (groups + 1)

/-- What counts is reported, whatever the first call leaves behind. -/
theorem alike_answer (held : Array (Option Nat)) (request : Request) :
    (v.answer held request).Alike (engine.attempts request).answer := by
  have decided : engine.retries request (v.call held request) =
      engine.retries request (engine.run request) := rfl
  rw [Engine.answer_attempts, answer, decided]
  split_ifs
  · exact v.written _ _
  · exact v.written _ _

/-- **What the vector holds from before makes no difference.** -/
theorem result_eq (held : Array (Option Nat)) (groups : Nat) (request : Request) :
    v.result held groups request = (Course.ofRequest engine request).result groups := by
  unfold result Course.ofRequest
  split_ifs
  · rfl
  · exact (v.alike_answer held request).ofAnswer (groups + 1)

end Vector

/-! ## Results -/

/-- A request is answered by two calls at most. -/
theorem length_calls_le (engine : Engine) (request : Request) :
    (Course.ofRequest engine request).calls.length ≤ 2 := by
  unfold Course.ofRequest
  split_ifs
  · exact Nat.zero_le 2
  · have requests := (engine.requests_attempts request).1.length_le
    rwa [List.length_map] at requests

namespace Consistent

variable (consistent : engine.Consistent) (groups : Nat) (request : Request)
include consistent

theorem result_withoutFastPath :
    (Course.ofRequest engine request).result groups =
      (Course.ofRequest engine request.withoutFastPath).result groups := by
  have subject : request.withoutFastPath.subject = request.subject := rfl
  have start : request.withoutFastPath.start = request.start := rfl
  unfold Course.ofRequest
  rw [subject, start]
  split_ifs
  · rfl
  · show Captures.ofAnswer _ _ = Captures.ofAnswer _ _
    rw [consistent.answer_attempts_withoutFastPath]

/-- No error is returned that says that a stack ran out. -/
theorem result_code_ne {e : Error}
    (eq : (Course.ofRequest engine request).result groups = .error e) :
    e.code ≠ ErrorCode.jitStackLimit := by
  unfold Course.ofRequest at eq
  split_ifs at eq
  · obtain rfl := Except.error.inj eq
    show ErrorCode.badOffset ≠ ErrorCode.jitStackLimit
    decide
  · obtain rfl := Answer.eq_of_ofAnswer eq
    exact consistent.answer_code_ne request

end Consistent

/-- **Whether the fast path is taken cannot be seen.**  What is returned for a request is what is
returned without the fast path, and never says that a stack ran out.  The engine is called twice at
most.  If it writes both answers over one vector, then what the vector held before, and what the
first call has left in it, is not in the captures. -/
theorem fastPath_unseen (consistent : engine.Consistent) (p : Pattern) (request : Request) :
    (Course.ofRequest p.engine request).result p.groupCount = p.exec request ∧
    (Course.ofRequest engine request).result p.groupCount =
      (Course.ofRequest engine request.withoutFastPath).result p.groupCount ∧
    (∀ e, (Course.ofRequest engine request).result p.groupCount = .error e →
      e.code ≠ ErrorCode.jitStackLimit) ∧
    (Course.ofRequest engine request).calls.length ≤ 2 ∧
    ∀ (v : engine.Vector) (held : Array (Option Nat)),
      v.result held p.groupCount request =
        (Course.ofRequest engine request).result p.groupCount :=
  ⟨Course.result_ofRequest p request, consistent.result_withoutFastPath p.groupCount request,
    fun _ eq => consistent.result_code_ne p.groupCount request eq,
    engine.length_calls_le request, fun v held => v.result_eq held p.groupCount request⟩

/-- An engine whose fast path runs out of stack after it has filled two pairs. -/
def givingUp : Engine where
  studied := true
  run request :=
    if request.options.contains .noJit then ⟨1, #[some 0, some 1, none, none]⟩
    else ⟨ErrorCode.jitStackLimit, #[some 7, some 9, some 7, some 9]⟩

theorem consistent_givingUp : givingUp.Consistent where
  fast request fast := by
    apply Or.inl
    unfold givingUp
    dsimp only
    rw [if_neg (by simp [fast])]
  slow request slow := by
    unfold givingUp
    dsimp only
    rw [if_pos slow]
    show (1 : Int) ≠ ErrorCode.jitStackLimit
    decide
  unstudied no := absurd no (by decide)

/-- Without the fast path it writes one pair and leaves the rest of its vector as it is. -/
def givingUpVector : givingUp.Vector where
  write request held :=
    if request.options.contains .noJit then #[some 0, some 1] ++ held.extract 2 held.size
    else #[some 7, some 9, some 7, some 9]
  written request held := by
    unfold givingUp
    dsimp only
    split_ifs
    · refine ⟨rfl, rfl, fun i (lt : i < 2) => ?_⟩
      rw [Array.getElem?_append_left lt]
      obtain rfl | rfl : i = 0 ∨ i = 1 := by omega
      · rfl
      · rfl
    · exact ⟨rfl, rfl, fun i (lt : i < 0) => absurd lt (Nat.not_lt_zero i)⟩

/-- What the fast path has left in the second pair stays there, and is not taken for a group. -/
theorem fastPath_unseen_givingUp :
    ∃ p, Pattern.compile "a(b)?" .empty = .ok p ∧
      (givingUpVector.answer #[] ⟨⟨#[97]⟩, 0, .empty⟩).offsets =
        #[some 0, some 1, some 7, some 9] ∧
      givingUpVector.result #[] p.groupCount ⟨⟨#[97]⟩, 0, .empty⟩ =
        .ok (some ⟨[some ⟨0, 1⟩, none], false⟩) ∧
      p.exec ⟨⟨#[97]⟩, 0, .empty⟩ = .ok (some ⟨[some ⟨0, 1⟩, none], false⟩) := by
  obtain ⟨p, compiled⟩ := eq_ok_of_isOk (x := Pattern.compile "a(b)?" .empty) (by decide +kernel)
  have groups : (Pattern.compile "a(b)?" .empty).map (·.groupCount) = .ok 1 := by
    decide +kernel
  have found : (Pattern.compile "a(b)?" .empty >>= (·.exec ⟨⟨#[97]⟩, 0, .empty⟩)) =
      .ok (some ⟨[some ⟨0, 1⟩, none], false⟩) := by
    decide +kernel
  rw [compiled] at groups found
  have groups : p.groupCount = 1 := Except.ok.inj groups
  obtain ⟨-, slow, -, -, unseen⟩ := fastPath_unseen consistent_givingUp p ⟨⟨#[97]⟩, 0, .empty⟩
  refine ⟨p, compiled, by decide +kernel, ?_, found⟩
  rw [unseen givingUpVector #[], slow, groups]
  decide +kernel

end Engine

end Regex
