import Regex.Proofs.Captures
import Regex.Proofs.Compiled
import Regex.Proofs.Options

/-!
# The front door

All ways of asking a pattern for a match come down to one request, which may be made a second time.

* `Pattern.Finds`: the captures that some way of asking returns, the caller keeping what has to be
  promised where UTF-8 is not to be checked.
* `Pattern.exec_eq`, `Pattern.error_of_exec`: what is made of a request, and why it fails.
* `Pattern.textRequest_sound`: the request for a text keeps what the engine is promised.
-/

namespace Regex

open Code Match

namespace Engine

/-- The answer that counts is that to the request, or to the same one without the fast path. -/
theorem answer_attempts (engine : Engine) (request : Request) :
    (engine.attempts request).answer =
      if engine.retries request (engine.run request) then engine.run request.withoutFastPath
      else engine.run request := by
  unfold attempts
  dsimp only
  split_ifs <;> rfl

end Engine

namespace Pattern

/-- The captures that some way of asking a pattern for a match returns. -/
inductive Finds (p : Pattern) (c : Captures) : ByteArray → Nat → MatchOptions → Prop where
  | text {subject : String} {start : Nat} :
      p.firstMatch subject start = .ok (some c) → Finds p c subject.toUTF8 start .empty
  | bytes {subject : ByteArray} {start : Nat} {options : MatchOptions} :
      p.firstMatchBytes subject start options = .ok (some c) → Finds p c subject start options
  | terminated {buffer : ByteArray} {start : Nat} {options : MatchOptions} :
      p.firstMatchTerminated buffer start options = .ok (some c) →
        Finds p c (untilNul buffer) start options
  /-- In UTF mode the subject has to be UTF-8 and the start between two characters if that is not to
  be checked. -/
  | unchecked {subject : ByteArray} {start : Nat} {options : MatchOptions} :
      p.firstMatchUnchecked subject start options = .ok (some c) →
        (options.contains .noUtfCheck = true → p.program.dialect.utf = true →
          Utf8.Valid subject.data.toList ∧ Utf8.StartsAt subject.data.toList start) →
        Finds p c subject start options

variable {p : Pattern} {c : Captures} {subject : ByteArray} {start : Nat} {options : MatchOptions}

/-- The engine of a pattern answers each request at once. -/
theorem answer_attempts (p : Pattern) (request : Request) :
    (p.engine.attempts request).answer = p.program.run request := by
  rw [Engine.answer_attempts, if_neg]
  · rfl
  · have code : (p.engine.run request).code ≠ ErrorCode.jitStackLimit :=
      p.program.run_code_ne request
    simp [Engine.retries, code]

/-- What is made of a request is what is made of the answer to it. -/
theorem exec_eq {request : Request} (inside : request.start ≤ request.subject.size) :
    p.exec request = Captures.ofAnswer (p.program.run request) (p.program.groupCount + 1) := by
  rw [exec_unfold, if_neg (Nat.not_lt.mpr inside), Engine.find, answer_attempts]
  rfl

theorem exec_of_lt {request : Request} (beyond : request.subject.size < request.start) :
    p.exec request = .error (.ofCode .matching ErrorCode.badOffset) := by
  rw [exec_unfold, if_pos beyond]

/-- Why a request fails: it starts beyond the end of its subject, it is refused or given up, or its
subject is at fault. -/
theorem error_of_exec {request : Request} {e : Error} (eq : p.exec request = .error e) :
    ∃ code, e = .ofCode .matching code ∧
      (code = ErrorCode.badOffset ∧ request.subject.size < request.start ∨
        code ∈ [ErrorCode.badOption, ErrorCode.recursionLoop, ErrorCode.matchLimit] ∨
        p.program.utfFault? request.subject request.start = some code) := by
  by_cases inside : request.start ≤ request.subject.size
  · rw [exec_eq inside] at eq
    obtain ⟨code, same, why⟩ := (p.program.run_outcome request).of_error eq
    exact ⟨code, same, Or.inr why⟩
  · have beyond := Nat.not_le.mp inside
    rw [exec_of_lt beyond] at eq
    exact ⟨_, (Except.error.inj eq).symm, Or.inl ⟨rfl, beyond⟩⟩

theorem isBoundary_iff {bytes : ByteArray} {start : Nat} :
    isBoundary bytes start = true ↔
      start ≤ bytes.size ∧ Utf8.StartsAt bytes.data.toList start := by
  unfold isBoundary
  by_cases inside : start < bytes.size
  · have entry : bytes.data.toList[start]? = some bytes[start] :=
      List.getElem?_eq_getElem (l := bytes.data.toList) inside
    rw [getElem?_pos bytes start inside]
    simp [Utf8.StartsAt, entry, inside.le]
  · have beyond : bytes.data.toList[start]? = none :=
      List.getElem?_eq_none (Nat.not_lt.mp inside)
    rw [getElem?_neg bytes start inside]
    simp only [Utf8.StartsAt, beyond, reduceCtorEq, false_implies, implies_true, and_true,
      decide_eq_true_eq]
    omega

/-- The request for a match in a text. -/
theorem textRequest_sound {text : String} {request : Request}
    (eq : p.textRequest text start = .ok request) :
    ∃ options : MatchOptions, request = ⟨text.toUTF8, start, options⟩ ∧
      (options = .empty ∨ options = .noUtfCheck) ∧
      (request.start ≤ request.subject.size → ∀ utf, request.Sound utf) := by
  unfold textRequest at eq
  extract_lets bytes at eq
  split_ifs at eq with utf outside
  · obtain rfl := Except.ok.inj eq
    refine ⟨_, rfl, Or.inr rfl, fun inside utf => ⟨inside, fun _ _ => ?_⟩⟩
    have boundary : isBoundary bytes start = true := by
      simpa [show start ≤ bytes.size from inside] using outside
    exact ⟨Utf8.valid_toUTF8 text, (isBoundary_iff.mp boundary).2⟩
  · obtain rfl := Except.ok.inj eq
    have checked : MatchOptions.empty.contains .noUtfCheck = false := by decide
    exact ⟨_, rfl, Or.inl rfl, fun inside utf =>
      ⟨inside, fun no => absurd (checked.symm.trans no) Bool.false_ne_true⟩⟩

end Pattern

end Regex
