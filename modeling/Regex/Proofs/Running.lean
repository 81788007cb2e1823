import Regex.Proofs.Calls

/-!
# Engines that run programs

A program is turned into machine code where that can be done, and interpreted elsewhere.  What is
promised of machine code is that a match does not depend on it: where its stack runs out it says so,
and otherwise it comes to what matching comes to.  An interpreter does that too, as long as there is
memory for it.  Each counts steps in its own way before it gives up.  Here an engine is anything
that keeps this promise.

* `Request.Same`: requests that differ in the fast path at most.
* `Program.withLimit`: a program with another limit on steps.
* `Engine.Runs`: what is asked of an engine that runs a program.
* `Engine.Runs.answered`: the captures that such an engine returns are those that matching comes to.
* `Engine.Finds`: the captures that some way of asking a pattern for a match returns, with any
  engine.
* `Engine.Finds.reports`: what these captures are.
* `Pattern.runs_engine`, `Pattern.finds_iff`: the engine of a pattern is such an engine, and what is
  found with it is what the pattern finds.
-/

namespace Regex

open Match

namespace Request

/-- The same is asked for, whether or not it may take the fast path. -/
structure Same (request asked : Request) : Prop where
  subject : asked.subject = request.subject
  start : asked.start = request.start
  contains : ∀ flag : MatchOptions, MatchOptions.noJit.bits &&& flag.bits = 0 →
    asked.options.contains flag = request.options.contains flag

theorem Same.trans {request asked last : Request} (first : request.Same asked)
    (second : asked.Same last) : request.Same last where
  subject := second.subject.trans first.subject
  start := second.start.trans first.start
  contains flag apart := (second.contains flag apart).trans (first.contains flag apart)

theorem same_of_mem {request asked : Request}
    (which : asked ∈ [request, request.withoutFastPath]) : request.Same asked := by
  simp only [List.mem_cons, List.not_mem_nil, or_false] at which
  rcases which with rfl | rfl
  · exact ⟨rfl, rfl, fun _ _ => rfl⟩
  · exact ⟨rfl, rfl, fun flag apart => MatchOptions.contains_or _ _ flag apart⟩

end Request

/-- The program with another limit on steps. -/
def Program.withLimit (p : Program) (limit : Nat) : Program :=
  { p with dialect := { p.dialect with matchLimit := limit } }

/-- Captures that are reported with another limit are reported. -/
theorem Program.Reports.ofLimit {p : Program} {limit : Nat} {request : Request} {c : Captures}
    (reports : (p.withLimit limit).Reports request c) : p.Reports request c := by
  cases reports with
  | matched ahead ends => exact .matched ahead ends
  | partly ahead wanted => exact .partly ahead wanted

namespace Engine

/-- An engine that runs a program.  Whether it makes machine code of the program or interprets it,
its answer to a request is what matching comes to, with steps counted in some way; unless it gives
up, which is an error and neither a match nor the absence of one. -/
def Runs (engine : Engine) (p : Program) : Prop :=
  ∀ request, (∃ asked ∈ [request, request.withoutFastPath], ∃ limit,
      engine.run request = (p.withLimit limit).run asked) ∨
    (engine.run request).code < ErrorCode.partialMatch

variable {engine : Engine} {p : Pattern} {c : Captures} {request : Request}

/-- Captures are read from what matching comes to, as an answer that gives up stands for none. -/
theorem Runs.matched (runs : engine.Runs p.program)
    (read : Captures.ofAnswer (engine.run request) (p.groupCount + 1) = .ok (some c)) :
    ∃ asked ∈ [request, request.withoutFastPath], ∃ limit,
      Captures.ofAnswer ((p.program.withLimit limit).run asked) (p.groupCount + 1) =
        .ok (some c) := by
  rcases runs request with ⟨asked, which, limit, matched⟩ | gaveUp
  · exact ⟨asked, which, limit, matched ▸ read⟩
  · have code : (engine.run request).code < -2 := gaveUp
    rw [Answer.ofAnswer_eq, if_neg (by show _ ≠ (-1 : Int); omega),
      if_pos ⟨by omega, by show _ ≠ (-2 : Int); omega⟩] at read
    cases read

/-- **Captures are read from what matching comes to**, for the request or for the same one without
the fast path. -/
theorem Runs.answered (runs : engine.Runs p.program)
    (eq : (Course.ofRequest engine request).result p.groupCount = .ok (some c)) :
    request.start ≤ request.subject.size ∧ ∃ asked limit, request.Same asked ∧
      Captures.ofAnswer ((p.program.withLimit limit).run asked) (p.groupCount + 1) =
        .ok (some c) := by
  unfold Course.ofRequest at eq
  split_ifs at eq with beyond
  · cases eq
  refine ⟨Nat.not_lt.mp beyond, ?_⟩
  have read : Captures.ofAnswer (engine.attempts request).answer (p.groupCount + 1) =
      .ok (some c) := eq
  rw [Engine.answer_attempts] at read
  -- the call whose answer counts, and the request that it is answered like
  obtain ⟨last, called, read⟩ : ∃ last ∈ [request, request.withoutFastPath],
      Captures.ofAnswer (engine.run last) (p.groupCount + 1) = .ok (some c) := by
    split_ifs at read
    · exact ⟨_, List.mem_cons_of_mem _ List.mem_cons_self, read⟩
    · exact ⟨_, List.mem_cons_self, read⟩
  obtain ⟨asked, like, limit, read⟩ := runs.matched read
  exact ⟨asked, limit, (Request.same_of_mem called).trans (Request.same_of_mem like), read⟩

/-- What is returned for a request. -/
theorem Runs.reports (runs : engine.Runs p.program) (placed : p.program.groups.Placed)
    (sound : request.start ≤ request.subject.size → request.Sound p.program.dialect.utf)
    (eq : (Course.ofRequest engine request).result p.groupCount = .ok (some c)) :
    ∃ used : MatchOptions, (∀ flag : MatchOptions, MatchOptions.noJit.bits &&& flag.bits = 0 →
        used.contains flag = request.options.contains flag) ∧
      p.program.Reports ⟨request.subject, request.start, used⟩ c := by
  obtain ⟨inside, ⟨subject, start, used⟩, limit, ⟨rfl, rfl, same⟩, read⟩ := runs.answered eq
  have sound : Request.Sound ⟨request.subject, request.start, used⟩ p.program.dialect.utf :=
    ⟨inside, fun unchecked => (sound inside).unchecked ((same _ (by decide)).symm.trans unchecked)⟩
  have placed : (p.program.withLimit limit).groups.Placed := placed
  exact ⟨used, same, ((Program.run_replies placed sound).reports read).ofLimit⟩

/-- The captures that some way of asking a pattern for a match returns, with any engine. -/
inductive Finds (engine : Engine) (p : Pattern) (c : Captures) :
    ByteArray → Nat → MatchOptions → Prop where
  | asked {entry : Entry} {start : Nat} :
      (entry.course p start engine).result p.groupCount = .ok (some c) →
        Finds engine p c entry.subject start entry.options
  /-- In UTF mode the subject has to be UTF-8 and the start between two characters if that is not to
  be checked. -/
  | unchecked {subject : ByteArray} {start : Nat} {options : MatchOptions} :
      (Course.ofRequest engine ⟨subject, start, options⟩).result p.groupCount = .ok (some c) →
        (options.contains .noUtfCheck = true → p.program.dialect.utf = true →
          Utf8.Valid subject.data.toList ∧ Utf8.StartsAt subject.data.toList start) →
        Finds engine p c subject start options

/-- **What some way of asking for a match returns.** -/
theorem Finds.reports {subject : ByteArray} {start : Nat} {options : MatchOptions}
    (runs : engine.Runs p.program) (placed : p.program.groups.Placed)
    (found : engine.Finds p c subject start options) :
    ∃ used : MatchOptions, (∀ flag : MatchOptions, MatchOptions.noJit.bits &&& flag.bits = 0 →
        MatchOptions.noUtfCheck.bits &&& flag.bits = 0 →
        used.contains flag = options.contains flag) ∧
      p.program.Reports ⟨subject, start, used⟩ c := by
  cases found with
  | @asked entry start eq =>
      unfold Entry.course at eq
      cases made : entry.request p start with
      | error e =>
          rw [made] at eq
          cases eq
      | ok request =>
          rw [made] at eq
          obtain ⟨added, rfl, which, sound⟩ := Entry.request_sound made
          have sound : start ≤ entry.subject.size →
              Request.Sound ⟨entry.subject, start, entry.options ||| added⟩
                p.program.dialect.utf := fun inside =>
            ⟨inside, fun unchecked _ => (sound inside).unchecked unchecked rfl⟩
          obtain ⟨used, same, reports⟩ := runs.reports placed sound eq
          refine ⟨used, fun flag apart unchecked => (same flag apart).trans ?_, reports⟩
          rcases which with rfl | ⟨rfl, -⟩
          · exact MatchOptions.contains_or _ _ flag UInt32.zero_and
          · exact MatchOptions.contains_or _ _ flag unchecked
  | unchecked eq promise =>
      obtain ⟨used, same, reports⟩ := runs.reports placed (fun inside => ⟨inside, promise⟩) eq
      exact ⟨used, fun flag apart _ => same flag apart, reports⟩

end Engine

namespace Pattern

variable {p : Pattern} {c : Captures} {subject : ByteArray} {start : Nat} {options : MatchOptions}

/-- **The engine of a pattern runs its program.** -/
theorem runs_engine (p : Pattern) : p.engine.Runs p.program :=
  fun request => Or.inl ⟨request, List.mem_cons_self, p.program.dialect.matchLimit, rfl⟩

/-- What is found with the engine of a pattern is what the pattern finds. -/
theorem finds_iff : p.Finds c subject start options ↔ p.engine.Finds p c subject start options := by
  constructor
  · intro found
    -- each way of asking is an entry
    have asked : ∀ (entry : Entry) {start : Nat}, entry.result p start = .ok (some c) →
        p.engine.Finds p c entry.subject start entry.options :=
      fun entry _ eq => .asked ((entry.course_result p _).trans eq)
    cases found with
    | @text text start eq => exact asked (.text text) eq
    | bytes eq => exact asked (.bytes subject options) eq
    | @terminated buffer start options eq => exact asked (.terminated buffer options) eq
    | unchecked eq promise => exact .unchecked ((Course.result_ofRequest ..).trans eq) promise
  · intro found
    cases found with
    | @asked entry start eq =>
        rw [Entry.course_result] at eq
        cases entry with
        | text text => exact .text eq
        | bytes subject options => exact .bytes eq
        | terminated buffer options => exact .terminated eq
    | unchecked eq promise =>
        rw [Course.result_ofRequest] at eq
        exact .unchecked eq promise

/-- What some way of asking a pattern for a match returns. -/
theorem Finds.reports (placed : p.program.groups.Placed) (found : p.Finds c subject start options) :
    ∃ used : MatchOptions, (∀ flag : MatchOptions, MatchOptions.noJit.bits &&& flag.bits = 0 →
        MatchOptions.noUtfCheck.bits &&& flag.bits = 0 →
        used.contains flag = options.contains flag) ∧
      p.program.Reports ⟨subject, start, used⟩ c :=
  Engine.Finds.reports p.runs_engine placed (finds_iff.mp found)

end Pattern

end Regex
