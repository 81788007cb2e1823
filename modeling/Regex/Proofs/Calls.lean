import Regex.Proofs.Pattern

/-!
# Calls of the engine

What an engine may count on.  It reads its subject without looking whether the start lies inside
it, and without looking whether it is UTF-8 if it is told so; what makes a call of it safe is up to
the caller.

* `Entry`: the ways of asking for a match that promise nothing in return.
* `Course`: what happens when a pattern is asked for a match: it is refused, or the engine is
  called.
* `Entry.course_result`: what is returned follows from the course.
* `Engine.requests_attempts`: the calls for a request, one and perhaps another.
* `Entry.contract_kept`: no way of asking breaks what an engine counts on.

An engine is anything that answers requests: nothing here depends on its answers, so the second call
is covered whatever makes an engine give up.
-/

namespace Regex

/-- A way of asking for a match that promises nothing, with all it is given but the start. -/
inductive Entry where
  | text (subject : String)
  | bytes (subject : ByteArray) (options : MatchOptions)
  | terminated (buffer : ByteArray) (options : MatchOptions)

/-- What happens when a pattern is asked for a match: it is refused without a call of the engine, or
the engine is called. -/
inductive Course where
  | refused (e : Error)
  | called (attempts : Attempts)

namespace Course

/-- The calls of the engine in order, each with its answer. -/
def calls : Course → List (Request × Answer)
  | refused _ => []
  | called attempts => attempts.toList

/-- What is returned, for a pattern with `groups` groups. -/
def result (groups : Nat) : Course → Except Error (Option Captures)
  | refused e => .error e
  | called attempts => Captures.ofAnswer attempts.answer (groups + 1)

/-- What a request leads to. -/
def ofRequest (engine : Engine) (request : Request) : Course :=
  if request.subject.size < request.start then
    .refused (.ofCode .matching ErrorCode.badOffset)
  else .called (engine.attempts request)

/-- What is made of a request follows from what it leads to. -/
theorem result_ofRequest (p : Pattern) (request : Request) :
    (ofRequest p.engine request).result p.groupCount = p.exec request := by
  rw [Pattern.exec_unfold]
  unfold ofRequest
  split_ifs
  · rfl
  · rfl

end Course

namespace Entry

/-- The bytes that are searched. -/
def subject : Entry → ByteArray
  | text subject => subject.toUTF8
  | bytes subject _ => subject
  | terminated buffer _ => Pattern.untilNul buffer

/-- The options that the caller gives. -/
def options : Entry → MatchOptions
  | text _ => .empty
  | bytes _ options | terminated _ options => options

/-- Whether the subject is a text, whose bytes are UTF-8. -/
def isText : Entry → Bool
  | text _ => true
  | _ => false

variable (entry : Entry) (p : Pattern) (start : Nat)

/-- What the way of asking returns. -/
def result : Except Error (Option Captures) :=
  match entry with
  | text subject => p.firstMatch subject start
  | bytes subject options => p.firstMatchBytes subject start options
  | terminated buffer options => p.firstMatchTerminated buffer start options

/-- The request that the way of asking makes, unless it refuses to. -/
def request : Except Error Request :=
  match entry with
  | text subject => p.textRequest subject start
  | bytes subject options => Pattern.bytesRequest subject start options
  | terminated buffer options => Pattern.bytesRequest (Pattern.untilNul buffer) start options

/-- What happens when a pattern is asked in this way, its engine being `engine`. -/
def course (engine : Engine) : Course :=
  match entry.request p start with
  | .error e => .refused e
  | .ok request => .ofRequest engine request

/-! ## The course and its result -/

/-- **What is returned follows from the course.** -/
theorem course_result :
    (entry.course p start p.engine).result p.groupCount = entry.result p start := by
  have asked : entry.result p start = entry.request p start >>= p.exec := by
    cases entry <;> rfl
  rw [asked, course]
  cases entry.request p start with
  | error e => rfl
  | ok request => exact Course.result_ofRequest p request

variable {entry p start}

/-! ## Requests -/

/-- A request keeps the caller's options, but for the flag that leaves out the check of a text; and
then there is nothing for the check to find. -/
theorem request_sound {request : Request} (made : entry.request p start = .ok request) :
    ∃ added : MatchOptions,
      request = ⟨entry.subject, start, entry.options ||| added⟩ ∧
      (added = .empty ∨ added = .noUtfCheck ∧ entry.isText = true) ∧
      (request.start ≤ request.subject.size → request.Sound true) := by
  have kept : ∀ options : MatchOptions, options ||| .empty = options :=
    fun options => congrArg MatchOptions.mk UInt32.or_zero
  -- bytes are asked for in two ways, which make the same request
  have checked : ∀ {subject : ByteArray} {options : MatchOptions},
      Pattern.bytesRequest subject start options = .ok request →
        request = ⟨subject, start, options ||| .empty⟩ ∧
          (request.start ≤ request.subject.size → request.Sound true) := by
    intro subject options eq
    unfold Pattern.bytesRequest at eq
    split_ifs at eq with refused
    obtain rfl := Except.ok.inj eq
    rw [kept]
    exact ⟨rfl, fun inside => ⟨inside, fun unchecked => absurd unchecked refused⟩⟩
  cases entry with
  | text subject =>
      obtain ⟨options, rfl, which, sound⟩ := p.textRequest_sound made
      have alone : MatchOptions.empty ||| options = options :=
        congrArg MatchOptions.mk UInt32.zero_or
      refine ⟨options, ?_, ?_, fun inside => sound inside true⟩
      · rw [show (text subject).options = .empty from rfl, alone]
        rfl
      · exact which.imp_right fun unchecked => ⟨unchecked, rfl⟩
  | bytes subject options =>
      obtain ⟨eq, sound⟩ := checked made
      exact ⟨.empty, eq, Or.inl rfl, sound⟩
  | terminated buffer options =>
      obtain ⟨eq, sound⟩ := checked made
      exact ⟨.empty, eq, Or.inl rfl, sound⟩

/-- Bytes whose check is to be left out are refused. -/
theorem request_refused (bytes : entry.isText = false)
    (unchecked : entry.options.contains .noUtfCheck = true) :
    entry.request p start = .error (.ofCode .options ErrorCode.uncheckedUtf) := by
  have refused : ∀ subject options, options.contains MatchOptions.noUtfCheck = true →
      Pattern.bytesRequest subject start options =
        .error (.ofCode .options ErrorCode.uncheckedUtf) := by
    intro subject options unchecked
    unfold Pattern.bytesRequest
    rw [if_pos unchecked]
  cases entry with
  | text subject => cases bytes
  | bytes subject options => exact refused _ _ unchecked
  | terminated buffer options => exact refused _ _ unchecked

/-- Every other request is made if it starts beyond the end, where there is nothing to look at. -/
theorem request_beyond (checked : entry.options.contains .noUtfCheck = false)
    (beyond : entry.subject.size < start) :
    ∃ request, entry.request p start = .ok request ∧
      request.subject = entry.subject ∧ request.start = start := by
  have made : ∀ subject options, options.contains MatchOptions.noUtfCheck = false →
      Pattern.bytesRequest subject start options = .ok ⟨subject, start, options⟩ := by
    intro subject options checked
    unfold Pattern.bytesRequest
    rw [if_neg (Bool.eq_false_iff.mp checked)]
  cases entry with
  | text subject =>
      have outside : ¬start ≤ subject.toUTF8.size := Nat.not_le.mpr beyond
      change ∃ request, p.textRequest subject start = .ok request ∧ _
      unfold Pattern.textRequest
      extract_lets bytes
      rw [decide_eq_false outside, Bool.false_and, if_neg Bool.false_ne_true]
      split_ifs
      · exact ⟨_, rfl, rfl, rfl⟩
      · exact ⟨_, rfl, rfl, rfl⟩
  | bytes subject options => exact ⟨_, made _ _ checked, rfl, rfl⟩
  | terminated buffer options => exact ⟨_, made _ _ checked, rfl, rfl⟩

end Entry

/-! ## Calls -/

/-- The calls for a request are the request itself, and perhaps the same one without the fast path;
they are answered by the engine. -/
theorem Engine.requests_attempts (engine : Engine) (request : Request) :
    (engine.attempts request).toList.map (·.1) <+: [request, request.withoutFastPath] ∧
      ∀ call ∈ (engine.attempts request).toList, call.2 = engine.run call.1 := by
  unfold attempts
  dsimp only
  split_ifs
  · exact ⟨List.prefix_rfl, by simp [Attempts.toList]⟩
  · exact ⟨⟨[request.withoutFastPath], rfl⟩, by simp [Attempts.toList]⟩

/-- Leaving out the fast path takes nothing from what makes a request sound. -/
theorem Request.Sound.withoutFastPath {request : Request} {utf : Bool} (sound : request.Sound utf) :
    request.withoutFastPath.Sound utf := by
  refine ⟨sound.inside, fun unchecked => sound.unchecked ?_⟩
  rw [← unchecked]
  exact (MatchOptions.contains_or _ .noJit .noUtfCheck (by decide)).symm

namespace Entry

/-- **No way of asking for a match breaks what an engine counts on**, whatever it answers.  Each of
its calls has the caller's subject and start, which lies inside the subject, and the caller's
options; the check of UTF-8 is only left out for a text, and the fast path only in the second call;
and where the check is left out there is nothing for it to find.  Bytes whose check is to be left
out are refused without a call; so is every other start beyond the end of the subject. -/
theorem contract_kept (entry : Entry) (p : Pattern) (start : Nat) (engine : Engine) :
    (entry.course p start p.engine).result p.groupCount = entry.result p start ∧
    (∃ added : MatchOptions, (added = .empty ∨ added = .noUtfCheck ∧ entry.isText = true) ∧
      (entry.course p start engine).calls.map (·.1) <+:
        [⟨entry.subject, start, entry.options ||| added⟩,
         ⟨entry.subject, start, entry.options ||| added ||| .noJit⟩]) ∧
    (∀ call ∈ (entry.course p start engine).calls,
      call.2 = engine.run call.1 ∧ call.1.start ≤ call.1.subject.size ∧
      (call.1.options.contains .noUtfCheck = true →
        Utf8.Valid call.1.subject.data.toList ∧
          Utf8.StartsAt call.1.subject.data.toList call.1.start)) ∧
    (entry.isText = false → entry.options.contains .noUtfCheck = true →
      entry.course p start engine = .refused (.ofCode .options ErrorCode.uncheckedUtf)) ∧
    (entry.options.contains .noUtfCheck = false → entry.subject.size < start →
      entry.course p start engine = .refused (.ofCode .matching ErrorCode.badOffset)) := by
  refine ⟨entry.course_result p start, ?_, ?_, fun bytes unchecked => ?_, fun checked beyond => ?_⟩
  · unfold course
    cases made : entry.request p start with
    | error e => exact ⟨.empty, Or.inl rfl, List.nil_prefix⟩
    | ok request =>
        obtain ⟨added, rfl, which, -⟩ := request_sound made
        refine ⟨added, which, ?_⟩
        dsimp only [Course.ofRequest]
        split_ifs
        · exact List.nil_prefix
        · exact (engine.requests_attempts _).1
  · intro call mem
    unfold course at mem
    cases made : entry.request p start with
    | error e =>
        rw [made] at mem
        cases mem
    | ok request =>
        obtain ⟨added, rfl, -, sound⟩ := request_sound made
        rw [made] at mem
        dsimp only [Course.ofRequest] at mem
        split_ifs at mem with beyond
        · cases mem
        have sound := sound (Nat.not_lt.mp beyond)
        obtain ⟨requests, answers⟩ := engine.requests_attempts
          ⟨entry.subject, start, entry.options ||| added⟩
        have which := requests.subset (List.mem_map_of_mem mem)
        rw [List.mem_cons, List.mem_singleton] at which
        have sound : call.1.Sound true := by
          rcases which with first | again
          · rw [first]
            exact sound
          · rw [again]
            exact sound.withoutFastPath
        exact ⟨answers call mem, sound.inside, fun unchecked => sound.unchecked unchecked rfl⟩
  · rw [course, request_refused bytes unchecked]
  · obtain ⟨request, made, subject, start⟩ := request_beyond (p := p) checked beyond
    rw [course, made]
    dsimp only [Course.ofRequest]
    rw [subject, start, if_pos beyond]

/-- An engine that gives up whatever it is asked is called twice for a text, without the check. -/
theorem contract_kept_twice : ∃ p : Pattern, Pattern.compile "." .utf = .ok p ∧
    ∃ engine : Engine, ∃ first second : Request,
      ((text "éa").course p 2 engine).calls.map (·.1) = [first, second] ∧
      first.options.contains .noUtfCheck = true ∧ second.options.contains .noJit = true ∧
      first.start ≤ first.subject.size ∧
      Utf8.StartsAt second.subject.data.toList second.start := by
  obtain ⟨p, compiled⟩ := eq_ok_of_isOk (x := Pattern.compile "." .utf) (by decide +kernel)
  have utf : p.options.contains .utf = true := by
    rw [(Pattern.of_compile compiled).1]
    decide
  have boundary : Pattern.isBoundary "éa".toUTF8 2 = true := by decide +kernel
  have made : p.textRequest "éa" 2 = .ok ⟨"éa".toUTF8, 2, .noUtfCheck⟩ := by
    unfold Pattern.textRequest
    rw [if_pos utf, boundary, Bool.not_true, Bool.and_false, if_neg Bool.false_ne_true]
  let engine : Engine := ⟨true, fun _ => ⟨ErrorCode.jitStackLimit, #[]⟩⟩
  let first : Request := ⟨"éa".toUTF8, 2, .noUtfCheck⟩
  have calls : ((text "éa").course p 2 engine).calls =
      [(first, engine.run first), (first.withoutFastPath, engine.run first.withoutFastPath)] := by
    have ends : ¬"éa".toUTF8.size < 2 := by decide +kernel
    unfold course request
    dsimp only
    rw [made]
    dsimp only [Course.ofRequest]
    rw [if_neg ends]
    rfl
  obtain ⟨-, -, contract, -⟩ := contract_kept (text "éa") p 2 engine
  rw [calls] at contract
  have inside := (contract _ (List.mem_cons_self ..)).2.1
  have again := (contract _ (List.mem_cons_of_mem _ (List.mem_cons_self ..))).2.2
  refine ⟨p, compiled, engine, first, first.withoutFastPath, ?_, by decide, by decide, inside,
    (again (by decide)).2⟩
  rw [calls]
  rfl

end Entry

end Regex
