import Regex.Proofs.Faults.Pattern
import Regex.Proofs.Messages
import Regex.Proofs.Pattern

/-!
# Errors that are returned

An error is put together in a number of places, from a number and a text that is looked up for it.
Whoever reads one relies on these to fit together, wherever it comes from.

* `Error.WellFormed`: an error whose parts fit its domain.
* `Error.WellFormed.ofMatching`, `Error.WellFormed.ofOptions`, `Error.WellFormed.inPattern`: the
  three ways of making one.
* `Library.Documented`: what is documented of an engine and its memory, the numbers with which each
  of its functions fails.
* `Library.Raised`: the errors that compiling returns, or some way of asking for a match, with any
  engine and however little memory.
* `Library.documented_ample`: the engine that is defined here fails with none but these numbers.
* `Pattern.wellFormed_of_raised`: all errors are well-formed.
-/

namespace Regex

/-! ## Well-formed errors -/

namespace Error

/-- An error whose parts fit its domain. -/
structure WellFormed (e : Error) : Prop where
  message : e.message ≠ ""
  /-- Errors of the pattern have a place, and no others. -/
  offset : e.offset.isSome = true ↔ e.domain = .compile
  /-- An error of matching has a number of the engine, and the text of that number. -/
  matching : e.domain = .matching → (-67 ≤ e.code ∧ e.code ≤ -3) ∧ e.offset = none ∧
    e.message = describeErrorCode e.code ∧ e.message ≠ unknownError
  /-- An error of the options says that options contradict each other or are not allowed, never that
  a setting was refused. -/
  options : e.domain = .options →
    e.code ∈ [ErrorCode.conflictingNewline, ErrorCode.conflictingBsr, ErrorCode.uncheckedUtf] ∧
      e.message = describeErrorCode e.code
  /-- That there is no match, or only a part of one, is no error. -/
  failure : e.code ≠ ErrorCode.noMatch ∧ e.code ≠ ErrorCode.partialMatch
  /-- A place is shown if and only if it is known. -/
  shown : ∀ k, e.display = e.message ++ " at offset " ++ toString k ↔ e.offset = some k
  bare : e.display = e.message ↔ e.offset = none

/-- A place that is shown can be seen. -/
theorem message_ne_shown (message : String) (k : Nat) :
    message ≠ message ++ " at offset " ++ toString k := by
  intro eq
  have length := congrArg String.length eq
  have eleven : " at offset ".length = 11 := by decide
  rw [String.length_append, String.length_append] at length
  omega

/-- A place that is shown is read back from its digits. -/
theorem shown_injective (message : String) :
    Function.Injective fun k : Nat => message ++ " at offset " ++ toString k := by
  intro k k' eq
  have digits : (toString k).toList = (toString k').toList := by
    simpa using congrArg String.toList eq
  have number := congrArg (fun digits => Nat.ofDigitChars 10 digits 0) digits
  simpa using number

/-- A place is shown if and only if it is the place of the error. -/
theorem display_eq_iff (e : Error) (k : Nat) :
    e.display = e.message ++ " at offset " ++ toString k ↔ e.offset = some k := by
  unfold display
  constructor
  · intro eq
    cases offset : e.offset with
    | none =>
        rw [offset] at eq
        exact absurd eq (message_ne_shown e.message k)
    | some shown =>
        rw [offset] at eq
        rw [shown_injective e.message eq]
  · intro offset
    rw [offset]

/-- Only the message is shown where no place is known. -/
theorem display_eq_message_iff (e : Error) : e.display = e.message ↔ e.offset = none := by
  constructor
  · intro eq
    cases offset : e.offset with
    | none => rfl
    | some k =>
        have shown := (e.display_eq_iff k).mpr offset
        exact absurd (eq.symm.trans shown) (message_ne_shown e.message k)
  · intro offset
    unfold display
    rw [offset]

namespace WellFormed

/-- An error of matching is well-formed if its number is in the table. -/
theorem ofMatching {code : Int} (low : -67 ≤ code) (high : code ≤ -3) :
    (ofCode .matching code).WellFormed where
  message := describeErrorCode_ne_empty code
  offset := by simp [ofCode]
  matching _ :=
    ⟨⟨low, high⟩, rfl, rfl, (spec_of_describeErrorCode low (by omega)).2⟩
  options := nofun
  failure := by
    constructor
    · show code ≠ -1
      omega
    · show code ≠ -2
      omega
  shown := display_eq_iff _
  bare := display_eq_message_iff _

/-- An error of the options is well-formed if it is one of those that are in use. -/
theorem ofOptions {code : Int} (mem : code ∈
      [ErrorCode.conflictingNewline, ErrorCode.conflictingBsr, ErrorCode.uncheckedUtf]) :
    (ofCode .options code).WellFormed where
  message := describeErrorCode_ne_empty code
  offset := by simp [ofCode]
  matching := nofun
  options _ := ⟨mem, rfl⟩
  failure := by
    constructor
    · rintro rfl
      exact absurd mem (by decide)
    · rintro rfl
      exact absurd mem (by decide)
  shown := display_eq_iff _
  bare := display_eq_message_iff _

/-- An error of the pattern is well-formed if it has a text, and a number that says neither that
there is no match nor that there is a part of one. -/
theorem inPattern {code : Int} {message : String} (other : code ≤ -3 ∨ 0 < code)
    (text : message ≠ "") (offset : Nat) : (Error.inPattern code message offset).WellFormed where
  message := text
  offset := by simp [Error.inPattern]
  matching := nofun
  options := nofun
  failure := by
    constructor
    · show code ≠ -1
      omega
    · show code ≠ -2
      omega
  shown := display_eq_iff _
  bare := display_eq_message_iff _

end WellFormed

end Error

/-! ## Where errors are raised -/

/-- Asking for two conventions of a kind is the only way for a choice among them to fail. -/
theorem CompileOptions.error_of_pickOne {α : Type} {o : CompileOptions}
    {flags : List (CompileOptions × α)} {code : Int} {e : Error}
    (eq : o.pickOne flags code = .error e) : e = .ofCode .options code := by
  unfold pickOne at eq
  split at eq
  · cases eq
  · cases eq
  · exact (Except.error.inj eq).symm

theorem CompileOptions.wellFormed_of_resolve {o : CompileOptions} {e : Error}
    (eq : o.resolve = .error e) : e.WellFormed := by
  rw [resolve_eq] at eq
  rcases bind_eq_error eq with newline | ⟨n, -, eq⟩
  · obtain rfl := error_of_pickOne newline
    exact .ofOptions (by simp)
  rcases bind_eq_error eq with bsr | ⟨b, -, eq⟩
  · obtain rfl := error_of_pickOne bsr
    exact .ofOptions (by simp)
  · cases eq

/-! ## Where an engine fails -/

namespace Library

/-- The numbers with which a request is refused or given up, but for those of a subject that is not
UTF-8. -/
def matchFaults : List Int :=
  [ErrorCode.badMagic, ErrorCode.badMode, ErrorCode.badOffset, ErrorCode.badOption,
   ErrorCode.badUtfOffset, ErrorCode.callout, ErrorCode.internal, ErrorCode.jitStackLimit,
   ErrorCode.matchLimit, ErrorCode.noMemory, ErrorCode.nullArgument, ErrorCode.recursionLoop,
   ErrorCode.depthLimit, ErrorCode.badOffsetLimit, ErrorCode.heapLimit]

/-- The numbers with which it is refused to tell something of a program. -/
def infoFaults : List Int :=
  [ErrorCode.badMagic, ErrorCode.badMode, ErrorCode.badOption, ErrorCode.nullArgument,
   ErrorCode.unset]

/-- The numbers of what keeps bytes from being UTF-8. -/
def IsDefect (code : Int) : Prop := -23 ≤ code ∧ code ≤ -3

/-- What is documented of an engine: the numbers with which each of its functions fails.  Nothing is
said of when that is, nor of how much memory there is. -/
structure Documented (l : Library) : Prop where
  /-- A pattern has a fault, whose number is positive, or it is not UTF-8. -/
  program : ∀ source bits context code offset,
    l.program source bits context = .error (code, offset) → 0 < code ∨ IsDefect code
  count : ∀ program code, l.countFault? program = some code → code ∈ infoFaults
  /-- There is a match, a part of one or none, or the request fails. -/
  run : ∀ program request, ((l.engine program).run request).code < ErrorCode.partialMatch →
    ((l.engine program).run request).code ∈ matchFaults ∨
      IsDefect ((l.engine program).run request).code

theorem matchFaults_range : ∀ code ∈ matchFaults, -67 ≤ code ∧ code ≤ -3 := by decide

theorem infoFaults_range : ∀ code ∈ infoFaults, code ≤ -3 := by decide

/-- **The engine that is defined here fails with none but the documented numbers.** -/
theorem documented_ample : ample.Documented where
  program source bits context code offset eq := by
    unfold ample at eq
    dsimp only at eq
    cases made : Program.compile source bits context with
    | ok program =>
        rw [made] at eq
        cases eq
    | error fault =>
        rw [made] at eq
        obtain ⟨rfl, -⟩ := Prod.mk.inj (Except.error.inj eq)
        exact Or.inl (Int.natCast_pos.mpr (Nat.zero_lt_of_lt fault.cause.lt_code))
  count program code eq := nomatch eq
  run program request failed := by
    have outcome := program.run_outcome request
    change (program.run request).code < ErrorCode.partialMatch at failed
    show (program.run request).code ∈ matchFaults ∨ IsDefect (program.run request).code
    generalize program.run request = answer at outcome failed
    cases outcome with
    | refused mem =>
        simp only [List.mem_cons, List.not_mem_nil, or_false] at mem
        rcases mem with rfl | rfl | rfl | rfl
        · exact Or.inl (by decide)
        · exact Or.inl (by decide)
        · exact Or.inl (by decide)
        · exact absurd failed (by decide)
    | invalid check fault =>
        rcases Program.utfFault?_code fault with ⟨rfl, -⟩ | defect
        · exact Or.inl (by decide)
        · exact Or.inr defect
    | matched valid ended =>
        change (1 + (_ : Int)) < -2 at failed
        omega
    | partly valid ended => exact absurd failed (Int.lt_irrefl _)

/-! ## Errors with any engine -/

/-- The errors that compiling returns, or some way of asking a pattern for a match, with some engine
and memory. -/
inductive Raised (l : Library) (e : Error) : Prop where
  | compile {source : String} {options : CompileOptions} :
      l.compile source options = .error e → Raised l e
  | text {p : Pattern} {subject : String} {start : Nat} :
      p.textRequest subject start >>= l.exec p = .error e → Raised l e
  | bytes {p : Pattern} {subject : ByteArray} {start : Nat} {options : MatchOptions} :
      Pattern.bytesRequest subject start options >>= l.exec p = .error e → Raised l e
  | terminated {p : Pattern} {buffer : ByteArray} {start : Nat} {options : MatchOptions} :
      Pattern.bytesRequest (Pattern.untilNul buffer) start options >>= l.exec p = .error e →
        Raised l e
  /-- Here the caller need not keep the promise that goes with leaving out the check. -/
  | unchecked {p : Pattern} {subject : ByteArray} {start : Nat} {options : MatchOptions} :
      l.exec p ⟨subject, start, options⟩ = .error e → Raised l e

variable {l : Library} {p : Pattern} {e : Error}

theorem wellFormed_inSetup {code : Int} (low : code ≤ -3) : (Error.inSetup code).WellFormed :=
  .inPattern (Or.inl low) (describeErrorCode_ne_empty code) 0

theorem wellFormed_of_allocate {hasMemory : Bool} (eq : allocate hasMemory = .error e) :
    e.WellFormed := by
  unfold allocate at eq
  split_ifs at eq
  obtain rfl := Except.error.inj eq
  exact wellFormed_inSetup (by decide)

theorem wellFormed_of_compile (documented : l.Documented) {source : String}
    {options : CompileOptions} (eq : l.compile source options = .error e) : e.WellFormed := by
  unfold compile at eq
  rcases bind_eq_error eq with conflict | ⟨resolved, -, eq⟩
  · exact CompileOptions.wellFormed_of_resolve conflict
  rcases bind_eq_error eq with lack | ⟨_, -, eq⟩
  · exact wellFormed_of_allocate lack
  rcases bind_eq_error eq with lack | ⟨_, -, eq⟩
  · exact wellFormed_of_allocate lack
  rcases bind_eq_error eq with refused | ⟨context, -, eq⟩
  · -- the engine knows all conventions, so no setting is refused
    rw [CompileContext.ofOptions_eq] at refused
    cases refused
  rcases bind_eq_error eq with fault | ⟨program, -, eq⟩
  · unfold read at fault
    split at fault
    · cases fault
    · rename_i code offset made
      obtain rfl := Except.error.inj fault
      have range := documented.program _ _ _ _ _ made
      exact .inPattern (range.symm.imp_left And.right) (engineMessage_ne_empty code) offset
  rcases bind_eq_error eq with uncounted | ⟨_, -, eq⟩
  · unfold checkCount at uncounted
    split at uncounted
    · rename_i code counted
      obtain rfl := Except.error.inj uncounted
      exact wellFormed_inSetup (infoFaults_range code (documented.count program code counted))
    · cases uncounted
  · cases eq

theorem wellFormed_of_exec (documented : l.Documented) {request : Request}
    (eq : l.exec p request = .error e) : e.WellFormed := by
  unfold exec at eq
  split_ifs at eq
  · obtain rfl := Except.error.inj eq
    exact .ofMatching (by decide) (by decide)
  · -- the answer that counts is one of the engine's
    obtain ⟨asked, answered⟩ : ∃ asked,
        ((l.engine p.program).attempts request).answer = (l.engine p.program).run asked := by
      rw [Engine.answer_attempts]
      split_ifs
      · exact ⟨_, rfl⟩
      · exact ⟨_, rfl⟩
    unfold Engine.find at eq
    rw [answered, Answer.ofAnswer_eq] at eq
    split_ifs at eq with none failed
    obtain rfl := Except.error.inj eq
    have low : ((l.engine p.program).run asked).code < ErrorCode.partialMatch := by
      have no : ((l.engine p.program).run asked).code ≠ -1 := none
      have cut : ((l.engine p.program).run asked).code ≠ -2 := failed.2
      show _ < (-2 : Int)
      omega
    rcases documented.run p.program asked low with mem | defect
    · obtain ⟨low, high⟩ := matchFaults_range _ mem
      exact .ofMatching low high
    · exact .ofMatching (le_trans (by decide) defect.1) defect.2
  · obtain rfl := Except.error.inj eq
    exact .ofMatching (by decide) (by decide)

theorem wellFormed_of_bytes (documented : l.Documented) {subject : ByteArray} {start : Nat}
    {options : MatchOptions}
    (eq : Pattern.bytesRequest subject start options >>= l.exec p = .error e) : e.WellFormed := by
  rcases bind_eq_error eq with refused | ⟨request, -, eq⟩
  · unfold Pattern.bytesRequest at refused
    split_ifs at refused
    obtain rfl := Except.error.inj refused
    exact .ofOptions (by simp)
  · exact wellFormed_of_exec documented eq

theorem wellFormed_of_text (documented : l.Documented) {subject : String} {start : Nat}
    (eq : p.textRequest subject start >>= l.exec p = .error e) : e.WellFormed := by
  rcases bind_eq_error eq with refused | ⟨request, -, eq⟩
  · unfold Pattern.textRequest at refused
    extract_lets bytes at refused
    split_ifs at refused
    obtain rfl := Except.error.inj refused
    exact .ofMatching (by decide) (by decide)
  · exact wellFormed_of_exec documented eq

end Library

namespace Pattern

variable {e : Error}

/-- The errors that compiling returns, or some way of asking a pattern for a match. -/
inductive Raised (e : Error) : Prop where
  | compile {source : String} {options : CompileOptions} :
      Pattern.compile source options = .error e → Raised e
  | text {p : Pattern} {subject : String} {start : Nat} :
      p.firstMatch subject start = .error e → Raised e
  | bytes {p : Pattern} {subject : ByteArray} {start : Nat} {options : MatchOptions} :
      p.firstMatchBytes subject start options = .error e → Raised e
  | terminated {p : Pattern} {buffer : ByteArray} {start : Nat} {options : MatchOptions} :
      p.firstMatchTerminated buffer start options = .error e → Raised e
  | unchecked {p : Pattern} {subject : ByteArray} {start : Nat} {options : MatchOptions} :
      p.firstMatchUnchecked subject start options = .error e → Raised e

/-- A pattern is compiled and matched with the engine that is defined here. -/
theorem Raised.ample (raised : Raised e) : Library.ample.Raised e := by
  cases raised with
  | compile eq => exact .compile eq
  | text eq => exact .text eq
  | bytes eq => exact .bytes eq
  | terminated eq => exact .terminated eq
  | unchecked eq => exact .unchecked eq

/-- **Every error that is returned is well-formed**, with every engine that fails with the
documented numbers, whenever it does so and however little memory there is.  The engine that
patterns are compiled and matched with here is one of these. -/
theorem wellFormed_of_raised {l : Library} (documented : l.Documented) :
    (∀ e, l.Raised e → e.WellFormed) ∧ Library.ample.Documented ∧
      ∀ e, Raised e → Library.ample.Raised e := by
  refine ⟨fun e raised => ?_, Library.documented_ample, fun e raised => raised.ample⟩
  cases raised with
  | compile eq => exact Library.wellFormed_of_compile documented eq
  | text eq => exact Library.wellFormed_of_text documented eq
  | bytes eq => exact Library.wellFormed_of_bytes documented eq
  | terminated eq => exact Library.wellFormed_of_bytes documented eq
  | unchecked eq => exact Library.wellFormed_of_exec documented eq

/-- A match that is given up, as an interpreted pattern is allowed no steps, and a pattern that is
not compiled for want of memory. -/
theorem wellFormed_of_raised_matchLimit :
    (∃ p e, compile "(*NO_JIT)(*LIMIT_MATCH=0)a" .empty = .ok p ∧
      p.firstMatch "a" 0 = .error e ∧ e.WellFormed ∧ e.message = "match limit exceeded") ∧
    ∃ e, Library.compile { Library.ample with hasContext := false } "a" .empty = .error e ∧
      e.WellFormed ∧ e.display = "no more memory at offset 0" := by
  constructor
  · obtain ⟨p, compiled⟩ := eq_ok_of_isOk (x := compile "(*NO_JIT)(*LIMIT_MATCH=0)a" .empty)
      (by decide +kernel)
    have given : (compile "(*NO_JIT)(*LIMIT_MATCH=0)a" .empty >>= (·.firstMatch "a" 0)) =
        .error (.ofCode .matching ErrorCode.matchLimit) := by
      decide +kernel
    rw [compiled] at given
    have given : p.firstMatch "a" 0 = .error (.ofCode .matching ErrorCode.matchLimit) := given
    obtain ⟨wellFormed, -, ample⟩ := wellFormed_of_raised Library.documented_ample
    exact ⟨p, _, compiled, given, wellFormed _ (ample _ (.text given)), by decide⟩
  · have documented : Library.Documented { Library.ample with hasContext := false } :=
      ⟨Library.documented_ample.program, Library.documented_ample.count,
        Library.documented_ample.run⟩
    have given : Library.compile { Library.ample with hasContext := false } "a" .empty =
        .error (.inSetup ErrorCode.noMemory) := rfl
    exact ⟨_, given, (wellFormed_of_raised documented).1 _ (.compile given), by decide⟩

end Pattern

end Regex
