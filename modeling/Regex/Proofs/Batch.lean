import Mathlib.Data.List.TakeWhile
import Regex.Proofs.Command

/-!
# Batches

A run of the command matches its subjects one after another, up to the first whose match fails.
Seen from outside, it is the sequence of the runs with one of these subjects each.

* `errorOf`: the error that the match of a subject comes to.
* `Sliceable`: subjects in which no range that is found ends before it starts, which are those whose
  match is not turned.
* `Batch.ofSubjects_cons_of_error`, `Batch.ofSubjects_cons`: the first subject of a batch.
* `Batch.sequence`: what a batch prints, whether something has matched, and why it fails.
* `Batch.exit_sequence`: the exit code of a batch that does not fail.
* `IsSequence`: what a run has to do with the runs for one subject each.
* `run_sequence`: every run is such a sequence; if its pattern does not compile, it prints nothing
  and reads nothing.
-/

namespace Regex.Command

/-- The error that the match of a subject comes to, if it comes to one. -/
def errorOf (p : Pattern) (settings : Settings) (text : String) : Option Error :=
  match p.firstMatchBytes text.toUTF8 settings.startOffset settings.matchOptions with
  | .error e => some e
  | .ok _ => none

/-- No range that is found in a subject ends before it starts. -/
def Sliceable (p : Pattern) (settings : Settings) (text : String) : Prop :=
  ∀ c, p.firstMatchBytes text.toUTF8 settings.startOffset settings.matchOptions = .ok (some c) →
    ∀ r, some r ∈ c.ranges → r.start ≤ r.stop

section Subject

variable {p : Pattern} {settings : Settings} {text : String}

theorem errorOf_eq_some {e : Error} : errorOf p settings text = some e ↔
    p.firstMatchBytes text.toUTF8 settings.startOffset settings.matchOptions = .error e := by
  unfold errorOf
  cases p.firstMatchBytes text.toUTF8 settings.startOffset settings.matchOptions with
  | error e' => simp
  | ok found => simp

theorem errorOf_eq_none : errorOf p settings text = none ↔ ∃ found,
    p.firstMatchBytes text.toUTF8 settings.startOffset settings.matchOptions = .ok found := by
  unfold errorOf
  cases p.firstMatchBytes text.toUTF8 settings.startOffset settings.matchOptions with
  | error e => simp
  | ok found => simp

/-- The range of the whole match is the only one that can be turned. -/
theorem sliceable_iff (placed : p.program.groups.Placed) :
    Sliceable p settings text ↔ ¬Turned p settings text := by
  constructor
  · rintro sliceable ⟨c, found, turned⟩
    have whole := ((Pattern.Finds.bytes found).fit placed).whole.1
    have mem : some c.whole ∈ c.ranges := List.mem_of_getElem? (Option.join_eq_some_iff.mp whole)
    exact absurd (sliceable c found c.whole mem) (Nat.not_le.mpr turned)
  · intro straight c found r mem
    have fit := (Pattern.Finds.bytes found).fit placed
    obtain ⟨i, entry⟩ := List.mem_iff_getElem?.mp mem
    have set : c.get i = some r := by rw [Captures.get, entry, Option.join_some]
    cases i with
    | zero =>
        obtain rfl : c.whole = r := Option.some.inj (fit.whole.1.symm.trans set)
        exact Nat.not_lt.mp fun turned => straight ⟨c, found, turned⟩
    | succ i => exact (fit.ordered (i + 1) r (Nat.le_add_left 1 i) set).1

/-- If no assertion moves the start of a match, no match is turned. -/
theorem sliceable_of_steady (placed : p.program.groups.Placed) (steady : p.program.groups.Steady) :
    Sliceable p settings text := by
  apply (sliceable_iff placed).mpr
  rintro ⟨c, found, turned⟩
  exact absurd ((Pattern.Finds.bytes found).starts placed steady).2 (Nat.not_le.mpr turned)

end Subject

/-! ## Batches of subjects -/

namespace Batch

variable {p : Pattern} {settings : Settings} {text : String}

/-- A subject whose match fails prints nothing. -/
theorem ofSubject_of_error {e : Error} (error : errorOf p settings text = some e) :
    ofSubject p settings text = ⟨[], false, records p settings text, some (.error e)⟩ := by
  unfold ofSubject
  rw [errorOf_eq_some.mp error]

/-- A subject that can be shown fails only if its match does. -/
theorem failure_ofSubject_of_sliceable (placed : p.program.groups.Placed)
    (sliceable : Sliceable p settings text) (fine : errorOf p settings text = none) :
    (ofSubject p settings text).failure = none := by
  obtain ⟨found, answered⟩ := errorOf_eq_none.mp fine
  rcases @failure_ofSubject p settings text placed with
    ⟨e, error, -⟩ | ⟨turned, -⟩ | ⟨-, failure, -⟩
  · rw [answered] at error
    cases error
  · exact absurd turned ((sliceable_iff placed).mp sliceable)
  · exact failure

/-- Nothing follows a subject whose match fails. -/
theorem ofSubjects_cons_of_error {e : Error} (error : errorOf p settings text = some e)
    (rest : List (Option String)) :
    ofSubjects p settings (some text :: rest) = ofSubject p settings text := by
  unfold ofSubjects append
  rw [ofSubject_of_error error]

/-- After any other subject the batch goes on with the rest. -/
theorem ofSubjects_cons (fine : (ofSubject p settings text).failure = none)
    (rest : List (Option String)) :
    ofSubjects p settings (some text :: rest) =
      ⟨(ofSubject p settings text).lines ++ (ofSubjects p settings rest).lines,
        (ofSubject p settings text).matched || (ofSubjects p settings rest).matched,
        (ofSubject p settings text).log ++ (ofSubjects p settings rest).log,
        (ofSubjects p settings rest).failure⟩ := by
  rw [ofSubjects, append, fine]

/-- A subject whose match fails ends a batch, behind others that do not fail. -/
theorem ofSubjects_append_of_error {e : Error} (error : errorOf p settings text = some e)
    {before : List String}
    (fine : ∀ earlier ∈ before, (ofSubject p settings earlier).failure = none)
    (rest : List (Option String)) :
    let batch := ofSubjects p settings (before.map some ++ some text :: rest)
    batch.lines = before.flatMap (fun earlier => (ofSubject p settings earlier).lines) ∧
      batch.failure = some (.error e) := by
  dsimp only
  induction before with
  | nil =>
      rw [List.map_nil, List.nil_append, ofSubjects_cons_of_error error, ofSubject_of_error error]
      exact ⟨rfl, rfl⟩
  | cons first before ih =>
      rw [List.forall_mem_cons] at fine
      obtain ⟨lines, failure⟩ := ih fine.2
      rw [List.map_cons, List.cons_append, ofSubjects_cons fine.1, List.flatMap_cons]
      exact ⟨by rw [lines], failure⟩

/-- A batch of one subject. -/
theorem ofSubjects_singleton (p : Pattern) (settings : Settings) (text : String) :
    ofSubjects p settings [some text] = ofSubject p settings text := by
  cases failure : (ofSubject p settings text).failure with
  | some f => simp [ofSubjects, append, failure]
  | none =>
      rw [ofSubjects_cons failure, ofSubjects, List.append_nil, List.append_nil, Bool.or_false,
        ← failure]

/-- **A batch is the sequence of its subjects.**  It prints what is printed for each subject before
the first whose match fails, and fails as that one does; something has matched if one of those
before it has. -/
theorem sequence (placed : p.program.groups.Placed) (subjects : List String)
    (sliceable : ∀ text ∈ subjects, Sliceable p settings text) :
    let before := subjects.takeWhile fun text => (errorOf p settings text).isNone
    let batch := ofSubjects p settings (subjects.map some)
    batch.lines = before.flatMap (fun text => (ofSubject p settings text).lines) ∧
      batch.matched = before.any (fun text => (ofSubject p settings text).matched) ∧
      batch.failure = (subjects.findSome? (errorOf p settings)).map .error := by
  dsimp only
  induction subjects with
  | nil => exact ⟨rfl, rfl, rfl⟩
  | cons text rest ih =>
      obtain ⟨lines, matched, failure⟩ :=
        ih fun later mem => sliceable later (List.mem_cons_of_mem text mem)
      rw [List.map_cons, List.takeWhile_cons, List.findSome?_cons]
      cases error : errorOf p settings text with
      | some e =>
          rw [ofSubjects_cons_of_error error, ofSubject_of_error error]
          exact ⟨rfl, rfl, rfl⟩
      | none =>
          have fine := failure_ofSubject_of_sliceable placed
            (sliceable text List.mem_cons_self) error
          rw [ofSubjects_cons fine]
          simp only [Option.isNone_none, if_true, List.flatMap_cons, List.any_cons]
          exact ⟨by rw [lines], by rw [matched], failure⟩

/-- The exit code of a batch that does not fail. -/
theorem exit_of_answered {b : Batch} (fine : b.failure = none) :
    b.exit = if b.matched then 0 else 1 := by
  unfold exit
  rw [fine]

/-- One subject succeeds if it has matched. -/
theorem exit_ofSubject (placed : p.program.groups.Placed) (sliceable : Sliceable p settings text) :
    (ofSubject p settings text).exit = 0 ↔ (ofSubject p settings text).matched = true := by
  cases error : errorOf p settings text with
  | some e => simp [ofSubject_of_error error, exit]
  | none =>
      rw [exit_of_answered (failure_ofSubject_of_sliceable placed sliceable error)]
      split_ifs with matched
      · simp [matched]
      · simp [matched]

/-- It has matched if a match was found, whole or partial. -/
theorem matched_ofSubject (p : Pattern) (settings : Settings) (text : String) :
    (ofSubject p settings text).matched = true ↔ ∃ c,
      p.firstMatchBytes text.toUTF8 settings.startOffset settings.matchOptions =
        .ok (some c) := by
  unfold ofSubject
  cases p.firstMatchBytes text.toUTF8 settings.startOffset settings.matchOptions with
  | error e => simp
  | ok found => simp [Option.isSome_iff_exists]

/-- If no match fails, a batch succeeds if and only if one of its subjects does. -/
theorem exit_sequence (placed : p.program.groups.Placed) (subjects : List String)
    (sliceable : ∀ text ∈ subjects, Sliceable p settings text)
    (fine : subjects.findSome? (errorOf p settings) = none) :
    let batch := ofSubjects p settings (subjects.map some)
    (batch.exit = 0 ∨ batch.exit = 1) ∧
      (batch.exit = 0 ↔ ∃ text ∈ subjects, (ofSubject p settings text).exit = 0) := by
  obtain ⟨-, matched, failure⟩ := sequence placed subjects sliceable
  -- none of the subjects is left out
  have all : (subjects.takeWhile fun text => (errorOf p settings text).isNone) = subjects := by
    apply List.takeWhile_eq_self_iff.mpr
    intro text mem
    exact Option.isNone_iff_eq_none.mpr (List.findSome?_eq_none_iff.mp fine text mem)
  have one : (∃ text ∈ subjects, (ofSubject p settings text).exit = 0) ↔
      (subjects.any fun text => (ofSubject p settings text).matched) = true := by
    rw [List.any_eq_true]
    refine exists_congr fun text => and_congr_right fun mem => ?_
    exact exit_ofSubject placed (sliceable text mem)
  rw [fine, Option.map_none] at failure
  rw [all] at matched
  dsimp only
  rw [exit_of_answered failure, matched, one]
  split_ifs with any
  · exact ⟨Or.inl rfl, by simp [any]⟩
  · exact ⟨Or.inr rfl, by simp [any]⟩

end Batch

/-! ## Runs -/

theorem linesText_append (lines lines' : List String) :
    linesText (lines ++ lines') = linesText lines ++ linesText lines' := by
  unfold linesText
  rw [List.map_append, String.join_append]

theorem linesText_flatMap {α : Type} (list : List α) (lines : α → List String) :
    linesText (list.flatMap lines) = String.join (list.map fun a => linesText (lines a)) := by
  induction list with
  | nil => rfl
  | cons a rest ih =>
      rw [List.flatMap_cons, linesText_append, ih, List.map_cons, String.join_cons]

/-- What a run with some subjects has to do with the runs for one subject each. -/
structure IsSequence (p : Pattern) (settings : Settings) (single : String → Outcome)
    (subjects : List String) (whole : Outcome) : Prop where
  /-- It prints what they print for the subjects before the first whose match fails. -/
  stdout : whole.stdout =
    String.join ((subjects.takeWhile fun text => (errorOf p settings text).isNone).map fun text =>
      (single text).stdout)
  /-- It fails as the match of that subject does, whatever has matched before. -/
  failed : ∀ e, subjects.findSome? (errorOf p settings) = some e →
    whole.exit = 2 ∧ ∃ log, whole.stderr = log ++ ("pcregex: " ++ e.display ++ "\n")
  /-- If there is none, it succeeds if and only if one of them does. -/
  answered : subjects.findSome? (errorOf p settings) = none →
    (whole.exit = 0 ∨ whole.exit = 1) ∧
      (whole.exit = 0 ↔ ∃ text ∈ subjects, (single text).exit = 0)
  /-- One of them succeeds if and only if its subject has a match, whole or partial. -/
  matched : ∀ text ∈ subjects, (single text).exit = 0 ↔ ∃ c,
    p.firstMatchBytes text.toUTF8 settings.startOffset settings.matchOptions = .ok (some c)

section Run

variable {settings : Settings} {source : String} {shown : LogRecord → Bool}

/-- The last line that tells of an error is the error itself. -/
theorem linesText_failureLines_error (shown : LogRecord → Bool) (e : Error) :
    ∃ log, linesText (failureLines shown (.error e)) =
      log ++ ("pcregex: " ++ e.display ++ "\n") := by
  unfold failureLines
  exact ⟨_, linesText_append _ _⟩

/-- What a run leaves behind if its pattern compiles. -/
theorem search_of_compile {p : Pattern}
    (compiled : Pattern.compile source settings.compileOptions = .ok p)
    (subjects : List (Option String)) :
    let batch := Batch.ofSubjects p settings subjects
    (search settings source subjects shown).exit = batch.exit ∧
      (search settings source subjects shown).stdout = linesText batch.lines ∧
      ∃ log, (search settings source subjects shown).stderr =
        log ++ linesText ((batch.failure.map (failureLines shown)).getD []) := by
  unfold search
  rw [compiled]
  exact ⟨rfl, rfl, _, linesText_append _ _⟩

/-- A run with some subjects is the sequence of the runs with one of them each. -/
theorem isSequence_search {p : Pattern}
    (compiled : Pattern.compile source settings.compileOptions = .ok p) (subjects : List String)
    (sliceable : ∀ text ∈ subjects, Sliceable p settings text) :
    IsSequence p settings (fun text => search settings source [some text] shown) subjects
      (search settings source (subjects.map some) shown) := by
  have placed := Pattern.placed_of_compile compiled
  have single : ∀ text, (search settings source [some text] shown).exit =
        (Batch.ofSubject p settings text).exit ∧
      (search settings source [some text] shown).stdout =
        linesText (Batch.ofSubject p settings text).lines := by
    intro text
    obtain ⟨exit, stdout, -⟩ := @search_of_compile settings source shown p compiled [some text]
    rw [Batch.ofSubjects_singleton] at exit stdout
    exact ⟨exit, stdout⟩
  obtain ⟨exit, stdout, log, stderr⟩ :=
    @search_of_compile settings source shown p compiled (subjects.map some)
  obtain ⟨lines, matched, failure⟩ := Batch.sequence placed subjects sliceable
  constructor
  · rw [stdout, lines, linesText_flatMap]
    simp only [single]
  · intro e found
    rw [found, Option.map_some] at failure
    obtain ⟨log', shows⟩ := linesText_failureLines_error shown e
    constructor
    · rw [exit, Batch.exit, failure]
    · refine ⟨log ++ log', ?_⟩
      rw [stderr, failure, Option.map_some, Option.getD_some, shows, ← String.append_assoc]
  · intro fine
    simp only [single]
    rw [exit]
    exact Batch.exit_sequence placed subjects sliceable fine
  · intro text mem
    rw [(single text).1, Batch.exit_ofSubject placed (sliceable text mem),
      Batch.matched_ofSubject]

/-- What a run makes of its subjects; the log filter has no part in it. -/
theorem run_of_asked {arguments : List (List UInt8)} {given : List String}
    (asked : Invocation.ofArguments arguments = .ok ⟨settings, .search source given⟩)
    (input : List UInt8) (filter : Option String) (shown : LogRecord → Bool) :
    (run arguments input filter).exit =
        (search settings source (subjectsOf given input) shown).exit ∧
      (run arguments input filter).stdout =
        (search settings source (subjectsOf given input) shown).stdout := by
  unfold run
  rw [asked]
  dsimp only
  unfold search subjectsOf
  cases Pattern.compile source settings.compileOptions with
  | error e => exact ⟨rfl, rfl⟩
  | ok p => exact ⟨rfl, rfl⟩

/-- What a run says of its subjects ends its error output. -/
theorem stderr_run_of_asked {arguments : List (List UInt8)} {given : List String}
    (asked : Invocation.ofArguments arguments = .ok ⟨settings, .search source given⟩)
    (input : List UInt8) (filter : Option String) : ∃ shown log,
      (run arguments input filter).stderr =
        log ++ (search settings source (subjectsOf given input) shown).stderr := by
  unfold run
  rw [asked]
  exact ⟨_, _, rfl⟩

/-- A run that does not read its input does not depend on it. -/
theorem run_of_not_readsInput {arguments : List (List UInt8)}
    (unread : readsInput arguments = false) (input input' : List UInt8) (filter : Option String) :
    run arguments input filter = run arguments input' filter := by
  unfold readsInput at unread
  unfold run
  cases asked : Invocation.ofArguments arguments with
  | error e => rfl
  | ok invocation =>
      obtain ⟨settings, mode⟩ := invocation
      rw [asked] at unread
      cases mode with
      | help => rfl
      | describe code => rfl
      | search source given =>
          cases given with
          | cons first rest => rfl
          | nil =>
              -- then the pattern does not compile, and subjects are not looked at
              have refused : (Pattern.compile source settings.compileOptions).isOk = false := unread
              dsimp only
              unfold search
              cases compiled : Pattern.compile source settings.compileOptions with
              | error e => rfl
              | ok p =>
                  rw [compiled] at refused
                  cases refused

/-- **A run is the sequence of the runs with one of its subjects each.**  If the pattern does not
compile, nothing is printed, the subjects are not looked at, and no line of the input is read. -/
theorem run_sequence (settings : Settings) (source : String) (shown : LogRecord → Bool) :
    (∀ p, Pattern.compile source settings.compileOptions = .ok p → ∀ subjects : List String,
      (∀ text ∈ subjects, Sliceable p settings text) →
        IsSequence p settings (fun text => search settings source [some text] shown) subjects
          (search settings source (subjects.map some) shown)) ∧
    (∀ e, Pattern.compile source settings.compileOptions = .error e →
      (∀ subjects, search settings source subjects shown =
        ⟨2, "", linesText (failureLines shown (.error e))⟩) ∧
      ∀ arguments given,
        Invocation.ofArguments arguments = .ok ⟨settings, .search source given⟩ →
          readsInput arguments = false ∧ ∀ input input' filter,
            run arguments input filter = run arguments input' filter) ∧
    ∀ arguments given input filter,
      Invocation.ofArguments arguments = .ok ⟨settings, .search source given⟩ →
        (run arguments input filter).exit =
            (search settings source (subjectsOf given input) shown).exit ∧
          (run arguments input filter).stdout =
            (search settings source (subjectsOf given input) shown).stdout := by
  refine ⟨fun p compiled subjects sliceable => isSequence_search compiled subjects sliceable,
    fun e refused => ⟨fun subjects => ?_, fun arguments given asked => ?_⟩,
    fun arguments given input filter asked => run_of_asked asked input filter shown⟩
  · unfold search
    rw [refused]
  · have unread : readsInput arguments = false := by
      unfold readsInput
      rw [asked]
      cases given with
      | cons first rest => rfl
      | nil =>
          show (Pattern.compile source settings.compileOptions).isOk = false
          rw [refused]
          rfl
    exact ⟨unread, run_of_not_readsInput unread⟩

/-- The third subject is too short for the start.  It does not help that the second one has matched,
and the last one is not reached. -/
theorem run_sequence_short : ∃ p, Pattern.compile "\\G$(b)?" .empty = .ok p ∧
    let settings : Settings := ⟨.empty, .empty, 1, 0⟩
    let whole := search settings "\\G$(b)?" (["xa", "b", "", "c"].map some) fun _ => false
    whole.stdout = "xa: no match\nb: match\n  0: 1..1 \"\"\n  1: unset\n" ∧ whole.exit = 2 := by
  obtain ⟨p, compiled⟩ := eq_ok_of_isOk (x := Pattern.compile "\\G$(b)?" .empty) (by decide +kernel)
  have placed := Pattern.placed_of_compile compiled
  have steady := Pattern.steady_of_compile compiled (Or.inl (by decide +kernel))
  let settings : Settings := ⟨.empty, .empty, 1, 0⟩
  have fails : ((Pattern.compile "\\G$(b)?" .empty).map fun p =>
      (["xa", "b", "", "c"].takeWhile fun text => (errorOf p settings text).isNone,
        ["xa", "b", "", "c"].findSome? (errorOf p settings))) =
      .ok (["xa", "b"], some (.ofCode .matching ErrorCode.badOffset)) := by
    decide +kernel
  rw [compiled] at fails
  obtain ⟨before, first⟩ := Prod.mk.inj (Except.ok.inj fails)
  have sequence := (run_sequence settings "\\G$(b)?" fun _ => false).1 p compiled
    ["xa", "b", "", "c"] fun text _ => sliceable_of_steady placed steady
  refine ⟨p, compiled, ?_, (sequence.failed _ first).1⟩
  rw [sequence.stdout, before]
  decide +kernel

end Run

end Regex.Command
