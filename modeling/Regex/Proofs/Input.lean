import Regex.Proofs.Batch
import Regex.Proofs.Text.Lossless

/-!
# Subjects in the input

Without subjects among its arguments, the command takes the lines of its input.  What it does with
them must not depend on the way they came, nor on how each line is ended.

* `Written`: how lines stand in an input.
* `inputLines_of_written`: lines that can be told from their ends are what is found in it.
* `written_inputLines`: whatever the input, the lines that are found stand in it.
* `Batch.ofSubjects_cut`: a line that is no text ends a batch, and changes nothing before it.
* `CutShort`: what such a line makes of a run.
* `run_input`: lines of the input are subjects like others, up to the first that is no text.
-/

namespace Regex.Command

/-- How a line is ended. -/
inductive LineEnd where
  | feed
  | returnAndFeed

/-- The bytes that end a line. -/
def LineEnd.bytes : LineEnd → List UInt8
  | feed => [0x0A]
  | returnAndFeed => [0x0D, 0x0A]

/-- Lines that stand in an input one after another, each with an end; the last one may go without if
it is not empty. -/
inductive Written : List (List UInt8) → List UInt8 → Prop where
  | nil : Written [] []
  | unended {line : List UInt8} : line ≠ [] → Written [line] line
  | ended (line : List UInt8) {lines : List (List UInt8)} {rest : List UInt8} (last : LineEnd) :
      Written lines rest → Written (line :: lines) (line ++ last.bytes ++ rest)

namespace inputLines

theorem split_cons {b : UInt8} (other : b ≠ 0x0A) (line rest : List UInt8) :
    split line (b :: rest) = split (b :: line) rest := by
  rw [split.eq_def]
  exact if_neg other

/-- A line feed ends the line at hand, with a carriage return before it if there is one. -/
theorem split_returnAndFeed (line rest : List UInt8) :
    split (0x0D :: line) (0x0A :: rest) = line.reverse :: split [] rest := by
  rw [split.eq_def]
  rfl

theorem split_feed {line : List UInt8} (noReturn : line.head? ≠ some 0x0D) (rest : List UInt8) :
    split line (0x0A :: rest) = line.reverse :: split [] rest := by
  rw [split.eq_def]
  dsimp only
  rw [if_pos rfl]
  split
  · exact absurd rfl noReturn
  · rfl

/-- Bytes without a line feed only lengthen the line at hand. -/
theorem split_append {line : List UInt8} (noFeed : 0x0A ∉ line) (before rest : List UInt8) :
    split before (line ++ rest) = split (line.reverse ++ before) rest := by
  induction line generalizing before with
  | nil => rfl
  | cons b line ih =>
      rw [List.mem_cons, not_or] at noFeed
      rw [List.cons_append, split_cons (Ne.symm noFeed.1), ih noFeed.2]
      simp

/-- A line is complete at its end. -/
theorem split_end {line : List UInt8} (noReturn : line.getLast? ≠ some 0x0D) (last : LineEnd)
    (rest : List UInt8) : split line.reverse (last.bytes ++ rest) = line :: split [] rest := by
  cases last with
  | feed =>
      rw [List.getLast?_eq_head?_reverse] at noReturn
      rw [LineEnd.bytes, List.singleton_append, split_feed noReturn, List.reverse_reverse]
  | returnAndFeed =>
      rw [LineEnd.bytes, List.cons_append, List.singleton_append, split_cons (by decide),
        split_returnAndFeed, List.reverse_reverse]

/-- What is found in the bytes after some that belong to an unfinished line. -/
theorem written_split (before rest : List UInt8) (noFeed : 0x0A ∉ before) :
    Written (split before rest) (before.reverse ++ rest) ∧
      ∀ line ∈ split before rest, 0x0A ∉ line := by
  induction rest generalizing before with
  | nil =>
      rw [split, List.append_nil]
      split_ifs with empty
      · rw [List.isEmpty_iff] at empty
        subst empty
        exact ⟨.nil, by simp⟩
      · exact ⟨.unended (by simpa using empty), by simpa using noFeed⟩
  | cons b rest ih =>
      by_cases feed : b = 0x0A
      · subst feed
        obtain ⟨written, plain⟩ := ih [] (by simp)
        have ended := fun line last => Written.ended line last written
        -- the line feed takes a carriage return with it
        by_cases returned : before.head? = some 0x0D
        · obtain ⟨line, rfl⟩ := List.head?_eq_some_iff.mp returned
          rw [List.mem_cons, not_or] at noFeed
          rw [split_returnAndFeed]
          constructor
          · simpa [LineEnd.bytes] using ended line.reverse .returnAndFeed
          · simpa using ⟨noFeed.2, plain⟩
        · rw [split_feed returned]
          constructor
          · simpa [LineEnd.bytes] using ended before.reverse .feed
          · simpa using ⟨noFeed, plain⟩
      · have noFeed : 0x0A ∉ b :: before := by
          rw [List.mem_cons, not_or]
          exact ⟨Ne.symm feed, noFeed⟩
        rw [split_cons feed]
        simpa using ih (b :: before) noFeed

end inputLines

/-- **Lines that stand in an input are found in it**, if they can be told from their ends. -/
theorem inputLines_of_written {lines : List (List UInt8)} {input : List UInt8}
    (written : Written lines input)
    (plain : ∀ line ∈ lines, 0x0A ∉ line ∧ line.getLast? ≠ some 0x0D) :
    inputLines input = lines := by
  unfold inputLines
  induction written with
  | nil => rfl
  | @unended line some =>
      have noFeed := (plain line List.mem_cons_self).1
      have found := inputLines.split_append noFeed [] []
      rw [List.append_nil, List.append_nil] at found
      rw [found, inputLines.split, if_neg (by simpa using some), List.reverse_reverse]
  | ended line last written ih =>
      obtain ⟨noFeed, noReturn⟩ := plain line List.mem_cons_self
      rw [List.append_assoc, inputLines.split_append noFeed, List.append_nil,
        inputLines.split_end noReturn, ih fun line mem => plain line (List.mem_cons_of_mem _ mem)]

/-- **The lines that are found in an input stand in it**, whatever it is. -/
theorem written_inputLines (input : List UInt8) :
    Written (inputLines input) input ∧ ∀ line ∈ inputLines input, 0x0A ∉ line :=
  inputLines.written_split [] input (by simp)

theorem map_text?_encode (texts : List String) :
    (texts.map Utf8.encode).map Utf8.text? = texts.map some := by
  rw [List.map_map]
  apply List.map_congr_left
  intro text _
  exact Utf8.text?_encode text

/-- The lines of texts, read back as texts. -/
theorem subjectsOf_written {subjects : List String} {input : List UInt8}
    (written : Written (subjects.map Utf8.encode) input)
    (plain : ∀ text ∈ subjects, '\n' ∉ text.toList ∧ text.toList.getLast? ≠ some '\r') :
    subjectsOf [] input = subjects.map some := by
  have lines : inputLines input = subjects.map Utf8.encode := by
    apply inputLines_of_written written
    intro line mem
    obtain ⟨text, given, rfl⟩ := List.mem_map.mp mem
    obtain ⟨noFeed, noReturn⟩ := plain text given
    constructor
    · intro feed
      exact noFeed ((Utf8.mem_encode (c := '\n') (by decide)).mp feed)
    · intro last
      exact noReturn ((Utf8.getLast?_encode (c := '\r') (by decide)).mp last)
  show (inputLines input).map Utf8.text? = subjects.map some
  rw [lines, map_text?_encode]

/-! ## A line that is no text -/

/-- A line that is no text is the failure of a batch, unless there is one before it. -/
theorem Batch.ofSubjects_cut (p : Pattern) (settings : Settings) (before : List String)
    (after : List (Option String)) :
    ofSubjects p settings (before.map some ++ none :: after) =
      { ofSubjects p settings (before.map some) with
        failure := (ofSubjects p settings (before.map some)).failure.or (some .notText) } := by
  induction before with
  | nil => rfl
  | cons text rest ih =>
      rw [List.map_cons, List.cons_append, ofSubjects, ofSubjects, ih]
      unfold append
      cases failure : (ofSubject p settings text).failure with
      | none => rfl
      | some f =>
          dsimp only
          rw [failure, Option.some_or, ← failure]

/-- What becomes of a run if a line follows that is no text. -/
structure CutShort (before whole : Outcome) : Prop where
  /-- Whatever is printed for the lines before it stands. -/
  stdout : whole.stdout = before.stdout
  exit : whole.exit = 2
  /-- An error before it is the error of the run. -/
  failed : before.exit = 2 → whole = before
  /-- Otherwise the line is. -/
  answered : before.exit ≠ 2 → ∃ log,
    whole.stderr = before.stderr ++ log ++ "pcregex: stream did not contain valid UTF-8\n"

/-- Texts before the first whose match fails can be shown, so that is the only failure. -/
theorem Batch.failure_ofSubjects {p : Pattern} {settings : Settings}
    (placed : p.program.groups.Placed) {subjects : List String}
    (sliceable : ∀ text ∈ subjects.takeWhile fun text => (errorOf p settings text).isNone,
      Sliceable p settings text) :
    (ofSubjects p settings (subjects.map some)).failure = none ∨
      ∃ e, (ofSubjects p settings (subjects.map some)).failure = some (.error e) := by
  induction subjects with
  | nil => exact Or.inl rfl
  | cons text rest ih =>
      rw [List.map_cons]
      cases error : errorOf p settings text with
      | some e =>
          rw [ofSubjects_cons_of_error error, ofSubject_of_error error]
          exact Or.inr ⟨e, rfl⟩
      | none =>
          rw [List.takeWhile_cons, error, Option.isNone_none, if_pos rfl, List.forall_mem_cons]
            at sliceable
          have fine := failure_ofSubject_of_sliceable placed sliceable.1 error
          rw [ofSubjects_cons fine]
          exact ih sliceable.2

/-- **A line that is no text cuts a run short.** -/
theorem cutShort_search {settings : Settings} {source : String} {before : List String}
    (sliceable : ∀ p, Pattern.compile source settings.compileOptions = .ok p →
      ∀ text ∈ before.takeWhile fun text => (errorOf p settings text).isNone,
        Sliceable p settings text)
    (after : List (Option String)) (shown : LogRecord → Bool) :
    CutShort (search settings source (before.map some) shown)
      (search settings source (before.map some ++ none :: after) shown) := by
  unfold search
  cases compiled : Pattern.compile source settings.compileOptions with
  | error e => exact ⟨rfl, rfl, fun _ => rfl, fun no => absurd rfl no⟩
  | ok p =>
      have placed := Pattern.placed_of_compile compiled
      dsimp only
      rw [Batch.ofSubjects_cut]
      rcases Batch.failure_ofSubjects placed (sliceable p compiled) with failure | ⟨e, failure⟩
      · rw [failure, Option.none_or]
        constructor
        case stdout => rfl
        case exit => rfl
        case failed =>
          intro failed
          have two : (Batch.ofSubjects p settings (before.map some)).exit = 2 := failed
          rw [Batch.exit_of_answered failure] at two
          split_ifs at two
          cases two
        case answered =>
          intro _
          dsimp only [Option.map_some, Option.map_none, Option.getD_some, Option.getD_none]
          rw [List.append_nil, linesText_append]
          unfold failureLines
          rw [linesText_append, ← String.append_assoc]
          exact ⟨_, rfl⟩
      · rw [failure, Option.some_or, ← failure]
        constructor
        case stdout => rfl
        case exit =>
          unfold Batch.exit
          rw [failure]
        case failed => exact fun _ => rfl
        case answered =>
          intro no
          unfold Batch.exit at no
          rw [failure] at no
          exact absurd rfl no

/-! ## Runs -/

/-- A run that matches, the log filter and its warnings apart. -/
theorem run_eq_search {arguments : List (List UInt8)} {settings : Settings} {source : String}
    {given : List String}
    (asked : Invocation.ofArguments arguments = .ok ⟨settings, .search source given⟩)
    (input : List UInt8) (filter : Option String) :
    run arguments input filter =
      let shown := LogFilter.ofText (filter.getD (defaultFilter settings.verbose))
      let found := search settings source (subjectsOf given input) shown.1.shows
      { found with stderr := linesText shown.2 ++ found.stderr } := by
  unfold run
  rw [asked]
  rfl

/-- Warnings come first, whatever becomes of a run. -/
theorem CutShort.warn {before whole : Outcome} (short : CutShort before whole) (warnings : String) :
    CutShort { before with stderr := warnings ++ before.stderr }
      { whole with stderr := warnings ++ whole.stderr } := by
  constructor
  case stdout => exact short.stdout
  case exit => exact short.exit
  case failed =>
    intro failed
    rw [short.failed failed]
  case answered =>
    intro answered
    obtain ⟨log, eq⟩ := short.answered answered
    refine ⟨log, ?_⟩
    dsimp only
    rw [eq]
    simp only [String.append_assoc]

/-- A line that is no text, among the lines of an input. -/
theorem subjectsOf_cut {input bad : List UInt8} {before : List String} {after : List (List UInt8)}
    (lines : inputLines input = before.map Utf8.encode ++ bad :: after)
    (broken : ¬Utf8.WellFormed bad) :
    subjectsOf [] input = before.map some ++ none :: after.map Utf8.text? := by
  show (inputLines input).map Utf8.text? = _
  rw [lines, List.map_append, List.map_cons, Utf8.text?_eq_none.mpr broken, map_text?_encode]

/-- **Lines of the input are subjects like others.**  Texts that can be told from their ends give
the same run whether they stand in the input, however each of them is ended, or among the arguments.
A line that is no text cuts a run short: what is printed for the lines before it stands, nothing is
printed for it or for later ones, and it is an error unless there is one before it.  A run without
lines prints nothing and has matched nothing. -/
theorem run_input (settings : Settings) (source : String) :
    (∀ (subjects : List String) (input : List UInt8), subjects ≠ [] →
      (∀ text ∈ subjects, '\n' ∉ text.toList ∧ text.toList.getLast? ≠ some '\r') →
      Written (subjects.map Utf8.encode) input →
        (∀ shown unread, search settings source (subjectsOf [] input) shown =
          search settings source (subjectsOf subjects unread) shown) ∧
        ∀ arguments arguments' unread filter,
          Invocation.ofArguments arguments = .ok ⟨settings, .search source []⟩ →
          Invocation.ofArguments arguments' = .ok ⟨settings, .search source subjects⟩ →
            run arguments input filter = run arguments' unread filter) ∧
    (∀ (before : List String) (bad : List UInt8) (after : List (List UInt8))
      (short input : List UInt8), inputLines short = before.map Utf8.encode →
      inputLines input = before.map Utf8.encode ++ bad :: after → ¬Utf8.WellFormed bad →
      (∀ p, Pattern.compile source settings.compileOptions = .ok p →
        ∀ text ∈ before.takeWhile fun text => (errorOf p settings text).isNone,
          Sliceable p settings text) →
        (∀ shown, CutShort (search settings source (subjectsOf [] short) shown)
          (search settings source (subjectsOf [] input) shown)) ∧
        ∀ arguments filter,
          Invocation.ofArguments arguments = .ok ⟨settings, .search source []⟩ →
            CutShort (run arguments short filter) (run arguments input filter)) ∧
    ∀ p, Pattern.compile source settings.compileOptions = .ok p →
      (∀ shown, (search settings source (subjectsOf [] []) shown).stdout = "" ∧
        (search settings source (subjectsOf [] []) shown).exit = 1) ∧
      ∀ arguments filter,
        Invocation.ofArguments arguments = .ok ⟨settings, .search source []⟩ →
          (run arguments [] filter).stdout = "" ∧ (run arguments [] filter).exit = 1 := by
  refine ⟨?_, ?_, ?_⟩
  · intro subjects input some plain written
    have same : ∀ unread, subjectsOf [] input = subjectsOf subjects unread := by
      intro unread
      rw [subjectsOf_written written plain, subjectsOf, if_neg (by simpa using some)]
    constructor
    · intro shown unread
      rw [same unread]
    · intro arguments arguments' unread filter asked asked'
      rw [run_eq_search asked, run_eq_search asked', same unread]
  · intro before bad after short input whole lines broken sliceable
    have cut : ∀ shown, CutShort (search settings source (subjectsOf [] short) shown)
        (search settings source (subjectsOf [] input) shown) := by
      intro shown
      have read : subjectsOf [] short = before.map some := by
        show (inputLines short).map Utf8.text? = before.map some
        rw [whole, map_text?_encode]
      rw [read, subjectsOf_cut lines broken]
      exact cutShort_search sliceable _ shown
    refine ⟨cut, fun arguments filter asked => ?_⟩
    rw [run_eq_search asked, run_eq_search asked]
    exact (cut _).warn _
  · intro p compiled
    have nothing : ∀ shown, (search settings source (subjectsOf [] []) shown).stdout = "" ∧
        (search settings source (subjectsOf [] []) shown).exit = 1 := by
      intro shown
      obtain ⟨exit, stdout, -⟩ :=
        @search_of_compile settings source shown p compiled (subjectsOf [] [])
      exact ⟨stdout, exit⟩
    refine ⟨nothing, fun arguments filter asked => ?_⟩
    rw [run_eq_search asked]
    exact nothing _

/-- Three lines, each ended in its own way, one that breaks off inside a character, and none. -/
theorem run_input_ended :
    let subjects := ["ab", "", "xb"]
    let input : List UInt8 := [97, 98, 0x0D, 0x0A, 0x0A, 120, 98]
    run [[98]] input (some "off") = run ([98] :: subjects.map Utf8.encode) [] (some "off") ∧
      CutShort (run [[98]] [97, 98, 0x0A] (some "off"))
        (run [[98]] [97, 98, 0x0A, 0xC3, 0x0A, 98] (some "off")) ∧
      (run [[98]] [] (some "off")).stdout = "" ∧ (run [[98]] [] (some "off")).exit = 1 := by
  have texts : ["ab", "", "xb"].map Utf8.encode = [[97, 98], [], [120, 98]] := by decide +kernel
  have text : ["ab"].map Utf8.encode = [[97, 98]] := by decide +kernel
  let settings : Settings := ⟨.empty, .empty, 0, 0⟩
  have asked : Invocation.ofArguments [[98]] = .ok ⟨settings, .search "b" []⟩ := by decide +kernel
  obtain ⟨p, compiled⟩ := eq_ok_of_isOk (x := Pattern.compile "b" .empty) (by decide +kernel)
  obtain ⟨same, cut, nothing⟩ := run_input settings "b"
  have written : Written (["ab", "", "xb"].map Utf8.encode)
      [97, 98, 0x0D, 0x0A, 0x0A, 120, 98] := by
    rw [texts]
    exact .ended [97, 98] .returnAndFeed (.ended [] .feed (.unended (by decide)))
  refine ⟨?_, ?_, (nothing p compiled).2 _ _ asked⟩
  · refine (same ["ab", "", "xb"] _ (by decide) (by decide) written).2 _ _ _ _ asked ?_
    rw [texts]
    decide +kernel
  · have sliceable : ∀ p, Pattern.compile "b" settings.compileOptions = .ok p →
        ∀ text ∈ ["ab"].takeWhile fun text => (errorOf p settings text).isNone,
          Sliceable p settings text := by
      intro p compiled text _
      have steady := Pattern.steady_of_compile compiled (Or.inl (by decide +kernel))
      exact sliceable_of_steady (Pattern.placed_of_compile compiled) steady
    refine (cut ["ab"] [0xC3] [[98]] _ _ ?_ ?_ ?_ sliceable).2 _ _ asked
    · rw [text]
      decide
    · rw [text]
      decide
    · rw [Utf8.wellFormed_iff.2]
      decide +kernel

end Regex.Command
