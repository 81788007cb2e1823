import Regex.Command.Run
import Regex.Proofs.Ranges

/-!
# Exit codes

A run of the command prints the text of every range that was captured, and there is no text for a
range that ends before it starts.  The range of a whole match is the only one that can.

* `Report.broken_of_fit`: what a report cannot show.
* `Turned`: a text whose match ends before it starts.
* `Batch.exit_ofSubjects`: the first such text ends the batch with a code of its own.
* `exit_run`: the exit codes of the command.
* `match_extent`: where matches lie, and that the command can fail to show no other text.
-/

namespace Regex.Command

namespace Report

/-- What a report cannot show is the first range that cannot be cut from the subject. -/
theorem broken_groups (subject : ByteArray) (group : Nat) (ranges : List (Option Range)) :
    (groups subject group ranges).broken =
      ranges.findSome? fun range =>
        range.bind fun r => if r.slice? subject = none then some r else none := by
  induction ranges generalizing group with
  | nil => rfl
  | cons range rest ih =>
      cases range with
      | none =>
          rw [groups, List.findSome?_cons, Option.bind_none]
          exact ih (group + 1)
      | some r =>
          rw [groups, List.findSome?_cons, Option.bind_some]
          cases r.slice? subject with
          | none => rfl
          | some text =>
              rw [if_neg (Option.some_ne_none text)]
              exact ih (group + 1)

/-- The range of the whole match can be shown unless it ends before it starts, and all other ranges
can be shown. -/
theorem broken_of_fit {subject : ByteArray} {c : Captures} {count start : Nat}
    {options : MatchOptions} (fit : c.Fit count subject start options) :
    (groups subject 0 c.ranges).broken =
      if c.whole.stop < c.whole.start then some c.whole else none := by
  obtain ⟨set, _, stop_le, _⟩ := fit.whole
  obtain ⟨rest, ranges⟩ : ∃ rest, c.ranges = some c.whole :: rest := by
    rw [Captures.get] at set
    cases list : c.ranges with
    | nil => simp [list] at set
    | cons first rest =>
        rw [list, List.getElem?_cons_zero, Option.join_some] at set
        exact ⟨rest, by rw [← set]⟩
  have shown : ∀ range ∈ rest,
      (range.bind fun r => if r.slice? subject = none then some r else none) = none := by
    intro range mem
    obtain ⟨i, entry⟩ := List.mem_iff_getElem?.mp mem
    cases range with
    | none => rfl
    | some r =>
        have set : c.get (i + 1) = some r := by
          rw [Captures.get, ranges, List.getElem?_cons_succ, entry, Option.join_some]
        have slice : r.slice? subject = some (subject.extract r.start r.stop) :=
          if_pos (fit.ordered (i + 1) r (by omega) set)
        rw [Option.bind_some, slice, if_neg (Option.some_ne_none _)]
  rw [broken_groups, ranges, List.findSome?_cons, List.findSome?_eq_none_iff.mpr shown,
    Option.bind_some]
  by_cases turned : c.whole.stop < c.whole.start
  · have slice : c.whole.slice? subject = none :=
      if_neg fun inside => absurd inside.1 (Nat.not_le.mpr turned)
    rw [slice, if_pos rfl, if_pos turned]
  · have slice : c.whole.slice? subject = some (subject.extract c.whole.start c.whole.stop) :=
      if_pos ⟨Nat.not_lt.mp turned, stop_le⟩
    rw [slice, if_neg (Option.some_ne_none _), if_neg turned]

end Report

/-- A text whose match ends before it starts. -/
def Turned (p : Pattern) (settings : Settings) (text : String) : Prop :=
  ∃ c, p.firstMatchBytes text.toUTF8 settings.startOffset settings.matchOptions = .ok (some c) ∧
    c.whole.stop < c.whole.start

/-- Subjects among which there is such a text, all of them before it being texts whose matching
comes to something. -/
def Turns (p : Pattern) (settings : Settings) (subjects : List (Option String)) : Prop :=
  ∃ before text after, subjects = before ++ some text :: after ∧ Turned p settings text ∧
    ∀ line ∈ before, ∃ earlier found, line = some earlier ∧
      p.firstMatchBytes earlier.toUTF8 settings.startOffset settings.matchOptions = .ok found

theorem turns_cons {p : Pattern} {settings : Settings} {line : Option String}
    {rest : List (Option String)} :
    Turns p settings (line :: rest) ↔ ∃ text, line = some text ∧ (Turned p settings text ∨
      (∃ found, p.firstMatchBytes text.toUTF8 settings.startOffset settings.matchOptions =
        .ok found) ∧ Turns p settings rest) := by
  constructor
  · rintro ⟨before, text, after, eq, turned, answered⟩
    cases before with
    | nil =>
        rw [List.nil_append, List.cons.injEq] at eq
        exact ⟨text, eq.1, Or.inl turned⟩
    | cons first before =>
        rw [List.cons_append, List.cons.injEq] at eq
        obtain ⟨rfl, rfl⟩ := eq
        obtain ⟨earlier, found, same, ok⟩ := answered line (by simp)
        exact ⟨earlier, same, Or.inr ⟨⟨found, ok⟩, before, text, after, rfl, turned,
          fun line mem => answered line (List.mem_cons_of_mem _ mem)⟩⟩
  · rintro ⟨earlier, rfl, turned | ⟨⟨found, ok⟩, before, text, after, rfl, turned, answered⟩⟩
    · exact ⟨[], earlier, rest, rfl, turned, by simp⟩
    · refine ⟨some earlier :: before, text, after, rfl, turned, fun line mem => ?_⟩
      rcases List.mem_cons.mp mem with rfl | mem
      · exact ⟨earlier, found, rfl, ok⟩
      · exact answered line mem

namespace Batch

variable {p : Pattern} {settings : Settings} {text : String}

/-- The exit code that tells of a range without text. -/
theorem exit_eq_iff (b : Batch) : b.exit = 101 ↔ ∃ r, b.failure = some (.brokenRange r) := by
  unfold exit
  split
  · rename_i r failure
    exact ⟨fun _ => ⟨r, failure⟩, fun _ => rfl⟩
  · rename_i f other failure
    constructor
    · intro no
      cases no
    · rintro ⟨r, broken⟩
      rw [failure, Option.some_inj] at broken
      exact absurd broken (other r)
  · rename_i failure
    constructor
    · intro no
      split_ifs at no
      all_goals cases no
    · rintro ⟨r, broken⟩
      rw [failure] at broken
      cases broken

theorem exit_mem (b : Batch) : b.exit ∈ [0, 1, 2, 101] := by
  unfold exit
  split
  · simp
  · simp
  · split_ifs <;> simp

/-- The failure of one batch after another is the first failure. -/
theorem failure_append (a : Batch) (b : Unit → Batch) :
    (a.append b).failure = a.failure.or (b ()).failure := by
  unfold append
  cases failure : a.failure with
  | none => rfl
  | some f => exact failure

/-- What becomes of a subject: an error, a range that cannot be shown, or neither. -/
theorem failure_ofSubject (placed : p.program.groups.Placed) :
    (∃ e, p.firstMatchBytes text.toUTF8 settings.startOffset settings.matchOptions = .error e ∧
      (ofSubject p settings text).failure = some (.error e)) ∨
    (Turned p settings text ∧ ∃ r, (ofSubject p settings text).failure = some (.brokenRange r)) ∨
    (¬Turned p settings text ∧ (ofSubject p settings text).failure = none ∧ ∃ found,
      p.firstMatchBytes text.toUTF8 settings.startOffset settings.matchOptions = .ok found) := by
  unfold ofSubject Turned
  cases eq : p.firstMatchBytes text.toUTF8 settings.startOffset settings.matchOptions with
  | error e => exact Or.inl ⟨e, rfl, rfl⟩
  | ok found =>
      refine Or.inr ?_
      cases found with
      | none => exact Or.inr ⟨by simp, rfl, none, rfl⟩
      | some c =>
          have broken := Report.broken_of_fit ((Pattern.Finds.bytes eq).fit placed)
          by_cases turned : c.whole.stop < c.whole.start
          · rw [if_pos turned] at broken
            refine Or.inl ⟨⟨c, rfl, turned⟩, c.whole, ?_⟩
            simp only [Report.ofMatch, broken, Option.map_some]
          · rw [if_neg turned] at broken
            refine Or.inr ⟨?_, by simp only [Report.ofMatch, broken, Option.map_none], some c, rfl⟩
            rintro ⟨_, eq, turned'⟩
            cases eq
            exact turned turned'

/-- A batch fails to show a range if and only if it comes to a text whose match ends before it
starts. -/
theorem exit_ofSubjects (placed : p.program.groups.Placed) (subjects : List (Option String)) :
    (ofSubjects p settings subjects).exit = 101 ↔ Turns p settings subjects := by
  rw [exit_eq_iff]
  induction subjects with
  | nil =>
      refine ⟨fun ⟨r, failure⟩ => ?_, fun ⟨before, text, after, eq, _⟩ => ?_⟩
      · cases failure
      · simp at eq
  | cons line rest ih =>
      rw [turns_cons, ← ih]
      cases line with
      | none => simp [ofSubjects]
      | some text =>
          rw [ofSubjects, failure_append]
          rcases @failure_ofSubject p settings text placed with
            ⟨e, eq, failure⟩ | ⟨turned, r, failure⟩ | ⟨straight, failure, found⟩
          · have error : ¬Turned p settings text := by
              rintro ⟨c, ok, _⟩
              rw [eq] at ok
              cases ok
            rw [failure]
            constructor
            · rintro ⟨r, no⟩
              cases no
            · rintro ⟨_, same, turned | ⟨⟨found, ok⟩, _⟩⟩
              · obtain rfl := Option.some.inj same
                exact absurd turned error
              · obtain rfl := Option.some.inj same
                rw [eq] at ok
                cases ok
          · rw [failure]
            exact ⟨fun _ => ⟨text, rfl, Or.inl turned⟩, fun _ => ⟨r, rfl⟩⟩
          · rw [failure, Option.none_or]
            refine ⟨fun broken => ⟨text, rfl, Or.inr ⟨found, broken⟩⟩, ?_⟩
            rintro ⟨_, same, turned | ⟨_, broken⟩⟩
            · obtain rfl := Option.some.inj same
              exact absurd turned straight
            · exact broken

/-- If no assertion moves the start of a match, every range can be shown. -/
theorem not_turns_of_steady (placed : p.program.groups.Placed) (steady : p.program.groups.Steady)
    (subjects : List (Option String)) : ¬Turns p settings subjects := by
  rintro ⟨_, text, _, _, ⟨c, eq, turned⟩, _⟩
  exact absurd ((Pattern.Finds.bytes eq).starts placed steady).2 (Nat.not_le.mpr turned)

end Batch

/-- The subjects of a run: those that are given, or else the lines of the input. -/
def subjectsOf (given : List String) (input : List UInt8) : List (Option String) :=
  if given.isEmpty then (inputLines input).map Utf8.text? else given.map some

/-- The exit code after matching subjects. -/
theorem exit_search (settings : Settings) (source : String) (subjects : List (Option String))
    (shown : LogRecord → Bool) :
    (search settings source subjects shown).exit ∈ [0, 1, 2, 101] ∧
      ((search settings source subjects shown).exit = 101 ↔ ∃ p,
        Pattern.compile source settings.compileOptions = .ok p ∧ Turns p settings subjects) := by
  unfold search
  cases compiled : Pattern.compile source settings.compileOptions with
  | error e => simp
  | ok p =>
      refine ⟨Batch.exit_mem _, ?_⟩
      dsimp only
      rw [Batch.exit_ofSubjects (Pattern.placed_of_compile compiled)]
      refine ⟨fun turns => ⟨p, rfl, turns⟩, ?_⟩
      rintro ⟨_, same, turns⟩
      obtain rfl := Except.ok.inj same
      exact turns

/-- The exit code of the command. -/
theorem exit_run (arguments : List (List UInt8)) (input : List UInt8) (filter : Option String) :
    (run arguments input filter).exit ∈ [0, 1, 2, 101] ∧
      ((run arguments input filter).exit = 101 ↔ ∃ settings source given p,
        Invocation.ofArguments arguments = .ok ⟨settings, .search source given⟩ ∧
          Pattern.compile source settings.compileOptions = .ok p ∧
            Turns p settings (subjectsOf given input)) := by
  unfold run
  cases asked : Invocation.ofArguments arguments with
  | error e => simp
  | ok invocation =>
      obtain ⟨settings, mode⟩ := invocation
      cases mode with
      | help => simp
      | describe code => simp
      | search source given =>
          obtain ⟨mem, broken⟩ := exit_search settings source (subjectsOf given input)
            (LogFilter.ofText (filter.getD (defaultFilter settings.verbose))).1.shows
          refine ⟨mem, broken.trans ⟨?_, ?_⟩⟩
          · rintro ⟨p, turns⟩
            exact ⟨settings, source, given, p, rfl, turns⟩
          · rintro ⟨_, _, _, p, same, turns⟩
            cases same
            exact ⟨p, turns⟩

/-- **Where a match lies, and what becomes of the command if it does not lie there.**  Whichever way
a compiled pattern is asked for it, a match lies in the subject and ends at or after the start that
was asked for.  If no assertion moves the start of a match, it also starts there, and does not end
before it starts; and to move it, an assertion has to call a group with an escape for that.  The
command ends with 0, 1 or 2 except when it comes to a text whose match ends before it starts, and
then the pattern has such an assertion. -/
theorem match_extent {source : String} {given : CompileOptions} {p : Pattern}
    (compiled : Pattern.compile source given = .ok p) :
    (∀ c subject start options, p.Finds c subject start options → c.isPartial = false →
      c.whole.start ≤ subject.size ∧ c.whole.stop ≤ subject.size ∧ start ≤ c.whole.stop ∧
        (p.program.groups.Steady → start ≤ c.whole.start ∧ c.whole.start ≤ c.whole.stop)) ∧
    (¬Syntax.keepMark <:+: source.toList ∨
      (∀ mark ∈ Syntax.callMarks, ¬mark <:+: source.toList) →
        p.program.groups.Steady) ∧
    ∀ arguments input filter, (run arguments input filter).exit ∈ [0, 1, 2] ↔
      ¬∃ settings source given p,
        Invocation.ofArguments arguments = .ok ⟨settings, .search source given⟩ ∧
          Pattern.compile source settings.compileOptions = .ok p ∧
            ¬p.program.groups.Steady ∧ Turns p settings (subjectsOf given input) := by
  refine ⟨?_, Pattern.steady_of_compile compiled, ?_⟩
  · intro c subject start options found _
    have placed := Pattern.placed_of_compile compiled
    obtain ⟨_, start_le, stop_le, ahead⟩ := (found.fit placed).whole
    exact ⟨start_le, stop_le, ahead, found.starts placed⟩
  · intro arguments input filter
    obtain ⟨mem, broken⟩ := exit_run arguments input filter
    constructor
    · rintro whole ⟨settings, source, given, p, asked, compiled, _, turns⟩
      rw [broken.mpr ⟨settings, source, given, p, asked, compiled, turns⟩] at whole
      exact absurd whole (by decide)
    -- a run can fail to show a range only in a text whose match ends before it starts
    · intro straight
      have whole : (run arguments input filter).exit ≠ 101 := by
        intro exit
        obtain ⟨settings, source, given, p, asked, compiled, turns⟩ := broken.mp exit
        refine straight ⟨settings, source, given, p, asked, compiled, fun steady => ?_, turns⟩
        exact Batch.not_turns_of_steady (Pattern.placed_of_compile compiled) steady _ turns
      simpa [whole] using mem

/-- A call that moves the start, but not in an assertion. -/
theorem match_extent_keep : ∃ p c, Pattern.compile "(?(DEFINE)(a\\K))(?1)(?=b)" .empty = .ok p ∧
    p.firstMatchBytes ⟨#[120, 97, 98]⟩ 1 .empty = .ok (some c) ∧
    c.whole = ⟨2, 2⟩ ∧ 1 ≤ c.whole.start ∧ c.whole.start ≤ c.whole.stop := by
  have found : (Pattern.compile "(?(DEFINE)(a\\K))(?1)(?=b)" .empty >>= fun p =>
      if ∀ n : Fin p.program.groups.size, ∀ code ∈ p.program.groups[n],
        Code.BranchesSteady (fun _ => False) .forward code.branches ∧
          (False → Code.BranchesSteady (fun _ => False) .look code.branches)
      then p.firstMatchBytes ⟨#[120, 97, 98]⟩ 1 .empty else .ok none) =
        .ok (some ⟨[some ⟨2, 2⟩, none], false⟩) := by decide +kernel
  obtain ⟨p, compiled, eq⟩ := bind_eq_ok found
  split_ifs at eq with each
  · have straight := (match_extent compiled).1 _ _ _ _ (.bytes eq) rfl
    exact ⟨p, _, compiled, eq, rfl, straight.2.2.2 (Code.GroupCodes.steady_of _ each)⟩
  · cases eq

/-- Assertions that call a group which moves the start: a match that ends before it starts, one that
starts before the place that was asked for, and the command breaking off at the first. -/
theorem start_moved_by_call :
    (Pattern.compile "(?(DEFINE)(a\\K))(?=(?1))" .empty >>= fun p =>
      p.firstMatchBytes ⟨#[97]⟩ 0 .empty) = .ok (some ⟨[some ⟨1, 0⟩, none], false⟩) ∧
    (Pattern.compile "(?(DEFINE)(\\Ka))(?<=(?1))b" .empty >>= fun p =>
      p.firstMatchBytes ⟨#[97, 98]⟩ 1 .empty) = .ok (some ⟨[some ⟨0, 2⟩, none], false⟩) ∧
    (run ["(?(DEFINE)(a\\K))(?=(?1))".toUTF8.toList, [97]] [] none).exit = 101 := by
  decide +kernel

end Regex.Command
