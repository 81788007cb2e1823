import Regex.Proofs.Batch
import Regex.Proofs.Text.Lossless
import Regex.Proofs.Text.Quoted

/-!
# Reports read back

A subject is printed as it is and may look like any line of a report; what is captured may hold
anything at all.  Still a report tells what it is about.  A line of a group ends in a letter or a
sign in which no line of an outcome ends, so that it is known where a report ends and the next one
starts; and captured text is behind the range that it belongs to.

* `linesText_injective`: a text tells its lines.
* `Report.header_injective`, `Report.groupLine_injective`: a line tells what it is about.
* `Report.groups_injective`: the lines of groups, and where they end.
* `Reported`, `printed`: subjects with what came of them, and what is printed about them.
* `Batch.exists_reported`: the lines of a batch are of that kind.
* `printed_injective`: nothing else is printed about other subjects or for other outcomes.
-/

namespace Regex.Command

/-! ## Parts of a text -/

/-- What comes before the first sign of another kind can be told from what follows. -/
theorem eq_of_append_cons {α : Type} {P : α → Prop} {front front' rest rest' : List α}
    {stop stop' : α} (inside : ∀ a ∈ front, P a) (inside' : ∀ a ∈ front', P a) (ends : ¬P stop)
    (ends' : ¬P stop') (eq : front ++ stop :: rest = front' ++ stop' :: rest') :
    front = front' ∧ stop = stop' ∧ rest = rest' := by
  induction front generalizing front' with
  | nil =>
      cases front' with
      | nil => simpa using eq
      | cons a front' =>
          rw [List.nil_append, List.cons_append, List.cons.injEq] at eq
          rw [eq.1] at ends
          exact absurd (inside' a List.mem_cons_self) ends
  | cons a front ih =>
      cases front' with
      | nil =>
          rw [List.nil_append, List.cons_append, List.cons.injEq] at eq
          rw [← eq.1] at ends'
          exact absurd (inside a List.mem_cons_self) ends'
      | cons b front' =>
          rw [List.cons_append, List.cons_append, List.cons.injEq] at eq
          obtain ⟨rfl, eq⟩ := eq
          rw [List.forall_mem_cons] at inside inside'
          obtain ⟨rfl, rest⟩ := ih inside.2 inside'.2 eq
          exact ⟨rfl, rest⟩

theorem isDigit_toString (n : Nat) : ∀ c ∈ (toString n).toList, c.isDigit = true := by
  intro c mem
  rw [Nat.toString_eq_ofList_toDigits, String.toList_ofList] at mem
  exact Nat.isDigit_of_mem_toDigits (by decide) (by decide) mem

/-- A number can be told from what follows if that does not start with a digit. -/
theorem eq_of_toString_append {n n' : Nat} {rest rest' : List Char} {stop stop' : Char}
    (ends : stop.isDigit = false) (ends' : stop'.isDigit = false)
    (eq : (toString n).toList ++ stop :: rest = (toString n').toList ++ stop' :: rest') :
    n = n' ∧ stop = stop' ∧ rest = rest' := by
  obtain ⟨same, rest⟩ := eq_of_append_cons (P := fun c => c.isDigit = true) (isDigit_toString n)
    (isDigit_toString n') (by simp [ends]) (by simp [ends']) eq
  refine ⟨?_, rest⟩
  have number := congrArg (fun digits => Nat.ofDigitChars 10 digits 0) same
  simpa using number

theorem toList_linesText (lines : List String) :
    (linesText lines).toList = lines.flatMap fun line => line.toList ++ ['\n'] := by
  unfold linesText
  rw [String.toList_join, List.flatMap_map]
  simp

/-- **A text tells its lines.** -/
theorem linesText_injective {lines lines' : List String}
    (plain : ∀ line ∈ lines, '\n' ∉ line.toList) (plain' : ∀ line ∈ lines', '\n' ∉ line.toList)
    (eq : linesText lines = linesText lines') : lines = lines' := by
  rw [← String.toList_inj, toList_linesText, toList_linesText] at eq
  induction lines generalizing lines' with
  | nil =>
      cases lines' with
      | nil => rfl
      | cons line lines' => simp at eq
  | cons line lines ih =>
      cases lines' with
      | nil => simp at eq
      | cons line' lines' =>
          rw [List.forall_mem_cons] at plain plain'
          simp only [List.flatMap_cons, List.append_assoc, List.singleton_append] at eq
          obtain ⟨same, -, rest⟩ := eq_of_append_cons (P := (· ≠ '\n'))
            (fun c mem => ne_of_mem_of_not_mem mem plain.1)
            (fun c mem => ne_of_mem_of_not_mem mem plain'.1) (by simp) (by simp) eq
          rw [String.toList_inj.mp same, ih plain.2 plain'.2 rest]

/-- A text has as many line feeds as lines. -/
theorem count_linesText {lines : List String} (plain : ∀ line ∈ lines, '\n' ∉ line.toList) :
    (linesText lines).toList.count '\n' = lines.length := by
  rw [toList_linesText]
  induction lines with
  | nil => rfl
  | cons line lines ih =>
      rw [List.forall_mem_cons] at plain
      rw [List.flatMap_cons, List.count_append, ih plain.2, List.count_append,
        List.count_eq_zero.mpr plain.1, List.length_cons]
      simp
      omega

namespace Report

/-! ## Lines -/

/-- An outcome as it is written behind the subject. -/
def mark (found : Option Captures) : List Char := [':', ' '] ++ (kind found).toList

theorem mark_mem (found : Option Captures) :
    mark found ∈ [": no match".toList, ": match".toList, ": partial match".toList] := by
  unfold mark kind
  cases found with
  | none => decide
  | some captures =>
      dsimp only
      split_ifs <;> decide

theorem toList_header (subject : String) (found : Option Captures) :
    (header subject found).toList = subject.toList ++ mark found := by
  simp [header, mark]

/-- **The line of an outcome tells the subject and the outcome**, since no outcome is written at the
end of another one. -/
theorem header_injective {subject subject' : String} {found found' : Option Captures}
    (eq : header subject found = header subject' found') :
    subject = subject' ∧ kind found = kind found' := by
  have apart : ∀ a ∈ [": no match".toList, ": match".toList, ": partial match".toList],
      ∀ b ∈ [": no match".toList, ": match".toList, ": partial match".toList],
        a <:+ b → a = b := by decide
  have eq := congrArg String.toList eq
  rw [toList_header, toList_header] at eq
  have same : mark found = mark found' := by
    have suffix : mark found <:+ subject'.toList ++ mark found' := ⟨_, eq⟩
    rcases List.suffix_or_suffix_of_suffix suffix (List.suffix_append ..) with left | right
    · exact apart _ (mark_mem found) _ (mark_mem found') left
    · exact (apart _ (mark_mem found') _ (mark_mem found) right).symm
  constructor
  · rw [same] at eq
    exact String.toList_inj.mp (List.append_cancel_right eq)
  · exact String.toList_inj.mp (List.append_cancel_left same)

/-- The line of a group. -/
def groupLine (subject : ByteArray) (group : Nat) : Option Range → String
  | none => unsetLine group
  | some range => setLine group range (subject.extract range.start range.stop).toList

theorem getLast?_header (subject : String) (found : Option Captures) :
    (header subject found).toList.getLast? = some 'h' := by
  have ends : ∀ a ∈ [": no match".toList, ": match".toList, ": partial match".toList],
      a.getLast? = some 'h' := by decide
  rw [toList_header, List.getLast?_append, ends _ (mark_mem found), Option.some_or]

theorem getLast?_unsetLine (group : Nat) : (unsetLine group).toList.getLast? = some 't' := by
  have ends : ": unset".toList.getLast? = some 't' := by decide
  rw [unsetLine, String.toList_append, List.getLast?_append, ends, Option.some_or]

theorem getLast?_setLine (group : Nat) (range : Range) (text : List UInt8) :
    (setLine group range text).toList.getLast? = some '\x22' := by
  rw [setLine, String.toList_append, List.getLast?_append, Quoted.getLast?_text, Option.some_or]

theorem toList_setLine (group : Nat) (range : Range) (text : List UInt8) :
    (setLine group range text).toList = ("  " ++ toString group ++ ": ").toList ++
      ((toString range.start).toList ++ '.' :: '.' :: ((toString range.stop).toList ++
        ' ' :: (Quoted.text (Utf8.lossy text)).toList)) := by
  simp [setLine]

/-- The line of a group is not that of an outcome, whatever the subject. -/
theorem groupLine_ne_header (subject : ByteArray) (group : Nat) (range : Option Range)
    (other : String) (found : Option Captures) :
    groupLine subject group range ≠ header other found := by
  intro eq
  have last : (groupLine subject group range).toList.getLast? = some 'h' := by
    rw [eq, getLast?_header]
  cases range with
  | none =>
      rw [groupLine, getLast?_unsetLine] at last
      exact absurd last (by decide)
  | some r =>
      rw [groupLine, getLast?_setLine] at last
      exact absurd last (by decide)

/-- **The line of a group tells the range**, whatever is captured. -/
theorem groupLine_injective {subject subject' : ByteArray} {group : Nat}
    {range range' : Option Range}
    (eq : groupLine subject group range = groupLine subject' group range') : range = range' := by
  have last : (groupLine subject group range).toList.getLast? =
      (groupLine subject' group range').toList.getLast? := by rw [eq]
  cases range with
  | none =>
      cases range' with
      | none => rfl
      | some r' =>
          rw [groupLine, groupLine, getLast?_unsetLine, getLast?_setLine] at last
          exact absurd last (by decide)
  | some r =>
      cases range' with
      | none =>
          rw [groupLine, groupLine, getLast?_unsetLine, getLast?_setLine] at last
          exact absurd last (by decide)
      | some r' =>
          rw [groupLine, groupLine, ← String.toList_inj, toList_setLine, toList_setLine] at eq
          obtain ⟨start, -, eq⟩ :=
            eq_of_toString_append (by decide) (by decide) (List.append_cancel_left eq)
          obtain ⟨stop, -, -⟩ :=
            eq_of_toString_append (by decide) (by decide) (List.cons.inj eq).2
          obtain ⟨_, _⟩ := r
          obtain ⟨_, _⟩ := r'
          obtain rfl := start
          obtain rfl := stop
          rfl

theorem newline_notMem_header {subject : String} (plain : '\n' ∉ subject.toList)
    (found : Option Captures) : '\n' ∉ (header subject found).toList := by
  have marks : ∀ a ∈ [": no match".toList, ": match".toList, ": partial match".toList],
      '\n' ∉ a := by decide
  rw [toList_header, List.mem_append, not_or]
  exact ⟨plain, marks _ (mark_mem found)⟩

theorem newline_notMem_groupLine (subject : ByteArray) (group : Nat) (range : Option Range) :
    '\n' ∉ (groupLine subject group range).toList := by
  have number : ∀ n : Nat, '\n' ∉ (toString n).toList := by
    intro n mem
    exact absurd (isDigit_toString n _ mem) (by decide)
  cases range with
  | none =>
      rw [groupLine, unsetLine, String.toList_append, String.toList_append]
      simp only [List.mem_append, number, or_false]
      decide
  | some r =>
      have front : '\n' ∉ "  ".toList ∧ '\n' ∉ ": ".toList := by decide
      rw [groupLine, toList_setLine, String.toList_append, String.toList_append]
      simp only [List.mem_append, List.mem_cons, number, front, Quoted.newline_notMem_text,
        or_false, false_or]
      decide

/-- The ranges that are set lie in the subject. -/
def Inside (subject : ByteArray) (ranges : List (Option Range)) : Prop :=
  ∀ r, some r ∈ ranges → r.start ≤ r.stop ∧ r.stop ≤ subject.size

theorem lines_groups_cons {subject : ByteArray} {range : Option Range}
    {rest : List (Option Range)} (inside : Inside subject (range :: rest)) (group : Nat) :
    (groups subject group (range :: rest)).lines =
      groupLine subject group range :: (groups subject (group + 1) rest).lines := by
  cases range with
  | none => rfl
  | some r =>
      have slice : r.slice? subject = some (subject.extract r.start r.stop) :=
        if_pos (inside r List.mem_cons_self)
      rw [groups, slice]
      rfl

theorem Inside.tail {subject : ByteArray} {range : Option Range} {rest : List (Option Range)}
    (inside : Inside subject (range :: rest)) : Inside subject rest :=
  fun r mem => inside r (List.mem_cons_of_mem _ mem)

/-- There is a line for each group. -/
theorem length_lines_groups {subject : ByteArray} {ranges : List (Option Range)}
    (inside : Inside subject ranges) (group : Nat) :
    (groups subject group ranges).lines.length = ranges.length := by
  induction ranges generalizing group with
  | nil => rfl
  | cons range rest ih =>
      rw [lines_groups_cons inside, List.length_cons, ih inside.tail, List.length_cons]

/-- None of these lines is broken by what is captured. -/
theorem newline_notMem_lines_groups {subject : ByteArray} {ranges : List (Option Range)}
    (inside : Inside subject ranges) (group : Nat) :
    ∀ line ∈ (groups subject group ranges).lines, '\n' ∉ line.toList := by
  induction ranges generalizing group with
  | nil => simp [groups]
  | cons range rest ih =>
      rw [lines_groups_cons inside, List.forall_mem_cons]
      exact ⟨newline_notMem_groupLine subject group range, ih inside.tail (group + 1)⟩

/-- Ranges that can be shown lie in the subject. -/
theorem inside_of_broken {subject : ByteArray} {group : Nat} {ranges : List (Option Range)}
    (whole : (groups subject group ranges).broken = none) : Inside subject ranges := by
  intro r mem
  rw [broken_groups, List.findSome?_eq_none_iff] at whole
  have shown := whole (some r) mem
  rw [Option.bind_some] at shown
  split_ifs at shown with missing
  by_contra outside
  exact missing (if_neg outside)

/-- What comes next, if anything does, is a line with an outcome. -/
def Begins (lines : List String) : Prop :=
  ∀ line, lines.head? = some line → ∃ subject found, line = header subject found

theorem begins_header (subject : String) (found : Option Captures) (rest : List String) :
    Begins (header subject found :: rest) := by
  intro line first
  exact ⟨subject, found, (Option.some.inj first).symm⟩

/-- **The lines of groups tell the ranges, and where they end.** -/
theorem groups_injective {subject subject' : ByteArray} {ranges ranges' : List (Option Range)}
    (inside : Inside subject ranges) (inside' : Inside subject' ranges') {group : Nat}
    {rest rest' : List String} (begins : Begins rest) (begins' : Begins rest')
    (eq : (groups subject group ranges).lines ++ rest =
      (groups subject' group ranges').lines ++ rest') :
    ranges = ranges' ∧ rest = rest' := by
  induction ranges generalizing ranges' group with
  | nil =>
      cases ranges' with
      | nil => exact ⟨rfl, eq⟩
      | cons range' ranges' =>
          -- the next report cannot start with a group
          rw [lines_groups_cons inside'] at eq
          obtain ⟨other, found, same⟩ := begins (groupLine subject' group range') (by
            rw [show rest = _ from eq]
            rfl)
          exact absurd same (groupLine_ne_header _ _ _ _ _)
  | cons range ranges ih =>
      cases ranges' with
      | nil =>
          rw [lines_groups_cons inside] at eq
          obtain ⟨other, found, same⟩ := begins' (groupLine subject group range) (by
            rw [show rest' = _ from eq.symm]
            rfl)
          exact absurd same (groupLine_ne_header _ _ _ _ _)
      | cons range' ranges' =>
          rw [lines_groups_cons inside, lines_groups_cons inside', List.cons_append,
            List.cons_append, List.cons.injEq] at eq
          obtain ⟨rfl, same⟩ := ih inside.tail inside'.tail eq.2
          rw [groupLine_injective eq.1]
          exact ⟨rfl, same⟩

/-- The ranges of an outcome. -/
def rangesOf (found : Option Captures) : List (Option Range) := (found.map (·.ranges)).getD []

theorem lines_ofMatch (subject : String) (found : Option Captures) :
    (ofMatch subject found).lines =
      header subject found :: (groups subject.toUTF8 0 (rangesOf found)).lines := by
  cases found <;> rfl

/-- An outcome is told by its word and its ranges. -/
theorem eq_of_kind {found found' : Option Captures} (same : kind found = kind found')
    (ranges : rangesOf found = rangesOf found') : found = found' := by
  rcases found with _ | ⟨list, partly⟩ <;> rcases found' with _ | ⟨list', partly'⟩
  · rfl
  · cases partly' <;> simp [kind] at same
  · cases partly <;> simp [kind] at same
  · obtain rfl : list = list' := ranges
    cases partly <;> cases partly' <;> simp [kind] at same ⊢

end Report

/-! ## What is printed -/

/-- A subject that is a single line, and what came of it: nothing that cannot be shown. -/
structure Reported where
  subject : String
  found : Option Captures
  oneLine : '\n' ∉ subject.toList
  inside : Report.Inside subject.toUTF8 (Report.rangesOf found)

/-- The lines about a subject. -/
def Reported.lines (r : Reported) : List String := (Report.ofMatch r.subject r.found).lines

/-- The text about a list of subjects. -/
def printed (list : List Reported) : String := linesText (list.flatMap Reported.lines)

namespace Reported

theorem lines_eq (r : Reported) : r.lines = Report.header r.subject r.found ::
    (Report.groups r.subject.toUTF8 0 (Report.rangesOf r.found)).lines :=
  Report.lines_ofMatch r.subject r.found

theorem newline_notMem_lines (r : Reported) : ∀ line ∈ r.lines, '\n' ∉ line.toList := by
  rw [lines_eq, List.forall_mem_cons]
  exact ⟨Report.newline_notMem_header r.oneLine r.found,
    Report.newline_notMem_lines_groups r.inside 0⟩

theorem newline_notMem_flatMap (list : List Reported) :
    ∀ line ∈ list.flatMap lines, '\n' ∉ line.toList := by
  intro line mem
  obtain ⟨r, _, mem⟩ := List.mem_flatMap.mp mem
  exact r.newline_notMem_lines line mem

/-- After a report the next one begins. -/
theorem begins_flatMap (list : List Reported) : Report.Begins (list.flatMap lines) := by
  cases list with
  | nil =>
      intro line no
      cases no
  | cons r rest =>
      rw [List.flatMap_cons, lines_eq, List.cons_append]
      exact Report.begins_header r.subject r.found _

/-- **Lines tell the subjects that they are about, and what came of each.** -/
theorem flatMap_lines_injective {list list' : List Reported}
    (eq : list.flatMap lines = list'.flatMap lines) : list = list' := by
  induction list generalizing list' with
  | nil =>
      cases list' with
      | nil => rfl
      | cons r' rest' => simp [lines_eq] at eq
  | cons r rest ih =>
      cases list' with
      | nil => simp [lines_eq] at eq
      | cons r' rest' =>
          rw [List.flatMap_cons, List.flatMap_cons, lines_eq, lines_eq, List.cons_append,
            List.cons_append, List.cons.injEq] at eq
          obtain ⟨subject, kind⟩ := Report.header_injective eq.1
          obtain ⟨ranges, later⟩ := Report.groups_injective r.inside r'.inside
            (begins_flatMap rest) (begins_flatMap rest') eq.2
          have found := Report.eq_of_kind kind ranges
          obtain ⟨_, _, _, _⟩ := r
          obtain ⟨_, _, _, _⟩ := r'
          obtain rfl := subject
          obtain rfl := found
          rw [ih later]

end Reported

/-- What a batch prints that does not fail. -/
theorem Batch.exists_reported {p : Pattern} {settings : Settings} {subjects : List String}
    (plain : ∀ text ∈ subjects, '\n' ∉ text.toList)
    (fine : (ofSubjects p settings (subjects.map some)).failure = none) :
    ∃ list : List Reported, list.map (·.subject) = subjects ∧
      (∀ r ∈ list, p.firstMatchBytes r.subject.toUTF8 settings.startOffset
        settings.matchOptions = .ok r.found) ∧
      (ofSubjects p settings (subjects.map some)).lines = list.flatMap Reported.lines := by
  induction subjects with
  | nil => exact ⟨[], rfl, by simp, rfl⟩
  | cons text rest ih =>
      rw [List.forall_mem_cons] at plain
      rw [List.map_cons, ofSubjects, failure_append, Option.or_eq_none_iff] at fine
      obtain ⟨list, texts, found, lines⟩ := ih plain.2 fine.2
      rw [List.map_cons, ofSubjects_cons fine.1, lines]
      have first := fine.1
      unfold ofSubject at first ⊢
      cases answer : p.firstMatchBytes text.toUTF8 settings.startOffset settings.matchOptions with
      | error e =>
          rw [answer] at first
          cases first
      | ok outcome =>
          rw [answer] at first
          have whole : (Report.groups text.toUTF8 0 (Report.rangesOf outcome)).broken = none := by
            cases outcome with
            | none => rfl
            | some c => exact Option.map_eq_none_iff.mp first
          let reported : Reported := ⟨text, outcome, plain.1, Report.inside_of_broken whole⟩
          refine ⟨reported :: list, ?_, ?_, rfl⟩
          · rw [List.map_cons, texts]
          · rw [List.forall_mem_cons]
            exact ⟨answer, found⟩

/-- **Nothing else is printed about other subjects or for other outcomes.**  What is printed about
subjects that are single lines tells each of them, whether there was no match, a match or a partial
match, how many groups there are, which of them are set, and to what.  There is a line for each
outcome and one for each group, whatever is captured.  So two batches that do not fail, for whatever
patterns, print the same only if they have the same subjects and the same came of each. -/
theorem printed_injective :
    (∀ list list' : List Reported, Utf8.encode (printed list) = Utf8.encode (printed list') →
      list = list') ∧
    (∀ r : Reported, (printed [r]).toList.count '\n' =
      match r.found with
      | none => 1
      | some captures => captures.length + 1) ∧
    ∀ (p p' : Pattern) (settings settings' : Settings) (subjects subjects' : List String),
      (∀ text ∈ subjects ++ subjects', '\n' ∉ text.toList) →
      (Batch.ofSubjects p settings (subjects.map some)).failure = none →
      (Batch.ofSubjects p' settings' (subjects'.map some)).failure = none →
      linesText (Batch.ofSubjects p settings (subjects.map some)).lines =
        linesText (Batch.ofSubjects p' settings' (subjects'.map some)).lines →
      subjects = subjects' ∧ ∀ text ∈ subjects,
        p.firstMatchBytes text.toUTF8 settings.startOffset settings.matchOptions =
          p'.firstMatchBytes text.toUTF8 settings'.startOffset settings'.matchOptions := by
  have injective : ∀ list list' : List Reported, printed list = printed list' → list = list' := by
    intro list list' eq
    apply Reported.flatMap_lines_injective
    exact linesText_injective (Reported.newline_notMem_flatMap list)
      (Reported.newline_notMem_flatMap list') eq
  refine ⟨fun list list' eq => injective list list' (Utf8.encode_injective eq), ?_, ?_⟩
  · intro r
    unfold printed
    rw [count_linesText (Reported.newline_notMem_flatMap [r]), List.flatMap_singleton,
      Reported.lines_eq, List.length_cons, Report.length_lines_groups r.inside]
    cases r.found <;> rfl
  · intro p p' settings settings' subjects subjects' plain fine fine' eq
    rw [List.forall_mem_append] at plain
    obtain ⟨list, texts, found, lines⟩ := Batch.exists_reported plain.1 fine
    obtain ⟨list', texts', found', lines'⟩ := Batch.exists_reported plain.2 fine'
    rw [lines, lines'] at eq
    obtain rfl := injective list list' eq
    refine ⟨texts.symm.trans texts', ?_⟩
    rw [← texts]
    intro text mem
    obtain ⟨r, listed, rfl⟩ := List.mem_map.mp mem
    rw [found r listed, found' r listed]

/-- A subject that looks like the line of a group, and one in which there is no match from two
places on. -/
theorem printed_injective_lookalike :
    (∃ a b c : Reported,
      printed [a, b] = "a: match\n  0: unset\n  1: unset: no match\n" ∧
      printed [c] = "a: match\n  0: unset\n  1: unset\n" ∧
      Utf8.encode (printed [a, b]) ≠ Utf8.encode (printed [c]) ∧
      (printed [c]).toList.count '\n' = 3) ∧
    ∃ p : Pattern, Pattern.compile "c" .empty = .ok p ∧
      p.firstMatchBytes "ab".toUTF8 0 .empty = p.firstMatchBytes "ab".toUTF8 1 .empty := by
  constructor
  · let a : Reported :=
      ⟨"a", some ⟨[none], false⟩, by decide, by simp [Report.Inside, Report.rangesOf]⟩
    let b : Reported := ⟨"  1: unset", none, by decide, by simp [Report.Inside, Report.rangesOf]⟩
    let c : Reported :=
      ⟨"a", some ⟨[none, none], false⟩, by decide, by simp [Report.Inside, Report.rangesOf]⟩
    refine ⟨a, b, c, by decide +kernel, by decide +kernel, fun eq => ?_, printed_injective.2.1 c⟩
    have same := congrArg List.length (printed_injective.1 [a, b] [c] eq)
    cases same
  · let batch (p : Pattern) (start : Nat) : Batch :=
      .ofSubjects p ⟨.empty, .empty, start, 0⟩ [some "ab"]
    have printedAlike : (Pattern.compile "c" .empty).toOption.map (fun p =>
        ((batch p 0).failure.isNone, (batch p 1).failure.isNone,
          decide (linesText (batch p 0).lines = linesText (batch p 1).lines))) =
        some (true, true, true) := by decide +kernel
    obtain ⟨p, compiled⟩ := eq_ok_of_isOk (x := Pattern.compile "c" .empty) (by decide +kernel)
    rw [compiled] at printedAlike
    simp only [Except.toOption, Option.map_some, Option.some_inj, Prod.mk.injEq,
      Option.isNone_iff_eq_none, decide_eq_true_eq] at printedAlike
    obtain ⟨fine, fine', same⟩ := printedAlike
    have alike := printed_injective.2.2 p p ⟨.empty, .empty, 0, 0⟩ ⟨.empty, .empty, 1, 0⟩
      ["ab"] ["ab"] (by decide) fine fine' same
    exact ⟨p, compiled, alike.2 "ab" (by simp)⟩

end Regex.Command
