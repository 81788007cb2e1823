import Regex.Proofs.Agreement
import Regex.Proofs.Ranges

/-!
# Ends between characters

A pattern that works on characters sees a subject character by character, unless it asks for single
bytes.  So what it reports of a valid subject lies between two characters, and matching can go on
from there.

* `Pattern.Finds.isBoundary`: the ends of all ranges that are reported lie between two characters.
* `Pattern.not_refused`: such a place is never refused as a start.
* `Pattern.ends_between_chars`: so an end that is reported can be started from again.
-/

namespace Regex

open Match

/-- Both ends of a range lie between two characters. -/
def Range.Bounded (subject : ByteArray) (r : Range) : Prop :=
  Pattern.isBoundary subject r.start = true ∧ Pattern.isBoundary subject r.stop = true

namespace Program

variable {p : Program} {request : Request} {c : Captures}

/-- A pattern that works on whole characters reports places between two characters. -/
theorem isBoundary_offset {bytes : ByteArray} (utf : p.dialect.utf = true) (whole : p.bytes = false)
    (valid : Utf8.Valid bytes.data.toList) (place : Nat) :
    Pattern.isBoundary bytes ((p.subjectOf bytes).offset place) = true := by
  rw [Pattern.isBoundary_iff]
  refine ⟨((p.sorted_subjectOf bytes).offset_le place).trans_eq (by rw [bytes_subjectOf]), ?_⟩
  have chars : p.subjectOf bytes = .ofChars bytes := by
    unfold subjectOf
    rw [utf, whole]
    rfl
  rw [chars]
  exact Subject.startsAt_offset_ofChars valid place

theorem Reports.bounded (reports : p.Reports request c) (utf : p.dialect.utf = true)
    (whole : p.bytes = false) (valid : Utf8.Valid request.subject.data.toList) {i : Nat} {r : Range}
    (set : c.get i = some r) : r.Bounded request.subject := by
  have boundary := isBoundary_offset utf whole valid
  cases reports with
  | @matched s first ahead ends =>
      rw [Captures.get_rangesOf] at set
      split_ifs at set
      · obtain rfl := Option.some.inj set
        exact ⟨boundary _, boundary _⟩
      · obtain ⟨span, _, rfl⟩ := Option.map_eq_some_iff.mp set
        exact ⟨boundary _, boundary _⟩
  | @partly place ahead wanted =>
      cases i with
      | zero =>
          obtain rfl := Option.some.inj set
          exact ⟨boundary _, Pattern.isBoundary_iff.mpr ⟨le_rfl, Utf8.startsAt_length _⟩⟩
      | succ i =>
          rw [Captures.get_partly_succ] at set
          cases set

end Program

namespace Pattern

variable {p : Pattern} {c : Captures} {subject : ByteArray} {start : Nat} {options : MatchOptions}

/-- The ends of all ranges that are reported lie between two characters. -/
theorem Finds.bounded (placed : p.program.groups.Placed) (utf : p.program.dialect.utf = true)
    (whole : p.program.bytes = false) (valid : Utf8.Valid subject.data.toList)
    (found : p.Finds c subject start options) {i : Nat} {r : Range} (set : c.get i = some r) :
    r.Bounded subject := by
  obtain ⟨used, _, reports⟩ := found.reports placed
  exact reports.bounded utf whole valid set

/-- A place between two characters of a text is never refused as a start. -/
theorem not_refused (placed : p.program.groups.Placed) {text : String}
    (boundary : isBoundary text.toUTF8 start = true) {e : Error}
    (eq : p.firstMatch text start = .error e) :
    e.code ≠ ErrorCode.badOffset ∧ e.code ≠ ErrorCode.badUtfOffset := by
  obtain ⟨inside, starts⟩ := isBoundary_iff.mp boundary
  have valid := Utf8.valid_toUTF8 text
  obtain ⟨options, asked⟩ : ∃ options, p.firstMatch text start =
      p.exec ⟨text.toUTF8, start, options⟩ := by
    unfold firstMatch textRequest
    dsimp only
    rw [boundary, Bool.not_true, Bool.and_false, if_neg Bool.false_ne_true]
    split_ifs
    · exact ⟨_, rfl⟩
    · exact ⟨_, rfl⟩
  rw [asked, @exec_eq p ⟨text.toUTF8, start, options⟩ inside] at eq
  have sound : Request.Sound ⟨text.toUTF8, start, options⟩ p.program.dialect.utf :=
    ⟨inside, fun _ _ => ⟨valid, starts⟩⟩
  -- of all answers, only a fault of the subject could refuse its start
  have replies := Program.run_replies placed sound
  generalize p.program.run ⟨text.toUTF8, start, options⟩ = answer at eq replies
  cases replies with
  | @refused code mem =>
      rcases Program.ofAnswer_refused mem (p.program.groupCount + 1) with none | error
      · rw [none] at eq
        cases eq
      · rw [error] at eq
        cases eq
        simp only [List.mem_cons, List.not_mem_nil, or_false] at mem
        rcases mem with rfl | rfl | rfl | rfl
        all_goals exact ⟨by decide, by decide⟩
  | invalid _ _ fault =>
      rw [Program.utfFault?_eq_none valid inside starts] at fault
      cases fault
  | matched _ _ =>
      rw [Captures.ofAnswer_answerOf] at eq
      cases eq
  | partly _ _ =>
      rw [Captures.ofAnswer_partialMatch] at eq
      cases eq

/-- **Ends that are reported lie between two characters.**  If a pattern works on characters, be it
by an option or by a setting in its text, and does not ask for single bytes, then each end of each
range that is reported of valid UTF-8, be it a group or the whole and be the match partial or not,
lies between two characters of it.  So in a text, matching can be started again from there. -/
theorem ends_between_chars {source : String} {given : CompileOptions}
    (compiled : compile source given = .ok p) (utf : p.program.dialect.utf = true)
    (noByte : ¬Syntax.byteMark <:+: source.toList) :
    (∀ c subject start options, p.Finds c subject start options → Utf8.Valid subject.data.toList →
      ∀ i r, c.get i = some r → r.Bounded subject) ∧
    ∀ c (text : String) start options, p.Finds c text.toUTF8 start options →
      ∀ i r, c.get i = some r → ∀ next ∈ [r.start, r.stop], ∀ e, p.firstMatch text next = .error e →
        e.code ≠ ErrorCode.badOffset ∧ e.code ≠ ErrorCode.badUtfOffset := by
  have placed := placed_of_compile compiled
  have whole := bytes_of_compile compiled noByte
  constructor
  · intro c subject start options found valid i r set
    exact found.bounded placed utf whole valid set
  · intro c text start options found i r set next mem e eq
    have valid := Utf8.valid_toUTF8 text
    have bounded := found.bounded placed utf whole valid set
    refine not_refused placed ?_ eq
    simp only [List.mem_cons, List.not_mem_nil, or_false] at mem
    rcases mem with rfl | rfl
    · exact bounded.1
    · exact bounded.2

/-- A group that takes a character of two bytes, after which matching goes on. -/
theorem ends_between_chars_wide : ∃ p c, compile "(.)b?" .utf = .ok p ∧
    p.firstMatch "éa" 0 = .ok (some c) ∧ c.get 1 = some ⟨0, 2⟩ ∧
    Range.Bounded "éa".toUTF8 ⟨0, 2⟩ ∧ ∀ e, p.firstMatch "éa" 2 = .error e →
      e.code ≠ ErrorCode.badOffset ∧ e.code ≠ ErrorCode.badUtfOffset := by
  have found : (compile "(.)b?" .utf >>= fun p => p.firstMatch "éa" 0) =
      .ok (some ⟨[some ⟨0, 2⟩, some ⟨0, 2⟩], false⟩) := by decide +kernel
  obtain ⟨p, compiled, eq⟩ := bind_eq_ok found
  have utf : p.program.dialect.utf = true := by
    refine utf_of_compile compiled ?_
    rw [(of_compile compiled).1]
    decide
  have valid := Utf8.valid_toUTF8 "éa"
  obtain ⟨bounded, again⟩ := ends_between_chars compiled utf (by decide +kernel)
  exact ⟨p, _, compiled, eq, rfl, bounded _ _ _ _ (.text eq) valid 1 _ rfl,
    again _ _ _ _ (.text eq) 1 _ rfl 2 (by simp)⟩

end Pattern

end Regex
