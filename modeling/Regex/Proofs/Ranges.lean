import Regex.Proofs.Running

/-!
# Ranges of a match

What is captured can be cut from the subject.

* `Captures.Fit`: what captures have to be, for a subject that was searched from some place on.
* `Engine.Finds.fit`: the captures of every way of asking for a match are so, with every engine that
  runs the program.
* `Pattern.captures_fit`: so are those of every pattern that is compiled.
-/

namespace Regex

open Code Match

/-- What captures of a subject have to be that was searched from `start` on. -/
structure Captures.Fit (c : Captures) (groups : Nat) (subject : ByteArray) (start : Nat)
    (options : MatchOptions) : Prop where
  /-- There is an entry for each group and one for the whole. -/
  length : c.length = groups + 1
  /-- The whole is set.  It ends inside the subject, at or after the start that was asked for. -/
  whole : c.get 0 = some c.whole ∧ c.whole.start ≤ subject.size ∧ c.whole.stop ≤ subject.size ∧
    start ≤ c.whole.stop
  ordered : ∀ i r, 1 ≤ i → c.get i = some r → r.start ≤ r.stop ∧ r.stop ≤ subject.size
  /-- A group's text is there if and only if the group is set, and it is as long as the range. -/
  extracts : ∀ i, 1 ≤ i → i ≤ groups →
    (c.extract subject)[i]? = some ((c.get i).map fun r => subject.extract r.start r.stop) ∧
      ∀ r, c.get i = some r → (subject.extract r.start r.stop).size = r.stop - r.start
  /-- A partial match has to be asked for.  It reaches the end of the subject and sets no group. -/
  partly : c.isPartial = true →
    (options.contains .partialSoft = true ∨ options.contains .partialHard = true) ∧
      (∀ i, 1 ≤ i → c.get i = none) ∧
      start ≤ c.whole.start ∧ c.whole.start ≤ c.whole.stop ∧ c.whole.stop = subject.size

namespace Captures

variable {c : Captures} {subject : ByteArray}

/-- The range of a group in the captures of a match. -/
theorem get_rangesOf (subject : Subject) (s : State) (groups : Nat) (isPartial : Bool) (i : Nat) :
    (⟨Program.rangesOf subject s (groups + 1), isPartial⟩ : Captures).get i =
      if i = 0 then some (Range.ofSpan subject ⟨s.keep, s.place⟩)
      else if i ≤ groups then (s.captures[i]?).join.map (Range.ofSpan subject)
      else none := by
  unfold get Program.rangesOf
  rw [List.getElem?_map]
  by_cases known : i < groups + 1
  · rw [List.getElem?_range known]
    simp [show i ≤ groups by omega]
  · rw [List.getElem?_eq_none (by simpa using Nat.not_lt.mp known)]
    rw [if_neg (by omega), if_neg (by omega)]
    rfl

/-- A partial match sets no group. -/
theorem get_partly_succ (first : Range) (groups i : Nat) :
    (⟨some first :: List.replicate groups none, true⟩ : Captures).get (i + 1) = none := by
  rw [get, List.getElem?_cons_succ, List.getElem?_replicate]
  split_ifs <;> rfl

/-- A range in order is cut from the subject. -/
theorem extract_of_ordered (ordered : ∀ i r, 1 ≤ i → c.get i = some r →
      r.start ≤ r.stop ∧ r.stop ≤ subject.size) {i : Nat} (one : 1 ≤ i) (known : i < c.length) :
    (c.extract subject)[i]? = some ((c.get i).map fun r => subject.extract r.start r.stop) ∧
      ∀ r, c.get i = some r → (subject.extract r.start r.stop).size = r.stop - r.start := by
  obtain ⟨range, entry⟩ : ∃ range, c.ranges[i]? = some range :=
    ⟨_, List.getElem?_eq_getElem known⟩
  have get : c.get i = range := by rw [Captures.get, entry, Option.join_some]
  have slice : ∀ r, c.get i = some r →
      r.slice? subject = some (subject.extract r.start r.stop) :=
    fun r set => if_pos (ordered i r one set)
  constructor
  · rw [extract, List.getElem?_map, entry, get]
    cases range with
    | none => rfl
    | some r =>
        rw [Option.map_some, Option.bind_some, slice r get]
        rfl
  · intro r set
    rw [ByteArray.size_extract, Nat.min_eq_left (ordered i r one set).2]

end Captures

/-- The captures of a match that ends as it should are fit for the subject. -/
theorem Captures.fit_rangesOf {subject : Subject} (sorted : subject.Sorted) {codes : GroupCodes}
    {s : State} {first : Nat} (ends : Ends codes first s) {start : Nat}
    (ahead : start ≤ subject.offset first) (groups : Nat) (options : MatchOptions) :
    (⟨Program.rangesOf subject s (groups + 1), false⟩ : Captures).Fit groups subject.bytes start
      options := by
  have get := Captures.get_rangesOf subject s groups false
  have whole : (⟨Program.rangesOf subject s (groups + 1), false⟩ : Captures).get 0 =
      some (Range.ofSpan subject ⟨s.keep, s.place⟩) := by
    rw [get, if_pos rfl]
  -- offsets rise with places, so ranges are in order as captures are
  have ordered : ∀ i r, 1 ≤ i →
      (⟨Program.rangesOf subject s (groups + 1), false⟩ : Captures).get i = some r →
        r.start ≤ r.stop ∧ r.stop ≤ subject.bytes.size := by
    intro i r one set
    rw [get, if_neg (by omega)] at set
    split_ifs at set
    obtain ⟨span, entry, rfl⟩ := Option.map_eq_some_iff.mp set
    have mem : some span ∈ s.captures := Array.mem_of_getElem? (Option.join_eq_some_iff.mp entry)
    exact ⟨sorted.offset_mono (ends.captures span mem), sorted.offset_le _⟩
  have length : (⟨Program.rangesOf subject s (groups + 1), false⟩ : Captures).length =
      groups + 1 := by
    simp [Captures.length, Program.rangesOf]
  refine ⟨length, ?_, ordered, fun i one known => ?_, fun no => absurd no Bool.false_ne_true⟩
  · rw [Captures.whole, whole]
    exact ⟨rfl, sorted.offset_le _, sorted.offset_le _,
      ahead.trans (sorted.offset_mono ends.ahead)⟩
  · exact Captures.extract_of_ordered ordered one (by omega)

/-- The captures of a partial match that was asked for are fit for the subject. -/
theorem Captures.fit_partly {subject : ByteArray} {start place : Nat} {options : MatchOptions}
    (ahead : start ≤ place) (inside : place ≤ subject.size)
    (wanted : (options.contains .partialHard || options.contains .partialSoft) = true)
    (groups : Nat) :
    (⟨some ⟨place, subject.size⟩ :: List.replicate groups none, true⟩ : Captures).Fit groups subject
      start options := by
  have unset : ∀ i, 1 ≤ i →
      (⟨some ⟨place, subject.size⟩ :: List.replicate groups none, true⟩ : Captures).get i =
        none := by
    intro i one
    obtain ⟨i, rfl⟩ := Nat.exists_eq_add_of_le' one
    exact Captures.get_partly_succ _ _ _
  have ordered : ∀ i r, 1 ≤ i →
      (⟨some ⟨place, subject.size⟩ :: List.replicate groups none, true⟩ : Captures).get i = some r →
        r.start ≤ r.stop ∧ r.stop ≤ subject.size := by
    intro i r one set
    rw [unset i one] at set
    cases set
  have length : (⟨some ⟨place, subject.size⟩ :: List.replicate groups none, true⟩ :
      Captures).length = groups + 1 := by
    simp [Captures.length]
  refine ⟨length, ⟨rfl, inside, le_rfl, ahead.trans inside⟩, ordered, fun i one known => ?_,
    fun _ => ⟨?_, unset, ahead, inside, rfl⟩⟩
  · exact Captures.extract_of_ordered ordered one (by omega)
  · exact (Bool.or_eq_true_iff.mp wanted).symm

/-- What a program reports is fit for the subject of the request. -/
theorem Program.Reports.fit {p : Program} {request : Request} {c : Captures}
    (reports : p.Reports request c) :
    c.Fit p.groupCount request.subject request.start request.options := by
  have sorted := p.sorted_subjectOf request.subject
  have bytes := p.bytes_subjectOf request.subject
  cases reports with
  | @matched s first ahead ends =>
      have fit := Captures.fit_rangesOf sorted ends ahead p.groupCount request.options
      rwa [bytes] at fit
  | @partly place ahead wanted =>
      have inside := sorted.offset_le place
      rw [bytes] at inside
      exact Captures.fit_partly ahead inside wanted p.groupCount

/-- A match starts at or after the place that was asked for, and does not end before it starts,
unless an assertion can move its start. -/
theorem Program.Reports.starts {p : Program} {request : Request} {c : Captures}
    (reports : p.Reports request c) (steady : p.groups.Steady) :
    request.start ≤ c.whole.start ∧ c.whole.start ≤ c.whole.stop := by
  have sorted := p.sorted_subjectOf request.subject
  cases reports with
  | @matched s first ahead ends =>
      have get := Captures.get_rangesOf (p.subjectOf request.subject) s p.groupCount false 0
      rw [if_pos rfl] at get
      rw [Captures.whole, get]
      obtain ⟨first_le, le⟩ := ends.starts steady
      exact ⟨ahead.trans (sorted.offset_mono first_le), sorted.offset_mono le⟩
  | @partly place ahead wanted =>
      refine ⟨ahead, (sorted.offset_le place).trans_eq ?_⟩
      rw [bytes_subjectOf]
      rfl

/-- What any way of asking for a match returns is fit for the subject. -/
theorem Engine.Finds.fit {engine : Engine} {p : Pattern} {c : Captures} {subject : ByteArray}
    {start : Nat} {options : MatchOptions} (runs : engine.Runs p.program)
    (placed : p.program.groups.Placed) (found : engine.Finds p c subject start options) :
    c.Fit p.groupCount subject start options := by
  obtain ⟨used, same, reports⟩ := found.reports runs placed
  have fit := reports.fit
  refine ⟨fit.length, fit.whole, fit.ordered, fit.extracts, fun cut => ?_⟩
  rw [← same .partialSoft (by decide) (by decide), ← same .partialHard (by decide) (by decide)]
  exact fit.partly cut

namespace Pattern

variable {p : Pattern} {c : Captures} {subject : ByteArray} {start : Nat} {options : MatchOptions}

theorem Finds.fit (placed : p.program.groups.Placed) (found : p.Finds c subject start options) :
    c.Fit p.groupCount subject start options :=
  Engine.Finds.fit p.runs_engine placed (finds_iff.mp found)

/-- A match starts at or after the place that was asked for, and does not end before it starts,
unless an assertion can move its start. -/
theorem Finds.starts (placed : p.program.groups.Placed) (found : p.Finds c subject start options)
    (steady : p.program.groups.Steady) : start ≤ c.whole.start ∧ c.whole.start ≤ c.whole.stop := by
  obtain ⟨used, _, reports⟩ := found.reports placed
  exact reports.starts steady

end Pattern

end Regex
