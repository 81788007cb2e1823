import Regex.Proofs.Agreement
import Regex.Proofs.Text.WellFormed

/-!
# The check of a subject

A subject in UTF mode is looked through for defects before it is searched, and a text, which cannot
have any, is not.  So what the check lets pass has to be what can be a text.

* `Program.utfFault?_zero`: the check from the start on finds nothing in well-formed bytes, and
  something in all others.
* `Pattern.refused_of_not_wellFormed`: what it finds is what is returned.
* `Pattern.refused_iff_not_wellFormed`: bytes are refused with the number of a defect if and only if
  they are not well-formed, whatever the pattern and the options.
-/

namespace Regex

/-- Options that have a name are known to the engine. -/
theorem MatchOptions.IsNamed.known {o : MatchOptions} (named : o.IsNamed) :
    o.bits &&& ~~~Program.matchFlags = 0 := by
  have fewer : ~~~Program.matchFlags = ~~~MatchOptions.all.bits &&& ~~~Program.matchFlags := by
    decide
  rw [fewer, ← UInt32.and_assoc, named, UInt32.zero_and]

namespace Program

theorem stepBack_zero (bytes : ByteArray) (n : Nat) : stepBack bytes n 0 = 0 := by
  cases n <;> rfl

/-- **The check of a whole subject finds nothing if and only if it is well-formed.** -/
theorem utfFault?_zero (p : Program) (bytes : ByteArray) :
    p.utfFault? bytes 0 = none ↔ Utf8.WellFormed bytes.data.toList := by
  constructor
  · intro sound
    unfold utfFault? at sound
    extract_lets inside first at sound
    split_ifs at sound with continues
    -- no character comes before the start, so all of them are looked at
    have whole : (bytes.extract first bytes.size).toList = bytes.data.toList := by
      rw [show first = 0 from stepBack_zero bytes p.farthest, ByteArray.extract_zero_size,
        Utf8.toList_eq]
    rw [Option.map_eq_none_iff, whole] at sound
    exact Utf8.wellFormed_iff.2.mpr sound
  · intro formed
    have valid := Utf8.defect?_eq_none_iff.mp (Utf8.wellFormed_iff.2.mp formed)
    exact utfFault?_eq_none valid (Nat.zero_le _) valid.startsAt_zero

end Program

namespace Pattern

variable {p : Pattern} {options : MatchOptions} {subject : ByteArray}

/-- Bytes that are not well-formed are refused with the number of a defect. -/
theorem refused_of_not_wellFormed (utf : p.program.dialect.utf = true)
    (whole : p.program.allowsBroken = false) (named : options.IsNamed)
    (checked : options.contains .noUtfCheck = false) (soft : options.contains .partialSoft = false)
    (hard : options.contains .partialHard = false)
    (broken : ¬Utf8.WellFormed subject.data.toList) :
    ∃ code, p.firstMatchBytes subject 0 options = .error (.ofCode .matching code) ∧
      -23 ≤ code ∧ code ≤ -3 := by
  cases fault : p.program.utfFault? subject 0 with
  | none => exact absurd ((p.program.utfFault?_zero subject).mp fault) broken
  | some code =>
      have range : -23 ≤ code ∧ code ≤ -3 := by
        rcases Program.utfFault?_code fault with ⟨-, later⟩ | range
        · exact absurd later (Nat.lt_irrefl 0)
        · exact range
      have checks : p.program.checks ⟨subject, 0, options⟩ = true := by
        simp [Program.checks, utf, whole, checked]
      have run : p.program.run ⟨subject, 0, options⟩ = ⟨code, #[]⟩ :=
        Program.run_of_fault named.known soft hard checks fault
      refine ⟨code, ?_, range⟩
      unfold firstMatchBytes bytesRequest
      rw [checked, if_neg Bool.false_ne_true]
      show p.exec ⟨subject, 0, options⟩ = _
      rw [exec_eq (Nat.zero_le _), run]
      exact Captures.ofAnswer_of_lt (by omega) _

/-- What is refused with the number of a defect is not well-formed. -/
theorem not_wellFormed_of_refused {e : Error} (eq : p.firstMatchBytes subject 0 options = .error e)
    (matching : e.domain = .matching) (range : -23 ≤ e.code ∧ e.code ≤ -3) :
    ¬Utf8.WellFormed subject.data.toList := by
  intro formed
  unfold firstMatchBytes bytesRequest at eq
  split_ifs at eq
  · cases eq
    cases matching
  -- no other reason to fail has such a number
  have eq : p.exec ⟨subject, 0, options⟩ = .error e := eq
  obtain ⟨code, rfl, why⟩ := error_of_exec eq
  have range : -23 ≤ code ∧ code ≤ -3 := range
  rcases why with ⟨rfl, -⟩ | mem | fault
  · exact absurd range (by decide)
  · simp only [List.mem_cons, List.not_mem_nil, or_false] at mem
    rcases mem with rfl | rfl | rfl
    all_goals exact absurd range (by decide)
  · rw [(p.program.utfFault?_zero subject).mpr formed] at fault
    cases fault

/-- **Bytes are refused for a defect if and only if they are not UTF-8.**  A pattern works on
characters by the option for that or by a setting at its head.  For such a pattern the subject is
checked, and it is refused with the number of a defect exactly if it is not made of characters in
their listed forms; and the bytes made of these are exactly those of texts. -/
theorem refused_iff_not_wellFormed {source : String} {given : CompileOptions}
    (compiled : compile source given = .ok p) (named : given.IsNamed) :
    (p.program.dialect.utf = true ↔ given.contains .utf = true ∨
      given.contains .literal = false ∧ ∃ settings stop,
        Syntax.Setting.readAll source.length 0 source.toList = .ok (settings, stop) ∧
          .utf ∈ settings) ∧
    (p.program.dialect.utf = true → ∀ (subject : ByteArray) (options : MatchOptions),
      options.IsNamed → options.contains .noUtfCheck = false →
        options.contains .partialSoft = false → options.contains .partialHard = false →
          ((∃ e, p.firstMatchBytes subject 0 options = .error e ∧ e.domain = .matching ∧
              -23 ≤ e.code ∧ e.code ≤ -3) ↔
            ¬Utf8.WellFormed subject.data.toList)) ∧
    ∀ subject : ByteArray,
      (Utf8.WellFormed subject.data.toList ↔ ∃ text : String, text.toUTF8 = subject) := by
  refine ⟨utf_iff_of_compile compiled, fun utf subject options known checked soft hard => ?_,
    fun subject => ?_⟩
  · constructor
    · rintro ⟨e, eq, matching, range⟩
      exact not_wellFormed_of_refused eq matching range
    · intro broken
      obtain ⟨code, eq, range⟩ := refused_of_not_wellFormed utf (whole_of_compile compiled named)
        known checked soft hard broken
      exact ⟨_, eq, rfl, range⟩
  · rw [Utf8.wellFormed_iff.1]
    refine exists_congr fun text => ?_
    rw [Utf8.encode, Utf8.toList_eq, Array.toList_inj]
    exact ⟨ByteArray.ext, congrArg ByteArray.data⟩

/-- A surrogate, which a pattern with a setting at its head refuses. -/
theorem refused_iff_not_wellFormed_surrogate :
    ∃ p, compile "(*UTF)." .multiline = .ok p ∧ p.program.dialect.utf = true ∧
      ∃ e, p.firstMatchBytes ⟨#[0xED, 0xA0, 0x80]⟩ 0 .notempty = .error e ∧
        e.domain = .matching ∧ -23 ≤ e.code ∧ e.code ≤ -3 := by
  obtain ⟨p, compiled⟩ := eq_ok_of_isOk (x := compile "(*UTF)." .multiline) (by decide +kernel)
  obtain ⟨utf, refused, texts⟩ := refused_iff_not_wellFormed compiled (by decide)
  have utf := utf.mpr (Or.inr ⟨by decide, [.utf], 6, rfl, by decide⟩)
  have broken : ¬Utf8.WellFormed [0xED, 0xA0, 0x80] := by
    rw [Utf8.wellFormed_iff.2]
    decide +kernel
  exact ⟨p, compiled, utf,
    (refused utf _ _ (by decide) (by decide) (by decide) (by decide)).mpr broken⟩

end Pattern

end Regex
