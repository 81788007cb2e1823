import Mathlib.Order.Nat
import Mathlib.Tactic.Common
import Regex.Match.Item

/-!
# Items only go forward

An item that takes text ends at or after the place where it started, and what is given back of a row
never lies before its start.  Nothing else about items is needed to bound the ranges of a match:
wherever matching can go back, it is a lookbehind or an older state that takes it there.

* `Context.le_probe`, `Context.le_takeSome`, `Context.le_takeRef`: one character, a row of them, the
  text of a group.
* `Context.le_takeRefs`: a row of copies of the text of a group, with all places between them.
-/

namespace Regex.Match

open Chars Code Syntax

namespace Subject

variable (s : Subject)

theorem le_next (i : Nat) : i ≤ s.next i := Nat.le_add_right _ _

theorem le_clusterFrom (stop fuel i : Nat) (left : Unicode.GraphemeClass) (joined : Bool) :
    i ≤ s.clusterFrom stop fuel i left joined := by
  induction fuel generalizing i left joined with
  | zero => simp [clusterFrom]
  | succ fuel ih =>
      rw [clusterFrom]
      dsimp only
      split_ifs
      · exact le_rfl
      · exact le_rfl
      · exact le_rfl
      · exact le_rfl
      · exact (s.le_next i).trans (ih _ _ _)
      · exact (s.le_next i).trans (ih _ _ _)

theorem le_clusterEnd (i stop : Nat) : i ≤ s.clusterEnd i stop :=
  (s.le_next i).trans (s.le_clusterFrom _ _ _ _ _)

end Subject

namespace Context

variable (ctx : Context) {r : Region} {t : Test} {casing : Casing}

theorem le_probeLineEnding {place next : Nat} {inRow : Bool}
    (h : (ctx.probeLineEnding r place inRow).next = some next) : place ≤ next := by
  have one := ctx.subject.le_next place
  have two := ctx.subject.le_next (ctx.subject.next place)
  unfold probeLineEnding at h
  dsimp only at h
  split at h
  · split at h
    · simp only [Probe.accept, Option.some_inj] at h
      split at h <;> omega
    · simp only [Option.some_inj] at h
      omega
  · simp only [Probe.accept, Option.some_inj] at h
    omega
  · split at h
    · simp only [Probe.accept, Option.some_inj] at h
      omega
    · simp [Probe.reject] at h

/-- A character ends at or after the place where it starts. -/
theorem le_probe {place next : Nat} {inRow : Bool}
    (h : (ctx.probe r t place inRow).next = some next) : place ≤ next := by
  have one := ctx.subject.le_next place
  have all := ctx.subject.le_clusterEnd place r.stop
  unfold probe at h
  split at h
  · split_ifs at h <;> simp_all [Probe.reject, Probe.rejectAt]
  · split at h
    · simp [Probe.rejectAt] at h
    · split at h
      · simp only [Probe.accept, Option.some_inj] at h
        omega
      · exact ctx.le_probeLineEnding h
      · simp only [Option.some_inj] at h
        omega
      · split at h
        · simp only [Probe.accept, Option.some_inj] at h
          omega
        · simp [Probe.reject] at h

theorem le_takeCodes (left count place : Nat) :
    place ≤ (ctx.takeCodes r t left count place).place := by
  induction left generalizing count place with
  | zero => simp [takeCodes]
  | succ left ih =>
      rw [takeCodes]
      split_ifs
      · exact (ctx.subject.le_next place).trans (ih _ _)
      · exact le_rfl
      · exact le_rfl

theorem le_takeOneByOne (touch : Touch) (left count place : Nat) :
    place ≤ (ctx.takeOneByOne r t touch left count place).place := by
  induction left generalizing count place touch with
  | zero => simp [takeOneByOne]
  | succ left ih =>
      rw [takeOneByOne]
      cases found : (ctx.probe r t place true).next with
      | none => exact le_rfl
      | some next =>
          dsimp only
          split_ifs
          · exact le_rfl
          · exact (ctx.le_probe found).trans (ih _ _ _)

/-- A row of characters ends at or after the place where it starts. -/
theorem le_takeSome (max : Option Nat) (place : Nat) :
    place ≤ (ctx.takeSome r t max place).place := by
  unfold takeSome
  dsimp only
  split_ifs
  · exact ctx.le_takeCodes _ _ _
  · exact ctx.le_takeOneByOne _ _ _ _

theorem le_takeText {stop fuel source place next : Nat}
    (h : (ctx.takeText r casing stop fuel source place).next = some next) : place ≤ next := by
  induction fuel generalizing source place with
  | zero =>
      simp only [takeText, Probe.accept, Option.some_inj] at h
      omega
  | succ fuel ih =>
      rw [takeText] at h
      split_ifs at h
      · simp only [Probe.accept, Option.some_inj] at h
        omega
      · simp [Probe.rejectAt] at h
      · simp [Probe.reject] at h
      · exact (ctx.subject.le_next place).trans (ih h)
      · simp [Probe.reject] at h

/-- The text of a group, taken once more, ends at or after the place where it starts. -/
theorem le_takeRef {text : Option Span} {place next : Nat}
    (h : (ctx.takeRef r casing text place).next = some next) : place ≤ next := by
  unfold takeRef at h
  cases text with
  | none =>
      dsimp only at h
      split_ifs at h <;> simp_all [Probe.reject, Probe.rejectAt, Probe.accept]
  | some text =>
      dsimp only at h
      split at h
      · split_ifs at h <;> simp [Probe.reject, Probe.rejectAt] at h
      · exact ctx.le_takeText h

/-- Of a row of copies, the last one ends at or after the start of the row, and so does each one
before it. -/
theorem le_takeRefs (r : Region) (casing : Casing) (text : Option Span) (max : Option Nat)
    (fuel : Nat) (places : List Nat) (place : Nat) :
    place ≤ (ctx.takeRefs r casing text max fuel places place).2.1 ∧
      ∀ p ∈ (ctx.takeRefs r casing text max fuel places place).1, p ∈ places ∨ place ≤ p := by
  induction fuel generalizing places place with
  | zero => exact ⟨le_rfl, fun p mem => Or.inl mem⟩
  | succ fuel ih =>
      rw [takeRefs]
      split_ifs
      · exact ⟨le_rfl, fun p mem => Or.inl mem⟩
      · split
        · next next _ taken =>
            have le : place ≤ next := ctx.le_takeRef (congrArg Probe.next taken)
            obtain ⟨far, between⟩ := ih (place :: places) next
            refine ⟨le.trans far, fun p mem => ?_⟩
            rcases between p mem with known | later
            · rcases List.mem_cons.mp known with rfl | known
              · exact Or.inr le_rfl
              · exact Or.inl known
            · exact Or.inr (le.trans later)
        · exact ⟨le_rfl, fun p mem => Or.inl mem⟩

end Context

end Regex.Match
