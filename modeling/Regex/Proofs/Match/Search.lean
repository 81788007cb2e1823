import Regex.Match.Search
import Regex.Proofs.Match.Moves

/-!
# Where a search ends

A search tries one place after another and never goes back, so what it comes to was tried at or
after the place where it started.

* `Subject.le_seek`, `Search.le_nextStart?`, `Search.le_bump`: the next place to be tried lies
  ahead.
* `Found.All`: what is asked of what a search comes to.
* `Search.run_found`: what holds of matching at every place ahead holds of the search, and what
  holds of matching at the first place holds of an anchored one.
-/

namespace Regex.Match

open Code

namespace Subject

variable (s : Subject) (found : Nat → Bool)

theorem le_seek {i stop : Nat} (le : i ≤ stop) : i ≤ s.seek found i stop := by
  fun_induction seek s found i stop with
  | case1 => exact le_rfl
  | case2 i lt here ih => exact (Nat.le_succ i).trans (ih lt)
  | case3 i ge => exact le

theorem seek_le {i stop : Nat} (le : i ≤ stop) : s.seek found i stop ≤ stop := by
  fun_induction seek s found i stop with
  | case1 i lt here => exact le
  | case2 i lt here ih => exact ih lt
  | case3 i ge => exact le_rfl

end Subject

namespace Search

variable (s : Search)

theorem le_startsEnd {place : Nat} (le : place ≤ s.region.stop) : place ≤ s.startsEnd place := by
  unfold startsEnd
  split_ifs
  · exact Subject.le_seek _ _ le
  · exact le

theorem le_nextLine {place stop : Nat} (le : place ≤ stop) : place ≤ s.nextLine place stop := by
  unfold nextLine
  dsimp only
  have next := s.context.subject.le_seek (s.context.subject.afterLineEnd s.context.newline) le
  split_ifs
  · exact le_rfl
  · exact next.trans (Nat.le_succ _)
  · exact next

/-- The next start to be tried lies ahead. -/
theorem le_nextStart? {place next : Nat} (le : place ≤ s.region.stop)
    (eq : s.nextStart? place = some next) : place ≤ next := by
  have stop := s.le_startsEnd le
  have line := s.le_nextLine stop
  have seek := fun found => s.context.subject.le_seek found stop
  unfold nextStart? at eq
  extract_lets h stop' reached allowed at eq
  have ahead : ∀ found,
      reached (s.context.subject.seek found place (s.startsEnd place)) = some next →
        place ≤ next := by
    intro found eq
    unfold reached at eq
    split_ifs at eq
    exact Option.some_inj.mp eq ▸ seek found
  split_ifs at eq
  · exact (Option.some_inj.mp eq).le
  · exact ahead _ eq
  · exact Option.some_inj.mp eq ▸ line
  · exact ahead _ eq
  · exact (Option.some_inj.mp eq).le

/-- An anchored search skips no place. -/
theorem nextStart?_anchored (anchored : s.hints.anchored = true) {place next : Nat}
    (eq : s.nextStart? place = some next) : next = place := by
  unfold nextStart? at eq
  extract_lets h stop reached allowed at eq
  have anchored : h.anchored = true := anchored
  rw [if_pos anchored] at eq
  split_ifs at eq
  exact (Option.some_inj.mp eq).symm

theorem le_bump (place : Nat) : place ≤ s.bump place := by
  unfold bump
  dsimp only
  split_ifs
  · exact Nat.le_succ _
  · exact le_rfl

theorem bump_le {place : Nat} (le : place ≤ s.region.stop) : s.bump place ≤ s.region.stop := by
  unfold bump
  dsimp only
  split_ifs with between
  · simp only [Bool.and_eq_true, decide_eq_true_eq] at between
    omega
  · exact le

end Search

/-- What is asked of what a search comes to that looks no further back than `first`. -/
def Found.All (ctx : Context) (first : Nat) (Q : State → Prop) : Found → Prop
  | .matched s => Q s
  | .nothing (some place) => first ≤ place ∧ ctx.partiality ≠ .no
  | _ => True

/-- The first place at which the end of the subject was noted is kept. -/
theorem Found.All.note {ctx : Context} {first place : Nat} {Q : State → Prop} {noted : Option Nat}
    (all : (Found.nothing noted).All ctx first Q) (ahead : first ≤ place) {hitEnd : Bool}
    (sound : ctx.partiality = .no → hitEnd = false) :
    (Found.nothing (noted.or (if hitEnd then some place else none))).All ctx first Q := by
  cases noted with
  | some earlier => exact all
  | none =>
      cases hitEnd with
      | false => trivial
      | true => exact ⟨ahead, fun no => Bool.false_ne_true (sound no).symm⟩

namespace Search

variable {s : Search} {first : Nat} {Q : State → Prop}

/-- Whether matching at a place comes to nothing but what is asked for. -/
def Tried (s : Search) (Q : State → Prop) (place : Nat) : Prop :=
  ∀ ignored, let result := Context.run { s.context with ignoredSkips := ignored } place s.region
    (∀ st, result.1 = .matched st → Q st) ∧ (s.context.partiality = .no → result.2.hitEnd = false)

theorem runFrom_found
    (tried : ∀ place, first ≤ place → (s.hints.anchored = true → place = first) → s.Tried Q place)
    (fuel : Nat) {p : Progress} (ahead : first ≤ p.place) (inside : p.place ≤ s.region.stop)
    (once : s.hints.anchored = true → p.place = first)
    (noted : (Found.nothing p.partialStart).All s.context first Q) :
    (s.runFrom fuel p).All s.context first Q := by
  induction fuel generalizing p with
  | zero => exact noted
  | succ fuel ih =>
      unfold runFrom
      extract_lets ready
      have readied : ∀ place required, ready = some (place, required) →
          first ≤ place ∧ (s.hints.anchored = true → place = first) := by
        intro place required eq
        unfold ready at eq
        split_ifs at eq
        · obtain ⟨next, begun, eq⟩ := Option.bind_eq_some_iff.mp eq
          obtain ⟨_, _, eq⟩ := Option.bind_eq_some_iff.mp eq
          cases eq
          exact ⟨ahead.trans (s.le_nextStart? inside begun), fun anchored =>
            (s.nextStart?_anchored anchored begun).trans (once anchored)⟩
        · cases eq
          exact ⟨ahead, once⟩
      cases begun : ready with
      | none => exact noted
      | some start =>
          obtain ⟨place, required⟩ := start
          -- nothing before `first` is tried, and further starts lie behind the one that failed
          obtain ⟨ahead, here⟩ := readied place required begun
          have later := ahead.trans (s.context.subject.le_next place)
          have tried := tried place ahead here p.ignoredSkips
          dsimp only
          cases result :
            Context.run { s.context with ignoredSkips := p.ignoredSkips } place s.region with
          | mk outcome seen =>
              rw [result] at tried
              obtain ⟨matched, sound⟩ := tried
              dsimp only
              have noted := noted.note ahead sound
              generalize p.partialStart.or (if seen.hitEnd then some place else none) = noting
                at noted ⊢
              have goOn : ∀ next ignored, first ≤ next →
                  (if s.firstLine && (s.context.subject.lineEnd? s.context.newline place
                      s.region.stop).isSome then Found.nothing noting
                    else if s.hints.anchored || s.region.stop < next then .nothing noting
                    else s.runFrom fuel ⟨s.bump next, ignored, required, noting⟩).All
                      s.context first Q := by
                intro next ignored le
                split_ifs with ends beyond
                · exact noted
                · exact noted
                · simp only [Bool.or_eq_true, decide_eq_true_eq, not_or] at beyond
                  have inside : next ≤ s.region.stop := by omega
                  exact ih (le.trans (s.le_bump next)) (s.bump_le inside)
                    (fun anchored => absurd anchored beyond.1) noted
              cases outcome with
              | matched st => exact matched st rfl
              | partialMatch => exact noted
              | failed f =>
                  dsimp only
                  split
                  · exact noted
                  · rename_i next _
                    exact iteInduction (motive := fun found : Found => found.All s.context first Q)
                      (fun skips => goOn next _ (ahead.trans (Nat.le_of_lt skips)))
                      fun _ => goOn _ _ later
                  · exact goOn place _ ahead
                  · exact goOn _ _ later
              | _ => trivial

/-- **What holds of matching at every place ahead holds of the search**; and if the search is
anchored it is enough that it holds of matching at the first place. -/
theorem run_found
    (tried : ∀ place, first ≤ place → (s.hints.anchored = true → place = first) → s.Tried Q place)
    (inside : first ≤ s.region.stop) : (s.run first).All s.context first Q :=
  runFrom_found tried _ le_rfl inside (fun _ => rfl) trivial

end Search

end Regex.Match
