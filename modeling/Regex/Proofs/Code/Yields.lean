import Mathlib.Tactic.Common
import Regex.Code.Assembly

/-!
# What assembling comes to

Assembling goes through a pattern with a state at hand and can be given up at any point.  A law
about it speaks of the runs that are not given up.

* `Assembling.Yields`: what holds of every result of a part of assembling, begun in some state.

There is one rule for each way of putting parts together, so that a proof follows the text of the
part that it is about.
-/

namespace Regex.Code.Assembling

open Syntax

/-- Whatever a part of assembling that begins in `a` comes to has a property. -/
def Yields {α : Type} (m : Assembling α) (a : Assembly) (P : α → Assembly → Prop) : Prop :=
  ∀ v a', m a = .ok (v, a') → P v a'

namespace Yields

variable {α β : Type} {m : Assembling α} {a : Assembly} {P P' : α → Assembly → Prop}
  {Q : β → Assembly → Prop}

theorem pure {v : α} (holds : P v a) : Yields (pure v) a P := by
  intro v' a' eq
  cases eq
  exact holds

theorem bind {f : α → Assembling β} (first : Yields m a P)
    (next : ∀ v a', P v a' → Yields (f v) a' Q) : Yields (m >>= f) a Q := by
  intro v' a' eq
  change (m a >>= fun r => f r.1 r.2) = .ok (v', a') at eq
  cases result : m a with
  | error fault =>
      rw [result] at eq
      cases eq
  | ok r =>
      rw [result] at eq
      exact next r.1 r.2 (first r.1 r.2 result) v' a' eq

theorem mono (yields : Yields m a P) (weaker : ∀ v a', P v a' → P' v a') : Yields m a P' :=
  fun v a' eq => weaker v a' (yields v a' eq)

theorem throw {fault : PatternFault} : Yields (throw fault : Assembling α) a P := by
  intro v a' eq
  cases eq

theorem get {P : Assembly → Assembly → Prop} (holds : P a a) : Yields get a P := by
  intro v a' eq
  cases eq
  exact holds

theorem modify {f : Assembly → Assembly} {P : Unit → Assembly → Prop} (holds : P () (f a)) :
    Yields (modify f) a P := by
  intro v a' eq
  cases eq
  exact holds

theorem modifyGet {f : Assembly → α × Assembly} (holds : P (f a).1 (f a).2) :
    Yields (modifyGet f) a P := by
  intro v a' eq
  have result : f a = (v, a') := Except.ok.inj eq
  rw [result] at holds
  exact holds

/-- Reading leaves the state as it is. -/
theorem lift {x : Reading α} (holds : ∀ v, x = .ok v → P v a) :
    Yields (liftM x) a P := by
  intro v a' eq
  change (x >>= fun v => .ok (v, a)) = .ok (v, a') at eq
  cases result : x with
  | error fault =>
      rw [result] at eq
      cases eq
  | ok v' =>
      rw [result] at eq
      cases eq
      exact holds v result

end Yields

end Regex.Code.Assembling
