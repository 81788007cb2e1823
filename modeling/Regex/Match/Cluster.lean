import Regex.Match.Subject
import Regex.Unicode.GraphemeClass

/-!
# User-perceived characters in a subject

* `Subject.clusterEnd`: the place after a user-perceived character.
* `Subject.clusterBack`: where matching goes on when one of a row of them is given back.
-/

namespace Regex.Match.Subject

open Unicode

/-- The number of flag letters in a row that end before `i`. -/
def flagLetters (s : Subject) : Nat → Nat
  | 0 => 0
  | i + 1 => if GraphemeClass.of (s.code i) = .regionalIndicator then s.flagLetters i + 1 else 0

/-- The end of a user-perceived character that goes on at `i`. `left` is the class of what comes
before, format marks after a pictograph not counted, and `joined` tells whether that is a joiner
after a pictograph. -/
def clusterFrom (s : Subject) (stop : Nat) (fuel i : Nat) (left : GraphemeClass) (joined : Bool) :
    Nat :=
  match fuel with
  | 0 => i
  | fuel + 1 =>
    if stop ≤ i then i
    else
      let right := GraphemeClass.of (s.code i)
      if !left.joins right then i
      else if left = .joiner && right = .pictograph && !joined then i
      else if left = .regionalIndicator && right = .regionalIndicator &&
          s.flagLetters (s.previous i) % 2 = 1 then i
      else
        let left' := if right = .extend && left = .pictograph then left else right
        s.clusterFrom stop fuel (s.next i) left' (left = .pictograph && right = .joiner)

/-- The end of the user-perceived character that starts at `i`, which is before `stop`. -/
def clusterEnd (s : Subject) (i stop : Nat) : Nat :=
  s.clusterFrom stop (stop - i) (s.next i) (GraphemeClass.of (s.code i)) false

/-- Goes back from `i` over characters that belong together with the one after them, but not beyond
`least`. -/
def clusterBackFrom (s : Subject) (least : Nat) : Nat → Nat → Nat
  | 0, i => i
  | fuel + 1, i =>
    if i ≤ least then i
    else
      let before := s.previous i
      if (GraphemeClass.of (s.code before)).joins (GraphemeClass.of (s.code i)) then
        s.clusterBackFrom least fuel before
      else i

/-- The place before the last user-perceived character before `i`. -/
def clusterBack (s : Subject) (i least : Nat) : Nat :=
  s.clusterBackFrom least (i - least) (s.previous i)

end Regex.Match.Subject
