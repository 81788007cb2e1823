import Regex.Captures
import Regex.Options

/-!
# Engine calls

How a matching engine is asked for a match.

* `Request`: one call, made of the subject, the place to start and the options.
* `Engine`: anything that answers requests.
* `Attempts`: the calls made for a request. A fast path with a small fixed stack may give up; then
  the call is made once more without it.
* `Engine.find`: what the last of these calls says.
-/

namespace Regex

/-- One call of an engine. -/
structure Request where
  subject : ByteArray
  start : Nat
  options : MatchOptions

/-- The request with the fast path switched off. -/
def Request.withoutFastPath (request : Request) : Request :=
  { request with options := request.options ||| .noJit }

/-- The calls made for a request, each with its answer: the first one, and the second if it is
made. -/
structure Attempts where
  first : Request × Answer
  again : Option (Request × Answer)

namespace Attempts

/-- All calls in order. -/
def toList (a : Attempts) : List (Request × Answer) := a.first :: a.again.toList

/-- The answer that counts: the one to the last call. -/
def answer (a : Attempts) : Answer :=
  match a.again with
  | some (_, answer) => answer
  | none => a.first.2

end Attempts

/-- An engine for one pattern: whether it has a fast path, and its answers. -/
structure Engine where
  studied : Bool
  run : Request → Answer

namespace Engine

/-- Whether a request is made again after `answer`: its fast path ran out of stack, and the engine
can do without. -/
def retries (engine : Engine) (request : Request) (answer : Answer) : Bool :=
  answer.code = ErrorCode.jitStackLimit && engine.studied && !request.options.contains .noJit

/-- The calls made for a request. -/
def attempts (engine : Engine) (request : Request) : Attempts :=
  let first := engine.run request
  if engine.retries request first then
    let again := request.withoutFastPath
    ⟨(request, first), some (again, engine.run again)⟩
  else ⟨(request, first), none⟩

/-- The first match that an engine finds, for a pattern with `groups` groups. -/
def find (engine : Engine) (groups : Nat) (request : Request) : Except Error (Option Captures) :=
  Captures.ofAnswer (engine.attempts request).answer (groups + 1)

end Engine

end Regex
