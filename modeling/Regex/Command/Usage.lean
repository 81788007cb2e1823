import Regex.Text.Decimal
import Regex.Text.Quoted

/-!
# Usage of the command

* `usageText`: the help text.
* `UsageError`: what can be wrong with a list of arguments, and how it is worded.
-/

namespace Regex.Command

/-- The help text. -/
def usageText : String :=
"usage: pcregex [OPTIONS] PATTERN [SUBJECT]...
       pcregex --describe CODE

Matches PATTERN against each SUBJECT (or each line of stdin) and prints the
capture ranges of the first match.

options:
  -i                     caseless matching
  -m                     ^ and $ match at internal newlines
  -s                     . matches newlines
  -x                     extended (free-spacing) syntax
  -u                     UTF-8 mode
  -U                     ungreedy quantifiers
  -A                     anchor the pattern at the start offset
  --newline KIND         cr, lf, crlf, any, anycrlf or nul
  --offset N             byte offset to start matching from
  --notbol, --noteol     subject start/end is not a line start/end
  --notempty             reject empty matches
  --partial soft|hard    report partial matches
  --describe CODE        print the description of an engine error code
  -v                     more logging (repeatable); PCREGEX_LOG overrides
  -h, --help             show this help"

/-- What is wrong with a list of arguments. -/
inductive UsageError where
  /-- There is no such option. -/
  | invalidOption (option : String)
  /-- An option has no use for a value. -/
  | unexpectedValue (option : String) (value : List UInt8)
  /-- An option lacks its value. -/
  | missingValue (option : String)
  | badNumber (value : String) (fault : Decimal.Fault)
  | notText (value : List UInt8)
  | unknownNewline (kind : String)
  | unknownPartial (kind : String)
  | missingPattern
  deriving DecidableEq

/-- The wording of an error. -/
def UsageError.message : UsageError → String
  | .invalidOption option => "invalid option '" ++ option ++ "'"
  | .unexpectedValue option value =>
    "unexpected argument for option '" ++ option ++ "': " ++ Quoted.bytes value
  | .missingValue option => "missing argument for option '" ++ option ++ "'"
  | .badNumber value fault =>
    "cannot parse argument " ++ Quoted.text value ++ ": " ++ fault.message
  | .notText value => "argument is invalid unicode: " ++ Quoted.bytes value
  | .unknownNewline kind => "unknown newline convention '" ++ kind ++ "'"
  | .unknownPartial kind => "unknown partial mode '" ++ kind ++ "'"
  | .missingPattern => "missing PATTERN"

end Regex.Command
