/-!
# Errors

* `Error`: what compiling or matching reports, with the domain it comes from, a number and a text.
* `describeErrorCode`: the fixed text of each number of the match domain and of the options domain.

Compile errors carry the place in the pattern, all others none.
-/

namespace Regex

/-- Where an error is raised. -/
inductive ErrorDomain where
  /-- In a pattern. -/
  | compile
  /-- During a match. -/
  | matching
  /-- Among the options, before the engine is reached. -/
  | options
  deriving DecidableEq

/-- The word for a domain. -/
def ErrorDomain.name : ErrorDomain → String
  | .compile => "compile"
  | .matching => "match"
  | .options => "options"

/-! ### Numbers with a name -/

namespace ErrorCode

/-- There is no match. -/
def noMatch : Int := -1

/-- There is a partial match. -/
def partialMatch : Int := -2

/-- Data that make no sense were given. -/
def badData : Int := -29

/-- A program is none, or has been overwritten. -/
def badMagic : Int := -31

/-- A program was compiled for units of another width. -/
def badMode : Int := -32

/-- The start is beyond the end of the subject. -/
def badOffset : Int := -33

/-- Unknown or contradictory options were given. -/
def badOption : Int := -34

/-- The start is inside a character. -/
def badUtfOffset : Int := -36

/-- A callout has ended the match. -/
def callout : Int := -37

/-- A program makes no sense when it is run. -/
def internal : Int := -44

/-- Compiled machine code ran out of stack. -/
def jitStackLimit : Int := -46

/-- Matching took too many steps. -/
def matchLimit : Int := -47

/-- There is not enough room. -/
def noMemory : Int := -48

/-- There is nothing where something has to be given. -/
def nullArgument : Int := -51

/-- A call led to itself at one place. -/
def recursionLoop : Int := -52

/-- A match was nested too deeply. -/
def depthLimit : Int := -53

/-- What was asked for has not been set. -/
def unset : Int := -55

/-- A limit on offsets was given without the option for it. -/
def badOffsetLimit : Int := -56

/-- A match took too much memory. -/
def heapLimit : Int := -63

/-- Two newline conventions were asked for. -/
def conflictingNewline : Int := -1001

/-- Two meanings of the escape for line endings were asked for. -/
def conflictingBsr : Int := -1002

/-- A check that safe calls need was to be left out. -/
def uncheckedUtf : Int := -1003

/-- A setting was refused. -/
def contextSetting : Int := -1004

end ErrorCode

/-- The text for a number that has none. -/
def unknownError : String := "unknown error code"

/-- The texts of the numbers -1, -2, ... in order. -/
def matchTexts : Array String :=
  #["no match",
    "partial match",
    "UTF-8 error: 1 byte missing at end",
    "UTF-8 error: 2 bytes missing at end",
    "UTF-8 error: 3 bytes missing at end",
    "UTF-8 error: 4 bytes missing at end",
    "UTF-8 error: 5 bytes missing at end",
    "UTF-8 error: byte 2 top bits not 0x80",
    "UTF-8 error: byte 3 top bits not 0x80",
    "UTF-8 error: byte 4 top bits not 0x80",
    "UTF-8 error: byte 5 top bits not 0x80",
    "UTF-8 error: byte 6 top bits not 0x80",
    "UTF-8 error: 5-byte character is not allowed (RFC 3629)",
    "UTF-8 error: 6-byte character is not allowed (RFC 3629)",
    "UTF-8 error: code points greater than 0x10ffff are not defined",
    "UTF-8 error: code points 0xd800-0xdfff are not defined",
    "UTF-8 error: overlong 2-byte sequence",
    "UTF-8 error: overlong 3-byte sequence",
    "UTF-8 error: overlong 4-byte sequence",
    "UTF-8 error: overlong 5-byte sequence",
    "UTF-8 error: overlong 6-byte sequence",
    "UTF-8 error: isolated byte with 0x80 bit set",
    "UTF-8 error: illegal byte (0xfe or 0xff)",
    "UTF-16 error: missing low surrogate at end",
    "UTF-16 error: invalid low surrogate",
    "UTF-16 error: isolated low surrogate",
    "UTF-32 error: code points 0xd800-0xdfff are not defined",
    "UTF-32 error: code points greater than 0x10ffff are not defined",
    "bad data value",
    "patterns do not all use the same character tables",
    "magic number missing",
    "pattern compiled in wrong mode: 8/16/32-bit error",
    "bad offset value",
    "bad option value",
    "invalid replacement string",
    "bad offset into UTF string",
    "callout error code",
    "invalid data in workspace for DFA restart",
    "too much recursion for DFA matching",
    "backreference condition or recursion test is not supported for DFA matching",
    "function is not supported for DFA matching",
    "pattern contains an item that is not supported for DFA matching",
    "workspace size exceeded in DFA matching",
    "internal error: pattern overwritten?",
    "bad JIT option",
    "JIT stack limit reached",
    "match limit exceeded",
    "no more memory",
    "unknown substring",
    "non-unique substring name",
    "NULL argument passed with non-zero length",
    "nested recursion at the same subject position",
    "matching depth limit exceeded",
    "requested value is not available",
    "requested value is not set",
    "offset limit set without PCRE2_USE_OFFSET_LIMIT",
    "bad escape sequence in replacement string",
    "expected closing curly bracket in replacement string",
    "bad substitution in replacement string",
    "match with end before start or start moved backwards is not supported",
    "too many replacements (more than INT_MAX)",
    "bad serialized data",
    "heap limit exceeded",
    "invalid syntax",
    "internal error: duplicate substitution match",
    "PCRE2_MATCH_INVALID_UTF is not supported for DFA matching",
    "invalid offset value"]

/-- The text of an error number of the match domain or of the options domain. -/
def describeErrorCode (code : Int) : String :=
  if code = ErrorCode.conflictingNewline then "more than one newline convention requested"
  else if code = ErrorCode.conflictingBsr then "more than one \\R convention requested"
  else if code = ErrorCode.uncheckedUtf then
    "skipping UTF validation requires the unchecked entry point"
  else if code = ErrorCode.contextSetting then "compile context rejected a setting"
  else if -67 ≤ code ∧ code ≤ -1 then matchTexts.getD (-code - 1).toNat unknownError
  else unknownError

/-- An error. -/
structure Error where
  domain : ErrorDomain
  code : Int
  message : String
  offset : Option Nat
  deriving DecidableEq

namespace Error

/-- An error with the fixed text of its number. -/
def ofCode (domain : ErrorDomain) (code : Int) : Error :=
  ⟨domain, code, describeErrorCode code, none⟩

/-- An error at a place of the pattern. -/
def inPattern (code : Int) (message : String) (offset : Nat) : Error :=
  ⟨.compile, code, message, some offset⟩

/-- An error before or behind the reading of a pattern, which points at its start. -/
def inSetup (code : Int) : Error := inPattern code (describeErrorCode code) 0

/-- The error with the engine's own reason added to its text. -/
def withDetail (e : Error) (engineCode : Int) (detail : String) : Error :=
  let code := toString engineCode
  { e with message := e.message ++ " (" ++ detail ++ ", engine code " ++ code ++ ")" }

/-- The text shown to a reader: the message, with the place if there is one. -/
def display (e : Error) : String :=
  match e.offset with
  | some offset => e.message ++ " at offset " ++ toString offset
  | none => e.message

end Error

end Regex
