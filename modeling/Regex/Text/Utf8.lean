/-!
# UTF-8

Byte sequences as text.

* `Utf8.Defect`: the twenty-one ways in which bytes fail to be UTF-8.
* `Utf8.defect?`: the first defect of a byte sequence, with its place.
* `Utf8.lossy`: the text of a byte sequence, each broken part shown as U+FFFD.
-/

namespace Regex.Utf8

/-- A way in which bytes fail to be UTF-8. -/
inductive Defect where
  /-- The text ends inside a character that lacks `count` more bytes. -/
  | missing (count : Nat)
  /-- Byte number `index` of a character is not a continuation byte. -/
  | notContinuation (index : Nat)
  /-- The character is `size` bytes long, which only larger code points would need. -/
  | tooLong (size : Nat)
  | tooLarge
  | surrogate
  /-- The character takes `size` bytes although fewer would do. -/
  | overlong (size : Nat)
  | isolatedContinuation
  | illegalByte
  deriving DecidableEq

/-- The number under which a defect is reported. -/
def Defect.code : Defect → Int
  | .missing count => -2 - count
  | .notContinuation index => -6 - index
  | .tooLong size => -8 - size
  | .tooLarge => -15
  | .surrogate => -16
  | .overlong size => -15 - size
  | .isolatedContinuation => -22
  | .illegalByte => -23

/-- The number of continuation bytes that the leading byte `b` announces. -/
def continuationCount (b : UInt8) : Nat :=
  if b < 0xC0 then 0
  else if b < 0xE0 then 1
  else if b < 0xF0 then 2
  else if b < 0xF8 then 3
  else if b < 0xFC then 4
  else 5

/-- Whether a byte continues a character. -/
def isContinuation (b : UInt8) : Bool := b &&& 0xC0 == 0x80

/-- The first of `bytes`, numbered from `index`, that is not a continuation byte. -/
def firstNonContinuation? (index : Nat) : List UInt8 → Option Nat
  | [] => none
  | b :: rest => if isContinuation b then firstNonContinuation? (index + 1) rest else some index

/-- What is wrong with a character made of the leading byte `lead` and the continuation bytes
`tail`. The second byte is judged before the others are looked at, except that its form comes first
of all. -/
def characterDefect? (lead : UInt8) (tail : List UInt8) : Option Defect :=
  match tail with
  | [] => none
  | second :: rest =>
    let malformed := (firstNonContinuation? 3 rest).map Defect.notContinuation
    if !isContinuation second then some (.notContinuation 2)
    else match rest.length with
      | 0 => if lead &&& 0x3E == 0 then some (.overlong 2) else none
      | 1 =>
        malformed.or <|
          if lead == 0xE0 && second &&& 0x20 == 0 then some (.overlong 3)
          else if lead == 0xED && second ≥ 0xA0 then some .surrogate
          else none
      | 2 =>
        malformed.or <|
          if lead == 0xF0 && second &&& 0x30 == 0 then some (.overlong 4)
          else if lead > 0xF4 || (lead == 0xF4 && second > 0x8F) then some .tooLarge
          else none
      | 3 =>
        malformed.or <|
          if lead == 0xF8 && second &&& 0x38 == 0 then some (.overlong 5) else some (.tooLong 5)
      | _ =>
        malformed.or <|
          if lead == 0xFC && second &&& 0x3C == 0 then some (.overlong 6) else some (.tooLong 6)

/-- What is wrong with the character that starts with `lead` and is followed by `rest`. -/
def leadingDefect? (lead : UInt8) (rest : List UInt8) : Option Defect :=
  if lead < 0x80 then none
  else if lead < 0xC0 then some .isolatedContinuation
  else if lead ≥ 0xFE then some .illegalByte
  else
    let n := continuationCount lead
    let tail := rest.take n
    if tail.length < n then some (.missing (n - tail.length)) else characterDefect? lead tail

/-- The first defect of a byte sequence with the number of bytes before the faulty character. -/
def defect? (offset : Nat) : List UInt8 → Option (Nat × Defect)
  | [] => none
  | lead :: rest =>
    match leadingDefect? lead rest with
    | some d => some (offset, d)
    | none =>
      let n := continuationCount lead
      defect? (offset + 1 + n) (rest.drop n)
termination_by bytes => bytes.length
decreasing_by simp only [List.length_drop, List.length_cons]; omega

/-- Whether a byte sequence is UTF-8. -/
def isValid (bytes : List UInt8) : Bool := (defect? 0 bytes).isNone

/-- The code point written by a whole character. -/
def codePoint (lead : UInt8) (tail : List UInt8) : Nat :=
  let kept := match tail.length with
    | 0 => lead.toNat
    | 1 => lead.toNat % 0x20
    | 2 => lead.toNat % 0x10
    | 3 => lead.toNat % 0x08
    | 4 => lead.toNat % 0x04
    | _ => lead.toNat % 0x02
  tail.foldl (fun n b => n * 0x40 + b.toNat % 0x40) kept

/-- A piece of text: a character, or the bytes of a broken one. -/
inductive Piece where
  | char (c : Char)
  | broken (bytes : List UInt8)

/-- The number of bytes after `lead` that belong to the same broken character: as many as could
still lead to a character. -/
def brokenTail (lead : UInt8) (rest : List UInt8) : Nat :=
  let accepts (second : UInt8) : Bool :=
    if lead == 0xE0 then 0xA0 ≤ second && second ≤ 0xBF
    else if lead == 0xED then 0x80 ≤ second && second ≤ 0x9F
    else if lead == 0xF0 then 0x90 ≤ second && second ≤ 0xBF
    else if lead == 0xF4 then 0x80 ≤ second && second ≤ 0x8F
    else isContinuation second
  if lead < 0xC2 || lead > 0xF4 then 0
  else match rest.take (continuationCount lead) with
    | [] => 0
    | second :: more =>
      if accepts second then 1 + (more.takeWhile isContinuation).length else 0

/-- Splits bytes into characters and broken parts. -/
def pieces : List UInt8 → List Piece
  | [] => []
  | lead :: rest =>
    match leadingDefect? lead rest with
    | none =>
      let n := continuationCount lead
      .char (Char.ofNat (codePoint lead (rest.take n))) :: pieces (rest.drop n)
    | some _ =>
      let n := brokenTail lead rest
      .broken (lead :: rest.take n) :: pieces (rest.drop n)
termination_by bytes => bytes.length
decreasing_by all_goals simp only [List.length_drop, List.length_cons]; omega

/-- The text of a byte sequence, with U+FFFD for each broken part. -/
def lossy (bytes : List UInt8) : String :=
  String.ofList <| (pieces bytes).map fun
    | .char c => c
    | .broken _ => '\uFFFD'

/-- The text of a byte sequence that is UTF-8. -/
def text? (bytes : List UInt8) : Option String :=
  if isValid bytes then some (lossy bytes) else none

/-- The bytes of a text. -/
def encode (text : String) : List UInt8 := text.toUTF8.toList

end Regex.Utf8
