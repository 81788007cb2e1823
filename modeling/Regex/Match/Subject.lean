import Regex.Chars.Ascii
import Regex.Convention
import Regex.Text.Utf8
import Regex.Unicode.Runs

/-!
# Subjects

The text that is searched, as the places at which matching can stand.

* `Subject`: a text with the code point at each place and the byte offset of each place.
* `Subject.ofBytes`: every byte is a place.
* `Subject.ofChars`: every character is a place, and so is every byte that is part of none.
* `Subject.ofUnits`: every byte is a place, and a character is taken as a whole from its first byte.
* `Subject.lineEnd?`, `Subject.afterLineEnd`: where lines end.

A place is a number from 0 to `Subject.size`, which is the end. Only what is reported is in bytes.
-/

namespace Regex.Match

/-- A text and its places. -/
structure Subject where
  bytes : ByteArray
  /-- The code point at each place but the end. -/
  codes : Array Nat
  /-- The byte offset of each place but the end. -/
  offsets : Array Nat
  /-- How many places each character takes; empty if it is one place each. -/
  widths : Array Nat

namespace Subject

/-- What stands for a byte that is part of no character. -/
def brokenCode : Nat := 0x110000

/-- The number of places, the end not counted. -/
def size (s : Subject) : Nat := s.codes.size

/-- The code point at a place. -/
def code (s : Subject) (i : Nat) : Nat := s.codes.getD i brokenCode

/-- The byte offset of a place. -/
def offset (s : Subject) (i : Nat) : Nat := s.offsets.getD i s.bytes.size

/-- The place after the character at `i`. -/
def next (s : Subject) (i : Nat) : Nat := i + s.widths.getD i 1

/-- The place of the character that ends at `i`; the first place has none before it. -/
def previous (s : Subject) (i : Nat) : Nat :=
  if s.widths.isEmpty then i - 1 else go (i - 1)
where
  /-- The last place up to `i` whose byte does not continue a character. -/
  go : Nat → Nat
    | 0 => 0
    | i + 1 =>
      if Chars.between 0x80 0xBF (s.bytes.get! (s.offset (i + 1))).toNat then go i else i + 1

/-- Whether there is a character right before `i`. -/
def hasPrevious (s : Subject) (i : Nat) : Bool := 0 < i && s.code (s.previous i) != brokenCode

/-- The place at or before a byte offset. -/
def placeAt (s : Subject) (offset : Nat) : Nat :=
  if offset < s.bytes.size then Unicode.countUpTo s.offsets offset 0 s.offsets.size - 1 else s.size

/-- Every byte as a character. -/
def ofBytes (bytes : ByteArray) : Subject where
  bytes := bytes
  codes := bytes.data.map UInt8.toNat
  offsets := Array.range bytes.size
  widths := #[]

/-- The codes and offsets of the characters of some bytes, of which the first has the offset
`offset`. -/
def decode (offset : Nat) (codes offsets : Array Nat) : List UInt8 → Array Nat × Array Nat
  | [] => (codes, offsets)
  | lead :: rest =>
    if lead < 0x80 then decode (offset + 1) (codes.push lead.toNat) (offsets.push offset) rest
    else
      match Utf8.leadingDefect? lead rest with
      | some _ => decode (offset + 1) (codes.push brokenCode) (offsets.push offset) rest
      | none =>
        let n := Utf8.continuationCount lead
        decode (offset + 1 + n) (codes.push (Utf8.codePoint lead (rest.take n)))
          (offsets.push offset) (rest.drop n)
termination_by bytes => bytes.length
decreasing_by all_goals simp only [List.length_drop, List.length_cons]; omega

/-- A text of characters. -/
def ofChars (bytes : ByteArray) : Subject :=
  let (codes, offsets) := decode 0 #[] #[] bytes.toList
  ⟨bytes, codes, offsets, #[]⟩

/-- What is taken at each byte: the code point and the number of bytes. -/
def decodeUnits (codes widths : Array Nat) : List UInt8 → Array Nat × Array Nat
  | [] => (codes, widths)
  | lead :: rest =>
    let n := if lead < 0xC0 then 0 else min (Utf8.continuationCount lead) rest.length
    decodeUnits (codes.push (Utf8.codePoint lead (rest.take n))) (widths.push (n + 1)) rest

/-- A text of characters into which matching can stop at any byte. -/
def ofUnits (bytes : ByteArray) : Subject :=
  let (codes, widths) := decodeUnits #[] #[] bytes.toList
  ⟨bytes, codes, Array.range bytes.size, widths⟩

/-- The place after the line ending at `i` in the text before `stop`, if there is one. -/
def lineEnd? (s : Subject) (n : Newline) (i stop : Nat) : Option Nat :=
  if stop ≤ i then none
  else
    let next := s.next i
    match n.span (s.code i) (if next < stop then some (s.code next) else none) with
    | 0 => none
    | 1 => some next
    | _ => some (s.next next)

/-- Whether a line ending comes right before `i`. -/
def afterLineEnd (s : Subject) (n : Newline) (i : Nat) : Bool :=
  if i = 0 then false
  else
    let before := s.previous i
    if n = .crlf then
      0 < before && s.code before == 0x0A && s.code (s.previous before) == 0x0D
    else n.span (s.code before) none != 0

/-- The first place from `i` up to `stop` that `found` holds of, or else `stop`. -/
def seek (s : Subject) (found : Nat → Bool) (i stop : Nat) : Nat :=
  if i < stop then if found i then i else seek s found (i + 1) stop else stop
termination_by stop - i

end Subject

end Regex.Match
