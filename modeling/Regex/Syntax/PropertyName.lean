import Regex.Chars.Property
import Regex.Syntax.Source

/-!
# Names of properties

* `PropertyName.table`: every property by its name. Names are compared without regard to case and to
  blanks, hyphens and underscores.
* `PropertyName.find?`: the property of a name, which may say what it is the name of, as in `sc=`.
* `Source.readProperty`: the property after `\p` or `\P`.
-/

namespace Regex.Syntax

open Chars Unicode

namespace PropertyName

/-- Whether a character does not count in a name. -/
def isIgnored (c : Char) : Bool :=
  c == '_' || c == '-' || c == ' ' || between 0x09 0x0D c.toNat

/-- The letters and digits of a name, in lower case. -/
def key (name : String) : List Char :=
  (name.toList.filter (!isIgnored ·)).map Char.toLower

/-- The families of categories by their letters. -/
def families : List (String × Category.Family) :=
  [("L", .letter), ("M", .mark), ("N", .number), ("P", .punctuation), ("S", .symbol),
   ("Z", .separator), ("C", .other)]

/-- Properties that have a name of their own. -/
def special : List (String × Property) :=
  [("Any", .any), ("L&", .casedLetter), ("LC", .casedLetter), ("Xan", .alphanumeric),
   ("Xsp", .space), ("Xps", .space), ("Xwd", .word), ("Xuc", .universalName)]

/-- The scripts by all of their names. -/
def scripts : List (List Char × Script) :=
  (Script.names.toList.zipIdx).flatMap fun (names, i) => names.map fun name => (key name, ⟨i⟩)

/-- The properties that are no scripts, by all of their names. -/
def others : List (List Char × Property) :=
  special.map (fun (name, p) => (key name, p)) ++
  families.map (fun (name, f) => (key name, .family f)) ++
  Category.abbreviations.map (fun (name, c) => (key name, .category c)) ++
  BidiClass.abbreviations.map (fun (name, b) => (key ("bidi" ++ name), .bidi b)) ++
  (BinaryProperty.all.toList.zipIdx).flatMap fun (p, i) =>
    p.names.map fun name => (key name, .binary i)

/-- Which property a name can be the name of. -/
inductive Scope where
  | anything
  | script
  | scriptExtensions
  | bidiClass
  deriving DecidableEq

/-- The names of the scopes. -/
def scopes : List (List Char × Scope) :=
  [("script", .script), ("sc", .script), ("scriptextensions", .scriptExtensions),
   ("scx", .scriptExtensions), ("bidiclass", .bidiClass), ("bc", .bidiClass)].map
    fun (name, scope) => (name.toList, scope)

/-- The property of a name within a scope. A script's name alone stands for its extensions. -/
def findIn? (scope : Scope) (name : List Char) : Option Property :=
  match scope with
  | .script => (scripts.lookup name).map .script
  | .scriptExtensions => (scripts.lookup name).map .scriptExtension
  | .bidiClass => others.lookup ("bidi".toList ++ name)
  | .anything => others.lookup name <|> (scripts.lookup name).map .scriptExtension

/-- Whether a character parts the scope from the name. -/
def isSeparator (c : Char) : Bool := c == ':' || c == '='

/-- The property that a key stands for. -/
def find? (key : List Char) : Option Property :=
  match key.span (!isSeparator ·) with
  | (_, []) => findIn? .anything key
  | (scope, _ :: name) => (scopes.lookup scope).bind (findIn? · name)

/-- The greatest number of characters in a key. -/
def maxKey : Nat := 49

end PropertyName

namespace Source

open PropertyName

/-- Where a property name of the wrong form is reported: after the first byte of the character that
does not fit, or at the end of the text. -/
def malformed (s : Source) (i : Nat) : PatternFault :=
  ⟨.malformedProperty, some (if i < s.size then s.offset i + 1 else s.offset i)⟩

/-- Reads the key of a property name in braces, `key` being what has been read of it in reverse. The
result tells whether a circumflex comes first. -/
def readKey (s : Source) (fuel i : Nat) (negated : Bool) (key : List Char) :
    Reading (Bool × List Char × Nat) :=
  match fuel, s.get? i with
  | 0, _ | _, none => .error (s.malformed i)
  | fuel + 1, some c =>
    if isIgnored c then s.readKey fuel (i + 1) negated key
    else if key.isEmpty && !negated && c == '^' then s.readKey fuel (i + 1) true key
    else if c == '}' then .ok (negated, key.reverse, i + 1)
    else if !between 0x26 0x7A c.toNat then .error (s.malformed i)
    else if key.length + 1 = maxKey then .error (s.malformed i)
    else s.readKey fuel (i + 1) negated (c.toLower :: key)

/-- The property whose name is at `i`, whether it is negated there, and the place after it. -/
def readProperty (s : Source) (i : Nat) : Reading (Property × Bool × Nat) := do
  let (negated, key, next) ←
    match s.get? i with
    | some '{' => s.readKey (s.size + 1) (i + 1) false []
    | some c =>
      if isAlpha c.toNat then pure (false, [c.toLower], i + 1) else .error (s.malformed i)
    | none => .error (s.malformed i)
  match find? key with
  | some p => return (p, negated, next)
  | none => .error (s.fault .unknownProperty next)

end Source

end Regex.Syntax
