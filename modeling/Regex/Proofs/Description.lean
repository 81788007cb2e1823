import Regex.Proofs.Compiled
import Regex.Proofs.Listing
import Regex.Proofs.Text.Decimal

/-!
# Descriptions read back

A compiled pattern is described by its source in quotes, its options and the number of its groups.
The source may look like any of the rest, but it is over where its quotes are.  So each part of a
description is read in turn, and two patterns are described alike only if they are alike in all that
a description tells.

* `Described`: what a description tells of a pattern.
* `Described.read?`: reads a description.
* `Described.read?_append`: a description is read back, whatever follows that is no digit.
* `describe_laws`: quoted texts, listed options and whole descriptions are all read back.
-/

namespace Regex.Pattern

/-- What a description tells of a pattern. -/
structure Described where
  source : String
  options : CompileOptions
  groupCount : Nat
  deriving DecidableEq

/-- What the description of a pattern tells of it. -/
def described (p : Pattern) : Described := ⟨p.source, p.options, p.groupCount⟩

namespace Described

/-- Reads a number up to the first sign that is no digit. -/
def readNumber? (text : List Char) : Option (Nat × List Char) :=
  let digits := text.takeWhile Char.isDigit
  if digits.isEmpty then none
  else some (Nat.ofDigitChars 10 digits 0, text.dropWhile Char.isDigit)

/-- Reads a description. -/
def read? (text : List Char) : Option (Described × List Char) := do
  let text ← text.dropPrefix? "CompiledPattern \x7b pattern: ".toList
  let (source, text) ← Quoted.read? text
  let text ← text.dropPrefix? ", options: ".toList
  let (options, text) ← CompileOptions.read? text
  let text ← text.dropPrefix? ", capture_count: ".toList
  let (groupCount, text) ← readNumber? text
  return (⟨source, options, groupCount⟩, text)

/-- What may follow a number. -/
def Ends (rest : List Char) : Prop := ∀ c, rest.head? = some c → c.isDigit = false

theorem readNumber?_append (n : Nat) {rest : List Char} (ends : Ends rest) :
    readNumber? ((toString n).toList ++ rest) = some (n, rest) := by
  have digits := Decimal.digits_toDigits n
  have stop : rest.takeWhile Char.isDigit = [] ∧ rest.dropWhile Char.isDigit = rest := by
    cases rest with
    | nil => exact ⟨rfl, rfl⟩
    | cons c rest => simp [ends c rfl]
  have front : (Nat.toDigits 10 n ++ rest).takeWhile Char.isDigit = Nat.toDigits 10 n := by
    rw [List.takeWhile_append_of_pos digits.all, stop.1, List.append_nil]
  have back : (Nat.toDigits 10 n ++ rest).dropWhile Char.isDigit = rest := by
    rw [List.dropWhile_append_of_pos digits.all, stop.2]
  unfold readNumber?
  rw [Nat.toString_eq_ofList_toDigits, String.toList_ofList, front, back,
    if_neg (by simp), digits.value]

/-- **A description is read back**, whatever follows that is no digit. -/
theorem read?_append (p : Pattern) {rest : List Char} (ends : Ends rest) :
    read? (p.describe.toList ++ rest) = some (p.described, rest) := by
  have parts : p.describe.toList ++ rest = "CompiledPattern \x7b pattern: ".toList ++
      ((Quoted.text p.source).toList ++ (", options: ".toList ++ (p.options.describe.toList ++
        (", capture_count: ".toList ++ ((toString p.groupCount).toList ++ rest))))) := by
    unfold describe
    rw [String.toList_append, String.toList_append, String.toList_append, String.toList_append,
      String.toList_append]
    simp only [List.append_assoc]
  have label (word text : List Char) : (word ++ text).dropPrefix? word = some text :=
    List.dropPrefix?_append_of_beq text (beq_self_eq_true word)
  unfold read?
  rw [parts]
  simp only [label, Option.bind_eq_bind, Option.bind_some, Quoted.read?_text_append,
    CompileOptions.read?_describe_append, readNumber?_append _ ends]
  rfl

end Described

/-- A compiled pattern keeps its source. -/
theorem source_of_compile {p : Pattern} {source : String} {options : CompileOptions}
    (compiled : compile source options = .ok p) : p.source = source := by
  rw [compile_unfold] at compiled
  obtain ⟨resolved, -, compiled⟩ := bind_eq_ok compiled
  obtain ⟨context, -, compiled⟩ := bind_eq_ok compiled
  split at compiled
  · obtain rfl := Except.ok.inj compiled
    rfl
  · cases compiled

/-- The field behind a description, which depends on the machine. -/
def studiedField (more : String) : String := ", studied: " ++ more

theorem studiedField_injective : Function.Injective studiedField := by
  intro more more' same
  have same := congrArg String.toList same
  unfold studiedField at same
  rw [String.toList_append, String.toList_append] at same
  exact String.toList_inj.mp (List.append_cancel_left same)

theorem ends_studiedField (more : String) : Described.Ends (studiedField more).toList := by
  intro c first
  have comma : (studiedField more).toList.head? = some ',' := by
    unfold studiedField
    rw [String.toList_append]
    rfl
  obtain rfl := Option.some.inj (comma.symm.trans first)
  decide

theorem read?_describe (p : Pattern) (more : String) :
    Described.read? (p.describe ++ studiedField more).toList =
      some (p.described, (studiedField more).toList) := by
  rw [String.toList_append]
  exact Described.read?_append p (ends_studiedField more)

variable {p q : Pattern}

/-- Texts that are the same behind two descriptions, too, tell the same. -/
theorem described_of_describe_append {more more' : String}
    (same : p.describe ++ studiedField more = q.describe ++ studiedField more') :
    p.described = q.described ∧ more = more' := by
  have read := p.read?_describe more
  rw [same, read?_describe, Option.some_inj, Prod.mk.injEq] at read
  exact ⟨read.1.symm, studiedField_injective (String.toList_inj.mp read.2.symm)⟩

/-- Patterns are described alike if and only if they are alike in what is told. -/
theorem describe_eq_iff : p.describe = q.describe ↔ p.described = q.described := by
  constructor
  · intro same
    have padded := congrArg (· ++ studiedField "") same
    exact (described_of_describe_append padded).1
  · intro same
    have parts (r : Pattern) : r.describe =
        "CompiledPattern \x7b pattern: " ++ Quoted.text r.described.source ++ ", options: " ++
          r.described.options.describe ++ ", capture_count: " ++
          toString r.described.groupCount := rfl
    rw [parts, parts, same]

/-- **A description tells what it describes.**  A text is read back from between its quotes,
whatever it looks like and whatever follows; so are options from their listing, unknown bits
included; and so is a whole description, up to the field that depends on the machine.  Two compiled
patterns have the same description only if they have the same source, the same options and as many
groups. -/
theorem describe_laws :
    (∀ (s : String) rest, Quoted.read? ((Quoted.text s).toList ++ rest) = some (s, rest)) ∧
    (∀ (o : CompileOptions) rest,
      CompileOptions.read? (o.describe.toList ++ rest) = some (o, rest)) ∧
    (∀ (o : MatchOptions) rest,
      MatchOptions.read? (o.describe.toList ++ rest) = some (o, rest)) ∧
    (∀ (p : Pattern) (more : String), Described.read? (p.describe ++ studiedField more).toList =
      some (p.described, (studiedField more).toList)) ∧
    (∀ p q : Pattern, p.describe = q.describe ↔ p.described = q.described) ∧
    ∀ (source source' : String) (options options' : CompileOptions) (p q : Pattern),
      compile source options = .ok p → compile source' options' = .ok q →
      ∀ more more' : String, p.describe ++ studiedField more = q.describe ++ studiedField more' →
        source = source' ∧ options = options' ∧ p.groupCount = q.groupCount ∧ more = more' := by
  refine ⟨Quoted.read?_text_append, CompileOptions.read?_describe_append,
    MatchOptions.read?_describe_append, read?_describe, fun p q => describe_eq_iff, ?_⟩
  intro source source' options options' p q compiled compiled' more more' same
  obtain ⟨told, rest⟩ := described_of_describe_append same
  obtain ⟨sources, words, groups⟩ := Described.mk.inj told
  refine ⟨?_, ?_, groups, rest⟩
  · rw [← source_of_compile compiled, ← source_of_compile compiled', sources]
  · rw [← (of_compile compiled).1, ← (of_compile compiled').1, words]

/-- A pattern that goes on like the description of another one, with an option that has no name. -/
theorem describe_laws_lookalike :
    ∃ p q, compile "a\", options: " (.caseless ||| ⟨0x8000000000000000⟩) = .ok p ∧
      compile "a" .utf = .ok q ∧
      (∀ more more', p.describe ++ studiedField more ≠ q.describe ++ studiedField more') ∧
      CompileOptions.read? (p.options.describe.toList ++ "(UTF)".toList) =
        some (⟨0x8000000000000008⟩, "(UTF)".toList) := by
  obtain ⟨p, compiled⟩ := eq_ok_of_isOk
    (x := compile "a\", options: " (.caseless ||| ⟨0x8000000000000000⟩)) (by decide +kernel)
  obtain ⟨q, compiled'⟩ := eq_ok_of_isOk (x := compile "a" .utf) (by decide +kernel)
  obtain ⟨-, options, -, -, -, alike⟩ := describe_laws
  have word : p.options = ⟨0x8000000000000008⟩ :=
    (of_compile compiled).1.trans (alike _ _ _ _ p p compiled compiled "" "" rfl).2.1
  refine ⟨p, q, compiled, compiled', ?_, ?_⟩
  · intro more more' same
    have sources := (alike _ _ _ _ p q compiled compiled' more more' same).1
    exact absurd sources (by decide)
  · rw [options, word]

end Regex.Pattern
