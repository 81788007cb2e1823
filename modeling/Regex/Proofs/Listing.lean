import Mathlib.Data.List.Basic
import Mathlib.Tactic.Common
import Regex.Options
import Regex.Proofs.Text.Unquoted

/-!
# Listings of options read back

A word of options is listed by the names of its flags and by what they leave over, so that no bit is
lost, a known one or not.  A name is never taken for a number or for another name.

* `FlagTable.items`: what is listed.
* `FlagTable.union_or_leftOver`: all bits are listed.
* `readListing?`: reads a listing, as the or of what is listed.
* `readListing?_append`: a listing is read back, whatever follows.
* `CompileOptions.read?_describe_append`, `MatchOptions.read?_describe_append`: so are options of
  both kinds.
-/

namespace Regex

/-- Flags with their names. -/
abbrev FlagTable := List (String × Nat)

namespace FlagTable

/-! ## What is listed -/

/-- The flags of a word. -/
def present (flags : FlagTable) (bits : Nat) : FlagTable :=
  flags.filter fun f => bits &&& f.2 == f.2

/-- What some flags leave over of a word. -/
def leftOver (flags : FlagTable) (bits : Nat) : Nat :=
  flags.foldl (fun left f => left ^^^ (left &&& f.2)) bits

/-- A number in hexadecimal. -/
def number (n : Nat) : String := "0x" ++ String.ofList (Nat.toDigits 16 n)

theorem toList_number (n : Nat) : (number n).toList = '0' :: 'x' :: Nat.toDigits 16 n := by
  simp [number]

/-- The names of the flags of a word, and the number that they leave over; at least a zero. -/
def items (flags : FlagTable) (bits : Nat) : List String :=
  let left := (flags.present bits).leftOver bits
  let words := (flags.present bits).map (·.1) ++ if left = 0 then [] else [number left]
  if words.isEmpty then [number 0] else words

/-- The or of some words. -/
def union (words : List Nat) : Nat := words.foldl (· ||| ·) 0

theorem describeFlags_eq (name : String) (flags : FlagTable) (bits : Nat) :
    describeFlags name flags bits = name ++ "(" ++ " | ".intercalate (flags.items bits) ++ ")" := by
  have zero : " | ".intercalate [number 0] = "0x0" := by decide
  unfold items
  extract_lets left words
  show name ++ "(" ++ (if words.isEmpty then "0x0" else " | ".intercalate words) ++ ")" = _
  split_ifs
  · rw [zero]
  · rfl

theorem testBit_union (words : List Nat) (i : Nat) :
    (union words).testBit i = words.any (·.testBit i) := by
  have onwards : ∀ first : Nat, (words.foldl (· ||| ·) first).testBit i =
      (first.testBit i || words.any (·.testBit i)) := by
    induction words with
    | nil => simp
    | cons w words ih =>
        intro first
        rw [List.foldl_cons, ih, Nat.testBit_or, List.any_cons, Bool.or_assoc]
  rw [union, onwards, Nat.zero_testBit, Bool.false_or]

theorem testBit_leftOver (flags : FlagTable) (bits i : Nat) : (flags.leftOver bits).testBit i =
    (bits.testBit i && !(flags.map (·.2)).any (·.testBit i)) := by
  unfold leftOver
  induction flags generalizing bits with
  | nil => simp
  | cons f flags ih =>
      rw [List.foldl_cons, ih, List.map_cons, List.any_cons, Nat.testBit_xor, Nat.testBit_and]
      cases bits.testBit i <;> cases f.2.testBit i <;> rfl

/-- No bit is lost. -/
theorem union_or_leftOver (flags : FlagTable) (bits : Nat) :
    union ((flags.present bits).map (·.2)) ||| (flags.present bits).leftOver bits = bits := by
  apply Nat.eq_of_testBit_eq
  intro i
  rw [Nat.testBit_or, testBit_union, testBit_leftOver]
  cases listed : ((flags.present bits).map (·.2)).any (·.testBit i) with
  | false => simp
  | true =>
      obtain ⟨w, mem, set⟩ := List.any_eq_true.mp listed
      obtain ⟨f, flag, rfl⟩ := List.mem_map.mp mem
      have inside : bits &&& f.2 = f.2 := beq_iff_eq.mp (List.mem_filter.mp flag).2
      rw [← inside, Nat.testBit_and, Bool.and_eq_true] at set
      rw [set.1]
      rfl

/-! ## Items read back -/

/-- The bits that an item of a listing stands for: those of the flag of that name, or else a number
in hexadecimal. -/
def bitsOf? (flags : FlagTable) (item : List Char) : Option Nat :=
  match flags.lookup (String.ofList item) with
  | some bits => some bits
  | none =>
    match item with
    | '0' :: 'x' :: digits => Hexadecimal.number? digits
    | _ => none

/-- What names are made of. -/
def inName (c : Char) : Bool := c.isUpper || c == '_'

/-- Names that differ from each other and from numbers. -/
structure WellNamed (flags : FlagTable) : Prop where
  distinct : (flags.map (·.1)).Nodup
  capitals : ∀ f ∈ flags, f.1.toList.all inName = true

variable {flags : FlagTable} (named : flags.WellNamed)

include named

theorem WellNamed.bitsOf?_name {f : String × Nat} (mem : f ∈ flags) :
    flags.bitsOf? f.1.toList = some f.2 := by
  have found : flags.lookup f.1 = some f.2 := by
    obtain ⟨before, after, rfl⟩ := List.append_of_mem mem
    refine List.lookup_eq_some_iff.mpr ⟨before, after, rfl, fun g earlier => ?_⟩
    have apart := named.distinct
    rw [List.map_append, List.nodup_append] at apart
    have ne := apart.2.2 g.1 (List.mem_map_of_mem earlier) f.1 (by simp)
    simpa using ne.symm
  unfold bitsOf?
  rw [String.ofList_toList, found]

theorem WellNamed.bitsOf?_number (n : Nat) : flags.bitsOf? (number n).toList = some n := by
  have unnamed : flags.lookup (number n) = none := by
    rw [List.lookup_eq_none_iff]
    intro f mem
    rw [bne_iff_ne]
    intro same
    have letters := named.capitals f mem
    rw [← same, toList_number] at letters
    exact Bool.false_ne_true letters
  unfold bitsOf?
  rw [String.ofList_toList, unnamed, toList_number]
  exact Hexadecimal.number?_toDigits n

theorem WellNamed.mapM_names {chosen : FlagTable} (inside : ∀ f ∈ chosen, f ∈ flags) :
    ((chosen.map (·.1)).map String.toList).mapM flags.bitsOf? = some (chosen.map (·.2)) := by
  induction chosen with
  | nil => rfl
  | cons f rest ih =>
      rw [List.forall_mem_cons] at inside
      rw [List.map_cons, List.map_cons, List.mapM_cons, named.bitsOf?_name inside.1, ih inside.2]
      rfl

/-- The items of a word make the word. -/
theorem WellNamed.mapM_items (bits : Nat) : ∃ words,
    ((flags.items bits).map String.toList).mapM flags.bitsOf? = some words ∧
      union words = bits := by
  have names := named.mapM_names fun f (mem : f ∈ flags.present bits) => List.mem_of_mem_filter mem
  have number (n : Nat) : [(number n).toList].mapM flags.bitsOf? = some [n] := by
    rw [List.mapM_cons, named.bitsOf?_number]
    rfl
  have whole := flags.union_or_leftOver bits
  unfold items
  generalize (flags.present bits).leftOver bits = left at whole
  by_cases none : left = 0
  · rw [none, Nat.or_zero] at whole
    dsimp only
    rw [if_pos none, List.append_nil]
    split_ifs with empty
    · -- nothing is set, which is listed as a zero
      have zero : flags.present bits = [] := by simpa using empty
      rw [zero] at whole
      exact ⟨[0], number 0, whole⟩
    · exact ⟨_, names, whole⟩
  · dsimp only
    rw [if_neg none, if_neg (by simp), List.map_append, List.mapM_append, names]
    refine ⟨(flags.present bits).map (·.2) ++ [left], ?_, ?_⟩
    · rw [List.map_singleton, number]
      rfl
    · rw [union, List.foldl_append]
      exact whole

/-- An item without the signs that end items and listings. -/
def Plain (item : List Char) : Prop := ∀ c ∈ item, c ≠ ')' ∧ c ≠ '|' ∧ c ≠ ' '

theorem WellNamed.plain_name {f : String × Nat} (mem : f ∈ flags) : Plain f.1.toList := by
  intro c letter
  have capital := List.all_eq_true.mp (named.capitals f mem) c letter
  refine ⟨?_, ?_, ?_⟩
  all_goals
    rintro rfl
    exact absurd capital (by decide)

omit named

theorem plain_number (n : Nat) : Plain (number n).toList := by
  have all : ∀ k < 16, Nat.digitChar k ≠ ')' ∧ Nat.digitChar k ≠ '|' ∧ Nat.digitChar k ≠ ' ' := by
    decide
  intro c mem
  rw [toList_number, List.mem_cons, List.mem_cons] at mem
  rcases mem with rfl | rfl | digit
  · decide
  · decide
  · obtain ⟨k, small, rfl⟩ := Quoted.exists_digitChar (by decide) n c digit
    exact all k small

theorem WellNamed.plain_items (named : flags.WellNamed) (bits : Nat) :
    ∀ item ∈ (flags.items bits).map String.toList, Plain item := by
  have names : ∀ f ∈ flags.present bits, Plain f.1.toList :=
    fun f mem => named.plain_name (List.mem_of_mem_filter mem)
  unfold items
  extract_lets left words
  have all : ∀ item ∈ words, Plain item.toList := by
    intro item mem
    rcases List.mem_append.mp mem with name | number
    · obtain ⟨f, flag, rfl⟩ := List.mem_map.mp name
      exact names f flag
    · split_ifs at number
      · cases number
      · rw [List.mem_singleton.mp number]
        exact plain_number left
  rw [List.forall_mem_map]
  split_ifs
  · rw [List.forall_mem_singleton]
    exact plain_number 0
  · exact all

theorem items_ne_nil (flags : FlagTable) (bits : Nat) :
    (flags.items bits).map String.toList ≠ [] := by
  unfold items
  extract_lets left words
  split_ifs with empty
  · simp
  · simpa using empty

/-! ## Listings read back -/

/-- Reads the items of a listing up to its closing parenthesis, from inside an item on. -/
def readItems (item : List Char) : List Char → Option (List (List Char) × List Char)
  | [] => none
  | c :: rest =>
    if c = ')' then some ([item], rest)
    else if c = '|' then (readItems [] rest).map fun read => (item :: read.1, read.2)
    else if c = ' ' then readItems item rest
    else readItems (item ++ [c]) rest

/-- Reads a listing, as the or of what is listed. -/
def readListing? (flags : FlagTable) (name : String) (text : List Char) :
    Option (Nat × List Char) := do
  let text ← text.dropPrefix? (name ++ "(").toList
  let (items, rest) ← readItems [] text
  let words ← items.mapM flags.bitsOf?
  return (union words, rest)

theorem readItems_append {item : List Char} (plain : Plain item) (read rest : List Char) :
    readItems read (item ++ rest) = readItems (read ++ item) rest := by
  induction item generalizing read with
  | nil => rw [List.nil_append, List.append_nil]
  | cons c item ih =>
      rw [Plain, List.forall_mem_cons] at plain
      obtain ⟨⟨stop, bar, blank⟩, plain⟩ := plain
      rw [List.cons_append, readItems, if_neg stop, if_neg bar, if_neg blank, ih plain,
        List.append_assoc, List.singleton_append]

theorem readItems_intercalate {items : List (List Char)} (filled : items ≠ [])
    (plain : ∀ item ∈ items, Plain item) (rest : List Char) :
    readItems [] (" | ".toList.intercalate items ++ ')' :: rest) = some (items, rest) := by
  induction items with
  | nil => exact absurd rfl filled
  | cons item items ih =>
      rw [List.forall_mem_cons] at plain
      cases items with
      | nil =>
          rw [List.intercalate_singleton, readItems_append plain.1]
          rfl
      | cons next items =>
          have bar : " | ".toList = [' ', '|', ' '] := rfl
          have later := ih (by simp) plain.2
          rw [bar] at later ⊢
          rw [List.intercalate_cons_cons, List.append_assoc, List.append_assoc,
            readItems_append plain.1]
          simp [readItems, later]

/-- **A listing is read back, whatever follows.** -/
theorem WellNamed.readListing?_append (named : flags.WellNamed) (name : String) (bits : Nat)
    (rest : List Char) :
    readListing? flags name ((describeFlags name flags bits).toList ++ rest) =
      some (bits, rest) := by
  have text : (describeFlags name flags bits).toList ++ rest = (name ++ "(").toList ++
      (" | ".toList.intercalate ((flags.items bits).map String.toList) ++ ')' :: rest) := by
    rw [describeFlags_eq, String.toList_append, String.toList_append, String.toList_intercalate,
      List.append_assoc, List.append_assoc]
    rfl
  obtain ⟨words, read, whole⟩ := named.mapM_items bits
  have items := readItems_intercalate (flags.items_ne_nil bits) (named.plain_items bits) rest
  unfold readListing?
  rw [text, List.dropPrefix?_append_of_beq _ (beq_self_eq_true _)]
  simp only [Option.bind_eq_bind, Option.bind_some, items, read, whole]
  rfl

end FlagTable

/-! ## Options -/

namespace CompileOptions

/-- The named options as a table of flags. -/
def table : FlagTable := named.map fun f => (f.1, f.2.bits.toNat)

theorem wellNamed_table : table.WellNamed where
  distinct := by decide +kernel
  capitals := by decide +kernel

/-- Reads options back. -/
def read? (text : List Char) : Option (CompileOptions × List Char) :=
  (table.readListing? "CompileOptions" text).map fun read => (⟨UInt64.ofNat read.1⟩, read.2)

/-- **Options are read back**, unknown bits included. -/
theorem read?_describe_append (o : CompileOptions) (rest : List Char) :
    read? (o.describe.toList ++ rest) = some (o, rest) := by
  unfold read? describe
  rw [← table, wellNamed_table.readListing?_append, Option.map_some, UInt64.ofNat_toNat]

end CompileOptions

namespace MatchOptions

/-- The named options as a table of flags. -/
def table : FlagTable := named.map fun f => (f.1, f.2.bits.toNat)

theorem wellNamed_table : table.WellNamed where
  distinct := by decide +kernel
  capitals := by decide +kernel

/-- Reads options back. -/
def read? (text : List Char) : Option (MatchOptions × List Char) :=
  (table.readListing? "MatchOptions" text).map fun read => (⟨UInt32.ofNat read.1⟩, read.2)

/-- **Options are read back**, unknown bits included. -/
theorem read?_describe_append (o : MatchOptions) (rest : List Char) :
    read? (o.describe.toList ++ rest) = some (o, rest) := by
  unfold read? describe
  rw [← table, wellNamed_table.readListing?_append, Option.map_some, UInt32.ofNat_toNat]

end MatchOptions

end Regex
