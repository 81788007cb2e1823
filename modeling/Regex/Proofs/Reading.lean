import Mathlib.Data.List.TakeWhile
import Mathlib.Tactic.Common
import Regex.Command.Arguments
import Regex.Proofs.Text.Lossless

/-!
# Arguments read one by one

Arguments are read from left to right, and what is read of them does not depend on what follows, but
for an option that takes the next argument as its value.  So what a few arguments do is a step from
what has been gathered before them, and steps are put together as the arguments are.

* `Step`, `ReadAs`: what some arguments do, whatever follows them.
* `ReadAs.append`: arguments behind each other.
* `Form`: what an argument looks like.
* `readAs_cluster`, `readAs_clusterAppend`, `readAs_letters`: short options.
* `readAs_long`, `readAs_attached`, `readAs_apart`: long options, without and with a value.
* `readAs_positional`: positional arguments.
-/

namespace Regex.Command

/-- What arguments do to what has been gathered before them. -/
abbrev Step := Draft → Except UsageError Progress

namespace Step

/-- Adds to what has been gathered. -/
def gather (act : Draft → Draft) : Step := fun d => .ok (.more (act d))

/-- Is at fault. -/
def refuse (e : UsageError) : Step := fun _ => .error e

/-- Takes a value. -/
def valued (act : Draft → List UInt8 → Except UsageError Draft) (value : List UInt8) : Step :=
  fun d => (act d value).map .more

/-- Reads letters, behind which no value must be left over. -/
def letters (letters : List Char) (value : Option (List UInt8)) : Step := fun d => do
  match ← readLetters d letters, value with
  | .more _, some value =>
    throw (.unexpectedValue (String.ofList ('-' :: letters.getLast?.toList)) value)
  | progress, _ => return progress

/-- One step after another; nothing follows a decision. -/
def followedBy (s t : Step) : Step := fun d => do
  match ← s d with
  | .decided run => return .decided run
  | .more d => t d

end Step

/-- Goes on with the arguments that follow, unless the run is decided. -/
def Progress.resume (rest : List (List UInt8)) : Progress → Except UsageError Invocation
  | .decided run => .ok run
  | .more d => readArguments d rest

/-- What some arguments do, whatever follows them. -/
def ReadAs (arguments : List (List UInt8)) (step : Step) : Prop :=
  ∀ d rest, readArguments d (arguments ++ rest) = step d >>= Progress.resume rest

theorem readAs_nil : ReadAs [] (.gather id) := fun _ _ => rfl

/-- Arguments behind each other. -/
theorem ReadAs.append {arguments arguments' : List (List UInt8)} {s t : Step}
    (first : ReadAs arguments s) (second : ReadAs arguments' t) :
    ReadAs (arguments ++ arguments') (s.followedBy t) := by
  intro d rest
  rw [List.append_assoc, first]
  unfold Step.followedBy
  cases s d with
  | error e => rfl
  | ok progress =>
    cases progress with
    | decided run => rfl
    | more d => exact second d rest

/-- Arguments that do the same can take each other's place. -/
theorem ReadAs.exchange {arguments arguments' : List (List UInt8)} {s : Step}
    (one : ReadAs arguments s) (other : ReadAs arguments' s) (d : Draft)
    (rest : List (List UInt8)) :
    readArguments d (arguments ++ rest) = readArguments d (arguments' ++ rest) := by
  rw [one, other]

/-! ## How options are written -/

/-- The hyphen. -/
abbrev hyphen : UInt8 := 0x2D

/-- The equals sign. -/
abbrev equals : UInt8 := 0x3D

/-- A long option. -/
def longOption (name : String) : List UInt8 := Utf8.encode ("--" ++ name)

/-- A long option with a value behind an equals sign. -/
def longOptionWith (name : String) (value : List UInt8) : List UInt8 :=
  longOption name ++ equals :: value

/-- A name, and what stands behind an equals sign if there is a value. -/
def withValue (name : List UInt8) : Option (List UInt8) → List UInt8
  | none => name
  | some value => name ++ equals :: value

/-- Short options behind one hyphen. -/
def cluster (letters : List Char) : List UInt8 := Utf8.encode (String.ofList ('-' :: letters))

/-- What an argument looks like. -/
inductive Form : List UInt8 → Prop where
  | positional {bytes : List UInt8} :
      bytes = [hyphen] ∨ bytes.head? ≠ some hyphen → Form bytes
  | hyphens : Form [hyphen, hyphen]
  | long {long : List UInt8} : long ≠ [] → Form (hyphen :: hyphen :: long)
  | short {first : UInt8} (bytes : List UInt8) : first ≠ hyphen → Form (hyphen :: first :: bytes)

theorem form (argument : List UInt8) : Form argument := by
  by_cases plain : argument = [hyphen] ∨ argument.head? ≠ some hyphen
  · exact .positional plain
  rw [not_or, not_not] at plain
  obtain ⟨rest, rfl⟩ := List.head?_eq_some_iff.mp plain.2
  have some : rest ≠ [] := fun empty => plain.1 (congrArg (hyphen :: ·) empty)
  obtain ⟨first, bytes, rfl⟩ := List.exists_cons_of_ne_nil some
  by_cases double : first = hyphen
  · rw [double]
    by_cases alone : bytes = []
    · rw [alone]
      exact .hyphens
    · exact .long alone
  · exact .short bytes double

theorem longOption_eq (name : String) : longOption name = hyphen :: hyphen :: Utf8.encode name := by
  have spelled : "--" ++ name = String.ofList ('-' :: '-' :: name.toList) := by
    rw [← String.toList_inj]
    simp
  unfold longOption
  rw [spelled, Utf8.encode_cons (by decide), Utf8.encode_cons (by decide), String.ofList_toList]
  rfl

theorem longOptionWith_eq (name : String) (value : List UInt8) :
    longOptionWith name value = hyphen :: hyphen :: withValue (Utf8.encode name) (some value) := by
  rw [longOptionWith, longOption_eq, List.cons_append, List.cons_append]
  rfl

theorem cluster_eq (letters : List Char) :
    cluster letters = hyphen :: Utf8.encode (String.ofList letters) :=
  Utf8.encode_cons (by decide) letters

/-! ## Values behind an equals sign -/

theorem splitValue_of_notMem {bytes : List UInt8} (plain : equals ∉ bytes) :
    splitValue bytes = (bytes, none) := by
  have name : bytes.takeWhile (· != 0x3D) = bytes :=
    List.takeWhile_eq_self_iff.mpr fun b mem => bne_iff_ne.mpr (ne_of_mem_of_not_mem mem plain)
  unfold splitValue
  dsimp only
  rw [name, List.drop_length]

theorem splitValue_fst (bytes : List UInt8) :
    (splitValue bytes).1 = bytes.takeWhile (· != equals) := by
  unfold splitValue
  dsimp only
  split
  · rfl
  · rfl

/-- What stands before the equals sign is passed over. -/
theorem splitValue_append {name : List UInt8} (plain : equals ∉ name) (bytes : List UInt8) :
    splitValue (name ++ bytes) = (name ++ (splitValue bytes).1, (splitValue bytes).2) := by
  have passed : (name ++ bytes).takeWhile (· != 0x3D) = name ++ bytes.takeWhile (· != 0x3D) :=
    List.takeWhile_append_of_pos fun b mem => bne_iff_ne.mpr (ne_of_mem_of_not_mem mem plain)
  unfold splitValue
  dsimp only
  rw [passed, List.length_append, List.drop_length_add_append]
  split
  · rfl
  · rfl

theorem splitValue_nil : splitValue [] = ([], none) := rfl

theorem splitValue_equals (value : List UInt8) : splitValue (equals :: value) = ([], some value) :=
  rfl

theorem splitValue_withValue {name : List UInt8} (plain : equals ∉ name)
    (value : Option (List UInt8)) : splitValue (withValue name value) = (name, value) := by
  cases value with
  | none => exact splitValue_of_notMem plain
  | some value =>
    unfold withValue
    dsimp only
    rw [splitValue_append plain, splitValue_equals, List.append_nil]

theorem equals_notMem_encode {text : String} (plain : '=' ∉ text.toList) :
    equals ∉ Utf8.encode text :=
  fun mem => plain ((Utf8.mem_encode (c := '=') (by decide)).mp mem)

/-! ## Short options -/

theorem readLetters_append (d : Draft) (letters more : List Char) :
    readLetters d (letters ++ more) =
      Step.followedBy (readLetters · letters) (readLetters · more) d := by
  induction letters generalizing d with
  | nil => rfl
  | cons letter rest ih =>
    unfold Step.followedBy
    dsimp only
    rw [List.cons_append, readLetters, readLetters]
    split_ifs
    · rfl
    · cases shortFlag? letter with
      | none => rfl
      | some act => exact ih (act d)

theorem lettersOf_eq (bytes : List UInt8) : lettersOf bytes = (Utf8.lossy bytes).toList :=
  String.toList_ofList.symm

theorem lettersOf_nil : lettersOf [] = [] := by
  rw [lettersOf, Utf8.pieces, List.map_nil]

theorem lettersOf_encode_append (text : String) (bytes : List UInt8) :
    lettersOf (Utf8.encode text ++ bytes) = text.toList ++ lettersOf bytes := by
  rw [lettersOf_eq, Utf8.toList_lossy_encode_append, ← lettersOf_eq]

/-- Short options are read letter by letter, up to an equals sign. -/
theorem readAs_cluster {first : UInt8} (short : first ≠ hyphen) (bytes : List UInt8) :
    ReadAs [hyphen :: first :: bytes]
      (.letters (lettersOf (first :: (splitValue bytes).1)) (splitValue bytes).2) :=
  fun d rest => readArguments.eq_3 d first bytes rest short

/-- A cluster that begins with some letters; whatever is behind them, they are read first. -/
theorem readAs_clusterAppend {letters : List Char} (any : letters ≠ [])
    (short : letters.head? ≠ some '-') (plain : '=' ∉ letters.tail) (bytes : List UInt8) :
    ReadAs [cluster letters ++ bytes]
      (.letters (letters ++ lettersOf (splitValue bytes).1) (splitValue bytes).2) := by
  obtain ⟨first, others, rfl⟩ := List.exists_cons_of_ne_nil any
  let text := String.ofList (first :: others)
  obtain ⟨lead, tail, char, isChar, -⟩ := Utf8.utf8EncodeChar_eq first
  have written : Utf8.encode text = lead :: (tail ++ Utf8.encode (String.ofList others)) := by
    rw [Utf8.encode_eq, Utf8.encode_eq, String.toList_ofList, String.toList_ofList,
      List.flatMap_cons, char, List.cons_append]
  have lead_ne : lead ≠ hyphen := by
    rintro rfl
    have head : text.toList.head? = some '-' :=
      (Utf8.head?_encode (c := '-') (by decide)).mp (by rw [written]; rfl)
    rw [String.toList_ofList] at head
    exact short head
  have inside : equals ∉ tail ++ Utf8.encode (String.ofList others) := by
    rw [List.mem_append, not_or]
    refine ⟨fun mem => ?_, equals_notMem_encode (by rwa [String.toList_ofList])⟩
    exact absurd (isChar.tail_continues _ mem) (by decide)
  have shown : ∀ more, lettersOf (lead :: (tail ++ Utf8.encode (String.ofList others) ++ more)) =
      first :: others ++ lettersOf more := by
    intro more
    rw [← List.cons_append, ← written, lettersOf_encode_append, String.toList_ofList]
  have read := readAs_cluster lead_ne (tail ++ Utf8.encode (String.ofList others) ++ bytes)
  rw [splitValue_append inside] at read
  dsimp only at read
  rw [shown] at read
  have same : cluster (first :: others) ++ bytes =
      hyphen :: lead :: (tail ++ Utf8.encode (String.ofList others) ++ bytes) := by
    rw [cluster_eq, List.cons_append]
    show hyphen :: (Utf8.encode text ++ bytes) = _
    rw [written, List.cons_append]
  rwa [same]

/-- A cluster of short options. -/
theorem readAs_letters {letters : List Char} (any : letters ≠ [])
    (short : letters.head? ≠ some '-') (plain : '=' ∉ letters) :
    ReadAs [cluster letters] (readLetters · letters) := by
  have read := readAs_clusterAppend any short (fun mem => plain (List.mem_of_mem_tail mem)) []
  rw [splitValue_nil, lettersOf_nil, List.append_nil, List.append_nil] at read
  intro d rest
  rw [read]
  unfold Step.letters
  dsimp only
  cases readLetters d letters with
  | error e => rfl
  | ok progress => cases progress <;> rfl

theorem readAs_switch {letter : Char} {act : Draft → Draft} (flag : shortFlag? letter = some act) :
    ReadAs [cluster [letter]] (.gather act) := by
  have apart : ∀ other, shortFlag? other = none → letter ≠ other := by
    rintro _ unknown rfl
    rw [unknown] at flag
    cases flag
  intro d rest
  rw [readAs_letters (List.cons_ne_nil _ _) (by simpa using apart '-' rfl)
    (by simpa using (apart '=' rfl).symm)]
  dsimp only
  rw [readLetters, if_neg (apart 'h' rfl), flag]
  rfl

/-! ## Long options -/

/-! ### Options with a value -/

/-- The options that take a value. -/
def valuedNames : List String := ["newline", "offset", "partial", "describe"]

/-- The options that take none, written as words. -/
def flagNames : List String := ["notbol", "noteol", "notempty"]

/-- The options that are written as words. -/
def longNames : List String := "help" :: flagNames ++ valuedNames

/-- What is shown as the name of an option is that name. -/
theorem encode_lossy_of_mem {bytes : List UInt8} (shown : Utf8.lossy bytes ∈ longNames) :
    Utf8.encode (Utf8.lossy bytes) = bytes := by
  have clear : ∀ name ∈ longNames, '\uFFFD' ∉ name.toList := by decide
  exact Utf8.encode_lossy (clear _ shown)

theorem plain_of_mem_valuedNames : ∀ name ∈ valuedNames, name ≠ "" ∧ '=' ∉ name.toList := by
  decide

theorem exists_valuedOption {name : String} (mem : name ∈ valuedNames) :
    ∃ act, valuedOption? name = some act := by
  have all : ∀ name ∈ valuedNames, (valuedOption? name).isSome = true := by decide
  exact Option.isSome_iff_exists.mp (all name mem)

theorem mem_valuedNames {name : String} {act : Draft → List UInt8 → Except UsageError Draft}
    (valued : valuedOption? name = some act) : name ∈ valuedNames := by
  unfold valuedOption? at valued
  split_ifs at valued <;> simp [valuedNames, *]

/-- A long option, whatever is behind the hyphens. -/
theorem readArguments_long (d : Draft) {long : List UInt8} (any : long ≠ [])
    (rest : List (List UInt8)) :
    readArguments d ((hyphen :: hyphen :: long) :: rest) =
      match valuedOption? (Utf8.lossy (splitValue long).1), (splitValue long).2, rest with
      | some act, some value, rest => (do readArguments (← act d value) rest)
      | some act, none, value :: rest => (do readArguments (← act d value) rest)
      | some _, none, [] => .error (.missingValue ("--" ++ Utf8.lossy (splitValue long).1))
      | none, value, rest =>
        readLong d (Utf8.lossy (splitValue long).1) value >>= Progress.resume rest := by
  have nonempty : long.isEmpty = false := List.isEmpty_eq_false_iff.mpr any
  rw [readArguments, nonempty, if_neg Bool.false_ne_true]
  rfl

theorem textOf_encode (text : String) : textOf (Utf8.encode text) = .ok text := by
  unfold textOf
  rw [Utf8.text?_encode]

theorem numberOf_encode {α : Type} {read : List Char → Except Decimal.Fault α} {value : String}
    {n : α} (accepted : read value.toList = .ok n) :
    numberOf read (Utf8.encode value) = .ok n := by
  unfold numberOf
  rw [textOf_encode]
  simp only [bind, Except.bind, accepted]
  rfl

section Long

variable {name : String} {act : Draft → List UInt8 → Except UsageError Draft}

/-- A long option that takes no value. -/
theorem readAs_long {long : List UInt8} (any : long ≠ [])
    (alone : valuedOption? (Utf8.lossy (splitValue long).1) = none) :
    ReadAs [hyphen :: hyphen :: long]
      (readLong · (Utf8.lossy (splitValue long).1) (splitValue long).2) := by
  intro d rest
  rw [List.singleton_append, readArguments_long d any, alone]

theorem encode_ne_nil (named : name ≠ "") : Utf8.encode name ≠ [] :=
  fun none => named (Utf8.encode_injective (none.trans Utf8.encode_empty.symm))

/-- An option with a value behind an equals sign. -/
theorem readAs_withValue {long value : List UInt8} (any : long ≠ [])
    (valued : valuedOption? (Utf8.lossy (splitValue long).1) = some act)
    (given : (splitValue long).2 = some value) :
    ReadAs [hyphen :: hyphen :: long] (.valued act value) := by
  intro d rest
  rw [List.singleton_append, readArguments_long d any, valued, given]
  unfold Step.valued
  dsimp only
  cases act d value <;> rfl

theorem readAs_attached (valued : valuedOption? name = some act) (value : List UInt8) :
    ReadAs [longOptionWith name value] (.valued act value) := by
  obtain ⟨named, plain⟩ := plain_of_mem_valuedNames name (mem_valuedNames valued)
  have split := splitValue_withValue (equals_notMem_encode plain) (some value)
  rw [longOptionWith_eq]
  refine readAs_withValue (by simp [withValue]) ?_ ?_
  · rw [split, Utf8.lossy_encode, valued]
  · rw [split]

/-- An option that takes the next argument as its value, whatever that looks like. -/
theorem readAs_apart (valued : valuedOption? name = some act) (value : List UInt8) :
    ReadAs [longOption name, value] (.valued act value) := by
  obtain ⟨named, plain⟩ := plain_of_mem_valuedNames name (mem_valuedNames valued)
  have split := splitValue_of_notMem (equals_notMem_encode plain)
  intro d rest
  rw [longOption_eq, List.cons_append, readArguments_long d (encode_ne_nil named), split,
    Utf8.lossy_encode, valued, List.singleton_append]
  unfold Step.valued
  dsimp only
  cases act d value <;> rfl

theorem valuedOption?_of_longFlag {act : Draft → Draft} (flag : longFlag? name = some act) :
    (name ≠ "" ∧ name ≠ "help" ∧ '=' ∉ name.toList) ∧ valuedOption? name = none := by
  have known : name ∈ flagNames := by
    unfold longFlag? at flag
    split_ifs at flag <;> simp [flagNames, *]
  have apart : ∀ name ∈ flagNames,
      (name ≠ "" ∧ name ≠ "help" ∧ '=' ∉ name.toList) ∧ (valuedOption? name).isNone := by decide
  exact (apart name known).imp_right Option.isNone_iff_eq_none.mp

/-- A long option without a value. -/
theorem readAs_flag {act : Draft → Draft} (flag : longFlag? name = some act) :
    ReadAs [longOption name] (.gather act) := by
  obtain ⟨⟨named, help, plain⟩, alone⟩ := valuedOption?_of_longFlag flag
  have split := splitValue_of_notMem (equals_notMem_encode plain)
  have shown : Utf8.lossy (splitValue (Utf8.encode name)).1 = name := by
    rw [split]
    exact Utf8.lossy_encode name
  have read := readAs_long (encode_ne_nil named) (by rwa [shown])
  have step : ∀ d, readLong d name none = .ok (.more (act d)) := by
    intro d
    unfold readLong
    rw [if_neg help, flag]
  rw [shown, split] at read
  rw [longOption_eq]
  intro d rest
  rw [read]
  dsimp only
  rw [step]
  rfl

end Long

/-! ## Positional arguments -/

/-- A lone hyphen is positional. -/
theorem readAs_positional {bytes : List UInt8}
    (plain : bytes = [hyphen] ∨ bytes.head? ≠ some hyphen) :
    ReadAs [bytes] fun d => (textOf bytes).map fun text => .more (d.withPositional text) := by
  have short : ∀ next after, bytes ≠ hyphen :: next :: after := by
    rintro next after rfl
    rcases plain with alone | other
    · cases alone
    · exact other rfl
  intro d rest
  rw [List.singleton_append, readArguments]
  · cases textOf bytes <;> rfl
  · exact fun _ => short _ _
  · exact short

theorem readAs_text {text : String} (plain : text = "-" ∨ text.toList.head? ≠ some '-') :
    ReadAs [Utf8.encode text] (.gather (·.withPositional text)) := by
  have written : Utf8.encode text = [hyphen] ∨ (Utf8.encode text).head? ≠ some hyphen := by
    refine plain.imp (fun alone => ?_) fun other head => ?_
    · rw [alone]
      decide +kernel
    · exact other ((Utf8.head?_encode (c := '-') (by decide)).mp head)
  intro d rest
  rw [readAs_positional written, textOf_encode]
  rfl

end Regex.Command
