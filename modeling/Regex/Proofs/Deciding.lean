import Regex.Command.Run
import Regex.Proofs.Arguments
import Regex.Proofs.Spellings

/-!
# What decides a run

Arguments are read up to the first that asks for help or is at fault.  What stands behind it is not
looked at, so it neither adds an error nor takes one back.

* `Writes`: arguments that are as they should be, in any spelling, and the items that they write.
* `readAs_writes`: they are read as the items.
* `accepted_or_refused_text`, `exists_refusal`: a value is that of an item, or it is refused.
* `AsksHelp`, `Faulty`: what decides a run.
* `readAs_help`, `readAs_faulty`: what becomes of it.
* `Refused`: arguments that are refused wherever they stand.
* `first_decides`: what decides a run does so whatever stands behind it.
-/

namespace Regex.Command

/-! ## Items in any spelling -/

/-- Items that are written with letters. -/
def Spelled (letters : List Char) (flags : List Item) : Prop :=
  flags.map Item.letter? = letters.map some

/-- Arguments that write items, each complete and in some spelling. -/
inductive Writes : List (List UInt8) → List Item → Prop where
  | nil : Writes [] []
  | apart {arguments : List (List UInt8)} {items : List Item} (item : Item) :
      Writes arguments items → Writes (item.arguments.map Utf8.encode ++ arguments) (item :: items)
  /-- An item with its value behind an equals sign. -/
  | attached {arguments : List (List UInt8)} {items : List Item} {item : Item}
      {name value : String} :
      item.valued? = some (name, value) → Writes arguments items →
        Writes (longOptionWith name (Utf8.encode value) :: arguments) (item :: items)
  /-- Items whose letters stand behind one hyphen. -/
  | together {arguments : List (List UInt8)} {items flags : List Item} {letters : List Char} :
      letters ≠ [] → Spelled letters flags → Writes arguments items →
        Writes (cluster letters :: arguments) (flags ++ items)

section Letters

variable {letters more : List Char} {flags : List Item} {c : Char}

theorem Item.letter?_mem {item : Item} (written : item.letter? = some c) :
    c ∈ shortLetters ∧ c ≠ 'h' := by
  cases item with
  | pattern switch =>
    obtain rfl := Option.some.inj written
    cases switch <;> decide
  | verbose =>
    obtain rfl := Option.some.inj written
    decide
  | _ => cases written

theorem Spelled.mem (spelled : Spelled letters flags) (mem : c ∈ letters) :
    c ∈ shortLetters ∧ c ≠ 'h' := by
  have written : some c ∈ flags.map Item.letter? := by
    rw [spelled]
    exact List.mem_map_of_mem mem
  obtain ⟨item, -, letter⟩ := List.mem_map.mp written
  exact item.letter?_mem letter

/-- Letters of items are read as the items. -/
theorem Spelled.readLetters (spelled : Spelled letters flags) (d : Draft) :
    readLetters d letters = .ok (.more (gatherAll flags d)) := by
  induction flags generalizing letters d with
  | nil =>
    obtain rfl := List.map_eq_nil_iff.mp spelled.symm
    rfl
  | cons item flags ih =>
    obtain ⟨letter, rest, rfl, first, others⟩ := List.map_eq_cons_iff.mp spelled.symm
    have help := (item.letter?_mem first.symm).2
    rw [Command.readLetters, if_neg help, item.shortFlag? first.symm]
    exact ih others.symm (item.gather d)

theorem Spelled.readLetters_append (spelled : Spelled letters flags) (d : Draft) :
    Command.readLetters d (letters ++ more) = Command.readLetters (gatherAll flags d) more := by
  rw [Command.readLetters_append, Step.followedBy, spelled.readLetters]
  rfl

/-- A letter that is no option is refused. -/
theorem readLetters_unknown (unknown : c ∉ shortLetters) (d : Draft) :
    readLetters d (c :: more) = .error (.invalidOption (String.ofList ['-', c])) := by
  have help : c ≠ 'h' := fun eq => unknown (by rw [eq]; decide)
  have none : shortFlag? c = none := by
    unfold shortFlag?
    split <;> first | rfl | exact absurd (by decide) unknown
  rw [readLetters, if_neg help, none]

end Letters

theorem readAs_writes {arguments : List (List UInt8)} {items : List Item}
    (writes : Writes arguments items) : ReadAs arguments (.gather (gatherAll items)) := by
  induction writes with
  | nil => exact readAs_nil
  | apart item _ ih => exact (readAs_item item).append ih
  | attached written _ ih => exact (readAs_valued _ written).1.append ih
  | @together arguments items flags letters any spelled _ ih =>
    have first : ReadAs [cluster letters] (.gather (gatherAll flags)) := by
      intro d rest
      rw [readAs_shortLetters any fun c mem => (spelled.mem mem).1]
      dsimp only
      rw [spelled.readLetters]
      rfl
    have both := first.append ih
    have step : Step.gather (gatherAll (flags ++ items)) =
        (Step.gather (gatherAll flags)).followedBy (.gather (gatherAll items)) := by
      funext d
      show Except.ok _ = Except.ok _
      rw [gatherAll_append]
    rw [step]
    exact both

/-! ## Values -/

theorem textOf_of_not_wellFormed {value : List UInt8} (bad : ¬Utf8.WellFormed value) :
    textOf value = .error (.notText value) := by
  unfold textOf
  rw [Utf8.text?_eq_none.mpr bad]

theorem numberOf_encode_error {α : Type} {read : List Char → Except Decimal.Fault α}
    {value : String} {fault : Decimal.Fault} (refused : read value.toList = .error fault) :
    numberOf read (Utf8.encode value) = .error (.badNumber value fault) := by
  unfold numberOf
  rw [textOf_encode]
  simp only [bind, Except.bind, refused]
  rfl

theorem exists_newlineName {kind : String} {options : CompileOptions}
    (found : newlineKinds.lookup kind = some options) :
    ∃ convention, newlineName convention = kind := by
  have all : ∀ k ∈ newlineKinds, ∃ convention, newlineName convention = k.1 := by
    simp only [newlineKinds, List.forall_mem_cons]
    exact ⟨⟨.cr, rfl⟩, ⟨.lf, rfl⟩, ⟨.crlf, rfl⟩, ⟨.any, rfl⟩, ⟨.anyCrlf, rfl⟩, ⟨.nul, rfl⟩, nofun⟩
  obtain ⟨before, after, list, -⟩ := List.lookup_eq_some_iff.mp found
  exact all (kind, options) (by rw [list]; simp)

theorem exists_partly {kind : String} {options : MatchOptions}
    (found : partialKinds.lookup kind = some options) :
    ∃ hard : Bool, (if hard then "hard" else "soft") = kind := by
  have all : ∀ k ∈ partialKinds, ∃ hard : Bool, (if hard then "hard" else "soft") = k.1 := by
    decide
  obtain ⟨before, after, list, -⟩ := List.lookup_eq_some_iff.mp found
  exact all (kind, options) (by rw [list]; simp)

theorem numberOf_of_not_wellFormed {α : Type} {read : List Char → Except Decimal.Fault α}
    {value : List UInt8} (bad : ¬Utf8.WellFormed value) :
    numberOf read value = .error (.notText value) := by
  unfold numberOf
  rw [textOf_of_not_wellFormed bad]
  rfl

section Values

variable {name : String} {act : Draft → List UInt8 → Except UsageError Draft}

/-- No option takes a value that is no text. -/
theorem refused_of_not_wellFormed (valued : valuedOption? name = some act) {value : List UInt8}
    (bad : ¬Utf8.WellFormed value) (d : Draft) : act d value = .error (.notText value) := by
  unfold valuedOption? at valued
  split_ifs at valued
  all_goals
    obtain rfl := Option.some.inj valued
    dsimp only
  · rw [textOf_of_not_wellFormed bad]
    rfl
  · rw [numberOf_of_not_wellFormed bad]
    rfl
  · rw [textOf_of_not_wellFormed bad]
    rfl
  · rw [numberOf_of_not_wellFormed bad]
    rfl

/-- A text is the value of an item, or it is refused. -/
theorem accepted_or_refused_text (valued : valuedOption? name = some act) (text : String) :
    (∃ item : Item, item.valued? = some (name, text)) ∨
      ∃ e, ∀ d, act d (Utf8.encode text) = .error e := by
  unfold valuedOption? at valued
  split_ifs at valued with newline offset part describe
  all_goals obtain rfl := Option.some.inj valued
  · cases found : newlineKinds.lookup text with
    | some options =>
      obtain ⟨convention, rfl⟩ := exists_newlineName found
      exact Or.inl ⟨.newline convention, by rw [newline]; rfl⟩
    | none =>
      refine Or.inr ⟨.unknownNewline text, fun d => ?_⟩
      simp only [textOf_encode, bind, Except.bind, found]
      rfl
  · cases read : Decimal.readNatural 0xFFFFFFFFFFFFFFFF text.toList with
    | ok n =>
      obtain ⟨written, bounded⟩ := Decimal.readNatural_eq_ok.mp read
      exact Or.inl ⟨.offset text n written bounded, by rw [offset]; rfl⟩
    | error fault =>
      refine Or.inr ⟨.badNumber text fault, fun d => ?_⟩
      simp only [numberOf_encode_error read, bind, Except.bind]
  · cases found : partialKinds.lookup text with
    | some options =>
      obtain ⟨hard, rfl⟩ := exists_partly found
      exact Or.inl ⟨.partly hard, by rw [part]; rfl⟩
    | none =>
      refine Or.inr ⟨.unknownPartial text, fun d => ?_⟩
      simp only [textOf_encode, bind, Except.bind, found]
      rfl
  · cases read : Decimal.readInteger 0x7FFFFFFF text.toList with
    | ok code =>
      obtain ⟨written, bounded⟩ := Decimal.readInteger_eq_ok.mp read
      exact Or.inl ⟨.describe text code written (by omega), by rw [describe]; rfl⟩
    | error fault =>
      refine Or.inr ⟨.badNumber text fault, fun d => ?_⟩
      simp only [numberOf_encode_error read, bind, Except.bind]

/-- Bytes that are no value of an item are refused, whatever has been gathered before. -/
theorem exists_refusal (valued : valuedOption? name = some act) {value : List UInt8}
    (none : ∀ (item : Item) text, item.valued? = some (name, text) → value ≠ Utf8.encode text) :
    ∃ e, ∀ d, act d value = .error e := by
  by_cases formed : Utf8.WellFormed value
  · obtain ⟨text, rfl⟩ := Utf8.wellFormed_iff.1.mp formed
    rcases accepted_or_refused_text valued text with ⟨item, written⟩ | refused
    · exact absurd rfl (none item text written)
    · exact refused
  · exact ⟨_, refused_of_not_wellFormed valued formed⟩

end Values

/-! ## Asking for help -/

/-- An argument that asks for help, and the items that are written before it in one cluster. -/
inductive AsksHelp : List UInt8 → List Item → Prop where
  | long : AsksHelp (longOption "help") []
  | withValue (value : List UInt8) : AsksHelp (longOptionWith "help" value) []
  /-- Whatever is written behind the letter. -/
  | letter {letters : List Char} {flags : List Item} (more : List UInt8) :
      Spelled letters flags → AsksHelp (cluster (letters ++ ['h']) ++ more) flags

/-- A long option that takes no value, with or without one. -/
theorem readAs_named {name : List UInt8} (plain : equals ∉ name) {value : Option (List UInt8)}
    (any : withValue name value ≠ []) (alone : valuedOption? (Utf8.lossy name) = none) :
    ReadAs [hyphen :: hyphen :: withValue name value] (readLong · (Utf8.lossy name) value) := by
  have split := splitValue_withValue plain value
  have read := readAs_long any (by rwa [split])
  rwa [split] at read

/-- What is read after some letters depends on what becomes of them. -/
theorem Step.letters_eq_error {letters : List Char} {d : Draft} {e : UsageError}
    (refused : readLetters d letters = .error e) (value : Option (List UInt8)) :
    Step.letters letters value d = .error e := by
  unfold Step.letters
  rw [refused]
  rfl

theorem Step.letters_eq_decided {letters : List Char} {d : Draft} {run : Invocation}
    (decided : readLetters d letters = .ok (.decided run)) (value : Option (List UInt8)) :
    Step.letters letters value d = .ok (.decided run) := by
  unfold Step.letters
  rw [decided]
  rfl

/-- Help is given, and what has been gathered before is kept. -/
theorem readAs_help {argument : List UInt8} {flags : List Item}
    (asks : AsksHelp argument flags) :
    ReadAs [argument] fun d => .ok (.decided (gatherAll flags d).help) := by
  have word : ∀ value, ReadAs [hyphen :: hyphen :: withValue (Utf8.encode "help") value]
      fun d => .ok (.decided d.help) := by
    intro value
    have any : withValue (Utf8.encode "help") value ≠ [] := by
      cases value with
      | none => exact encode_ne_nil (by decide)
      | some value => simp [withValue]
    have read := readAs_named (equals_notMem_encode (by decide)) any (by
      rw [Utf8.lossy_encode]
      rfl)
    rw [Utf8.lossy_encode] at read
    exact read
  cases asks with
  | long =>
    rw [longOption_eq]
    exact word none
  | withValue value =>
    rw [longOptionWith_eq]
    exact word (some value)
  | @letter letters _ more spelled =>
    have known : ∀ c ∈ letters ++ ['h'], c ∈ shortLetters := by
      intro c mem
      rcases List.mem_append.mp mem with mem | mem
      · exact (spelled.mem mem).1
      · rw [List.mem_singleton.mp mem]
        decide
    obtain ⟨short, plain⟩ := plain_of_shortLetters known
    have read := readAs_clusterAppend (by simp) short
      (fun mem => plain (List.mem_of_mem_tail mem)) more
    have step : (Step.letters (letters ++ ['h'] ++ lettersOf (splitValue more).1)
        (splitValue more).2) = fun d => .ok (.decided (gatherAll flags d).help) := by
      funext d
      refine Step.letters_eq_decided ?_ _
      rw [List.append_assoc, spelled.readLetters_append, List.singleton_append, readLetters,
        if_pos rfl]
    rwa [step] at read

/-! ## Arguments at fault -/

/-- Arguments that are refused. -/
inductive Faulty : List (List UInt8) → Prop where
  /-- A letter that is no option, behind letters that are and do not ask for help. -/
  | letter {letters : List Char} {flags : List Item} {c : Char} (more : List UInt8) :
      Spelled letters flags → c ∉ shortLetters → (letters = [] → c ≠ '-') →
        (letters ≠ [] → c ≠ '=') → Faulty [cluster (letters ++ [c]) ++ more]
  /-- Bytes that are no character, in place of a letter. -/
  | broken {letters : List Char} {flags : List Item} {bytes : List UInt8} :
      Spelled letters flags → bytes ≠ [] → (∀ c, ¬Utf8.Begins bytes c) →
        Faulty [cluster letters ++ bytes]
  /-- A value behind letters, none of which takes one. -/
  | letterValue {letters : List Char} {flags : List Item} (value : List UInt8) :
      letters ≠ [] → Spelled letters flags → Faulty [cluster letters ++ equals :: value]
  /-- A word that is no option. -/
  | word {name : List UInt8} {value : Option (List UInt8)} :
      equals ∉ name → withValue name value ≠ [] → (∀ known ∈ longNames, name ≠ Utf8.encode known) →
        Faulty [hyphen :: hyphen :: withValue name value]
  /-- A value behind a word that takes none. -/
  | wordValue {name : String} (value : List UInt8) :
      name ∈ flagNames → Faulty [longOptionWith name value]
  /-- A value behind an equals sign that is none of the option. -/
  | attached {name : String} {value : List UInt8} :
      name ∈ valuedNames →
        (∀ (item : Item) text, item.valued? = some (name, text) → value ≠ Utf8.encode text) →
        Faulty [longOptionWith name value]
  /-- A value in the next argument that is none of the option. -/
  | apart {name : String} {value : List UInt8} :
      name ∈ valuedNames →
        (∀ (item : Item) text, item.valued? = some (name, text) → value ≠ Utf8.encode text) →
        Faulty [longOption name, value]
  /-- A positional argument that is no text. -/
  | notText {bytes : List UInt8} :
      bytes.head? ≠ some hyphen → ¬Utf8.WellFormed bytes → Faulty [bytes]

section Faults

variable {letters : List Char} {flags : List Item}

theorem readAs_unknown (spelled : Spelled letters flags) {c : Char} (unknown : c ∉ shortLetters)
    (first : letters = [] → c ≠ '-') (later : letters ≠ [] → c ≠ '=') (more : List UInt8) :
    ReadAs [cluster (letters ++ [c]) ++ more]
      (.refuse (.invalidOption (String.ofList ['-', c]))) := by
  have known : ∀ letter ∈ letters, letter ∈ shortLetters := fun _ mem => (spelled.mem mem).1
  have short : (letters ++ [c]).head? ≠ some '-' := by
    cases letters with
    | nil => simpa using first rfl
    | cons letter rest => exact (plain_of_shortLetters known).1
  have plain : '=' ∉ (letters ++ [c]).tail := by
    cases letters with
    | nil => exact List.not_mem_nil
    | cons letter rest =>
      have others : '=' ∉ rest := fun mem =>
        (plain_of_shortLetters known).2 (List.mem_cons_of_mem _ mem)
      simpa [others] using (later (List.cons_ne_nil _ _)).symm
  have read := readAs_clusterAppend (by simp) short plain more
  have step : (Step.letters (letters ++ [c] ++ lettersOf (splitValue more).1)
      (splitValue more).2) = .refuse (.invalidOption (String.ofList ['-', c])) := by
    funext d
    refine Step.letters_eq_error ?_ _
    rw [List.append_assoc, spelled.readLetters_append, List.singleton_append,
      readLetters_unknown unknown]
  rwa [step] at read

/-- Bytes that are no character are read as U+FFFD, up to an equals sign at least. -/
theorem readAs_clusterBroken (spelled : Spelled letters flags) {bytes : List UInt8}
    (some : bytes ≠ []) (broken : ∀ c, ¬Utf8.Begins bytes c) :
    ∃ more value, ReadAs [cluster letters ++ bytes] (.letters (letters ++ '\uFFFD' :: more) value)
      := by
  have ascii : ∀ c : Char, c.toNat < 0x80 → bytes.head? ≠ UInt8.ofNat c.toNat := by
    intro c ascii head
    obtain ⟨rest, rfl⟩ := List.head?_eq_some_iff.mp head
    refine broken c ⟨rest, ?_⟩
    rw [Utf8.utf8EncodeChar_ascii ascii]
    rfl
  obtain ⟨first, rest, rfl⟩ := List.exists_cons_of_ne_nil some
  let start := first :: (splitValue rest).1
  have shown : ∃ more, lettersOf start = '\uFFFD' :: more := by
    have cut : (splitValue rest).1 <+: rest := by
      rw [splitValue_fst]
      exact List.takeWhile_prefix _
    obtain ⟨behind, whole⟩ := cut
    have still : ∀ c, ¬Utf8.Begins start c := by
      rintro c ⟨more, eq⟩
      refine broken c ⟨more ++ behind, ?_⟩
      rw [← List.append_assoc, ← eq, List.cons_append, whole]
    have head := Utf8.head?_lossy (List.cons_ne_nil _ _) still
    rw [lettersOf_eq]
    obtain ⟨more, eq⟩ := List.head?_eq_some_iff.mp head
    exact ⟨more, eq⟩
  obtain ⟨more, eq⟩ := shown
  refine ⟨more, (splitValue rest).2, ?_⟩
  rw [← eq]
  cases letters with
  | nil =>
    have short : first ≠ hyphen := fun eq => ascii '-' (by decide) (by rw [eq]; rfl)
    have alone : cluster [] = [hyphen] := by
      rw [cluster_eq, String.ofList_nil, Utf8.encode_empty]
    rw [alone]
    exact readAs_cluster short rest
  | cons letter others =>
    have plain := plain_of_shortLetters fun _ mem => (spelled.mem mem).1
    have read := readAs_clusterAppend (List.cons_ne_nil _ _) plain.1
      (fun mem => plain.2 (List.mem_cons_of_mem _ mem)) (first :: rest)
    have named : first ≠ equals := fun eq => ascii '=' (by decide) (by rw [eq]; rfl)
    have split : splitValue (first :: rest) = (start, (splitValue rest).2) :=
      @splitValue_append [first] (by simpa using named.symm) rest
    rwa [split] at read

theorem readAs_broken (spelled : Spelled letters flags) {bytes : List UInt8}
    (some : bytes ≠ []) (broken : ∀ c, ¬Utf8.Begins bytes c) :
    ReadAs [cluster letters ++ bytes] (.refuse (.invalidOption "-\uFFFD")) := by
  obtain ⟨more, value, read⟩ := readAs_clusterBroken spelled some broken
  have step : Step.letters (letters ++ '\uFFFD' :: more) value =
      .refuse (.invalidOption "-\uFFFD") := by
    funext d
    refine Step.letters_eq_error ?_ _
    rw [spelled.readLetters_append, readLetters_unknown (by decide)]
  rwa [step] at read

theorem readAs_letterValue (spelled : Spelled letters flags) (any : letters ≠ [])
    (value : List UInt8) : ReadAs [cluster letters ++ equals :: value]
      (.refuse (.unexpectedValue (String.ofList ('-' :: letters.getLast?.toList)) value)) := by
  have plain := plain_of_shortLetters fun _ mem => (spelled.mem mem).1
  have read := readAs_clusterAppend any plain.1 (fun mem => plain.2 (List.mem_of_mem_tail mem))
    (equals :: value)
  rw [splitValue_equals, lettersOf_nil, List.append_nil] at read
  have step : Step.letters letters (some value) =
      .refuse (.unexpectedValue (String.ofList ('-' :: letters.getLast?.toList)) value) := by
    funext d
    unfold Step.letters
    rw [spelled.readLetters]
    rfl
  rwa [step] at read

end Faults

theorem readAs_word {name : List UInt8} (plain : equals ∉ name) {value : Option (List UInt8)}
    (any : withValue name value ≠ []) (unknown : ∀ known ∈ longNames, name ≠ Utf8.encode known) :
    ReadAs [hyphen :: hyphen :: withValue name value]
      (.refuse (.invalidOption ("--" ++ Utf8.lossy name))) := by
  have unlisted : Utf8.lossy name ∉ longNames := fun mem =>
    unknown _ mem (encode_lossy_of_mem mem).symm
  have alone : valuedOption? (Utf8.lossy name) = none := by
    unfold valuedOption?
    split_ifs <;> simp_all [longNames, valuedNames]
  have help : Utf8.lossy name ≠ "help" := by
    intro eq
    exact unlisted (by rw [eq]; decide)
  have flag : longFlag? (Utf8.lossy name) = none := by
    unfold longFlag?
    split_ifs <;> simp_all [longNames, flagNames]
  have step : (readLong · (Utf8.lossy name) value) =
      Step.refuse (.invalidOption ("--" ++ Utf8.lossy name)) := by
    funext d
    unfold readLong
    rw [if_neg help, flag]
    cases value <;> rfl
  have read := readAs_named plain any alone
  rwa [step] at read

theorem readAs_wordValue {name : String} (mem : name ∈ flagNames) (value : List UInt8) :
    ReadAs [longOptionWith name value] (.refuse (.unexpectedValue ("--" ++ name) value)) := by
  have known : ∀ name ∈ flagNames, (longFlag? name).isSome := by decide
  obtain ⟨act, flag⟩ := Option.isSome_iff_exists.mp (known name mem)
  obtain ⟨⟨-, help, plain⟩, alone⟩ := valuedOption?_of_longFlag flag
  have step : (readLong · name (some value)) =
      Step.refuse (.unexpectedValue ("--" ++ name) value) := by
    funext d
    unfold readLong
    rw [if_neg help, flag]
    rfl
  have read := @readAs_named _ (equals_notMem_encode plain) (some value) (by simp [withValue])
    (by rwa [Utf8.lossy_encode])
  rwa [Utf8.lossy_encode, step, ← longOptionWith_eq] at read

/-- An option whose value is none of its values. -/
theorem exists_refuse_valued {name : String} (mem : name ∈ valuedNames) {value : List UInt8}
    (none : ∀ (item : Item) text, item.valued? = some (name, text) → value ≠ Utf8.encode text) :
    ∃ e, ReadAs [longOptionWith name value] (.refuse e) ∧
      ReadAs [longOption name, value] (.refuse e) := by
  obtain ⟨act, valued⟩ := exists_valuedOption mem
  obtain ⟨e, refused⟩ := exists_refusal valued none
  have step : Step.valued act value = .refuse e := by
    funext d
    rw [Step.valued, refused]
    rfl
  refine ⟨e, ?_⟩
  rw [← step]
  exact ⟨readAs_attached valued value, readAs_apart valued value⟩

theorem readAs_notText {bytes : List UInt8} (plain : bytes.head? ≠ some hyphen)
    (bad : ¬Utf8.WellFormed bytes) : ReadAs [bytes] (.refuse (.notText bytes)) := by
  have read := readAs_positional (Or.inr plain)
  rw [textOf_of_not_wellFormed bad] at read
  exact read

/-- Arguments at fault are refused in one way, whatever stands before them. -/
theorem readAs_faulty {arguments : List (List UInt8)} (faulty : Faulty arguments) :
    ∃ e, ReadAs arguments (.refuse e) := by
  cases faulty with
  | letter more spelled unknown first later =>
    exact ⟨_, readAs_unknown spelled unknown first later more⟩
  | broken spelled some broken => exact ⟨_, readAs_broken spelled some broken⟩
  | letterValue value any spelled => exact ⟨_, readAs_letterValue spelled any value⟩
  | word plain any unknown => exact ⟨_, readAs_word plain any unknown⟩
  | wordValue value mem => exact ⟨_, readAs_wordValue mem value⟩
  | attached mem none =>
    obtain ⟨e, read, -⟩ := exists_refuse_valued mem none
    exact ⟨e, read⟩
  | apart mem none =>
    obtain ⟨e, -, read⟩ := exists_refuse_valued mem none
    exact ⟨e, read⟩
  | notText plain bad => exact ⟨_, readAs_notText plain bad⟩

/-! ## What decides -/

/-- Arguments that write items are passed over, and the items are gathered. -/
theorem ofArguments_of_writes {before : List (List UInt8)} {items : List Item}
    (writes : Writes before items) (rest : List (List UInt8)) :
    Invocation.ofArguments (before ++ rest) = readArguments (gathered items) rest := by
  unfold Invocation.ofArguments
  rw [readAs_writes writes]
  show readArguments (gatherAll items .empty) rest = _
  rw [gatherAll_empty]

theorem ofArguments_append {before arguments rest : List (List UInt8)} {items : List Item}
    (writes : Writes before items) {s : Step} (read : ReadAs arguments s) :
    Invocation.ofArguments (before ++ (arguments ++ rest)) =
      s (gathered items) >>= Progress.resume rest := by
  rw [ofArguments_of_writes writes, read]

/-- A refusal is told, and nothing else is done. -/
theorem run_of_error {arguments : List (List UInt8)} {e : UsageError}
    (refused : Invocation.ofArguments arguments = .error e) (input : List UInt8)
    (filter : Option String) : run arguments input filter =
      ⟨2, "", "pcregex: " ++ e.message ++ "\n\n" ++ usageText ++ "\n"⟩ := by
  unfold run
  rw [refused]

/-- Arguments that are refused with one error, whatever items stand before them and whatever stands
behind them: nothing is printed, and the exit code is 2. -/
def Refused (arguments : List (List UInt8)) : Prop :=
  ∃ e : UsageError, ∀ before items, Writes before items → ∀ after,
    Invocation.ofArguments (before ++ (arguments ++ after)) = .error e ∧
    ∀ input filter, run (before ++ (arguments ++ after)) input filter =
      ⟨2, "", "pcregex: " ++ e.message ++ "\n\n" ++ usageText ++ "\n"⟩

theorem refused_of_faulty {arguments : List (List UInt8)} (faulty : Faulty arguments) :
    Refused arguments := by
  obtain ⟨e, refused⟩ := readAs_faulty faulty
  refine ⟨e, fun before items writes after => ?_⟩
  have error : Invocation.ofArguments (before ++ (arguments ++ after)) = .error e :=
    ofArguments_append writes refused
  exact ⟨error, run_of_error error⟩

/-- **The first argument that asks for help or is at fault decides the run**, whatever stands behind
it: help is given with the settings of what stands before it, and a fault is refused. -/
theorem first_decides :
    (∀ before items argument flags, Writes before items → AsksHelp argument flags → ∀ after,
      Invocation.ofArguments (before ++ argument :: after) =
        .ok ⟨settingsOf (items ++ flags), .help⟩) ∧
    ∀ faulty, Faulty faulty → Refused faulty := by
  constructor
  · intro before items argument flags writes asks after
    have read := @ofArguments_append _ _ after _ writes _ (readAs_help asks)
    rw [gatherAll_gathered] at read
    exact read
  · intro faulty fault
    exact refused_of_faulty fault

/-- Help behind a description and before bytes that are no text, which are refused in its place. -/
theorem first_decides_notText :
    let before := [cluster ['i', 'x'], longOptionWith "describe" (Utf8.encode "-1")]
    let after := [longOption "unknown"]
    Invocation.ofArguments (before ++ (cluster ['v', 'h'] ++ [equals]) :: [0xFF] :: after) =
        .ok ⟨⟨.caseless ||| .extended, .empty, 0, 1⟩, .help⟩ ∧
      (run (before ++ ([[0xFF]] ++ after)) [] none).exit = 2 ∧
      (run (before ++ ([[0xFF]] ++ after)) [] none).stdout = "" := by
  intro before after
  let described : Item := .describe "-1" (-1) (by decide) (by decide)
  have spelled : Spelled ['i', 'x'] [.pattern .caseless, .pattern .extended] := rfl
  have verbose : Spelled ['v'] [.verbose] := rfl
  have valued : described.valued? = some ("describe", "-1") := rfl
  have writes := Writes.together (List.cons_ne_nil _ _) spelled (.attached valued .nil)
  have asks := AsksHelp.letter [equals] verbose
  have bad : ¬Utf8.WellFormed [0xFF] := by
    rw [Utf8.wellFormed_iff.2, Utf8.defect?]
    decide
  obtain ⟨help, refused⟩ := first_decides
  obtain ⟨e, told⟩ := refused [[0xFF]] (.notText (by decide) bad)
  have outcome := (told before _ writes after).2 [] none
  refine ⟨?_, ?_, ?_⟩
  · exact (help _ _ _ _ writes asks ([0xFF] :: after)).trans (by decide)
  · rw [outcome]
  · rw [outcome]

end Regex.Command
