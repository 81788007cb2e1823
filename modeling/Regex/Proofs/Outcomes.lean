import Regex.Proofs.Deciding

/-!
# What arguments come to

Every list of arguments begins with some that write items.  Behind them it ends, or all is
positional, or an option lacks its value, or help is asked for, or something is at fault; there is
no other way for it to go on.  So a run has the settings of some items, whatever its arguments are.

* `Ends`: what stands behind the arguments that write items.
* `exists_spelled`: as many letters of items as there are.
* `begins_or_ends`: what stands first among arguments.
* `exists_writes`: every list of arguments falls into items and an end.
* `settings_of_ofArguments`: the settings of every run are those of some items.
-/

namespace Regex.Command

/-- What stands behind arguments that write items. -/
inductive Ends : List (List UInt8) → Prop where
  | nothing : Ends []
  /-- All that follows is positional. -/
  | hyphens (more : List (List UInt8)) : Ends ([hyphen, hyphen] :: more)
  /-- An option without its value. -/
  | lacking {name : String} : name ∈ valuedNames → Ends [longOption name]
  | help {argument : List UInt8} {flags : List Item} (after : List (List UInt8)) :
      AsksHelp argument flags → Ends (argument :: after)
  | fault {faulty : List (List UInt8)} (after : List (List UInt8)) :
      Faulty faulty → Ends (faulty ++ after)

theorem Writes.append {before after : List (List UInt8)} {items items' : List Item}
    (first : Writes before items) (second : Writes after items') :
    Writes (before ++ after) (items ++ items') := by
  induction first with
  | nil => exact second
  | apart item _ ih =>
    rw [List.append_assoc, List.cons_append]
    exact ih.apart item
  | attached written _ ih => exact ih.attached written
  | together any spelled _ ih =>
    rw [List.append_assoc]
    exact ih.together any spelled

/-- An item that is written without anything else. -/
theorem writes_item (item : Item) : Writes (item.arguments.map Utf8.encode) [item] := by
  have alone := Writes.nil.apart item
  rwa [List.append_nil] at alone

/-! ## Short options -/

theorem exists_letter {c : Char} (known : c ∈ shortLetters) (help : c ≠ 'h') :
    ∃ item : Item, item.letter? = some c := by
  simp only [shortLetters, List.mem_cons, List.not_mem_nil, or_false] at known
  rcases known with rfl | rfl | rfl | rfl | rfl | rfl | rfl | rfl | rfl
  · exact ⟨.pattern .caseless, rfl⟩
  · exact ⟨.pattern .multiline, rfl⟩
  · exact ⟨.pattern .dotall, rfl⟩
  · exact ⟨.pattern .extended, rfl⟩
  · exact ⟨.pattern .utf, rfl⟩
  · exact ⟨.pattern .ungreedy, rfl⟩
  · exact ⟨.pattern .anchored, rfl⟩
  · exact ⟨.verbose, rfl⟩
  · exact absurd rfl help

/-- Letters of items are taken as long as there are any. -/
theorem exists_spelled (bytes : List UInt8) : ∃ letters flags rest, Spelled letters flags ∧
    bytes = Utf8.encode (String.ofList letters) ++ rest ∧
    ∀ c, Utf8.Begins rest c → c = 'h' ∨ c ∉ shortLetters := by
  have none : ∀ bytes : List UInt8, bytes = Utf8.encode (String.ofList []) ++ bytes := by
    intro bytes
    rw [String.ofList_nil, Utf8.encode_empty, List.nil_append]
  induction bytes using Utf8.char_induction with
  | stop bytes broken =>
    exact ⟨[], [], bytes, rfl, none bytes, fun c begins => absurd begins (broken c)⟩
  | char c rest ih =>
    by_cases letter : c ≠ 'h' ∧ c ∈ shortLetters
    · obtain ⟨letters, flags, behind, spelled, rfl, stop⟩ := ih
      obtain ⟨item, written⟩ := exists_letter letter.2 letter.1
      refine ⟨c :: letters, item :: flags, behind, ?_, ?_, stop⟩
      · unfold Spelled at spelled ⊢
        rw [List.map_cons, List.map_cons, written, spelled]
      · rw [Utf8.encode_eq, Utf8.encode_eq, String.toList_ofList, String.toList_ofList,
          List.flatMap_cons, List.append_assoc]
    · refine ⟨[], [], _, rfl, none _, fun c' begins => ?_⟩
      obtain rfl := begins.eq ⟨rest, rfl⟩
      by_contra other
      rw [not_or, not_not] at other
      exact letter other

theorem cluster_append (letters : List Char) (bytes : List UInt8) :
    cluster letters ++ bytes = hyphen :: (Utf8.encode (String.ofList letters) ++ bytes) := by
  rw [cluster_eq, List.cons_append]

theorem cluster_append_begins (letters : List Char) (c : Char) (bytes : List UInt8) :
    cluster letters ++ (String.utf8EncodeChar c ++ bytes) = cluster (letters ++ [c]) ++ bytes := by
  rw [cluster_append, cluster_append, Utf8.encode_eq, Utf8.encode_eq, String.toList_ofList,
    String.toList_ofList, List.flatMap_append, List.flatMap_singleton, List.append_assoc]

/-- A cluster writes items, or asks for help, or is at fault. -/
theorem cluster_begins_or_ends {first : UInt8} (short : first ≠ hyphen) (bytes : List UInt8) :
    (∃ items, Writes [hyphen :: first :: bytes] items) ∨
      ∀ after, Ends ((hyphen :: first :: bytes) :: after) := by
  obtain ⟨letters, flags, rest, spelled, all, stop⟩ := exists_spelled (first :: bytes)
  have written : hyphen :: first :: bytes = cluster letters ++ rest := by
    rw [cluster_append, all]
  rw [written]
  by_cases ended : rest = []
  · have any : letters ≠ [] := by
      rintro rfl
      rw [ended, String.ofList_nil, Utf8.encode_empty] at all
      cases all
    rw [ended, List.append_nil]
    exact Or.inl ⟨flags ++ [], .together any spelled .nil⟩
  refine Or.inr fun after => ?_
  by_cases whole : ∃ c, Utf8.Begins rest c
  · obtain ⟨c, more, rfl⟩ := whole
    rcases stop c ⟨more, rfl⟩ with rfl | unknown
    · rw [cluster_append_begins]
      exact .help after (.letter more spelled)
    · by_cases value : letters ≠ [] ∧ c = '='
      · obtain ⟨any, rfl⟩ := value
        exact .fault after (.letterValue more any spelled)
      · rw [cluster_append_begins]
        refine .fault after (.letter more spelled unknown ?_ fun any eq => value ⟨any, eq⟩)
        rintro rfl rfl
        rw [String.ofList_nil, Utf8.encode_empty] at all
        exact short (List.cons.inj all).1
  · exact .fault after (.broken spelled ended (not_exists.mp whole))

/-! ## Long options -/

theorem exists_withValue (long : List UInt8) :
    ∃ name value, equals ∉ name ∧ long = withValue name value := by
  by_cases mem : equals ∈ long
  · obtain ⟨name, value, eq, plain⟩ := List.eq_append_cons_of_mem mem
    exact ⟨name, some value, plain, eq⟩
  · exact ⟨long, none, mem, rfl⟩

theorem Item.arguments_of_valued {item : Item} {name text : String}
    (written : item.valued? = some (name, text)) :
    item.arguments.map Utf8.encode = [longOption name, Utf8.encode text] := by
  cases item with
  | newline convention =>
    obtain ⟨rfl, rfl⟩ := Prod.mk.inj (Option.some.inj written)
    rfl
  | partly hard =>
    obtain ⟨rfl, rfl⟩ := Prod.mk.inj (Option.some.inj written)
    rfl
  | offset value n digits bounded =>
    obtain ⟨rfl, rfl⟩ := Prod.mk.inj (Option.some.inj written)
    rfl
  | describe value code digits bounded =>
    obtain ⟨rfl, rfl⟩ := Prod.mk.inj (Option.some.inj written)
    rfl
  | _ => cases written

theorem exists_flagItem {name : String} (mem : name ∈ flagNames) :
    ∃ item : Item, item.arguments.map Utf8.encode = [longOption name] := by
  simp only [flagNames, List.mem_cons, List.not_mem_nil, or_false] at mem
  rcases mem with rfl | rfl | rfl
  · exact ⟨.search .notbol, rfl⟩
  · exact ⟨.search .noteol, rfl⟩
  · exact ⟨.search .notempty, rfl⟩

/-- An option with a value behind an equals sign writes an item or is at fault. -/
theorem attached_begins_or_ends {name : String} (mem : name ∈ valuedNames) (value : List UInt8) :
    (∃ items, Writes [longOptionWith name value] items) ∨
      ∀ after, Ends (longOptionWith name value :: after) := by
  by_cases accepted : ∃ (item : Item) (text : String),
      item.valued? = some (name, text) ∧ value = Utf8.encode text
  · obtain ⟨item, text, written, rfl⟩ := accepted
    exact Or.inl ⟨[item], .attached written .nil⟩
  · refine Or.inr fun after => .fault after (.attached mem fun item text written eq => ?_)
    exact accepted ⟨item, text, written, eq⟩

/-- So does one that takes the next argument. -/
theorem apart_begins_or_ends {name : String} (mem : name ∈ valuedNames) (value : List UInt8) :
    (∃ items, Writes [longOption name, value] items) ∨
      ∀ after, Ends (longOption name :: value :: after) := by
  by_cases accepted : ∃ (item : Item) (text : String),
      item.valued? = some (name, text) ∧ value = Utf8.encode text
  · obtain ⟨item, text, written, rfl⟩ := accepted
    refine Or.inl ⟨[item], ?_⟩
    rw [← item.arguments_of_valued written]
    exact writes_item item
  · refine Or.inr fun after => .fault after (.apart mem fun item text written eq => ?_)
    exact accepted ⟨item, text, written, eq⟩

/-- A long option that does not lack a value writes an item, asks for help or is at fault. -/
theorem long_begins_or_ends {long : List UInt8} (any : long ≠ [])
    (alone : hyphen :: hyphen :: long ∉ valuedNames.map longOption) :
    (∃ items, Writes [hyphen :: hyphen :: long] items) ∨
      ∀ after, Ends ((hyphen :: hyphen :: long) :: after) := by
  obtain ⟨name, value, plain, rfl⟩ := exists_withValue long
  by_cases known : ∃ word ∈ longNames, name = Utf8.encode word
  · obtain ⟨word, mem, rfl⟩ := known
    cases value with
    | none =>
      have written : hyphen :: hyphen :: withValue (Utf8.encode word) none = longOption word :=
        (longOption_eq word).symm
      rw [written] at alone ⊢
      rcases List.mem_append.mp mem with mem | mem
      · rcases List.mem_cons.mp mem with rfl | mem
        · exact Or.inr fun after => .help after .long
        · obtain ⟨item, eq⟩ := exists_flagItem mem
          refine Or.inl ⟨[item], ?_⟩
          rw [← eq]
          exact writes_item item
      · exact absurd (List.mem_map_of_mem mem) alone
    | some value =>
      rw [← longOptionWith_eq]
      rcases List.mem_append.mp mem with mem | mem
      · rcases List.mem_cons.mp mem with rfl | mem
        · exact Or.inr fun after => .help after (.withValue value)
        · exact Or.inr fun after => .fault after (.wordValue value mem)
      · exact attached_begins_or_ends mem value
  · refine Or.inr fun after => .fault after (.word plain any fun word mem eq => ?_)
    exact known ⟨word, mem, eq⟩

/-! ## All arguments -/

theorem positional_begins_or_ends {bytes : List UInt8}
    (plain : bytes = [hyphen] ∨ bytes.head? ≠ some hyphen) :
    (∃ items, Writes [bytes] items) ∨ ∀ after, Ends (bytes :: after) := by
  by_cases formed : Utf8.WellFormed bytes
  · obtain ⟨text, rfl⟩ := Utf8.wellFormed_iff.1.mp formed
    have alone : Utf8.encode "-" = [hyphen] := by decide +kernel
    have plain : text = "-" ∨ text.toList.head? ≠ some '-' := by
      refine plain.imp (fun eq => ?_) fun other head => ?_
      · exact Utf8.encode_injective (eq.trans alone.symm)
      · exact other ((Utf8.head?_encode (c := '-') (by decide)).mpr head)
    exact Or.inl ⟨_, writes_item (.positional text plain)⟩
  · have other : bytes.head? ≠ some hyphen := by
      rcases plain with rfl | other
      · exact absurd (Utf8.wellFormed_iff.1.mpr ⟨"-", by decide +kernel⟩) formed
      · exact other
    exact Or.inr fun after => .fault after (.notText other formed)

/-- What stands first writes items, or nothing follows what writes items. -/
theorem begins_or_ends (arguments : List (List UInt8)) :
    Ends arguments ∨ ∃ first items rest, Writes first items ∧ first ≠ [] ∧
      arguments = first ++ rest := by
  have single : ∀ {first : List (List UInt8)} {rest : List (List UInt8)}, first ≠ [] →
      ((∃ items, Writes first items) ∨ ∀ after, Ends (first ++ after)) →
      Ends (first ++ rest) ∨ ∃ start items more, Writes start items ∧ start ≠ [] ∧
        first ++ rest = start ++ more := by
    rintro first rest some (⟨items, writes⟩ | ends)
    · exact Or.inr ⟨first, items, rest, writes, some, rfl⟩
    · exact Or.inl (ends rest)
  cases arguments with
  | nil => exact Or.inl .nothing
  | cons argument rest =>
    cases form argument with
    | positional plain =>
      exact single (List.cons_ne_nil argument []) (positional_begins_or_ends plain)
    | hyphens => exact Or.inl (.hyphens rest)
    | short bytes other => exact single (List.cons_ne_nil _ []) (cluster_begins_or_ends other bytes)
    | @long long any =>
      by_cases valued : hyphen :: hyphen :: long ∈ valuedNames.map longOption
      · obtain ⟨name, mem, eq⟩ := List.mem_map.mp valued
        rw [← eq]
        cases rest with
        | nil => exact Or.inl (.lacking mem)
        | cons value rest =>
          exact single (List.cons_ne_nil _ [value]) (apart_begins_or_ends mem value)
      · exact single (List.cons_ne_nil _ []) (long_begins_or_ends any valued)

/-- **Every list of arguments falls into items and an end.** -/
theorem exists_writes (arguments : List (List UInt8)) : ∃ before items rest,
    Writes before items ∧ Ends rest ∧ arguments = before ++ rest := by
  induction length : arguments.length using Nat.strong_induction_on generalizing arguments with
  | _ n ih =>
    rcases begins_or_ends arguments with ends | ⟨first, items, rest, writes, some, rfl⟩
    · exact ⟨[], [], arguments, .nil, ends, rfl⟩
    · have shorter : rest.length < n := by
        have positive := List.length_pos_iff.mpr some
        rw [← length, List.length_append]
        omega
      obtain ⟨before, items', last, writes', ends, rfl⟩ := ih _ shorter rest rfl
      exact ⟨first ++ before, items ++ items', last, writes.append writes', ends,
        (List.append_assoc _ _ _).symm⟩

/-! ## Settings -/

theorem settings_of_finish {d : Draft} {run : Invocation} (finished : d.finish = .ok run) :
    run.settings = d.settings := by
  unfold Draft.finish at finished
  split at finished
  · obtain rfl := Except.ok.inj finished
    rfl
  · obtain rfl := Except.ok.inj finished
    rfl
  · cases finished

/-- Positional arguments have no part in the settings. -/
theorem settings_of_readPositionals {d : Draft} {more : List (List UInt8)} {run : Invocation}
    (read : readPositionals d more = .ok run) : run.settings = d.settings := by
  induction more generalizing d with
  | nil => exact settings_of_finish read
  | cons value more ih =>
    rw [readPositionals] at read
    cases text : textOf value with
    | error e =>
      rw [text] at read
      cases read
    | ok text' =>
      rw [text] at read
      have later : readPositionals (d.withPositional text') more = .ok run := read
      rw [ih later]
      rfl

/-- **The settings of a run are those of some items**, whatever its arguments are. -/
theorem settings_of_ofArguments {arguments : List (List UInt8)} {run : Invocation}
    (asked : Invocation.ofArguments arguments = .ok run) :
    ∃ items, run.settings = settingsOf items := by
  obtain ⟨before, items, rest, writes, ends, rfl⟩ := exists_writes arguments
  have read := ofArguments_of_writes writes rest
  cases ends with
  | nothing =>
    rw [read] at asked
    exact ⟨items, settings_of_finish asked⟩
  | hyphens more =>
    rw [read, readArguments, List.isEmpty_nil, if_pos rfl] at asked
    exact ⟨items, settings_of_readPositionals asked⟩
  | @lacking name mem =>
    obtain ⟨act, valued⟩ := exists_valuedOption mem
    obtain ⟨named, plain⟩ := plain_of_mem_valuedNames name mem
    rw [read, longOption_eq, readArguments_long _ (encode_ne_nil named),
      splitValue_of_notMem (equals_notMem_encode plain), Utf8.lossy_encode, valued] at asked
    cases asked
  | @help argument flags after asks =>
    have decided := @ofArguments_append _ _ after _ writes _ (readAs_help asks)
    rw [gatherAll_gathered] at decided
    obtain rfl := Except.ok.inj (asked.symm.trans decided)
    exact ⟨items ++ flags, rfl⟩
  | @fault faulty after fault =>
    obtain ⟨e, refused⟩ := readAs_faulty fault
    have error := @ofArguments_append _ _ after _ writes _ refused
    cases asked.symm.trans error

end Regex.Command
