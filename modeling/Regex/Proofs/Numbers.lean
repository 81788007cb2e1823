import Regex.Proofs.Batch
import Regex.Proofs.Outcomes

/-!
# Numbers on the command line

An offset and an error number are given as options with a value.  The value is a decimal number
within the bounds of a machine word, and is refused if it is not; what is done with it afterwards is
done with the number as it was written.

* `Gives`: an option with its value, in either spelling.
* `OffsetValue`, `CodeValue`: which bytes write an offset, and which an error number.
* `startOffset_le`, `unchecked_settingsOf`: what holds of the settings of every run.
* `firstMatchBytes_of_short`: a subject that is shorter than the offset.
* `numbers_kept`: what becomes of every value of the two options.
-/

namespace Regex.Command

/-- Arguments that give an option its value. -/
inductive Gives (name : String) (value : List UInt8) : List (List UInt8) → Prop where
  | apart : Gives name value [longOption name, value]
  | attached : Gives name value [longOptionWith name value]

/-- Bytes that write an offset: digits, perhaps behind a plus sign. -/
def OffsetValue (value : List UInt8) (n : Nat) : Prop :=
  ∃ text : String, value = Utf8.encode text ∧ Decimal.Natural text.toList n ∧
    n ≤ 0xFFFFFFFFFFFFFFFF

/-- Bytes that write an error number: digits, perhaps behind a sign. -/
def CodeValue (value : List UInt8) (code : Int) : Prop :=
  ∃ text : String, value = Utf8.encode text ∧ Decimal.Integer text.toList code ∧
    -0x80000000 ≤ code ∧ code ≤ 0x7FFFFFFF

theorem offsetValue_encode {text : String} {n : Nat} : OffsetValue (Utf8.encode text) n ↔
    Decimal.readNatural 0xFFFFFFFFFFFFFFFF text.toList = .ok n := by
  rw [Decimal.readNatural_eq_ok]
  constructor
  · rintro ⟨text', eq, written⟩
    rwa [Utf8.encode_injective eq]
  · exact fun written => ⟨text, rfl, written⟩

theorem codeValue_encode {text : String} {code : Int} : CodeValue (Utf8.encode text) code ↔
    Decimal.readInteger 0x7FFFFFFF text.toList = .ok code := by
  rw [Decimal.readInteger_eq_ok]
  constructor
  · rintro ⟨text', eq, digits, bounded⟩
    rw [Utf8.encode_injective eq]
    exact ⟨digits, by omega⟩
  · rintro ⟨digits, bounded⟩
    exact ⟨text, rfl, digits, by omega⟩

section Values

variable {name : String} {value : List UInt8} {arguments : List (List UInt8)}

theorem Gives.writes {item : Item} {text : String} (gives : Gives name (Utf8.encode text) arguments)
    (written : item.valued? = some (name, text)) : Writes arguments [item] := by
  cases gives with
  | apart =>
    rw [← item.arguments_of_valued written]
    exact writes_item item
  | attached => exact .attached written .nil

theorem Gives.refused (gives : Gives name value arguments) (mem : name ∈ valuedNames)
    (none : ∀ (item : Item) text, item.valued? = some (name, text) → value ≠ Utf8.encode text) :
    Refused arguments := by
  apply refused_of_faulty
  cases gives with
  | apart => exact .apart mem none
  | attached => exact .attached mem none

theorem refused_of_not_offsetValue (gives : Gives "offset" value arguments)
    (none : ∀ n, ¬OffsetValue value n) : Refused arguments := by
  refine gives.refused (by decide) fun item text written eq => ?_
  cases item with
  | offset text' n digits bounded =>
    obtain rfl := (Prod.mk.inj (Option.some.inj written)).2
    exact none n ⟨text', eq, digits, bounded⟩
  | _ => simp [Item.valued?] at written

theorem refused_of_not_codeValue (gives : Gives "describe" value arguments)
    (none : ∀ code, ¬CodeValue value code) : Refused arguments := by
  refine gives.refused (by decide) fun item text written eq => ?_
  cases item with
  | describe text' code digits bounded =>
    obtain rfl := (Prod.mk.inj (Option.some.inj written)).2
    exact none code ⟨text', eq, digits, bounded⟩
  | _ => simp [Item.valued?] at written

end Values

section Accepted

variable {name : String} {value : List UInt8} {arguments before after : List (List UInt8)}
  {items items' : List Item}

/-- Items in any spelling ask for what they name. -/
theorem ofArguments_writes (writes : Writes arguments items) (more : Option (List String)) :
    Invocation.ofArguments (arguments ++ argumentsOf [] more) = wanted items (more.getD []) := by
  rw [ofArguments_of_writes writes, readArguments_more]
  rfl

/-- An option works as the last one does if none behind it is of its kind. -/
theorem ofArguments_gives {item : Item} {text : String}
    (gives : Gives name (Utf8.encode text) arguments) (written : item.valued? = some (name, text))
    (first : Writes before items) (last : Writes after items')
    (offset : item.offset? = none ∨ ∀ other ∈ items', other.offset? = none)
    (description : item.description? = none ∨ ∀ other ∈ items', other.description? = none)
    (more : Option (List String)) :
    Invocation.ofArguments (before ++ (arguments ++ (after ++ argumentsOf [] more))) =
      let d := item.gather (gathered (items ++ items'))
      { d with positional := d.positional ++ more.getD [] }.finish := by
  have whole : Writes (before ++ (arguments ++ after)) (items ++ item :: items') :=
    first.append ((gives.writes written).append last)
  have listed : item.positional? = none := by
    cases item <;> first | rfl | cases written
  have behind := gathered_behind items item (Or.inl listed)
    (offset.imp_right List.filterMap_eq_nil_iff.mpr)
    (description.imp_right List.filterMap_eq_nil_iff.mpr)
  have read := ofArguments_of_writes whole (argumentsOf [] more)
  rw [List.append_assoc, List.append_assoc, readArguments_more, behind] at read
  exact read

theorem finish_withOffset (d : Draft) (n : Nat) :
    { d with settings.startOffset := n }.finish =
      d.finish.map fun run => { run with settings.startOffset := n } := by
  unfold Draft.finish
  dsimp only
  split <;> rfl

/-- An offset is taken, and changes nothing else. -/
theorem ofArguments_offset {n : Nat} (gives : Gives "offset" value arguments)
    (written : OffsetValue value n) (first : Writes before items) (last : Writes after items')
    (others : ∀ item ∈ items', item.offset? = none) (more : Option (List String)) :
    Invocation.ofArguments (before ++ (arguments ++ (after ++ argumentsOf [] more))) =
      (Invocation.ofArguments (before ++ (after ++ argumentsOf [] more))).map fun run =>
        { run with settings.startOffset := n } := by
  obtain ⟨text, rfl, digits, bounded⟩ := written
  let item : Item := .offset text n digits bounded
  have without := ofArguments_writes (first.append last) more
  rw [List.append_assoc] at without
  rw [@ofArguments_gives _ _ _ _ _ _ item text gives rfl first last (Or.inr others) (Or.inl rfl)
    more, without]
  exact finish_withOffset
    { gathered (items ++ items') with
      positional := (gathered (items ++ items')).positional ++ more.getD [] } n

/-- An error number is taken, and its text is asked for. -/
theorem ofArguments_code {code : Int} (gives : Gives "describe" value arguments)
    (written : CodeValue value code) (first : Writes before items) (last : Writes after items')
    (others : ∀ item ∈ items', item.description? = none) (more : Option (List String)) :
    Invocation.ofArguments (before ++ (arguments ++ (after ++ argumentsOf [] more))) =
      .ok ⟨settingsOf (items ++ items'), .describe code⟩ := by
  obtain ⟨text, rfl, digits, bounded⟩ := written
  let item : Item := .describe text code digits bounded
  exact @ofArguments_gives _ _ _ _ _ _ item text gives rfl first last (Or.inl rfl) (Or.inr others)
    more

end Accepted

/-- The text of an error number is all that is printed. -/
theorem run_of_describe {arguments : List (List UInt8)} {settings : Settings} {code : Int}
    (asked : Invocation.ofArguments arguments = .ok ⟨settings, .describe code⟩)
    (input : List UInt8) (filter : Option String) :
    (run arguments input filter).exit = 0 ∧ (run arguments input filter).stdout =
      toString code ++ ": " ++ describeErrorCode code ++ "\n" := by
  unfold run
  rw [asked]
  exact ⟨rfl, rfl⟩

/-! ## Offsets behind the end -/

/-- An offset fits into a machine word. -/
theorem startOffset_le (items : List Item) :
    (settingsOf items).startOffset ≤ 0xFFFFFFFFFFFFFFFF := by
  show ((items.filterMap Item.offset?).getLast?).getD 0 ≤ 0xFFFFFFFFFFFFFFFF
  cases last : (items.filterMap Item.offset?).getLast? with
  | none => decide
  | some n =>
    obtain ⟨item, -, offset⟩ := List.mem_filterMap.mp (List.mem_of_getLast? last)
    cases item with
    | offset text n' digits bounded =>
      obtain rfl := Option.some.inj offset
      exact bounded
    | _ => cases offset

/-- No item leaves out the check that subjects are text. -/
theorem unchecked_settingsOf (items : List Item) :
    (settingsOf items).matchOptions.contains .noUtfCheck = false := by
  show (items.foldl (fun options item => options ||| item.matchOptions)
    MatchOptions.empty).contains .noUtfCheck = false
  induction items using List.reverseRecOn with
  | nil => decide
  | append_singleton items item ih =>
    have apart : item.matchOptions.bits &&& MatchOptions.noUtfCheck.bits = 0 := by
      cases item with
      | search switch => cases switch <;> decide
      | partly hard => cases hard <;> decide
      | _ => exact UInt32.zero_and
    rw [List.foldl_append]
    exact (MatchOptions.contains_or _ _ _ apart).trans ih

/-- A subject that is shorter than the offset is refused as it is. -/
theorem firstMatchBytes_of_short {options : MatchOptions}
    (checked : options.contains .noUtfCheck = false) (p : Pattern) {text : String} {start : Nat}
    (short : text.utf8ByteSize < start) : p.firstMatchBytes text.toUTF8 start options =
      .error (.ofCode .matching ErrorCode.badOffset) := by
  unfold Pattern.firstMatchBytes Pattern.bytesRequest
  rw [checked, if_neg Bool.false_ne_true]
  show p.exec ⟨text.toUTF8, start, options⟩ = _
  rw [Pattern.exec_unfold]
  exact if_pos short

/-- What a run leaves behind whose matches fail with an error behind some subjects. -/
structure FailsBehind (p : Pattern) (settings : Settings) (before : List String) (e : Error)
    (outcome : Outcome) : Prop where
  exit : outcome.exit = 2
  /-- What is printed for the subjects before stays. -/
  stdout : outcome.stdout =
    linesText (before.flatMap fun earlier => (Batch.ofSubject p settings earlier).lines)
  stderr : ∃ log, outcome.stderr = log ++ ("pcregex: " ++ e.display ++ "\n")

/-- A run ends with the first subject whose match fails. -/
theorem run_of_failing {arguments : List (List UInt8)} {settings : Settings} {source : String}
    {given : List String} {p : Pattern} {text : String} {e : Error}
    (asked : Invocation.ofArguments arguments = .ok ⟨settings, .search source given⟩)
    (compiled : Pattern.compile source settings.compileOptions = .ok p)
    (error : errorOf p settings text = some e) {input : List UInt8} {before : List String}
    {rest : List (Option String)}
    (subjects : subjectsOf given input = before.map some ++ some text :: rest)
    (fine : ∀ earlier ∈ before, (Batch.ofSubject p settings earlier).failure = none)
    (filter : Option String) : FailsBehind p settings before e (run arguments input filter) := by
  obtain ⟨shown, front, stderr⟩ := stderr_run_of_asked asked input filter
  obtain ⟨exit, stdout⟩ := run_of_asked asked input filter shown
  obtain ⟨exit', stdout', log, stderr'⟩ :=
    @search_of_compile settings source shown p compiled (subjectsOf given input)
  obtain ⟨lines, failure⟩ := Batch.ofSubjects_append_of_error error fine rest
  obtain ⟨log', told⟩ := linesText_failureLines_error shown e
  rw [subjects] at exit stdout stderr exit' stdout' stderr'
  constructor
  · rw [exit, exit', Batch.exit, failure]
  · rw [stdout, stdout', lines]
  · refine ⟨front ++ (log ++ log'), ?_⟩
    rw [stderr, stderr', failure, Option.map_some, Option.getD_some, told]
    simp only [String.append_assoc]

/-- **Numbers are kept as they are written.**  An offset is in the bounds of a 64-bit word or
refused, and an error number is within its bounds, and printed in its canonical form, or refused.
No offset is lost on the way to a match: the first subject that is shorter ends the run. -/
theorem numbers_kept (value : List UInt8) :
    (∀ arguments, Gives "offset" value arguments →
      (∀ n, OffsetValue value n → ∀ before items after items' more,
        Writes before items → Writes after items' → (∀ item ∈ items', item.offset? = none) →
          Invocation.ofArguments (before ++ (arguments ++ (after ++ argumentsOf [] more))) =
            (Invocation.ofArguments (before ++ (after ++ argumentsOf [] more))).map fun run =>
              { run with settings.startOffset := n }) ∧
      ((∀ n, ¬OffsetValue value n) → Refused arguments)) ∧
    (∀ arguments, Gives "describe" value arguments →
      (∀ code, CodeValue value code → ∀ before items after items' more,
        Writes before items → Writes after items' → (∀ item ∈ items', item.description? = none) →
          let whole := before ++ (arguments ++ (after ++ argumentsOf [] more))
          Invocation.ofArguments whole = .ok ⟨settingsOf (items ++ items'), .describe code⟩ ∧
          Decimal.Canonical (toString code).toList code ∧ ∀ input filter,
            (run whole input filter).exit = 0 ∧ (run whole input filter).stdout =
              toString code ++ ": " ++ describeErrorCode code ++ "\n") ∧
      ((∀ code, ¬CodeValue value code) → Refused arguments)) ∧
    ∀ arguments settings source given,
      Invocation.ofArguments arguments = .ok ⟨settings, .search source given⟩ →
        settings.startOffset ≤ 0xFFFFFFFFFFFFFFFF ∧
        ∀ p, Pattern.compile source settings.compileOptions = .ok p →
          ∀ text : String, text.utf8ByteSize < settings.startOffset →
            p.firstMatchBytes text.toUTF8 settings.startOffset settings.matchOptions =
              .error (.ofCode .matching ErrorCode.badOffset) ∧
            ∀ input (before : List String) rest,
              subjectsOf given input = before.map some ++ some text :: rest →
              (∀ earlier ∈ before, (Batch.ofSubject p settings earlier).failure = none) →
              ∀ filter, FailsBehind p settings before (.ofCode .matching ErrorCode.badOffset)
                (run arguments input filter) := by
  refine ⟨fun arguments gives => ⟨?_, refused_of_not_offsetValue gives⟩,
    fun arguments gives => ⟨?_, refused_of_not_codeValue gives⟩, ?_⟩
  · intro n written before items after items' more first last others
    exact ofArguments_offset gives written first last others more
  · intro code written before items after items' more first last others
    have asked := ofArguments_code gives written first last others more
    exact ⟨asked, Decimal.canonical_toString code, run_of_describe asked⟩
  · intro arguments settings source given asked
    obtain ⟨items, rfl⟩ := settings_of_ofArguments asked
    refine ⟨startOffset_le items, fun p compiled text short => ?_⟩
    have error := firstMatchBytes_of_short (unchecked_settingsOf items) p short
    refine ⟨error, fun input before rest subjects fine => ?_⟩
    exact run_of_failing asked compiled (errorOf_eq_some.mpr error) subjects fine

/-- The largest offset, and one more; an error number with a sign and zeros, and one more than the
largest. -/
theorem numbers_kept_largest :
    let subjects := [Utf8.encode "a", Utf8.encode "b"]
    let short := longOptionWith "offset" (Utf8.encode "+018446744073709551615") :: subjects
    (run short [] none).exit = 2 ∧ (run short [] none).stdout = "" ∧
      (run [longOption "describe", Utf8.encode "-0033"] [] none).stdout =
        "-33: bad offset value\n" ∧
      Refused [longOption "offset", Utf8.encode "18446744073709551616"] ∧
      Refused [longOptionWith "describe" (Utf8.encode "2147483648")] := by
  intro subjects short
  have nothing : ∀ {α : Type} {P : α → Prop}, ∀ a ∈ ([] : List α), P a :=
    fun _ mem => absurd mem List.not_mem_nil
  have largest : OffsetValue (Utf8.encode "+018446744073709551615") 0xFFFFFFFFFFFFFFFF :=
    offsetValue_encode.mpr rfl
  have signed : CodeValue (Utf8.encode "-0033") (-33) := codeValue_encode.mpr rfl
  have writes : Writes subjects [.positional "a" (by decide), .positional "b" (by decide)] :=
    (writes_item (.positional "a" _)).append (writes_item (.positional "b" _))
  obtain ⟨offset, -, failing⟩ := numbers_kept (Utf8.encode "+018446744073709551615")
  obtain ⟨-, describe, -⟩ := numbers_kept (Utf8.encode "-0033")
  obtain ⟨offsetAbove, -⟩ := numbers_kept (Utf8.encode "18446744073709551616")
  obtain ⟨-, codeAbove, -⟩ := numbers_kept (Utf8.encode "2147483648")
  have asked : Invocation.ofArguments short =
      .ok ⟨⟨.empty, .empty, 0xFFFFFFFFFFFFFFFF, 0⟩, .search "a" ["b"]⟩ := by
    have taken := (offset _ .attached).1 _ largest [] [] subjects _ none .nil writes
      (by simp [Item.offset?])
    exact taken.trans (by decide +kernel)
  obtain ⟨p, compiled⟩ := eq_ok_of_isOk (x := Pattern.compile "a" .empty) (by decide +kernel)
  have fails := ((failing short _ "a" ["b"] asked).2 p compiled "b" (by decide)).2 [] [] [] rfl
    nothing none
  obtain ⟨-, -, printed⟩ := (describe _ .apart).1 _ signed [] [] [] [] none .nil .nil nothing
  refine ⟨fails.exit, fails.stdout, ?_, ?_, ?_⟩
  · exact (printed [] none).2.trans (by decide)
  · refine (offsetAbove _ .apart).2 fun n value => ?_
    cases offsetValue_encode.mp value
  · refine (codeAbove _ .attached).2 fun n value => ?_
    cases codeValue_encode.mp value

end Regex.Command
