import Mathlib.Data.List.Induction
import Mathlib.Data.List.Perm.Basic
import Regex.Convention
import Regex.Proofs.Options
import Regex.Proofs.Reading
import Regex.Proofs.Text.Decimal

/-!
# Arguments put together

Arguments as they should be: options, each with its value if it takes one, and positional arguments,
in any order, and perhaps `--` with arguments behind it that are positional whatever they look like.

* `Item`: an argument that is as it should be.
* `wanted`: what items ask for, told by what is among them.
* `readAs_item`, `readAs_items`: one item after another is read.
* `gathered_perm`, `gathered_again`: which items may change places or be given again.
* `ofArguments_items`: arguments ask for what they name.
-/

namespace Regex.Command

/-- Behind two hyphens alone everything is positional. -/
theorem readArguments_hyphens (d : Draft) (more : List String) :
    readArguments d (("--" :: more).map Utf8.encode) =
      { d with positional := d.positional ++ more }.finish := by
  have alone : Utf8.encode "--" = [0x2D, 0x2D] := by decide +kernel
  rw [List.map_cons, alone, readArguments, List.isEmpty_nil, if_pos rfl]
  induction more generalizing d with
  | nil => rw [List.map_nil, readPositionals, List.append_nil]
  | cons text more ih =>
    rw [List.map_cons, readPositionals, textOf_encode]
    refine (ih (d.withPositional text)).trans ?_
    rw [Draft.withPositional, List.append_assoc, List.singleton_append]

/-! ## Items -/

/-- An option for the pattern, written as a letter. -/
inductive PatternSwitch where
  | caseless
  | multiline
  | dotall
  | extended
  | utf
  | ungreedy
  | anchored
  deriving DecidableEq

def PatternSwitch.letter : PatternSwitch → Char
  | caseless => 'i'
  | multiline => 'm'
  | dotall => 's'
  | extended => 'x'
  | utf => 'u'
  | ungreedy => 'U'
  | anchored => 'A'

def PatternSwitch.options : PatternSwitch → CompileOptions
  | caseless => .caseless
  | multiline => .multiline
  | dotall => .dotall
  | extended => .extended
  | utf => .utf
  | ungreedy => .ungreedy
  | anchored => .anchored

/-- An option for the matches, written as a word. -/
inductive MatchSwitch where
  | notbol
  | noteol
  | notempty
  deriving DecidableEq

def MatchSwitch.name : MatchSwitch → String
  | notbol => "notbol"
  | noteol => "noteol"
  | notempty => "notempty"

def MatchSwitch.options : MatchSwitch → MatchOptions
  | notbol => .notbol
  | noteol => .noteol
  | notempty => .notempty

/-- The word for a newline convention. -/
def newlineName : Newline → String
  | .cr => "cr"
  | .lf => "lf"
  | .crlf => "crlf"
  | .any => "any"
  | .anyCrlf => "anycrlf"
  | .nul => "nul"

/-- The option for a newline convention. -/
def newlineOptions : Newline → CompileOptions
  | .cr => .newlineCr
  | .lf => .newlineLf
  | .crlf => .newlineCrlf
  | .any => .newlineAny
  | .anyCrlf => .newlineAnycrlf
  | .nul => .newlineNul

/-- An argument as it should be, with its value if it is an option that takes one. -/
inductive Item where
  | pattern (switch : PatternSwitch)
  | search (switch : MatchSwitch)
  | verbose
  | newline (convention : Newline)
  | partly (hard : Bool)
  | offset (value : String) (n : Nat) (written : Decimal.Natural value.toList n)
      (bounded : n ≤ 0xFFFFFFFFFFFFFFFF)
  | describe (value : String) (code : Int) (written : Decimal.Integer value.toList code)
      (bounded : -0x80000000 ≤ code ∧ code ≤ 0x7FFFFFFF)
  | positional (text : String) (plain : text = "-" ∨ text.toList.head? ≠ some '-')
  deriving DecidableEq

namespace Item

/-- An item as it is written. -/
def arguments : Item → List String
  | pattern switch => [String.ofList ['-', switch.letter]]
  | search switch => ["--" ++ switch.name]
  | verbose => ["-v"]
  | newline convention => ["--newline", newlineName convention]
  | partly hard => ["--partial", if hard then "hard" else "soft"]
  | offset value .. => ["--offset", value]
  | describe value .. => ["--describe", value]
  | positional text _ => [text]

/-- The letter of an item that is written as one. -/
def letter? : Item → Option Char
  | pattern switch => some switch.letter
  | verbose => some 'v'
  | _ => none

/-- The name and the value of an item that has one. -/
def valued? : Item → Option (String × String)
  | newline convention => some ("newline", newlineName convention)
  | partly hard => some ("partial", if hard then "hard" else "soft")
  | offset value .. => some ("offset", value)
  | describe value .. => some ("describe", value)
  | _ => none

/-- The options for the pattern that an item brings. -/
def compileOptions : Item → CompileOptions
  | pattern switch => switch.options
  | newline convention => newlineOptions convention
  | _ => .empty

/-- The options for the matches that an item brings. -/
def matchOptions : Item → MatchOptions
  | search switch => switch.options
  | partly hard => if hard then .partialHard else .partialSoft
  | _ => .empty

def isVerbose : Item → Bool
  | verbose => true
  | _ => false

def offset? : Item → Option Nat
  | offset _ n .. => some n
  | _ => none

def description? : Item → Option Int
  | describe _ code .. => some code
  | _ => none

def positional? : Item → Option String
  | positional text _ => some text
  | _ => none

/-- What an item does to what has been gathered before it. -/
def gather : Item → Draft → Draft
  | pattern switch, d => d.withCompile switch.options
  | search switch, d => d.withMatch switch.options
  | verbose, d => d.withVerbose
  | newline convention, d => d.withCompile (newlineOptions convention)
  | partly hard, d => d.withMatch (if hard then .partialHard else .partialSoft)
  | offset _ n .., d => { d with settings.startOffset := n }
  | describe _ code .., d => { d with describe := some code }
  | positional text _, d => d.withPositional text

end Item

/-- The bytes of items, and behind them of `--` and what is positional there. -/
def argumentsOf (items : List Item) (more : Option (List String)) : List (List UInt8) :=
  (items.flatMap Item.arguments ++ (more.map ("--" :: ·)).getD []).map Utf8.encode

/-- The settings that items ask for. -/
def settingsOf (items : List Item) : Settings where
  compileOptions := items.foldl (fun options item => options ||| item.compileOptions) .empty
  matchOptions := items.foldl (fun options item => options ||| item.matchOptions) .empty
  startOffset := (items.filterMap Item.offset?).getLast?.getD 0
  verbose := min 255 (items.countP Item.isVerbose)

/-- The run that items ask for with more positional arguments behind them: a description comes
first, and otherwise there has to be a pattern. -/
def wanted (items : List Item) (more : List String) : Except UsageError Invocation :=
  match (items.filterMap Item.description?).getLast?, items.filterMap Item.positional? ++ more with
  | some code, _ => .ok ⟨settingsOf items, .describe code⟩
  | none, pattern :: subjects => .ok ⟨settingsOf items, .search pattern subjects⟩
  | none, [] => .error .missingPattern

/-- Whatever the item, each field takes its own share of it. -/
theorem Item.gather_eq (item : Item) (d : Draft) : item.gather d =
    { settings :=
        { compileOptions := d.settings.compileOptions ||| item.compileOptions
          matchOptions := d.settings.matchOptions ||| item.matchOptions
          startOffset := item.offset?.getD d.settings.startOffset
          verbose :=
            if item.isVerbose then min 255 (d.settings.verbose + 1) else d.settings.verbose }
      describe := item.description?.or d.describe
      positional := d.positional ++ item.positional?.toList } := by
  cases item <;>
    simp [gather, compileOptions, matchOptions, offset?, isVerbose, description?, positional?,
      Draft.withCompile, Draft.withMatch, Draft.withVerbose, Draft.withPositional]

theorem Item.shortFlag? (item : Item) {letter : Char} (written : item.letter? = some letter) :
    shortFlag? letter = some item.gather := by
  cases item with
  | pattern switch =>
    obtain rfl := Option.some.inj written
    cases switch <;> rfl
  | verbose =>
    obtain rfl := Option.some.inj written
    rfl
  | _ => cases written

/-- The value of an item is accepted. -/
theorem Item.valuedOption? (item : Item) {name value : String}
    (written : item.valued? = some (name, value)) :
    ∃ act, valuedOption? name = some act ∧
      ∀ d, act d (Utf8.encode value) = .ok (item.gather d) := by
  cases item with
  | newline convention =>
    obtain ⟨rfl, rfl⟩ := Prod.mk.inj (Option.some.inj written)
    refine ⟨_, rfl, fun d => ?_⟩
    rw [textOf_encode]
    cases convention <;> rfl
  | partly hard =>
    obtain ⟨rfl, rfl⟩ := Prod.mk.inj (Option.some.inj written)
    refine ⟨_, rfl, fun d => ?_⟩
    rw [textOf_encode]
    cases hard <;> rfl
  | offset value n digits bounded =>
    obtain ⟨rfl, rfl⟩ := Prod.mk.inj (Option.some.inj written)
    have accepted : Decimal.readNatural 0xFFFFFFFFFFFFFFFF value.toList = .ok n :=
      Decimal.readNatural_eq_ok.mpr ⟨digits, bounded⟩
    refine ⟨_, rfl, fun d => ?_⟩
    rw [numberOf_encode accepted]
    rfl
  | describe value code digits bounded =>
    obtain ⟨rfl, rfl⟩ := Prod.mk.inj (Option.some.inj written)
    have accepted : Decimal.readInteger 0x7FFFFFFF value.toList = .ok code :=
      Decimal.readInteger_eq_ok.mpr ⟨digits, by omega⟩
    refine ⟨_, rfl, fun d => ?_⟩
    rw [numberOf_encode accepted]
    rfl
  | _ => cases written

/-- A value is read alike behind an equals sign and as the next argument. -/
theorem readAs_valued (item : Item) {name value : String}
    (written : item.valued? = some (name, value)) :
    ReadAs [longOptionWith name (Utf8.encode value)] (.gather item.gather) ∧
      ReadAs [longOption name, Utf8.encode value] (.gather item.gather) := by
  obtain ⟨act, valued, accepted⟩ := item.valuedOption? written
  have step : Step.valued act (Utf8.encode value) = .gather item.gather := by
    funext d
    rw [Step.valued, accepted]
    rfl
  rw [← step]
  exact ⟨readAs_attached valued _, readAs_apart valued _⟩

/-- An item is read as a whole, even if its value looks like an option. -/
theorem readAs_item (item : Item) :
    ReadAs (item.arguments.map Utf8.encode) (.gather item.gather) := by
  cases item with
  | pattern switch => exact readAs_switch ((Item.pattern switch).shortFlag? rfl)
  | search switch => exact readAs_flag (by cases switch <;> rfl)
  | verbose => exact readAs_switch (Item.verbose.shortFlag? rfl)
  | newline convention => exact (readAs_valued (.newline convention) rfl).2
  | partly hard => exact (readAs_valued (.partly hard) rfl).2
  | offset value n digits bounded => exact (readAs_valued (.offset value n digits bounded) rfl).2
  | describe value code digits bounded =>
      exact (readAs_valued (.describe value code digits bounded) rfl).2
  | positional text plain => exact readAs_text plain

/-- What items do one after another. -/
def gatherAll (items : List Item) (d : Draft) : Draft :=
  items.foldl (fun d item => item.gather d) d

theorem gatherAll_append (items more : List Item) (d : Draft) :
    gatherAll (items ++ more) d = gatherAll more (gatherAll items d) :=
  List.foldl_append

/-- Items are read one after another. -/
theorem readAs_items (items : List Item) :
    ReadAs ((items.flatMap Item.arguments).map Utf8.encode) (.gather (gatherAll items)) := by
  induction items with
  | nil => exact readAs_nil
  | cons item items ih =>
    rw [List.flatMap_cons, List.map_append]
    exact (readAs_item item).append ih

/-- What items add up to, told without going through them in turn. -/
def gathered (items : List Item) : Draft where
  settings := settingsOf items
  describe := (items.filterMap Item.description?).getLast?
  positional := items.filterMap Item.positional?

theorem gathered_concat (items : List Item) (item : Item) :
    gathered (items ++ [item]) = item.gather (gathered items) := by
  have list : ∀ {α : Type} (f : Item → Option α),
      (items ++ [item]).filterMap f = items.filterMap f ++ (f item).toList := by
    intro α f
    cases value : f item <;> simp [value]
  have last : ∀ {α : Type} (f : Item → Option α), ((items ++ [item]).filterMap f).getLast? =
      (f item).or (items.filterMap f).getLast? := by
    intro α f
    rw [list]
    cases f item <;> simp
  have offset : ((items ++ [item]).filterMap Item.offset?).getLast?.getD 0 =
      item.offset?.getD ((items.filterMap Item.offset?).getLast?.getD 0) := by
    rw [last]
    cases item.offset? <;> rfl
  have verbose : min 255 ((items ++ [item]).countP Item.isVerbose) =
      if item.isVerbose then min 255 (min 255 (items.countP Item.isVerbose) + 1)
      else min 255 (items.countP Item.isVerbose) := by
    rw [List.countP_append, List.countP_singleton]
    split <;> omega
  rw [Item.gather_eq]
  unfold gathered settingsOf
  rw [offset, verbose, last, list, List.foldl_concat, List.foldl_concat]

/-- Gathering items one by one comes to what they add up to. -/
theorem gatherAll_empty (items : List Item) : gatherAll items .empty = gathered items := by
  induction items using List.reverseRecOn with
  | nil => rfl
  | append_singleton items item ih =>
    rw [gatherAll_append, ih, gathered_concat]
    rfl

theorem gatherAll_gathered (items more : List Item) :
    gatherAll more (gathered items) = gathered (items ++ more) := by
  rw [← gatherAll_empty, ← gatherAll_empty, gatherAll_append]

/-- The order of items matters among positional arguments, offsets and descriptions only. -/
theorem gathered_perm {items items' : List Item} (perm : items.Perm items')
    (positional : items.filterMap Item.positional? = items'.filterMap Item.positional?)
    (offset : items.filterMap Item.offset? = items'.filterMap Item.offset?)
    (description : items.filterMap Item.description? = items'.filterMap Item.description?) :
    gathered items = gathered items' := by
  unfold gathered settingsOf
  rw [perm.foldl_eq' (fun a _ b _ options => CompileOptions.or_right_comm options _ _),
    perm.foldl_eq' (fun a _ b _ options => MatchOptions.or_right_comm options _ _),
    perm.countP_eq, positional, offset, description]

/-- What an item does twice is as good as done once, if the item is neither counted nor listed. -/
theorem Item.gather_gather {item : Item} (listed : item.positional? = none)
    (counted : item.isVerbose = false) (d : Draft) :
    item.gather (item.gather d) = item.gather d := by
  rw [Item.gather_eq, Item.gather_eq, listed, counted]
  cases item.offset? <;> cases item.description? <;> simp

theorem gathered_twice {item : Item} (listed : item.positional? = none)
    (counted : item.isVerbose = false) (before after : List Item) :
    gathered (before ++ item :: item :: after) = gathered (before ++ item :: after) := by
  rw [← gatherAll_gathered, ← gatherAll_gathered]
  show gatherAll after (item.gather (item.gather (gathered before))) = _
  rw [Item.gather_gather listed counted]
  rfl

/-- An item that brings options and nothing else. -/
structure Item.OptionsOnly (item : Item) : Prop where
  positional : item.positional? = none
  verbose : item.isVerbose = false
  offset : item.offset? = none
  description : item.description? = none

/-- Options that are there already may be given again at any place. -/
theorem gathered_again {item : Item} (only : item.OptionsOnly) {before after : List Item}
    (mem : item ∈ before ++ after) :
    gathered (before ++ item :: after) = gathered (before ++ after) := by
  obtain ⟨left, right, split⟩ := List.append_of_mem mem
  have perm : (before ++ item :: after).Perm (left ++ item :: item :: right) := by
    refine List.perm_middle.trans ?_
    rw [split]
    exact List.perm_middle.symm
  have same : ∀ {α : Type} (f : Item → Option α), f item = none →
      (before ++ item :: after).filterMap f = (left ++ item :: item :: right).filterMap f := by
    intro α f nothing
    have parts := congrArg (List.filterMap f) split
    rw [List.filterMap_append, List.filterMap_append, List.filterMap_cons_none nothing] at parts
    rw [List.filterMap_append, List.filterMap_append, List.filterMap_cons_none nothing,
      List.filterMap_cons_none nothing, List.filterMap_cons_none nothing, parts]
  rw [gathered_perm perm (same _ only.positional) (same _ only.offset) (same _ only.description),
    gathered_twice only.positional only.verbose, split]

/-- An item works as the last one does if none behind it is of its kind. -/
theorem gathered_behind (before : List Item) (item : Item) {after : List Item}
    (positional : item.positional? = none ∨ after.filterMap Item.positional? = [])
    (offset : item.offset? = none ∨ after.filterMap Item.offset? = [])
    (description : item.description? = none ∨ after.filterMap Item.description? = []) :
    gathered (before ++ item :: after) = item.gather (gathered (before ++ after)) := by
  have perm : (before ++ item :: after).Perm (before ++ after ++ [item]) :=
    List.perm_middle.trans (List.perm_append_singleton item (before ++ after)).symm
  have same : ∀ {α : Type} (f : Item → Option α), f item = none ∨ after.filterMap f = [] →
      (before ++ item :: after).filterMap f = (before ++ after ++ [item]).filterMap f := by
    rintro α f (nothing | none)
    · simp [nothing]
    · cases f item <;> simp [List.filterMap_cons, none]
  rw [← gathered_concat, gathered_perm perm (same _ positional) (same _ offset)
    (same _ description)]

/-- Arguments end, or the rest of them is positional. -/
theorem readArguments_more (d : Draft) (more : Option (List String)) :
    readArguments d (argumentsOf [] more) =
      { d with positional := d.positional ++ more.getD [] }.finish := by
  cases more with
  | none =>
    show readArguments d [] = _
    rw [readArguments, Option.getD_none, List.append_nil]
  | some more => exact readArguments_hyphens d more

theorem argumentsOf_eq (items : List Item) (more : Option (List String)) :
    argumentsOf items more =
      (items.flatMap Item.arguments).map Utf8.encode ++ argumentsOf [] more := by
  unfold argumentsOf
  rw [List.map_append, List.flatMap_nil, List.nil_append]

/-- The arguments of a run say what the items say, with more positional arguments. -/
theorem ofArguments_argumentsOf (items : List Item) (more : Option (List String)) :
    Invocation.ofArguments (argumentsOf items more) =
      { gathered items with
        positional := (gathered items).positional ++ more.getD [] }.finish := by
  unfold Invocation.ofArguments
  rw [argumentsOf_eq, readAs_items]
  show readArguments (gatherAll items .empty) _ = _
  rw [gatherAll_empty, readArguments_more]

/-- **Arguments as they should be ask for what they name.**  Only positional arguments, offsets and
descriptions have an order that matters, each kind for itself; and only those that are counted or
listed are not as good given once as twice. -/
theorem ofArguments_items :
    (∀ (items : List Item) (more : Option (List String)),
      Invocation.ofArguments (argumentsOf items more) = wanted items (more.getD [])) ∧
    (∀ (items items' : List Item) (more : Option (List String)), items.Perm items' →
      items.filterMap Item.positional? = items'.filterMap Item.positional? →
      items.filterMap Item.offset? = items'.filterMap Item.offset? →
      items.filterMap Item.description? = items'.filterMap Item.description? →
      Invocation.ofArguments (argumentsOf items more) =
        Invocation.ofArguments (argumentsOf items' more)) ∧
    (∀ (before : List Item) (item : Item) (after : List Item) (more : Option (List String)),
      item.OptionsOnly → item ∈ before ++ after →
      Invocation.ofArguments (argumentsOf (before ++ item :: after) more) =
        Invocation.ofArguments (argumentsOf (before ++ after) more)) ∧
    (∀ (before : List Item) (item : Item) (after : List Item) (more : Option (List String)),
      item.positional? = none → item.isVerbose = false →
      Invocation.ofArguments (argumentsOf (before ++ item :: item :: after) more) =
        Invocation.ofArguments (argumentsOf (before ++ item :: after) more)) := by
  refine ⟨?_, ?_, ?_, ?_⟩
  · intro items more
    exact ofArguments_argumentsOf items more
  · intro items items' more perm positional offset description
    rw [ofArguments_argumentsOf, ofArguments_argumentsOf,
      gathered_perm perm positional offset description]
  · intro before item after more only mem
    rw [ofArguments_argumentsOf, ofArguments_argumentsOf, gathered_again only mem]
  · intro before item after more listed counted
    rw [ofArguments_argumentsOf, ofArguments_argumentsOf,
      gathered_twice listed counted before after]

/-- A hyphen as the pattern, a value with a sign, and behind `--` what looks like options. -/
theorem ofArguments_items_shuffled :
    let seven : Item := .offset "+007" 7 (by decide) (by decide)
    let hyphen : Item := .positional "-" (Or.inl rfl)
    let subject : Item := .positional "a" (Or.inr (by decide))
    let crlf : Item := .newline .crlf
    let items := [.verbose, seven, hyphen, crlf, subject]
    let shuffled := [hyphen, crlf, .verbose, subject, seven]
    let more := some ["-h", "--"]
    let run : Invocation := ⟨⟨.newlineCrlf, .empty, 7, 1⟩, .search "-" ["a", "-h", "--"]⟩
    Invocation.ofArguments (argumentsOf items more) = .ok run ∧
      Invocation.ofArguments (argumentsOf shuffled more) = .ok run ∧
      Invocation.ofArguments (argumentsOf (crlf :: items) more) = .ok run ∧
      Invocation.ofArguments (argumentsOf (.verbose :: seven :: items.tail) more) = .ok run := by
  intro seven hyphen subject crlf items shuffled more run
  obtain ⟨asked, reordered, again, twice⟩ := ofArguments_items
  have first : Invocation.ofArguments (argumentsOf items more) = .ok run :=
    (asked items more).trans (by decide)
  have perm : shuffled.Perm items := by decide
  refine ⟨first, ?_, ?_, ?_⟩
  · exact (reordered shuffled items more perm rfl rfl rfl).trans first
  · exact (again [] crlf items more ⟨rfl, rfl, rfl, rfl⟩ (by simp [items])).trans first
  · exact (twice [.verbose] seven _ more rfl rfl).trans first

end Regex.Command
