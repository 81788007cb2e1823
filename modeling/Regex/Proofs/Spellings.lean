import Mathlib.Data.List.Induction
import Regex.Proofs.Reading

/-!
# Spellings

Short options can be written together behind one hyphen, and a value behind an equals sign or as an
argument of its own.  Which spelling is chosen makes no difference wherever an argument is taken for
what it is, and not as the value of another one or as positional.

* `Position`, `positionAfter`: where an argument stands, told from those before it.
* `Stands`, `stands_positionAfter`: what has been read before an argument that stands there.
* `readAs_apartLetters`: short options, each behind a hyphen of its own.
* `spellings_agree`: the spellings of an option are read alike.
-/

namespace Regex.Command

/-- Where an argument stands. -/
inductive Position where
  /-- Where it is taken for what it is. -/
  | free
  /-- Behind an option that takes it as its value. -/
  | value
  /-- Behind `--`, where all is positional. -/
  | positional
  deriving DecidableEq

/-- Where the next argument stands. -/
def Position.next : Position → List UInt8 → Position
  | free, argument =>
    if argument = [hyphen, hyphen] then positional
    else if argument ∈ valuedNames.map longOption then value
    else free
  | value, _ => free
  | positional, _ => positional

/-- Where the argument behind some others stands. -/
def positionAfter (before : List (List UInt8)) : Position := before.foldl Position.next .free

/-! ## What stands before an argument -/

/-- Without an equals sign, all is name. -/
theorem splitValue_of_none {bytes : List UInt8} (none : (splitValue bytes).2 = none) :
    (splitValue bytes).1 = bytes := by
  rw [splitValue_fst]
  unfold splitValue at none
  dsimp only at none
  split at none
  · rename_i rest
    have long := List.drop_eq_nil_iff.mp rest
    exact (List.takeWhile_prefix _).eq_of_length_le long
  · cases none

/-- An argument does the same whatever follows it, unless it is `--` or lacks its value. -/
theorem exists_readAs {argument : List UInt8} (bare : argument ≠ [hyphen, hyphen])
    (alone : argument ∉ valuedNames.map longOption) : ∃ step, ReadAs [argument] step := by
  cases form argument with
  | positional plain => exact ⟨_, readAs_positional plain⟩
  | hyphens => exact absurd rfl bare
  | short bytes other => exact ⟨_, readAs_cluster other bytes⟩
  | @long long any =>
    cases valued : valuedOption? (Utf8.lossy (splitValue long).1) with
    | none => exact ⟨_, readAs_long any valued⟩
    | some act =>
      cases given : (splitValue long).2 with
      | some value => exact ⟨_, readAs_withValue any valued given⟩
      | none =>
        rw [splitValue_of_none given] at valued
        have mem := mem_valuedNames valued
        have written := encode_lossy_of_mem (List.mem_append_right _ mem)
        have lacks : hyphen :: hyphen :: long ∈ valuedNames.map longOption :=
          List.mem_map.mpr ⟨_, mem, by rw [longOption_eq, written]⟩
        exact absurd lacks alone

/-- What has been read before an argument that stands there. -/
def Stands (before : List (List UInt8)) : Position → Prop
  | .free => ∃ step, ReadAs before step
  | .value => ∃ earlier step, ReadAs earlier step ∧
      ∃ name ∈ valuedNames, before = earlier ++ [longOption name]
  | .positional => ∃ earlier step, ReadAs earlier step ∧
      ∃ more, before = earlier ++ [hyphen, hyphen] :: more

theorem Stands.next {before : List (List UInt8)} {p : Position} (stands : Stands before p)
    (argument : List UInt8) : Stands (before ++ [argument]) (p.next argument) := by
  cases p with
  | free =>
    obtain ⟨step, read⟩ := stands
    rw [Position.next]
    split_ifs with hyphens valued
    · exact ⟨before, step, read, [], by rw [hyphens]⟩
    · obtain ⟨name, mem, rfl⟩ := List.mem_map.mp valued
      exact ⟨before, step, read, name, mem, rfl⟩
    · obtain ⟨step', read'⟩ := exists_readAs hyphens valued
      exact ⟨_, read.append read'⟩
  | value =>
    obtain ⟨earlier, step, read, name, mem, rfl⟩ := stands
    obtain ⟨act, valued⟩ := exists_valuedOption mem
    have both := read.append (readAs_apart valued argument)
    rw [← List.singleton_append, ← List.append_assoc] at both
    exact ⟨_, both⟩
  | positional =>
    obtain ⟨earlier, step, read, more, rfl⟩ := stands
    exact ⟨earlier, step, read, more ++ [argument], by rw [List.append_assoc, List.cons_append]⟩

/-- **What has been read before an argument.** -/
theorem stands_positionAfter (before : List (List UInt8)) :
    Stands before (positionAfter before) := by
  induction before using List.reverseRecOn with
  | nil => exact ⟨_, readAs_nil⟩
  | append_singleton before argument ih =>
    unfold positionAfter at ih ⊢
    rw [List.foldl_append]
    exact ih.next argument

/-! ## Spellings -/

/-- The letters of short options. -/
def shortLetters : List Char := ['i', 'm', 's', 'x', 'u', 'U', 'A', 'v', 'h']

theorem plain_of_shortLetters {letters : List Char}
    (known : ∀ letter ∈ letters, letter ∈ shortLetters) :
    letters.head? ≠ some '-' ∧ '=' ∉ letters := by
  constructor
  · intro head
    exact absurd (known _ (List.mem_of_head? head)) (by decide)
  · intro mem
    exact absurd (known _ mem) (by decide)

theorem readAs_shortLetters {letters : List Char} (any : letters ≠ [])
    (known : ∀ letter ∈ letters, letter ∈ shortLetters) :
    ReadAs [cluster letters] (readLetters · letters) :=
  readAs_letters any (plain_of_shortLetters known).1 (plain_of_shortLetters known).2

/-- Short options, each behind a hyphen of its own. -/
theorem readAs_apartLetters {letters : List Char}
    (known : ∀ letter ∈ letters, letter ∈ shortLetters) :
    ReadAs (letters.map fun letter => cluster [letter]) (readLetters · letters) := by
  induction letters with
  | nil => exact readAs_nil
  | cons letter rest ih =>
    have first : ReadAs [cluster [letter]] (readLetters · [letter]) := by
      refine readAs_shortLetters (List.cons_ne_nil _ _) fun l mem => ?_
      rw [List.mem_singleton.mp mem]
      exact known letter List.mem_cons_self
    have both := first.append (ih fun l mem => known l (List.mem_cons_of_mem _ mem))
    have step : (readLetters · (letter :: rest)) =
        Step.followedBy (readLetters · [letter]) (readLetters · rest) := by
      funext d
      exact readLetters_append d [letter] rest
    rw [step]
    exact both

/-- **The spellings of an option are read alike**, where it is taken for what it is. -/
theorem spellings_agree {before : List (List UInt8)} (free : positionAfter before = .free)
    (after : List (List UInt8)) :
    (∀ letters, letters ≠ [] → (∀ letter ∈ letters, letter ∈ shortLetters) →
      Invocation.ofArguments (before ++ cluster letters :: after) =
        Invocation.ofArguments (before ++ (letters.map fun letter => cluster [letter]) ++ after)) ∧
    ∀ name ∈ valuedNames, ∀ value : List UInt8,
      Invocation.ofArguments (before ++ longOptionWith name value :: after) =
        Invocation.ofArguments (before ++ longOption name :: value :: after) := by
  have stands := stands_positionAfter before
  rw [free] at stands
  obtain ⟨step, read⟩ := stands
  have exchange : ∀ {one other : List (List UInt8)} {s : Step}, ReadAs one s → ReadAs other s →
      Invocation.ofArguments (before ++ one ++ after) =
        Invocation.ofArguments (before ++ other ++ after) := by
    intro one other s readOne readOther
    exact (read.append readOne).exchange (read.append readOther) _ _
  constructor
  · intro letters any known
    have same := exchange (readAs_shortLetters any known) (readAs_apartLetters known)
    rwa [List.append_assoc, List.singleton_append] at same
  · intro name mem value
    obtain ⟨act, valued⟩ := exists_valuedOption mem
    have same := exchange (readAs_attached valued value) (readAs_apart valued value)
    rwa [List.append_assoc, List.append_assoc] at same

/-- Behind a value that looks like a short option: three of these, and a value that is refused. -/
theorem spellings_agree_refused :
    let before := ["--describe", "-1"].map Utf8.encode
    let after := ["--", "-v"].map Utf8.encode
    let run : Invocation := ⟨⟨.extended ||| .ungreedy, .empty, 0, 1⟩, .describe (-1)⟩
    let value := Utf8.encode "a=b"
    Invocation.ofArguments (before ++ cluster ['x', 'v', 'U'] :: after) = .ok run ∧
      Invocation.ofArguments (before ++ ["-x", "-v", "-U"].map Utf8.encode ++ after) = .ok run ∧
      Invocation.ofArguments (before ++ longOptionWith "newline" value :: after) =
        .error (.unknownNewline "a=b") ∧
      Invocation.ofArguments (before ++ longOption "newline" :: value :: after) =
        .error (.unknownNewline "a=b") := by
  intro before after run value
  obtain ⟨short, long⟩ := @spellings_agree before (by decide +kernel) after
  have together :
      Invocation.ofArguments (before ++ cluster ['x', 'v', 'U'] :: after) = .ok run := by
    decide +kernel
  have refused : Invocation.ofArguments (before ++ longOptionWith "newline" value :: after) =
      .error (.unknownNewline "a=b") := by
    decide +kernel
  refine ⟨together, ?_, refused, ?_⟩
  · have known : ∀ letter ∈ ['x', 'v', 'U'], letter ∈ shortLetters := by simp [shortLetters]
    exact (short ['x', 'v', 'U'] (List.cons_ne_nil _ _) known).symm.trans together
  · exact (long "newline" (by decide) value).symm.trans refused

end Regex.Command
