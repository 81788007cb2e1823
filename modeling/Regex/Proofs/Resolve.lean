import Mathlib.Tactic.Common
import Regex.Proofs.Compiled
import Regex.Proofs.Options

/-!
# Options resolved

The high bits of a word of options choose conventions or stand for other bits, and only the low ones
go to the engine as they are.  Words are put together bit by bit, so what they come to can be put
together as well, as long as there is no conflict.

* `CompileOptions.IsFlag`: an option that is one bit.
* `CompileOptions.pickOne_or_words`: what is found of the flags of one kind in two words together.
* `CompileOptions.Resolves`: what the engine is given for some options.
* `CompileOptions.resolve_or`: what it is given for two words in one.
* `CompileOptions.spelledOut`: the flags that `javascriptCompat` stands for, in place of it.
* `CompileOptions.resolve_laws`: all this together.
-/

namespace Regex

namespace CompileOptions

/-! ## Flags -/

/-- An option that is one bit. -/
def IsFlag (flag : CompileOptions) : Prop :=
  ∃ i : Fin 64, flag.bits.toBitVec = BitVec.twoPow 64 i

instance (flag : CompileOptions) : Decidable flag.IsFlag :=
  inferInstanceAs (Decidable (∃ i : Fin 64, flag.bits.toBitVec = BitVec.twoPow 64 i))

variable {a b o flag : CompileOptions}

/-- A flag is set if its bit is. -/
theorem contains_eq_getLsbD {i : Fin 64} (bit : flag.bits.toBitVec = BitVec.twoPow 64 i)
    (o : CompileOptions) : o.contains flag = o.bits.toBitVec.getLsbD i := by
  have apart : (0#64 : BitVec 64) ≠ BitVec.twoPow 64 i := by
    intro eq
    have bits := congrArg (fun x => x.getLsbD i) eq
    simp at bits
  unfold contains
  rw [Bool.eq_iff_iff, beq_iff_eq, ← UInt64.toBitVec_inj, UInt64.toBitVec_and, bit,
    BitVec.and_twoPow]
  cases o.bits.toBitVec.getLsbD i with
  | true => simp
  | false => simpa using apart

/-- A flag is set in two words together if it is set in one of them. -/
theorem contains_or_of_isFlag (single : flag.IsFlag) :
    (a ||| b).contains flag = (a.contains flag || b.contains flag) := by
  obtain ⟨i, bit⟩ := single
  rw [contains_eq_getLsbD bit, contains_eq_getLsbD bit, contains_eq_getLsbD bit]
  show (a.bits ||| b.bits).toBitVec.getLsbD i = _
  rw [UInt64.toBitVec_or, BitVec.getLsbD_or]

theorem isFlag_newlineFlags : ∀ f ∈ newlineFlags, f.1.IsFlag := by decide

theorem isFlag_bsrFlags : ∀ f ∈ bsrFlags, f.1.IsFlag := by decide

theorem isFlag_javascriptCompat : javascriptCompat.IsFlag := by decide

/-! ## Flags of one kind -/

section Kind

variable {α : Type} {flags : List (CompileOptions × α)} {code : Int}

theorem found_of_pickOne {found : Option α} (eq : o.pickOne flags code = .ok found) :
    o.AtMostOne flags ∧
      ∀ v, found = some v ↔ ∃ flag, (flag, v) ∈ flags ∧ o.contains flag = true := by
  have single : o.AtMostOne flags := by
    by_contra conflict
    rw [pickOne_of_conflict conflict] at eq
    cases eq
  obtain ⟨found', eq', isFound⟩ := pickOne_of_atMostOne single code
  obtain rfl : found = found' := Except.ok.inj (eq.symm.trans eq')
  exact ⟨single, isFound⟩

/-- Fewer flags are no conflict if more of them are none. -/
theorem AtMostOne.of_imp (whole : b.AtMostOne flags)
    (fewer : ∀ f ∈ flags, a.contains f.1 = true → b.contains f.1 = true) : a.AtMostOne flags := by
  refine List.Pairwise.imp_of_mem ?_ whole
  rintro f g memF memG apart ⟨onF, onG⟩
  exact apart ⟨fewer f memF onF, fewer g memG onG⟩

/-- What is found in two words together is what is found in one of them; if both have it, it is the
same. -/
theorem pickOne_or_words (single : ∀ f ∈ flags, f.1.IsFlag) {found : Option α}
    (eq : (a ||| b).pickOne flags code = .ok found) :
    ∃ left right, a.pickOne flags code = .ok left ∧ b.pickOne flags code = .ok right ∧
      found = left.or right ∧ found = right.or left := by
  have either : ∀ f ∈ flags, (a ||| b).contains f.1 = true ↔
      a.contains f.1 = true ∨ b.contains f.1 = true := by
    intro f mem
    rw [contains_or_of_isFlag (single f mem), Bool.or_eq_true]
  obtain ⟨whole, isFound⟩ := found_of_pickOne eq
  obtain ⟨left, eqLeft, isLeft⟩ := pickOne_of_atMostOne
    (whole.of_imp fun f mem on => (either f mem).mpr (Or.inl on)) code
  obtain ⟨right, eqRight, isRight⟩ := pickOne_of_atMostOne
    (whole.of_imp fun f mem on => (either f mem).mpr (Or.inr on)) code
  have split : ∀ v, found = some v ↔ left = some v ∨ right = some v := by
    intro v
    rw [isFound, isLeft, isRight, ← exists_or]
    refine exists_congr fun flag => ?_
    rw [← and_or_left]
    exact and_congr_right fun mem => either (flag, v) mem
  refine ⟨left, right, eqLeft, eqRight, ?_⟩
  cases left with
  | none =>
    have same : found = right := by
      ext v
      rw [split]
      simp
    exact ⟨same, same.trans (Option.or_none).symm⟩
  | some v =>
    have eq : found = some v := (split v).mpr (Or.inl rfl)
    refine ⟨eq, ?_⟩
    cases right with
    | none => exact eq
    | some w => exact (split w).mpr (Or.inr rfl)

end Kind

theorem newline_of_conflict (conflict : ¬o.AtMostOne newlineFlags) :
    o.resolve = .error (.ofCode .options ErrorCode.conflictingNewline) := by
  rw [resolve_eq, newline, pickOne_of_conflict conflict]
  rfl

/-- A conflict of newlines is found first. -/
theorem bsr_of_conflict (single : o.AtMostOne newlineFlags) (conflict : ¬o.AtMostOne bsrFlags) :
    o.resolve = .error (.ofCode .options ErrorCode.conflictingBsr) := by
  obtain ⟨found, eq, -⟩ := pickOne_of_atMostOne single ErrorCode.conflictingNewline
  rw [resolve_eq, newline, eq, bsr, pickOne_of_conflict conflict]
  rfl

/-! ## What the engine is given -/

/-- What the engine is given for some options. -/
structure Resolves (o : CompileOptions) (resolved : EngineOptions) : Prop where
  /-- Its own bits are the low ones; only one of the high ones adds to them. -/
  native : resolved.native =
    o.bits.toUInt32 ||| if o.contains javascriptCompat then javascriptFlags.bits.toUInt32 else 0
  newline : ∀ n, resolved.newline = some n ↔
    ∃ flag, (flag, n) ∈ newlineFlags ∧ o.contains flag = true
  bsr : ∀ b, resolved.bsr = some b ↔ ∃ flag, (flag, b) ∈ bsrFlags ∧ o.contains flag = true

theorem native_eq_or (o : CompileOptions) : o.native =
    o.bits.toUInt32 |||
      if o.contains javascriptCompat then javascriptFlags.bits.toUInt32 else 0 := by
  unfold native
  split_ifs
  · exact nativeBits_or o javascriptFlags
  · exact UInt32.or_zero.symm

theorem resolves_of_resolve {resolved : EngineOptions} (eq : o.resolve = .ok resolved) :
    o.NoConflict ∧ o.Resolves resolved := by
  rw [resolve_eq] at eq
  obtain ⟨n, eqN, eq⟩ := bind_eq_ok eq
  obtain ⟨b, eqB, eq⟩ := bind_eq_ok eq
  obtain rfl := Except.ok.inj eq
  obtain ⟨singleN, isN⟩ := found_of_pickOne eqN
  obtain ⟨singleB, isB⟩ := found_of_pickOne eqB
  exact ⟨⟨singleN, singleB⟩, native_eq_or o, isN, isB⟩

/-- Options are resolved if and only if they have no conflict. -/
theorem resolve_isOk_iff : o.resolve.isOk = true ↔ o.NoConflict := by
  constructor
  · intro ok
    obtain ⟨resolved, eq⟩ := eq_ok_of_isOk ok
    exact (resolves_of_resolve eq).1
  · intro apart
    obtain ⟨resolved, eq⟩ := apart.resolve
    rw [eq]
    rfl

theorem native_or_words (a b : CompileOptions) : (a ||| b).native = a.native ||| b.native := by
  let stoodFor (on : Bool) : UInt32 := if on then javascriptFlags.bits.toUInt32 else 0
  have adds : ∀ x y : Bool, stoodFor (x || y) = stoodFor x ||| stoodFor y := by decide
  rw [native_eq_or, native_eq_or, native_eq_or, contains_or_of_isFlag isFlag_javascriptCompat]
  show (a.bits ||| b.bits).toUInt32 ||| stoodFor (_ || _) =
    (a.bits.toUInt32 ||| stoodFor _) ||| (b.bits.toUInt32 ||| stoodFor _)
  rw [UInt64.toUInt32_or, adds]
  ac_rfl

/-- The two parts of a word have no conflict either, and it comes to what they come to together. -/
theorem resolve_or {resolved : EngineOptions} (eq : (a ||| b).resolve = .ok resolved) :
    ∃ left right, a.resolve = .ok left ∧ b.resolve = .ok right ∧
      resolved.native = left.native ||| right.native ∧
      (resolved.newline = left.newline.or right.newline ∧
        resolved.newline = right.newline.or left.newline) ∧
      (resolved.bsr = left.bsr.or right.bsr ∧ resolved.bsr = right.bsr.or left.bsr) := by
  rw [resolve_eq] at eq
  obtain ⟨n, eqN, eq⟩ := bind_eq_ok eq
  obtain ⟨r, eqR, eq⟩ := bind_eq_ok eq
  obtain rfl := Except.ok.inj eq
  obtain ⟨leftN, rightN, eqLeftN, eqRightN, eitherN⟩ := pickOne_or_words isFlag_newlineFlags eqN
  obtain ⟨leftR, rightR, eqLeftR, eqRightR, eitherR⟩ := pickOne_or_words isFlag_bsrFlags eqR
  refine ⟨⟨a.native, leftN, leftR⟩, ⟨b.native, rightN, rightR⟩, ?_, ?_, native_or_words a b,
    eitherN, eitherR⟩
  · rw [resolve_eq, newline, eqLeftN, bsr, eqLeftR]
    rfl
  · rw [resolve_eq, newline, eqRightN, bsr, eqRightR]
    rfl

/-! ## What stands for other bits -/

/-- The option for JavaScript, replaced by the options that it stands for. -/
def spelledOut (o : CompileOptions) : CompileOptions :=
  ⟨o.bits &&& ~~~javascriptCompat.bits⟩ ||| javascriptFlags

theorem contains_spelledOut (apart : javascriptFlags.bits &&& flag.bits = 0)
    (kept : ~~~javascriptCompat.bits &&& flag.bits = flag.bits) :
    o.spelledOut.contains flag = o.contains flag := by
  unfold spelledOut
  rw [contains_or apart]
  show (o.bits &&& ~~~javascriptCompat.bits &&& flag.bits == flag.bits) = _
  rw [UInt64.and_assoc, kept]
  rfl

theorem pickOne_congr {α : Type} {flags : List (CompileOptions × α)} {code : Int}
    (same : ∀ f ∈ flags, a.contains f.1 = b.contains f.1) :
    a.pickOne flags code = b.pickOne flags code := by
  unfold pickOne
  rw [List.filter_congr same]

theorem native_spelledOut (on : o.contains javascriptCompat = true) :
    o.spelledOut.native = o.native := by
  have off : o.spelledOut.contains javascriptCompat = false := by
    unfold spelledOut
    rw [contains_or (by decide)]
    show (o.bits &&& ~~~javascriptCompat.bits &&& javascriptCompat.bits ==
      javascriptCompat.bits) = _
    have none : ~~~javascriptCompat.bits &&& javascriptCompat.bits = 0 := by decide
    rw [UInt64.and_assoc, none, UInt64.and_zero]
    rfl
  have low : (~~~javascriptCompat.bits).toUInt32 = -1 := by decide
  rw [native_eq_or, native_eq_or, off, on]
  show (o.bits &&& ~~~javascriptCompat.bits ||| javascriptFlags.bits).toUInt32 ||| 0 = _
  rw [UInt64.toUInt32_or, UInt64.toUInt32_and, low, UInt32.and_neg_one, UInt32.or_zero]
  rfl

/-- The engine is given the same if the options are spelled out. -/
theorem resolve_spelledOut (on : o.contains javascriptCompat = true) :
    o.spelledOut.resolve = o.resolve := by
  have newlines : ∀ f ∈ newlineFlags, javascriptFlags.bits &&& f.1.bits = 0 ∧
      ~~~javascriptCompat.bits &&& f.1.bits = f.1.bits := by decide
  have bsrs : ∀ f ∈ bsrFlags, javascriptFlags.bits &&& f.1.bits = 0 ∧
      ~~~javascriptCompat.bits &&& f.1.bits = f.1.bits := by decide
  have newline : o.spelledOut.newline = o.newline :=
    pickOne_congr fun f mem => contains_spelledOut (newlines f mem).1 (newlines f mem).2
  have bsr : o.spelledOut.bsr = o.bsr :=
    pickOne_congr fun f mem => contains_spelledOut (bsrs f mem).1 (bsrs f mem).2
  rw [resolve_eq, resolve_eq, newline, bsr, native_spelledOut on]

end CompileOptions

namespace Pattern

/-- A pattern with other options noted down. -/
def withOptions (p : Pattern) (o : CompileOptions) : Pattern := { p with options := o }

/-- Two patterns that no way of asking for a match tells apart. -/
structure MatchesLike (p q : Pattern) : Prop where
  text : ∀ subject start, p.firstMatch subject start = q.firstMatch subject start
  bytes : ∀ subject start options,
    p.firstMatchBytes subject start options = q.firstMatchBytes subject start options
  terminated : ∀ buffer start options,
    p.firstMatchTerminated buffer start options = q.firstMatchTerminated buffer start options
  unchecked : ∀ subject start options,
    p.firstMatchUnchecked subject start options = q.firstMatchUnchecked subject start options

/-- Of the options that are noted down, a match depends on the one for UTF alone. -/
theorem matchesLike_withOptions {p : Pattern} {o : CompileOptions}
    (utf : o.contains .utf = p.options.contains .utf) : (p.withOptions o).MatchesLike p := by
  refine ⟨fun subject start => ?_, fun _ _ _ => rfl, fun _ _ _ => rfl, fun _ _ _ => rfl⟩
  have request : (p.withOptions o).textRequest subject start = p.textRequest subject start := by
    unfold textRequest withOptions
    dsimp only
    rw [utf]
  unfold firstMatch
  rw [request]
  rfl

/-- Compiling depends on what the options are resolved to, and notes them down. -/
theorem compile_of_resolve_eq {o o' : CompileOptions} (same : o'.resolve = o.resolve)
    (source : String) : compile source o' = (compile source o).map (·.withOptions o') := by
  rw [compile_unfold, compile_unfold, same]
  cases o.resolve with
  | error e => rfl
  | ok resolved =>
    dsimp only [bind, Except.bind]
    cases CompileContext.ofOptions resolved with
    | error e => rfl
    | ok context =>
      dsimp only
      cases Program.compile source ⟨resolved.native⟩ context with
      | error fault => rfl
      | ok program => rfl

theorem compile_of_resolve_error {o : CompileOptions} {e : Error} (refused : o.resolve = .error e)
    (source : String) : compile source o = .error e := by
  rw [compile_unfold, refused]
  rfl

end Pattern

namespace CompileOptions

/-- **What options come to.**  They are refused if two of a kind are asked for, before the pattern
is read, and a conflict of newlines is found first.  Otherwise the engine is given the low bits as
they are, those that the option for JavaScript stands for, and the conventions that are flagged; so
it is given for two words in one what it is given for each, and that option might as well be spelled
out. -/
theorem resolve_laws :
    (∀ o : CompileOptions, o.resolve.isOk = true ↔ o.NoConflict) ∧
    (∀ o : CompileOptions, ¬o.AtMostOne newlineFlags →
      o.resolve = .error (.ofCode .options ErrorCode.conflictingNewline) ∧
      ∀ source, Pattern.compile source o =
        .error (.ofCode .options ErrorCode.conflictingNewline)) ∧
    (∀ o : CompileOptions, o.AtMostOne newlineFlags → ¬o.AtMostOne bsrFlags →
      o.resolve = .error (.ofCode .options ErrorCode.conflictingBsr) ∧
      ∀ source, Pattern.compile source o = .error (.ofCode .options ErrorCode.conflictingBsr)) ∧
    (∀ (o : CompileOptions) resolved, o.resolve = .ok resolved → o.Resolves resolved) ∧
    (∀ (o o' : CompileOptions) resolved resolved', o.resolve = .ok resolved →
      o'.resolve = .ok resolved' → o.bits.toUInt32 = o'.bits.toUInt32 →
      o.contains javascriptCompat = o'.contains javascriptCompat →
      resolved.native = resolved'.native) ∧
    (∀ (a b : CompileOptions) resolved, (a ||| b).resolve = .ok resolved →
      ∃ left right, a.resolve = .ok left ∧ b.resolve = .ok right ∧
        resolved.native = left.native ||| right.native ∧
        (resolved.newline = left.newline.or right.newline ∧
          resolved.newline = right.newline.or left.newline) ∧
        (resolved.bsr = left.bsr.or right.bsr ∧ resolved.bsr = right.bsr.or left.bsr)) ∧
    ∀ o : CompileOptions, o.contains javascriptCompat = true → ∀ source,
      Pattern.compile source o.spelledOut =
        (Pattern.compile source o).map (·.withOptions o.spelledOut) ∧
      ∀ p, Pattern.compile source o = .ok p → (p.withOptions o.spelledOut).MatchesLike p := by
  refine ⟨fun o => resolve_isOk_iff, ?_, ?_, fun o resolved eq => (resolves_of_resolve eq).2,
    ?_, ?_, ?_⟩
  · intro o conflict
    have refused := newline_of_conflict conflict
    exact ⟨refused, Pattern.compile_of_resolve_error refused⟩
  · intro o single conflict
    have refused := bsr_of_conflict single conflict
    exact ⟨refused, Pattern.compile_of_resolve_error refused⟩
  · intro o o' resolved resolved' eq eq' low compat
    rw [(resolves_of_resolve eq).2.native, (resolves_of_resolve eq').2.native, low, compat]
  · intro a b resolved eq
    exact resolve_or eq
  · intro o on source
    refine ⟨Pattern.compile_of_resolve_eq (resolve_spelledOut on) source, fun p compiled => ?_⟩
    obtain rfl := (Pattern.of_compile compiled).1
    exact Pattern.matchesLike_withOptions (contains_spelledOut (by decide) (by decide))

/-- Conflicts of both kinds in front of a group that is not closed, a convention that two words
agree on, and an empty class. -/
theorem resolve_laws_agreeing :
    Pattern.compile "(" (newlineCr ||| newlineNul ||| bsrAnycrlf ||| bsrUnicode) =
      .error (.ofCode .options ErrorCode.conflictingNewline) ∧
    Pattern.compile "(" (newlineCr ||| bsrAnycrlf ||| bsrUnicode) =
      .error (.ofCode .options ErrorCode.conflictingBsr) ∧
    (∃ left right, (caseless ||| newlineCrlf).resolve = .ok left ∧
      (javascriptCompat ||| newlineCrlf).resolve = .ok right ∧
      left.native ||| right.native = 0x20B ∧ left.newline.or right.newline = some .crlf ∧
      (caseless ||| newlineCrlf).Resolves left ∧
      ∀ other, (caseless ||| bsrUnicode).resolve = .ok other → left.native = other.native) ∧
    ∃ p, Pattern.compile "[]|a" javascriptCompat = .ok p ∧
      (p.withOptions javascriptCompat.spelledOut).MatchesLike p := by
  obtain ⟨-, newlines, bsrs, resolves, low, words, compat⟩ := resolve_laws
  obtain ⟨left, right, eqLeft, eqRight, native, ⟨newline, -⟩, -⟩ :=
    words (caseless ||| newlineCrlf) (javascriptCompat ||| newlineCrlf) ⟨0x20B, some .crlf, none⟩
      (by decide)
  obtain ⟨p, compiled⟩ := eq_ok_of_isOk (x := Pattern.compile "[]|a" javascriptCompat)
    (by decide +kernel)
  refine ⟨(newlines _ (by decide)).2 "(", (bsrs _ (by decide) (by decide)).2 "(",
    ⟨left, right, eqLeft, eqRight, native.symm, newline.symm, resolves _ _ eqLeft, ?_⟩,
    p, compiled, (compat javascriptCompat (by decide) "[]|a").2 p compiled⟩
  intro other eq
  exact low _ _ left other eqLeft eq (by decide) (by decide)

end CompileOptions

end Regex
