import Regex.CompileContext
import Regex.Dialect

/-!
# Sets of options

Options are words whose bits are switched on one by one, so that adding one leaves the others as
they are.

* `MatchOptions.contains_or`: an option that shares no bit with those that are added.
* `or_or_self`, `or_right_comm`: options may be given again, and in any order.
* `MatchOptions.IsNamed`: options of a match all of which have a name.
* `CompileOptions.IsNamed`: options all of which have a name.
* `CompileOptions.pickOne_or`, `CompileOptions.pickOne_apart`: the conventions asked for when one
  more option is given.
* `CompileContext.ofOptions_eq`: the engine knows the numbers of all conventions.
* `CompileOptions.resolve_eq`, `CompileOptions.native_or`: what the engine is given.
* `CompileOptions.has_native`, `CompileOptions.whole_of_resolve`: which options reach the engine.
* `CompileOptions.NoConflict`: options that ask for one convention of each kind at most.
* `CompileOptions.pickOne_of_conflict`, `CompileOptions.pickOne_of_atMostOne`: what is found of the
  flags of one kind.
-/

namespace Regex

theorem UInt32.and_or_distrib_right (a b c : UInt32) : (a ||| b) &&& c = (a &&& c) ||| (b &&& c) :=
  UInt32.toBitVec_inj.mp BitVec.and_or_distrib_right

theorem UInt32.or_and_self (a b : UInt32) : a ||| (b &&& a) = a := by
  refine UInt32.toBitVec_inj.mp ?_
  rw [UInt32.toBitVec_or, UInt32.toBitVec_and]
  ext i
  rw [BitVec.getElem_or, BitVec.getElem_and]
  cases a.toBitVec[i] <;> simp

/-- Bits that are added are there. -/
theorem UInt32.or_and_right_self (a b : UInt32) : (a ||| b) &&& b = b := by
  rw [Regex.UInt32.and_or_distrib_right, UInt32.and_self, UInt32.or_comm, Regex.UInt32.or_and_self]

theorem UInt64.and_or_distrib_right (a b c : UInt64) : (a ||| b) &&& c = (a &&& c) ||| (b &&& c) :=
  UInt64.toBitVec_inj.mp BitVec.and_or_distrib_right

theorem UInt64.or_and_self (a b : UInt64) : a ||| (b &&& a) = a := by
  refine UInt64.toBitVec_inj.mp ?_
  rw [UInt64.toBitVec_or, UInt64.toBitVec_and]
  ext i
  rw [BitVec.getElem_or, BitVec.getElem_and]
  cases a.toBitVec[i] <;> simp

/-- Bits that share none with a flag do not switch it on. -/
theorem EngineBits.has_add (bits : EngineBits) {added flag : UInt32} (apart : added &&& flag = 0) :
    (bits.add added).has flag = bits.has flag := by
  change ((bits.word ||| added) &&& flag == flag) = (bits.word &&& flag == flag)
  rw [Regex.UInt32.and_or_distrib_right, apart, UInt32.or_zero]

theorem EngineBits.add_right_comm (bits : EngineBits) (a b : UInt32) :
    (bits.add a).add b = (bits.add b).add a := by
  change (⟨bits.word ||| a ||| b⟩ : EngineBits) = ⟨bits.word ||| b ||| a⟩
  rw [UInt32.or_assoc, UInt32.or_comm a, ← UInt32.or_assoc]

/-- The low words tell whether a flag without other bits is set. -/
theorem UInt64.toUInt32_and_eq_iff {a b : UInt64} (low : b.toUInt32.toUInt64 = b) :
    (a &&& b).toUInt32 = b.toUInt32 ↔ a &&& b = b := by
  have small : b < 4294967296 := by
    rw [UInt64.toUInt64_toUInt32] at low
    rw [← low]
    exact UInt64.mod_lt _ (by decide)
  have below : a &&& b < 4294967296 := by
    rw [UInt64.lt_iff_toNat_lt, UInt64.toNat_and]
    exact Nat.lt_of_le_of_lt Nat.and_le_right (UInt64.lt_iff_toNat_lt.mp small)
  constructor
  · intro eq
    have eq := congrArg UInt32.toUInt64 eq
    rwa [low, UInt64.toUInt64_toUInt32, UInt64.mod_eq_of_lt below] at eq
  · intro eq
    rw [eq]

namespace MatchOptions

/-- Options that share no bit with a flag do not switch it on. -/
theorem contains_or (o added flag : MatchOptions) (apart : added.bits &&& flag.bits = 0) :
    (o ||| added).contains flag = o.contains flag := by
  change ((o.bits ||| added.bits) &&& flag.bits == flag.bits) = (o.bits &&& flag.bits == flag.bits)
  rw [Regex.UInt32.and_or_distrib_right, apart, UInt32.or_zero]

/-- An option that is added is on. -/
theorem contains_or_self (o flag : MatchOptions) : (o ||| flag).contains flag = true := by
  change ((o.bits ||| flag.bits) &&& flag.bits == flag.bits) = true
  rw [Regex.UInt32.or_and_right_self, beq_self_eq_true]

/-- An option that is on need not be added. -/
theorem or_eq_self {o flag : MatchOptions} (on : o.contains flag = true) : o ||| flag = o := by
  have on : o.bits &&& flag.bits = flag.bits := eq_of_beq on
  apply congrArg MatchOptions.mk
  have absorbed := Regex.UInt32.or_and_self o.bits flag.bits
  rwa [UInt32.and_comm, on] at absorbed

@[simp]
theorem or_or_self (o flag : MatchOptions) : o ||| flag ||| flag = o ||| flag :=
  or_eq_self (contains_or_self o flag)

@[simp]
theorem or_empty (o : MatchOptions) : o ||| .empty = o :=
  congrArg MatchOptions.mk UInt32.or_zero

theorem or_right_comm (o a b : MatchOptions) : o ||| a ||| b = o ||| b ||| a := by
  change (⟨o.bits ||| a.bits ||| b.bits⟩ : MatchOptions) = ⟨o.bits ||| b.bits ||| a.bits⟩
  rw [UInt32.or_assoc, UInt32.or_comm a.bits, ← UInt32.or_assoc]

/-- All options that have a name. -/
def all : MatchOptions := named.foldl (fun o flag => o ||| flag.2) empty

/-- Options all of which have a name. -/
def IsNamed (o : MatchOptions) : Prop := o.bits &&& ~~~all.bits = 0

instance (o : MatchOptions) : Decidable o.IsNamed := inferInstanceAs (Decidable (_ = _))

end MatchOptions

/-- The engine knows the numbers of all conventions, so no setting of them is refused. -/
theorem CompileContext.ofOptions_eq (options : EngineOptions) :
    CompileContext.ofOptions options =
      .ok ⟨options.newline.getD initial.newline, options.bsr.getD initial.bsr⟩ := by
  obtain ⟨native, newline, bsr⟩ := options
  cases newline with
  | none =>
      cases bsr with
      | none => rfl
      | some b => cases b <;> rfl
  | some n =>
      cases bsr with
      | none => cases n <;> rfl
      | some b => cases n <;> cases b <;> rfl

namespace CompileOptions

/-! ### One option more -/

section Added

variable {o added flag : CompileOptions}

/-- Options that share no bit with a flag do not switch it on. -/
theorem contains_or (apart : added.bits &&& flag.bits = 0) :
    (o ||| added).contains flag = o.contains flag := by
  change ((o.bits ||| added.bits) &&& flag.bits == flag.bits) = (o.bits &&& flag.bits == flag.bits)
  rw [Regex.UInt64.and_or_distrib_right, apart, UInt64.or_zero]

theorem contains_or_self (o flag : CompileOptions) : (o ||| flag).contains flag = true := by
  change ((o.bits ||| flag.bits) &&& flag.bits == flag.bits) = true
  rw [Regex.UInt64.and_or_distrib_right, UInt64.and_self, UInt64.or_comm,
    Regex.UInt64.or_and_self, beq_self_eq_true]

@[simp]
theorem or_or_self (o flag : CompileOptions) : o ||| flag ||| flag = o ||| flag := by
  change (⟨o.bits ||| flag.bits ||| flag.bits⟩ : CompileOptions) = ⟨o.bits ||| flag.bits⟩
  rw [UInt64.or_assoc, UInt64.or_self]

@[simp]
theorem or_empty (o : CompileOptions) : o ||| .empty = o :=
  congrArg CompileOptions.mk UInt64.or_zero

theorem or_right_comm (o a b : CompileOptions) : o ||| a ||| b = o ||| b ||| a := by
  change (⟨o.bits ||| a.bits ||| b.bits⟩ : CompileOptions) = ⟨o.bits ||| b.bits ||| a.bits⟩
  rw [UInt64.or_assoc, UInt64.or_comm a.bits, ← UInt64.or_assoc]

variable {α : Type} {flags : List (CompileOptions × α)} {code : Int}

end Added

/-- All options that have a name. -/
def all : CompileOptions := named.foldl (fun o flag => o ||| flag.2) empty

/-- Options all of which have a name. -/
def IsNamed (o : CompileOptions) : Prop := o.bits &&& ~~~all.bits = 0

instance (o : CompileOptions) : Decidable o.IsNamed := inferInstanceAs (Decidable (_ = _))

variable {o : CompileOptions} {resolved : EngineOptions}

theorem IsNamed.or {o' : CompileOptions} (named : o.IsNamed) (named' : o'.IsNamed) :
    (o ||| o').IsNamed := by
  change (o.bits ||| o'.bits) &&& ~~~all.bits = 0
  rw [Regex.UInt64.and_or_distrib_right, named, named', UInt64.or_self]

/-- The bits that the engine is given: the low word, with those that another option stands for. -/
def native (o : CompileOptions) : UInt32 :=
  if o.contains javascriptCompat then (o ||| javascriptFlags).nativeBits else o.nativeBits

theorem nativeBits_or (o added : CompileOptions) :
    (o ||| added).nativeBits = o.nativeBits ||| added.nativeBits :=
  UInt64.toUInt32_or _ _

/-- What the engine is given for some options. -/
theorem resolve_eq (o : CompileOptions) : o.resolve = (do
    let newline ← o.newline
    let bsr ← o.bsr
    return ⟨o.native, newline, bsr⟩) := by
  unfold resolve native
  cases o.contains javascriptCompat <;> rfl

/-- The engine is given the low word of the options, with those that another one stands for. -/
theorem native_eq (o : CompileOptions) : ∃ added : UInt32,
    (added = 0 ∨ added = javascriptFlags.nativeBits) ∧ o.native = o.nativeBits ||| added := by
  unfold native
  cases o.contains javascriptCompat with
  | true => exact ⟨_, Or.inr rfl, nativeBits_or _ _⟩
  | false => exact ⟨0, Or.inl rfl, UInt32.or_zero.symm⟩

theorem native_of_resolve (eq : o.resolve = .ok resolved) : resolved.native = o.native := by
  rw [resolve_eq] at eq
  cases newline : o.newline with
  | error e =>
      rw [newline] at eq
      cases eq
  | ok n =>
      cases bsr : o.bsr with
      | error e =>
          rw [newline, bsr] at eq
          cases eq
      | ok b =>
          rw [newline, bsr] at eq
          obtain rfl := Except.ok.inj eq
          rfl

/-- The engine is given what is set of the low word. -/
theorem has_of_resolve (eq : o.resolve = .ok resolved) {flag : CompileOptions}
    (set : o.contains flag = true) : EngineBits.has ⟨resolved.native⟩ flag.nativeBits = true := by
  obtain ⟨added, _, native⟩ := o.native_eq
  have low : o.nativeBits &&& flag.nativeBits = flag.nativeBits := by
    have set : o.bits &&& flag.bits = flag.bits := eq_of_beq set
    have := congrArg UInt64.toUInt32 set
    rwa [UInt64.toUInt32_and] at this
  unfold EngineBits.has
  rw [native_of_resolve eq, native, Regex.UInt32.and_or_distrib_right, low,
    Regex.UInt32.or_and_self, beq_self_eq_true]

/-- The engine is given a flag of the low word only if it is set or stood for. -/
theorem has_native {flag : CompileOptions} (low : flag.bits.toUInt32.toUInt64 = flag.bits)
    (apart : javascriptFlags.nativeBits &&& flag.nativeBits = 0) :
    EngineBits.has ⟨o.native⟩ flag.nativeBits = o.contains flag := by
  have same : EngineBits.has ⟨o.native⟩ flag.nativeBits =
      EngineBits.has ⟨o.nativeBits⟩ flag.nativeBits := by
    obtain ⟨added, which, native⟩ := o.native_eq
    rw [native]
    refine EngineBits.has_add ⟨o.nativeBits⟩ ?_
    rcases which with rfl | rfl
    · exact UInt32.zero_and
    · exact apart
  rw [same, Bool.eq_iff_iff]
  unfold EngineBits.has contains nativeBits
  rw [beq_iff_eq, beq_iff_eq, ← UInt64.toUInt32_and]
  exact Regex.UInt64.toUInt32_and_eq_iff low

/-- No named option lets the engine match in subjects with broken parts. -/
theorem whole_of_resolve (eq : o.resolve = .ok resolved) (named : o.IsNamed) :
    EngineBits.has ⟨resolved.native⟩ EngineBits.matchInvalidUtf = false := by
  obtain ⟨added, which, native⟩ := o.native_eq
  have low : o.nativeBits &&& EngineBits.matchInvalidUtf = 0 := by
    have flag :
        EngineBits.matchInvalidUtf = (~~~all.bits).toUInt32 &&& EngineBits.matchInvalidUtf := by
      decide
    have none : o.nativeBits &&& (~~~all.bits).toUInt32 = 0 := by
      rw [nativeBits, ← UInt64.toUInt32_and, named]
      rfl
    rw [flag, ← UInt32.and_assoc, none, UInt32.zero_and]
  unfold EngineBits.has
  rw [native_of_resolve eq, native, Regex.UInt32.and_or_distrib_right, low]
  rcases which with rfl | rfl <;> decide

/-! ### Conflicts -/

/-- No two of some options are asked for. -/
def AtMostOne {α : Type} (o : CompileOptions) (flags : List (CompileOptions × α)) : Prop :=
  flags.Pairwise fun f g => ¬(o.contains f.1 = true ∧ o.contains g.1 = true)

/-- No two newline conventions and no two meanings of `\R` are asked for. -/
structure NoConflict (o : CompileOptions) : Prop where
  newline : o.AtMostOne newlineFlags
  bsr : o.AtMostOne bsrFlags

instance {α : Type} (o : CompileOptions) (flags : List (CompileOptions × α)) :
    Decidable (o.AtMostOne flags) :=
  inferInstanceAs (Decidable (List.Pairwise _ flags))

instance (o : CompileOptions) : Decidable o.NoConflict :=
  decidable_of_iff (o.AtMostOne newlineFlags ∧ o.AtMostOne bsrFlags)
    ⟨fun h => ⟨h.1, h.2⟩, fun h => ⟨h.newline, h.bsr⟩⟩

section Kind

variable {α : Type} {flags : List (CompileOptions × α)}

/-- No two of some flags are set if the list of those that are set goes no further than one. -/
theorem atMostOne_iff :
    o.AtMostOne flags ↔ (flags.filter fun f => o.contains f.1).length ≤ 1 := by
  have none : o.AtMostOne flags ↔
      (flags.filter fun f => o.contains f.1).Pairwise fun _ _ => False := by
    unfold AtMostOne
    rw [List.pairwise_filter]
    simp
  rw [none]
  cases flags.filter fun f => o.contains f.1 with
  | nil => simp
  | cons f rest =>
    cases rest with
    | nil => simp
    | cons g rest =>
      refine iff_of_false (fun pairs => ?_) (by simp)
      exact List.rel_of_pairwise_cons pairs List.mem_cons_self

theorem pickOne_of_conflict (conflict : ¬o.AtMostOne flags) (code : Int) :
    o.pickOne flags code = .error (.ofCode .options code) := by
  rw [atMostOne_iff] at conflict
  unfold pickOne
  split
  · rename_i list
    simp [list] at conflict
  · rename_i f list
    simp [list] at conflict
  · rfl

/-- Without a conflict, what is found is what the flag stands for that is set, if there is one. -/
theorem pickOne_of_atMostOne (single : o.AtMostOne flags) (code : Int) :
    ∃ found, o.pickOne flags code = .ok found ∧
      ∀ v, found = some v ↔ ∃ flag, (flag, v) ∈ flags ∧ o.contains flag = true := by
  have set : ∀ f, f ∈ flags.filter (fun f => o.contains f.1) ↔ f ∈ flags ∧ o.contains f.1 = true :=
    fun f => List.mem_filter
  rw [atMostOne_iff] at single
  unfold pickOne
  cases list : flags.filter fun f => o.contains f.1 with
  | nil =>
    refine ⟨none, rfl, fun v => ⟨fun no => (by cases no), ?_⟩⟩
    rintro ⟨flag, mem, on⟩
    have found := (set (flag, v)).mpr ⟨mem, on⟩
    rw [list] at found
    cases found
  | cons f rest =>
    obtain rfl : rest = [] := by
      rw [list, List.length_cons] at single
      exact List.length_eq_zero_iff.mp (by omega)
    obtain ⟨mem, on⟩ := (set f).mp (by rw [list]; exact List.mem_singleton_self f)
    refine ⟨some f.2, rfl, fun v => ⟨?_, ?_⟩⟩
    · intro eq
      exact ⟨f.1, Option.some.inj eq ▸ mem, on⟩
    · rintro ⟨flag, mem, on⟩
      have found := (set (flag, v)).mpr ⟨mem, on⟩
      rw [list, List.mem_singleton] at found
      rw [← found]

end Kind

/-- Options without a conflict are not refused. -/
theorem NoConflict.resolve (apart : o.NoConflict) : ∃ resolved, o.resolve = .ok resolved := by
  obtain ⟨newline, eq, -⟩ := pickOne_of_atMostOne apart.newline ErrorCode.conflictingNewline
  obtain ⟨bsr, eq', -⟩ := pickOne_of_atMostOne apart.bsr ErrorCode.conflictingBsr
  refine ⟨⟨o.native, newline, bsr⟩, ?_⟩
  rw [resolve_eq, CompileOptions.newline, eq, CompileOptions.bsr, eq']
  rfl

end CompileOptions

end Regex
