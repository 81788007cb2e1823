import Regex.Pattern
import Regex.Proofs.Code.Assembled
import Regex.Proofs.Code.Steady
import Regex.Proofs.Syntax.Preamble
import Regex.Proofs.Syntax.Reader

/-!
# Compiled patterns

What compiling keeps of a pattern's text and options.

* `Program.CompiledFrom`: what a program keeps of the preamble and the items it was made of.
* `Program.compiledFrom`: every program that is compiled is such a program.
* `Pattern.of_compile`: so is the program of every pattern that is compiled.
* `Pattern.placed_of_compile`, `Pattern.steady_of_compile`, `Pattern.bytes_of_compile`: what this
  says of its code, given its text.
* `Pattern.has_of_compile`, `Pattern.anchored_of_compile`, `Pattern.utf_of_compile`,
  `Pattern.utf_iff_of_compile`, `Pattern.whole_of_compile`: what it says of its options.
-/

namespace Regex

open Code Syntax

namespace Program

/-- The option to anchor matches is not overruled by what the code tells. -/
theorem anchored_of {d : Dialect} {code : Group} {a : Assembly} {branches : List (List Node)}
    {groups : Nat} {shared : Bool} (anchored : d.bits.has EngineBits.anchored = true) :
    (Hints.of d code a branches groups shared).anchored = true := by
  unfold Hints.of
  dsimp only
  rw [anchored, Bool.true_or]
  split
  · rfl
  · rfl

/-- What a program was made of. -/
structure CompiledFrom (p : Program) (source : String) (bits : EngineBits)
    (context : CompileContext) (head : Preamble) (pattern : Syntax.Pattern) : Prop where
  preamble : Preamble.read bits context source.toList = .ok head
  items : readPattern (Source.ofText head.dialect.utf (head.body source)) head.dialect head.modes =
    .ok pattern
  dialect : p.dialect = head.dialect
  /-- A search is anchored where the options say so. -/
  anchored : head.dialect.bits.has EngineBits.anchored = true → p.hints.anchored = true
  groupCount : p.groupCount = pattern.groups
  /-- The code of its groups follows every rule that allows the items. -/
  follows : ∀ r, BranchesAll (Assembling.Allowed r) pattern.branches → p.groups.Follows r
  /-- Single bytes are only taken where an item asks for them. -/
  bytes : BranchesAll Assembling.NoByte pattern.branches → p.bytes = false

theorem compiledFrom {p : Program} {source : String} {bits : EngineBits} {context : CompileContext}
    (eq : compile source bits context = .ok p) :
    ∃ head pattern, p.CompiledFrom source bits context head pattern := by
  unfold compile at eq
  obtain ⟨head, preamble, eq⟩ := bind_eq_ok eq
  replace eq := mapError_eq_ok eq
  unfold ofText at eq
  obtain ⟨pattern, items, eq⟩ := bind_eq_ok eq
  obtain ⟨behinds, _, eq⟩ := bind_eq_ok eq
  obtain ⟨⟨code, a⟩, assembled, eq⟩ := bind_eq_ok eq
  obtain ⟨follows, bytes⟩ := sound_assemble assembled
  obtain rfl := Except.ok.inj eq
  refine ⟨head, pattern, preamble, items, rfl, anchored_of, rfl, fun r allowed => ?_, bytes⟩
  refine GroupCodes.follows_of (branchesFollow_spread _ ?_) _
  split_ifs
  · exact branchesFollow_possessified _ _ _ _ (follows r allowed)
  · exact follows r allowed

end Program

namespace Pattern

variable {p : Pattern} {source : String} {options : CompileOptions}

/-- A compiled pattern holds its options, and a program of its source. -/
theorem of_compile (eq : compile source options = .ok p) :
    p.options = options ∧
      ∃ resolved context head pattern, options.resolve = .ok resolved ∧
        p.program.CompiledFrom source ⟨resolved.native⟩ context head pattern := by
  rw [compile_unfold] at eq
  obtain ⟨resolved, known, eq⟩ := bind_eq_ok eq
  obtain ⟨context, set, eq⟩ := bind_eq_ok eq
  split at eq
  · rename_i program compiled
    obtain rfl := Except.ok.inj eq
    obtain ⟨head, pattern, made⟩ := Program.compiledFrom compiled
    exact ⟨rfl, resolved, context, head, pattern, known, made⟩
  · cases eq

/-- The code of a compiled pattern goes back only in lookbehinds. -/
theorem placed_of_compile (eq : compile source options = .ok p) : p.program.groups.Placed := by
  obtain ⟨_, _, _, head, pattern, _, made⟩ := of_compile eq
  exact made.follows .free (branchesAll_of_forall Assembling.allowed_free _)

/-- A pattern takes no single bytes if its text has no escape for them. -/
theorem bytes_of_compile (eq : compile source options = .ok p)
    (noByte : ¬byteMark <:+: source.toList) : p.program.bytes = false := by
  obtain ⟨_, _, _, head, pattern, _, made⟩ := of_compile eq
  have allows : (Source.ofText head.dialect.utf (head.body source)).Allows Assembling.NoByte := by
    refine ⟨fun e plain => ?_, fun i found => ?_, fun _ _ => nofun, fun _ _ _ _ _ _ _ => nofun⟩
    · rintro rfl
      exact plain
    · have mark := Source.infix_of_mem_marks (by simp [marks]) found
      exact absurd (Preamble.infix_of_body mark) noByte
  exact made.bytes (gives_readPattern allows _ _ pattern made.items)

/-- What a rule asks of the items of a pattern can be told from its text. -/
theorem allows_of_marks {r : Rule} {source : String} (byChars : Bool)
    (keep : keepMark <:+: source.toList → r.keep)
    (call : ∀ mark ∈ callMarks, mark <:+: source.toList → r.call) :
    (Source.ofText byChars source).Allows (Assembling.Allowed r) where
  plain e plain := by
    cases e with
    | keep => exact plain.elim
    | call group place offset => exact plain.elim
    | _ => trivial
  byte _ _ := trivial
  keep _ found := keep (Source.infix_of_mem_marks (by simp [marks]) found)
  call _ mark mem found _ _ _ := call mark mem
    (Source.infix_of_mem_marks (by simp [marks, mem]) found)

/-- The code of a pattern follows every rule that its text asks for. -/
theorem follows_of_compile (eq : compile source options = .ok p) (r : Rule)
    (keep : keepMark <:+: source.toList → r.keep)
    (call : ∀ mark ∈ callMarks, mark <:+: source.toList → r.call) : p.program.groups.Follows r := by
  obtain ⟨_, _, _, head, pattern, _, made⟩ := of_compile eq
  have allows : (Source.ofText head.dialect.utf (head.body source)).Allows (Assembling.Allowed r) :=
    allows_of_marks _ (fun found => keep (Preamble.infix_of_body found))
      fun mark mem found => call mark mem (Preamble.infix_of_body found)
  exact made.follows r (gives_readPattern allows _ _ pattern made.items)

/-- A pattern never moves the start of a match if its text has no escape for that. -/
theorem still_of_compile (eq : compile source options = .ok p)
    (noKeep : ¬keepMark <:+: source.toList) : p.program.groups.Follows .still :=
  follows_of_compile eq .still noKeep fun _ _ _ => trivial

/-- **A pattern moves the start of no match in an assertion** if its text has no escape for that, or
if it has no call of a group. -/
theorem steady_of_compile (eq : compile source options = .ok p)
    (apart : ¬keepMark <:+: source.toList ∨ ∀ mark ∈ callMarks, ¬mark <:+: source.toList) :
    p.program.groups.Steady := by
  -- without the escape, assertions may call anything; without calls, it stays outside of them
  rcases apart with noKeep | noCall
  · exact (still_of_compile eq noKeep).steady id fun _ => id
  · have alone := follows_of_compile eq ⟨True, False, False, False.elim⟩ (fun _ => trivial) noCall
    exact alone.steady id False.elim

/-- The option for UTF makes a pattern work on characters. -/
theorem utf_of_compile (eq : compile source options = .ok p)
    (utf : p.options.contains .utf = true) : p.program.dialect.utf = true := by
  obtain ⟨same, resolved, _, head, pattern, known, made⟩ := of_compile eq
  have native : EngineBits.has ⟨resolved.native⟩ CompileOptions.utf.nativeBits = true :=
    CompileOptions.has_of_resolve known (same ▸ utf)
  rw [made.dialect]
  exact Preamble.utf_of_read made.preamble native

/-- A pattern works on characters by the option for that, or by a setting at its head. -/
theorem utf_iff_of_compile (eq : compile source options = .ok p) :
    p.program.dialect.utf = true ↔ options.contains .utf = true ∨
      options.contains .literal = false ∧ ∃ settings stop,
        Setting.readAll source.length 0 source.toList = .ok (settings, stop) ∧
          Setting.utf ∈ settings := by
  obtain ⟨_, resolved, _, head, pattern, known, made⟩ := of_compile eq
  have utf : EngineBits.has ⟨resolved.native⟩ EngineBits.utf = options.contains .utf := by
    rw [CompileOptions.native_of_resolve known]
    exact @CompileOptions.has_native _ .utf (by decide) (by decide)
  have literal : EngineBits.has ⟨resolved.native⟩ EngineBits.literal =
      options.contains .literal := by
    rw [CompileOptions.native_of_resolve known]
    exact @CompileOptions.has_native _ .literal (by decide) (by decide)
  rw [made.dialect, Preamble.utf_iff_of_read made.preamble, utf, literal, String.length_toList]

/-- With named options, subjects may not have broken parts. -/
theorem whole_of_compile (eq : compile source options = .ok p) (named : options.IsNamed) :
    p.program.allowsBroken = false := by
  obtain ⟨_, resolved, _, head, pattern, known, made⟩ := of_compile eq
  unfold Program.allowsBroken
  rw [made.dialect, Preamble.has_of_read made.preamble (by decide) (by decide)]
  exact CompileOptions.whole_of_resolve known named

end Pattern

end Regex
