import Regex.Pattern
import Regex.Proofs.Faults.Assembly
import Regex.Proofs.Faults.Lookbehind
import Regex.Proofs.Faults.Reader
import Regex.Proofs.Syntax.Preamble

/-!
# Faults of patterns

A pattern is refused for its settings, by the reader, for its lookbehinds or while its code is
assembled.  The text after the settings is taken by itself, and its faults are reported where they
stand in the whole.

* `Preamble.within_read`: faults of settings, and how much of a text they take.
* `Program.within_ofText`, `Program.within_compile`: faults of a text with settings and without.
* `Pattern.fault_inside`: an error in compiling points into the pattern.
-/

namespace Regex

open Syntax

/-- A fault that stands in a part of a text stands in the text. -/
theorem PatternFault.Within.after {n m k : Nat} {fault : PatternFault} (within : fault.Within n)
    (fits : k + n ≤ m) : (fault.after k).Within m := by
  intro offset mem
  obtain ⟨offset, kept, rfl⟩ := Option.map_eq_some_iff.mp mem
  have := within offset kept
  omega

/-- Every character has a byte at least. -/
theorem Utf8.length_le_encoded (text : List Char) :
    text.length ≤ (text.flatMap String.utf8EncodeChar).length := by
  induction text with
  | nil => exact Nat.le_refl 0
  | cons c rest ih =>
      have := c.utf8Size_pos
      rw [List.flatMap_cons, List.length_append, List.length_cons, String.length_utf8EncodeChar]
      omega

/-! ## Settings -/

namespace Syntax

open Reading

namespace Setting

variable {size n count offset : Nat} {text : List Char}

theorem within_readLimit (inside : offset + text.length ≤ size) :
    Within size (readLimit n count offset text) fun found =>
      found.2.1 + found.2.2.length ≤ size := by
  have here : ∀ k ∈ some offset, k ≤ size := le_of_mem_some (Nat.le_of_add_right_le inside)
  fun_induction readLimit n count offset text with
  | case1 n count offset c text digit ih =>
      have inside : offset + 1 + text.length ≤ size := Nat.add_right_comm .. ▸ inside
      exact ih inside (le_of_mem_some (Nat.le_of_add_right_le inside))
  | case2 n count offset c text other closed => exact .ok (Nat.add_right_comm .. ▸ inside)
  | case3 => exact .error here
  | case4 => exact .error here

/-- Settings end in the text, and so does whatever is at fault in them. -/
theorem within_readAll (fuel : Nat) (inside : offset + text.length ≤ size) :
    Within size (readAll fuel offset text) fun found => found.2 ≤ size := by
  have here : offset ≤ size := Nat.le_of_add_right_le inside
  fun_induction readAll fuel offset text with
  | case1 offset fuel text setting rest named ih =>
      have shorter := length_of_strip? named
      rw [List.length_cons, List.length_cons] at inside
      have next : offset + 2 + (text.length - rest.length) + rest.length ≤ size := by omega
      exact .bind (ih next (Nat.le_of_add_right_le next)) fun found stop_le => .ok stop_le
  | case2 offset fuel text limit rest limited unnamed ih =>
      have shorter := length_of_strip? limited
      rw [List.length_cons, List.length_cons] at inside
      have next : offset + 2 + (text.length - rest.length) + rest.length ≤ size := by omega
      refine .bind (within_readLimit next) fun found inside => ?_
      obtain ⟨n, next, rest⟩ := found
      exact .bind (ih next rest inside (Nat.le_of_add_right_le inside)) fun found stop_le =>
        .ok stop_le
  | case3 => exact .ok here
  | case4 => exact .ok here

end Setting

namespace Preamble

theorem within_read (bits : EngineBits) (context : CompileContext) (text : List Char) :
    Within text.length (read bits context text) fun head => head.length ≤ text.length := by
  have start : ∀ {α : Type} {cause : PatternFault.Cause} {Q : α → Prop},
      Within text.length (throw ⟨cause, none⟩ : Reading α) Q := .error nofun
  unfold read
  extract_lets literal finish settings rest
  have finish : ∀ found : List Setting × Nat, found.2 ≤ text.length →
      Within text.length (finish found) fun head => head.length ≤ text.length := by
    rintro ⟨settings, length⟩ length_le
    unfold finish
    dsimp only
    split
    · exact .error (le_of_mem_some length_le)
    · exact .ok length_le
  have settings : Within text.length (settings ()) fun head => head.length ≤ text.length := by
    unfold settings
    split_ifs
    · exact finish ([], 0) (Nat.zero_le _)
    · exact .bind (Setting.within_readAll _ (Nat.le_of_eq (Nat.zero_add _))) finish
  have rest : Within text.length (rest ()) fun head => head.length ≤ text.length := by
    unfold rest
    split_ifs
    · exact start
    · exact settings
  split_ifs
  · exact start
  · exact rest

/-- What follows the settings is so much shorter than the whole. -/
theorem length_body {p : Preamble} {text : String} (inside : p.length ≤ text.toList.length) :
    p.length + (p.body text).utf8ByteSize ≤ text.utf8ByteSize := by
  have head := Utf8.length_le_encoded (text.toList.take p.length)
  rw [List.length_take, Nat.min_eq_left inside] at head
  have whole := congrArg (fun list => (list.flatMap String.utf8EncodeChar).length)
    (List.take_append_drop p.length text.toList)
  rw [List.flatMap_append, List.length_append, ← Utf8.encode_eq, Utf8.length_encode] at whole
  rw [← Utf8.length_encode (p.body text), Utf8.encode_eq, body, String.toList_ofList]
  omega

end Preamble

end Syntax

/-! ## Programs -/

namespace Program

/-- A fault of a text without settings stands in it. -/
theorem within_ofText (d : Dialect) (modes : Modes) (text : String) :
    Reading.Within text.utf8ByteSize (ofText d modes text) fun _ => True := by
  have formed := Source.formed_ofText d.utf text
  unfold ofText
  rw [← Source.length_ofText d.utf text]
  extract_lets s
  refine .bind (within_readPattern formed d modes) fun pattern inside => ?_
  refine .bind (Lookbehinds.within_of (GroupTable.within_of inside) inside _) fun behinds _ => ?_
  exact .bind (Code.within_assemble (Nat.le_refl _) inside _) fun ⟨code, a⟩ _ => .ok trivial

/-- **A fault of a pattern stands in its text.** -/
theorem within_compile (source : String) (bits : EngineBits) (context : CompileContext) :
    Reading.Within source.utf8ByteSize (compile source bits context) fun _ => True := by
  have chars_le : source.toList.length ≤ source.utf8ByteSize := by
    rw [← Utf8.length_encode, Utf8.encode_eq]
    exact Utf8.length_le_encoded source.toList
  have settings := Preamble.within_read bits context source.toList
  unfold compile
  refine .bind (settings.widen chars_le) fun head inside => ?_
  have body := within_ofText head.dialect head.modes (head.body source)
  cases made : ofText head.dialect head.modes (head.body source) with
  | ok program => exact .ok trivial
  | error fault =>
      rw [made] at body
      exact .error (body.after (Preamble.length_body inside))

end Program

/-! ## Patterns -/

/-- Every number of a fault is above 100. -/
theorem PatternFault.Cause.lt_code (cause : PatternFault.Cause) : 100 < cause.code := by
  cases cause <;> decide

/-- What is reported of a fault that stands in a text. -/
theorem PatternFault.Within.toError {n : Nat} {fault : PatternFault} (within : fault.Within n) :
    fault.toError.domain = .compile ∧ 100 < fault.toError.code ∧
      ∃ k, fault.toError.offset = some k ∧ k ≤ n := by
  refine ⟨rfl, Int.ofNat_lt.mpr fault.cause.lt_code, fault.offset.getD 0, rfl, ?_⟩
  cases offset : fault.offset with
  | none => exact Nat.zero_le n
  | some k => exact within k offset

namespace Pattern

variable {source : String} {options : CompileOptions} {e : Error}

/-- **An error in compiling is an error of the pattern**: its number is above 100, and it points to
a place in the pattern or to its end. -/
theorem fault_inside (apart : options.NoConflict) (eq : compile source options = .error e) :
    e.domain = .compile ∧ 100 < e.code ∧ ∃ k, e.offset = some k ∧ k ≤ source.utf8ByteSize := by
  obtain ⟨resolved, known⟩ := apart.resolve
  rw [compile_unfold] at eq
  rw [known] at eq
  change CompileContext.ofOptions resolved >>= _ = _ at eq
  rw [CompileContext.ofOptions_eq] at eq
  dsimp only [bind, Except.bind] at eq
  generalize CompileContext.mk _ _ = context at eq
  have within := Program.within_compile source ⟨resolved.native⟩ context
  split at eq
  · cases eq
  · rename_i fault made
    obtain rfl := Except.error.inj eq
    rw [made] at within
    exact PatternFault.Within.toError within

/-- A class that is not closed is reported at the end of the pattern. -/
theorem fault_inside_at_end : CompileOptions.newlineLf.NoConflict ∧
    ∃ e, compile "(*UTF)(*CR)é[é" .newlineLf = .error e ∧ e.domain = .compile ∧ 100 < e.code ∧
      ∃ k, e.offset = some k ∧ k ≤ "(*UTF)(*CR)é[é".utf8ByteSize := by
  have apart : CompileOptions.newlineLf.NoConflict := by decide
  cases eq : compile "(*UTF)(*CR)é[é" .newlineLf with
  | ok p =>
      have refused : (compile "(*UTF)(*CR)é[é" .newlineLf).isOk = false := by decide +kernel
      rw [eq] at refused
      cases refused
  | error e => exact ⟨apart, e, rfl, fault_inside apart eq⟩

end Pattern

end Regex
