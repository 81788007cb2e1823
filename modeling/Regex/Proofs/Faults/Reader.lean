import Regex.Proofs.Faults.Bracket
import Regex.Proofs.Faults.Items
import Regex.Proofs.Syntax.Reader

/-!
# Faults in a pattern's text

Reading goes through a text once.  It never stands beyond the end, and the offsets that it keeps for
later are offsets of places that it has been at.

* `Reader.Inside`: the place reached and all offsets kept so far are in the text.
* `Reader.within_step`: one more step keeps to the text, and a fault in it stands there.
* `within_readPattern`: so does a whole pattern.
-/

namespace Regex.Syntax

open Chars Reading

/-! ## What has been read -/

/-- All offsets in some branches stand in a text of `n` bytes. -/
structure Body.Within (n : Nat) (b : Body) : Prop where
  done : BranchesWithin n b.done
  items : ItemsWithin n b.items

namespace Body

variable {n : Nat} {b : Body}

theorem within_empty : Body.empty.Within n := ⟨trivial, trivial⟩

theorem Within.split (within : b.Within n) : b.split.Within n := by
  refine ⟨⟨?_, within.done⟩, trivial⟩
  rw [itemsWithin_iff]
  exact fun e mem => itemsWithin_iff.mp within.items e (List.mem_reverse.mp mem)

theorem Within.branches (within : b.Within n) : BranchesWithin n b.branches := by
  rw [branchesWithin_iff]
  exact fun items mem =>
    branchesWithin_iff.mp within.split.done items (List.mem_reverse.mp mem)

end Body

/-- The offsets of an open group stand in a text of `n` bytes. -/
structure OpenGroup.Within (n : Nat) (g : OpenGroup) : Prop where
  kind : g.kind.Within n g.offset
  offset : ∀ k ∈ g.offset, k ≤ n
  outer : g.outer.Within n

/-- The place reached and all offsets kept so far are in the text. -/
structure Reader.Inside (s : Source) (r : Reader) : Prop where
  place : r.place ≤ s.size
  body : r.body.Within s.length
  stack : ∀ g ∈ r.stack, g.Within s.length
  firstRefs : ∀ ref ∈ r.firstRefs, ref.2 ≤ s.length

namespace Reader

variable {r : Reader} {s : Source} {d : Dialect} {i next : Nat}

theorem inside_initial (modes : Modes) : (initial modes).Inside s :=
  ⟨Nat.zero_le _, Body.within_empty, by simp [initial], by simp [initial]⟩

theorem Inside.of_eq (inside : r.Inside s) {r' : Reader} (place : r'.place ≤ s.size)
    (body : r'.body = r.body) (stack : r'.stack = r.stack) (refs : r'.firstRefs = r.firstRefs) :
    r'.Inside s := by
  refine ⟨place, ?_, ?_, ?_⟩
  · rw [body]
    exact inside.body
  · rw [stack]
    exact inside.stack
  · rw [refs]
    exact inside.firstRefs

theorem Inside.put (inside : r.Inside s) {e : Expr} (item : e.Within s.length) (count : Nat)
    (next_le : next ≤ s.size) : (r.put e count next).Inside s :=
  ⟨next_le, ⟨inside.body.done, item, inside.body.items⟩, inside.stack, inside.firstRefs⟩

theorem Inside.putChar (inside : r.Inside s) (c : Nat) (next_le : next ≤ s.size) :
    (r.putChar d c next).Inside s :=
  inside.put (by trivial) _ next_le

theorem Inside.openGroup (inside : r.Inside s) {kind : GroupKind} (start : Nat)
    {offset : Option Nat} (extra : kind.Within s.length offset)
    (within : ∀ k ∈ offset, k ≤ s.length) (next_le : next ≤ s.size) :
    (r.openGroup kind start offset next).Inside s := by
  refine ⟨next_le, Body.within_empty, fun g mem => ?_, inside.firstRefs⟩
  rcases List.mem_cons.mp mem with rfl | mem
  · exact ⟨extra, within, inside.body⟩
  · exact inside.stack g mem

theorem Inside.onGroup (inside : r.Inside s) {f : OpenGroup → OpenGroup}
    (same : ∀ g, (f g).kind = g.kind ∧ (f g).offset = g.offset ∧ (f g).outer = g.outer) :
    (r.onGroup f).Inside s := by
  unfold Reader.onGroup
  split
  · rename_i g rest stack
    have known := inside.stack
    rw [stack, List.forall_mem_cons] at known
    refine ⟨inside.place, inside.body, List.forall_mem_cons.mpr ⟨?_, known.2⟩, inside.firstRefs⟩
    obtain ⟨kind, offset, outer⟩ := same g
    refine ⟨?_, ?_, ?_⟩
    · rw [kind, offset]
      exact known.1.kind
    · rw [offset]
      exact known.1.offset
    · rw [outer]
      exact known.1.outer
  · exact inside

theorem Inside.nextBranch (inside : r.Inside s) (next_le : next ≤ s.size) :
    (r.nextBranch next).Inside s := by
  have split : ({ r with body := r.body.split, place := next } : Reader).Inside s :=
    ⟨next_le, inside.body.split, inside.stack, inside.firstRefs⟩
  unfold Reader.nextBranch
  dsimp only
  split
  · rename_i g rest stack
    split
    · have known := inside.stack
      rw [stack, List.forall_mem_cons] at known
      refine ⟨next_le, inside.body.split, List.forall_mem_cons.mpr ⟨?_, known.2⟩, inside.firstRefs⟩
      exact ⟨known.1.kind, known.1.offset, known.1.outer⟩
    · exact split
  · exact split

theorem Inside.qualify (inside : r.Inside s) (possessive : Bool) (next_le : next ≤ s.size) :
    (r.qualify possessive next).Inside s := by
  have items := inside.body.items
  unfold Reader.qualify
  dsimp only
  split
  · rename_i eq
    rw [eq] at items
    exact ⟨next_le, ⟨inside.body.done, items.1, items.2⟩, inside.stack, inside.firstRefs⟩
  · exact ⟨next_le, ⟨inside.body.done, items⟩, inside.stack, inside.firstRefs⟩

variable (formed : s.Formed)

include formed

/-- The offset of a place of the text. -/
theorem offset_within (inside : i ≤ s.size) : ∀ k ∈ some (s.offset i), k ≤ s.length :=
  le_of_mem_some (formed.offset_le inside)

theorem Inside.openAssertion (inside : r.Inside s) {kind : GroupKind} (start : Nat)
    (extra : kind.Within s.length (some (s.offset i))) (offset_le : i ≤ s.size)
    (next_le : next ≤ s.size) (condition : Bool) :
    (r.openAssertion kind start (s.offset i) next condition).Inside s :=
  (inside.openGroup start extra (offset_within formed offset_le) next_le).onGroup
    fun _ => ⟨rfl, rfl, rfl⟩

theorem Inside.closeGroup (inside : r.Inside s) (next_le : next ≤ s.size) :
    Within s.length (r.closeGroup s next) (·.Inside s) := by
  unfold Reader.closeGroup
  split
  · exact within_fault formed ((Nat.sub_le _ _).trans next_le)
  · rename_i g rest stack
    have known := inside.stack
    rw [stack, List.forall_mem_cons] at known
    obtain ⟨group, others⟩ := known
    -- the branches of some groups are put into an atomic group of their own
    have whole : BranchesWithin s.length (if g.atomicInside then
        [[.group .atomic g.start next g.offset r.body.branches]] else r.body.branches) := by
      split_ifs
      · exact ⟨⟨⟨trivial, group.offset, inside.body.branches⟩, trivial⟩, trivial⟩
      · exact inside.body.branches
    exact .ok ⟨next_le, ⟨group.outer.done, ⟨group.kind, group.offset, whole⟩, group.outer.items⟩,
      others, inside.firstRefs⟩

theorem Inside.quantify (inside : r.Inside s) (min : Nat) (max : Option Nat)
    (next_le : next ≤ s.size) : Within s.length (r.quantify s min max next) (·.Inside s) := by
  have items := inside.body.items
  have before : next - 1 ≤ s.size := (Nat.sub_le _ _).trans next_le
  unfold Reader.quantify
  dsimp only
  split
  · exact within_fault formed before
  · exact within_fault formed before
  · rename_i rest eq _
    rw [eq, itemsWithin_iff] at items
    refine .ok ⟨next_le, ⟨inside.body.done, ⟨trivial, nofun, ?_, trivial⟩, ?_⟩, inside.stack,
      inside.firstRefs⟩
    · rw [itemsWithin_iff]
      exact fun e mem => items e (List.mem_of_mem_take (List.mem_reverse.mp mem))
    · rw [itemsWithin_iff]
      exact fun e mem => items e (List.mem_cons_of_mem _ (List.mem_of_mem_drop mem))
  · rename_i eq _
    rw [eq] at items
    exact .ok ⟨next_le, ⟨inside.body.done, items.1, items.2⟩, inside.stack, inside.firstRefs⟩

/-! ## Groups -/

omit formed in
/-- There is a character at the place of a delimiter. -/
theorem lt_of_delimiter? {c : Char} (found : delimiter? s i = some c) : i < s.size := by
  unfold delimiter? at found
  split at found
  · exact Source.lt_of_get? (by assumption)
  · exact Source.lt_of_get? (by assumption)
  · exact Source.lt_of_get? (by assumption)
  · cases found

/-- The offsets of a list of groups are those of its entries. -/
theorem within_readGroupList (fuel : Nat) (inside : i ≤ s.size) {groups : List (GroupRef × Nat)}
    (known : ∀ g ∈ groups, g.2 ≤ s.length) :
    Within s.length (r.readGroupList s d fuel i groups) fun found =>
      (∀ g ∈ found.1, g.2 ≤ s.length) ∧ found.2 ≤ s.size := by
  induction fuel generalizing i groups with
  | zero =>
      unfold readGroupList
      exact within_fault formed (Nat.le_refl _)
  | succ fuel ih =>
      unfold readGroupList
      extract_lets finish entry
      have finish : ∀ found : GroupRef × Nat × Nat, found.2.1 ≤ s.length → found.2.2 ≤ s.size →
          Within s.length (finish found) fun found =>
            (∀ g ∈ found.1, g.2 ≤ s.length) ∧ found.2 ≤ s.size := by
        rintro ⟨group, offset, stop⟩ offset_le stop_le
        have known' : ∀ g ∈ (group, offset) :: groups, g.2 ≤ s.length :=
          List.forall_mem_cons.mpr ⟨offset_le, known⟩
        unfold finish
        dsimp only
        split
        · exact within_fault formed stop_le
        · rename_i unit
          exact .ok ⟨fun g mem => known' g (List.mem_reverse.mp mem), Source.lt_of_get? unit⟩
        · rename_i unit
          exact ih (Source.lt_of_get? unit) known'
        · exact within_fault formed stop_le
      split
      · exact within_fault formed inside
      refine .bind (s.within_readGroupNumber formed inside r.groups) fun number ends => ?_
      split
      · exact within_fault formed ends
      · exact finish (_, _, _) (formed.offset_le inside) ends
      · split
        · rename_i terminator eq
          split_ifs at eq
          refine .bind (s.within_readGroupName formed (lt_of_delimiter? eq) _ _)
            fun ⟨name, start, stop⟩ found => ?_
          have start_le : start ≤ s.size := Nat.le_of_add_right_le found.1
          exact finish (_, _, _) (formed.offset_le start_le) found.2.2
        · exact within_fault formed inside

omit formed in
/-- No word of a group is for one that keeps offsets. -/
theorem within_of_mem_words {name : String} {form : WordForm} (mem : (name, form) ∈ words)
    {kind : GroupKind} (known : form = .group kind ∨ form = .behind kind) {n : Nat}
    {offset : Option Nat} : kind.Within n offset := by
  simp only [words, List.mem_cons, Prod.mk.injEq, List.not_mem_nil, or_false] at mem
  rcases known with rfl | rfl
  all_goals
    simp only [WordForm.group.injEq, WordForm.behind.injEq, reduceCtorEq, and_false, or_false,
      false_or] at mem
  · rcases mem with ⟨-, rfl⟩ | ⟨-, rfl⟩ | ⟨-, rfl⟩ | ⟨-, rfl⟩ | ⟨-, rfl⟩ | ⟨-, rfl⟩ | ⟨-, rfl⟩ |
      ⟨-, rfl⟩ | ⟨-, rfl⟩ <;> trivial
  · rcases mem with ⟨-, rfl⟩ | ⟨-, rfl⟩ | ⟨-, rfl⟩ | ⟨-, rfl⟩ | ⟨-, rfl⟩ | ⟨-, rfl⟩ <;> trivial

theorem Inside.readWordGroup (inside : r.Inside s) {start : Nat} (start_le : start ≤ s.size)
    (place_le : i ≤ s.size) (condition : Bool) :
    Within s.length (r.readWordGroup s d start i condition) (·.Inside s) := by
  unfold Reader.readWordGroup
  refine .bind (s.within_readWord formed place_le) fun ⟨word, stop⟩ stop_le => ?_
  dsimp only at stop_le ⊢
  have before : stop - 3 ≤ s.size := (Nat.sub_le _ _).trans stop_le
  split
  · exact within_fault formed stop_le
  rename_i colon
  have next_le : stop + 1 ≤ s.size := Source.lt_of_not_missing colon
  split
  · exact within_fault formed stop_le
  · rename_i form known
    have known := mem_of_lookup known
    split
    · exact within_fault formed stop_le
    split
    · refine .ok (inside.openAssertion formed _ ?_ start_le next_le _)
      exact within_of_mem_words known (Or.inl rfl)
    · refine .ok (inside.openAssertion formed _ ?_ before next_le _)
      exact within_of_mem_words known (Or.inr rfl)
    · refine .ok (Inside.onGroup ?_ fun _ => ⟨rfl, rfl, rfl⟩)
      exact inside.openGroup _ trivial (offset_within formed start_le) next_le
    · split
      · exact within_fault formed next_le
      split
      · exact within_fault formed next_le
      · rename_i bracket
        refine .bind (within_readGroupList formed _ (Source.lt_of_not_missing bracket) nofun)
          fun ⟨groups, next⟩ found => ?_
        exact .ok (inside.openGroup _ found.1 (offset_within formed start_le) found.2)

omit formed in
theorem modeLetter?_le {on set : Modes} {width : Nat}
    (found : modeLetter? s i on = some (set, width)) : i + width ≤ s.size := by
  unfold modeLetter? at found
  split at found
  all_goals cases found
  all_goals first
    | exact Source.lt_of_get? (by assumption : s.get? (i + 1) = some _)
    | exact Source.lt_of_get? (by assumption : s.get? i = some _)

theorem within_readModes (fuel : Nat) (inside : i ≤ s.size) (set unset : Modes)
    (unsetting hyphen : Bool) :
    Within s.length (readModes s fuel i set unset unsetting hyphen) fun found =>
      found.2.2 < s.size := by
  fun_induction readModes s fuel i set unset unsetting hyphen with
  | case1 => exact within_fault formed inside
  | case2 => exact within_fault formed inside
  | case3 i set unset unsetting hyphen fuel c unit stops => exact .ok (Source.lt_of_get? unit)
  | case4 i set unset unsetting fuel c unit goes minus ih => exact ih (Source.lt_of_get? unit)
  | case5 => exact within_fault formed inside
  | case6 => exact within_fault formed inside
  | case7 i set unset hyphen fuel c unit goes letter on width found ih =>
      exact ih (modeLetter?_le found)
  | case8 i set unset unsetting hyphen fuel c unit goes letter on width found off ih =>
      exact ih (modeLetter?_le found)

theorem Inside.readSwitch (inside : r.Inside s) {start : Nat} (start_le : start ≤ s.size)
    (place_le : i ≤ s.size) : Within s.length (r.readSwitch s start i) (·.Inside s) := by
  unfold Reader.readSwitch
  extract_lets cleared
  have letters_le : (if cleared = true then i + 1 else i) ≤ s.size := by
    split_ifs with caret
    · exact Source.lt_of_has caret
    · exact place_le
  refine .bind (within_readModes formed _ letters_le _ _ _ _) fun ⟨set, unset, stop⟩ stop_lt => ?_
  dsimp only
  generalize (if cleared = true then r.modes.clear else r.modes).switch set unset = modes
  split_ifs
  · exact .ok (inside.of_eq stop_lt rfl rfl rfl)
  · have opened : (r.openGroup .plain start (s.offset start) (stop + 1)).Inside s :=
      inside.openGroup _ trivial (offset_within formed start_le) stop_lt
    exact .ok (opened.of_eq stop_lt rfl rfl rfl)

theorem Inside.readNamedGroup (inside : r.Inside s) {start : Nat} (start_le : start ≤ s.size)
    (place_le : i ≤ s.size) (terminator : Char) :
    Within s.length (r.readNamedGroup s d start i terminator) (·.Inside s) := by
  unfold Reader.readNamedGroup
  refine .bind (s.within_readGroupName formed place_le _ _) fun ⟨text, place, next⟩ found => ?_
  have next_le : next ≤ s.size := found.2.2
  dsimp only
  split
  · exact within_fault formed next_le
  split
  · exact within_fault formed next_le
  split
  · exact within_fault formed next_le
  · refine .ok (Inside.openGroup ?_ _ trivial (offset_within formed start_le) next_le)
    exact inside.of_eq inside.place rfl rfl rfl

theorem Inside.readCapture (inside : r.Inside s) {start : Nat} (start_lt : start < s.size) :
    Within s.length (r.readCapture s start) (·.Inside s) := by
  have offset_le := offset_within formed (Nat.le_of_lt start_lt)
  unfold Reader.readCapture
  dsimp only
  split_ifs
  · exact .ok (inside.openGroup _ trivial offset_le start_lt)
  · exact within_fault formed start_lt
  · refine .ok (Inside.openGroup ?_ _ trivial offset_le start_lt)
    exact inside.of_eq inside.place rfl rfl rfl

theorem within_readVersion (inside : i ≤ s.size) :
    Within s.length (readVersion s i) fun found => found.2 ≤ s.size := by
  unfold readVersion
  have start_le : (if s.has i '>' then (true, i + 1) else (false, i)).2 ≤ s.size := by
    split_ifs with greater
    · exact Source.lt_of_has greater
    · exact inside
  generalize (if s.has i '>' then (true, i + 1) else (false, i)) = start at start_le
  obtain ⟨atLeast, i⟩ := start
  dsimp only at start_le ⊢
  split
  · exact within_fault formed start_le
  rename_i equals
  have number_le : i + 1 ≤ s.size := Source.lt_of_not_missing equals
  refine .bind (s.within_readNumber formed number_le _ _) fun major ends => ?_
  split
  · exact within_fault formed number_le
  rename_i major stop
  split
  · rename_i point
    split
    · exact within_fault formed (Source.lt_of_has point)
    rename_i digit
    rw [Bool.not_eq_true', Bool.not_eq_false] at digit
    have tens_le : stop + 2 ≤ s.size := Source.lt_of_hasDigit digit
    split
    · exact within_fault formed tens_le
    have next_le : (if s.hasDigit (stop + 2) then
        (Source.valueOf 9 (s.slice (stop + 2) (stop + 3)), stop + 3) else (0, stop + 2)).2 ≤
          s.size := by
      split_ifs with more
      · exact Source.lt_of_hasDigit more
      · exact tens_le
    generalize (if s.hasDigit (stop + 2) then
        (Source.valueOf 9 (s.slice (stop + 2) (stop + 3)), stop + 3) else (0, stop + 2)) =
          ones at next_le
    obtain ⟨ones, next⟩ := ones
    dsimp only at next_le ⊢
    split
    · exact within_fault formed next_le
    · exact .ok next_le
  · split
    · exact within_fault formed ends
    · exact .ok ends

/-- A condition keeps offsets of the text. -/
theorem within_readCondition (inside : i ≤ s.size) :
    Within s.length (r.readCondition s d i) fun found =>
      (GroupKind.conditional found.1).Within s.length found.2.1 ∧
        (∀ k ∈ found.2.1, k ≤ s.length) ∧ found.2.2 ≤ s.size := by
  unfold readCondition
  refine .bind (s.within_readGroupNumber formed inside r.groups) fun number ends => ?_
  split
  · exact within_fault formed ends
  · rename_i n stop _
    exact .ok ⟨trivial, le_of_mem_some ((Nat.sub_le _ _).trans (formed.offset_le ends)), ends⟩
  split
  · rename_i word
    rw [Bool.and_eq_true, Bool.and_eq_true] at word
    refine .bind (within_readVersion formed (Source.le_of_hasText word.1.2 inside))
      fun ⟨holds, stop⟩ stop_le => ?_
    exact .ok ⟨trivial, nofun, stop_le⟩
  split
  · rename_i call
    refine .bind (s.within_readGroupName formed (Source.le_of_hasText call inside) _ _)
      fun ⟨name, start, next⟩ found => ?_
    have start_le : start ≤ s.size := Nat.le_of_add_right_le found.1
    exact .ok ⟨trivial, offset_within formed start_le, (Nat.sub_le _ _).trans found.2.2⟩
  split
  · rename_i terminator eq
    split_ifs at eq
    refine .bind (s.within_readGroupName formed (lt_of_delimiter? eq) _ _)
      fun ⟨name, start, next⟩ found => ?_
    have start_le : start ≤ s.size := Nat.le_of_add_right_le found.1
    exact .ok ⟨trivial, offset_within formed start_le, found.2.2⟩
  · refine .bind (s.within_readGroupName formed inside _ _) fun ⟨name, start, next⟩ found => ?_
    have stop_le : start + name.length ≤ s.size := found.1
    have start_le : start ≤ s.size := Nat.le_of_add_right_le stop_le
    refine .ok ⟨?_, offset_within formed start_le, (Nat.sub_le _ _).trans found.2.2⟩
    dsimp only
    split_ifs
    · trivial
    · rintro k ⟨⟩
      have := formed.offset_add_le (Nat.le_add_right start name.length) stop_le
      have := formed.offset_le stop_le
      omega
    · trivial

theorem Inside.readConditional (inside : r.Inside s) (start : Nat) (place_le : i ≤ s.size) :
    Within s.length (r.readConditional s d start i) (·.Inside s) := by
  have before : i - 1 ≤ s.size := (Nat.sub_le _ _).trans place_le
  unfold Reader.readConditional
  split
  · exact within_fault formed place_le
  split
  · have opened : (r.openGroup (.conditional .assertion) start none (i - 1)).Inside s :=
      inside.openGroup _ trivial nofun before
    exact .ok (opened.of_eq before rfl rfl rfl)
  · refine .bind (within_readCondition formed place_le) fun ⟨condition, offset, stop⟩ found => ?_
    dsimp only at found ⊢
    split
    · exact within_fault formed found.2.2
    · rename_i closed
      exact .ok (inside.openGroup _ found.1 found.2.1 (Source.lt_of_not_missing closed))

/-! ## Calls -/

theorem Inside.putCall (inside : r.Inside s) (group : GroupRef) (offset_le : i ≤ s.size)
    (next_le : next ≤ s.size) : (r.putCall s group i next).Inside s :=
  inside.put (by exact formed.offset_le offset_le) _ next_le

theorem Inside.readCallName (inside : r.Inside s) (place_le : i ≤ s.size) :
    Within s.length (r.readCallName s d i) (·.Inside s) := by
  unfold Reader.readCallName
  split
  · exact within_fault formed place_le
  rename_i terminator found
  have next_le : i + 1 ≤ s.size := lt_of_delimiter? found
  refine .bind (s.within_readGroupNumber formed next_le r.groups) fun number ends => ?_
  split
  · split_ifs with closed
    · exact .ok (inside.putCall formed _ ends (Source.lt_of_has closed))
    · exact within_fault formed ends
  · refine .bind (s.within_readGroupName formed next_le _ _) fun ⟨name, start, next⟩ found => ?_
    exact .ok (inside.putCall formed _ (Nat.le_of_add_right_le found.1) found.2.2)

theorem Inside.readCallNumber (inside : r.Inside s) (place_le : i ≤ s.size) :
    Within s.length (r.readCallNumber s i) (·.Inside s) := by
  unfold Reader.readCallNumber
  refine .bind (s.within_readGroupNumber formed place_le r.groups) fun number ends => ?_
  split
  · exact within_fault formed place_le
  · split
    · rename_i closed
      exact .ok (inside.putCall formed _ ends (Source.lt_of_has closed))
    · exact within_fault formed ends

theorem Inside.readCallByName (inside : r.Inside s) (place_le : i ≤ s.size) :
    Within s.length (r.readCallByName s d i) (·.Inside s) := by
  unfold Reader.readCallByName
  refine .bind (s.within_readGroupName formed place_le _ _) fun ⟨name, start, next⟩ found => ?_
  exact .ok (inside.putCall formed _ (Nat.le_of_add_right_le found.1) found.2.2)

/-! ## Items -/

theorem Inside.putBackrefName (inside : r.Inside s) (name : List Char) (offset_le : i ≤ s.size)
    (next_le : next ≤ s.size) : (r.putBackrefName s d name i next).Inside s :=
  inside.put (by exact formed.offset_le offset_le) _ next_le

omit formed in
theorem Inside.putBackref (inside : r.Inside s) (n : Nat) {offset : Nat}
    (offset_le : offset ≤ s.length) (next_le : next ≤ s.size) :
    (r.putBackref d n offset next).Inside s := by
  unfold Reader.putBackref
  extract_lets known counted
  have known_le : known.getD offset ≤ s.length := by
    cases found : known with
    | none => exact offset_le
    | some first => exact inside.firstRefs _ (mem_of_lookup found)
  have counted : counted.Inside s := by
    unfold counted
    split_ifs
    · exact ⟨inside.place, inside.body, inside.stack,
        List.forall_mem_cons.mpr ⟨offset_le, inside.firstRefs⟩⟩
    · exact inside
  exact counted.put (by exact known_le) _ next_le

theorem Inside.readEscape (inside : r.Inside s) (place_le : i + 1 ≤ s.size) :
    Within s.length (r.readEscape s d i) (·.Inside s) := by
  unfold Reader.readEscape
  refine .bind (s.within_readEscape formed _ place_le) fun ⟨e, next⟩ next_le => ?_
  dsimp only at next_le ⊢
  cases e with
  | char c => exact .ok (inside.putChar _ next_le)
  | property negated =>
      refine .bind (s.within_readProperty formed next_le) fun ⟨p, inverted, next⟩ next_le => ?_
      exact .ok (inside.put (by trivial) _ next_le)
  | byte =>
      dsimp only
      split_ifs
      · exact within_fault formed next_le
      · exact .ok (inside.put (by trivial) _ next_le)
      · exact .ok (inside.put (by trivial) _ next_le)
  | quote => exact .ok (inside.of_eq next_le rfl rfl rfl)
  | endQuote => exact .ok (inside.of_eq next_le rfl rfl rfl)
  | backref n =>
      have before : next - 1 ≤ s.size := (Nat.sub_le _ _).trans next_le
      exact .ok (inside.putBackref _ (formed.offset_le before) next_le)
  | backrefName =>
      dsimp only
      split
      · exact within_fault formed next_le
      · rename_i terminator found
        refine .bind (s.within_readGroupName formed (lt_of_delimiter? found) _ _)
          fun ⟨name, start, next⟩ found => ?_
        exact .ok (inside.putBackrefName formed _ (Nat.le_of_add_right_le found.1) found.2.2)
  | callName => exact inside.readCallName formed next_le
  | _ => exact .ok (inside.put (by trivial) _ next_le)

omit formed in
/-- A class that has been read is put as an item. -/
theorem Inside.putClass (inside : r.Inside s) {x : Reading (ClassResult × Nat)}
    (within : Within s.length x fun found => found.2 ≤ s.size) :
    Within s.length (x >>= fun found =>
      match found with
      | (.set tree, next) => return r.put (.charClass tree (Casing.of d r.modes)) 1 next
      | (.empty negated, next) => return r.put (.emptyClass negated) 1 next) (·.Inside s) := by
  refine .bind within fun found next_le => ?_
  split
  · exact .ok (inside.put (by trivial) _ next_le)
  · exact .ok (inside.put (by trivial) _ next_le)

theorem Inside.readBracket (inside : r.Inside s) (place_le : i + 1 ≤ s.size) :
    Within s.length (r.readBracket s d i) (·.Inside s) := by
  unfold Reader.readBracket
  extract_lets next edge wordEdge mode
  have edge : edge.Inside s := inside.put (by trivial) _ place_le
  have wordEdge : ∀ {kind : GroupKind}, kind.Within s.length none → i + 7 ≤ s.size →
      (wordEdge kind).Inside s :=
    fun extra stop_le => edge.put (by exact ⟨extra, nofun, ⟨trivial, trivial⟩, trivial⟩) 1 stop_le
  split_ifs with opens closes
  · exact .ok (wordEdge trivial (Source.le_of_hasText opens place_le))
  · exact .ok (wordEdge trivial (Source.le_of_hasText closes place_le))
  · exact within_fault formed (Nat.le_of_succ_le place_le)
  · exact within_fault formed (Nat.le_of_succ_le place_le)
  · exact inside.putClass (s.within_readClass formed _ _ place_le)

omit formed in
/-- A line ending takes two characters only where another one follows. -/
theorem span_le (n : Newline) (c : Nat) {next : Option Nat} {k : Nat} (one : 1 ≤ k)
    (two : next.isSome → 2 ≤ k) : n.span c next ≤ k := by
  have alone : ∀ ends : Bool, (if ends then 1 else 0) ≤ k := by
    intro ends
    split_ifs <;> omega
  have pair : ∀ width : Nat, width ≤ k →
      (if (c == 0x0D && next == some 0x0A) = true then 2 else width) ≤ k := by
    intro width width_le
    split_ifs with both
    · rw [Bool.and_eq_true, beq_iff_eq, beq_iff_eq] at both
      exact two (by rw [both.2]; rfl)
    · exact width_le
  cases n with
  | cr => exact alone _
  | lf => exact alone _
  | nul => exact alone _
  | crlf => exact pair 0 (Nat.zero_le k)
  | anyCrlf => exact pair _ (alone _)
  | any => exact pair _ (alone _)

omit formed in
theorem skipLine_le (n : Newline) (fuel : Nat) (inside : i ≤ s.size) :
    s.skipLine n fuel i ≤ s.size := by
  induction fuel generalizing i with
  | zero => exact inside
  | succ fuel ih =>
      unfold Source.skipLine
      cases unit : s.get? i with
      | none => exact inside
      | some c =>
        dsimp only
        have width_le : n.span c.toNat ((s.get? (i + 1)).map Char.toNat) ≤ s.size - i := by
          refine span_le n _ (Nat.sub_pos_of_lt (Source.lt_of_get? unit)) fun more => ?_
          rw [Option.isSome_map] at more
          obtain ⟨_, unit⟩ := Option.isSome_iff_exists.mp more
          have := Source.lt_of_get? unit
          omega
        split
        · exact ih (Source.lt_of_get? unit)
        · have := Source.lt_of_get? unit
          omega

theorem within_readVerbName (start fuel : Nat) (inside : i ≤ s.size) (quoted : Bool)
    (name : List Char) :
    Within s.length (r.readVerbName s d start fuel i quoted name) fun found =>
      found.2 ≤ s.size := by
  induction fuel generalizing i quoted name with
  | zero => exact within_fault formed (Nat.le_refl _)
  | succ fuel ih =>
      unfold readVerbName
      extract_lets escapes
      cases unit : s.get? i with
      | none => exact within_fault formed (Nat.le_refl _)
      | some c =>
        have next_le : i + 1 ≤ s.size := Source.lt_of_get? unit
        dsimp only
        split_ifs with _ ends
        · exact ih (Source.le_of_hasText ends inside) _ _
        · exact ih next_le _ _
        · exact ih next_le _ _
        · exact ih (skipLine_le _ _ next_le) _ _
        · exact within_fault formed inside
        · exact .ok next_le
        · refine .bind (s.within_readEscape formed _ next_le) fun ⟨e, next⟩ next_le => ?_
          dsimp only at next_le ⊢
          split
          · exact ih next_le _ _
          · exact ih next_le _ _
          · exact ih next_le _ _
          · exact within_fault formed next_le
        · exact ih next_le _ _

omit formed in
/-- What a verb stands for keeps no offsets. -/
theorem within_of_mem_verbs {name : String} {e : Expr} (mem : (name, .marked e) ∈ verbs) {n : Nat} :
    e.Within n := by
  simp only [verbs, List.mem_cons, Prod.mk.injEq, VerbForm.marked.injEq, reduceCtorEq, and_false,
    List.not_mem_nil, or_false, false_or] at mem
  rcases mem with ⟨_, rfl⟩ | ⟨_, rfl⟩ | ⟨_, rfl⟩ <;> trivial

theorem Inside.readVerb (inside : r.Inside s) (place_le : i ≤ s.size) :
    Within s.length (r.readVerb s d i) (·.Inside s) := by
  unfold Reader.readVerb
  refine .bind (s.within_readWord formed place_le) fun ⟨word, stop⟩ stop_le => ?_
  dsimp only at stop_le ⊢
  split
  · exact within_fault formed stop_le
  rename_i ends
  split
  · exact within_fault formed stop_le
  rename_i form known
  have known := mem_of_lookup known
  have stop_lt : (if s.hasText stop [':', ')'] then stop + 1 else stop) < s.size := by
    split_ifs with both
    · have := Source.le_of_hasText both stop_le
      exact this
    · rw [Bool.not_eq_true', Bool.not_eq_false, Bool.or_eq_true] at ends
      exact ends.elim Source.lt_of_has Source.lt_of_has
  generalize (if s.hasText stop [':', ')'] then stop + 1 else stop) = stop at stop_lt
  split
  · refine .bind (within_readVerbName formed _ _ stop_lt _ _) fun ⟨name, next⟩ next_le => ?_
    dsimp only at next_le ⊢
    split
    · exact .ok (inside.put (by trivial) _ next_le)
    · exact .ok (inside.put (by trivial) _ next_le)
    · have mark : (r.put (.verb .mark name) 0 next).Inside s :=
        inside.put (by trivial) _ next_le
      exact .ok (mark.put (within_of_mem_verbs known) _ next_le)
  · split
    · exact within_fault formed (Nat.le_of_lt stop_lt)
    · exact .ok (inside.put (by trivial) _ stop_lt)
    · exact .ok (inside.put (within_of_mem_verbs known) _ stop_lt)

omit formed in
theorem skipCalloutText?_le {delimiter : Char} {fuel stop : Nat}
    (found : skipCalloutText? s delimiter fuel i = some stop) : stop ≤ s.size := by
  fun_induction skipCalloutText? s delimiter fuel i with
  | case1 => cases found
  | case2 => cases found
  | case3 i fuel c unit same twice ih => exact ih found
  | case4 i fuel c unit same once =>
      cases found
      exact Source.lt_of_get? unit
  | case5 i fuel c unit other ih => exact ih found

theorem Inside.readCallout (inside : r.Inside s) (place_le : i ≤ s.size) (expected : Nat) :
    Within s.length (r.readCallout s i expected) (·.Inside s) := by
  unfold Reader.readCallout
  split
  · exact within_fault formed place_le
  · extract_lets finish stop digits small
    have finish : ∀ found : Nat × Nat, found.2 ≤ s.size →
        Within s.length (finish found) (·.Inside s) := by
      rintro ⟨width, stop⟩ stop_le
      unfold finish
      dsimp only
      split
      · exact within_fault formed stop_le
      · rename_i closed
        have next_le : stop + 1 ≤ s.size := Source.lt_of_not_missing closed
        have callout : (r.put (.callout width) 0 (stop + 1)).Inside s :=
          inside.put (by trivial) _ next_le
        exact .ok (callout.of_eq next_le rfl rfl rfl)
    have stop_le : stop ≤ s.size := Source.skipDigits_le place_le
    have small_le : ∀ place ∈ small, place ≤ s.size := by
      intro place mem
      obtain ⟨k, among, found⟩ := List.exists_of_findSome?_eq_some mem
      split_ifs at found
      obtain rfl := Option.some.inj found
      have length : digits.length = min stop s.size - i := Source.length_slice i stop
      have k_le := List.mem_range.mp among
      omega
    clear_value small
    split
    · split
      · exact within_fault formed (small_le _ rfl)
      · exact finish (6, stop) stop_le
    · split
      · exact within_fault formed place_le
      split
      · exact within_fault formed place_le
      · rename_i stop found
        exact finish (_, stop) (skipCalloutText?_le found)

/-- What starts with `(?P`. -/
theorem Inside.readNamedForm (inside : r.Inside s) {start : Nat} (start_le : start ≤ s.size)
    (place_le : i ≤ s.size) : Within s.length (r.readNamedForm s d start i) (·.Inside s) := by
  unfold Reader.readNamedForm
  split
  · exact within_fault formed place_le
  · rename_i unit
    exact inside.readNamedGroup formed start_le (Source.lt_of_get? unit) _
  · rename_i unit
    exact inside.readCallByName formed (Source.lt_of_get? unit)
  · rename_i unit
    refine .bind (s.within_readGroupName formed (Source.lt_of_get? unit) _ _)
      fun ⟨name, start, next⟩ found => ?_
    exact .ok (inside.putBackrefName formed _ (Nat.le_of_add_right_le found.1) found.2.2)
  · exact within_fault formed place_le

/-- What starts with `(?`. -/
theorem Inside.readGroup (inside : r.Inside s) {start : Nat} (place_le : start + 2 ≤ s.size)
    (expected : Nat) : Within s.length (r.readGroup s d start expected) (·.Inside s) := by
  have start_le : start ≤ s.size := Nat.le_of_add_right_le place_le
  unfold Reader.readGroup
  extract_lets i condition assertion
  have assertion : ∀ {kind : GroupKind} {next : Nat},
      kind.Within s.length (some (s.offset start)) → next ≤ s.size →
        Within s.length (assertion kind next) (·.Inside s) :=
    fun extra next_le => .ok (inside.openAssertion formed _ extra start_le next_le _)
  split
  · exact within_fault formed place_le
  rename_i c unit
  have next_le : i + 1 ≤ s.size := Source.lt_of_get? unit
  split
  · have shared : ({ r with shared := true } : Reader).Inside s :=
      inside.of_eq inside.place rfl rfl rfl
    have plain : GroupKind.plain.Within s.length (some (s.offset start)) := trivial
    have opened := shared.openGroup start plain (offset_within formed start_le) next_le
    exact .ok (opened.onGroup fun _ => ⟨rfl, rfl, rfl⟩)
  · exact inside.readNamedForm formed start_le next_le
  · split_ifs with closed
    · exact .ok (inside.putCall formed _ next_le (Source.lt_of_has closed))
    · exact within_fault formed next_le
  · split_ifs
    · exact inside.readCallNumber formed place_le
    · exact within_fault formed place_le
  · exact inside.readCallByName formed next_le
  · exact inside.readCallout formed next_le _
  · exact inside.readConditional formed _ next_le
  · exact .ok (inside.openGroup _ trivial (offset_within formed start_le) next_le)
  · exact assertion trivial next_le
  · exact assertion trivial next_le
  · exact assertion trivial next_le
  · split
    · rename_i unit
      exact assertion trivial (Source.lt_of_get? unit)
    · rename_i unit
      exact assertion trivial (Source.lt_of_get? unit)
    · rename_i unit
      exact assertion trivial (Source.lt_of_get? unit)
    · exact inside.readNamedGroup formed start_le next_le _
  · exact inside.readNamedGroup formed start_le next_le _
  · exact inside.putClass (s.within_readClass formed _ _ next_le)
  · split_ifs
    · exact inside.readCallNumber formed place_le
    · exact inside.readSwitch formed start_le place_le

theorem Inside.readParenthesis (inside : r.Inside s) (place_le : i + 1 ≤ s.size)
    (expected : Nat) : Within s.length (r.readParenthesis s d i expected) (·.Inside s) := by
  have start_le : i ≤ s.size := Nat.le_of_succ_le place_le
  unfold Reader.readParenthesis
  split
  · exact within_fault formed place_le
  · rename_i asks
    exact inside.readGroup formed (Source.lt_of_get? asks) _
  · rename_i star
    have next_le : i + 2 ≤ s.size := Source.lt_of_get? star
    split
    · exact .ok (inside.of_eq place_le rfl rfl rfl)
    · exact .ok (inside.of_eq place_le rfl rfl rfl)
    · split_ifs
      · exact inside.readWordGroup formed start_le next_le _
      · exact inside.readVerb formed next_le
  · exact inside.readCapture formed place_le

theorem Inside.readItem (inside : r.Inside s) (c : Char) (place_le : i + 1 ≤ s.size) :
    Within s.length (r.readItem s d c i) (·.Inside s) := by
  unfold Reader.readItem
  extract_lets next expected r' r''
  have inside : r'.Inside s := inside.of_eq inside.place rfl rfl rfl
  split
  · exact inside.quantify formed _ _ place_le
  · exact inside.quantify formed _ _ place_le
  · exact inside.quantify formed _ _ place_le
  · refine .bind (s.within_readCounts formed place_le) fun counts found => ?_
    split
    · exact inside.quantify formed _ _ (found _ rfl)
    · exact .ok (inside.putChar _ place_le)
  · have inside : r''.Inside s := inside.of_eq inside.place rfl rfl rfl
    split
    · exact inside.readEscape formed place_le
    · exact .ok (inside.put (by trivial) _ place_le)
    · exact .ok (inside.put (by trivial) _ place_le)
    · exact .ok (inside.put (by trivial) _ place_le)
    · exact inside.readBracket formed place_le
    · exact inside.readParenthesis formed place_le _
    · exact .ok (inside.nextBranch place_le)
    · exact inside.closeGroup formed place_le
    · exact .ok (inside.putChar _ place_le)

/-- **One step of reading keeps to the text**, and a fault in it stands there. -/
theorem within_step (inside : r.Inside s) : Within s.length (r.step s d) (·.Inside s) := by
  have place_le := inside.place
  unfold step
  extract_lets i next
  split
  · exact .ok inside
  rename_i c unit
  have next_le : next ≤ s.size := Source.lt_of_get? unit
  split
  · exact within_fault formed place_le
  split
  · split
    · rename_i ends
      exact .ok (inside.of_eq (Source.le_of_hasText ends place_le) rfl rfl rfl)
    · exact .ok (inside.putChar _ next_le)
  split
  · rename_i quote
    rw [Bool.and_eq_true, Bool.or_eq_true] at quote
    have stop_le : i + 2 ≤ s.size := quote.2.elim Source.lt_of_has Source.lt_of_has
    exact .ok (inside.of_eq stop_le rfl rfl rfl)
  split
  · exact .ok (inside.of_eq next_le rfl rfl rfl)
  split
  · exact .ok (inside.of_eq (skipLine_le _ _ next_le) rfl rfl rfl)
  split
  · rename_i comment
    have start_le : i + 2 ≤ s.size :=
      Nat.le_of_succ_le (Source.le_of_hasText comment place_le)
    split
    · rename_i closed
      exact .ok (inside.of_eq (Source.lt_of_has closed) rfl rfl rfl)
    · exact within_fault formed (Source.scan_le _ start_le)
  split
  · exact within_fault formed place_le
  split
  · exact .ok (inside.qualify _ next_le)
  · exact inside.readItem formed c next_le

/-- Reading to the end keeps to it, too. -/
theorem within_run (fuel : Nat) (inside : r.Inside s) :
    Within s.length (run s d fuel r) (·.Inside s) := by
  induction fuel generalizing r with
  | zero => exact .ok inside
  | succ fuel ih =>
      have stepped := within_step formed (d := d) inside
      unfold run
      split
      · split
        · rename_i r' eq
          rw [eq] at stepped
          exact ih stepped
        · rename_i fault eq
          rw [eq] at stepped
          exact .error stepped
      · exact .ok inside

end Reader

/-- **A fault in a pattern's text stands in the text**, and so do the offsets that its items
keep. -/
theorem within_readPattern {s : Source} (formed : s.Formed) (d : Dialect) (modes : Modes) :
    Within s.length (readPattern s d modes) fun pattern =>
      BranchesWithin s.length pattern.branches := by
  unfold readPattern
  split
  · refine .ok ⟨?_, trivial⟩
    rw [itemsWithin_iff]
    intro e mem
    obtain ⟨c, _, rfl⟩ := List.mem_map.mp mem
    trivial
  · refine .bind (Reader.within_run formed _ (Reader.inside_initial modes)) fun r inside => ?_
    unfold Reader.finish
    split
    · exact .ok inside.body.branches
    · exact within_fault formed (Nat.le_refl _)

end Regex.Syntax
