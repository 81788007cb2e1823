import Regex.Proofs.Syntax.Items
import Regex.Proofs.Syntax.Marks
import Regex.Syntax.Reader

/-!
# The items that a text stands for

Reading goes through a text once and puts one item after another.  Nearly every item can come from
many places of the text; but single bytes are taken, the start of a match is moved, and groups are
called only where the mark for it stands.

* `Reading.Gives`: what holds of the result of reading, if there is one.
* `Source.Allows`: what a text allows of the simple items it is read as.
* `Reader.Holds`: a property of all simple items read so far.
* `Reader.gives_step`: one more step keeps it, if the text allows it.
* `gives_readPattern`: it holds of the whole pattern.
-/

namespace Regex.Syntax

open Chars

namespace Reading

/-- Whatever reading comes to has a property. -/
def Gives {α : Type} (x : Reading α) (Q : α → Prop) : Prop := ∀ a, x = .ok a → Q a

namespace Gives

variable {α β : Type} {x : Reading α} {f : α → Reading β} {a : α} {fault : PatternFault}
  {Q : α → Prop} {Q' : β → Prop}

theorem ok (holds : Q a) : Gives (.ok a) Q := by
  intro _ eq
  obtain rfl := Except.ok.inj eq
  exact holds

theorem error : Gives (.error fault) Q := by
  intro _ eq
  cases eq

theorem bind (first : Gives x Q) (next : ∀ a, Q a → Gives (f a) Q') : Gives (x >>= f) Q' := by
  intro b eq
  cases result : x with
  | error fault =>
      rw [result] at eq
      cases eq
  | ok a =>
      rw [result] at eq
      exact next a (first a result) b eq

/-- What has been read before may be anything. -/
theorem after (next : ∀ a, Gives (f a) Q') : Gives (x >>= f) Q' :=
  bind (Q := fun _ => True) (fun _ _ => trivial) fun a _ => next a

end Gives

end Reading

open Reading

/-! ## Escapes -/

/-- The simple items that can come from anywhere. -/
def Expr.IsPlain : Expr → Prop
  | .test .byte | .keep | .call _ _ _ | .group _ _ _ _ _ | .repeated _ _ _ _ => False
  | _ => True

/-- What a text allows of the simple items it is read as. -/
structure Source.Allows (s : Source) (P : Expr → Prop) : Prop where
  plain : ∀ e, e.IsPlain → P e
  byte : ∀ i, s.hasText i byteMark = true → P (.test .byte)
  keep : ∀ i, s.hasText i keepMark = true → P .keep
  call : ∀ i, ∀ mark ∈ callMarks, s.hasText i mark = true →
    ∀ group place offset, P (.call group place offset)

theorem mem_of_lookup {α β : Type} [BEq α] [LawfulBEq α] {list : List (α × β)} {a : α} {b : β}
    (found : list.lookup a = some b) : (a, b) ∈ list := by
  obtain ⟨before, after, eq, _⟩ := List.lookup_eq_some_iff.mp found
  rw [eq]
  simp

namespace Source

variable {s : Source} {ctx : EscapeContext}

/-- What stands at a place for an escape that is known by its letter. -/
def Spells (s : Source) (i : Nat) : Escape → Prop
  | .byte => s.get? i = some 'C'
  | .keep => s.get? i = some 'K'
  | .callName => s.get? i = some 'g' ∧
    (s.get? (i + 1) = some '<' ∨ s.get? (i + 1) = some '\'')
  | _ => True

theorem gives_code (i : Nat) (x : Reading (Nat × Nat)) :
    Gives (x.map fun found => (Escape.char found.1, found.2)) fun found => s.Spells i found.1 := by
  intro found eq
  cases result : x with
  | error fault =>
      rw [result] at eq
      cases eq
  | ok read =>
      rw [result] at eq
      obtain rfl := Except.ok.inj eq
      trivial

theorem gives_readNumeric (i : Nat) (first : Char) :
    Gives (s.readNumeric ctx i first) fun found => s.Spells i found.1 := by
  unfold readNumeric
  extract_lets next n
  split_ifs
  · exact .error
  · exact .ok trivial
  · exact .ok trivial
  · exact gives_code _ _

theorem gives_readGroupEscape {i : Nat} (letter : s.get? i = some 'g') :
    Gives (s.readGroupEscape ctx (i + 1)) fun found => s.Spells i found.1 := by
  unfold readGroupEscape
  split
  · exact .error
  · rename_i angle
    exact .ok ⟨letter, Or.inl angle⟩
  · rename_i quote
    exact .ok ⟨letter, Or.inr quote⟩
  · split
    · exact .error
    · exact .ok trivial
    · dsimp only
      split_ifs
      · exact .error
      · exact .error
      · exact .ok trivial
  · refine .after fun number => ?_
    split
    · exact .error
    · exact .error
    · exact .ok trivial

theorem gives_readNotNewline (i : Nat) :
    Gives (s.readNotNewline ctx (i + 1)) fun found => s.Spells i found.1 := by
  unfold readNotNewline
  dsimp only
  split_ifs
  · exact .ok trivial
  · exact gives_code _ _
  · exact .error
  · exact .error
  · split
    · exact .ok trivial
    · exact .error
    · exact .error

/-- Some escapes are known by their letters. -/
theorem gives_readEscape (s : Source) (ctx : EscapeContext) (i : Nat) :
    Gives (s.readEscape ctx i) fun found => s.Spells i found.1 := by
  unfold readEscape
  extract_lets code
  have code : ∀ x, Gives (code x) fun found => s.Spells i found.1 := gives_code i
  split
  · exact .error
  rename_i c unit
  split
  · exact .ok trivial
  split
  · exact .ok trivial
  · rename_i e _ letter
    have mem := mem_of_lookup letter
    refine .ok ?_
    cases e with
    | byte => simpa [Spells, letterEscapes, unit] using mem
    | keep => simpa [Spells, letterEscapes, unit] using mem
    | callName => simp [letterEscapes] at mem
    | _ => trivial
  split
  · exact gives_readNotNewline _
  · exact .error
  · exact .error
  · exact .error
  · split_ifs
    · exact .ok trivial
    · exact .error
  · exact code _
  · exact code _
  · exact code _
  · exact code _
  · split_ifs
    · exact .ok trivial
    · exact gives_readGroupEscape unit
  · exact code _
  · split_ifs
    · exact gives_readNumeric _ _
    · exact .error

/-- A mark stands where its characters do. -/
theorem hasText_cons {i : Nat} {c : Char} {rest : List Char} (first : s.get? i = some c)
    (others : s.hasText (i + 1) rest = true) : s.hasText i (c :: rest) = true := by
  rw [hasText, others, Bool.and_true, has, beq_iff_eq]
  exact first

/-- There is nothing to an empty mark. -/
theorem hasText_nil (i : Nat) : s.hasText i [] = true := by
  rw [hasText]

end Source

/-! ## What has been read -/

/-- Every simple item in some branches has a property. -/
structure Body.Holds (P : Expr → Prop) (b : Body) : Prop where
  done : BranchesAll P b.done
  items : ItemsAll P b.items

namespace Body

variable {P : Expr → Prop} {b : Body}

theorem holds_empty : Body.empty.Holds P := ⟨trivial, trivial⟩

theorem Holds.split (holds : b.Holds P) : b.split.Holds P := by
  refine ⟨⟨?_, holds.done⟩, trivial⟩
  rw [itemsAll_iff]
  exact fun e mem => itemsAll_iff.mp holds.items e (List.mem_reverse.mp mem)

theorem Holds.branches (holds : b.Holds P) : BranchesAll P b.branches := by
  rw [branchesAll_iff]
  exact fun items mem => branchesAll_iff.mp holds.split.done items (List.mem_reverse.mp mem)

end Body

/-- Every simple item that has been read has a property. -/
structure Reader.Holds (P : Expr → Prop) (r : Reader) : Prop where
  body : r.body.Holds P
  /-- The same for what has been read around the groups that are still open. -/
  stack : ∀ g ∈ r.stack, g.outer.Holds P

namespace Reader

variable {P : Expr → Prop} {r : Reader} {s : Source} {d : Dialect}

theorem holds_initial (modes : Modes) : (initial modes).Holds P :=
  ⟨Body.holds_empty, by simp [initial]⟩

theorem Holds.of_eq (holds : r.Holds P) {r' : Reader} (body : r'.body = r.body)
    (stack : r'.stack = r.stack) : r'.Holds P := by
  refine ⟨?_, ?_⟩
  · rw [body]
    exact holds.body
  · rw [stack]
    exact holds.stack

theorem Holds.put (holds : r.Holds P) {e : Expr} (item : e.All P) (count next : Nat) :
    (r.put e count next).Holds P :=
  ⟨⟨holds.body.done, item, holds.body.items⟩, holds.stack⟩

theorem Holds.openGroup (holds : r.Holds P) (kind : GroupKind) (start : Nat) (offset : Option Nat)
    (next : Nat) : (r.openGroup kind start offset next).Holds P := by
  refine ⟨Body.holds_empty, fun g mem => ?_⟩
  rcases List.mem_cons.mp mem with rfl | mem
  · exact holds.body
  · exact holds.stack g mem

theorem Holds.onGroup (holds : r.Holds P) {f : OpenGroup → OpenGroup}
    (outer : ∀ g, (f g).outer = g.outer) : (r.onGroup f).Holds P := by
  unfold Reader.onGroup
  split
  · rename_i g rest stack
    refine ⟨holds.body, fun g' mem => ?_⟩
    rcases List.mem_cons.mp mem with rfl | mem
    · rw [outer]
      exact holds.stack g (by simp [stack])
    · exact holds.stack g' (by simp [stack, mem])
  · exact holds

theorem Holds.openAssertion (holds : r.Holds P) (kind : GroupKind) (start : Nat)
    (offset : Option Nat) (next : Nat) (condition : Bool) :
    (r.openAssertion kind start offset next condition).Holds P :=
  (holds.openGroup kind start offset next).onGroup fun _ => rfl

theorem Holds.nextBranch (holds : r.Holds P) (next : Nat) : (r.nextBranch next).Holds P := by
  unfold Reader.nextBranch
  dsimp only
  split
  · rename_i g rest stack
    split
    · refine ⟨holds.body.split, fun g' mem => ?_⟩
      rcases List.mem_cons.mp mem with rfl | mem
      · exact holds.stack g (by simp [stack])
      · exact holds.stack g' (by simp [stack, mem])
    · exact ⟨holds.body.split, holds.stack⟩
  · exact ⟨holds.body.split, holds.stack⟩

theorem Holds.closeGroup (holds : r.Holds P) (next : Nat) :
    Gives (r.closeGroup s next) (·.Holds P) := by
  unfold Reader.closeGroup
  split
  · exact .error
  · rename_i g rest stack
    have outer : ∀ g' ∈ rest, g'.outer.Holds P :=
      fun g' mem => holds.stack g' (by simp [stack, mem])
    -- the branches of some groups are put into an atomic group of their own
    have whole : BranchesAll P (if g.atomicInside then
        [[.group .atomic g.start next g.offset r.body.branches]] else r.body.branches) := by
      split_ifs
      · exact ⟨⟨holds.body.branches, trivial⟩, trivial⟩
      · exact holds.body.branches
    refine .ok (Holds.put ⟨holds.stack g (by simp [stack]), outer⟩ ?_ _ _)
    exact whole

theorem Holds.quantify (holds : r.Holds P) (min : Nat) (max : Option Nat) (next : Nat) :
    Gives (r.quantify s min max next) (·.Holds P) := by
  have items := holds.body.items
  unfold Reader.quantify
  dsimp only
  split
  · exact .error
  · exact .error
  · rename_i rest eq _
    rw [eq, itemsAll_iff] at items
    refine .ok ⟨⟨holds.body.done, ⟨?_, trivial⟩, ?_⟩, holds.stack⟩
    · rw [itemsAll_iff]
      exact fun e mem => items e (List.mem_of_mem_take (List.mem_reverse.mp mem))
    · rw [itemsAll_iff]
      exact fun e mem => items e (List.mem_cons_of_mem _ (List.mem_of_mem_drop mem))
  · rename_i eq _
    rw [eq] at items
    exact .ok ⟨⟨holds.body.done, items.1, items.2⟩, holds.stack⟩

theorem Holds.qualify (holds : r.Holds P) (possessive : Bool) (next : Nat) :
    (r.qualify possessive next).Holds P := by
  have items := holds.body.items
  unfold Reader.qualify
  dsimp only
  split
  · rename_i eq
    rw [eq] at items
    exact ⟨⟨holds.body.done, items.1, items.2⟩, holds.stack⟩
  · exact ⟨⟨holds.body.done, items⟩, holds.stack⟩

/-! ## Groups -/

theorem Holds.readWordGroup (holds : r.Holds P) (start i : Nat) (condition : Bool) :
    Gives (r.readWordGroup s d start i condition) (·.Holds P) := by
  unfold Reader.readWordGroup
  refine .after fun ⟨word, stop⟩ => ?_
  dsimp only
  split
  · exact .error
  split
  · exact .error
  · split
    · exact .error
    split
    · exact .ok (holds.openAssertion _ _ _ _ _)
    · exact .ok (holds.openAssertion _ _ _ _ _)
    · exact .ok ((holds.openGroup _ _ _ _).onGroup fun _ => rfl)
    · split
      · exact .error
      split
      · exact .error
      exact .after fun found => .ok (holds.openGroup _ _ _ _)

theorem Holds.readSwitch (holds : r.Holds P) (start i : Nat) :
    Gives (r.readSwitch s start i) (·.Holds P) := by
  unfold Reader.readSwitch
  refine .after fun ⟨set, unset, stop⟩ => ?_
  dsimp only
  generalize (if s.has i '^' = true then r.modes.clear else r.modes).switch set unset = modes
  split_ifs
  · exact .ok (holds.of_eq rfl rfl)
  · have opened := holds.openGroup .plain start (s.offset start) (stop + 1)
    exact .ok (opened.of_eq rfl rfl)

theorem Holds.readNamedGroup (holds : r.Holds P) (start i : Nat) (terminator : Char) :
    Gives (r.readNamedGroup s d start i terminator) (·.Holds P) := by
  unfold Reader.readNamedGroup
  refine .after fun ⟨text, place, next⟩ => ?_
  dsimp only
  split
  · exact .error
  split
  · exact .error
  split
  · exact .error
  · refine .ok (Holds.openGroup ?_ _ _ _ _)
    exact holds.of_eq rfl rfl

theorem Holds.readCapture (holds : r.Holds P) (start : Nat) :
    Gives (r.readCapture s start) (·.Holds P) := by
  unfold Reader.readCapture
  dsimp only
  split_ifs
  · exact .ok (holds.openGroup _ _ _ _)
  · exact .error
  · refine .ok (Holds.openGroup ?_ _ _ _ _)
    exact holds.of_eq rfl rfl

theorem Holds.readConditional (holds : r.Holds P) (start i : Nat) :
    Gives (r.readConditional s d start i) (·.Holds P) := by
  unfold Reader.readConditional
  split
  · exact .error
  split
  · have opened := holds.openGroup (.conditional .assertion) start none (i - 1)
    exact .ok (opened.of_eq rfl rfl)
  · refine .after fun ⟨condition, offset, stop⟩ => ?_
    dsimp only
    split
    · exact .error
    · exact .ok (holds.openGroup _ _ _ _)

/-! ## Calls -/

section Called

variable (call : ∀ group place offset, P (.call group place offset))

include call

theorem Holds.putCall (holds : r.Holds P) (group : GroupRef) (i next : Nat) :
    (r.putCall s group i next).Holds P :=
  holds.put (by exact call _ _ _) _ _

theorem Holds.readCallName (holds : r.Holds P) (i : Nat) :
    Gives (r.readCallName s d i) (·.Holds P) := by
  unfold Reader.readCallName
  split
  · exact .error
  · refine .after fun number => ?_
    split
    · split_ifs
      · exact .ok (holds.putCall call _ _ _)
      · exact .error
    · exact .after fun found => .ok (holds.putCall call _ _ _)

theorem Holds.readCallNumber (holds : r.Holds P) (i : Nat) :
    Gives (r.readCallNumber s i) (·.Holds P) := by
  unfold Reader.readCallNumber
  refine .after fun found => ?_
  split
  · exact .error
  · split
    · exact .ok (holds.putCall call _ _ _)
    · exact .error

theorem Holds.readCallByName (holds : r.Holds P) (i : Nat) :
    Gives (r.readCallByName s d i) (·.Holds P) := by
  unfold Reader.readCallByName
  exact .after fun found => .ok (holds.putCall call _ _ _)

end Called

/-! ## Items -/

theorem isPlain_of_mem_verbs {name : String} {e : Expr} (mem : (name, .marked e) ∈ verbs) :
    e.IsPlain := by
  simp only [verbs, List.mem_cons, Prod.mk.injEq, VerbForm.marked.injEq, reduceCtorEq, and_false,
    List.not_mem_nil, or_false, false_or] at mem
  rcases mem with ⟨_, rfl⟩ | ⟨_, rfl⟩ | ⟨_, rfl⟩ <;> trivial

/-- The test of an item of a class is never for a single byte. -/
theorem isPlain_testOf (item : ClassItem) : (Expr.test (testOf item)).IsPlain := by
  cases item <;> trivial

section Allowed

variable (allows : s.Allows P)

include allows

theorem Holds.putPlain (holds : r.Holds P) {e : Expr} (plain : e.IsPlain) (count next : Nat) :
    (r.put e count next).Holds P := by
  refine holds.put ?_ count next
  cases e with
  | group kind start stop offset branches => exact plain.elim
  | repeated item min max greed => exact plain.elim
  | _ => exact allows.plain _ plain

theorem Holds.putBackrefName (holds : r.Holds P) (name : List Char) (start next : Nat) :
    (r.putBackrefName s d name start next).Holds P :=
  holds.putPlain allows (by trivial) _ _

theorem Holds.putBackref (holds : r.Holds P) (n offset next : Nat) :
    (r.putBackref d n offset next).Holds P := by
  unfold Reader.putBackref
  extract_lets known counted
  have counted : counted.Holds P := by
    unfold counted
    split_ifs
    · exact ⟨holds.body, holds.stack⟩
    · exact holds
  exact counted.putPlain allows (by trivial) _ _

theorem Holds.putChar (holds : r.Holds P) (c next : Nat) : (r.putChar d c next).Holds P :=
  holds.putPlain allows (by trivial) _ _

theorem Holds.readEscape (holds : r.Holds P) {i : Nat} (backslash : s.get? i = some '\\') :
    Gives (r.readEscape s d i) (·.Holds P) := by
  have stands : ∀ {c : Char}, s.get? (i + 1) = some c → ∀ rest, s.hasText (i + 2) rest = true →
      s.hasText i ('\\' :: c :: rest) = true :=
    fun letter rest others => s.hasText_cons backslash (s.hasText_cons letter others)
  unfold Reader.readEscape
  refine .bind (s.gives_readEscape _ _) ?_
  rintro ⟨e, next⟩ spells
  dsimp only at spells ⊢
  cases e with
  | char c => exact .ok (holds.putChar allows _ _)
  | kind k negated => exact .ok (holds.putPlain allows (isPlain_testOf _) _ _)
  | property negated =>
      refine .after fun found => ?_
      exact .ok (holds.putPlain allows (isPlain_testOf _) _ _)
  | byte =>
      dsimp only
      split_ifs
      · exact .error
      · exact .ok (holds.put (by exact allows.byte i (stands spells [] (s.hasText_nil _))) _ _)
      · exact .ok (holds.putPlain allows (by trivial) _ _)
  | keep => exact .ok (holds.put (by exact allows.keep i (stands spells [] (s.hasText_nil _))) _ _)
  | quote => exact .ok (holds.of_eq rfl rfl)
  | endQuote => exact .ok (holds.of_eq rfl rfl)
  | backref n => exact .ok (holds.putBackref allows _ _ _)
  | backrefName =>
      dsimp only
      split
      · exact .error
      · refine .after fun found => ?_
        exact .ok (holds.putBackrefName allows _ _ _)
  | callName =>
      refine holds.readCallName ?_ _
      rcases spells.2 with angle | quote
      · have mark := stands spells.1 ['<'] (s.hasText_cons angle (s.hasText_nil _))
        exact allows.call i _ (by decide) mark
      · have mark := stands spells.1 ['\''] (s.hasText_cons quote (s.hasText_nil _))
        exact allows.call i _ (by decide) mark
  | _ => exact .ok (holds.putPlain allows (by trivial) _ _)

/-- A class that has been read is put as an item. -/
theorem Holds.putClass (holds : r.Holds P) (x : Reading (ClassResult × Nat)) :
    Gives (x >>= fun found =>
      match found with
      | (.set tree, next) => return r.put (.charClass tree (Casing.of d r.modes)) 1 next
      | (.empty negated, next) => return r.put (.emptyClass negated) 1 next) (·.Holds P) := by
  refine .after fun found => ?_
  split
  · exact .ok (holds.putPlain allows (by trivial) _ _)
  · exact .ok (holds.putPlain allows (by trivial) _ _)

theorem Holds.readBracket (holds : r.Holds P) (i : Nat) :
    Gives (r.readBracket s d i) (·.Holds P) := by
  unfold Reader.readBracket
  extract_lets next edge wordEdge mode
  have edge : edge.Holds P := holds.putPlain allows (by trivial) _ _
  have wordEdge : ∀ kind, (wordEdge kind).Holds P := by
    intro kind
    have test : P (.test (wordTest d)) := by
      unfold wordTest
      split_ifs
      · exact allows.plain _ trivial
      · exact allows.plain _ trivial
    exact edge.put (by exact ⟨⟨test, trivial⟩, trivial⟩) 1 (i + 7)
  split_ifs
  · exact .ok (wordEdge _)
  · exact .ok (wordEdge _)
  · exact .error
  · exact .error
  · exact holds.putClass allows _

theorem Holds.readVerb (holds : r.Holds P) (i : Nat) : Gives (r.readVerb s d i) (·.Holds P) := by
  unfold Reader.readVerb
  refine .after fun ⟨word, stop⟩ => ?_
  dsimp only
  split
  · exact .error
  split
  · exact .error
  · rename_i form known
    have known := mem_of_lookup known
    generalize (if s.hasText stop [':', ')'] = true then stop + 1 else stop) = stop
    split
    · refine .after fun ⟨name, next⟩ => ?_
      dsimp only
      split
      · exact .ok (holds.putPlain allows (by trivial) _ _)
      · exact .ok (holds.putPlain allows (by trivial) _ _)
      · have mark : (r.put (.verb .mark name) 0 next).Holds P :=
          holds.putPlain allows (by trivial) _ _
        exact .ok (mark.putPlain allows (isPlain_of_mem_verbs known) _ _)
    · split
      · exact .error
      · exact .ok (holds.putPlain allows (by trivial) _ _)
      · exact .ok (holds.putPlain allows (isPlain_of_mem_verbs known) _ _)

theorem Holds.readCallout (holds : r.Holds P) (i expected : Nat) :
    Gives (r.readCallout s i expected) (·.Holds P) := by
  unfold Reader.readCallout
  split
  · exact .error
  · extract_lets finish stop digits small
    have finish : ∀ found, Gives (finish found) (·.Holds P) := by
      rintro ⟨width, stop⟩
      have callout : (r.put (.callout width) 0 (stop + 1)).Holds P :=
        holds.putPlain allows (by trivial) _ _
      unfold finish
      dsimp only
      split
      · exact .error
      · exact .ok (callout.of_eq rfl rfl)
    clear_value small
    split
    · split
      · exact .error
      · exact .after finish
    · split
      · exact .error
      split
      · exact .error
      · exact .after finish

/-- What starts with `(?P` can be a call. -/
theorem Holds.readNamedForm (holds : r.Holds P) (start : Nat)
    (stands : ∀ rest, s.hasText (start + 3) rest = true →
      s.hasText start ('(' :: '?' :: 'P' :: rest) = true) :
    Gives (r.readNamedForm s d start (start + 3)) (·.Holds P) := by
  unfold Reader.readNamedForm
  split
  · exact .error
  · exact holds.readNamedGroup _ _ _
  · rename_i angle
    have mark := stands ['>'] (s.hasText_cons angle (s.hasText_nil _))
    exact holds.readCallByName (allows.call start _ (by decide) mark) _
  · exact .after fun found => .ok (holds.putBackrefName allows _ _ _)
  · exact .error

/-- What starts with `(?` can be a call, which is known by what follows. -/
theorem Holds.readGroup (holds : r.Holds P) {start : Nat} (opens : s.get? start = some '(')
    (asks : s.get? (start + 1) = some '?') (expected : Nat) :
    Gives (r.readGroup s d start expected) (·.Holds P) := by
  have stands : ∀ {c : Char}, s.get? (start + 2) = some c →
      ∀ rest, s.hasText (start + 3) rest = true →
        s.hasText start ('(' :: '?' :: c :: rest) = true :=
    fun letter rest others =>
      s.hasText_cons opens (s.hasText_cons asks (s.hasText_cons letter others))
  have call : ∀ mark ∈ callMarks, s.hasText start mark = true →
      ∀ group place offset, P (.call group place offset) := allows.call start
  have signed : ∀ sign, s.get? (start + 2) = some sign →
      (∀ c, isDigit c.toNat = true → ['(', '?', sign, c] ∈ callMarks) →
        s.hasDigit (start + 3) = true → ∀ group place offset, P (.call group place offset) := by
    intro sign letter known digit
    unfold Source.hasDigit at digit
    split at digit
    · rename_i c unit
      exact call _ (known c digit) (stands letter [c] (s.hasText_cons unit (s.hasText_nil _)))
    · cases digit
  unfold Reader.readGroup
  extract_lets i condition assertion
  have assertion : ∀ kind next, Gives (assertion kind next) (·.Holds P) :=
    fun kind next => .ok (holds.openAssertion _ _ _ _ _)
  split
  · exact .error
  rename_i letter
  split
  · have opened := Holds.openGroup (P := P) (r := { r with shared := true })
      (holds.of_eq rfl rfl) .plain start (s.offset start) (i + 1)
    exact .ok (opened.onGroup fun _ => rfl)
  · exact holds.readNamedForm allows start (stands letter)
  · split_ifs
    · have mark := stands letter [] (s.hasText_nil _)
      exact .ok (holds.putCall (call _ (by decide) mark) _ _ _)
    · exact .error
  · split_ifs with digit
    · exact holds.readCallNumber (signed _ letter (fun _ d => (mem_callMarks d).2.1) digit) _
    · exact .error
  · have mark := stands letter [] (s.hasText_nil _)
    exact holds.readCallByName (call _ (by decide) mark) _
  · exact holds.readCallout allows _ _
  · exact holds.readConditional _ _
  · exact .ok (holds.openGroup _ _ _ _)
  · exact assertion _ _
  · exact assertion _ _
  · exact assertion _ _
  · split
    · exact assertion _ _
    · exact assertion _ _
    · exact assertion _ _
    · exact holds.readNamedGroup _ _ _
  · exact holds.readNamedGroup _ _ _
  · exact holds.putClass allows _
  · split_ifs with number
    · refine holds.readCallNumber ?_ _
      rcases Bool.or_eq_true_iff.mp number with digit | minus
      · exact call _ (mem_callMarks digit).1 (stands letter [] (s.hasText_nil _))
      · obtain ⟨minus, digit⟩ := Bool.and_eq_true_iff.mp minus
        rw [beq_iff_eq] at minus
        subst minus
        exact signed _ letter (fun _ d => (mem_callMarks d).2.2) digit
    · exact holds.readSwitch _ _

theorem Holds.readParenthesis (holds : r.Holds P) {i : Nat} (opens : s.get? i = some '(')
    (expected : Nat) : Gives (r.readParenthesis s d i expected) (·.Holds P) := by
  unfold Reader.readParenthesis
  split
  · exact .error
  · rename_i asks
    exact holds.readGroup allows opens asks _
  · split
    · exact .ok (holds.of_eq rfl rfl)
    · exact .ok (holds.of_eq rfl rfl)
    · split_ifs
      · exact holds.readWordGroup _ _ _
      · exact holds.readVerb allows _
  · exact holds.readCapture _

/-- An item or a quantifier keeps what the text allows. -/
theorem Holds.readItem (holds : r.Holds P) {c : Char} {i : Nat} (unit : s.get? i = some c) :
    Gives (r.readItem s d c i) (·.Holds P) := by
  unfold Reader.readItem
  extract_lets next expected r' r''
  have holds : r'.Holds P := holds.of_eq rfl rfl
  split
  · exact holds.quantify _ _ _
  · exact holds.quantify _ _ _
  · exact holds.quantify _ _ _
  · refine .after fun counts => ?_
    split
    · exact holds.quantify _ _ _
    · exact .ok (holds.putChar allows _ _)
  · have holds : r''.Holds P := holds.of_eq rfl rfl
    split
    · exact holds.readEscape allows unit
    · exact .ok (holds.putPlain allows (by trivial) _ _)
    · exact .ok (holds.putPlain allows (by trivial) _ _)
    · refine .ok (holds.putPlain allows ?_ _ _)
      split_ifs
      · trivial
      · trivial
    · exact holds.readBracket allows _
    · exact holds.readParenthesis allows unit _
    · exact .ok (holds.nextBranch _)
    · exact holds.closeGroup _
    · exact .ok (holds.putChar allows _ _)

/-- **One step of reading keeps what the text allows.** -/
theorem gives_step (holds : r.Holds P) : Gives (r.step s d) (·.Holds P) := by
  unfold step
  extract_lets i next
  split
  · exact .ok holds
  rename_i c unit
  split
  · exact .error
  split
  · split
    · exact .ok (holds.of_eq rfl rfl)
    · exact .ok (holds.putChar allows _ _)
  split
  · exact .ok (holds.of_eq rfl rfl)
  split
  · exact .ok (holds.of_eq rfl rfl)
  split
  · exact .ok (holds.of_eq rfl rfl)
  split
  · split
    · exact .ok (holds.of_eq rfl rfl)
    · exact .error
  split
  · exact .error
  split
  · exact .ok (holds.qualify _ _)
  · exact holds.readItem allows unit

/-- Reading to the end keeps it, too. -/
theorem gives_run (fuel : Nat) (holds : r.Holds P) : Gives (run s d fuel r) (·.Holds P) := by
  induction fuel generalizing r with
  | zero => exact .ok holds
  | succ fuel ih =>
      unfold run
      split_ifs
      · split
        · rename_i r' stepped
          exact ih (gives_step allows holds r' stepped)
        · exact .error
      · exact .ok holds

end Allowed

end Reader

/-- **Every simple item of a pattern is one that its text allows.** -/
theorem gives_readPattern {P : Expr → Prop} {s : Source} (allows : s.Allows P) (d : Dialect)
    (modes : Modes) :
    Gives (readPattern s d modes) fun pattern => BranchesAll P pattern.branches := by
  unfold readPattern
  split
  · refine .ok ⟨?_, trivial⟩
    rw [itemsAll_iff]
    intro e mem
    obtain ⟨c, _, rfl⟩ := List.mem_map.mp mem
    exact allows.plain _ trivial
  · refine .bind (Reader.gives_run allows _ (Reader.holds_initial modes)) fun r holds => ?_
    unfold Reader.finish
    split
    · exact .ok holds.body.branches
    · exact .error

end Regex.Syntax
