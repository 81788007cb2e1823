import Mathlib.Tactic.Common
import Regex.Text.Decimal

/-!
# Decimal integers read back

A number is accepted if it is written with digits, perhaps behind a sign, and lies within the
bounds.

* `Digits`: digits that write a number.
* `Natural`, `Integer`: a number behind an optional sign.
* `readNatural_eq_ok`, `readInteger_eq_ok`: exactly these are read, within the bounds.
* `Canonical`, `canonical_toString`: numbers are printed without needless signs and zeros.
-/

namespace Regex.Decimal

/-- One or more digits, and the number that they write. -/
structure Digits (digits : List Char) (n : Nat) : Prop where
  some : digits ≠ []
  all : ∀ c ∈ digits, c.isDigit = true
  value : Nat.ofDigitChars 10 digits 0 = n

/-- A number that may have a plus sign. -/
def Natural (text : List Char) (n : Nat) : Prop :=
  Digits text n ∨ ∃ digits, text = '+' :: digits ∧ Digits digits n

/-- A number that may have a sign. -/
def Integer (text : List Char) (z : Int) : Prop :=
  (∃ n : Nat, Natural text n ∧ z = n) ∨
    ∃ (digits : List Char) (n : Nat), text = '-' :: digits ∧ Digits digits n ∧ z = -n

/-- More digits never make a number smaller. -/
theorem le_ofDigitChars (digits : List Char) (n : Nat) : n ≤ Nat.ofDigitChars 10 digits n := by
  induction digits generalizing n with
  | nil => exact Nat.le_refl n
  | cons c rest ih =>
      rw [Nat.ofDigitChars_cons]
      exact Nat.le_trans (by omega) (ih _)

/-- Digits are read to their end if the number does not become too large, and it is too large once
it has become so. -/
theorem readDigits_eq_ok {bound n m : Nat} {overflow : Fault} {digits : List Char}
    (inside : n ≤ bound) : readDigits bound overflow n digits = .ok m ↔
      (∀ c ∈ digits, c.isDigit = true) ∧ Nat.ofDigitChars 10 digits n = m ∧ m ≤ bound := by
  induction digits generalizing n with
  | nil =>
      rw [readDigits, Nat.ofDigitChars_nil]
      constructor
      · intro eq
        obtain rfl := Except.ok.inj eq
        exact ⟨by simp, rfl, inside⟩
      · rintro ⟨-, rfl, -⟩
        rfl
  | cons c rest ih =>
      rw [readDigits, Nat.ofDigitChars_cons, Nat.mul_comm 10 n, List.forall_mem_cons]
      have zero : '0'.toNat = 48 := rfl
      rw [zero]
      dsimp only
      split_ifs with digit large
      · simp only [false_iff]
        rintro ⟨-, rfl, le⟩
        exact absurd (Nat.le_trans (le_ofDigitChars rest _) le) (Nat.not_le.mpr large)
      · rw [ih (Nat.not_lt.mp large)]
        simp [digit]
      · simp [digit]

theorem readMagnitude_eq_ok {bound m : Nat} {overflow : Fault} {digits : List Char} :
    readMagnitude bound overflow digits = .ok m ↔ Digits digits m ∧ m ≤ bound := by
  unfold readMagnitude
  split_ifs with empty
  · rw [List.isEmpty_iff] at empty
    simp only [false_iff]
    rintro ⟨digits, -⟩
    exact digits.some empty
  · rw [readDigits_eq_ok (Nat.zero_le bound)]
    constructor
    · rintro ⟨all, value, le⟩
      exact ⟨⟨by simpa using empty, all, value⟩, le⟩
    · rintro ⟨digits, le⟩
      exact ⟨digits.all, digits.value, le⟩

/-- A sign is no digit. -/
theorem Digits.head_ne {digits : List Char} {n : Nat} (written : Digits digits n) {c : Char}
    {rest : List Char} (sign : c.isDigit = false) : digits ≠ c :: rest := by
  rintro rfl
  rw [written.all c List.mem_cons_self] at sign
  cases sign

/-- **What is read as a number without a sign.** -/
theorem readNatural_eq_ok {bound n : Nat} {text : List Char} :
    readNatural bound text = .ok n ↔ Natural text n ∧ n ≤ bound := by
  unfold readNatural Natural
  split
  · simp only [reduceCtorEq, false_iff]
    rintro ⟨digits | ⟨_, no, -⟩, -⟩
    · exact digits.some rfl
    · cases no
  · rename_i digits
    rw [readMagnitude_eq_ok]
    refine and_congr_left fun _ => ?_
    constructor
    · exact fun written => Or.inr ⟨digits, rfl, written⟩
    · rintro (written | ⟨_, same, written⟩)
      · exact absurd rfl (written.head_ne (by decide))
      · obtain rfl := (List.cons.inj same).2
        exact written
  · rename_i digits _ unsigned
    rw [readMagnitude_eq_ok]
    refine and_congr_left fun _ => ?_
    constructor
    · exact Or.inl
    · rintro (written | ⟨rest, rfl, -⟩)
      · exact written
      · exact absurd rfl (unsigned rest)

instance (text : List Char) (n : Nat) : Decidable (Natural text n) :=
  decidable_of_iff (readNatural n text = .ok n)
    (readNatural_eq_ok.trans (and_iff_left (Nat.le_refl n)))

theorem map_eq_ok {α β : Type} {f : α → β} {x : Except Fault α} {b : β} :
    x.map f = .ok b ↔ ∃ a, x = .ok a ∧ f a = b := by
  cases x <;> simp [Except.map]

/-- Without a minus sign a number is read alike in both ways. -/
theorem readInteger_of_unsigned {text : List Char} (unsigned : ∀ rest, text ≠ '-' :: rest)
    (bound : Nat) : readInteger bound text = (readNatural bound text).map Int.ofNat := by
  unfold readInteger readNatural
  split
  · rfl
  · rfl
  · exact absurd rfl (unsigned _)
  · rename_i none plus _
    split
    · exact absurd rfl none
    · exact absurd rfl (plus _)
    · rfl

/-- **What is read as a number with a sign.** -/
theorem readInteger_eq_ok {bound : Nat} {text : List Char} {z : Int} :
    readInteger bound text = .ok z ↔ Integer text z ∧ -(bound : Int) - 1 ≤ z ∧ z ≤ bound := by
  by_cases signed : ∃ rest, text = '-' :: rest
  · obtain ⟨digits, rfl⟩ := signed
    rw [readInteger, map_eq_ok]
    constructor
    · rintro ⟨n, read, rfl⟩
      obtain ⟨written, le⟩ := readMagnitude_eq_ok.mp read
      exact ⟨Or.inr ⟨digits, n, rfl, written, rfl⟩, by simp; omega, by simp⟩
    · rintro ⟨⟨n, written | ⟨_, no, -⟩, -⟩ | ⟨_, n, same, written, rfl⟩, low, -⟩
      · exact absurd rfl (written.head_ne (by decide))
      · cases no
      · obtain rfl := (List.cons.inj same).2
        exact ⟨n, readMagnitude_eq_ok.mpr ⟨written, by omega⟩, rfl⟩
  · have unsigned : ∀ rest, text ≠ '-' :: rest := fun rest eq => signed ⟨rest, eq⟩
    rw [readInteger_of_unsigned unsigned, map_eq_ok]
    constructor
    · rintro ⟨n, read, rfl⟩
      obtain ⟨written, le⟩ := readNatural_eq_ok.mp read
      exact ⟨Or.inl ⟨n, written, rfl⟩, by simp; omega, by simpa using le⟩
    · rintro ⟨⟨n, written, rfl⟩ | ⟨_, _, minus, -, -⟩, -, le⟩
      · exact ⟨n, readNatural_eq_ok.mpr ⟨written, by omega⟩, rfl⟩
      · exact absurd minus (unsigned _)

instance (text : List Char) (z : Int) : Decidable (Integer text z) :=
  decidable_of_iff (readInteger z.natAbs text = .ok z)
    (readInteger_eq_ok.trans (and_iff_left (by omega)))

/-! ## Decimal integers printed -/

/-- A number without a plus sign and without zeros that could be left out. -/
structure Canonical (text : List Char) (z : Int) : Prop where
  written : Integer text z
  plus : ∀ rest, text ≠ '+' :: rest
  zero : ∀ rest, text = '0' :: rest → rest = []
  signedZero : ∀ rest, text ≠ '-' :: '0' :: rest

theorem digits_toDigits (n : Nat) : Digits (Nat.toDigits 10 n) n where
  some := Nat.toDigits_ne_nil
  all := fun _ mem => Nat.isDigit_of_mem_toDigits (by decide) (by decide) mem
  value := Nat.ofDigitChars_toDigits (by decide) (by decide)

/-- Only zero is printed with a zero in front. -/
theorem toDigits_eq_cons_zero {n : Nat} {rest : List Char}
    (zero : Nat.toDigits 10 n = '0' :: rest) : n = 0 := by
  induction n using Nat.strongRecOn generalizing rest with
  | ind n ih =>
      by_cases small : n < 10
      · rw [Nat.toDigits_of_lt_base small] at zero
        have digit := Nat.toNat_digitChar_of_lt_ten small
        rw [(List.cons.inj zero).1] at digit
        have code : '0'.toNat = 48 := rfl
        omega
      · rw [Nat.toDigits_of_base_le (by decide) (Nat.not_lt.mp small)] at zero
        obtain ⟨first, others, front⟩ :=
          List.exists_cons_of_ne_nil (@Nat.toDigits_ne_nil (n / 10) 10)
        rw [front, List.cons_append] at zero
        obtain rfl := (List.cons.inj zero).1
        have none := ih (n / 10) (by omega) front
        omega

theorem canonical_natural (n : Nat) : Canonical (Nat.toDigits 10 n) n where
  written := Or.inl ⟨n, Or.inl (digits_toDigits n), rfl⟩
  plus := fun _ => (digits_toDigits n).head_ne (by decide)
  zero := by
    intro rest eq
    obtain rfl := toDigits_eq_cons_zero eq
    exact (List.cons.inj eq).2.symm
  signedZero := fun _ => (digits_toDigits n).head_ne (by decide)

theorem canonical_negative {n : Nat} (positive : n ≠ 0) :
    Canonical ('-' :: Nat.toDigits 10 n) (-n) where
  written := Or.inr ⟨_, n, rfl, digits_toDigits n, rfl⟩
  plus := nofun
  zero := nofun
  signedZero := fun _ eq => positive (toDigits_eq_cons_zero (List.cons.inj eq).2)

/-- **Numbers are printed in their canonical form.** -/
theorem canonical_toString (z : Int) : Canonical (toString z).toList z := by
  cases z with
  | ofNat n =>
      have text : (toString (Int.ofNat n)).toList = Nat.toDigits 10 n := by
        show (toString n).toList = _
        rw [Nat.toString_eq_ofList_toDigits, String.toList_ofList]
      rw [text]
      exact canonical_natural n
  | negSucc n =>
      have text : (toString (Int.negSucc n)).toList = '-' :: Nat.toDigits 10 (n + 1) := by
        show ("-" ++ toString (n + 1)).toList = _
        rw [Nat.toString_eq_ofList_toDigits, String.toList_append, String.toList_ofList,
          String.toList_ofList, List.singleton_append]
      rw [text]
      exact canonical_negative (Nat.succ_ne_zero n)

end Regex.Decimal
