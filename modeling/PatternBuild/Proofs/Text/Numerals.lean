import Mathlib.Data.List.Induction

/-!
# Decimal numerals

A numeral without a leading zero is the only one of its number: reading such digits and writing the
number down again gives the same digits (`toDigits_ofDigitChars`), and the numeral of a positive
number does not start with zero (`head?_toDigits_ne_zero`).  The digits in front of
a text are the same with more behind it that starts with no digit (`takeWhile_isDigit_append`).
-/

namespace PatternBuild.Text

variable {c : Char} {cs ds more : List Char} {n : Nat}

/-! ## one digit -/

theorem isDigit_iff : c.isDigit = true ↔ 48 ≤ c.toNat ∧ c.toNat ≤ 57 := by
  simp only [Char.isDigit, Bool.and_eq_true, decide_eq_true_eq, UInt32.le_iff_toNat_le]
  exact Iff.rfl

theorem digitChar_of_isDigit (h : c.isDigit = true) : Nat.digitChar (c.toNat - 48) = c := by
  obtain ⟨hlow, hhigh⟩ := isDigit_iff.1 h
  apply Char.toNat_inj.1
  rw [Nat.toNat_digitChar_of_lt_ten (by omega)]
  omega

/-! ## rows of digits -/

/-- text that starts with no digit adds none to the digits in front of the text before it -/
theorem takeWhile_isDigit_append (h : ∀ c, more.head? = some c → c.isDigit = false) :
    (cs ++ more).takeWhile Char.isDigit = cs.takeWhile Char.isDigit := by
  induction cs with
  | nil =>
    cases more with
    | nil => rfl
    | cons c more =>
      rw [List.nil_append, List.takeWhile_cons_of_neg (by simp [h c rfl]), List.takeWhile_nil]
  | cons c cs ih => rw [List.cons_append, List.takeWhile_cons, List.takeWhile_cons, ih]

/-- digits that do not start with zero are the numeral of their value -/
theorem toDigits_ofDigitChars (h : ∀ c ∈ ds, c.isDigit = true) (hne : ds ≠ [])
    (hzero : ds.head? ≠ some '0') :
    1 ≤ Nat.ofDigitChars 10 ds 0 ∧ Nat.toDigits 10 (Nat.ofDigitChars 10 ds 0) = ds := by
  induction ds using List.reverseRecOn with
  | nil => exact absurd rfl hne
  | append_singleton ds d ih =>
    have hd : d.isDigit = true := h d (by simp)
    have hlt : d.toNat - 48 < 10 := by
      have := isDigit_iff.1 hd
      omega
    have hvalue : Nat.ofDigitChars 10 (ds ++ [d]) 0 =
        10 * Nat.ofDigitChars 10 ds 0 + (d.toNat - 48) := by
      rw [Nat.ofDigitChars_append, Nat.ofDigitChars_cons, Nat.ofDigitChars_nil]
      rfl
    by_cases hds : ds = []
    · subst hds
      have hpos : 1 ≤ d.toNat - 48 := by
        obtain ⟨hlow, _⟩ := isDigit_iff.1 hd
        have hne : d.toNat ≠ 48 := fun he => hzero (congrArg some (Char.toNat_inj.1 he))
        omega
      rw [hvalue, Nat.ofDigitChars_nil, Nat.mul_zero, Nat.zero_add, Nat.toDigits_of_lt_base hlt,
        digitChar_of_isDigit hd]
      exact ⟨hpos, rfl⟩
    · have hhead : ds.head? ≠ some '0' := by
        obtain ⟨c, rest, rfl⟩ := List.exists_cons_of_ne_nil hds
        exact hzero
      obtain ⟨hpos, hdigits⟩ := ih (fun c hc => h c (List.mem_append_left _ hc)) hds hhead
      refine ⟨by omega, ?_⟩
      rw [hvalue, ← Nat.toDigits_append_toDigits (by decide) hpos hlt, hdigits,
        Nat.toDigits_of_lt_base hlt, digitChar_of_isDigit hd]

theorem head?_toDigits_ne_zero (h : 1 ≤ n) : (Nat.toDigits 10 n).head? ≠ some '0' := by
  induction n using Nat.strongRecOn with
  | ind n ih =>
    rw [Nat.toDigits_eq_if (by decide)]
    split
    · intro hzero
      have : n = 0 := Nat.digitChar_eq_zero.1 (Option.some.inj hzero)
      omega
    · have hfront : (Nat.toDigits 10 (n / 10)).head? ≠ some '0' := ih (n / 10) (by omega) (by omega)
      obtain ⟨c, rest, hc⟩ := List.exists_cons_of_ne_nil (Nat.toDigits_ne_nil (b := 10) (n := n / 10))
      rw [hc] at hfront ⊢
      exact hfront

end PatternBuild.Text
