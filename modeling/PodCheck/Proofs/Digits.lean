/-! # Decimal digits

Numbers are printed by their decimal digits, and read by adding up the values of the digits. Main
statement: the digits of a number add up to it, with zeros before them or not
(`Digits.value_toDigits`). -/

namespace PodCheck.Digits

/-- What digits add up to. -/
def value (digits : List Char) : Nat := digits.foldl (fun n c => n * 10 + (c.toNat - 48)) 0

/-- The digits of a number add up to it, with zeros before them or not. -/
theorem value_toDigits (zeros n : Nat) :
    value (List.replicate zeros '0' ++ Nat.toDigits 10 n) = n := by
  have hzeros : ∀ k, (List.replicate k '0').foldl (fun n c => n * 10 + (c.toNat - 48)) 0 = 0 := by
    intro k
    induction k with
    | zero => rfl
    | succ k ih => exact ih
  have h := Nat.ofDigitChars_ten_toDigits (n := n)
  rw [Nat.ofDigitChars_eq_foldl] at h
  rw [value, List.foldl_append, hzeros]
  simpa only [Nat.mul_comm, Char.reduceToNat] using h

/-- The digits of a number are digits, with zeros before them or not. -/
theorem isDigit_of_mem {zeros n : Nat} {c : Char}
    (h : c ∈ List.replicate zeros '0' ++ Nat.toDigits 10 n) : c.isDigit = true := by
  rcases List.mem_append.1 h with h | h
  · rw [List.eq_of_mem_replicate h]
    rfl
  · exact Nat.isDigit_of_mem_toDigits (by decide) (by decide) h

/-- The digits of a number begin with a zero only if the number is zero. -/
theorem eq_zero_of_head? {n : Nat} (h : (Nat.toDigits 10 n).head? = some '0') : n = 0 := by
  induction n using Nat.strongRecOn with
  | ind n ih =>
    by_cases hn : n < 10
    · rw [Nat.toDigits_of_lt_base hn] at h
      simpa using h
    · rw [Nat.toDigits_of_base_le (by decide) (by omega), List.head?_append] at h
      have hdiv : n / 10 = 0 := by
        apply ih (n / 10) (by omega)
        rcases hhead : (Nat.toDigits 10 (n / 10)).head? with _ | c
        · simp at hhead
        · rw [hhead] at h
          exact h
      omega

/-- Digits are taken as far as they go. -/
theorem takeWhile_append {digits rest : List Char} (hdigits : ∀ c ∈ digits, c.isDigit = true)
    (hrest : ∀ c, rest.head? = some c → c.isDigit = false) :
    (digits ++ rest).takeWhile Char.isDigit = digits
      ∧ (digits ++ rest).dropWhile Char.isDigit = rest := by
  rw [List.takeWhile_append_of_pos hdigits, List.dropWhile_append_of_pos hdigits]
  cases rest with
  | nil => simp
  | cons c rest =>
    have hc : c.isDigit = false := hrest c rfl
    simp [hc]

end PodCheck.Digits
