import EventChannel.Text.Blank
import EventChannel.Text.Decimal
import Mathlib.Data.List.Induction

/-! Reading digit by digit with a limit gives the number that the digits spell, if it is below the
limit: what has been read never gets smaller again. -/

namespace EventChannel.Text

/-- The value of a digit string is that of the library's reader. -/
theorem decimalValue_eq (digits : List Char) :
    decimalValue digits = Nat.ofDigitChars 10 digits 0 := by
  simp [decimalValue, digitValue, Nat.ofDigitChars, Nat.mul_comm]

theorem decimalValue_toDigits (n : Nat) : decimalValue (Nat.toDigits 10 n) = n := by
  rw [decimalValue_eq, Nat.ofDigitChars_ten_toDigits]

theorem decimalValue_zeros (zeros : Nat) (digits : List Char) :
    decimalValue (List.replicate zeros '0' ++ digits) = decimalValue digits := by
  induction zeros with
  | zero => rfl
  | succ zeros ih => rw [List.replicate_succ, List.cons_append, decimalValue_zero_cons, ih]

theorem isDecimal_iff {text : List Char} :
    isDecimal text = true ↔ text ≠ [] ∧ ∀ c ∈ text, c.isDigit = true := by
  simp [isDecimal]

theorem isDecimal_zeros_toDigits (zeros n : Nat) :
    isDecimal (List.replicate zeros '0' ++ Nat.toDigits 10 n) = true := by
  rw [isDecimal_iff]
  refine ⟨by simp [Nat.toDigits_ne_nil], fun c hMem => ?_⟩
  rcases List.mem_append.1 hMem with hZero | hDigit
  · rw [List.eq_of_mem_replicate hZero]
    rfl
  · exact Nat.isDigit_of_mem_toDigits (by decide) (by decide) hDigit

theorem isBlank_of_isDigit {c : Char} (digit : c.isDigit = true) : isBlank c = false := by
  have hRange : 48 ≤ c.toNat ∧ c.toNat ≤ 57 := Char.isDigit_iff_toNat.1 digit
  simp [isBlank]
  omega

/-- Decimal digits are trimmed as they are, also out of the blanks around them. -/
theorem trim_padded_decimal {digits front back : List Char} (decimal : isDecimal digits = true)
    (hFront : ∀ c ∈ front, isBlank c = true) (hBack : ∀ c ∈ back, isBlank c = true) :
    trim (front ++ digits ++ back) = digits := by
  have noBlank : ∀ c ∈ digits, isBlank c = false :=
    fun c hMem => isBlank_of_isDigit ((isDecimal_iff.1 decimal).2 c hMem)
  rw [trim_padded digits hFront hBack]
  exact trim_eq_self (fun c hHead => noBlank c (List.mem_of_head? hHead))
    (fun c hLast => noBlank c (List.mem_of_getLast? hLast))

/-- A number that fits is read as it is spelled, and no other is read. -/
theorem uint32?_eq (digits : List Char) :
    uint32? digits =
      if decimalValue digits < UInt32.size then some (decimalValue digits).toUInt32 else none := by
  induction digits using List.reverseRecOn with
  | nil => rfl
  | append_singleton digits c ih =>
    rw [uint32?] at ih ⊢
    rw [List.foldlM_append, ih, decimalValue_concat]
    by_cases fits : decimalValue digits < UInt32.size
    · have hRead : (decimalValue digits).toUInt32.toNat = decimalValue digits :=
        Nat.mod_eq_of_lt fits
      simp [fits, hRead]
    · have higher : ¬decimalValue digits * 10 + digitValue c < UInt32.size := by omega
      simp [fits, higher]

end EventChannel.Text
