import EventChannel.Proofs.Text.Decimal
import Mathlib

/-! The integers that are read are those that a text spells with at most one sign and that 64 bits
can hold. -/

namespace EventChannel.Text

/-- The signs that may stand in front of a number, none among them, and the factor that each stands
for. -/
inductive Sign : List Char → Int → Prop
  | absent : Sign [] 1
  | plus : Sign ['+'] 1
  | minus : Sign ['-'] (-1)

/-- A text spells an integer if it is a string of decimal digits with at most one sign in front. -/
inductive SpellsInteger : List Char → Int → Prop
  | signed {sign digits : List Char} {factor : Int} (hSign : Sign sign factor)
      (nonempty : digits ≠ []) (hDigits : ∀ c ∈ digits, c.isDigit = true) :
      SpellsInteger (sign ++ digits) (factor * Nat.ofDigitChars 10 digits 0)

variable {text sign digits : List Char} {factor n : Int}

theorem integer?_signed (hSign : Sign sign factor) (decimal : isDecimal digits = true) :
    integer? (sign ++ digits) = some (factor * decimalValue digits) := by
  cases hSign with
  | plus => simp [integer?, decimal]
  | minus => simp [integer?, decimal]
  | absent =>
    rw [List.nil_append, Int.one_mul]
    unfold integer?
    split
    · simp [isDecimal] at decimal
    · simp [isDecimal] at decimal
    · rw [if_pos decimal]

theorem exists_sign_of_integer? (h : integer? text = some n) :
    ∃ sign digits factor, Sign sign factor ∧ isDecimal digits = true ∧ text = sign ++ digits := by
  unfold integer? at h
  split at h
  · exact ⟨_, _, _, .minus, (Option.ite_none_right_eq_some.1 h).1, rfl⟩
  · exact ⟨_, _, _, .plus, (Option.ite_none_right_eq_some.1 h).1, rfl⟩
  · exact ⟨_, _, _, .absent, (Option.ite_none_right_eq_some.1 h).1, rfl⟩

theorem integer?_eq_some_iff : integer? text = some n ↔ SpellsInteger text n := by
  constructor
  · intro h
    obtain ⟨sign, digits, factor, hSign, decimal, rfl⟩ := exists_sign_of_integer? h
    rw [integer?_signed hSign decimal, Option.some.injEq] at h
    obtain ⟨nonempty, hDigits⟩ := isDecimal_iff.1 decimal
    rw [← h, decimalValue_eq]
    exact .signed hSign nonempty hDigits
  · rintro ⟨hSign, nonempty, hDigits⟩
    rw [integer?_signed hSign (isDecimal_iff.2 ⟨nonempty, hDigits⟩), decimalValue_eq]

/-- The integers that are read are those that a text spells and 64 bits can hold. -/
theorem int64?_eq_some_iff :
    int64? text = some n ↔ SpellsInteger text n ∧ -2 ^ 63 ≤ n ∧ n < 2 ^ 63 := by
  rw [int64?, Option.filter_eq_some_iff, integer?_eq_some_iff, Bool.and_eq_true,
    decide_eq_true_eq, decide_eq_true_eq, Int64.toInt_minValue, Int64.toInt_maxValue,
    Int.le_sub_one_iff]

theorem isAlpha_of_isDigit {c : Char} (digit : c.isDigit = true) : c.isAlpha = false := by
  have hRange : 48 ≤ c.toNat ∧ c.toNat ≤ 57 := Char.isDigit_iff_toNat.1 digit
  simp [Char.isAlpha, Char.isUpper, Char.isLower, UInt32.le_iff_toNat_le]
  omega

/-- There are no letters in the text of an integer. -/
theorem SpellsInteger.isAlpha_eq_false (spells : SpellsInteger text n) :
    ∀ c ∈ text, c.isAlpha = false := by
  obtain ⟨hSign, -, hDigits⟩ := spells
  intro c hMem
  rcases List.mem_append.1 hMem with hMem | hMem
  · cases hSign with
    | absent => cases hMem
    | plus => rw [List.mem_singleton.1 hMem]; rfl
    | minus => rw [List.mem_singleton.1 hMem]; rfl
  · exact isAlpha_of_isDigit (hDigits c hMem)

end EventChannel.Text
