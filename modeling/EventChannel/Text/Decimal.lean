/-! The value of a string of decimal digits, and the signed numbers that a text can spell. -/

namespace EventChannel.Text

/-- The number that a decimal digit stands for. -/
def digitValue (c : Char) : Nat := c.toNat - 48

/-- The number that a string of decimal digits spells, the first digit the highest. -/
def decimalValue (digits : List Char) : Nat :=
  digits.foldl (fun value c => value * 10 + digitValue c) 0

/-- A non-empty string of the ten decimal digits. -/
def isDecimal (text : List Char) : Bool := !text.isEmpty && text.all Char.isDigit

/-- The number spelled by decimal digits, with at most one sign in front. -/
def integer? : List Char → Option Int
  | '-' :: digits => if isDecimal digits then some (-(decimalValue digits : Int)) else none
  | '+' :: digits => if isDecimal digits then some (decimalValue digits) else none
  | digits => if isDecimal digits then some (decimalValue digits) else none

/-- The signed number of at most 64 bits that a text spells. -/
def int64? (text : List Char) : Option Int :=
  (integer? text).filter fun n => Int64.minValue.toInt ≤ n && n ≤ Int64.maxValue.toInt

/-- The number of at most 32 bits that a string of decimal digits spells, read digit by digit; none
as soon as what has been read does not fit. -/
def uint32? (digits : List Char) : Option UInt32 :=
  digits.foldlM (fun value c =>
    let value := value.toNat * 10 + digitValue c
    if value < UInt32.size then some value.toUInt32 else none) 0

/-- One more digit at the end multiplies by ten and adds its value. -/
@[simp] theorem decimalValue_concat (digits : List Char) (c : Char) :
    decimalValue (digits ++ [c]) = decimalValue digits * 10 + digitValue c := by
  simp [decimalValue]

/-- Zeros in front do not count. -/
@[simp] theorem decimalValue_zero_cons (digits : List Char) :
    decimalValue ('0' :: digits) = decimalValue digits := by
  simp [decimalValue, digitValue]

end EventChannel.Text
