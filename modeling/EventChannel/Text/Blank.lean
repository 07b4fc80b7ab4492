/-! The characters with the `White_Space` property, and texts without them at either end. -/

namespace EventChannel.Text

/-- A character that has the `White_Space` property. -/
def isBlank (c : Char) : Bool :=
  let n := c.toNat
  (0x09 ≤ n && n ≤ 0x0D) || n == 0x20 || n == 0x85 || n == 0xA0 || n == 0x1680 ||
    (0x2000 ≤ n && n ≤ 0x200A) || n == 0x2028 || n == 0x2029 || n == 0x202F || n == 0x205F ||
    n == 0x3000

/-- The text without the blanks at its two ends. -/
def trim (text : List Char) : List Char :=
  ((text.dropWhile isBlank).reverse.dropWhile isBlank).reverse

/-- A text whose first and last characters are no blanks is its own trimmed form. -/
theorem trim_eq_self {text : List Char} (head : ∀ c ∈ text.head?, isBlank c = false)
    (last : ∀ c ∈ text.getLast?, isBlank c = false) : trim text = text := by
  have front : ∀ s : List Char, (∀ c ∈ s.head?, isBlank c = false) → s.dropWhile isBlank = s := by
    intro s h
    cases s with
    | nil => rfl
    | cons c rest => simp [h c (by simp)]
  have back : text.reverse.dropWhile isBlank = text.reverse :=
    front _ (by simpa [List.head?_reverse] using last)
  rw [trim, front text head, back, List.reverse_reverse]

/-- Blanks around a text do not change its trimmed form. -/
theorem trim_padded {front back : List Char} (text : List Char)
    (hFront : ∀ c ∈ front, isBlank c = true) (hBack : ∀ c ∈ back, isBlank c = true) :
    trim (front ++ text ++ back) = trim text := by
  rw [trim, trim, List.append_assoc, List.dropWhile_append_of_pos hFront, List.dropWhile_append]
  split
  · next hNone =>
    have behind : (back ++ []).dropWhile isBlank = [] := List.dropWhile_append_of_pos hBack
    rw [List.append_nil] at behind
    rw [List.isEmpty_iff.1 hNone, behind]
  · rw [List.reverse_append, List.dropWhile_append_of_pos (by simpa using hBack)]

end EventChannel.Text
