import EventChannel.Text.Blank

/-! A list is written with one blank between its elements. An element that is empty or holds a blank
or one of the characters with a meaning of their own stands in braces. -/

namespace EventChannel.Text

/-- A character that an element shows only inside braces. -/
def needsBraces (c : Char) : Bool :=
  isBlank c || ['{', '}', '"', ';', '$', '[', ']', '\\'].contains c

/-- One element as it stands in a list. -/
def listElement (text : List Char) : List Char :=
  if text.isEmpty || text.any needsBraces then '{' :: text ++ ['}'] else text

/-- The elements with a blank between them. -/
def joinElements (elements : List (List Char)) : List Char :=
  [' '].intercalate elements

/-- The text of a list. -/
def renderList (items : List (List Char)) : List Char :=
  joinElements (items.map listElement)

/-- A text without special characters is its own element. -/
theorem listElement_of_plain {text : List Char} (nonempty : text ≠ [])
    (plain : ∀ c ∈ text, needsBraces c = false) : listElement text = text := by
  have h : text.any needsBraces = false := by simpa using plain
  cases text with
  | nil => exact absurd rfl nonempty
  | cons c rest => simp [listElement, h]

end EventChannel.Text
