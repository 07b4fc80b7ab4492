import EventChannel.Text.Shapeless

/-! A text between quotation marks, with escapes for quotation marks, backslashes and the characters
that have no shape. -/

namespace EventChannel.Text

/-- A character as it stands between quotation marks. -/
def quotedChar (c : Char) : List Char :=
  match c with
  | '"' => ['\\', '"']
  | '\\' => ['\\', '\\']
  | '\n' => ['\\', 'n']
  | '\r' => ['\\', 'r']
  | '\t' => ['\\', 't']
  | '\x00' => ['\\', '0']
  | c => if isShapeless c then '\\' :: 'u' :: '{' :: Nat.toDigits 16 c.toNat ++ ['}'] else [c]

/-- The text between quotation marks. -/
def quoted (text : String) : String :=
  String.ofList ('"' :: text.toList.flatMap quotedChar ++ ['"'])

end EventChannel.Text
