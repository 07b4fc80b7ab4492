import EventChannel.Report
import EventChannel.Text.Blank
import EventChannel.Text.Decimal
import EventChannel.Text.ListSyntax

/-! Names that may be abbreviated, the values options have, booleans as scripts write them, and the
text of a listing. -/

namespace EventChannel

/-- The value of an option: one text, or a list of texts. -/
inductive OptionValue
  | text (value : String)
  | list (items : List String)
  deriving DecidableEq

namespace OptionValue

def flag (on : Bool) : OptionValue := .text (if on then "1" else "0")

def empty : OptionValue := .text ""

/-- The value as a list. A text is a list of one element, the empty text that of none. -/
def asList : OptionValue → List String
  | .text value => if value.isEmpty then [] else [value]
  | .list items => items

def display : OptionValue → String
  | .text value => value
  | .list items => String.ofList (Text.renderList (items.map String.toList))

end OptionValue

/-- Options with their values, in the order of a listing. -/
abbrev OptionListing := List (String × OptionValue)

/-- A listing as one flat list of names and values. -/
def OptionListing.render (listing : OptionListing) : String :=
  String.ofList <| Text.renderList <|
    listing.flatMap fun (name, value) => [name.toList, value.display.toList]

/-- The part of an option name after its `-`, if there is any. -/
def optionStem? (name : String) : Option (List Char) :=
  match name.toList with
  | '-' :: c :: stem => some (c :: stem)
  | _ => none

/-- The first of the candidates that a name abbreviates. -/
def matchOption (name : String) (candidates : List String) : Option String :=
  (optionStem? name).bind fun stem => candidates.find? fun candidate =>
    stem.isPrefixOf candidate.toList

/-- The words for truth values. -/
def booleanWords : List (String × Bool) :=
  [("true", true), ("yes", true), ("on", true), ("false", false), ("no", false), ("off", false)]

/-- The truth value of the only word that a text abbreviates. -/
def booleanWord? (text : List Char) : Option Bool :=
  if text.isEmpty then none
  else match booleanWords.filter fun (word, _) => text.isPrefixOf word.toList with
    | [(_, value)] => some value
    | _ => none

/-- The truth value that a text spells as a number or as a word. Case and the blanks around it do
not matter. -/
def parseBoolean (text : String) : Except Misuse Bool :=
  let trimmed := Text.trim text.toList
  match Text.int64? trimmed with
  | some n => .ok (n != 0)
  | none =>
    match booleanWord? (trimmed.map Char.toLower) with
    | some value => .ok value
    | none => .error (.invalidBoolean text)

end EventChannel
