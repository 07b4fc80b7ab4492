import EventChannel.Address.Basic
import EventChannel.Text.Decimal

/-! Four decimal octets without leading zeros, or up to eight groups of at most four hexadecimal
digits, where one `::` stands for at least one zero group and the last two groups may be written as
an address of the old family. In the address of a socket, brackets enclose the groups, and the scope
may follow them after a percent sign. -/

namespace EventChannel

/-- The parts of a text between the occurrences of a mark. -/
def splitAtChar (mark : Char) (text : List Char) : List (List Char) :=
  text.foldr (fun c parts =>
    match parts with
    | [] => [[c]]
    | part :: rest => if c == mark then [] :: part :: rest else (c :: part) :: rest) [[]]

/-- The texts before and after the first `::`. -/
def splitAtGap : List Char → Option (List Char × List Char)
  | ':' :: ':' :: rest => some ([], rest)
  | c :: rest => (splitAtGap rest).map fun (front, back) => (c :: front, back)
  | [] => none

/-- A number below 256 in at most three digits, without leading zeros. -/
def octet? (text : List Char) : Option UInt8 :=
  if Text.isDecimal text && text.length ≤ 3 && (text.length == 1 || text.head? != some '0') then
    let value := Text.decimalValue text
    if value < 256 then some value.toUInt8 else none
  else none

def octets? (text : List Char) : Option (UInt8 × UInt8 × UInt8 × UInt8) :=
  match (splitAtChar '.' text).mapM octet? with
  | some [a, b, c, d] => some (a, b, c, d)
  | _ => none

/-- The number that a hexadecimal digit stands for. -/
def hexDigit? (c : Char) : Option Nat :=
  if c.isDigit then some (c.toNat - 48)
  else if 'a' ≤ c && c ≤ 'f' then some (c.toNat - 87)
  else if 'A' ≤ c && c ≤ 'F' then some (c.toNat - 55)
  else none

/-- One to four hexadecimal digits. -/
def group? (text : List Char) : Option UInt16 :=
  if text.isEmpty || 4 < text.length then none
  else (text.mapM hexDigit?).map fun digits =>
    (digits.foldl (fun value digit => value * 16 + digit) 0).toUInt16

/-- The last part of a written address: one group, or two written as four octets. -/
def lastGroups? (text : List Char) : Option (List UInt16) :=
  match octets? text with
  | some (a, b, c, d) =>
    some [a.toUInt16 <<< 8 ||| b.toUInt16, c.toUInt16 <<< 8 ||| d.toUInt16]
  | none => (group? text).map ([·])

/-- Groups with colons between them; only the last part may be written as octets. -/
def groups? (text : List Char) : Option (List UInt16) :=
  let parts := splitAtChar ':' text
  match parts.dropLast.mapM group?, lastGroups? (parts.getLastD []) with
  | some front, some back => some (front ++ back)
  | _, _ => none

/-- The same for the part before a `::`, where no octets may stand. -/
def plainGroups? (text : List Char) : Option (List UInt16) := (splitAtChar ':' text).mapM group?

/-- Nothing, or groups as a reader finds them. -/
def groupsOrNone (reader : List Char → Option (List UInt16)) (text : List Char) :
    Option (List UInt16) :=
  if text.isEmpty then some [] else reader text

/-- Eight groups as an address. -/
def ofGroups? (groups : List UInt16) : Option HostAddress :=
  if h : groups.toArray.size = 8 then some (.v6 ⟨groups.toArray, h⟩) else none

def v6? (text : List Char) : Option HostAddress :=
  match splitAtGap text with
  | none => (groups? text).bind ofGroups?
  | some (front, back) =>
    match groupsOrNone plainGroups? front, groupsOrNone groups? back with
    | some head, some tail =>
      if head.length + tail.length ≤ 7 then
        ofGroups? (head ++ List.replicate (8 - head.length - tail.length) 0 ++ tail)
      else none
    | _, _ => none

namespace HostAddress

/-- The host address that a text spells. -/
def ofText? (text : String) : Option HostAddress :=
  match octets? text.toList with
  | some (a, b, c, d) => some (.v4 a b c d)
  | none => v6? text.toList

end HostAddress

/-- The port that a string of decimal digits spells. -/
def port? (text : List Char) : Option Port :=
  if Text.isDecimal text && Text.decimalValue text < 65536 then
    some (Text.decimalValue text).toUInt16
  else none

/-- The scope that a string of decimal digits spells. -/
def scope? (text : List Char) : Option Scope :=
  if Text.isDecimal text && Text.decimalValue text < UInt32.size then
    some (Text.decimalValue text).toUInt32
  else none

/-- A host of the new family, with a scope if one is written. -/
def scopedV6? (text : List Char) : Option (HostAddress × Scope) :=
  match splitAtChar '%' text with
  | [host] => (v6? host).map (·, 0)
  | [host, scope] =>
    match v6? host, scope? scope with
    | some host, some scope => some (host, scope)
    | _, _ => none
  | _ => none

namespace SocketAddress

/-- The socket address that a text spells. -/
def ofText? (text : String) : Option SocketAddress :=
  match text.toList with
  | '[' :: rest =>
    match splitAtChar ']' rest with
    | [host, ':' :: port] =>
      match scopedV6? host, port? port with
      | some (host, scope), some port => some { host, port, scope }
      | _, _ => none
    | _ => none
  | whole =>
    match splitAtChar ':' whole with
    | [host, port] =>
      match octets? host, port? port with
      | some (a, b, c, d), some port => some { host := .v4 a b c d, port }
      | _, _ => none
    | _ => none

end SocketAddress

end EventChannel
