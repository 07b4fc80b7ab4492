import EventChannel.Address.Basic

/-! Octets in decimal with dots between them. Groups in small hexadecimal digits with colons between
them, the longest run of at least two zero groups shortened to `::`, the first of several; an
embedded address of the old family keeps its dots. A socket address ends in its port, and brackets
keep a written group from being taken for one. A scope stands in the brackets after a percent
sign. -/

namespace EventChannel

/-- A number in small hexadecimal digits. -/
def hexText (n : Nat) : String := String.ofList (Nat.toDigits 16 n)

/-- Where the longest run of zero groups starts and how long it is, the first of several. -/
def longestZeroRun (groups : List UInt16) : Nat × Nat :=
  let step : Nat × Nat × Nat × Nat → UInt16 → Nat × Nat × Nat × Nat :=
    fun (index, length, start, best) group =>
      let length := if group == 0 then length + 1 else 0
      if best < length then (index + 1, length, index + 1 - length, length)
      else (index + 1, length, start, best)
  let (_, _, start, best) := groups.foldl step (0, 0, 0, 0)
  (start, best)

/-- Groups with colons between them. -/
def joinGroups (groups : List UInt16) : String :=
  ":".intercalate (groups.map fun group => hexText group.toNat)

namespace HostAddress

def text : HostAddress → String
  | v4 a b c d => ".".intercalate ([a, b, c, d].map fun octet => toString octet.toNat)
  | v6 groups =>
    match (v6 groups).embeddedV4? with
    | some (v4 a b c d) =>
      "::ffff:" ++ ".".intercalate ([a, b, c, d].map fun octet => toString octet.toNat)
    | _ =>
      let (start, length) := longestZeroRun groups.toList
      if length < 2 then joinGroups groups.toList
      else joinGroups (groups.toList.take start) ++ "::" ++
        joinGroups (groups.toList.drop (start + length))

end HostAddress

namespace SocketAddress

def text (address : SocketAddress) : String :=
  let host := address.host.text
  let scope := if address.scope == 0 then "" else "%" ++ toString address.scope.toNat
  (if address.isV4 then host else "[" ++ host ++ scope ++ "]") ++ ":" ++
    toString address.port.toNat

end SocketAddress

end EventChannel
