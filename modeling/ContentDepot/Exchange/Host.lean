import ContentDepot.Text.DomainLabel
import ContentDepot.Text.Hex
import ContentDepot.Text.Lowering

/-!
# Hosts of URLs

The host of a URL is an address of four decimal numbers, an address of
hexadecimal groups in brackets, or a name. Among ASCII characters every name is
admitted; one with other characters has to be a domain name.

* `isNumeric`, `isGrouped`: the two forms of addresses.
* `isValid`: the rule for a host.
-/

namespace ContentDepot.Host

/-! ## Addresses of four numbers -/

/-- How far a host is read as four numbers: how many separators are past, and whether a digit
follows the last one. -/
abbrev Reach := Nat × Bool

/-- How far a host can be read after one more character; any character separates. -/
def advance (c : Char) (r : Reach) : List Reach :=
  (if c.isDigit then [(r.1, true)] else []) ++
    (if r.2 && r.1 < 3 then [(r.1 + 1, false)] else [])

/-- Whether a host is of the form of four numbers, whatever stands between them. -/
def looksNumeric (host : List Char) : Bool :=
  (host.foldl (fun reached c => (reached.flatMap (advance c)).eraseDups) [(0, false)]).contains
    (3, true)

/-- Whether the characters are a number below 256 without a superfluous zero. -/
def isOctet (cs : List Char) : Bool :=
  !cs.isEmpty && cs.length ≤ 3 && cs.all Char.isDigit && (cs == ['0'] || cs.head? != some '0') &&
    cs.foldl (fun n c => 10 * n + (c.toNat - 48)) 0 < 256

/-- Whether a host is an address of four numbers. -/
def isNumeric (host : List Char) : Bool :=
  let octets := host.splitOn '.'
  octets.length == 4 && octets.all isOctet

/-! ## Addresses of groups -/

/-- Whether the characters are a group of hexadecimal digits. -/
def isGroup (cs : List Char) : Bool :=
  !cs.isEmpty && cs.length ≤ 4 && cs.all fun c => (Text.Hex.value? c).isSome

/-- The groups of an address, where an address of four numbers at the end counts as two. -/
def groupsOf? (address : List Char) : Option (List (List Char)) :=
  let groups := address.splitOn ':'
  if groups.length < 3 then none
  else match groups.getLast? with
    | some tail =>
      if tail.contains '.' then
        if isNumeric tail then some (groups.dropLast ++ [['0'], ['0']]) else none
      else some groups
    | none => none

/-- Whether the groups on one side of a gap are an address's: an empty one may only stand at
the outer end, beside the gap. -/
def isSide (groups : List (List Char)) : Bool := groups == [[]] || groups.all isGroup

/-- How many groups the side of a gap has. -/
def sizeOf (groups : List (List Char)) : Nat := if groups == [[]] then 0 else groups.length

/-- Whether the groups make an address: eight, or fewer around one gap. -/
def areAddress (groups : List (List Char)) : Bool :=
  let inner := groups.dropLast.drop 1
  if !inner.contains [] then groups.length == 8 && groups.all isGroup
  else if (inner.filter List.isEmpty).length > 1 then false
  else
    let before := groups.take 1 ++ inner.takeWhile (!·.isEmpty)
    let after := groups.drop (before.length + 1)
    isSide before && isSide after && sizeOf before + sizeOf after < 8

/-- Whether the characters between brackets are an address of groups. A zone may follow it,
after a percent sign. -/
def isGrouped (cs : List Char) : Bool :=
  let zone := cs.dropWhile (· != '%')
  let hasZone := zone.length > 1 && !(zone.drop 1).contains '%'
  (zone.isEmpty || hasZone) &&
    match groupsOf? (cs.takeWhile (· != '%')) with
    | some groups => areAddress groups
    | none => false

/-! ## Hosts -/

/-- The characters between brackets, if a host stands in brackets. -/
def bracketed? (host : List Char) : Option (List Char) :=
  match host with
  | '[' :: rest => if rest.getLast? == some ']' then some rest.dropLast else none
  | _ => none

/-- Whether the host of a URL is valid. -/
def isValid (host : List Char) : Bool :=
  if host.isEmpty then true
  else if looksNumeric host then isNumeric host
  else match bracketed? host with
    | some address => isGrouped address
    | none =>
      host.all (·.toNat < 0x80) ||
        Text.DomainLabel.isDomain (Text.lower (String.ofList host)).toList

end ContentDepot.Host
