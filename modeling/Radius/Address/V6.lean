import Radius.Address.V4
import Radius.Text.Digits

/-!
# `Radius.Address.V6`: IPv6 addresses

An address is eight groups of sixteen bits. In text the groups are hexadecimal with colons
between them; one run of zero groups may be left out between two colons, and the last two
groups may be written as an IPv4 address. The writer leaves out the first of the longest
runs of at least two zero groups, and writes an IPv4 address that is mapped into IPv6 with
its dots.
-/

set_option autoImplicit false

namespace Radius

/-- An IPv6 address: eight groups, most significant first. -/
@[ext] structure V6 where
  groups : List UInt16
  length_groups : groups.length = 8
  deriving DecidableEq

namespace V6

instance : Inhabited V6 := ⟨List.replicate 8 0, rfl⟩

/-- The address with these groups, when there are eight of them. -/
def ofGroups? (groups : List UInt16) : Option V6 :=
  if h : groups.length = 8 then some ⟨groups, h⟩ else none

/-- The address as a number below `2 ^ 128`. -/
def toNat (address : V6) : Nat :=
  address.groups.foldl (fun acc group => acc * 65536 + group.toNat) 0

/-- The start and the length of the first of the longest runs of zero groups. -/
def longestZeroRun (groups : List UInt16) : Nat × Nat :=
  let runs := (List.range groups.length).map fun start =>
    (start, ((groups.drop start).takeWhile (· == 0)).length)
  runs.foldl (fun longest run => if longest.2 < run.2 then run else longest) (0, 0)

/-- Groups with colons between them. -/
def writtenGroups (groups : List UInt16) : List Char :=
  Text.joined [':'] (groups.map fun group => Text.hexDigits group.toNat)

/-- The bytes of two groups as an IPv4 address. -/
def embedded (high low : UInt16) : V4 :=
  ⟨UInt8.ofNat (high.toNat / 256), UInt8.ofNat high.toNat,
    UInt8.ofNat (low.toNat / 256), UInt8.ofNat low.toNat⟩

/-- The written form of an address. -/
def written (address : V6) : List Char :=
  match address.groups with
  | [0, 0, 0, 0, 0, 0xFFFF, high, low] =>
    [':', ':', 'f', 'f', 'f', 'f', ':'] ++ (embedded high low).written
  | groups =>
    let (start, length) := longestZeroRun groups
    if length < 2 then writtenGroups groups
    else
      writtenGroups (groups.take start) ++ [':', ':']
        ++ writtenGroups (groups.drop (start + length))

/-- The text of an address. -/
def text (address : V6) : String :=
  String.ofList address.written

/-- One to four hexadecimal digits. -/
def group? (text : List Char) : Option UInt16 :=
  if text.length = 0 ∨ 4 < text.length then none
  else (Text.hexNumber? text).map UInt16.ofNat

/-- Groups between colons. The last field may be an IPv4 address, which fills two groups, if
`dotted` allows it. -/
def groups? (dotted : Bool) : List (List Char) → Option (List UInt16)
  | [] => some []
  | [last] =>
    match if dotted then V4.read? last else none with
    | some embedded =>
      some [UInt16.ofNat (bigEndianValue [embedded.a, embedded.b]),
        UInt16.ofNat (bigEndianValue [embedded.c, embedded.d])]
    | none => (group? last).map ([·])
  | field :: others =>
    match group? field, groups? dotted others with
    | some group, some rest => some (group :: rest)
    | _, _ => none

/-- The groups on one side of two colons: none at all, or groups between colons. -/
def side? (dotted : Bool) (text : List Char) : Option (List UInt16) :=
  if text.isEmpty then some [] else groups? dotted (Text.fields ':' text)

/-- The texts before and after the first two colons in a row. -/
def elision? : List Char → Option (List Char × List Char)
  | ':' :: ':' :: rest => some ([], rest)
  | c :: rest => (elision? rest).map fun (front, back) => (c :: front, back)
  | [] => none

/-- The address that a text spells. Two colons stand for at least one group. -/
def read? (text : List Char) : Option V6 :=
  match elision? text with
  | none =>
    match groups? true (Text.fields ':' text) with
    | some groups => ofGroups? groups
    | none => none
  | some (front, back) =>
    match side? false front, side? true back with
    | some front, some back =>
      if front.length + back.length < 8 then
        ofGroups? (front ++ List.replicate (8 - (front.length + back.length)) 0 ++ back)
      else none
    | _, _ => none

end V6

end Radius
