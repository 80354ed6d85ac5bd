import Microcode.Text.HexDigit
import Microcode.Text.Pieces

/-!
# Numeric addresses of hosts

A host may be given by a number instead of a name: as four decimal octets with dots
between them, or as eight groups of hexadecimal digits with colons between them. Of the
groups, one run may be left out and the last two may be written as octets. Groups may be
followed by a percent sign and the name of a zone.
-/

namespace Microcode.Service.HostAddress

/-- Whether a text is a number up to 255 without needless zeros. -/
def isOctet (text : List Char) : Bool :=
  match text.mapM (Text.digitIn? 10) with
  | none => false
  | some digits =>
    !digits.isEmpty && digits.length ≤ 3 && Text.ofDigits 10 digits ≤ 255
      && (digits.length = 1 || digits.head? != some 0)

/-- Whether a text is an address of octets. -/
def isDotted (text : List Char) : Bool :=
  let octets := Text.pieces (· == '.') text
  octets.length = 4 && octets.all isOctet

/-- Whether a text is a group of an address. -/
def isGroup (text : List Char) : Bool :=
  !text.isEmpty && text.length ≤ 4 && text.all fun character => (Text.hexDigit? character).isSome

/-- Groups in which octets at the end are replaced by two groups, if they are valid. -/
def withoutOctets (groups : List (List Char)) : Option (List (List Char)) :=
  match groups.getLast? with
  | none => some groups
  | some last =>
    if last.contains '.' then
      if isDotted last then some (groups.dropLast ++ [['0'], ['0']]) else none
    else some groups

/-- The groups at one end of a run that is left out. A colon at the very end of the
address leaves an empty group, which is only possible next to the run. -/
def isEnd (groups : List (List Char)) : Bool := groups = [[]] || groups.all isGroup

/-- Whether groups make up an address, where an empty group inside stands for a run that
is left out. -/
def areGroups (groups : List (List Char)) : Bool :=
  let inside := groups.tail.dropLast
  match inside.filter List.isEmpty with
  | [] => groups.length = 8 && groups.all isGroup
  | [_] =>
    let front := groups.take (inside.findIdx List.isEmpty + 1)
    let back := groups.drop (inside.findIdx List.isEmpty + 2)
    isEnd front && isEnd back
      && (front.filter (!·.isEmpty)).length + (back.filter (!·.isEmpty)).length < 8
  | _ => false

/-- Whether a text is an address of groups. -/
def isGrouped (text : List Char) : Bool :=
  let (address, zone) := Text.cut (· == '%') text
  let zoneIsValid := !text.contains '%' || (!zone.isEmpty && !zone.contains '%')
  let pieces := Text.pieces (· == ':') address
  zoneIsValid && 3 ≤ pieces.length && !text.contains '/'
    && match withoutOctets pieces with
      | none => false
      | some groups => groups.length ≤ 9 && areGroups groups

/-- A run may be left out at the beginning. -/
example : isGrouped "::ffff:1.2.3.4".toList = true := by decide

/-- Only one run may be left out. -/
example : isGrouped "1::2::3".toList = false := by decide

end Microcode.Service.HostAddress
