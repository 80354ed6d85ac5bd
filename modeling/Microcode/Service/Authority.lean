import Microcode.Service.HostAddress
import Microcode.Text.IntegerLiteral
import Microcode.Text.Lowercase
import Microcode.Text.Pieces

/-!
# Authorities

The authority of a target names a host. An account may stand in front of the host, and a
colon with a number behind it. A host that is an address of groups is put in brackets.
`check` refuses authorities that cannot be taken apart, and `normalForm` takes one apart
and puts it together again, with the host in small letters.

Hosts are names with dots between their labels. The length of labels in ASCII is
limited; labels beyond ASCII are taken as they are.
-/

namespace Microcode.Service

/-- Why a target is refused. -/
inductive TargetError where
  /-- Brackets do not match. -/
  | unbalancedBrackets
  /-- Brackets hold an address of a future kind that is malformed. -/
  | badFutureAddress
  /-- Brackets hold an address of octets. -/
  | dottedInBrackets
  /-- Brackets hold something else. -/
  | badAddress (host : String)
  /-- The authority holds a character that is equivalent to a delimiter. -/
  | hiddenDelimiter (authority : String)
  /-- What stands behind the colon is no number. -/
  | badNumber (text : String)
  /-- The number has too many digits to be read. -/
  | longNumber (digits : Nat)
  | numberOutOfRange
  /-- A label of the host is empty or too long. -/
  | badLabel
  /-- The last label of the host is too long. -/
  | longLabel
  deriving DecidableEq

/-- The wording of a refused target. -/
def TargetError.message : TargetError → String
  | .unbalancedBrackets => "Invalid IPv6 URL"
  | .badFutureAddress => "IPvFuture address is invalid"
  | .dottedInBrackets => "An IPv4 address cannot be in brackets"
  | .badAddress host =>
    Text.quotedString host ++ " does not appear to be an IPv4 or IPv6 address"
  | .hiddenDelimiter authority =>
    "netloc '" ++ authority ++ "' contains invalid characters under NFKC normalization"
  | .badNumber text => "Port could not be cast to integer value as " ++ Text.quotedString text
  | .longNumber digits => (Text.IntegerLiteral.LiteralError.tooLong digits).message
  | .numberOutOfRange => "Port out of range 0-65535"
  | .badLabel => "encoding with 'idna' codec failed (UnicodeError: label empty or too long)"
  | .longLabel => "encoding with 'idna' codec failed (UnicodeError: label too long)"

namespace Authority

/-- The characters whose compatibility forms hold one of the delimiters `/?#@:`. -/
def delimiterForms : List Char := [
  '⁇', '⁈', '⁉', '℀', '℁', '℅', '℆', '⩴', '︓', '︖', '﹕', '﹖', '﹟', '﹫', '＃', '／', '：',
  '？', '＠']

/-- Whether a text is the letter `v`, hexadecimal digits, a dot and something more. -/
def isFutureAddress (host : List Char) : Bool :=
  let (digits, rest) := Text.cut (· == '.') (host.drop 1)
  !digits.isEmpty && !rest.isEmpty && digits.all fun digit => (Text.hexDigit? digit).isSome

/-- Refuses what may not stand in brackets. -/
def checkBracketed (host : List Char) : Except TargetError Unit :=
  if host.head? = some 'v' then
    if isFutureAddress host then .ok () else .error .badFutureAddress
  else if HostAddress.isDotted host then .error .dottedInBrackets
  else if HostAddress.isGrouped host then .ok ()
  else .error (.badAddress (String.ofList host))

/-- Refuses an authority that cannot be taken apart. -/
def check (authority : List Char) : Except TargetError Unit := do
  if authority.contains '[' != authority.contains ']' then throw .unbalancedBrackets
  if authority.contains '[' then
    checkBracketed (Text.cut (· == ']') (Text.cut (· == '[') authority).2).1
  if authority.any delimiterForms.contains then
    throw (.hiddenDelimiter (String.ofList authority))

/-- The host of an authority without an account, and what is behind its colon. -/
def cutNumber (authority : List Char) : List Char × List Char :=
  if authority.contains '[' then
    let (host, rest) := Text.cut (· == ']') (Text.cut (· == '[') authority).2
    (host, (Text.cut (· == ':') rest).2)
  else Text.cut (· == ':') authority

/-- A host in small letters. The name of a zone is kept. -/
def lowerHost (host : List Char) : List Char :=
  let name := host.takeWhile (· != '%')
  (Text.lowerCase (name.map .char)).map CodePoint.shown ++ host.dropWhile (· != '%')

/-- Whether a character parts the labels of a host beyond ASCII. -/
def partsLabels (character : Char) : Bool := ['.', '。', '．', '｡'].contains character

/-- Whether a label has a length that is allowed. -/
def isLabel (label : List Char) : Bool := !label.isEmpty && label.length < 64

/-- Whether a text is ASCII. -/
def isAscii (text : List Char) : Bool := text.all (·.toNat < 128)

/-- Refuses a host whose labels are empty or too long. The last label may be empty. -/
def checkLabels (host : List Char) : Except TargetError Unit :=
  let labels := Text.pieces partsLabels host
  let others := labels.dropLast
  let last := labels.getLastD []
  if host.isEmpty then .ok ()
  else if isAscii host then
    if !others.all isLabel then .error .badLabel
    else if 64 ≤ last.length then .error .longLabel
    else .ok ()
  else
    let checked := if last.isEmpty then others else labels
    if checked.all fun label => !isAscii label || isLabel label then .ok () else .error .badLabel

/-- The number that a text denotes; no text at all denotes none. -/
def readNumber (text : List Char) : Except TargetError (Option Nat) :=
  if text.isEmpty then .ok none
  else
    match text.mapM (Text.digitIn? 10) with
    | none => .error (.badNumber (String.ofList text))
    | some digits =>
      if Text.IntegerLiteral.digitLimit < digits.length then .error (.longNumber digits.length)
      else if 65535 < Text.ofDigits 10 digits then .error .numberOutOfRange
      else .ok (some (Text.ofDigits 10 digits))

/-- Whether a character stands for itself in an account. -/
def isAccountChar (character : Char) : Bool :=
  character.isAlphanum || "_.-~%!$&'()*+,;=".toList.contains character

/-- An account in which every other character is written by its bytes. -/
def escapedAccount (account : List Char) : List Char :=
  account.flatMap fun character =>
    if isAccountChar character then [character]
    else (String.singleton character).toUTF8.toList.flatMap fun byte =>
      '%' :: (Text.Numeral.paddedUpperHex 2 byte.toNat).toList

/-- The account in front of a host, with the sign that ends it. -/
def accountPart (account : List Char) : List Char :=
  let (user, password) := Text.cut (· == ':') account
  if user.isEmpty then []
  else if password.isEmpty then escapedAccount user ++ ['@']
  else escapedAccount user ++ ':' :: escapedAccount password ++ ['@']

/-- An authority put together from its parts. A number of zero is left out. -/
def normalForm (authority : List Char) : Except TargetError (List Char) := do
  let (account, place) := Text.cutLast (· == '@') authority
  let (host, number) := cutNumber place
  let host := lowerHost host
  checkLabels host
  let behind ← readNumber number
  let bracketed := if host.contains ':' then '[' :: host ++ [']'] else host
  let ending := match behind with
    | none | some 0 => []
    | some value => ':' :: (Text.Numeral.decimal value).toList
  return accountPart account ++ bracketed ++ ending

end Authority

end Microcode.Service
