import Microcode.Json.Encoding
import Microcode.Service.Authority

/-!
# Targets of requests

A target may hold a scheme and an authority in front of the path, and a query or
fragment behind it. Blanks and controls at the front are passed over, and line breaks
and tabs are dropped wherever they stand.

What is left as the path can look like a target again. It is split a second time, and
the scheme and authority that are found then are dropped. If the rest still begins with
a scheme or an authority, these are kept in normal form as a part of the path. At the
end percent escapes are resolved, which stand for bytes of UTF-8.
-/

namespace Microcode.Service

namespace Target

/-- The parts of a target that matter. -/
structure Parts where
  /-- In small letters; empty if there is none. -/
  scheme : List Char
  authority : List Char
  path : List Char
  deriving DecidableEq

/-- A target without blanks and controls at the front and without line breaks and tabs. -/
def cleaned (target : List Char) : List Char :=
  (target.dropWhile (·.toNat ≤ 0x20)).filter fun character =>
    character != '\t' && character != '\r' && character != '\n'

/-- Whether a character may occur in a scheme. -/
def isSchemeChar (character : Char) : Bool :=
  character.isAlphanum || character == '+' || character == '-' || character == '.'

/-- The scheme of a target and what is behind it. A scheme begins with a letter. -/
def cutScheme (target : List Char) : List Char × List Char :=
  match target.span isSchemeChar with
  | (first :: others, ':' :: rest) =>
    if first.isAlpha then ((first :: others).map Char.toLower, rest) else ([], target)
  | _ => ([], target)

/-- Whether a character ends an authority. -/
def endsAuthority (character : Char) : Bool :=
  character == '/' || character == '?' || character == '#'

/-- The authority of a target without a scheme and what is behind it. -/
def cutAuthority : List Char → List Char × List Char
  | '/' :: '/' :: rest => rest.span (!endsAuthority ·)
  | target => ([], target)

/-- The parts of a target. -/
def split (target : List Char) : Except TargetError Parts := do
  let (scheme, rest) := cutScheme (cleaned target)
  let (authority, rest) := cutAuthority rest
  Authority.check authority
  let path := rest.takeWhile fun character => character != '?' && character != '#'
  return { scheme, authority, path }

/-- Parts put together, with the authority in normal form. -/
def Parts.joined (parts : Parts) : Except TargetError (List Char) := do
  let authority ← Authority.normalForm parts.authority
  let place := if authority.isEmpty then parts.path else '/' :: '/' :: authority ++ parts.path
  return if parts.scheme.isEmpty then place else parts.scheme ++ ':' :: place

/-- The value of a percent escape in front of a text, and what is behind it. -/
def escape? : List Char → Option (UInt8 × List Char)
  | '%' :: first :: second :: rest => do
    let high ← Text.hexDigit? first
    let low ← Text.hexDigit? second
    return (UInt8.ofNat (16 * high + low), rest)
  | _ => none

/-- The bytes of a path, after at most `fuel` characters. -/
def bytes : Nat → List Char → List UInt8
  | 0, _ => []
  | _, [] => []
  | fuel + 1, character :: rest =>
    match escape? (character :: rest) with
    | some (byte, behind) => byte :: bytes fuel behind
    | none => (String.singleton character).toUTF8.toList ++ bytes fuel rest

/-- A path with its escapes resolved. Where the bytes are not UTF-8 throughout, every
byte beyond ASCII is replaced. -/
def unescape (path : List Char) : List Char :=
  let bytes := bytes path.length path
  match Json.Encoding.decodeUtf8 bytes with
  | some text => text.map CodePoint.shown
  | none => bytes.map fun byte => if byte < 0x80 then Char.ofNat byte.toNat else Char.ofNat 0xFFFD

end Target

/-- A target that has been resolved. -/
structure ResolvedTarget where
  scheme : List Char
  /-- The authority, or the default one. -/
  host : List Char
  /-- The path, which may be empty. -/
  path : List Char
  deriving DecidableEq

namespace Target

/-- The host of a target that names none. -/
def defaultHost : List Char := "localhost".toList

/-- Resolves a target. -/
def resolve (target : String) : Except TargetError ResolvedTarget := do
  let first ← split target.toList
  let second ← split first.path
  let third ← split second.path
  let path ← third.joined
  let host ← Authority.normalForm
    (if first.authority.isEmpty then defaultHost else first.authority)
  return { scheme := first.scheme, host, path := unescape path }

end Target

end Microcode.Service
