import Microcode.Text.CodePoint

/-!
# Encodings of JSON texts

JSON may be sent in UTF-8, UTF-16 or UTF-32. A byte order mark settles which. In its
absence the zero bytes among the first four tell, since a JSON text begins with an
ASCII character. Bytes that are not valid in the encoding are refused, but half of a
surrogate pair by itself is accepted.
-/

namespace Microcode.Json

/-- The order of the bytes of a unit. -/
inductive ByteOrder where
  | bigEndian
  | littleEndian
  deriving DecidableEq

/-- An encoding of text. -/
inductive Encoding where
  | utf8
  | utf16 (order : ByteOrder)
  | utf32 (order : ByteOrder)
  deriving DecidableEq

namespace Encoding

/-- The encoding of a text without a byte order mark. -/
def ofZeros : List UInt8 → Encoding
  | first :: second :: third :: fourth :: _ =>
    if first = 0 then
      if second = 0 then .utf32 .bigEndian else .utf16 .bigEndian
    else if second = 0 then
      if third = 0 ∧ fourth = 0 then .utf32 .littleEndian else .utf16 .littleEndian
    else .utf8
  | [first, second] =>
    if first = 0 then .utf16 .bigEndian
    else if second = 0 then .utf16 .littleEndian
    else .utf8
  | _ => .utf8

/-- The encoding of a text, and the text behind its byte order mark. -/
def detect : List UInt8 → Encoding × List UInt8
  | 0x00 :: 0x00 :: 0xFE :: 0xFF :: rest => (.utf32 .bigEndian, rest)
  | 0xFF :: 0xFE :: 0x00 :: 0x00 :: rest => (.utf32 .littleEndian, rest)
  | 0xFE :: 0xFF :: rest => (.utf16 .bigEndian, rest)
  | 0xFF :: 0xFE :: rest => (.utf16 .littleEndian, rest)
  | 0xEF :: 0xBB :: 0xBF :: rest => (.utf8, rest)
  | bytes => (ofZeros bytes, bytes)

/-- The code point of a number, if it is small enough. -/
def pointOfCode? (code : Nat) : Option CodePoint :=
  if code < 0x110000 then some (.ofCode code) else none

/-- The six bits of a byte that continues a character. -/
def continuation? (byte : UInt8) : Option Nat :=
  if 0x80 ≤ byte ∧ byte < 0xC0 then some (byte.toNat - 0x80) else none

/-- Decodes UTF-8. The shortest form is required. -/
def decodeUtf8 : List UInt8 → Option Text
  | [] => some []
  | first :: rest =>
    if first < 0x80 then do
      let behind ← decodeUtf8 rest
      return .ofCode first.toNat :: behind
    else if 0xC2 ≤ first ∧ first < 0xE0 then
      match rest with
      | second :: rest => do
        let code := (first.toNat - 0xC0) * 0x40 + (← continuation? second)
        let behind ← decodeUtf8 rest
        return .ofCode code :: behind
      | _ => none
    else if 0xE0 ≤ first ∧ first < 0xF0 then
      match rest with
      | second :: third :: rest => do
        let code := ((first.toNat - 0xE0) * 0x40 + (← continuation? second)) * 0x40
          + (← continuation? third)
        if code < 0x800 then none
        let point ← pointOfCode? code
        let behind ← decodeUtf8 rest
        return point :: behind
      | _ => none
    else if 0xF0 ≤ first ∧ first < 0xF5 then
      match rest with
      | second :: third :: fourth :: rest => do
        let code := (((first.toNat - 0xF0) * 0x40 + (← continuation? second)) * 0x40
          + (← continuation? third)) * 0x40 + (← continuation? fourth)
        if code < 0x10000 then none
        let point ← pointOfCode? code
        let behind ← decodeUtf8 rest
        return point :: behind
      | _ => none
    else none

/-- Two bytes as a unit. -/
def unit16 : ByteOrder → UInt8 → UInt8 → Nat
  | .bigEndian, first, second => first.toNat * 0x100 + second.toNat
  | .littleEndian, first, second => second.toNat * 0x100 + first.toNat

/-- The units of UTF-16. -/
def units16? (order : ByteOrder) : List UInt8 → Option (List Nat)
  | [] => some []
  | [_] => none
  | first :: second :: rest => (units16? order rest).map (unit16 order first second :: ·)

/-- The code points of UTF-16 units. -/
def ofUnits16 : List Nat → Text
  | [] => []
  | [unit] => [.ofCode unit]
  | first :: second :: rest =>
    if 0xD800 ≤ first ∧ first < 0xDC00 ∧ 0xDC00 ≤ second ∧ second < 0xE000 then
      .ofCode (0x10000 + (first - 0xD800) * 0x400 + (second - 0xDC00)) :: ofUnits16 rest
    else .ofCode first :: ofUnits16 (second :: rest)

/-- Four bytes as a unit. -/
def unit32 : ByteOrder → UInt8 → UInt8 → UInt8 → UInt8 → Nat
  | .bigEndian, first, second, third, fourth =>
    unit16 .bigEndian first second * 0x10000 + unit16 .bigEndian third fourth
  | .littleEndian, first, second, third, fourth =>
    unit16 .littleEndian third fourth * 0x10000 + unit16 .littleEndian first second

/-- Decodes UTF-32. -/
def decodeUtf32 (order : ByteOrder) : List UInt8 → Option Text
  | [] => some []
  | first :: second :: third :: fourth :: rest => do
    let point ← pointOfCode? (unit32 order first second third fourth)
    let behind ← decodeUtf32 order rest
    return point :: behind
  | _ => none

/-- Decodes bytes. -/
def decode : Encoding → List UInt8 → Option Text
  | .utf8, bytes => decodeUtf8 bytes
  | .utf16 order, bytes => (units16? order bytes).map ofUnits16
  | .utf32 order, bytes => decodeUtf32 order bytes

end Encoding

/-- The code points of a JSON text, in whichever encoding it is sent. -/
def decodeText? (bytes : List UInt8) : Option Text :=
  let (encoding, behind) := Encoding.detect bytes
  encoding.decode behind

end Microcode.Json
