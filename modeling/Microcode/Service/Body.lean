import Microcode.Json.Encoding
import Microcode.Json.Reader
import Microcode.Service.Headers

/-!
# Bodies of requests

A body is read only if its media type says that it is JSON. A body of another type,
or one that is no JSON, counts as none. Nesting that is too deep is an error of its
own.

A body that is sent in chunks is not waited for and counts as empty.
-/

namespace Microcode.Service.Body

/-- The media type that a content type names: what stands in front of the first
semicolon, without spaces and tabs around it and in lower case. -/
def mediaType (contentType : String) : Text :=
  let named := (Text.cut (· == ';') contentType.toList).1
  Text.lowerCase
    ((Text.stripWhere (fun character => character == ' ' || character == '\t') named).map .char)

/-- Whether a media type is JSON or an application type built on it. -/
def isJson (mediaType : Text) : Bool :=
  mediaType = .ofString "application/json"
    || ((Text.ofString "application/").isPrefixOf mediaType
      && (Text.ofString "+json").isSuffixOf mediaType)

/-- The bytes of a body that are read. -/
def received (headers : Headers) (bytes : List UInt8) : List UInt8 :=
  if headers.value? "Transfer-Encoding" = some "chunked" then [] else bytes

/-- The value in a body, if there is one. -/
def value (headers : Headers) (bytes : List UInt8) :
    Except Json.Container (Option Json.Value) :=
  if isJson (mediaType (headers.contentType?.getD "")) then
    match Json.decodeText? (received headers bytes) with
    | none => .ok none
    | some text =>
      match Json.read text with
      | .ok value => .ok (some value)
      | .error .malformed => .ok none
      | .error (.tooDeep container) => .error container
  else .ok none

end Microcode.Service.Body
