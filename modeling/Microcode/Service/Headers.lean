import Microcode.Text.AsciiCase
import Microcode.Text.Blank
import Microcode.Text.Lowercase
import Microcode.Text.Pieces

/-!
# Header fields

The header of a request is a list of named fields. A field is found whatever the case of
its name, and hyphens and underscores are not told apart. Several fields of one name
count as one, whose values are joined by commas. The content type is an exception: only
the first field counts, and a hyphen is a hyphen.
-/

namespace Microcode.Service

/-- The fields of a header, in order. -/
abbrev Headers := List (String × String)

namespace Headers

/-- The form in which names are compared. -/
def comparedName (name : String) : List Char :=
  (Text.capitals name.toList).map fun character => if character = '-' then '_' else character

/-- The value of a field, if there is one. -/
def value? (headers : Headers) (name : String) : Option String :=
  match headers.filter fun (other, _) => comparedName other = comparedName name with
  | [] => none
  | fields => some (", ".intercalate (fields.map Prod.snd))

/-- A text in lower case. -/
def lower (text : String) : Text := Text.lowerCase (.ofString text)

/-- The content type, if it is given. -/
def contentType? (headers : Headers) : Option String :=
  (headers.find? fun (name, _) => lower name = lower "Content-Type").map Prod.snd

/-- Whether some value has a line break in it. Such a header cannot be sent. -/
def hasLineBreak (headers : Headers) : Bool :=
  headers.any fun (_, value) => value.toList.any fun character =>
    character == '\r' || character == '\n'

/-- Whether the fields ask to go on with a web socket. -/
def asksForWebSocket (headers : Headers) : Bool :=
  let connection := lower ((headers.value? "Connection").getD "")
  let wishes := (Text.pieces (· = .char ',') connection).map Text.strip
  wishes.contains (.ofString "upgrade")
    && lower ((headers.value? "Upgrade").getD "") = .ofString "websocket"

end Headers

end Microcode.Service
