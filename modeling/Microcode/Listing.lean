import Microcode.Instruction.Decode
import Microcode.Instruction.Render
import Microcode.Log
import Microcode.Symbol.Table

/-!
# Listings

A buffer of bytes is read as big-endian words and listed one instruction a line.
The address of the first word is given, addresses grow by four and wrap at
`2 ^ 32`. In front of an instruction stand the labels of the symbols that some
instruction of the buffer refers to and that have this address. A subroutine
label is set off by a blank line, unless it would be the first line.

A buffer that is not a whole number of words has no listing at all.
-/

namespace Microcode

/-- The reason why a buffer cannot be listed: its size is no multiple of four. -/
structure Unaligned where
  size : Int
  deriving DecidableEq

/-- The wording of a refused buffer. -/
def Unaligned.message (refusal : Unaligned) : String :=
  "data was not aligned to four-byte size (was " ++ Text.Numeral.decimal refusal.size ++ " byte"
    ++ (if refusal.size > 1 then "s" else "") ++ " sized)"

namespace Listing

/-- Where microcode is usually loaded. -/
def defaultAddress : Int := 0x84000000

/-- A word of a buffer, where it stands and what it says. -/
structure Row where
  address : Int
  word : Int
  instruction : Instruction
  deriving DecidableEq

/-- The word at an address; the address is taken modulo `2 ^ 32`. -/
def Row.read (address word : Int) : Row where
  address := address % 0x100000000
  word := word
  instruction := Instruction.decode word (address % 0x100000000)

/-- Four bytes as a word, the most significant first. -/
def bigEndian (first second third fourth : UInt8) : Int :=
  ((first.toNat * 256 + second.toNat) * 256 + third.toNat) * 256 + fourth.toNat

/-- The complete words of a buffer. -/
def words : List UInt8 → List Int
  | first :: second :: third :: fourth :: rest =>
    bigEndian first second third fourth :: words rest
  | _ => []

/-- A word as four bytes, the most significant first. -/
def bytesOfWord (word : Int) : List UInt8 :=
  [24, 16, 8, 0].map fun bit => UInt8.ofBitVec (Bits.field bit 8 word)

/-- Words as bytes. -/
def bytes (words : List Int) : List UInt8 := words.flatMap bytesOfWord

/-- Words at consecutive addresses. -/
def rowsFrom (address : Int) : List Int → List Row
  | [] => []
  | word :: rest => Row.read address word :: rowsFrom (address + 4) rest

/-- The rows of a buffer. -/
def rows (data : List UInt8) (base : Int) : Except Unaligned (List Row) :=
  if data.length % 4 = 0 then .ok (rowsFrom base (words data))
  else .error ⟨data.length⟩

/-- A line of a listing. -/
inductive Line where
  /-- Sets off a subroutine. -/
  | blank
  | label (symbol : Symbol)
  | instruction (row : Row)
  deriving DecidableEq

/-- The text of a line. -/
def Line.text (style : PrintStyle) : Line → String
  | .blank => ""
  | .label symbol => symbol.name ++ ":"
  | .instruction row =>
    "/* " ++ Text.Numeral.word row.address ++ " " ++ Text.Numeral.word row.word ++ " */\t"
      ++ row.instruction.render style

/-- The symbols that rows refer to. -/
def symbols (rows : List Row) : SymbolTable :=
  SymbolTable.empty.discover (rows.map Row.instruction)

/-- The lines of a label. A subroutine label that is not the first line is set off. -/
def labelLines (first : Bool) (symbol : Symbol) : List Line :=
  if symbol.kind = .subroutine ∧ first = false then [.blank, .label symbol] else [.label symbol]

/-- The lines of the labels at one address. -/
def labelBlock (first : Bool) : List Symbol → List Line
  | [] => []
  | symbol :: rest => labelLines first symbol ++ labelBlock false rest

/-- The lines of rows under a symbol table. -/
def layoutFrom (table : SymbolTable) (first : Bool) : List Row → List Line
  | [] => []
  | row :: rest =>
    labelBlock first (table.labelsAt row.address) ++ .instruction row :: layoutFrom table false rest

/-- The lines of a buffer's rows. -/
def layout (rows : List Row) : List Line := layoutFrom (symbols rows) true rows

/-- The lines of a buffer. -/
def lines (style : PrintStyle) (data : List UInt8) (base : Int) :
    Except Unaligned (List String) :=
  (rows data base).map fun rows => (layout rows).map (Line.text style)

/-- The listing as one text in which every line is ended. -/
def text (style : PrintStyle) (data : List UInt8) (base : Int) : Except Unaligned String :=
  (lines style data base).map fun lines => String.join (lines.map (· ++ "\n"))

/-- What is reported about a decoded word. -/
def wordEvents (word address : Int) : List Log.Event :=
  match Instruction.decode word address with
  | .unsupported word => [.unsupportedWord word address]
  | _ => []

/-- What is reported about discovered symbols. -/
def symbolEvents (instructions : List Instruction) : List Log.Event :=
  (SymbolTable.referenced instructions).map .symbolDiscovered

/-- What is reported while a buffer's words are decoded. -/
def decodeEvents (rows : List Row) : List Log.Event :=
  rows.flatMap fun row => wordEvents row.word row.address

/-- What is reported while rows are listed: first the words that are no
instructions, then the symbols, then a summary. -/
def rowsEvents (rows : List Row) : List Log.Event :=
  decodeEvents rows ++ symbolEvents (rows.map Row.instruction)
    ++ [.bufferDecoded rows.length (symbols rows).size]

/-- What is reported while a buffer is listed. A refused buffer is not reported here. -/
def events (data : List UInt8) (base : Int) : List Log.Event :=
  match rows data base with
  | .ok rows => rowsEvents rows
  | .error _ => []

/-- A jump to the second word gives it a label that is set off by a blank line. -/
example : text {} [0x08, 0, 0, 1, 0, 0, 0, 0] 0 = .ok
    ("/* 00000000 08000001 */\tj subr_00000004\n" ++ "\n" ++ "subr_00000004:\n"
      ++ "/* 00000004 00000000 */\tnop\n") := by
  rfl

end Listing

end Microcode
