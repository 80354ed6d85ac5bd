import Microcode.Listing
import Microcode.Text.DecimalDigit
import Microcode.Text.IntegerLiteral
import Microcode.Text.Quoted

/-!
# Arguments of the command line

Options have a short spelling, a long one or both. A long spelling may be shortened
as long as it stays unambiguous. A value stands behind its option as an argument of
its own, or is attached: behind an equals sign, or directly behind a short spelling.
What is attached to a short spelling that takes no value spells further short options.

Two minus signs end the options. Where they are attached to an option in place of a
value, the option is set, but to nothing.

An argument is read as an option if it begins with a minus sign, unless it is only
that sign, a negative number or a text with a space in it that is no option. What
belongs to no option is not understood, since there are no other arguments.

Arguments are taken in order, and the first problem ends the reading. Problems with
ambiguous spellings come before all others, missing options come near the end, and
arguments that are not understood come last.
-/

namespace Microcode.CommandLine

/-- The options. -/
inductive Flag where
  | help
  | input
  | output
  | offset
  | size
  | vram
  | numericRegisters
  | vendorNames
  | verbose
  deriving DecidableEq

namespace Flag

/-- The spellings of an option. -/
def spellings : Flag → List String
  | .help => ["-h", "--help"]
  | .input => ["-i", "--input"]
  | .output => ["-o", "--output"]
  | .offset => ["-p", "--offset"]
  | .size => ["-n", "--size"]
  | .vram => ["-v", "--vram"]
  | .numericRegisters => ["--numeric-regs"]
  | .vendorNames => ["--vendor-cop0-names"]
  | .verbose => ["--verbose"]

/-- All options, in the order in which the help shows them. -/
def all : List Flag :=
  [.help, .input, .output, .offset, .size, .vram, .numericRegisters, .vendorNames, .verbose]

/-- Whether an option has a value. -/
def takesValue : Flag → Bool
  | .input | .output | .offset | .size | .vram => true
  | .help | .numericRegisters | .vendorNames | .verbose => false

/-- The options that must be given. -/
def required : List Flag := [.input, .size]

/-- All spellings with what they spell. -/
def table : List (String × Flag) :=
  all.flatMap fun flag => flag.spellings.map (·, flag)

/-- How problems name an option. -/
def name (flag : Flag) : String := "/".intercalate flag.spellings

end Flag

/-- Why arguments are not understood. -/
inductive Problem where
  /-- A shortened spelling that could be several. -/
  | ambiguous (argument : String) (spellings : List String)
  | valueExpected (flag : Flag)
  | badInteger (flag : Flag) (value : String)
  /-- A value attached to an option that takes none. -/
  | valueIgnored (flag : Flag) (value : String)
  | missing (flags : List Flag)
  | unrecognized (arguments : List String)
  deriving DecidableEq

/-- The wording of a problem. -/
def Problem.message : Problem → String
  | .ambiguous argument spellings =>
    "ambiguous option: " ++ argument ++ " could match " ++ ", ".intercalate spellings
  | .valueExpected flag => "argument " ++ flag.name ++ ": expected one argument"
  | .badInteger flag value =>
    "argument " ++ flag.name ++ ": invalid parse_int value: " ++ Text.quotedString value
  | .valueIgnored flag value =>
    "argument " ++ flag.name ++ ": ignored explicit argument " ++ Text.quotedString value
  | .missing flags =>
    "the following arguments are required: " ++ ", ".intercalate (flags.map Flag.name)
  | .unrecognized arguments => "unrecognized arguments: " ++ " ".intercalate arguments

/-- What an argument is taken for. -/
inductive Token where
  | plain (argument : String)
  /-- An option in its short or its long spelling, with the text attached to it. -/
  | option (flag : Flag) (short : Bool) (attached : Option (List Char))
  /-- Looks like an option, but is none. -/
  | unknown (argument : String)
  deriving DecidableEq

/-- Whether a spelling has a single minus sign. -/
def isShort (spelling : List Char) : Bool :=
  match spelling with
  | '-' :: second :: _ => second != '-'
  | _ => false

/-- Whether a text is a minus sign followed by digits, or by a fraction. A line end may
follow. -/
def isNegativeNumber (text : List Char) : Bool :=
  match text with
  | '-' :: rest =>
    let number := if rest.getLast? = some '\n' then rest.dropLast else rest
    let isDigit (character : Char) : Bool := (Text.decimalDigit? (.char character)).isSome
    match number.span isDigit with
    | (whole, []) => !whole.isEmpty
    | (_, '.' :: fraction) => !fraction.isEmpty && fraction.all isDigit
    | _ => false
  | _ => false

/-- The option that a text spells exactly. -/
def Flag.ofSpelling? (spelling : List Char) : Option Flag :=
  Flag.table.lookup (String.ofList spelling)

/-- A text cut at its first equals sign. -/
def cutAtSign (text : List Char) : List Char × Option (List Char) :=
  match text.span (· != '=') with
  | (spelling, _ :: attached) => (spelling, some attached)
  | (spelling, []) => (spelling, none)

/-- The options that a text could be a shortened or extended spelling of. -/
def candidates (text : List Char) : List (String × Token) :=
  if isShort text then
    Flag.table.filterMap fun (spelling, flag) =>
      if spelling.toList = text.take 2 then
        some (spelling, .option flag true (some (text.drop 2)))
      else none
  else
    let (beginning, attached) := cutAtSign text
    Flag.table.filterMap fun (spelling, flag) =>
      if beginning.isPrefixOf spelling.toList then
        some (spelling, .option flag false attached)
      else none

/-- What an argument that begins with a minus sign is taken for. -/
def classifyDashed (argument : String) : Except Problem Token :=
  let text := argument.toList
  let (spelling, attached) := cutAtSign text
  match Flag.ofSpelling? text with
  | some flag => .ok (.option flag (isShort text) none)
  | none =>
    if text.length = 1 then .ok (.plain argument)
    else
      match attached, Flag.ofSpelling? spelling with
      | some _, some flag => .ok (.option flag (isShort spelling) attached)
      | _, _ =>
        match candidates text with
        | [(_, token)] => .ok token
        | [] =>
          if isNegativeNumber text || text.contains ' ' then .ok (.plain argument)
          else .ok (.unknown argument)
        | several => .error (.ambiguous argument (several.map Prod.fst))

/-- What an argument is taken for. -/
def classify (argument : String) : Except Problem Token :=
  if argument.toList.head? = some '-' then classifyDashed argument
  else .ok (.plain argument)

/-- What arguments are taken for. Two minus signs end the options; they are not
understood themselves, and no option takes them or what is behind them for a value. -/
def tokens : List String → Except Problem (List Token)
  | [] => .ok []
  | argument :: rest =>
    if argument = "--" then .ok ((argument :: rest).map .unknown)
    else do
      let token ← classify argument
      return token :: (← tokens rest)

/-- What an option that takes a value is set to. -/
inductive Setting (α : Type) where
  | value (value : α)
  /-- Nothing: two minus signs stand in place of the value. -/
  | blank
  deriving DecidableEq

/-- What a text that is attached to an option sets it to. -/
def Setting.ofAttached (text : List Char) : Setting String :=
  if text = ['-', '-'] then .blank else .value (String.ofList text)

/-- What the arguments say. -/
structure Arguments where
  input : Setting String
  output : Option (Setting String) := none
  offset : Setting Int := .value 0
  size : Setting Int
  vram : Setting Int := .value Listing.defaultAddress
  numericRegisters : Bool := false
  vendorNames : Bool := false
  verbose : Bool := false
  deriving DecidableEq

/-- What the arguments have said so far. -/
structure Draft where
  input : Option (Setting String) := none
  output : Option (Setting String) := none
  offset : Setting Int := .value 0
  size : Option (Setting Int) := none
  vram : Setting Int := .value Listing.defaultAddress
  numericRegisters : Bool := false
  vendorNames : Bool := false
  verbose : Bool := false
  /-- Arguments that belong to no option. -/
  extras : List String := []

/-- How reading the arguments can end early. -/
inductive Exit where
  /-- The help was asked for. -/
  | help
  | problem (problem : Problem)
  deriving DecidableEq

/-- The integer that an option is set to. -/
def integer (flag : Flag) : Setting String → Except Exit (Setting Int)
  | .blank => .ok .blank
  | .value text =>
    match Text.IntegerLiteral.parse (.ofString text) with
    | .ok value => .ok (.value value)
    | .error _ => .error (.problem (.badInteger flag text))

/-- Takes one option with what it is set to. An option that takes no value is set to
nothing. -/
def Draft.take (draft : Draft) (setting : Setting String) : Flag → Except Exit Draft
  | .help => .error .help
  | .input => .ok { draft with input := some setting }
  | .output => .ok { draft with output := some setting }
  | .offset => do return { draft with offset := ← integer .offset setting }
  | .size => do return { draft with size := some (← integer .size setting) }
  | .vram => do return { draft with vram := ← integer .vram setting }
  | .numericRegisters => .ok { draft with numericRegisters := true }
  | .vendorNames => .ok { draft with vendorNames := true }
  | .verbose => .ok { draft with verbose := true }

/-- The options in one argument. -/
structure Cluster where
  /-- Options with what the argument sets them to. -/
  taken : List (Flag × Setting String) := []
  /-- An option at the end with nothing attached to it. -/
  last : Option Flag := none

/-- The cluster with an option in front that takes no value. -/
def Cluster.after (cluster : Cluster) (flag : Flag) : Cluster :=
  { cluster with taken := (flag, .blank) :: cluster.taken }

/-- The options in an argument, given the first one and what is attached to it. -/
def cluster (flag : Flag) (short : Bool) (attached : List Char) : Except Problem Cluster :=
  if flag.takesValue then .ok { taken := [(flag, .ofAttached attached)] }
  else
    let ignored := Problem.valueIgnored flag (String.ofList attached)
    match attached with
    | [] => .error ignored
    | letter :: rest =>
      match if short then Flag.ofSpelling? ['-', letter] else none with
      | none => .error ignored
      | some next =>
        if rest.isEmpty then .ok { taken := [(flag, .blank)], last := some next }
        else (cluster next true rest).map (·.after flag)

/-- The options of a token. -/
def tokenCluster (flag : Flag) (short : Bool) : Option (List Char) → Except Problem Cluster
  | none => .ok { last := some flag }
  | some attached => cluster flag short attached

/-- Takes options in order. -/
def Draft.takeAll (draft : Draft) : List (Flag × Setting String) → Except Exit Draft
  | [] => .ok draft
  | (flag, setting) :: rest => do (← draft.take setting flag).takeAll rest

/-- What an option with nothing attached to it is set to, and the tokens behind it. -/
def followingValue (flag : Flag) (rest : List Token) :
    Except Problem (Setting String × List Token) :=
  if flag.takesValue then
    match rest with
    | .plain value :: behind => .ok (.value value, behind)
    | _ => .error (.valueExpected flag)
  else .ok (.blank, rest)

/-- The draft with an argument that belongs to no option. -/
def Draft.leave (draft : Draft) (argument : String) : Draft :=
  { draft with extras := draft.extras ++ [argument] }

/-- Reads tokens. All values of an argument's options are found before the first of
them is taken. At most `fuel` tokens are read. -/
def readTokens : Nat → Draft → List Token → Except Exit Draft
  | 0, draft, _ => .ok draft
  | _, draft, [] => .ok draft
  | fuel + 1, draft, .plain argument :: rest => readTokens fuel (draft.leave argument) rest
  | fuel + 1, draft, .unknown argument :: rest => readTokens fuel (draft.leave argument) rest
  | fuel + 1, draft, .option flag short attached :: rest => do
    let cluster ← (tokenCluster flag short attached).mapError .problem
    match cluster.last with
    | none => readTokens fuel (← draft.takeAll cluster.taken) rest
    | some last => do
      let (setting, behind) ← (followingValue last rest).mapError .problem
      readTokens fuel (← draft.takeAll (cluster.taken ++ [(last, setting)])) behind

/-- What a finished draft says. Missing options are reported before arguments that are
not understood. -/
def Draft.finish (draft : Draft) : Except Exit Arguments :=
  match draft.input, draft.size with
  | some input, some size =>
    if draft.extras.isEmpty then
      .ok {
        input, size
        output := draft.output
        offset := draft.offset
        vram := draft.vram
        numericRegisters := draft.numericRegisters
        vendorNames := draft.vendorNames
        verbose := draft.verbose }
    else .error (.problem (.unrecognized draft.extras))
  | input, size =>
    let missing := Flag.required.filter fun
      | .input => input.isNone
      | _ => size.isNone
    .error (.problem (.missing missing))

/-- Reads the arguments. -/
def Arguments.parse (arguments : List String) : Except Exit Arguments := do
  let tokens ← (tokens arguments).mapError .problem
  let draft ← readTokens tokens.length {} tokens
  draft.finish

/-- Lines as one text. -/
def unlines (lines : List String) : String := String.join (lines.map (· ++ "\n"))

/-- How the program is called. -/
def usage : List String := [
  "usage: rspdisasm [-h] -i INPUT [-o OUTPUT] [-p OFFSET] -n SIZE [-v VRAM]",
  "                 [--numeric-regs] [--vendor-cop0-names] [--verbose]"]

/-- The help. -/
def helpLines : List String := usage ++ [
  "",
  "Disassemble N64 RSP microcode",
  "",
  "options:",
  "  -h, --help            show this help message and exit",
  "  -i INPUT, --input INPUT",
  "                        Input ROM or binary",
  "  -o OUTPUT, --output OUTPUT",
  "                        Output for disassembled text (default: stdout)",
  "  -p OFFSET, --offset OFFSET",
  "                        Offset in input to begin disassembly",
  "  -n SIZE, --size SIZE  Number of bytes to disassemble",
  "  -v VRAM, --vram VRAM  vram of first instruction (default: 0x84000000)",
  "  --numeric-regs        Print registers as $8 instead of t0",
  "  --vendor-cop0-names   Print COP0 registers as SP_STATUS instead of $c4",
  "  --verbose             Enable debug logging"]

namespace Exit

/-- The exit status. -/
def status : Exit → Nat
  | .help => 0
  | .problem _ => 2

/-- What is printed. -/
def output : Exit → String
  | .help => unlines helpLines
  | .problem _ => ""

/-- What is printed to the error stream. -/
def errorOutput : Exit → String
  | .help => ""
  | .problem cause => unlines (usage ++ ["rspdisasm: error: " ++ cause.message])

end Exit

end Microcode.CommandLine
