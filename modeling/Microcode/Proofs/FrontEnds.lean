import Microcode.Proofs.ByteSpellings
import Microcode.Proofs.RequestOutcomes
import Microcode.Proofs.RunOutcomes
import Microcode.Service.Dispatch

/-!
# One text from every front end

Words are listed by a call with their bytes, into a sink, in a session as bytes or as
machine code, by a request and by a run of the command line. Each way comes to the bytes
by itself, has its own terms for the print style, and may or may not reduce the address
modulo `2 ^ 32`. Requests come through any dispatch, and runs are on any system that has
the files and accepts what it is given.

All of them give the same text. Whatever spelling the words have, reading it gives the
bytes; and a listing reduces the address of every row, so that reducing the first one
before changes nothing.
-/

namespace Microcode

namespace Listing

section Delivery

/-- A listing depends on its address only modulo the size of the address space. -/
theorem text_mod (style : PrintStyle) (data : List UInt8) (base : Int) :
    text style data (base % 0x100000000) = text style data base := by
  by_cases aligned : data.length % 4 = 0
  · rw [text_of_aligned _ _ _ aligned, text_of_aligned _ _ _ aligned, rowsFrom_mod]
  · simp only [text, lines, rows, if_neg aligned]

/-- What a sink that refuses nothing has accepted is the text of the buffer. -/
theorem deliver_of_text {ε : Type} {style : PrintStyle} {data : List UInt8} {base : Int}
    {printed : String} (result : text style data base = .ok printed) :
    ∃ accepted, deliver (fun _ => (none : Option ε)) style data base = .ok { accepted } ∧
      String.join accepted = printed := by
  obtain ⟨found, listed, rfl⟩ := (map_eq_ok_iff _ _ _).mp result
  refine ⟨pieces found, ?_, join_pieces found⟩
  rw [deliver, listed, Except.map, deliverFrom_complete _ fun _ _ => rfl]

end Delivery

end Listing

namespace MachineCode

section Spellings

/-- The spellings of words, one a line, with blank lines anywhere. -/
inductive SpelledLines : List Int → List Text → Prop where
  | nothing : SpelledLines [] []
  | blank {words : List Int} {rest : List Text} (line : Text)
      (isBlank : ∀ point ∈ line, Text.isBlank point) (behind : SpelledLines words rest) :
      SpelledLines words (line :: rest)
  | word {words : List Int} {rest : List Text} (word : Int) (line : Text)
      (spelled : HexWord.SpelledLine word line) (behind : SpelledLines words rest) :
      SpelledLines (word :: words) (line :: rest)

/-- A line of white space is blank. -/
theorem isBlankLine_of_blank {line : Text} (isBlank : ∀ point ∈ line, Text.isBlank point) :
    isBlankLine line = true := by
  have stripped : Text.strip (line ++ [] ++ []) = [] :=
    HexWord.stripWhere_surrounded Text.isBlank line [] [] isBlank (by simp) (by simp)
  rw [List.append_nil, List.append_nil] at stripped
  rw [isBlankLine, stripped, List.isEmpty_nil]

/-- The lines that spell words are read as these words, and none is refused. -/
theorem SpelledLines.readFrom_eq {words : List Int} {lines : List Text}
    (spelled : SpelledLines words lines) (number : Nat) : readFrom number lines = (words, []) := by
  induction spelled generalizing number with
  | nothing => rfl
  | blank line isBlank behind inductionHypothesis =>
    rw [readFrom_blank number _ (isBlankLine_of_blank isBlank), inductionHypothesis]
  | word word line spelled behind inductionHypothesis =>
    have filled : isBlankLine line = false := List.isEmpty_eq_false_iff.mpr spelled.strip_ne_nil
    rw [readFrom_word number _ filled spelled.parse_eq, inductionHypothesis]

/-- The lines that spell words are listed like the bytes of the words. -/
theorem SpelledLines.listMachineCode_eq {words : List Int} {lines : List Text}
    (spelled : SpelledLines words lines) (session : Session) {base : Int} {printed : String}
    (result : Listing.text session.style (Listing.bytes words) base = .ok printed) :
    session.listMachineCode lines base = .ok ⟨printed, []⟩ := by
  have reading : read lines = (words, []) := spelled.readFrom_eq 1
  obtain ⟨other, listed, listing⟩ :=
    Session.listMachineCode_of_accepted session lines base (by rw [reading])
  rw [reading] at listed
  rw [listing, Except.ok.inj (listed.symm.trans result)]

end Spellings

end MachineCode

namespace Service

section Requests

open Json.Value

/-- Members that ask for an address and a print style. An option counts by its truth, and
one that is absent is true. -/
structure AsksFor (members : Members) (style : PrintStyle) (base : Int) : Prop where
  address : addressOf members = .ok base
  registerNames :
    ((member? "reg_names" members).map isTruthy).getD true = style.registerNames
  systemNames :
    ((member? "armips_cop0_names" members).map isTruthy).getD true = style.numberedSystemNames

/-- Members that name words as their input, by their bytes or by lines. -/
inductive Gives (members : Members) (words : List Int) : Prop where
  | bytes (characters : List Char) (only : member? "machine_code" members = none)
      (named : member? "data" members = some (.string (characters.map .char)))
      (spelling : Text.HexBytes.Spelling (Listing.bytes words) characters) : Gives members words
  | machineCode (lines : List Text)
      (named : member? "machine_code" members = some (.array (lines.map .string)))
      (spelled : MachineCode.SpelledLines words lines) : Gives members words

/-- The style that is asked for is the style of the request. -/
theorem AsksFor.style_eq {members : Members} {asked : PrintStyle} {base : Int}
    (asks : AsksFor members asked base) : style members = asked := by
  rw [style, asks.registerNames, asks.systemNames]

/-- The base of a request is the address that is asked for, reduced. -/
theorem AsksFor.requestAddress_eq {members : Members} {asked : PrintStyle} {base : Int}
    (asks : AsksFor members asked base) : requestAddress members = .ok (base % 0x100000000) :=
  (requestAddress_eq_ok_iff members _).mpr ⟨base, asks.address, rfl⟩

/-- Words that are given can be read and are listed like their bytes. -/
theorem Gives.exists_input {members : Members} {words : List Int} (gives : Gives members words)
    {style : PrintStyle} {base : Int} {printed : String}
    (result : Listing.text style (Listing.bytes words) base = .ok printed) :
    ∃ given, input members = .ok given ∧ Job.listing ⟨style, base, given⟩ = .ok printed := by
  cases gives with
  | bytes characters only named spelling =>
    refine ⟨.bytes (Listing.bytes words), ?_, ?_⟩
    · exact (input_eq_bytes_iff members _).mpr ⟨only, _, named, spelling.parse_eq⟩
    · exact (mapError_eq_ok_iff _ _ _).mpr result
  | machineCode lines named spelled =>
    refine ⟨.machineCode lines, (input_eq_machineCode_iff members lines).mpr named, ?_⟩
    have listing := spelled.listMachineCode_eq { style } result
    simp only [Job.listing, listing, List.isEmpty_nil, if_true]

/-- Members that give words are listed like the bytes of the words. -/
theorem listing_of_gives {members : Members} {asked : PrintStyle} {base : Int} {words : List Int}
    (asks : AsksFor members asked base) (gives : Gives members words) {printed : String}
    (result : Listing.text asked (Listing.bytes words) base = .ok printed) :
    listing (some (.object members)) = .ok printed := by
  rw [← Listing.text_mod] at result
  obtain ⟨given, read, listed⟩ := gives.exists_input result
  have named : (member? "data" members).isSome ∨ (member? "machine_code" members).isSome := by
    cases gives with
    | bytes characters only named spelling => exact .inl (by rw [named]; rfl)
    | machineCode lines named spelled => exact .inr (by rw [named]; rfl)
  have found := (members?_eq_some_iff (some (.object members)) members).mpr ⟨rfl, named⟩
  rw [← asks.style_eq] at listed
  exact (listing_eq_ok_iff _ _).mpr ⟨members, _, given, found, asks.requestAddress_eq, read, listed⟩

/-- A request that arrives is answered with the listing of its members. -/
theorem Dispatch.answers_listing {Request : Type} (dispatch : Dispatch Request)
    {request : Request} {members : Members} {printed : String} (arrives : dispatch.arrives request)
    (carries : dispatch.carried request = .ok (some (.object members)))
    (listed : listing (some (.object members)) = .ok printed) :
    dispatch.answers request (200, listingBody printed []) := by
  have reply : listingReply (dispatch.carried request) = (200, listingBody printed []) := by
    simp only [carries, listingReply, listed]
  rw [← reply]
  exact dispatch.handed request arrives

end Requests

end Service

namespace CommandLine

section Runs

/-- Arguments that ask for a buffer that stands somewhere in a file, at an address and in a
print style. The system can look for its position, and it fits into memory. -/
structure Arguments.Fetches (arguments : Arguments) (tree : FileTree) (limits : Limits)
    (style : PrintStyle) (data : List UInt8) (base : Int) : Prop where
  stands : ∃ path content offset, arguments.input = .value path ∧ Char.ofNat 0 ∉ path.toList ∧
    tree.read path = .ok (.file content) ∧ arguments.offset = .value offset ∧
      (0 ≤ offset ∧ offset ≤ limits.lastPosition) ∧
      (content.drop offset.toNat).take data.length = data
  size : arguments.size = .value data.length
  room : (data.length : Int) < limits.memory
  address : arguments.vram = .value base
  numericRegisters : arguments.numericRegisters = !style.registerNames
  vendorNames : arguments.vendorNames = !style.numberedSystemNames

/-- A path at which a file can be written: the system accepts it, and it leads to no
device. -/
structure FileTree.Takes (tree : FileTree) (path : String) : Prop where
  clear : Char.ofNat 0 ∉ path.toList
  placed : ∃ location, tree.place path = .ok location ∧
    ∀ device, tree.get? location ≠ some (.store (.device device))

/-- What is stored at a path that takes a file is read there. -/
theorem FileTree.Takes.read_eq {tree : FileTree} {path : String} (takes : tree.Takes path)
    (text : String) :
    ((tree.store path text).toOption.getD tree).read path = .ok (.file text.toUTF8.toList) := by
  obtain ⟨location, placed, noDevice⟩ := takes.placed
  obtain ⟨other, alsoPlaced, ⟨device, onDevice, -⟩ | ⟨-, -, read⟩⟩ := delivered_of_place placed text
  · cases Except.ok.inj (placed.symm.trans alsoPlaced)
    exact absurd onDevice (noDevice device)
  · exact read

variable {arguments : Arguments} {tree : FileTree} {files : Files} {style : PrintStyle}
  {data : List UInt8} {base : Int}

/-- A buffer that stands in a file is read. -/
theorem Arguments.Fetches.exists_slice (serves : files.Serves tree)
    (fetches : arguments.Fetches tree files.limits style data base) :
    ∃ path, arguments.slice files = .ok ⟨path, data, base⟩ := by
  obtain ⟨path, content, offset, isPath, clear, found, isOffset, bounds, stands⟩ := fetches.stands
  have count : (data.length : Int) ≠ -1 := by omega
  refine ⟨path, (arguments.slice_eq_ok_iff _ _).mpr ⟨.file content, offset, data.length, ?_⟩⟩
  constructor
  case isPath => exact isPath
  case isOpen => exact (opened_eq_ok_iff _ _ _).mpr ⟨clear, (serves.input path).trans found⟩
  case isOffset => exact isOffset
  case seek => exact (checkOffset_file_iff _ content offset).mpr bounds
  case isSize => exact fetches.size
  case room => exact (checkSize_eq_ok_iff _ _).mpr ⟨by omega, fetches.room⟩
  case bytes => rw [Store.bytes, if_neg count, Int.toNat_natCast, stands]
  case whole => rfl
  case isAddress => exact fetches.address

/-- A buffer that is read is listed at its address, reduced or not, and in the style that is
asked for. -/
theorem Arguments.Fetches.listing_eq {limits : Limits}
    (fetches : arguments.Fetches tree limits style data base)
    (path : String) {text : String} (result : Listing.text style data base = .ok text) :
    Slice.listing ⟨path, data, base⟩ arguments.style = .ok text := by
  have same : arguments.style = style := by
    rw [Arguments.style, fetches.numericRegisters, fetches.vendorNames, Bool.not_not, Bool.not_not]
  rw [same]
  exact (mapError_eq_ok_iff _ _ _).mpr ((Listing.text_mod style data base).trans result)

/-- A run without an output file prints the text of the buffer. -/
theorem Arguments.Fetches.printed_eq (serves : files.Serves tree)
    (fetches : arguments.Fetches tree files.limits style data base) {text : String}
    (result : Listing.text style data base = .ok text) (unnamed : arguments.outputFile? = none) :
    (arguments.outcome files).ending = .code 0 ∧ (arguments.outcome files).printed = text := by
  obtain ⟨path, sliced⟩ := fetches.exists_slice serves
  simp only [Arguments.outcome, sliced, unnamed, Slice.print_eq _ _ serves.print,
    fetches.listing_eq path result, and_self]

/-- A run with an output file writes the text of the buffer there. -/
theorem Arguments.Fetches.written_eq (serves : files.Serves tree)
    (fetches : arguments.Fetches tree files.limits style data base) {text output : String}
    (result : Listing.text style data base = .ok text)
    (named : arguments.outputFile? = some output) (takes : tree.Takes output) :
    (arguments.outcome files).ending = .code 0 ∧
      ((arguments.outcome files).applyTo tree).read output = .ok (.file text.toUTF8.toList) := by
  obtain ⟨path, sliced⟩ := fetches.exists_slice serves
  obtain ⟨location, placed, noDevice⟩ := takes.placed
  have isOpen : opened output (files.output output) = .ok () :=
    (opened_eq_ok_iff _ _ _).mpr
      ⟨takes.clear, (serves.output output).trans ((map_eq_ok_iff _ _ _).mpr ⟨_, placed, rfl⟩)⟩
  have accepted := serves.write output text location placed (noDevice .full)
  simp only [Arguments.outcome, sliced, named, Slice.write, fetches.listing_eq path result, isOpen,
    accepted, Outcome.applyTo, takes.read_eq, and_self]

end Runs

end CommandLine

/-- A text that every front end gives for words. -/
structure CommonText (style : PrintStyle) (words : List Int) (base : Int) (text : String) :
    Prop where
  /-- The listing of the bytes. -/
  listing : Listing.text style (Listing.bytes words) base = .ok text
  /-- What a sink that refuses nothing has accepted. -/
  sink : ∀ ε : Type, ∃ accepted,
    Listing.deliver (fun _ => (none : Option ε)) style (Listing.bytes words) base =
      .ok { accepted } ∧ String.join accepted = text
  /-- A session, whatever it has recorded, lists the bytes. -/
  bytes : ∀ records, Session.listBytes ⟨style, records⟩ (Listing.bytes words) base = .ok text
  /-- A session, whatever it has recorded, lists the words as machine code. -/
  machineCode : ∀ records lines, MachineCode.SpelledLines words lines →
    Session.listMachineCode ⟨style, records⟩ lines base = .ok ⟨text, []⟩
  /-- Through any dispatch, a request that gives the words is answered with their listing. -/
  request : ∀ (Request : Type) (dispatch : Service.Dispatch Request) (request : Request)
    (members : Service.Members), dispatch.arrives request →
    dispatch.carried request = .ok (some (.object members)) →
    Service.AsksFor members style base → Service.Gives members words →
    dispatch.answers request (200, Service.listingBody text [])
  /-- A run without an output file prints the listing. -/
  printed : ∀ (tree : CommandLine.FileTree) (files : CommandLine.Files)
    (arguments : CommandLine.Arguments), files.Serves tree →
    arguments.Fetches tree files.limits style (Listing.bytes words) base →
    arguments.outputFile? = none →
    (arguments.outcome files).ending = .code 0 ∧ (arguments.outcome files).printed = text
  /-- A run with an output file writes the listing. -/
  written : ∀ (tree : CommandLine.FileTree) (files : CommandLine.Files)
    (arguments : CommandLine.Arguments) (output : String), files.Serves tree →
    arguments.Fetches tree files.limits style (Listing.bytes words) base →
    arguments.outputFile? = some output → tree.Takes output →
    (arguments.outcome files).ending = .code 0 ∧
      ((arguments.outcome files).applyTo tree).read output = .ok (.file text.toUTF8.toList)

/-- All front ends print the same text, for all words of 32 bits, at any address and in any
print style. -/
theorem front_ends_print_alike (style : PrintStyle) (words : List Int) (base : Int) :
    ∃ text, CommonText style words base text := by
  obtain ⟨text, result⟩ := Session.exists_text_of_words style words base
  refine ⟨text, ?_⟩
  constructor
  case listing => exact result
  case sink => exact fun ε => Listing.deliver_of_text result
  case bytes => exact fun records => result
  case machineCode =>
    intro records lines spelled
    exact spelled.listMachineCode_eq ⟨style, records⟩ result
  case request =>
    intro Request dispatch request members arrives carries asks gives
    exact dispatch.answers_listing arrives carries (Service.listing_of_gives asks gives result)
  case printed =>
    intro tree files arguments serves fetches unnamed
    exact fetches.printed_eq serves result unnamed
  case written =>
    intro tree files arguments output serves fetches named takes
    exact fetches.written_eq serves result named takes

/-- A word that a request gives by its bytes, that machine code spells with its marker in
capitals behind a blank line, and that a run reads out of the middle of the file that it
then writes, is printed alike by all three. -/
theorem one_word_printed_alike :
    let body := "\x7b\"data\":\"20080005\",\"vaddr\":-4,\"reg_names\":0\x7d"
    let request : Service.Request := {
      method := "POST"
      target := "/api/disassemble"
      headers := [("Content-Type", "application/json")]
      body := body.toUTF8.toList }
    let tree : CommandLine.FileTree :=
      { entries := [(["rom.bin"], .store (.file [1, 2, 0x20, 8, 0, 5]))] }
    let arguments : CommandLine.Arguments := {
      input := .value "rom.bin"
      output := some (.value "rom.bin")
      offset := .value 2
      size := .value 4
      vram := .value (-4)
      numericRegisters := true }
    let text := "/* FFFFFFFC 20080005 */\taddi $8, $0, 5\n"
    CommonText ⟨false, true⟩ [0x20080005] (-4) text ∧
      (∃ response, request.respond = .ok response ∧ response.status = 200 ∧
        response.content = .json (some (Service.listingBody text []))) ∧
      Session.listMachineCode ⟨⟨false, true⟩, []⟩ [[], .ofString " 0X20080005"] (-4) =
        .ok ⟨text, []⟩ ∧
      ((arguments.outcome (tree.files .usual)).applyTo tree).read "rom.bin" =
        .ok (.file text.toUTF8.toList) := by
  intro body request tree arguments text
  obtain ⟨found, common⟩ := front_ends_print_alike ⟨false, true⟩ [0x20080005] (-4)
  have value : Listing.text ⟨false, true⟩ (Listing.bytes [0x20080005]) (-4) = .ok text := by rfl
  cases common.listing.symm.trans value
  -- JSON values cannot be compared, so that what is looked at in the body is checked instead.
  obtain ⟨members, carries, asks, gives⟩ : ∃ members,
      Service.Body.value request.headers request.body = .ok (some (.object members)) ∧
        Service.AsksFor members ⟨false, true⟩ (-4) ∧ Service.Gives members [0x20080005] := by
    have checked : ((Service.Body.value request.headers request.body).toOption.bind
        Service.members?).any (fun members => decide (Service.addressOf members = .ok (-4) ∧
          Service.style members = ⟨false, true⟩ ∧
          (Json.Value.member? "machine_code" members).isNone ∧
          (Json.Value.member? "data" members).bind Service.string? =
            some ((Text.HexBytes.usual [0x20, 8, 0, 5]).map .char))) = true := by decide +kernel
    obtain ⟨members, found, fits⟩ := (Option.any_eq_true _ _).mp checked
    obtain ⟨carried, received, isObject⟩ := Option.bind_eq_some_iff.mp found
    obtain ⟨address, styled, only, named⟩ := of_decide_eq_true fits
    obtain ⟨value, data, isString⟩ := Option.bind_eq_some_iff.mp named
    cases ((Service.members?_eq_some_iff _ _).mp isObject).1
    cases (Service.string?_eq_some_iff _ _).mp isString
    refine ⟨members, ?_, ⟨address, ?_, ?_⟩, ?_⟩
    · exact (toOption_eq_some_iff _ _).mp received
    · exact congrArg PrintStyle.registerNames styled
    · exact congrArg PrintStyle.numberedSystemNames styled
    · exact .bytes _ (Option.isNone_iff_eq_none.mp only) data (Text.HexBytes.spelling_usual _)
  have arrives : Service.Request.dispatch.arrives request := by
    refine ⟨?_, ⟨[], "localhost".toList, "/api/disassemble".toList⟩, ?_, ?_⟩
    · decide +kernel
    · decide +kernel
    · decide +kernel
  have spelling : HexWord.Spelling 0x20080005 (.ofString "0X20080005") :=
    .marked ['0', 'X'] "20080005".toList 0x20080005 (by decide) (by decide) (by decide)
  have spelled : HexWord.SpelledLine 0x20080005 (.ofString " 0X20080005") :=
    .surrounded [.char ' '] _ [] _ (by decide) nofun spelling nofun
  have fetches :
      arguments.Fetches tree .usual ⟨false, true⟩ (Listing.bytes [0x20080005]) (-4) := by
    have stands : (([1, 2, 0x20, 8, 0, 5] : List UInt8).drop 2).take 4 =
        Listing.bytes [0x20080005] := by decide
    exact ⟨⟨"rom.bin", _, 2, rfl, by decide, by decide +kernel, rfl, by decide, stands⟩,
      rfl, by decide, rfl, rfl, rfl⟩
  have takes : tree.Takes "rom.bin" := by
    refine ⟨by decide, ["rom.bin"], by decide +kernel, ?_⟩
    intro device
    cases device <;> decide +kernel
  exact ⟨common, common.request _ _ request members arrives carries asks gives,
    common.machineCode [] _ (.blank [] nofun (.word _ _ spelled .nothing)),
    (common.written tree _ arguments "rom.bin" (tree.serves_files .usual) fetches rfl takes).2⟩

end Microcode
