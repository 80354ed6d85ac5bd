import Microcode.Proofs.SessionRuns
import Microcode.Service.Response

/-!
# Outcomes of requests for a listing

Whatever JSON value a request carries, and also if it carries none, it is answered with a
listing or with a refusal. What is accepted is said here field by field and without the
functions that read a request: an address that is absent, null, an integer or an integer
literal, and lines of machine code or else hexadecimal bytes of whole words.

A request is read through five members only. So requests that agree in those, the options
up to their truth and the address up to the size of the address space, are answered
alike; and where there is machine code, the bytes do not count either.
-/

namespace Microcode.Service

open Text Json.Value

section Address

/-- The addresses that are accepted: none at all, null, an integer, and every value whose
text is an integer literal. -/
inductive AcceptableAddress : Option Json.Value → Prop where
  | absent : AcceptableAddress none
  | null : AcceptableAddress (some .null)
  | integer (value : Int) : AcceptableAddress (some (.integer value))
  | literal (value : Json.Value) (denoted : Int)
      (read : IntegerLiteral.parse value.text = .ok denoted) : AcceptableAddress (some value)

/-- The address of a request, which is the default if the request has none. -/
def addressOf (members : Members) : Except AddressError Int :=
  address Listing.defaultAddress ((member? "vaddr" members).getD .null)

/-- Truth values are no integer literals. -/
theorem bool_not_literal (value : Bool) (denoted : Int) :
    IntegerLiteral.parse (Json.Value.bool value).text ≠ .ok denoted := by
  have malformed : ∃ cause, IntegerLiteral.parse (Json.Value.bool value).text = .error cause := by
    cases value
    · exact ⟨_, rfl⟩
    · exact ⟨_, rfl⟩
  obtain ⟨cause, refused⟩ := malformed
  rw [refused]
  exact nofun

/-- Values other than null, truth values and integers count by their text. -/
theorem exists_literal_iff (default : Int) (value : Json.Value)
    (byText : address default value = (IntegerLiteral.parse value.text).mapError .literal) :
    (∃ denoted, address default value = .ok denoted) ↔
      ∃ denoted, IntegerLiteral.parse value.text = .ok denoted := by
  simp only [byText, mapError_eq_ok_iff]

/-- An address is read exactly if it is acceptable. -/
theorem exists_addressOf_iff (members : Members) :
    (∃ value, addressOf members = .ok value) ↔ AcceptableAddress (member? "vaddr" members) := by
  rw [addressOf]
  cases member? "vaddr" members with
  | none => exact ⟨fun _ => .absent, fun _ => ⟨_, rfl⟩⟩
  | some value =>
    rw [Option.getD_some]
    constructor
    · rintro ⟨denoted, read⟩
      cases value with
      | null => exact .null
      | bool truth => cases read
      | integer value => exact .integer value
      | real | string | array | object =>
        obtain ⟨denoted, parsed⟩ := (exists_literal_iff _ _ rfl).mp ⟨denoted, read⟩
        exact .literal _ denoted parsed
    · rintro (_ | _ | value | ⟨_, denoted, parsed⟩)
      · exact ⟨_, rfl⟩
      · exact ⟨_, rfl⟩
      · cases value with
        | null => exact ⟨_, rfl⟩
        | bool truth => exact absurd parsed (bool_not_literal truth denoted)
        | integer value => exact ⟨_, rfl⟩
        | real | string | array | object => exact (exists_literal_iff _ _ rfl).mpr ⟨denoted, parsed⟩

/-- The base of a request is its address modulo the size of the address space. -/
theorem requestAddress_eq_ok_iff (members : Members) (base : Int) :
    requestAddress members = .ok base ↔
      ∃ value, addressOf members = .ok value ∧ base = value % 0x100000000 := by
  rw [requestAddress, ← addressOf]
  cases addressOf members <;> simp [eq_comm]

end Address

section Input

/-- A string is found in a string value only. -/
theorem string?_eq_some_iff (value : Json.Value) (text : Text) :
    string? value = some text ↔ value = .string text := by
  cases value <;> simp [string?]

/-- Strings are found in a list of strings only. -/
theorem strings?_eq_some_iff (value : Json.Value) (lines : List Text) :
    strings? value = some lines ↔ value = .array (lines.map .string) := by
  cases value with
  | array items =>
    simp only [strings?, mapM_eq_some_iff, string?_eq_some_iff, array.injEq]
    have pointwise := List.forall₂_map_right_iff (R := Eq) (f := Json.Value.string)
      (l := items) (u := lines)
    rw [← pointwise, List.forall₂_eq_eq_eq]
  | null | bool | integer | real | string | object => simp [strings?]

/-- The input is machine code exactly if there is a list of strings for it. -/
theorem input_eq_machineCode_iff (members : Members) (lines : List Text) :
    input members = .ok (.machineCode lines) ↔
      member? "machine_code" members = some (.array (lines.map .string)) := by
  rw [input]
  cases member? "machine_code" members with
  | some value =>
    rw [Option.some.injEq, ← strings?_eq_some_iff]
    cases found : strings? value <;> simp [found]
  | none =>
    cases member? "data" members with
    | none => simp
    | some value => cases read : HexBytes.parse value.text <;> simp [read]

/-- The input is bytes exactly if there is no machine code and the data denotes them. -/
theorem input_eq_bytes_iff (members : Members) (data : List UInt8) :
    input members = .ok (.bytes data) ↔ member? "machine_code" members = none ∧
      ∃ value, member? "data" members = some value ∧ HexBytes.parse value.text = .ok data := by
  rw [input]
  cases member? "machine_code" members with
  | some value => cases found : strings? value <;> simp [found]
  | none =>
    cases member? "data" members with
    | none => simp
    | some value => cases read : HexBytes.parse value.text <;> simp [read]

/-- The inputs that are accepted: lines that are blank or words, or in their absence
hexadecimal bytes of whole words. -/
def AcceptableInput (members : Members) : Prop :=
  (∃ items, member? "machine_code" members = some (.array items) ∧ ∀ item ∈ items,
    ∃ line, item = .string line ∧
      (MachineCode.isBlankLine line = true ∨ ∃ word, HexWord.parse line = .ok word)) ∨
  (member? "machine_code" members = none ∧ ∃ value data, member? "data" members = some value ∧
    HexBytes.parse value.text = .ok data ∧ data.length % 4 = 0)

/-- Machine code is listed exactly if every line is blank or a word. -/
theorem exists_listing_machineCode_iff (style : PrintStyle) (base : Int) (lines : List Text) :
    (∃ text, Job.listing ⟨style, base, .machineCode lines⟩ = .ok text) ↔
      ∀ line ∈ lines,
        MachineCode.isBlankLine line = true ∨ ∃ word, HexWord.parse line = .ok word := by
  obtain ⟨printed, listed⟩ := Session.exists_listMachineCode { style } lines base
  rw [← MachineCode.readFrom_records_eq_nil_iff 1, ← MachineCode.read]
  simp only [Job.listing, listed, List.isEmpty_iff]
  split
  case isTrue clear => exact ⟨fun _ => clear, fun _ => ⟨_, rfl⟩⟩
  case isFalse recorded => simp [recorded]

/-- Bytes are listed exactly if they are whole words. -/
theorem exists_listing_bytes_iff (style : PrintStyle) (base : Int) (data : List UInt8) :
    (∃ text, Job.listing ⟨style, base, .bytes data⟩ = .ok text) ↔ data.length % 4 = 0 := by
  simp only [Job.listing, Session.listBytes]
  constructor
  · rintro ⟨text, listed⟩
    cases result : Listing.text style data base with
    | ok printed => exact Listing.aligned_of_text result
    | error cause =>
      rw [result] at listed
      cases listed
  · intro aligned
    rw [Listing.text_of_aligned style data base aligned]
    exact ⟨_, rfl⟩

/-- Items that are strings of a kind are the strings of lines of that kind. -/
theorem exists_lines_of_strings {kind : Text → Prop} (items : List Json.Value)
    (strings : ∀ item ∈ items, ∃ line, item = .string line ∧ kind line) :
    ∃ lines : List Text, items = lines.map .string ∧ ∀ line ∈ lines, kind line := by
  induction items with
  | nil => exact ⟨[], rfl, by simp⟩
  | cons item rest inductionHypothesis =>
    obtain ⟨line, rfl, first⟩ := strings item List.mem_cons_self
    obtain ⟨lines, rfl, others⟩ := inductionHypothesis
      fun other member => strings other (List.mem_cons_of_mem _ member)
    exact ⟨line :: lines, rfl, List.forall_mem_cons.mpr ⟨first, others⟩⟩

/-- An input that is accepted can be read, and what is read can be listed. -/
theorem exists_input_iff (members : Members) (style : PrintStyle) (base : Int) :
    (∃ given text, input members = .ok given ∧ Job.listing ⟨style, base, given⟩ = .ok text) ↔
      AcceptableInput members := by
  constructor
  · rintro ⟨given, text, read, listed⟩
    cases given with
    | machineCode lines =>
      have fine := (exists_listing_machineCode_iff style base lines).mp ⟨text, listed⟩
      refine .inl ⟨_, (input_eq_machineCode_iff members lines).mp read, ?_⟩
      intro item member
      obtain ⟨line, inside, rfl⟩ := List.mem_map.mp member
      exact ⟨line, rfl, fine line inside⟩
    | bytes data =>
      have aligned := (exists_listing_bytes_iff style base data).mp ⟨text, listed⟩
      obtain ⟨unnamed, value, named, parsed⟩ := (input_eq_bytes_iff members data).mp read
      exact .inr ⟨unnamed, value, data, named, parsed, aligned⟩
  · rintro (⟨items, named, fine⟩ | ⟨unnamed, value, data, named, parsed, aligned⟩)
    · obtain ⟨lines, rfl, fineLines⟩ := exists_lines_of_strings items fine
      obtain ⟨text, listed⟩ := (exists_listing_machineCode_iff style base lines).mpr fineLines
      exact ⟨_, text, (input_eq_machineCode_iff members lines).mpr named, listed⟩
    · obtain ⟨text, listed⟩ := (exists_listing_bytes_iff style base data).mpr aligned
      have read := (input_eq_bytes_iff members data).mpr ⟨unnamed, value, named, parsed⟩
      exact ⟨_, text, read, listed⟩

end Input

section Listing

/-- An object that names an input has members. -/
theorem members?_eq_some_iff (body : Option Json.Value) (members : Members) :
    members? body = some members ↔ body = some (.object members) ∧
      ((member? "data" members).isSome ∨ (member? "machine_code" members).isSome) := by
  match body with
  | none => simp [members?]
  | some (.object found) =>
    simp only [members?, Bool.or_eq_true, Option.some.injEq, object.injEq]
    split
    case isTrue named =>
      constructor
      · rintro ⟨⟩
        exact ⟨rfl, named⟩
      · rintro ⟨rfl, -⟩
        rfl
    case isFalse unnamed =>
      constructor
      · rintro ⟨⟩
      · rintro ⟨rfl, named⟩
        exact absurd named unnamed
  | some .null | some (.bool _) | some (.integer _) | some (.real _) | some (.string _)
  | some (.array _) => simp [members?]

/-- A request is listed exactly if its address and its input are read and listed. -/
theorem listing_eq_ok_iff (body : Option Json.Value) (text : String) :
    listing body = .ok text ↔ ∃ members base given, members? body = some members ∧
      requestAddress members = .ok base ∧ input members = .ok given ∧
        Job.listing ⟨style members, base, given⟩ = .ok text := by
  rw [listing, bind_eq_ok_iff, job]
  cases members? body with
  | none => simp
  | some members =>
    simp only [bind_eq_ok_iff, pure, Except.pure, Option.some.injEq, Except.ok.injEq]
    constructor
    · rintro ⟨_, ⟨base, placed, given, read, rfl⟩, printed⟩
      exact ⟨members, base, given, rfl, placed, read, printed⟩
    · rintro ⟨_, base, given, rfl, placed, read, printed⟩
      exact ⟨_, ⟨base, placed, given, read, rfl⟩, printed⟩

/-- The requests that are accepted. -/
def Acceptable (body : Option Json.Value) : Prop :=
  ∃ members, body = some (.object members) ∧ AcceptableAddress (member? "vaddr" members) ∧
    AcceptableInput members

/-- An acceptable input is named. -/
theorem AcceptableInput.named {members : Members} (acceptable : AcceptableInput members) :
    (member? "data" members).isSome ∨ (member? "machine_code" members).isSome := by
  rcases acceptable with ⟨items, found, -⟩ | ⟨-, value, data, found, -, -⟩
  · exact .inr (by simp [found])
  · exact .inl (by simp [found])

/-- A request is listed exactly if it is acceptable. -/
theorem exists_listing_iff (body : Option Json.Value) :
    (∃ text, listing body = .ok text) ↔ Acceptable body := by
  constructor
  · rintro ⟨text, listed⟩
    obtain ⟨members, base, given, found, placed, read, printed⟩ := (listing_eq_ok_iff _ _).mp listed
    obtain ⟨value, address, -⟩ := (requestAddress_eq_ok_iff members base).mp placed
    refine ⟨members, ((members?_eq_some_iff _ _).mp found).1, ?_, ?_⟩
    · exact (exists_addressOf_iff members).mp ⟨value, address⟩
    · exact (exists_input_iff members (style members) base).mp ⟨given, text, read, printed⟩
  · rintro ⟨members, rfl, acceptableAddress, acceptableInput⟩
    obtain ⟨value, address⟩ := (exists_addressOf_iff members).mpr acceptableAddress
    obtain ⟨given, text, read, printed⟩ :=
      (exists_input_iff members (style members) (value % 0x100000000)).mpr acceptableInput
    have found := (members?_eq_some_iff (some (.object members)) members).mpr
      ⟨rfl, acceptableInput.named⟩
    have placed := (requestAddress_eq_ok_iff members _).mpr ⟨value, address, rfl⟩
    exact ⟨text, (listing_eq_ok_iff _ _).mpr ⟨members, _, given, found, placed, read, printed⟩⟩

end Listing

section Refusals

/-- A refusal that is the request's fault, and says why. -/
structure Refusal.Explained (refusal : Refusal) : Prop where
  status : refusal.status = 400
  reasons : refusal.records ≠ []

/-- An address is refused with an explanation. -/
theorem explained_of_requestAddress {members : Members} {refusal : Refusal}
    (refused : requestAddress members = .error refusal) : refusal.Explained := by
  rw [requestAddress] at refused
  split at refused
  case h_1 => cases refused
  case h_2 =>
    cases refused
    exact ⟨rfl, nofun⟩

/-- An input is refused with an explanation. -/
theorem explained_of_input {members : Members} {refusal : Refusal}
    (refused : input members = .error refusal) : refusal.Explained := by
  rw [input] at refused
  split at refused <;> try split at refused
  all_goals cases refused
  all_goals exact ⟨rfl, nofun⟩

/-- What is asked for is refused with an explanation. -/
theorem explained_of_job {body : Option Json.Value} {refusal : Refusal}
    (refused : job body = .error refusal) : refusal.Explained := by
  rw [job] at refused
  cases found : members? body with
  | none =>
    rw [found] at refused
    cases refused
    exact ⟨rfl, nofun⟩
  | some members =>
    simp only [found, bind_eq_error_iff] at refused
    rcases refused with address | ⟨base, -, given | ⟨given, -, done⟩⟩
    · exact explained_of_requestAddress address
    · exact explained_of_input given
    · cases done

/-- A listing is refused with an explanation. The unexpected error would come from listing
machine code, which never fails. -/
theorem explained_of_job_listing {job : Job} {refusal : Refusal}
    (refused : job.listing = .error refusal) : refusal.Explained := by
  rw [Job.listing] at refused
  split at refused
  case h_1 lines _ =>
    obtain ⟨text, listed⟩ := Session.exists_listMachineCode { style := job.style } lines job.base
    simp only [listed] at refused
    split at refused
    case isTrue => cases refused
    case isFalse recorded =>
      cases refused
      refine ⟨rfl, ?_⟩
      rwa [Refusal.records, Ne, List.map_eq_nil_iff, ← List.isEmpty_iff]
  case h_2 data _ =>
    cases result : Session.listBytes { style := job.style } data job.base with
    | ok text =>
      rw [result] at refused
      cases refused
    | error cause =>
      rw [result] at refused
      cases refused
      exact ⟨rfl, nofun⟩

/-- A request is refused with an explanation. -/
theorem explained_of_listing {body : Option Json.Value} {refusal : Refusal}
    (refused : listing body = .error refusal) : refusal.Explained := by
  rcases (bind_eq_error_iff _ _ _).mp refused with unread | ⟨job, -, unlisted⟩
  · exact explained_of_job unread
  · exact explained_of_job_listing unlisted

/-- The errors that a refusal's body reports. -/
theorem Refusal.errors_body (refusal : Refusal) : ∃ members,
    refusal.body = .object members ∧ member? "errors" members = some (.array refusal.records) := by
  rw [Refusal.body]
  split
  · exact ⟨_, rfl, rfl⟩
  · exact ⟨_, rfl, rfl⟩

end Refusals

/-- What the answer to a request owes to its body. -/
structure Answered (body : Option Json.Value) (status : Nat) (answer : Json.Value) : Prop where
  /-- The request is answered or refused. -/
  settled : status = 200 ∨ status = 400
  /-- It is answered exactly if it is acceptable. -/
  accepted : status = 200 ↔ Acceptable body
  /-- An answer reports no errors, and a refusal at least one. -/
  errors : ∃ members records, answer = .object members ∧
    member? "errors" members = some (.array records) ∧
      (status = 200 → records = []) ∧ (status = 400 → records ≠ [])

/-- Every body is answered. -/
theorem answered_listingReply (body : Option Json.Value) :
    Answered body (listingReply (.ok body)).1 (listingReply (.ok body)).2 := by
  have listed := exists_listing_iff body
  cases result : listing body with
  | ok text =>
    simp only [listingReply, result]
    exact ⟨.inl rfl, ⟨fun _ => listed.mp ⟨text, result⟩, fun _ => rfl⟩,
      _, [], rfl, rfl, fun _ => rfl, nofun⟩
  | error refusal =>
    have explained := explained_of_listing result
    obtain ⟨members, shown, errors⟩ := refusal.errors_body
    simp only [listingReply, result, explained.status]
    refine ⟨.inr rfl, ⟨nofun, ?_⟩, members, _, shown, errors, nofun,
      fun _ => explained.reasons⟩
    intro acceptable
    obtain ⟨text, printed⟩ := listed.mpr acceptable
    rw [printed] at result
    cases result

section Agreement

/-- Requests that agree in what is looked at. Without machine code the data is looked at; of
the options only their truth, where what is absent counts as true; and of two addresses
that are accepted only their values modulo the size of the address space. -/
structure Agree (left right : Members) : Prop where
  machineCode : member? "machine_code" left = member? "machine_code" right
  data : member? "machine_code" left = none → member? "data" left = member? "data" right
  address : member? "vaddr" left = member? "vaddr" right ∨ ∃ leftValue rightValue,
    addressOf left = .ok leftValue ∧ addressOf right = .ok rightValue ∧
      leftValue % 0x100000000 = rightValue % 0x100000000
  registerNames : ((member? "reg_names" left).map isTruthy).getD true =
    ((member? "reg_names" right).map isTruthy).getD true
  systemNames : ((member? "armips_cop0_names" left).map isTruthy).getD true =
    ((member? "armips_cop0_names" right).map isTruthy).getD true

/-- Requests that agree have the same base, or the same reason to have none. -/
theorem Agree.requestAddress_eq {left right : Members} (agree : Agree left right) :
    requestAddress left = requestAddress right := by
  rcases agree.address with same | ⟨leftValue, rightValue, leftRead, rightRead, congruent⟩
  · rw [requestAddress, requestAddress, same]
  · have leftBase := (requestAddress_eq_ok_iff left _).mpr ⟨leftValue, leftRead, rfl⟩
    have rightBase := (requestAddress_eq_ok_iff right _).mpr ⟨rightValue, rightRead, rfl⟩
    rw [leftBase, rightBase, congruent]

/-- Requests that agree have the same input. -/
theorem Agree.input_eq {left right : Members} (agree : Agree left right) :
    input left = input right := by
  rw [input, input, ← agree.machineCode]
  cases found : member? "machine_code" left with
  | some value => rfl
  | none => rw [agree.data found]

/-- Requests that agree have the same style. -/
theorem Agree.style_eq {left right : Members} (agree : Agree left right) :
    style left = style right := by
  rw [style, style, agree.registerNames, agree.systemNames]

/-- Requests that agree both name an input, or neither does. -/
theorem Agree.named_iff {left right : Members} (agree : Agree left right) :
    ((member? "data" left).isSome || (member? "machine_code" left).isSome) =
      ((member? "data" right).isSome || (member? "machine_code" right).isSome) := by
  rw [← agree.machineCode]
  cases found : member? "machine_code" left with
  | some value => simp
  | none => rw [agree.data found]

/-- Requests that agree ask for the same listing. -/
theorem Agree.listing_eq {left right : Members} (agree : Agree left right) :
    listing (some (.object left)) = listing (some (.object right)) := by
  rw [listing, listing, job, job]
  by_cases named : ((member? "data" left).isSome || (member? "machine_code" left).isSome) = true
  · have leftNamed : members? (some (.object left)) = some left := if_pos named
    have rightNamed : members? (some (.object right)) = some right :=
      if_pos (agree.named_iff ▸ named)
    rw [leftNamed, rightNamed]
    simp only [agree.requestAddress_eq, agree.input_eq, agree.style_eq]
  · have leftUnnamed : members? (some (.object left)) = none := if_neg named
    have rightUnnamed : members? (some (.object right)) = none :=
      if_neg (agree.named_iff ▸ named)
    rw [leftUnnamed, rightUnnamed]

end Agreement

/-- A request is answered with a listing exactly if it is acceptable, and otherwise refused
with a reason. The answer depends only on what is looked at, and what is no object is
answered like nothing. -/
theorem listingReply_outcome :
    (∀ body, Answered body (listingReply (.ok body)).1 (listingReply (.ok body)).2) ∧
    (∀ left right, Agree left right →
      listingReply (.ok (some (.object left))) = listingReply (.ok (some (.object right)))) ∧
    (∀ body, (∀ members, body ≠ some (.object members)) →
      listingReply (.ok body) = listingReply (.ok none)) := by
  refine ⟨answered_listingReply, ?_, ?_⟩
  · intro left right agree
    simp only [listingReply, agree.listing_eq]
  · intro body shapeless
    have same : listing body = listing none := by
      match body, shapeless with
      | none, _ | some .null, _ | some (.bool _), _ | some (.integer _), _ | some (.real _), _
      | some (.string _), _ | some (.array _), _ => rfl
      | some (.object members), shapeless => exact absurd rfl (shapeless members)
    simp only [listingReply, same]

/-- Two requests with the same machine code are answered with one text: the options are true in
both, the addresses differ by the size of the address space, and the second request has data
that would be refused by itself. -/
theorem wrapped_address_answered_alike :
    let lines : Json.Value := .array [.ofString "c"]
    let left : Members := [(.ofString "machine_code", lines), (.ofString "vaddr", .ofString "0x4")]
    let right : Members := [(.ofString "data", .null), (.ofString "vaddr", .integer 0x100000004),
      (.ofString "machine_code", lines), (.ofString "reg_names", .array [.null])]
    Agree left right ∧
      listingReply (.ok (some (.object left))) = listingReply (.ok (some (.object right))) ∧
      listingReply (.ok (some (.object right))) =
        (200, listingBody "/* 00000004 0000000C */\t; unrecognized op [0000000C]\n" []) ∧
      Acceptable (some (.object right)) := by
  intro lines left right
  have agree : Agree left right := by
    refine ⟨rfl, nofun, .inr ⟨0x4, 0x100000004, rfl, rfl, rfl⟩, rfl, rfl⟩
  obtain ⟨answered, alike, -⟩ := listingReply_outcome
  have listed : listing (some (.object right)) =
      .ok "/* 00000004 0000000C */\t; unrecognized op [0000000C]\n" := by decide +kernel
  have reply : listingReply (.ok (some (.object right))) =
      (200, listingBody "/* 00000004 0000000C */\t; unrecognized op [0000000C]\n" []) := by
    rw [listingReply, listed]
  have status := congrArg Prod.fst reply
  exact ⟨agree, alike left right agree, reply, (answered _).accepted.mp status⟩

end Microcode.Service
