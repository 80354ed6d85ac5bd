import Microcode.Proofs.DecodeTree
import Microcode.Proofs.OperandText

/-!
# Printing is unambiguous

The head of a printed instruction ends at the first space and its operands are parted
by commas, so a text has one reading as a head and a list of operand texts. No two
forms of instruction share a head: the head gives the shape, and the shape gives the
kind of each operand, which is determined by its text. Two instructions that words
denote are therefore equal when they print alike.
-/

namespace Microcode.Instruction

section Forms

/-- The kind of operand list that an instruction has. Logical immediates are printed
otherwise than arithmetic ones. -/
inductive Shape where
  | nop
  | unsupported
  | shiftByAmount
  | threeRegister
  | jumpRegister
  | jumpLinkRegister
  | breakpoint
  | jump
  | branchTwo
  | branchOne
  | immediate (logical : Bool)
  | loadUpper
  | loadStore
  | systemMove
  | vectorMove
  | controlMove
  | vectorNop
  | vectorCompute
  | vectorScalar
  | vectorLoadStore
  deriving DecidableEq

/-- The shape of an instruction. -/
def shape : Instruction → Shape
  | .nop => .nop
  | .unsupported .. => .unsupported
  | .shiftByAmount .. => .shiftByAmount
  | .threeRegister .. => .threeRegister
  | .jumpRegister .. => .jumpRegister
  | .jumpLinkRegister .. => .jumpLinkRegister
  | .breakpoint .. => .breakpoint
  | .jump .. => .jump
  | .branchTwo .. => .branchTwo
  | .branchOne .. => .branchOne
  | .immediate _ _ _ _ logical => .immediate logical
  | .loadUpper .. => .loadUpper
  | .loadStore .. => .loadStore
  | .systemMove .. => .systemMove
  | .vectorMove .. => .vectorMove
  | .controlMove .. => .controlMove
  | .vectorNop => .vectorNop
  | .vectorCompute .. => .vectorCompute
  | .vectorScalar .. => .vectorScalar
  | .vectorLoadStore .. => .vectorLoadStore

/-- The head and shape of a register operation. -/
def registerForm : Opcode.RegisterOperation → String × Shape
  | .shiftByAmount mnemonic => (mnemonic, .shiftByAmount)
  | .jumpRegister => ("jr", .jumpRegister)
  | .jumpLinkRegister => ("jalr", .jumpLinkRegister)
  | .breakpoint => ("break", .breakpoint)
  | .threeRegister mnemonic => (mnemonic, .threeRegister)

/-- The head and shape of a vector transfer. -/
def transferForm : Opcode.VectorTransfer → String × Shape
  | .data mnemonic => (mnemonic, .vectorMove)
  | .control mnemonic => (mnemonic, .controlMove)

/-- The head and shape of a vector operation. -/
def vectorForm : Opcode.VectorOperation → String × Shape
  | .compute mnemonic => (mnemonic, .vectorCompute)
  | .scalar mnemonic => (mnemonic, .vectorScalar)
  | .nop => ("vnop", .vectorNop)

/-- The heads that a group prints, each with its shape. -/
def groupForms : Opcode.Group → List (String × Shape)
  | .register => Opcode.registerOperations.map fun row => registerForm row.2
  | .signBranch => Opcode.signBranches.map fun row => (row.2, .branchOne)
  | .jump mnemonic => [(mnemonic, .jump)]
  | .branchTwo mnemonic => [(mnemonic, .branchTwo)]
  | .branchOne mnemonic => [(mnemonic, .branchOne)]
  | .immediate mnemonic logical => [(mnemonic, .immediate logical)]
  | .loadUpper => [("lui", .loadUpper)]
  | .system => Opcode.systemMoves.map fun row => (row.2, .systemMove)
  | .vector => (Opcode.vectorTransfers.map fun row => transferForm row.2)
      ++ Opcode.vectorOperations.map fun row => vectorForm row.2
  | .loadStore mnemonic => [(mnemonic, .loadStore)]
  | .vectorLoadStore direction =>
    Opcode.addressModes.map fun row => (direction ++ row.2.1 ++ "v", .vectorLoadStore)

/-- All heads of decoded words, each with its shape. -/
def forms : List (String × Shape) :=
  ("nop", .nop) :: Opcode.groups.flatMap fun row => groupForms row.2

/-- No two forms share a head. -/
theorem forms_distinct : (forms.map Prod.fst).Nodup := by decide +kernel

/-- Heads are unbroken and none is the mark of a word that is no instruction. -/
theorem forms_unbroken : ∀ form ∈ forms, Unbroken form.1 ∧ form.1 ≠ ";" := by decide +kernel

/-- A form of a selected group is among all forms. -/
theorem form_mem {word : Int} {group : Opcode.Group} {form : String × Shape}
    (selected : Selects 26 6 word Opcode.groups group) (member : form ∈ groupForms group) :
    form ∈ forms :=
  List.mem_cons_of_mem _ (List.mem_flatMap.mpr ⟨_, selected, member⟩)

/-- What a word denotes is printed in one of the forms, under its own shape. -/
theorem Denotes.form {word address : Int} {instruction : Instruction}
    (denoted : Denotes word address instruction) :
    (instruction.head, instruction.shape) ∈ forms := by
  cases denoted with
  | shiftByAmount group operation | threeRegister group operation | jumpRegister group operation
  | jumpLinkRegister group operation | breakpoint group operation =>
    exact form_mem group (List.mem_map.mpr ⟨_, operation, rfl⟩)
  | signBranch group condition => exact form_mem group (List.mem_map.mpr ⟨_, condition, rfl⟩)
  | jump group | branchTwo group | branchOne group | immediate group | loadUpper group
  | loadStore group => exact form_mem group (List.mem_singleton.mpr rfl)
  | systemMove group direction register =>
    exact form_mem group (List.mem_map.mpr ⟨_, direction, rfl⟩)
  | vectorMove group low direction =>
    exact form_mem group (List.mem_append_left _ (List.mem_map.mpr ⟨_, direction, rfl⟩))
  | controlMove group low direction register =>
    exact form_mem group (List.mem_append_left _ (List.mem_map.mpr ⟨_, direction, rfl⟩))
  | vectorNop group compute operation =>
    exact form_mem group (List.mem_append_right _ (List.mem_map.mpr ⟨_, operation, rfl⟩))
  | vectorCompute group compute operation selector
  | vectorScalar group compute operation selector =>
    exact form_mem group (List.mem_append_right _ (List.mem_map.mpr ⟨_, operation, rfl⟩))
  | vectorLoadStore group mode => exact form_mem group (List.mem_map.mpr ⟨_, mode, rfl⟩)

/-- A decoded word is printed in one of the forms, unless it is kept as it stands. -/
theorem decode_form (word address : Int) :
    ((decode word address).head, (decode word address).shape) ∈ forms ∨
      decode word address = .unsupported (machineWord word) := by
  rcases decode_cases word address with ⟨_, empty⟩ | ⟨_, denoted⟩ | ⟨_, _, unknown⟩
  · rw [empty]
    exact .inl List.mem_cons_self
  · exact .inl denoted.form
  · exact .inr unknown

end Forms

section Determined

/-- The operands that words supply where the type of instructions allows more: signed
sixteen-bit immediates and canonical lane selectors. -/
def Canonical : Instruction → Prop
  | .immediate _ _ _ value _ => -0x8000 ≤ value ∧ value < 0x8000
  | .vectorCompute _ _ _ _ lanes => lanes.Canonical
  | .vectorScalar _ _ _ _ lanes => lanes.Canonical
  | _ => True

/-- Every lane selector that a field denotes is canonical. -/
theorem canonical_of_atBit? {bit : Nat} {word : Int} {lanes : LaneSelector}
    (read : LaneSelector.atBit? bit word = some lanes) : lanes.Canonical := by
  have table : ∀ value : Fin 16, ∀ lanes ∈ LaneSelector.ofField? value.val,
      lanes.group = .whole → lanes.index = 0 := by
    decide
  exact table (Bits.field bit 4 word).toFin lanes read

/-- What a word denotes is canonical. -/
theorem Denotes.canonical {word address : Int} {instruction : Instruction}
    (denoted : Denotes word address instruction) : instruction.Canonical := by
  cases denoted with
  | immediate group =>
    have lower := BitVec.le_toInt (Bits.field 0 16 word)
    have upper := BitVec.toInt_lt (x := Bits.field 0 16 word)
    exact ⟨lower, upper⟩
  | vectorCompute group compute operation selector => exact canonical_of_atBit? selector
  | vectorScalar group compute operation selector => exact canonical_of_atBit? selector
  | _ => trivial

/-- Decoded words are canonical. -/
theorem decode_canonical (word address : Int) : (decode word address).Canonical := by
  rcases decode_cases word address with ⟨_, empty⟩ | ⟨_, denoted⟩ | ⟨_, _, unknown⟩
  · rw [empty]
    trivial
  · exact denoted.canonical
  · rw [unknown]
    trivial

/-- The kinds of the operands of a shape, in print order. -/
def Shape.kinds : Shape → List OperandKind
  | .nop | .unsupported | .vectorNop => []
  | .shiftByAmount => [.general, .general, .decimal]
  | .threeRegister => [.general, .general, .general]
  | .jumpRegister => [.general]
  | .jumpLinkRegister => [.general, .general]
  | .breakpoint => [.decimal]
  | .jump => [.target]
  | .branchTwo => [.general, .general, .target]
  | .branchOne => [.general, .target]
  | .immediate logical => [.general, .general, if logical then .hexadecimal else .decimal]
  | .loadUpper => [.general, .hexadecimal]
  | .loadStore => [.general, .memory]
  | .systemMove => [.general, .system]
  | .vectorMove => [.general, .position]
  | .controlMove => [.general, .control]
  | .vectorCompute => [.vector, .vector, .selected]
  | .vectorScalar => [.position, .selected]
  | .vectorLoadStore => [.position, .memory]

/-- The operands of an instruction are of the kinds of its shape. A call that keeps its
return address in the link register leaves the first one out. -/
theorem kinds_of_operands (instruction : Instruction) :
    instruction.operands.map Operand.kind <:+ instruction.shape.kinds := by
  cases instruction with
  | threeRegister mnemonic rd rs rt =>
    by_cases shift : mnemonic ∈ variableShifts
    · simp [operands, shift, shape, Shape.kinds, Operand.kind]
    · simp [operands, shift, shape, Shape.kinds, Operand.kind]
  | jumpLinkRegister rd rs =>
    by_cases link : rd = GeneralRegister.link
    · rw [operands, if_pos link]
      exact List.suffix_cons _ _
    · rw [operands, if_neg link]
      exact List.suffix_rfl
  | immediate mnemonic rt rs value logical =>
    cases logical with
    | false | true => exact List.suffix_rfl
  | _ => exact List.suffix_rfl

/-- The operands of a canonical instruction are canonical. -/
theorem canonical_operands (instruction : Instruction) (canonical : instruction.Canonical) :
    ∀ operand ∈ instruction.operands, operand.Canonical := by
  cases instruction with
  | vectorCompute mnemonic vd vs vt lanes | vectorScalar mnemonic vd lane vt lanes =>
    have selector : lanes.Canonical := canonical
    simpa [operands, Operand.Canonical] using selector
  | threeRegister mnemonic rd rs rt =>
    by_cases shift : mnemonic ∈ variableShifts <;> simp [operands, shift, Operand.Canonical]
  | jumpLinkRegister rd rs =>
    by_cases link : rd = GeneralRegister.link <;> simp [operands, link, Operand.Canonical]
  | immediate mnemonic rt rs value logical =>
    cases logical <;> simp [operands, Operand.Canonical]
  | _ => simp [operands, Operand.Canonical]

/-- Canonical instructions of one shape have equal operands if these print alike: as many
operands of one shape are of the same kinds. -/
theorem operands_of_texts (style : PrintStyle) (left right : Instruction)
    (shapes : left.shape = right.shape) (leftCanonical : left.Canonical)
    (rightCanonical : right.Canonical)
    (texts : left.operands.map (Operand.text style) = right.operands.map (Operand.text style)) :
    left.operands = right.operands := by
  have lengths : (left.operands.map Operand.kind).length =
      (right.operands.map Operand.kind).length := by
    simpa using congrArg List.length texts
  have leftKinds := kinds_of_operands left
  have rightKinds := kinds_of_operands right
  rw [← shapes] at rightKinds
  have kinds := (List.suffix_of_suffix_length_le leftKinds rightKinds
    (Nat.le_of_eq lengths)).eq_of_length lengths
  exact Operand.texts_injective style _ _ kinds (canonical_operands left leftCanonical)
    (canonical_operands right rightCanonical) texts

/-- The instruction of a shape with a head and operands. -/
def ofForm? : Shape → String → List Operand → Option Instruction
  | .nop, _, [] => some .nop
  | .shiftByAmount, mnemonic, [.general rd, .general rt, .decimal amount] =>
    some (.shiftByAmount mnemonic rd rt amount)
  | .threeRegister, mnemonic, [.general rd, .general first, .general second] =>
    if mnemonic ∈ variableShifts then some (.threeRegister mnemonic rd second first)
    else some (.threeRegister mnemonic rd first second)
  | .jumpRegister, _, [.general rs] => some (.jumpRegister rs)
  | .jumpLinkRegister, _, [.general rs] => some (.jumpLinkRegister .link rs)
  | .jumpLinkRegister, _, [.general rd, .general rs] => some (.jumpLinkRegister rd rs)
  | .breakpoint, _, [.decimal code] => some (.breakpoint code)
  | .jump, mnemonic, [.target symbol] => some (.jump mnemonic symbol)
  | .branchTwo, mnemonic, [.general rs, .general rt, .target symbol] =>
    some (.branchTwo mnemonic rs rt symbol)
  | .branchOne, mnemonic, [.general rs, .target symbol] => some (.branchOne mnemonic rs symbol)
  | .immediate false, mnemonic, [.general rt, .general rs, .decimal value] =>
    some (.immediate mnemonic rt rs value false)
  | .immediate true, mnemonic, [.general rt, .general rs, .hexadecimal low] =>
    some (.immediate mnemonic rt rs (if low < 0x8000 then low else low - 0x10000) true)
  | .loadUpper, _, [.general rt, .hexadecimal value] => some (.loadUpper rt value)
  | .loadStore, mnemonic, [.general rt, .memory offset base] =>
    some (.loadStore mnemonic rt base offset)
  | .systemMove, mnemonic, [.general rt, .system rd] => some (.systemMove mnemonic rt rd)
  | .vectorMove, mnemonic, [.general rt, .position vs byte] =>
    some (.vectorMove mnemonic rt vs byte)
  | .controlMove, mnemonic, [.general rt, .control control] =>
    some (.controlMove mnemonic rt control)
  | .vectorNop, _, [] => some .vectorNop
  | .vectorCompute, mnemonic, [.vector vd, .vector vs, .selected vt lanes] =>
    some (.vectorCompute mnemonic vd vs vt lanes)
  | .vectorScalar, mnemonic, [.position vd lane, .selected vt lanes] =>
    some (.vectorScalar mnemonic vd lane vt lanes)
  | .vectorLoadStore, mnemonic, [.position vt byte, .memory offset base] =>
    some (.vectorLoadStore mnemonic vt byte base offset)
  | _, _, _ => none

/-- A canonical instruction is given by its shape, head and operands. -/
theorem ofForm?_operands (instruction : Instruction) (known : instruction.shape ≠ .unsupported)
    (canonical : instruction.Canonical) :
    ofForm? instruction.shape instruction.head instruction.operands = some instruction := by
  cases instruction with
  | unsupported word => exact absurd rfl known
  | threeRegister mnemonic rd rs rt =>
    -- Variable shifts print their sources in the other order, and the mnemonic says so.
    by_cases shift : mnemonic ∈ variableShifts
    · rw [operands, if_pos shift]
      exact if_pos shift
    · rw [operands, if_neg shift]
      exact if_neg shift
  | jumpLinkRegister rd rs =>
    by_cases link : rd = GeneralRegister.link
    · rw [operands, if_pos link, link]
      rfl
    · rw [operands, if_neg link]
      rfl
  | immediate mnemonic rt rs value logical =>
    cases logical with
    | false => rfl
    | true =>
      have low : (if value % 0x10000 < 0x8000 then value % 0x10000
          else value % 0x10000 - 0x10000) = value := by
        obtain ⟨lower, upper⟩ := canonical
        split <;> omega
      exact congrArg (fun value => some (Instruction.immediate mnemonic rt rs value true)) low
  | _ => rfl

end Determined

section Reading

/-- What an assembled line has behind its head. -/
def afterHead : List String → String
  | [] => ""
  | operands => " " ++ ", ".intercalate operands

/-- An assembled line is its head and what stands behind it. -/
theorem assemble_eq (head : String) (operands : List String) :
    assemble head operands = head ++ afterHead operands := by
  cases operands with
  | nil => exact (String.append_empty).symm
  | cons first rest => exact String.append_assoc

/-- What stands behind a head is empty or begins with a space. -/
theorem head_afterHead (operands : List String) :
    ∀ character ∈ (afterHead operands).toList.head?, ¬ character ≠ ' ' := by
  cases operands with
  | nil => simp [afterHead]
  | cons first rest => simp [afterHead]

/-- Unbroken operand texts are recovered from what stands behind the head. -/
theorem afterHead_injective (left right : List String) (leftUnbroken : ∀ text ∈ left, Unbroken text)
    (rightUnbroken : ∀ text ∈ right, Unbroken text) (same : afterHead left = afterHead right) :
    left = right := by
  have clear (texts : List String) (unbroken : ∀ text ∈ texts, Unbroken text) :
      ∀ characters ∈ texts.map String.toList, ',' ∉ characters := by
    intro characters member comma
    obtain ⟨text, present, rfl⟩ := List.mem_map.mp member
    exact (unbroken text present ',' comma).2.1 rfl
  cases left with
  | nil =>
    cases right with
    | nil => rfl
    | cons first rest => simp [afterHead] at same
  | cons first rest =>
    cases right with
    | nil => simp [afterHead] at same
    | cons other others =>
      have joined := congrArg String.toList ((String.append_right_inj _).mp same)
      rw [String.toList_intercalate, String.toList_intercalate] at joined
      have lists := intercalate_injective _ _ (by simp) (by simp) (clear _ leftUnbroken)
        (clear _ rightUnbroken) joined
      exact (List.map_injective_iff.mpr fun _ _ => String.toList_inj.mp) lists

/-- Unbroken heads and operand texts are recovered from an assembled line. -/
theorem assemble_injective (leftHead rightHead : String) (left right : List String)
    (leftUnbroken : Unbroken leftHead) (rightUnbroken : Unbroken rightHead)
    (leftTexts : ∀ text ∈ left, Unbroken text) (rightTexts : ∀ text ∈ right, Unbroken text)
    (same : assemble leftHead left = assemble rightHead right) :
    leftHead = rightHead ∧ left = right := by
  rw [assemble_eq, assemble_eq] at same
  obtain ⟨heads, rests⟩ := split_text_unique (· ≠ ' ') _ _ _ _
    (fun character member => (leftUnbroken character member).1)
    (fun character member => (rightUnbroken character member).1)
    (head_afterHead left) (head_afterHead right) same
  exact ⟨heads, afterHead_injective left right leftTexts rightTexts rests⟩

/-- The texts of an instruction's operands are unbroken. -/
theorem unbroken_operands (style : PrintStyle) (instruction : Instruction) :
    ∀ text ∈ instruction.operands.map (Operand.text style), Unbroken text := by
  intro text member
  obtain ⟨operand, _, rfl⟩ := List.mem_map.mp member
  exact operand.unbroken_text style

/-- The text of a word that is no instruction. -/
theorem render_unsupported (style : PrintStyle) (word : Int) :
    render style (.unsupported word) =
      "; unrecognized op [" ++ Text.Numeral.word word ++ "]" := rfl

/-- A word that is no instruction prints like no form. Its mark is cut off at the first
space as if it were a head. -/
theorem render_unsupported_ne (style : PrintStyle) (word : Int) (instruction : Instruction)
    (form : (instruction.head, instruction.shape) ∈ forms) :
    render style (.unsupported word) ≠ render style instruction := by
  obtain ⟨unbroken, differs⟩ := forms_unbroken _ form
  intro same
  have mark : "; unrecognized op [" = ";" ++ " unrecognized op [" := by decide
  have markUnbroken : Unbroken ";" := by decide
  rw [render_unsupported, mark, String.append_assoc, String.append_assoc, render,
    assemble_eq] at same
  obtain ⟨heads, -⟩ := split_text_unique (· ≠ ' ') _ _ _ _
    (fun character member => (markUnbroken character member).1)
    (fun character member => (unbroken character member).1) (by simp) (head_afterHead _) same
  exact differs heads.symm

/-- Words that are no instructions are determined by their text. -/
theorem render_unsupported_injective (style : PrintStyle) (left right : Int)
    (same : render style (.unsupported left) = render style (.unsupported right)) :
    left = right := by
  rw [render_unsupported, render_unsupported] at same
  exact Text.Numeral.word_injective _ _
    ((String.append_right_inj _).mp ((String.append_left_inj _).mp same))

/-- Instructions in printed forms are determined by their text. -/
theorem render_injective_of_forms (style : PrintStyle) (left right : Instruction)
    (leftForm : (left.head, left.shape) ∈ forms) (rightForm : (right.head, right.shape) ∈ forms)
    (leftCanonical : left.Canonical) (rightCanonical : right.Canonical)
    (same : render style left = render style right) : left = right := by
  obtain ⟨heads, texts⟩ : left.head = right.head ∧ _ := assemble_injective _ _ _ _
    (forms_unbroken _ leftForm).1 (forms_unbroken _ rightForm).1 (unbroken_operands style left)
    (unbroken_operands style right) same
  have rows := List.inj_on_of_nodup_map forms_distinct leftForm rightForm heads
  have shapes : left.shape = right.shape := congrArg Prod.snd rows
  have known : left.shape ≠ .unsupported := by
    have table : ∀ form ∈ forms, form.2 ≠ .unsupported := by decide +kernel
    exact table _ leftForm
  have operands := operands_of_texts style left right shapes leftCanonical rightCanonical texts
  apply Option.some.inj
  calc some left
    _ = ofForm? left.shape left.head left.operands :=
        (ofForm?_operands left known leftCanonical).symm
    _ = ofForm? right.shape right.head right.operands := by rw [shapes, heads, operands]
    _ = some right := ofForm?_operands right (shapes ▸ known) rightCanonical

end Reading

/-- In each print style the text of a decoded word determines the instruction: its
shape, mnemonic, registers, lanes, numbers and target. -/
theorem decode_eq_of_render_eq (style : PrintStyle)
    (leftWord leftAddress rightWord rightAddress : Int)
    (same : render style (decode leftWord leftAddress) =
      render style (decode rightWord rightAddress)) :
    decode leftWord leftAddress = decode rightWord rightAddress := by
  rcases decode_form leftWord leftAddress with leftForm | leftUnknown <;>
    rcases decode_form rightWord rightAddress with rightForm | rightUnknown
  · exact render_injective_of_forms style _ _ leftForm rightForm
      (decode_canonical leftWord leftAddress) (decode_canonical rightWord rightAddress) same
  · rw [rightUnknown] at same
    exact absurd same.symm (render_unsupported_ne style _ _ leftForm)
  · rw [leftUnknown] at same
    exact absurd same (render_unsupported_ne style _ _ rightForm)
  · rw [leftUnknown, rightUnknown] at same ⊢
    rw [render_unsupported_injective style _ _ same]

/-- Two encodings of one call: the words differ in bits that the call ignores, and the
link register is not printed. -/
theorem jalr_text_determines_call :
    render {} (decode 0x0140F809 0) = "jalr t2" ∧ render {} (decode 0x0141FFC9 4) = "jalr t2" ∧
      decode 0x0140F809 0 = decode 0x0141FFC9 4 :=
  ⟨by rfl, by rfl, decode_eq_of_render_eq {} 0x0140F809 0 0x0141FFC9 4 (by rfl)⟩

end Microcode.Instruction
