import Microcode.Instruction.Render
import Microcode.Proofs.Numerals

/-!
# The text of operands

Every operand is printed without spaces, commas and line ends, so a printed operand
list is cut at its commas and its head at the first space. Inside an operand the parts
are told apart by what a part cannot contain: a register's text has no bracket, and a
numeral has neither brackets nor letters beyond its digits. So each kind of operand is
determined by its text, in every print style.
-/

namespace Microcode

section Splitting

/-- Two lists with equal concatenations split alike, if the fronts lie inside a class
of characters and what follows each front begins outside it. -/
theorem split_unique (inside : Char → Prop) (left right leftRest rightRest : List Char)
    (leftInside : ∀ character ∈ left, inside character)
    (rightInside : ∀ character ∈ right, inside character)
    (leftStop : ∀ character ∈ leftRest.head?, ¬ inside character)
    (rightStop : ∀ character ∈ rightRest.head?, ¬ inside character)
    (same : left ++ leftRest = right ++ rightRest) : left = right ∧ leftRest = rightRest := by
  induction left generalizing right with
  | nil =>
    cases right with
    | nil => exact ⟨rfl, same⟩
    | cons first rest =>
      have start : leftRest.head? = some first := by
        have heads := congrArg List.head? same
        simpa using heads
      exact absurd (rightInside first List.mem_cons_self) (leftStop first start)
  | cons first rest inductionHypothesis =>
    cases right with
    | nil =>
      have start : rightRest.head? = some first := by
        have heads := congrArg List.head? same
        simpa using heads.symm
      exact absurd (leftInside first List.mem_cons_self) (rightStop first start)
    | cons other others =>
      obtain ⟨rfl, tails⟩ := List.cons.inj same
      obtain ⟨rfl, rests⟩ := inductionHypothesis others
        (fun character member => leftInside character (List.mem_cons_of_mem _ member))
        (fun character member => rightInside character (List.mem_cons_of_mem _ member)) tails
      exact ⟨rfl, rests⟩

/-- A rest that begins outside a class. -/
theorem stop_of_head {inside : Char → Prop} {rest : List Char} {first : Char}
    (start : rest.head? = some first) (outside : ¬ inside first) :
    ∀ character ∈ rest.head?, ¬ inside character := by
  intro character member
  rw [start] at member
  exact Option.some.inj member ▸ outside

/-- Texts without a mark are recovered from a text in which the mark and a space part
them. The induction cuts at the first mark. -/
theorem intercalate_injective (left right : List (List Char)) (leftSome : left ≠ [])
    (rightSome : right ≠ []) (leftClear : ∀ text ∈ left, ',' ∉ text)
    (rightClear : ∀ text ∈ right, ',' ∉ text)
    (same : List.intercalate [',', ' '] left = List.intercalate [',', ' '] right) :
    left = right := by
  induction left generalizing right with
  | nil => exact absurd rfl leftSome
  | cons text rest inductionHypothesis =>
    cases right with
    | nil => exact absurd rfl rightSome
    | cons other others =>
      have textClear : ∀ character ∈ text, character ≠ ',' := by
        rintro character member rfl
        exact leftClear text List.mem_cons_self member
      have otherClear : ∀ character ∈ other, character ≠ ',' := by
        rintro character member rfl
        exact rightClear other List.mem_cons_self member
      cases rest with
      | nil =>
        cases others with
        | nil => simpa using same
        | cons next more =>
          simp only [List.intercalate_singleton, List.intercalate_cons_cons,
            List.append_assoc] at same
          exact absurd rfl (textClear ',' (by simp [same]))
      | cons following later =>
        cases others with
        | nil =>
          simp only [List.intercalate_singleton, List.intercalate_cons_cons,
            List.append_assoc] at same
          exact absurd rfl (otherClear ',' (by simp [← same]))
        | cons next more =>
          simp only [List.intercalate_cons_cons, List.append_assoc] at same
          obtain ⟨rfl, tails⟩ := split_unique (· ≠ ',') text other _ _ textClear otherClear
            (by simp) (by simp) same
          have joined : List.intercalate [',', ' '] (following :: later) =
              List.intercalate [',', ' '] (next :: more) := by simpa using tails
          rw [inductionHypothesis (next :: more) (by simp) (by simp)
            (fun text member => leftClear text (List.mem_cons_of_mem _ member))
            (fun text member => rightClear text (List.mem_cons_of_mem _ member)) joined]

end Splitting

section Unbroken

open Text

/-- Text that no space, comma or line end interrupts. -/
def Unbroken (text : String) : Prop :=
  ∀ character ∈ text.toList, character ≠ ' ' ∧ character ≠ ',' ∧ character ≠ '\n'

instance (text : String) : Decidable (Unbroken text) :=
  List.decidableBAll (fun character => character ≠ ' ' ∧ character ≠ ',' ∧ character ≠ '\n') _

/-- Unbroken texts one behind the other are unbroken. -/
theorem Unbroken.append {left right : String} (front : Unbroken left) (back : Unbroken right) :
    Unbroken (left ++ right) := by
  intro character member
  rw [String.toList_append] at member
  rcases List.mem_append.mp member with early | late
  · exact front character early
  · exact back character late

/-- Text made of numeral characters is unbroken. -/
theorem unbroken_of_isCharacter (text : String)
    (numeral : ∀ character ∈ text.toList, Numeral.IsCharacter character) : Unbroken text := by
  intro character member
  have shape := numeral character member
  refine ⟨?_, ?_, ?_⟩ <;> rintro rfl <;> exact absurd shape (by decide)

/-- Decimal numerals are unbroken. -/
theorem unbroken_decimal (value : Int) : Unbroken (Numeral.decimal value) :=
  unbroken_of_isCharacter _ (Numeral.isCharacter_of_mem_decimal value)

/-- Columns are unbroken. -/
theorem unbroken_word (value : Int) : Unbroken (Numeral.word value) :=
  unbroken_of_isCharacter _ (Numeral.isCharacter_of_mem_word value)

/-- General registers are unbroken in every style. -/
theorem GeneralRegister.unbroken_text (style : PrintStyle) (register : GeneralRegister) :
    Unbroken (register.text style) := by
  have named : ∀ index : Fin 32, Unbroken (names.get index) := by decide
  rw [text]
  split
  · exact named register.index
  · exact .append (by decide) (unbroken_decimal _)

/-- System registers are unbroken in every style. -/
theorem SystemRegister.unbroken_text (style : PrintStyle) (register : SystemRegister) :
    Unbroken (register.text style) := by
  have named : ∀ index : Fin 16, Unbroken (vendorNames.get index) := by decide
  rw [text]
  split
  · exact .append (by decide) (unbroken_decimal _)
  · exact named register.index

/-- Vector control registers are unbroken in every style. -/
theorem VectorControl.unbroken_text (style : PrintStyle) (register : VectorControl) :
    Unbroken (register.text style) := by
  have named : ∀ index : Fin 3, Unbroken (names.get index) := by decide
  rw [text]
  split
  · exact named register.index
  · exact .append (by decide) (named register.index)

/-- Vector registers are unbroken in every style. -/
theorem VectorRegister.unbroken_text (style : PrintStyle) (register : VectorRegister) :
    Unbroken (register.text style) := by
  rw [text]
  refine .append ?_ (unbroken_decimal _)
  split <;> decide

/-- Lane selectors are unbroken. -/
theorem LaneSelector.unbroken_text (selector : LaneSelector) : Unbroken selector.text := by
  rw [text]
  split
  · decide
  · exact .append (.append (by decide) (unbroken_decimal _)) (by decide)
  · exact .append (.append (by decide) (unbroken_decimal _)) (by decide)
  · exact .append (.append (by decide) (unbroken_decimal _)) (by decide)

/-- Symbol names are unbroken. -/
theorem Symbol.unbroken_name (symbol : Symbol) : Unbroken symbol.name := by
  have marked : Unbroken symbol.kind.marker := by cases symbol.kind <;> decide
  exact marked.append (unbroken_word _)

/-- Every operand is unbroken in every style. -/
theorem Operand.unbroken_text (style : PrintStyle) (operand : Operand) :
    Unbroken (operand.text style) := by
  cases operand with
  | general register => exact register.unbroken_text style
  | system register => exact register.unbroken_text style
  | control register => exact register.unbroken_text style
  | vector register => exact register.unbroken_text style
  | selected register lanes =>
    exact (register.unbroken_text style).append lanes.unbroken_text
  | position register index =>
    exact (((register.unbroken_text style).append (by decide)).append
      (unbroken_decimal index)).append (by decide)
  | decimal value => exact unbroken_decimal value
  | hexadecimal value =>
    exact .append (by decide)
      (unbroken_of_isCharacter _ (Numeral.isCharacter_of_mem_lowerHex value))
  | memory offset base =>
    have number : Unbroken (Numeral.signedHex offset) :=
      unbroken_of_isCharacter _ (Numeral.isCharacter_of_mem_signedHex offset)
    exact ((number.append (by decide)).append (base.unbroken_text style)).append (by decide)
  | target symbol => exact symbol.unbroken_name

end Unbroken

section Determined

open Text

/-- Texts split alike at the first character outside a class. -/
theorem split_text_unique (inside : Char → Prop) (left right leftRest rightRest : String)
    (leftInside : ∀ character ∈ left.toList, inside character)
    (rightInside : ∀ character ∈ right.toList, inside character)
    (leftStop : ∀ character ∈ leftRest.toList.head?, ¬ inside character)
    (rightStop : ∀ character ∈ rightRest.toList.head?, ¬ inside character)
    (same : left ++ leftRest = right ++ rightRest) : left = right ∧ leftRest = rightRest := by
  have lists := congrArg String.toList same
  rw [String.toList_append, String.toList_append] at lists
  obtain ⟨fronts, rests⟩ := split_unique inside _ _ _ _ leftInside rightInside leftStop
    rightStop lists
  exact ⟨String.toList_inj.mp fronts, String.toList_inj.mp rests⟩

/-- General registers are determined by their text. -/
theorem GeneralRegister.text_injective (style : PrintStyle) (left right : GeneralRegister)
    (same : left.text style = right.text style) : left = right := by
  have named : ∀ left right : Fin 32, names.get left = names.get right → left = right := by
    decide
  obtain ⟨left⟩ := left
  obtain ⟨right⟩ := right
  congr 1
  cases names : style.registerNames <;> simp only [text, names, if_true] at same
  · have numbers := Numeral.decimal_injective _ _ ((String.append_right_inj _).mp same)
    omega
  · exact named left right same

/-- System registers are determined by their text. -/
theorem SystemRegister.text_injective (style : PrintStyle) (left right : SystemRegister)
    (same : left.text style = right.text style) : left = right := by
  have named : ∀ left right : Fin 16,
      vendorNames.get left = vendorNames.get right → left = right := by
    decide
  obtain ⟨left⟩ := left
  obtain ⟨right⟩ := right
  congr 1
  cases numbered : style.numberedSystemNames <;> simp only [text, numbered, if_true] at same
  · exact named left right same
  · have numbers := Numeral.decimal_injective _ _ ((String.append_right_inj _).mp same)
    omega

/-- Vector control registers are determined by their text. -/
theorem VectorControl.text_injective (style : PrintStyle) (left right : VectorControl)
    (same : left.text style = right.text style) : left = right := by
  have named : ∀ left right : Fin 3, names.get left = names.get right → left = right := by
    decide
  obtain ⟨left⟩ := left
  obtain ⟨right⟩ := right
  congr 1
  cases names : style.registerNames <;> simp only [text, names, if_true] at same
  · exact named left right ((String.append_right_inj _).mp same)
  · exact named left right same

/-- Vector registers are determined by their text. -/
theorem VectorRegister.text_injective (style : PrintStyle) (left right : VectorRegister)
    (same : left.text style = right.text style) : left = right := by
  have numbers := Numeral.decimal_injective _ _ ((String.append_right_inj _).mp same)
  obtain ⟨left⟩ := left
  obtain ⟨right⟩ := right
  exact congrArg VectorRegister.mk numbers

/-- The text of a vector register has no bracket. -/
theorem VectorRegister.no_bracket (style : PrintStyle) (register : VectorRegister) :
    ∀ character ∈ (register.text style).toList, character ≠ '[' := by
  rintro character member rfl
  rw [text, String.toList_append] at member
  rcases List.mem_append.mp member with letters | number
  · split at letters
    · exact absurd letters (by decide)
    · exact absurd letters (by decide)
  · exact absurd (Numeral.isCharacter_of_mem_decimal _ _ number) (by decide)

/-- The selectors that occur in words: the whole register is selected in one way only. -/
def LaneSelector.Canonical (selector : LaneSelector) : Prop :=
  selector.group = .whole → selector.index = 0

/-- What stands behind the index of a lane selector. -/
def LaneGroup.ending : LaneGroup → String
  | .whole => ""
  | .quarter => "q]"
  | .half => "h]"
  | .single => "]"

/-- Groups are determined by their endings, which begin with no numeral character. -/
theorem LaneGroup.ending_injective (left right : LaneGroup) (same : left.ending = right.ending) :
    left = right := by
  cases left <;> cases right <;> first | rfl | exact absurd same (by decide)

/-- The text of a selector that shows its index. -/
theorem LaneSelector.text_of_shown (selector : LaneSelector) (shown : selector.group ≠ .whole) :
    selector.text = "[" ++ (Numeral.decimal selector.index ++ selector.group.ending) := by
  cases group : selector.group with
  | whole => exact absurd group shown
  | quarter | half | single => simp only [text, group, LaneGroup.ending, String.append_assoc]

/-- The text of a selector is empty or begins with a bracket. -/
theorem LaneSelector.head_text (selector : LaneSelector) :
    ∀ character ∈ selector.text.toList.head?, character = '[' := by
  by_cases whole : selector.group = .whole
  · simp [text, whole]
  · simp [selector.text_of_shown whole]

/-- Canonical lane selectors are determined by their text. -/
theorem LaneSelector.text_injective (left right : LaneSelector) (leftCanonical : left.Canonical)
    (rightCanonical : right.Canonical) (same : left.text = right.text) : left = right := by
  have shownText (selector : LaneSelector) (shown : selector.group ≠ .whole) :
      selector.text ≠ "" := by
    rw [selector.text_of_shown shown]
    simp
  have stop (group : LaneGroup) :
      ∀ character ∈ group.ending.toList.head?, ¬ Numeral.IsCharacter character := by
    cases group with
    | whole => simp [LaneGroup.ending]
    | quarter => exact stop_of_head rfl (by decide)
    | half => exact stop_of_head rfl (by decide)
    | single => exact stop_of_head rfl (by decide)
  obtain ⟨leftGroup, leftIndex⟩ := left
  obtain ⟨rightGroup, rightIndex⟩ := right
  by_cases leftWhole : leftGroup = .whole <;> by_cases rightWhole : rightGroup = .whole
  · subst leftWhole rightWhole
    have indices : leftIndex = rightIndex := (leftCanonical rfl).trans (rightCanonical rfl).symm
    rw [indices]
  · subst leftWhole
    exact absurd same.symm (shownText ⟨rightGroup, rightIndex⟩ rightWhole)
  · subst rightWhole
    exact absurd same (shownText ⟨leftGroup, leftIndex⟩ leftWhole)
  · rw [text_of_shown _ leftWhole, text_of_shown _ rightWhole] at same
    obtain ⟨numbers, endings⟩ := split_text_unique Numeral.IsCharacter _ _ _ _
      (Numeral.isCharacter_of_mem_decimal _) (Numeral.isCharacter_of_mem_decimal _)
      (stop leftGroup) (stop rightGroup) ((String.append_right_inj _).mp same)
    have indices : leftIndex = rightIndex := Numeral.decimal_injective _ _ numbers
    rw [LaneGroup.ending_injective _ _ endings, indices]

/-- A register with its lanes is determined by its text, if the lanes are canonical. -/
theorem selected_injective (style : PrintStyle) (left right : VectorRegister)
    (leftLanes rightLanes : LaneSelector) (leftCanonical : leftLanes.Canonical)
    (rightCanonical : rightLanes.Canonical)
    (same : (Operand.selected left leftLanes).text style =
      (Operand.selected right rightLanes).text style) :
    left = right ∧ leftLanes = rightLanes := by
  have stop (lanes : LaneSelector) :
      ∀ character ∈ lanes.text.toList.head?, ¬ character ≠ '[' := by
    intro character start different
    exact different (lanes.head_text character start)
  obtain ⟨registers, lanes⟩ := split_text_unique (· ≠ '[') _ _ _ _ (left.no_bracket style)
    (right.no_bracket style) (stop leftLanes) (stop rightLanes) same
  exact ⟨VectorRegister.text_injective style left right registers,
    LaneSelector.text_injective _ _ leftCanonical rightCanonical lanes⟩

/-- A position of a register is determined by its text. -/
theorem position_injective (style : PrintStyle) (left right : VectorRegister)
    (leftIndex rightIndex : Int)
    (same : (Operand.position left leftIndex).text style =
      (Operand.position right rightIndex).text style) :
    left = right ∧ leftIndex = rightIndex := by
  simp only [Operand.text, String.append_assoc] at same
  obtain ⟨registers, indices⟩ := split_text_unique (· ≠ '[') _ _ _ _ (left.no_bracket style)
    (right.no_bracket style) (by simp) (by simp) same
  have numbers := (String.append_left_inj _).mp ((String.append_right_inj _).mp indices)
  exact ⟨VectorRegister.text_injective style left right registers,
    Numeral.decimal_injective _ _ numbers⟩

/-- A memory operand is determined by its text. -/
theorem memory_injective (style : PrintStyle) (leftOffset rightOffset : Int)
    (left right : GeneralRegister)
    (same : (Operand.memory leftOffset left).text style =
      (Operand.memory rightOffset right).text style) :
    leftOffset = rightOffset ∧ left = right := by
  have stop (rest : String) :
      ∀ character ∈ ("(" ++ rest).toList.head?, ¬ Numeral.IsCharacter character := by
    rw [String.toList_append]
    exact stop_of_head rfl (by decide)
  simp only [Operand.text, String.append_assoc] at same
  obtain ⟨offsets, bases⟩ := split_text_unique Numeral.IsCharacter _ _ _ _
    (Numeral.isCharacter_of_mem_signedHex _) (Numeral.isCharacter_of_mem_signedHex _)
    (stop _) (stop _) same
  have registers := (String.append_left_inj _).mp ((String.append_right_inj _).mp bases)
  exact ⟨Numeral.signedHex_injective _ _ offsets,
    GeneralRegister.text_injective style left right registers⟩

/-- Symbols are determined by their names. The two markers begin differently. -/
theorem Symbol.name_injective (left right : Symbol) (same : left.name = right.name) :
    left = right := by
  obtain ⟨leftKind, leftAddress⟩ := left
  obtain ⟨rightKind, rightAddress⟩ := right
  have kinds : leftKind = rightKind := by
    have heads := congrArg (fun text => text.toList.head?) same
    cases leftKind <;> cases rightKind <;>
      simp [name, SymbolKind.marker] at heads ⊢
  subst kinds
  have addresses : leftAddress = rightAddress :=
    Numeral.word_injective _ _ ((String.append_right_inj _).mp same)
  rw [addresses]

/-- What an operand shows. -/
inductive OperandKind where
  | general
  | system
  | control
  | vector
  | selected
  | position
  | decimal
  | hexadecimal
  | memory
  | target
  deriving DecidableEq

namespace Operand

/-- The kind of an operand. -/
def kind : Operand → OperandKind
  | .general .. => .general
  | .system .. => .system
  | .control .. => .control
  | .vector .. => .vector
  | .selected .. => .selected
  | .position .. => .position
  | .decimal .. => .decimal
  | .hexadecimal .. => .hexadecimal
  | .memory .. => .memory
  | .target .. => .target

/-- Operands that words supply: their lanes are canonical. -/
def Canonical : Operand → Prop
  | .selected _ lanes => lanes.Canonical
  | _ => True

/-- Canonical operands of one kind are determined by their text. The kind is needed: a
scalar and a vector register may share a name. -/
theorem text_injective (style : PrintStyle) (left right : Operand)
    (kinds : left.kind = right.kind) (leftCanonical : left.Canonical)
    (rightCanonical : right.Canonical) (same : left.text style = right.text style) :
    left = right := by
  cases left with
  | general register =>
    cases right with
    | general other => rw [GeneralRegister.text_injective style register other same]
    | _ => nomatch kinds
  | system register =>
    cases right with
    | system other => rw [SystemRegister.text_injective style register other same]
    | _ => nomatch kinds
  | control register =>
    cases right with
    | control other => rw [VectorControl.text_injective style register other same]
    | _ => nomatch kinds
  | vector register =>
    cases right with
    | vector other => rw [VectorRegister.text_injective style register other same]
    | _ => nomatch kinds
  | selected register lanes =>
    cases right with
    | selected other otherLanes =>
      obtain ⟨rfl, rfl⟩ := selected_injective style register other lanes otherLanes leftCanonical
        rightCanonical same
      rfl
    | _ => nomatch kinds
  | position register index =>
    cases right with
    | position other otherIndex =>
      obtain ⟨rfl, rfl⟩ := position_injective style register other index otherIndex same
      rfl
    | _ => nomatch kinds
  | decimal value =>
    cases right with
    | decimal other => rw [Numeral.decimal_injective value other same]
    | _ => nomatch kinds
  | hexadecimal value =>
    cases right with
    | hexadecimal other =>
      rw [Numeral.lowerHex_injective value other ((String.append_right_inj _).mp same)]
    | _ => nomatch kinds
  | memory offset base =>
    cases right with
    | memory otherOffset other =>
      obtain ⟨rfl, rfl⟩ := memory_injective style offset otherOffset base other same
      rfl
    | _ => nomatch kinds
  | target symbol =>
    cases right with
    | target other => rw [Symbol.name_injective symbol other same]
    | _ => nomatch kinds

/-- Lists of canonical operands of the same kinds are determined by their texts. -/
theorem texts_injective (style : PrintStyle) (left right : List Operand)
    (kinds : left.map kind = right.map kind)
    (leftCanonical : ∀ operand ∈ left, operand.Canonical)
    (rightCanonical : ∀ operand ∈ right, operand.Canonical)
    (texts : left.map (text style) = right.map (text style)) : left = right := by
  induction left generalizing right with
  | nil => exact (List.map_eq_nil_iff.mp texts.symm).symm
  | cons operand rest inductionHypothesis =>
    cases right with
    | nil => exact nomatch texts
    | cons other others =>
      simp only [List.map_cons, List.cons.injEq] at kinds texts
      rw [List.forall_mem_cons] at leftCanonical rightCanonical
      rw [text_injective style operand other kinds.1 leftCanonical.1 rightCanonical.1 texts.1,
        inductionHypothesis others kinds.2 leftCanonical.2 rightCanonical.2 texts.2]

end Operand

end Determined

end Microcode
