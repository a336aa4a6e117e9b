import WorkflowQueue.Json.Writer
import WorkflowQueue.Proofs.Json.Spelling

namespace WorkflowQueue.Json

/-!
# Texts that were written

What the writer writes of a value is one of the texts of the value, in either
layout, as long as the value holds no floating-point number. The reader
therefore takes it back, with its members in order.
-/

/-! ## Strings -/

/-- A control character is written with two digits that read back to it. -/
theorem hexUnit?_control
    {code : Nat}
    (control : code < 32) :
    hexUnit? '0' '0' (hexDigit (code / 16)) (hexDigit code) = some code := by
  revert code
  decide

/-- The written form of a character spells that character. -/
theorem spellsChar_escapeChar
    (c : Char) :
    SpellsChar c (escapeChar c) := by
  unfold escapeChar
  split
  · next isQuote =>
      rw [isQuote]
      exact .short rfl
  split
  · next isBackslash =>
      rw [isBackslash]
      exact .short rfl
  split
  · next isLineFeed =>
      rw [isLineFeed]
      exact .short rfl
  split
  · next isReturn =>
      rw [isReturn]
      exact .short rfl
  split
  · next isTab =>
      rw [isTab]
      exact .short rfl
  split
  · next isBackspace =>
      have same : Char.ofNat 8 = c := isBackspace ▸ Char.ofNat_toNat c
      exact .short (same ▸ rfl)
  split
  · next isFormFeed =>
      have same : Char.ofNat 12 = c := isFormFeed ▸ Char.ofNat_toNat c
      exact .short (same ▸ rfl)
  split
  · next isControl => exact .unit (hexUnit?_control isControl)
  · next notQuote notBackslash _ _ _ _ _ notControl =>
      exact .raw notQuote notBackslash (Nat.le_of_not_lt notControl)

theorem spellsText_escaped
    (text : List Char) :
    SpellsText text (text.flatMap escapeChar) := by
  induction text with
  | nil => exact .nil
  | cons c text inductionHypothesis =>
      exact .cons (spellsChar_escapeChar c) inductionHypothesis

/-! ## Whole numbers -/

/-- The text of a whole number spells the number. -/
theorem spells_integerText
    (number : WideInteger) :
    Spells (.integer number) (integerText number.value) := by
  have fits : number.value.natAbs < significandLimit := by
    have inRange := number.inRange
    unfold significandLimit
    omega
  have whole := wholeNumber_eq number
  have ends : EndsNumber [] := by
    rintro c (_ | _)
  unfold integerText
  by_cases negative : number.value < 0
  · have isNumber := number_toDigits true fits ends
    rw [decide_eq_true negative] at whole
    rw [List.append_nil, whole] at isNumber
    rw [if_pos negative]
    exact .negative isNumber
  · have isNumber := number_toDigits false fits ends
    rw [decide_eq_false negative] at whole
    rw [List.append_nil, whole] at isNumber
    rw [if_neg negative]
    exact .positive isNumber

/-! ## Containers -/

/-- No blanks at all. -/
def Blanks.none : Blanks where
  text := []
  allBlank := List.forall_mem_nil _

/-- The line break before an element, a member or a closing bracket. -/
def Layout.blanks
    (layout : Layout)
    (indent : Nat) :
    Blanks where
  text := layout.lineBreak indent
  allBlank := by
    intro c member
    cases layout with
    | compact =>
        simp [Layout.lineBreak] at member
    | pretty =>
        rcases List.mem_cons.mp member with isLineFeed | inIndent
        · subst isLineFeed
          rfl
        · rw [List.eq_of_mem_replicate inIndent]
          rfl

/-- The blanks after a colon. -/
def Layout.afterColon :
    Layout →
    Blanks
  | .compact => .none
  | .pretty => { text := [' '], allBlank := List.forall_mem_singleton.mpr rfl }

theorem Layout.colon_eq
    (layout : Layout) :
    layout.colon = ':' :: layout.afterColon.text := by
  cases layout <;> rfl

/-- An element as it is written. -/
def Layout.piece
    (layout : Layout)
    (indent : Nat)
    (value : Json) :
    Piece where
  before := layout.blanks indent
  value := value
  text := write layout indent value
  after := .none

/-- A member as it is written. -/
def Layout.namedPiece
    (layout : Layout)
    (indent : Nat)
    (member : String × Json) :
    NamedPiece where
  before := layout.blanks indent
  name := member.1
  spelling := member.1.toList.flatMap escapeChar
  spelled := spellsText_escaped member.1.toList
  between := .none
  piece := {
    before := layout.afterColon
    value := member.2
    text := write layout indent member.2
    after := .none
  }

theorem writeElements_eq
    (layout : Layout)
    (indent : Nat)
    (values : List Json) :
    writeElements layout indent values =
      ((values.map (layout.piece indent)).map Piece.written).flatMap
        (',' :: ·) := by
  induction values with
  | nil => rfl
  | cons value values inductionHypothesis =>
      rw [writeElements, inductionHypothesis]
      simp [Layout.piece, Piece.written, Layout.blanks, Blanks.none]

theorem writeMembers_eq
    (layout : Layout)
    (indent : Nat)
    (members : List (String × Json)) :
    writeMembers layout indent members =
      ((members.map (layout.namedPiece indent)).map NamedPiece.written).flatMap
        (',' :: ·) := by
  induction members with
  | nil => rfl
  | cons member members inductionHypothesis =>
      rw [writeMembers, inductionHypothesis, layout.colon_eq]
      simp [Layout.namedPiece, NamedPiece.written, NamedPiece.quoted,
        Piece.written, quote, Layout.blanks, Blanks.none]

/--
A written array spells the array when its written elements spell the elements.
-/
theorem spells_write_array
    {layout : Layout}
    {indent : Nat}
    {elements : List Json}
    (inside :
      ∀ value ∈ elements, Spells value (write layout (indent + 1) value)) :
    Spells (.array elements) (write layout indent (.array elements)) := by
  have values :
      (elements.map (layout.piece (indent + 1))).map Piece.value =
        elements := by
    rw [List.map_map]
    exact List.map_id' elements
  have spelled (closing : Blanks) :=
    Spells.array (elements.map (layout.piece (indent + 1))) closing
      (List.forall_mem_map.mpr inside)
  rw [values] at spelled
  cases elements with
  | nil => exact spelled .none
  | cons first others =>
      have text := spelled (layout.blanks indent)
      simp only [List.map_cons, joined, ← writeElements_eq] at text
      simpa [write, Layout.piece, Piece.written, Layout.blanks, Blanks.none]
        using text

/--
A written object spells the object when the written values spell the values.
-/
theorem spells_write_object
    {layout : Layout}
    {indent : Nat}
    {members : List (String × Json)}
    (inside : ∀ member ∈ members,
      Spells member.2 (write layout (indent + 1) member.2)) :
    Spells (.object members) (write layout indent (.object members)) := by
  have values :
      (members.map (layout.namedPiece (indent + 1))).map NamedPiece.member =
        members := by
    rw [List.map_map]
    exact List.map_id' members
  have spelled (closing : Blanks) :=
    Spells.object (members.map (layout.namedPiece (indent + 1))) closing
      (List.forall_mem_map.mpr inside)
  rw [values] at spelled
  cases members with
  | nil => exact spelled .none
  | cons first others =>
      have text := spelled (layout.blanks indent)
      simp only [List.map_cons, joined, ← writeMembers_eq] at text
      simpa [write, Layout.namedPiece, NamedPiece.written, NamedPiece.quoted,
        Piece.written, quote, Layout.blanks, Blanks.none, layout.colon_eq]
          using text

/-! ## Whole texts -/

/-- What is written of a value is one of its texts. -/
theorem spells_write
    (layout : Layout)
    {value : Json}
    (isFloatFree : value.isFloatFree = true)
    (indent : Nat) :
    Spells value (write layout indent value) := by
  induction value using Json.induction generalizing indent with
  | null => exact .nullWord
  | bool flag =>
      cases flag
      · exact .falseWord
      · exact .trueWord
  | integer number => exact spells_integerText number
  | float number => simp [Json.isFloatFree] at isFloatFree
  | string text => exact .string (spellsText_escaped text.toList)
  | array elements inductionHypothesis =>
      refine spells_write_array fun value member => ?_
      exact inductionHypothesis value member
        (isFloatFree_array_iff.mp isFloatFree value member) _
  | object members inductionHypothesis =>
      refine spells_write_object fun member isMember => ?_
      exact inductionHypothesis member isMember
        (isFloatFree_object_iff.mp isFloatFree member isMember) _

theorem isTextOf_compact
    {value : Json}
    (isFloatFree : value.isFloatFree = true) :
    IsTextOf value value.compact :=
  ⟨.none, .none, _, spells_write .compact isFloatFree 0,
    by simp [compact, Blanks.none]⟩

/-- The text of a value is read back, in either layout. -/
theorem parse_write
    (layout : Layout)
    {value : Json}
    (isFloatFree : value.isFloatFree = true)
    (nested : value.depth ≤ nestingLimit)
    {blanks : List Char}
    (allBlank : ∀ c ∈ blanks, isBlank c = true) :
    parse (String.ofList (write layout 0 value ++ blanks)) =
      .ok value.ordered := by
  refine IsTextOf.parse
    ⟨.none, ⟨blanks, allBlank⟩, _, spells_write layout isFloatFree 0, ?_⟩ nested
  rw [String.toList_ofList]
  rfl

/-- A string is read back from its text, whatever it holds. -/
theorem parse_compact_string
    (text : String) :
    parse (string text).compact = .ok (.string text) := by
  have nested : (string text).depth ≤ nestingLimit := by
    rw [depth_string]
    exact Nat.zero_le _
  have isRead := parse_write .compact rfl nested (List.forall_mem_nil _)
  rw [List.append_nil, ordered_string] at isRead
  exact isRead

/-- A member after the first stands in the text with its name and its value. -/
theorem writeMembers_of_mem
    (layout : Layout)
    (depth : Nat)
    {members : Members}
    {member : String × Json}
    (isMember : member ∈ members) :
    ∃ before after, writeMembers layout depth members =
      before ++
        (quote member.1 ++ layout.colon ++ write layout depth member.2) ++
        after := by
  induction members with
  | nil => cases isMember
  | cons first rest inductionHypothesis =>
      obtain ⟨name, value⟩ := first
      rcases List.mem_cons.mp isMember with rfl | later
      · refine ⟨',' :: layout.lineBreak depth,
          writeMembers layout depth rest, ?_⟩
        simp [writeMembers]
      · obtain ⟨before, after, written⟩ := inductionHypothesis later
        refine ⟨',' :: (layout.lineBreak depth ++ quote name ++ layout.colon ++
          write layout depth value ++ before), after, ?_⟩
        simp [writeMembers, written]

/-- Every member of an object stands in its text with its name and its value. -/
theorem write_of_mem
    (layout : Layout)
    (depth : Nat)
    {members : Members}
    {member : String × Json}
    (isMember : member ∈ members) :
    ∃ before after, write layout depth (.object members) =
      before ++
        (quote member.1 ++ layout.colon ++ write layout (depth + 1) member.2) ++
        after := by
  cases members with
  | nil => cases isMember
  | cons first rest =>
      obtain ⟨name, value⟩ := first
      rcases List.mem_cons.mp isMember with rfl | later
      · refine ⟨'\x7b' :: layout.lineBreak (depth + 1),
          writeMembers layout (depth + 1) rest ++ layout.lineBreak depth ++
            ['\x7d'], ?_⟩
        simp [write]
      · obtain ⟨before, after, written⟩ :=
          writeMembers_of_mem layout (depth + 1) later
        refine ⟨'\x7b' ::
            (layout.lineBreak (depth + 1) ++ quote name ++ layout.colon ++
          write layout (depth + 1) value ++ before),
          after ++ layout.lineBreak depth ++ ['\x7d'], ?_⟩
        simp [write, written]

end WorkflowQueue.Json
