import Mathlib.Data.List.TakeWhile
import WorkflowQueue.Proofs.Json.Settling
import WorkflowQueue.Proofs.Json.Spelling

namespace WorkflowQueue.Json

/-!
# What can be read is written

A text that is read is a text of some value, nested no deeper than the reader
allows, and what is read is what that value settles to. `parse_eq_ok_iff` puts
this together with the texts that are read: nothing but the texts of values can
be parsed, and all of them can.
-/

/-! ## Strings -/

theorem hexValue?_lt
    {c : Char}
    {digit : Nat}
    (isDigit : hexValue? c = some digit) :
    digit < 16 := by
  unfold hexValue? at isDigit
  simp only [Char.le_def, UInt32.le_iff_toNat_le] at isDigit
  have value : c.val.toNat = c.toNat := rfl
  have bounds : '9'.val.toNat = 57 ∧ 'f'.val.toNat = 102 ∧ 'F'.val.toNat = 70 :=
    ⟨rfl, rfl, rfl⟩
  have starts : '0'.toNat = 48 ∧ 'a'.toNat = 97 ∧ 'A'.toNat = 65 :=
    ⟨rfl, rfl, rfl⟩
  split_ifs at isDigit <;> cases isDigit <;> omega

theorem hexUnit?_lt
    {x y z w : Char}
    {unit : Nat}
    (isUnit : hexUnit? x y z w = some unit) :
    unit < 0x10000 := by
  simp only [hexUnit?, Option.bind_eq_bind, Option.bind_eq_some_iff,
    Option.pure_def, Option.some.injEq] at isUnit
  obtain ⟨a, isA, b, isB, c, isC, d, isD, rfl⟩ := isUnit
  have aLess := hexValue?_lt isA
  have bLess := hexValue?_lt isB
  have cLess := hexValue?_lt isC
  have dLess := hexValue?_lt isD
  omega

theorem toNat_ofNat
    {unit : Nat}
    (isChar : unit.isValidChar) :
    (Char.ofNat unit).toNat = unit := by
  rw [Char.ofNat, dif_pos isChar]
  rfl

/-- A unit that is no half of a pair spells a character. -/
theorem spellsChar_unit
    {x y z w : Char}
    {unit : Nat}
    (isUnit : hexUnit? x y z w = some unit)
    (notLow : ¬isLowSurrogate unit = true)
    (notHigh : ¬isHighSurrogate unit = true) :
    SpellsChar (Char.ofNat unit) ['\\', 'u', x, y, z, w] := by
  rw [isLowSurrogate_iff] at notLow
  rw [isHighSurrogate_iff] at notHigh
  have bound := hexUnit?_lt isUnit
  refine .unit ?_
  rw [toNat_ofNat (by unfold Nat.isValidChar; omega), isUnit]

/-- Two halves spell a character. -/
theorem spellsChar_pair
    {x y z w p q r s : Char}
    {high low : Nat}
    (first : hexUnit? x y z w = some high)
    (second : hexUnit? p q r s = some low)
    (isHigh : isHighSurrogate high = true)
    (isLow : isLowSurrogate low = true) :
    SpellsChar (pairChar high low) ['\\', 'u', x, y, z, w, '\\', 'u', p,
      q, r, s] := by
  rw [isHighSurrogate_iff] at isHigh
  rw [isLowSurrogate_iff] at isLow
  refine .pair first second isHigh isLow ?_
  rw [pairChar, toNat_ofNat (by unfold Nat.isValidChar; omega)]

theorem hexFault_ne_ok
    {digits rest : List Char}
    {result : α} :
    hexFault digits ≠ .ok (result, rest) := by
  unfold hexFault
  split <;> rintro ⟨⟩

theorem pairFault_ne_ok
    {text rest : List Char}
    {result : α} :
    pairFault text ≠ .ok (result, rest) := by
  unfold pairFault
  split
  case h_3 => exact hexFault_ne_ok
  all_goals rintro ⟨⟩

/--
A text spells, up to a quote, what a result has beyond the characters that were
taken.
-/
def SpellsUpToQuote
    (taken text : List Char)
    (result : String)
    (rest : List Char) :
    Prop :=
  ∃ chars spelling,
    SpellsText chars spelling ∧ text = spelling ++ '"' :: rest ∧
      result = String.ofList (taken.reverse ++ chars)

theorem SpellsUpToQuote.cons
    {c : Char}
    {piece taken text rest : List Char}
    {result : String}
    (first : SpellsChar c piece)
    (others : SpellsUpToQuote (c :: taken) text result rest) :
    SpellsUpToQuote taken (piece ++ text) result rest := by
  obtain ⟨chars, spelling, spelled, rfl, rfl⟩ := others
  exact ⟨c :: chars, piece ++ spelling, .cons first spelled, by simp, by simp⟩

/-- The characters of a string are spelled. The induction follows the reader. -/
theorem spellsUpToQuote_of_stringBody
    {taken text rest : List Char}
    {result : String}
    (isRead : stringBody taken text = .ok (result, rest)) :
    SpellsUpToQuote taken text result rest := by
  fun_induction stringBody taken text
  case case2 taken after =>
    cases isRead
    exact ⟨[], [], .nil, rfl, by rw [List.append_nil]⟩
  case case7 taken x y z w high isHighUnit _ isHigh p q r s beyond low isLowUnit
      isLow _ inductionHypothesis =>
    exact (inductionHypothesis isRead).cons
      (spellsChar_pair isHighUnit isLowUnit isHigh isLow)
  case case10 taken x y z w after unit isUnit notLow notHigh _
      inductionHypothesis =>
    exact (inductionHypothesis isRead).cons
      (spellsChar_unit isUnit notLow notHigh)
  case case12 taken letter after _ _ meant stands _ inductionHypothesis =>
    exact (inductionHypothesis isRead).cons (.short stands)
  case case15 taken c after notQuote notBackslash notControl
      inductionHypothesis =>
    exact (inductionHypothesis isRead).cons
      (.raw notQuote notBackslash (Nat.le_of_not_lt notControl))
  all_goals first
    | cases isRead
    | exact (hexFault_ne_ok isRead).elim
    | exact (pairFault_ne_ok isRead).elim

/-! ## Blanks and words -/

/-- The blanks with which a text begins. -/
def Blanks.ahead
    (text : List Char) :
    Blanks where
  text := text.takeWhile isBlank
  allBlank _ isTaken := List.mem_takeWhile_imp isTaken

theorem Blanks.ahead_append
    (text : List Char) :
    (ahead text).text ++ skipBlanks text = text :=
  List.takeWhile_append_dropWhile

/-- Blanks after blanks. -/
def Blanks.append
    (first second : Blanks) :
    Blanks where
  text := first.text ++ second.text
  allBlank := List.forall_mem_append.mpr ⟨first.allBlank, second.allBlank⟩

/-- A word is read letter by letter. -/
theorem eq_of_word
    {value stored : Json}
    {letters text rest : List Char}
    (isRead : word value letters text = .ok (stored, rest)) :
    stored = value ∧ text = letters ++ rest := by
  induction letters generalizing text with
  | nil =>
      cases isRead
      exact ⟨rfl, rfl⟩
  | cons letter letters inductionHypothesis =>
      rcases text with _ | ⟨c, text⟩
      · cases isRead
      rw [word] at isRead
      split at isRead
      · next same =>
          obtain ⟨rfl, rfl⟩ := inductionHypothesis isRead
          exact ⟨rfl, by rw [same]; rfl⟩
      · cases isRead

/-! ## Containers -/

/--
A text that spells a value in front of a rest: one that is stored so, and not
too deep.
-/
def SpellsAhead
    (bound : Nat)
    (text : List Char)
    (stored : Json)
    (rest : List Char) :
    Prop :=
  ∃ (before : Blanks) (written : Json) (spelling : List Char),
    text = before.text ++ (spelling ++ rest) ∧ Spells written spelling ∧
      written.depth ≤ bound ∧ written.ordered = stored

/-- A piece whose text spells its value, which is not too deep. -/
structure Piece.Fits
    (bound : Nat)
    (piece : Piece) :
    Prop where
  spells : Spells piece.value piece.text
  depth_le : piece.value.depth ≤ bound

section Containers

variable
  {item : List Char → Read Json}
  {bound : Nat}
  (recognises :
    ∀ {text stored rest}, item text = .ok (stored, rest) →
      SpellsAhead bound text stored rest)

include recognises

/-- What is read after blanks is a piece, up to the blanks that follow it. -/
theorem exists_piece_of_item
    {text rest : List Char}
    {stored : Json}
    (isRead : item (skipBlanks text) = .ok (stored, rest))
    (after : Blanks) :
    ∃ piece : Piece, piece.after = after ∧ piece.Fits bound ∧
        piece.value.ordered = stored ∧
      text = piece.before.text ++ (piece.text ++ rest) := by
  obtain ⟨before, written, spelling, shape, spells, depth_le, isStored⟩ :=
    recognises isRead
  refine ⟨{
    before := (Blanks.ahead text).append before
    value := written
    text := spelling
    after := after
  }, rfl, ⟨spells, depth_le⟩, isStored, ?_⟩
  rw [Blanks.append, List.append_assoc, ← shape, Blanks.ahead_append]

/--
The elements after the first are pieces with a comma before each. The induction
is on the rounds; the blanks in front belong to the piece before.
-/
theorem exists_pieces_of_elements
    {rounds : Nat}
    {taken stored : List Json}
    {text rest : List Char}
    (isRead : elements item rounds taken text = .ok (stored, rest)) :
    ∃ (blanks closing : Blanks) (pieces : List Piece),
      text = blanks.text ++
        remainder (pieces.map Piece.written) closing ']' rest ∧
      (∀ piece ∈ pieces, piece.Fits bound) ∧
      stored = taken.reverse ++ (pieces.map Piece.value).map ordered := by
  induction rounds generalizing taken text with
  | zero => cases isRead
  | succ rounds inductionHypothesis =>
      have shape := Blanks.ahead_append text
      rw [elements] at isRead
      split at isRead
      · cases isRead
      · next after closed =>
          cases isRead
          rw [closed] at shape
          exact ⟨.ahead [], .ahead text, [], shape.symm,
            List.forall_mem_nil _, by simp⟩
      · next after comma =>
          rw [comma] at shape
          split at isRead
          · cases isRead
          · cases isRead
          split at isRead
          · cases isRead
          · next value left itemRead =>
              obtain ⟨blanks, closing, pieces, rfl, fits, rfl⟩ :=
                inductionHypothesis isRead
              obtain ⟨piece, rfl, pieceFits, rfl, rfl⟩ :=
                exists_piece_of_item recognises itemRead blanks
              refine ⟨.ahead text, closing, piece :: pieces, ?_,
                List.forall_mem_cons.mpr ⟨pieceFits, fits⟩, by simp⟩
              rw [List.map_cons, remainder_cons]
              exact shape.symm
      · cases isRead

/-- The elements of an array are pieces with commas between them. -/
theorem exists_pieces_of_arrayBody
    {rounds : Nat}
    {text rest : List Char}
    {stored : List Json}
    (isRead : arrayBody item rounds text = .ok (stored, rest)) :
    ∃ (closing : Blanks) (pieces : List Piece),
      text = joined (pieces.map Piece.written) ++
        (closing.text ++ ']' :: rest) ∧
      (∀ piece ∈ pieces, piece.Fits bound) ∧
      stored = (pieces.map Piece.value).map ordered := by
  have shape := Blanks.ahead_append text
  rw [arrayBody] at isRead
  split at isRead
  · cases isRead
  · next after closed =>
      cases isRead
      rw [closed] at shape
      exact ⟨.ahead text, [], shape.symm, List.forall_mem_nil _, rfl⟩
  split at isRead
  · cases isRead
  · next value left itemRead =>
      obtain ⟨blanks, closing, pieces, rfl, fits, rfl⟩ :=
        exists_pieces_of_elements recognises isRead
      obtain ⟨piece, rfl, pieceFits, rfl, rfl⟩ :=
        exists_piece_of_item recognises itemRead blanks
      refine ⟨closing, piece :: pieces, ?_,
        List.forall_mem_cons.mpr ⟨pieceFits, fits⟩, rfl⟩
      simp [joined, Piece.written, remainder]

/-- A member, from the opening quote of its name, is a named piece. -/
theorem exists_named_of_member
    {text rest : List Char}
    {name : String}
    {stored : Json}
    (isRead : member item text = .ok ((name, stored), rest))
    (before after : Blanks) :
    ∃ named : NamedPiece, named.before = before ∧ named.piece.after = after ∧
      named.piece.Fits bound ∧ orderedMember named.member = (name, stored) ∧
      text = named.spelling ++ '"' :: (named.between.text ++ ':' ::
        (named.piece.before.text ++ (named.piece.text ++ rest))) := by
  rw [member] at isRead
  split at isRead
  · cases isRead
  · next name left nameRead =>
    obtain ⟨chars, spelling, spelled, rfl, isName⟩ :=
      spellsUpToQuote_of_stringBody nameRead
    have shape := Blanks.ahead_append left
    split at isRead
    · cases isRead
    · next valueText colon =>
        rw [colon] at shape
        split at isRead
        · cases isRead
        · next value left itemRead =>
          cases isRead
          obtain ⟨gap, written, valueSpelling, rfl, spells, depth_le, rfl⟩ :=
            recognises itemRead
          refine ⟨{
            before := before
            name := name
            spelling := spelling
            spelled := by simpa [isName] using spelled
            between := .ahead left
            piece :=
              {
                before := gap
                value := written
                text := valueSpelling
                after := after
              }
          }, rfl, rfl, ⟨spells, depth_le⟩, rfl, ?_⟩
          rw [shape]
    · cases isRead

theorem exists_pieces_of_members
    {rounds : Nat}
    {taken stored : Members}
    {text rest : List Char}
    (isRead : members item rounds taken text = .ok (stored, rest)) :
    ∃ (blanks closing : Blanks) (pieces : List NamedPiece),
      text = blanks.text ++
        remainder (pieces.map NamedPiece.written) closing '}' rest ∧
      (∀ named ∈ pieces, named.piece.Fits bound) ∧
      stored =
        taken.insertAll ((pieces.map NamedPiece.member).map orderedMember) := by
  induction rounds generalizing taken text with
  | zero => cases isRead
  | succ rounds inductionHypothesis =>
      have shape := Blanks.ahead_append text
      rw [members] at isRead
      split at isRead
      · cases isRead
      · next after closed =>
          cases isRead
          rw [closed] at shape
          exact ⟨.ahead [], .ahead text, [], shape.symm,
            List.forall_mem_nil _, rfl⟩
      · next after comma =>
          rw [comma] at shape
          have afterComma := Blanks.ahead_append after
          split at isRead
          · cases isRead
          · cases isRead
          · next quoted quote =>
              rw [quote] at afterComma
              split at isRead
              · cases isRead
              · next name value left memberRead =>
                  obtain ⟨blanks, closing, pieces, rfl, fits, rfl⟩ :=
                    inductionHypothesis isRead
                  obtain ⟨named, isBefore, rfl, namedFits, isMember, rfl⟩ :=
                    exists_named_of_member recognises memberRead
                      (.ahead after) blanks
                  refine ⟨.ahead text, closing, named :: pieces, ?_,
                    List.forall_mem_cons.mpr ⟨namedFits, fits⟩, ?_⟩
                  · rw [List.map_cons, remainder_named, isBefore, Piece.written,
                      List.append_assoc, List.append_assoc, afterComma]
                    exact shape.symm
                  · rw [List.map_cons, List.map_cons, isMember]
                    rfl
          · cases isRead
      · cases isRead

/-- The members of an object are named pieces with commas between them. -/
theorem exists_pieces_of_objectBody
    {rounds : Nat}
    {text rest : List Char}
    {stored : Members}
    (isRead : objectBody item rounds text = .ok (stored, rest)) :
    ∃ (closing : Blanks) (pieces : List NamedPiece),
      text = joined (pieces.map NamedPiece.written) ++
        (closing.text ++ '\x7d' :: rest) ∧
      (∀ named ∈ pieces, named.piece.Fits bound) ∧
      stored = Members.insertAll []
        ((pieces.map NamedPiece.member).map orderedMember) := by
  have shape := Blanks.ahead_append text
  rw [objectBody] at isRead
  split at isRead
  · cases isRead
  · next after closed =>
      cases isRead
      rw [closed] at shape
      exact ⟨.ahead text, [], shape.symm, List.forall_mem_nil _, rfl⟩
  · next quoted quote =>
      rw [quote] at shape
      split at isRead
      · cases isRead
      · next name value left memberRead =>
          obtain ⟨blanks, closing, pieces, rfl, fits, rfl⟩ :=
            exists_pieces_of_members recognises isRead
          obtain ⟨named, isBefore, rfl, namedFits, isMember, rfl⟩ :=
            exists_named_of_member recognises memberRead (.ahead text) blanks
          refine ⟨closing, named :: pieces, ?_,
            List.forall_mem_cons.mpr ⟨namedFits, fits⟩, ?_⟩
          · rw [← shape]
            simp [joined, NamedPiece.written, NamedPiece.quoted, Piece.written,
              remainder, isBefore]
          · rw [List.map_cons, List.map_cons, isMember]
            rfl
  · cases isRead

end Containers

/-! ## Values -/

theorem SpellsAhead.of_visible
    {bound : Nat}
    {text spelling rest : List Char}
    {written stored : Json}
    (visible : skipBlanks text = spelling ++ rest)
    (spells : Spells written spelling)
    (depth_le : written.depth ≤ bound)
    (isStored : written.ordered = stored) :
    SpellsAhead bound text stored rest :=
  ⟨.ahead text, written, spelling, by rw [← visible, Blanks.ahead_append],
    spells, depth_le, isStored⟩

/-- A number that is read is spelled, with the sign in front of it. -/
theorem SpellsAhead.of_number
    {bound : Nat}
    {text sign digits rest : List Char}
    {stored : Json}
    {negative : Bool}
    (visible : skipBlanks text = sign ++ digits)
    (isRead : number negative digits = .ok (stored, rest))
    (spells :
      ∀ {digits}, number negative digits = .ok (stored, []) →
        Spells stored (sign ++ digits)) :
    SpellsAhead bound text stored rest := by
  have isNumber := (number_gives negative digits).of_ok isRead
  obtain ⟨used, rfl, isAlone⟩ := number_alone negative isRead
  rw [← List.append_assoc] at visible
  exact of_visible visible (spells isAlone)
    (Stored.of_isNumber bound isNumber).depth_le (ordered_of_isNumber isNumber)

/-- A returned value from which another one is made. -/
theorem exists_of_map_eq_ok
    {read : Read α}
    {change : α → β}
    {result : β}
    {rest : List Char}
    (isOk : (read.map fun (result, rest) => (change result, rest)) =
      .ok (result, rest)) :
    ∃ inner, read = .ok (inner, rest) ∧ result = change inner := by
  cases read with
  | error stopped => cases isOk
  | ok returned =>
      cases isOk
      exact ⟨returned.1, rfl, rfl⟩

/-- One value, when the values inside it are known to be spelled. -/
theorem spellsAhead_of_inner
    {rounds bound : Nat}
    (recognises : ∀ inner, bound = inner + 1 →
      ∀ {text stored rest}, value rounds inner text = .ok (stored, rest) →
        SpellsAhead inner text stored rest)
    {text rest : List Char}
    {stored : Json}
    (isRead : value rounds bound text = .ok (stored, rest)) :
    SpellsAhead bound text stored rest := by
  rw [value.eq_def] at isRead
  split at isRead
  · cases isRead
  next c after visible =>
  split at isRead
  · next isNull =>
      obtain ⟨rfl, rfl⟩ := eq_of_word isRead
      exact .of_visible (visible.trans (isNull ▸ rfl)) .nullWord
        (Nat.zero_le bound) (by simp)
  split at isRead
  · next isTrue =>
      obtain ⟨rfl, rfl⟩ := eq_of_word isRead
      exact .of_visible (visible.trans (isTrue ▸ rfl)) .trueWord
        (Nat.zero_le bound) (by simp [ordered])
  split at isRead
  · next isFalse =>
      obtain ⟨rfl, rfl⟩ := eq_of_word isRead
      exact .of_visible (visible.trans (isFalse ▸ rfl)) .falseWord
        (Nat.zero_le bound) (by simp [ordered])
  split at isRead
  · next isMinus =>
      subst isMinus
      have signed : skipBlanks text = ['-'] ++ after := visible
      exact .of_number signed isRead .negative
  split at isRead
  · have unsigned : skipBlanks text = [] ++ c :: after := visible
    exact .of_number unsigned isRead .positive
  split at isRead
  · next isQuote =>
      subst isQuote
      obtain ⟨content, bodyRead, rfl⟩ := exists_of_map_eq_ok isRead
      obtain ⟨chars, spelling, spelled, rfl, isContent⟩ :=
        spellsUpToQuote_of_stringBody bodyRead
      have spells : Spells (.string content) ('"' :: (spelling ++ ['"'])) :=
        .string (by simpa [isContent] using spelled)
      refine .of_visible (visible.trans ?_) spells (Nat.zero_le bound)
        (ordered_string content)
      simp
  split at isRead
  · next isBracket =>
      subst isBracket
      split at isRead
      · cases isRead
      · next inner =>
          obtain ⟨contents, bodyRead, rfl⟩ := exists_of_map_eq_ok isRead
          obtain ⟨closing, pieces, rfl, fits, rfl⟩ :=
            exists_pieces_of_arrayBody (recognises inner rfl) bodyRead
          refine .of_visible (visible.trans ?_)
            (.array pieces closing fun piece isPiece =>
              (fits piece isPiece).spells) ?_
            (ordered_array _)
          · simp
          · rw [depth_array_le_succ_iff, List.forall_mem_map]
            exact fun piece isPiece => (fits piece isPiece).depth_le
  split at isRead
  · next isBrace =>
      subst isBrace
      split at isRead
      · cases isRead
      · next inner =>
          obtain ⟨contents, bodyRead, rfl⟩ := exists_of_map_eq_ok isRead
          obtain ⟨closing, pieces, rfl, fits, rfl⟩ :=
            exists_pieces_of_objectBody (recognises inner rfl) bodyRead
          refine .of_visible (visible.trans ?_)
            (.object pieces closing fun named isPiece =>
              (fits named isPiece).spells) ?_
            (ordered_object _)
          · simp
          · rw [depth_object_le_succ_iff, List.forall_mem_map]
            exact fun named isPiece => (fits named isPiece).depth_le
  · cases isRead

/--
A value that is read is spelled. The induction is on how deep values may be
nested.
-/
theorem spellsAhead_of_value
    {rounds bound : Nat}
    {text rest : List Char}
    {stored : Json}
    (isRead : value rounds bound text = .ok (stored, rest)) :
    SpellsAhead bound text stored rest := by
  induction bound generalizing text stored rest with
  | zero =>
      exact spellsAhead_of_inner (by simp) isRead
  | succ bound inductionHypothesis =>
      refine spellsAhead_of_inner ?_ isRead
      intro inner same
      cases same
      exact inductionHypothesis

/-! ## Whole texts -/

/--
A text that is read is a text of a value, and the value settles to what is read.
-/
theorem exists_written_of_parse
    {body : String}
    {stored : Json}
    (isParsed : Json.parse body = .ok stored) :
    ∃ written, IsTextOf written body ∧ written.depth ≤ nestingLimit ∧
      Settles written stored := by
  unfold parse at isParsed
  cases isRead : read body.toList with
  | error stopped =>
      rw [isRead] at isParsed
      cases isParsed
  | ok returned =>
      rw [isRead] at isParsed
      cases isParsed
      unfold read at isRead
      split at isRead
      · cases isRead
      next value rest isValue =>
      split at isRead
      · next nothingLeft =>
          cases isRead
          obtain ⟨before, written, text, shape, spells, depth_le, isStored⟩ :=
            spellsAhead_of_value isValue
          have onlyBlanks := Blanks.ahead_append rest
          rw [nothingLeft, List.append_nil] at onlyBlanks
          exact ⟨written,
            ⟨before, .ahead rest, text, spells, onlyBlanks.symm ▸ shape⟩,
            depth_le, settles_iff.mpr isStored⟩
      · cases isRead

/--
The texts that can be parsed are the texts of values that are not nested too
deeply, and such a text is parsed as what its value settles to.
-/
theorem parse_eq_ok_iff
    {body : String}
    {stored : Json} :
    Json.parse body = .ok stored ↔
      ∃ written, IsTextOf written body ∧ written.depth ≤ nestingLimit ∧
        Settles written stored := by
  constructor
  · exact exists_written_of_parse
  · rintro ⟨written, isText, nested, settles⟩
    exact settles.ordered_eq ▸ isText.parse nested

end WorkflowQueue.Json
