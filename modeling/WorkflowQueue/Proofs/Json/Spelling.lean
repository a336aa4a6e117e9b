import WorkflowQueue.Proofs.Json.Numbers
import WorkflowQueue.Proofs.Json.Readable

namespace WorkflowQueue.Json

/-!
# The ways to write a value

A value has many texts: blanks may stand between any two tokens, every character
of a string may be escaped in more than one way, and the members of an object
may stand in any order, with names that occur again. `Spells` says which texts
are texts of a value, without a reader, except that the digits of a number are
valued by the reader of numbers. `Spells.parse` reads each of them: what comes
back is the value with its members in order.
-/

/-! ## Strings -/

/--
A character as it may stand in a string: raw, as a short escape, or as one or
two units.
-/
inductive SpellsChar :
    Char →
    List Char →
    Prop where
  | raw
      {c : Char}
      (notQuote : c ≠ '"')
      (notBackslash : c ≠ '\\')
      (notControl : 32 ≤ c.toNat) :
      SpellsChar c [c]
  | short
      {c letter : Char}
      (stands : shortEscape? letter = some c) :
      SpellsChar c ['\\', letter]
  | unit
      {c x y z w : Char}
      (stands : hexUnit? x y z w = some c.toNat) :
      SpellsChar c ['\\', 'u', x, y, z, w]
  | pair
      {c x y z w p q r s : Char}
      {high low : Nat}
      (first : hexUnit? x y z w = some high)
      (second : hexUnit? p q r s = some low)
      (isHigh : 0xD800 ≤ high ∧ high < 0xDC00)
      (isLow : 0xDC00 ≤ low ∧ low < 0xE000)
      (stands : c.toNat = 0x10000 + (high - 0xD800) * 0x400 + (low - 0xDC00)) :
      SpellsChar c ['\\', 'u', x, y, z, w, '\\', 'u', p, q, r, s]

/-- The characters of a text, each spelled in some way. -/
inductive SpellsText :
    List Char →
    List Char →
    Prop where
  | nil : SpellsText [] []
  | cons
      {c : Char}
      {text piece spelling : List Char}
      (first : SpellsChar c piece)
      (others : SpellsText text spelling) :
      SpellsText (c :: text) (piece ++ spelling)

/-- No unit that is a character is half of a pair. -/
theorem not_surrogate
    (c : Char) :
    isLowSurrogate c.toNat = false ∧ isHighSurrogate c.toNat = false := by
  have isChar :
      c.toNat < 0xD800 ∨ 0xDFFF < c.toNat ∧ c.toNat < 0x110000 := c.valid
  unfold isLowSurrogate isHighSurrogate
  simp only [Bool.and_eq_false_iff, decide_eq_false_iff_not]
  omega

theorem isHighSurrogate_iff
    {unit : Nat} :
    isHighSurrogate unit = true ↔ 0xD800 ≤ unit ∧ unit < 0xDC00 := by
  simp only [isHighSurrogate, Bool.and_eq_true, decide_eq_true_eq]
  omega

theorem isLowSurrogate_iff
    {unit : Nat} :
    isLowSurrogate unit = true ↔ 0xDC00 ≤ unit ∧ unit < 0xE000 := by
  simp only [isLowSurrogate, Bool.and_eq_true, decide_eq_true_eq]
  omega

/-- No short escape looks like a unit. -/
theorem shortEscape?_ne_u
    {letter c : Char}
    (stands : shortEscape? letter = some c) :
    letter ≠ 'u' := by
  rintro rfl
  cases stands

/-- A spelled character is read as the character. -/
theorem SpellsChar.stringBody_eq
    {c : Char}
    {piece : List Char}
    (spells : SpellsChar c piece)
    (taken rest : List Char) :
    stringBody taken (piece ++ rest) = stringBody (c :: taken) rest := by
  cases spells with
  | raw notQuote notBackslash notControl =>
      rw [List.singleton_append, stringBody.eq_def]
      simp [notQuote, notBackslash, Nat.not_lt.mpr notControl]
  | @short letter stands =>
      have notUnit := shortEscape?_ne_u stands
      rw [stringBody.eq_def]
      simp [stands, notUnit]
  | unit stands =>
      obtain ⟨notLow, notHigh⟩ := not_surrogate c
      rw [stringBody.eq_def]
      simp [stands, notLow, notHigh]
  | @pair x y z w p q r s high low first second isHigh isLow stands =>
      have highUnit : isHighSurrogate high = true :=
        isHighSurrogate_iff.mpr isHigh
      have lowUnit : isLowSurrogate low = true := isLowSurrogate_iff.mpr isLow
      have notLow : isLowSurrogate high = false := by
        rw [Bool.eq_false_iff, ne_eq, isLowSurrogate_iff]
        omega
      have isChar : pairChar high low = c := by
        rw [pairChar, ← stands]
        exact Char.ofNat_toNat c
      rw [stringBody.eq_def]
      simp [first, second, highUnit, lowUnit, notLow, isChar]

/-- A spelled text is read up to the closing quote. -/
theorem SpellsText.stringBody_eq
    {text spelling : List Char}
    (spells : SpellsText text spelling)
    (taken rest : List Char) :
    stringBody taken (spelling ++ '"' :: rest) =
      .ok (String.ofList (taken.reverse ++ text), rest) := by
  induction spells generalizing taken with
  | nil =>
      rw [stringBody.eq_def]
      simp
  | cons first others inductionHypothesis =>
      rw [List.append_assoc, first.stringBody_eq, inductionHypothesis]
      simp

/-! ## Values -/

/-- Blanks between tokens. -/
structure Blanks where
  text : List Char
  allBlank : ∀ c ∈ text, isBlank c = true

/-- A value as it stands in a container: its text between blanks. -/
structure Piece where
  before : Blanks
  value : Json
  text : List Char
  after : Blanks

/-- The text of a piece. -/
def Piece.written
    (piece : Piece) :
    List Char :=
  piece.before.text ++ (piece.text ++ piece.after.text)

/--
A member as it stands in an object: a name, spelled in some way, and a value.
-/
structure NamedPiece where
  before : Blanks
  name : String
  spelling : List Char
  spelled : SpellsText name.toList spelling
  between : Blanks
  piece : Piece

/-- The text of a member, from the opening quote of its name. -/
def NamedPiece.quoted
    (named : NamedPiece) :
    List Char :=
  '"' :: (named.spelling ++ '"' ::
    (named.between.text ++ ':' :: named.piece.written))

/-- The text of a member. -/
def NamedPiece.written
    (named : NamedPiece) :
    List Char :=
  named.before.text ++ named.quoted

/-- The name and the value of a member. -/
def NamedPiece.member
    (named : NamedPiece) :
    String × Json :=
  (named.name, named.piece.value)

/-- Texts with commas between them. -/
def joined :
    List (List Char) →
    List Char
  | [] => []
  | first :: others => first ++ others.flatMap (',' :: ·)

/-- The texts of a value. -/
inductive Spells :
    Json →
    List Char →
    Prop where
  | nullWord : Spells .null ['n', 'u', 'l', 'l']
  | trueWord : Spells (.bool true) ['t', 'r', 'u', 'e']
  | falseWord : Spells (.bool false) ['f', 'a', 'l', 's', 'e']
  | positive
      {value : Json}
      {digits : List Char}
      (isNumber : number false digits = .ok (value, [])) :
      Spells value digits
  | negative
      {value : Json}
      {digits : List Char}
      (isNumber : number true digits = .ok (value, [])) :
      Spells value ('-' :: digits)
  | string
      {text : String}
      {spelling : List Char}
      (spelled : SpellsText text.toList spelling) :
      Spells (.string text) ('"' :: (spelling ++ ['"']))
  | array
      (pieces : List Piece)
      (closing : Blanks)
      (inside : ∀ piece ∈ pieces, Spells piece.value piece.text) :
      Spells (.array (pieces.map Piece.value))
        ('[' :: (joined (pieces.map Piece.written) ++ (closing.text ++ [']'])))
  | object
      (pieces : List NamedPiece)
      (closing : Blanks)
      (inside : ∀ named ∈ pieces, Spells named.piece.value named.piece.text) :
      Spells (.object (pieces.map NamedPiece.member))
        ('\x7b' :: (joined (pieces.map NamedPiece.written) ++
          (closing.text ++ ['\x7d'])))

/-! ## Ends and beginnings -/

theorem endsNumber_cons
    {c : Char}
    (rest : List Char)
    (noDigit : Decimal.isDigit c = false)
    (others : c ≠ '.' ∧ c ≠ 'e' ∧ c ≠ 'E') :
    EndsNumber (c :: rest) := by
  intro other isFirst
  rw [← Option.mem_some.mp isFirst]
  exact ⟨noDigit, others⟩

/-- Blanks do not continue a number. -/
theorem Blanks.endsNumber
    (blanks : Blanks)
    {rest : List Char}
    (ends : EndsNumber rest) :
    EndsNumber (blanks.text ++ rest) := by
  rcases blanks with ⟨_ | ⟨c, text⟩, allBlank⟩
  · exact ends
  · have blank := allBlank c List.mem_cons_self
    simp only [isBlank, Bool.or_eq_true, decide_eq_true_eq] at blank
    rcases blank with ((rfl | rfl) | rfl) | rfl
    all_goals exact endsNumber_cons _ (by decide) (by decide)

theorem Blanks.skip
    (blanks : Blanks)
    (text : List Char) :
    skipBlanks (blanks.text ++ text) = skipBlanks text :=
  skipBlanks_append text blanks.allBlank

/--
A text that begins like a value: neither with a blank nor with a closing
bracket.
-/
def BeginsValue
    (text : List Char) :
    Prop :=
  ∃ first rest, text = first :: rest ∧ isBlank first = false ∧ first ≠ ']'

theorem beginsValue_cons
    {first : Char}
    (rest : List Char)
    (visible : isBlank first = false)
    (notClosing : first ≠ ']') :
    BeginsValue (first :: rest) :=
  ⟨first, rest, rfl, visible, notClosing⟩

theorem BeginsValue.append
    {text : List Char}
    (begins : BeginsValue text)
    (more : List Char) :
    BeginsValue (text ++ more) := by
  obtain ⟨first, rest, rfl, visible, notClosing⟩ := begins
  exact beginsValue_cons (rest ++ more) visible notClosing

theorem BeginsValue.skipBlanks_eq
    {text : List Char}
    (begins : BeginsValue text) :
    skipBlanks text = text := by
  obtain ⟨first, rest, rfl, visible, -⟩ := begins
  exact skipBlanks_cons rest visible

/-- A number begins with a digit. -/
theorem exists_digit_of_number
    {negative : Bool}
    {digits : List Char}
    {value : Json}
    {rest : List Char}
    (isNumber : number negative digits = .ok (value, rest)) :
    ∃ first others, digits = first :: others ∧
      Decimal.isDigit first = true := by
  rcases digits with _ | ⟨first, others⟩
  · cases isNumber
  by_cases isZero : first = '0'
  · exact ⟨first, others, rfl, isZero ▸ rfl⟩
  · rw [number_digit negative isZero] at isNumber
    split at isNumber
    · next d isDigit =>
        exact ⟨first, others, rfl, by rw [Decimal.isDigit, isDigit]; rfl⟩
    · cases isNumber

theorem Spells.beginsValue
    {value : Json}
    {text : List Char}
    (spells : Spells value text) :
    BeginsValue text := by
  cases spells with
  | positive isNumber =>
      obtain ⟨first, others, rfl, isDigit⟩ := exists_digit_of_number isNumber
      have different := ne_of_isDigit isDigit
      simp only [List.mem_cons, List.not_mem_nil, or_false, ne_eq,
        forall_eq_or_imp, forall_eq]
        at different
      exact beginsValue_cons _ (by simp [isBlank, different])
        (by simp [different])
  | _ => exact beginsValue_cons _ (by decide) (by decide)

/-! ## Containers -/

/--
A text that is read as a value in front of every rest that does not continue a
number. What is read has its members in order.
-/
def ReadAs
    (item : List Char → Read Json)
    (value : Json)
    (text : List Char) :
    Prop :=
  BeginsValue text ∧
    ∀ rest, EndsNumber rest → item (text ++ rest) = .ok (value.ordered, rest)

section Containers

variable
  {item : List Char → Read Json}

/--
The text of what follows the first piece of a container, up to the closing
bracket.
-/
def remainder
    (others : List (List Char))
    (closing : Blanks)
    (bracket : Char)
    (rest : List Char) :
    List Char :=
  others.flatMap (',' :: ·) ++ (closing.text ++ bracket :: rest)

/-- A piece after another one stands after a comma. -/
theorem remainder_cons
    (piece : Piece)
    (others : List (List Char))
    (closing : Blanks)
    (bracket : Char)
    (rest : List Char) :
    remainder (piece.written :: others) closing bracket rest =
      ',' :: (piece.before.text ++ (piece.text ++
        (piece.after.text ++ remainder others closing bracket rest))) := by
  simp [remainder, Piece.written]

theorem remainder_named
    (named : NamedPiece)
    (others : List (List Char))
    (closing : Blanks)
    (bracket : Char)
    (rest : List Char) :
    remainder (named.written :: others) closing bracket rest =
      ',' :: (named.before.text ++ '"' ::
          (named.spelling ++ '"' :: (named.between.text ++ ':' ::
        (named.piece.written ++ remainder others closing bracket rest)))) := by
  simp [remainder, NamedPiece.written, NamedPiece.quoted]

/-- No number goes on after a piece: blanks, a comma or a bracket follow. -/
theorem endsNumber_remainder
    (blanks closing : Blanks)
    (others : List (List Char))
    {bracket : Char}
    (rest : List Char)
    (notDigit : Decimal.isDigit bracket = false)
    (different : bracket ≠ '.' ∧ bracket ≠ 'e' ∧ bracket ≠ 'E') :
    EndsNumber (blanks.text ++ remainder others closing bracket rest) := by
  apply blanks.endsNumber
  cases others with
  | nil => exact closing.endsNumber (endsNumber_cons rest notDigit different)
  | cons first others => exact endsNumber_cons _ (by decide) (by decide)

/-! ### Elements -/

theorem elements_blanks
    (rounds : Nat)
    (taken : List Json)
    (blanks : Blanks)
    (text : List Char) :
    elements item (rounds + 1) taken (blanks.text ++ text) =
      elements item (rounds + 1) taken text := by
  rw [elements, elements, blanks.skip]

/-- After a comma comes one element more. -/
theorem elements_comma
    (rounds : Nat)
    (taken : List Json)
    {text next : List Char}
    (skipped : skipBlanks text = next)
    (begins : BeginsValue next) :
    elements item (rounds + 1) taken (',' :: text) =
      match item next with
      | .error fault => .error fault
      | .ok (value, after) => elements item rounds (value :: taken) after := by
  obtain ⟨first, rest, rfl, -, notClosing⟩ := begins
  rw [elements, skipBlanks_cons text (by decide)]
  simp only [skipped]
  split
  · next empty => cases empty
  · next closing => exact (notClosing (List.cons.inj closing).1).elim
  · rfl

/--
The elements after the first are read up to the end of their array. The
induction is on the pieces; the blanks in front are those after the piece
before.
-/
theorem elements_spelled
    {pieces : List Piece}
    (inside : ∀ piece ∈ pieces, ReadAs item piece.value piece.text)
    {rounds : Nat}
    (enough : pieces.length ≤ rounds)
    (taken : List Json)
    (blanks closing : Blanks)
    (rest : List Char) :
    elements item (rounds + 1) taken
        (blanks.text ++ remainder (pieces.map Piece.written) closing ']' rest) =
      .ok (taken.reverse ++ (pieces.map Piece.value).map ordered, rest) := by
  rw [elements_blanks]
  induction pieces generalizing rounds taken blanks with
  | nil =>
      rw [List.map_nil, remainder, List.flatMap_nil, List.nil_append,
        elements_blanks, elements, skipBlanks_cons rest (by decide)]
      simp
  | cons piece pieces inductionHypothesis =>
      obtain ⟨begins, isOk⟩ := inside piece List.mem_cons_self
      obtain ⟨fewer, rfl⟩ : ∃ fewer, rounds = fewer + 1 :=
        Nat.exists_eq_add_of_le' (Nat.le_trans (Nat.le_add_left 1 _) enough)
      have begins := begins.append
        (piece.after.text ++
          remainder (pieces.map Piece.written) closing ']' rest)
      rw [List.map_cons, remainder_cons,
        elements_comma (fewer + 1) taken
          ((piece.before.skip _).trans begins.skipBlanks_eq) begins,
            isOk _ (endsNumber_remainder piece.after closing _ rest (by decide)
              (by decide))]
      simp only
      rw [elements_blanks, inductionHypothesis
        (fun other isOther => inside other (List.mem_cons_of_mem piece isOther))
        (Nat.le_of_succ_le_succ enough) _ blanks]
      simp

/-- A spelled array is read when its elements are. -/
theorem arrayBody_spelled
    {pieces : List Piece}
    (inside : ∀ piece ∈ pieces, ReadAs item piece.value piece.text)
    {rounds : Nat}
    (enough : pieces.length ≤ rounds)
    (closing : Blanks)
    (rest : List Char) :
    arrayBody item rounds
        (joined (pieces.map Piece.written) ++ (closing.text ++ ']' :: rest)) =
      .ok ((pieces.map Piece.value).map ordered, rest) := by
  cases pieces with
  | nil =>
      rw [List.map_nil, joined, List.nil_append, arrayBody, closing.skip,
        skipBlanks_cons rest (by decide)]
      rfl
  | cons piece pieces =>
      obtain ⟨begins, isOk⟩ := inside piece List.mem_cons_self
      obtain ⟨fewer, rfl⟩ : ∃ fewer, rounds = fewer + 1 :=
        Nat.exists_eq_add_of_le' (Nat.le_trans (Nat.le_add_left 1 _) enough)
      have begins := begins.append
        (piece.after.text ++
          remainder (pieces.map Piece.written) closing ']' rest)
      have shape :
          joined ((piece :: pieces).map Piece.written) ++
            (closing.text ++ ']' :: rest) =
          piece.before.text ++ (piece.text ++
            (piece.after.text ++
              remainder (pieces.map Piece.written) closing ']' rest)) := by
        simp [joined, Piece.written, remainder]
      rw [shape, arrayBody, (piece.before.skip _).trans begins.skipBlanks_eq]
      obtain ⟨c, more, begin, -, notClosing⟩ := begins
      split
      · next empty =>
          rw [begin] at empty
          cases empty
      · next isClosed =>
          rw [begin] at isClosed
          exact (notClosing (List.cons.inj isClosed).1).elim
      · rw [isOk _ (endsNumber_remainder piece.after closing _ rest (by decide)
          (by decide))]
        simp only
        rw [elements_spelled (fun other isOther => inside other
          (List.mem_cons_of_mem piece isOther)) (Nat.le_of_succ_le_succ enough)]
        simp

/-! ### Members -/

/-- A member, from the opening quote of its name, is read when its value is. -/
theorem member_spelled
    (blanksPassed :
      ∀ (blanks : Blanks) text, item (blanks.text ++ text) = item text)
    (named : NamedPiece)
    (readAs : ReadAs item named.piece.value named.piece.text)
    {rest : List Char}
    (ends : EndsNumber (named.piece.after.text ++ rest)) :
    member item (named.spelling ++ '"' :: (named.between.text ++ ':' ::
        (named.piece.written ++ rest))) =
      .ok ((named.name, named.piece.value.ordered),
        named.piece.after.text ++ rest) := by
  have nameRead := named.spelled.stringBody_eq []
    (named.between.text ++ ':' :: (named.piece.written ++ rest))
  rw [member, nameRead]
  simp only [List.reverse_nil, List.nil_append, String.ofList_toList,
    named.between.skip]
  rw [skipBlanks_cons _ (by decide)]
  simp only [Piece.written, List.append_assoc, blanksPassed, readAs.2 _ ends]

theorem members_blanks
    (rounds : Nat)
    (taken : Members)
    (blanks : Blanks)
    (text : List Char) :
    members item (rounds + 1) taken (blanks.text ++ text) =
      members item (rounds + 1) taken text := by
  rw [members, members, blanks.skip]

/-- After a comma comes one member more. -/
theorem members_comma
    (rounds : Nat)
    (taken : Members)
    (before : Blanks)
    (next : List Char) :
    members item (rounds + 1) taken (',' :: (before.text ++ '"' :: next)) =
      match member item next with
      | .error fault => .error fault
      | .ok ((name, value), after) =>
          members item rounds (taken.insert name value) after := by
  have atComma : skipBlanks (',' :: (before.text ++ '"' :: next)) =
      ',' :: (before.text ++ '"' :: next) :=
    skipBlanks_cons _ (by decide)
  have atQuote : skipBlanks (before.text ++ '"' :: next) = '"' :: next := by
    rw [before.skip, skipBlanks_cons next (by decide)]
  rw [members]
  cases outcome : member item next <;> simp only [atComma, atQuote, outcome]

/-- The members after the first are read up to the end of their object. -/
theorem members_spelled
    (blanksPassed :
      ∀ (blanks : Blanks) text, item (blanks.text ++ text) = item text)
    {pieces : List NamedPiece}
    (inside : ∀ named ∈ pieces, ReadAs item named.piece.value named.piece.text)
    {rounds : Nat}
    (enough : pieces.length ≤ rounds)
    (taken : Members)
    (blanks closing : Blanks)
    (rest : List Char) :
    members item (rounds + 1) taken
        (blanks.text ++
          remainder (pieces.map NamedPiece.written) closing '\x7d' rest) =
      .ok (taken.insertAll ((pieces.map NamedPiece.member).map orderedMember),
        rest) := by
  rw [members_blanks]
  induction pieces generalizing rounds taken blanks with
  | nil =>
      rw [List.map_nil, remainder, List.flatMap_nil, List.nil_append,
        members_blanks, members, skipBlanks_cons rest (by decide)]
      rfl
  | cons named pieces inductionHypothesis =>
      obtain ⟨fewer, rfl⟩ : ∃ fewer, rounds = fewer + 1 :=
        Nat.exists_eq_add_of_le' (Nat.le_trans (Nat.le_add_left 1 _) enough)
      have ends := endsNumber_remainder named.piece.after closing
        (pieces.map NamedPiece.written) rest
          (show Decimal.isDigit '\x7d' = false by decide)
        (by decide)
      rw [List.map_cons, remainder_named, members_comma,
        member_spelled blanksPassed named
          (inside named List.mem_cons_self) ends]
      simp only
      rw [members_blanks, inductionHypothesis
        (fun other isOther => inside other (List.mem_cons_of_mem named isOther))
        (Nat.le_of_succ_le_succ enough) _ blanks]
      rfl

/-- A spelled object is read when the values of its members are. -/
theorem objectBody_spelled
    (blanksPassed :
      ∀ (blanks : Blanks) text, item (blanks.text ++ text) = item text)
    {pieces : List NamedPiece}
    (inside : ∀ named ∈ pieces, ReadAs item named.piece.value named.piece.text)
    {rounds : Nat}
    (enough : pieces.length ≤ rounds)
    (closing : Blanks)
    (rest : List Char) :
    objectBody item rounds
        (joined (pieces.map NamedPiece.written) ++
          (closing.text ++ '\x7d' :: rest)) =
      .ok (Members.insertAll []
        ((pieces.map NamedPiece.member).map orderedMember), rest) := by
  cases pieces with
  | nil =>
      rw [List.map_nil, joined, List.nil_append, objectBody, closing.skip,
        skipBlanks_cons rest (by decide)]
      rfl
  | cons named pieces =>
      obtain ⟨fewer, rfl⟩ : ∃ fewer, rounds = fewer + 1 :=
        Nat.exists_eq_add_of_le' (Nat.le_trans (Nat.le_add_left 1 _) enough)
      have ends := endsNumber_remainder named.piece.after closing
        (pieces.map NamedPiece.written) rest
          (show Decimal.isDigit '\x7d' = false by decide)
        (by decide)
      have shape : joined ((named :: pieces).map NamedPiece.written) ++
            (closing.text ++ '\x7d' :: rest) =
          named.before.text ++ '"' ::
              (named.spelling ++ '"' :: (named.between.text ++ ':' ::
            (named.piece.written ++
              remainder (pieces.map NamedPiece.written) closing '\x7d'
                rest))) := by
        simp [joined, NamedPiece.written, NamedPiece.quoted, remainder]
      rw [shape, objectBody, named.before.skip, skipBlanks_cons _ (by decide)]
      simp only
      rw [member_spelled blanksPassed named
        (inside named List.mem_cons_self) ends]
      simp only
      rw [members_spelled blanksPassed
        (fun other isOther => inside other (List.mem_cons_of_mem named isOther))
        (Nat.le_of_succ_le_succ enough)]
      rfl

end Containers

/-! ## Whole texts -/

/--
Each text that is joined takes up room, and all but the first a comma as well.
-/
theorem length_joined
    (texts : List (List Char)) :
    texts.length ≤ (joined texts).length + 1 ∧
      ∀ text ∈ texts, text.length ≤ (joined texts).length := by
  have separated (others : List (List Char)) :
      others.length ≤ (others.flatMap (',' :: ·)).length ∧
        ∀ text ∈ others, text.length ≤ (others.flatMap (',' :: ·)).length := by
    induction others with
    | nil => simp
    | cons first others inductionHypothesis =>
        obtain ⟨count, lengths⟩ := inductionHypothesis
        simp only [List.flatMap_cons, List.length_append, List.length_cons,
          List.forall_mem_cons]
        refine ⟨by omega, by omega, fun text isOther => ?_⟩
        exact Nat.le_trans (lengths text isOther) (Nat.le_add_left _ _)
  cases texts with
  | nil => simp
  | cons first others =>
      obtain ⟨count, lengths⟩ := separated others
      simp only [joined, List.length_append, List.length_cons,
        List.forall_mem_cons]
      refine ⟨by omega, by omega, fun text isOther => ?_⟩
      exact Nat.le_trans (lengths text isOther) (Nat.le_add_left _ _)

theorem length_text_le_joined
    {pieces : List Piece}
    {piece : Piece}
    (isPiece : piece ∈ pieces) :
    piece.text.length ≤ (joined (pieces.map Piece.written)).length := by
  have whole :=
    (length_joined (pieces.map Piece.written)).2 _ (List.mem_map_of_mem isPiece)
  simp only [Piece.written, List.length_append] at whole
  omega

theorem length_text_le_joined_named
    {pieces : List NamedPiece}
    {named : NamedPiece}
    (isPiece : named ∈ pieces) :
    named.piece.text.length ≤
      (joined (pieces.map NamedPiece.written)).length := by
  have whole :=
    (length_joined (pieces.map NamedPiece.written)).2 _
      (List.mem_map_of_mem isPiece)
  simp only [NamedPiece.written, NamedPiece.quoted, Piece.written,
    List.length_append, List.length_cons] at whole
  omega

theorem ordered_of_isNumber
    {value : Json}
    (isNumber : IsNumber value) :
    value.ordered = value := by
  cases isNumber <;> simp [ordered]

/--
A spelled text is read in front of every rest that does not continue a number.
The induction is on the spelling; the rounds that the length of the text allows
are enough for every container in it.
-/
theorem Spells.value_eq
    {value : Json}
    {text : List Char}
    (spells : Spells value text)
    {rounds bound : Nat}
    (nested : value.depth ≤ bound)
    (enough : text.length ≤ rounds)
    {rest : List Char}
    (ends : EndsNumber rest) :
    Json.value rounds bound (text ++ rest) = .ok (value.ordered, rest) := by
  induction spells generalizing bound rest with
  | nullWord | trueWord | falseWord =>
      rw [Json.value.eq_def]
      rfl
  | positive isNumber =>
      obtain ⟨first, others, rfl, isDigit⟩ := exists_digit_of_number isNumber
      rw [List.cons_append, value_digit rounds bound _ isDigit,
        ← List.cons_append, number_inFront false isNumber ends,
        ordered_of_isNumber ((number_gives false _).of_ok isNumber)]
  | negative isNumber =>
      rw [List.cons_append, value_minus, number_inFront true isNumber ends,
        ordered_of_isNumber ((number_gives true _).of_ok isNumber)]
  | @string text spelling spelled =>
      have body : '"' :: (spelling ++ ['"']) ++ rest =
          '"' :: (spelling ++ '"' :: rest) := by simp
      rw [body, Json.value.eq_def]
      change (stringBody [] (spelling ++ '"' :: rest)).map _ = _
      rw [spelled.stringBody_eq]
      simp [Except.map]
  | array pieces closing inside inductionHypothesis =>
      obtain ⟨inner, rfl⟩ : ∃ inner, bound = inner + 1 :=
        Nat.exists_eq_add_of_le' (Nat.le_trans (Nat.le_add_left 1 _) nested)
      have nestedInside := depth_array_le_succ_iff.mp nested
      simp only [List.length_cons, List.length_append, List.length_nil]
        at enough
      have readAs : ∀ piece ∈ pieces,
          ReadAs (Json.value rounds inner) piece.value piece.text := by
        intro piece isPiece
        have short := length_text_le_joined isPiece
        refine ⟨(inside piece isPiece).beginsValue, fun after afterEnds => ?_⟩
        exact inductionHypothesis piece isPiece
          (nestedInside _ (List.mem_map_of_mem isPiece)) (by omega) afterEnds
      have count := (length_joined (pieces.map Piece.written)).1
      rw [List.length_map] at count
      have body :=
        arrayBody_spelled readAs (show pieces.length ≤ rounds by omega)
          closing rest
      rw [List.cons_append, value_bracket, List.append_assoc, List.append_assoc,
        List.singleton_append, body, ordered_array]
      rfl
  | object pieces closing inside inductionHypothesis =>
      obtain ⟨inner, rfl⟩ : ∃ inner, bound = inner + 1 :=
        Nat.exists_eq_add_of_le' (Nat.le_trans (Nat.le_add_left 1 _) nested)
      have nestedInside := depth_object_le_succ_iff.mp nested
      simp only [List.length_cons, List.length_append, List.length_nil]
        at enough
      have readAs : ∀ named ∈ pieces,
          ReadAs (Json.value rounds inner) named.piece.value
            named.piece.text := by
        intro named isPiece
        have short := length_text_le_joined_named isPiece
        refine ⟨(inside named isPiece).beginsValue, fun after afterEnds => ?_⟩
        exact inductionHypothesis named isPiece
          (nestedInside _ (List.mem_map_of_mem isPiece)) (by omega) afterEnds
      have count := (length_joined (pieces.map NamedPiece.written)).1
      rw [List.length_map] at count
      have body := objectBody_spelled
        (fun blanks text => value_append rounds inner text blanks.allBlank)
          readAs
        (show pieces.length ≤ rounds by omega) closing rest
      rw [List.cons_append, value_brace, List.append_assoc, List.append_assoc,
        List.singleton_append, body, ordered_object]
      rfl

/-- A whole text of a value, with blanks around it. -/
def IsTextOf
    (value : Json)
    (body : String) :
    Prop :=
  ∃ (before after : Blanks) (text : List Char),
    Spells value text ∧ body.toList = before.text ++ (text ++ after.text)

/--
Every text of a value that is not nested too deeply is read, with its members in
order.
-/
theorem IsTextOf.parse
    {value : Json}
    {body : String}
    (isText : IsTextOf value body)
    (nested : value.depth ≤ nestingLimit) :
    Json.parse body = .ok value.ordered := by
  obtain ⟨before, after, text, spells, shape⟩ := isText
  have ends : EndsNumber after.text := by
    rw [← List.append_nil after.text]
    refine after.endsNumber ?_
    rintro c (_ | _)
  have enough : text.length ≤ (before.text ++ (text ++ after.text)).length := by
    simp only [List.length_append]
    omega
  have left : skipBlanks after.text = [] := by
    rw [← List.append_nil after.text, after.skip]
    rfl
  rw [Json.parse, shape, read, value_append _ _ _ before.allBlank,
    spells.value_eq nested enough ends]
  simp only [left]
  rfl

end WorkflowQueue.Json
