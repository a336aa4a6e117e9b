import WorkflowQueue.Proofs.Json.Reordering
import WorkflowQueue.Proofs.Notation
import WorkflowQueue.Proofs.Records.Comparing
import WorkflowQueue.Proofs.Records.Nulls

namespace WorkflowQueue

/-!
# Texts as a canonical form of records

Two records are the same exactly when they are written as the same text,
whatever bodies they were read from. One direction is that the comparison of
records is exact where they hold no floating-point numbers, the other that a
record is read back from its text. What the bodies may differ in, and still
carry one record, is stated for each thing that a text forgets: the notation of
an instant, a null where nothing need be, and the order of members.
-/

/--
Contents of bodies that compare equal exactly when they are written as the same
text.
-/
def ToldByText
    (α : Type)
    [Wire α]
    [BEq α] :
    Prop :=
  ∀ {body twin : String} {content other : α},
    decode body = .ok content → decode twin = .ok other →
      (Wire.toJson content).isFloatFree = true →
          (Wire.toJson other).isFloatFree = true →
        ((content == other) = true ↔
          (Wire.toJson content).compact = (Wire.toJson other).compact)

/-- What is read back from its text and compares exactly is told by the text. -/
theorem toldByText
    [Wire α]
    [BEq α]
    (exactly : ComparesExactly α)
    (reprints : Reprints α levels)
    (enough : levels ≤ Json.nestingLimit)
    (noWrapper : ∀ content : α, unwrapEnvelope (Wire.toJson content).ordered =
      (Wire.toJson content).ordered) :
    ToldByText α := by
  intro body twin content other isDecoded otherDecoded isFloatFree
    otherFloatFree
  rw [exactly content other isFloatFree]
  constructor
  · intro same
    rw [same]
  · intro sameText
    have readBack :=
      readsBack_of_decode reprints enough isDecoded (noWrapper _) isFloatFree
    have otherReadBack :=
      readsBack_of_decode reprints enough otherDecoded (noWrapper _)
        otherFloatFree
    have isRead := readBack.compact
    rw [sameText, otherReadBack.compact] at isRead
    exact (Except.ok.inj isRead).symm

namespace RecordKind

theorem toldByText
    (kind : RecordKind) :
    ToldByText kind.Record :=
  WorkflowQueue.toldByText kind.comparesExactly kind.reprints (by decide)
    kind.unwrapEnvelope_ordered

theorem toldByText_list
    (kind : RecordKind) :
    ToldByText (List kind.Record) := by
  refine WorkflowQueue.toldByText (comparesExactly_list kind.comparesExactly)
    (reprints_list kind.reprints) (by decide) fun records => ?_
  rw [toJson_list, Json.ordered_array]
  rfl

end RecordKind

/-! ## What texts forget -/

namespace Rfc3339

variable
  {spelling twin : Spelling}
  {timestamp other : Timestamp}
  (isParsed : parse (String.ofList spelling.text) = .ok timestamp)
  (otherParsed : parse (String.ofList twin.text) = .ok other)

include isParsed otherParsed

/--
Of a spelling only the instant matters, for the comparison and for the text.
-/
theorem told_by_instant :
    ((timestamp == other) = true ↔ spelling.instant = twin.instant) ∧
      (timestamp.text = other.text ↔ spelling.instant = twin.instant) := by
  rw [← parse_eq_iff isParsed otherParsed, beq_iff_eq]
  exact ⟨Iff.rfl, text_injective, congrArg Timestamp.text⟩

/-- A leap second is none of the other seconds. -/
theorem told_from_leap
    (isLeap : spelling.second.value = 60)
    (notLeap : twin.second.value ≠ 60) :
    (timestamp == other) = false ∧ timestamp.text ≠ other.text := by
  have distinct := Spelling.instant_ne_of_leap isLeap notLeap
  obtain ⟨compared, written⟩ := told_by_instant isParsed otherParsed
  exact ⟨Bool.eq_false_iff.mpr (distinct ∘ compared.mp), distinct ∘ written.mp⟩

end Rfc3339

/-- Bodies of alike values carry the same content. -/
theorem decode_of_alike
    [Wire α]
    {Alike : Json → Json → Prop}
    (readsAlike : ReadsAlike α Alike)
    {body twin : String}
    {value other : Json}
    (isParsed : Json.parse body = .ok value)
    (otherParsed : Json.parse twin = .ok other)
    (alike : Alike (unwrapEnvelope value) (unwrapEnvelope other))
    {content : α}
    (isDecoded : decode body = .ok content) :
    decode twin = .ok content := by
  obtain ⟨_, parsed, isRead⟩ := decode_eq_ok_iff.mp isDecoded
  obtain rfl := Except.ok.inj (isParsed.symm.trans parsed)
  have inOrder := (Json.stored_of_parse otherParsed).unwrapEnvelope.isOrdered
  exact decode_eq_ok_iff.mpr ⟨other, otherParsed,
    readsAlike inOrder alike isRead⟩

/--
Bodies whose members stand in another order carry the same content, or none.
-/
theorem decode_of_reordered
    [Wire α]
    {written other : Json}
    (reordered : Json.Reordered written other)
    {body twin : String}
    (isText : Json.IsTextOf written body)
    (isTwin : Json.IsTextOf other twin)
    (nested : written.depth ≤ Json.nestingLimit) :
    (decode twin : Except DecodeError α) = decode body := by
  rw [decode, decode, reordered.parse_eq isText isTwin nested]

/--
The compact text is a canonical form. Records and lists of records without
floating-point numbers compare equal exactly when their texts are the same.
Timestamps do so exactly when their spellings denote one instant, to the
nanosecond, whatever zone, fraction, marks and blanks they have, and a leap
second is an instant of its own. Bodies that differ in null and absent fields,
or in the order of members, carry the same record.
-/
theorem RecordKind.text_is_canonical
    (kind : RecordKind) :
    ToldByText kind.Record ∧
    ToldByText (List kind.Record) ∧
    (∀ text timestamp, Rfc3339.parse text = .ok timestamp →
      ∃ spelling : Rfc3339.Spelling, text = String.ofList spelling.text) ∧
    (∀ (spelling twin : Rfc3339.Spelling) timestamp other,
      Rfc3339.parse (String.ofList spelling.text) = .ok timestamp →
      Rfc3339.parse (String.ofList twin.text) = .ok other →
        ((timestamp == other) = true ↔ spelling.instant = twin.instant) ∧
        (timestamp.text = other.text ↔ spelling.instant = twin.instant) ∧
        (spelling.second.value = 60 → twin.second.value ≠ 60 →
          (timestamp == other) = false ∧ timestamp.text ≠ other.text)) ∧
    (∀ body twin value other,
      Json.parse body = .ok value → Json.parse twin = .ok other →
        (kind.Alike (unwrapEnvelope value) (unwrapEnvelope other) →
          ∀ record : kind.Record, decode body = .ok record →
          decode twin = .ok record) ∧
        (Json.AlikeElements kind.Alike (unwrapEnvelope value)
            (unwrapEnvelope other) →
          ∀ records : List kind.Record, decode body = .ok records →
          decode twin = .ok records)) ∧
    (∀ written other body twin,
      Json.Reordered written other → Json.IsTextOf written body →
          Json.IsTextOf other twin →
        written.depth ≤ Json.nestingLimit →
          (decode twin : Except DecodeError kind.Record) = decode body ∧
          (decode twin : Except DecodeError (List kind.Record)) =
            decode body) := by
  refine ⟨kind.toldByText, kind.toldByText_list,
    fun _ _ => Rfc3339.exists_spelling_of_parse, ?instants, ?nulls, ?orders⟩
  case instants =>
    intro spelling twin timestamp other isParsed otherParsed
    obtain ⟨compared, written⟩ := Rfc3339.told_by_instant isParsed otherParsed
    exact ⟨compared, written, Rfc3339.told_from_leap isParsed otherParsed⟩
  case nulls =>
    intro body twin value other isParsed otherParsed
    exact ⟨fun alike _ => decode_of_alike kind.readsAlike isParsed otherParsed
      alike, fun alike _ =>
        decode_of_alike (readsAlike_list kind.readsAlike) isParsed
          otherParsed alike⟩
  case orders =>
    intro written other body twin reordered isText isTwin nested
    exact ⟨decode_of_reordered reordered isText isTwin nested,
      decode_of_reordered reordered isText isTwin nested⟩

/-! ## Two bodies of one record -/

/-- An action in the short form. -/
def actionBody : String :=
  "[\"e\",\"\",\"\",\"\",\"\",\"s\",\x7b\"b\":1,\"a\":[]\x7d,null,\"2017-01-01T01:00:00.50+01:00\"]"

/--
The same with the time in another zone, a null more, and members in another
order.
-/
def otherActionBody : String :=
  "[\"e\",\"\",\"\",\"\",\"\",\"s\",\x7b\"a\":[],\"b\":1\x7d,null,\"2017-01-01 00:00:00.5Z\",null]"

/-- Half a second into the leap second at the end of a year. -/
def leapSecond : Timestamp where
  date := {
    year := 2016
    month := 12
    day := 31
    yearInRange := by decide
    monthInRange := by decide
    dayInRange := by decide
  }
  second := 86399
  nanosecond := 1500000000
  secondInRange := by decide
  nanosecondInRange := by decide

/-- Half a second into the second after it. -/
def secondAfter : Timestamp where
  date := {
    year := 2017
    month := 1
    day := 1
    yearInRange := by decide
    monthInRange := by decide
    dayInRange := by decide
  }
  second := 0
  nanosecond := 500000000
  secondInRange := by decide
  nanosecondInRange := by decide

theorem fields_leapSecond :
    Rfc3339.fields "2016-12-31T23:59:60.5Z".toList =
      .ok ⟨2016, 12, 31, 23, 59, 60, 500000000, 0⟩ := by
  decide +kernel

theorem parse_leapSecond :
    Rfc3339.parse "2016-12-31T23:59:60.5Z" = .ok leapSecond := by
  decide +kernel

theorem fields_secondAfter :
    Rfc3339.fields "2017-01-01T00:00:00.5Z".toList =
      .ok ⟨2017, 1, 1, 0, 0, 0, 500000000, 0⟩ := by
  decide +kernel

theorem parse_secondAfter :
    Rfc3339.parse "2017-01-01T00:00:00.5Z" = .ok secondAfter := by
  decide +kernel

/-- A status in the short form. -/
def shortStatus : Json :=
  .array [.string "e", .null, .null, .string "queued"]

/-- The same with one null more. -/
def shortStatusAndNull : Json :=
  .array [.string "e", .null, .null, .string "queued", .null]

theorem shortStatus_alike :
    RecordKind.workflowStatus.Alike shortStatus shortStatusAndNull := by
  refine ⟨_, _, ⟨by decide, rfl⟩, ⟨by decide, rfl⟩, ?_⟩
  simp only [WorkflowStatus.grammar, List.forall_mem_cons]
  exact ⟨.present rfl, .present rfl, .present rfl, .present rfl,
    .nullForAbsent rfl (.inl rfl), .absent, .absent, .absent,
    List.forall_mem_nil _⟩

/-- A status with two members. -/
def statusObject : Json :=
  .object [("execution_id", .string "e"), ("status", .string "queued")]

/-- The same with its members the other way round. -/
def statusObjectReversed : Json :=
  .object [("status", .string "queued"), ("execution_id", .string "e")]

theorem statusObject_reordered :
    Json.Reordered statusObject statusObjectReversed := by
  refine .object (by decide) (.swap ..) fun name value other isMember isOther =>
    ?_
  have same : value = other := by
    simp only [List.mem_cons, Prod.mk.injEq, List.not_mem_nil, or_false]
      at isMember isOther
    grind
  exact same ▸ .same value

theorem RecordKind.text_is_canonical_of_bodies :
    (∃ record other : ActionStatus,
      decode actionBody = .ok record ∧ decode otherActionBody = .ok other ∧
        (Wire.toJson record).compact = (Wire.toJson other).compact) ∧
    (∃ records others : List WorkflowStatus,
      decode "[[\"e\",null,null,\"queued\"]]" = .ok records ∧
          decode "[]" = .ok others ∧
        (Wire.toJson records).compact ≠ (Wire.toJson others).compact) ∧
    (∃ timestamp other, Rfc3339.parse "2016-12-31T23:59:60.5Z" = .ok timestamp ∧
      Rfc3339.parse "2017-01-01T00:00:00.5Z" = .ok other ∧
      timestamp.text ≠ other.text) ∧
    (∃ record : WorkflowStatus, decode shortStatus.compact = .ok record ∧
      decode shortStatusAndNull.compact = .ok record) ∧
    (decode statusObjectReversed.compact : Except DecodeError WorkflowStatus) =
      decode statusObject.compact := by
  obtain ⟨told, -⟩ := RecordKind.text_is_canonical .actionStatus
  obtain ⟨-, toldList, -, instants, nulls, orders⟩ :=
    RecordKind.text_is_canonical .workflowStatus
  refine ⟨?records, ?lists, ?leap, ?nulls, ?orders⟩
  case records =>
    obtain ⟨other, otherDecoded, otherFloatFree⟩ :
        ∃ other : ActionStatus, decode otherActionBody = .ok other ∧
          (Wire.toJson other).isFloatFree = true :=
      exists_decoded_of_evaluated (by decide +kernel)
    obtain ⟨record, isDecoded, good⟩ :
        ∃ record : ActionStatus, decode actionBody = .ok record ∧
          ((Wire.toJson record).isFloatFree &&
            (decode otherActionBody).toOption.any fun other =>
              record == other) = true :=
      exists_decoded_of_evaluated (by decide +kernel)
    rw [otherDecoded, Bool.and_eq_true] at good
    exact ⟨record, other, isDecoded, otherDecoded,
      (told isDecoded otherDecoded good.1 otherFloatFree).mp good.2⟩
  case lists =>
    obtain ⟨records, areDecoded, good⟩ :
        ∃ records : List WorkflowStatus,
            decode "[[\"e\",null,null,\"queued\"]]" = .ok records ∧
          ((Wire.toJson records).isFloatFree && !(records == [])) = true :=
      exists_decoded_of_evaluated (by decide +kernel)
    rw [Bool.and_eq_true, Bool.not_eq_true'] at good
    have noneDecoded :
        (decode "[]" : Except DecodeError (List WorkflowStatus)) = .ok [] := rfl
    refine ⟨records, [], areDecoded, noneDecoded, fun sameText => ?_⟩
    have same := (toldList areDecoded noneDecoded good.1 rfl).mpr sameText
    exact Bool.false_ne_true (good.2.symm.trans same)
  case leap =>
    obtain ⟨spelling, isText, areNumbers⟩ :=
      Rfc3339.exists_spelling_of_fields fields_leapSecond
    obtain ⟨twin, twinIsText, areOthers⟩ :=
      Rfc3339.exists_spelling_of_fields fields_secondAfter
    have isLeap : spelling.second.value = 60 :=
      congrArg Rfc3339.Fields.second areNumbers
    have isFirst : twin.second.value = 0 :=
      congrArg Rfc3339.Fields.second areOthers
    have notLeap : twin.second.value ≠ 60 := by
      rw [isFirst]
      decide
    obtain ⟨-, -, leaps⟩ :=
      instants spelling twin _ _ (isText ▸ parse_leapSecond)
        (twinIsText ▸ parse_secondAfter)
    exact ⟨_, _, parse_leapSecond, parse_secondAfter, (leaps isLeap notLeap).2⟩
  case nulls =>
    have isText : Json.IsTextOf shortStatus shortStatus.compact :=
      Json.isTextOf_compact rfl
    have otherIsText :
        Json.IsTextOf shortStatusAndNull shortStatusAndNull.compact :=
      Json.isTextOf_compact rfl
    have isParsed := isText.parse (by decide)
    have otherParsed := otherIsText.parse (by decide)
    obtain ⟨record, isDecoded, -⟩ :
        ∃ record : WorkflowStatus, decode shortStatus.compact = .ok record ∧
          (Wire.toJson record).isFloatFree = true :=
      exists_decoded_of_evaluated (by decide +kernel)
    have sameRecord := (nulls _ _ _ _ isParsed otherParsed).1 shortStatus_alike
    exact ⟨record, isDecoded, sameRecord record isDecoded⟩
  case orders =>
    exact (orders _ _ _ _ statusObject_reordered (Json.isTextOf_compact rfl)
      (Json.isTextOf_compact rfl) (by decide)).1

end WorkflowQueue
