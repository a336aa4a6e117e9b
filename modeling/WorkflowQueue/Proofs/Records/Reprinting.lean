import WorkflowQueue.CommandLine.Program
import WorkflowQueue.Proofs.Instants
import WorkflowQueue.Proofs.Json.Readable
import WorkflowQueue.Proofs.Json.Written
import WorkflowQueue.Proofs.Records.Kinds
import WorkflowQueue.Record.Envelope

namespace WorkflowQueue

/-!
# Printed records

A record that was read from a body is printed as a text that gives the same
record back. What is not read back literally is a value before it has been read
once: an absent field is printed as null, a short form as an object, a timestamp
in one notation. Therefore all statements are about contents that come from a
value.
-/

/-! ## Contents -/

/-- What was read from a value is written as a value that gives it back. -/
structure Reprinted
    [Wire α]
    (levels : Nat)
    (value : Json)
    (content : α) :
    Prop where
  isRead : Wire.ofJson (Wire.toJson content).ordered = .ok content
  depth_le : (Wire.toJson content).depth ≤ max levels value.depth
  ne_null : value ≠ .null → (Wire.toJson content).ordered ≠ .null

/--
Contents of a type are reprinted, with at least so many containers inside one
another.
-/
def Reprints
    (α : Type)
    [Wire α]
    (levels : Nat) :
    Prop :=
  ∀ {value : Json} {content : α},
    value.Ordered → Wire.ofJson value = .ok content →
      Reprinted levels value content

theorem reprints_any :
    Reprints Json levels := by
  intro value content isOrdered isRead
  cases Except.ok.inj isRead
  have same : (Wire.toJson value).ordered = value := isOrdered.ordered_eq
  exact {
    isRead := congrArg Except.ok same
    depth_le := Nat.le_max_right levels _
    ne_null := fun notNull => same.symm ▸ notNull
  }

/-- Contents that are written as a text which is read back. -/
theorem reprints_of_text
    [Wire α]
    (write : α → String)
    (toJson_eq : ∀ content : α, Wire.toJson content = .string (write content))
    (isRead : ∀ {value : Json} {content : α}, Wire.ofJson value = .ok content →
      Wire.ofJson (.string (write content)) = .ok content) :
    Reprints α levels := by
  intro value content _ fromValue
  exact {
    isRead := by simpa [toJson_eq] using isRead fromValue
    depth_le := by simp [toJson_eq]
    ne_null := fun _ => by simp [toJson_eq]
  }

theorem reprints_text :
    Reprints String levels :=
  reprints_of_text id (fun _ => rfl) fun _ => rfl

theorem reprints_timestamp :
    Reprints Timestamp levels :=
  reprints_of_text Timestamp.text (fun _ => rfl) fun {_ content} _ => by
    simp [Wire.ofJson, readTimestamp, Rfc3339.parse_text content,
      Except.mapError]

/-- A token and the token of its state stand for the same state. -/
theorem ExecutionState.token_ofToken
    (token : String) :
    (ofToken token).token = token := by
  unfold ofToken
  split_ifs <;> simp_all [ExecutionState.token]

theorem ActionState.token_ofToken
    (token : String) :
    (ofToken token).token = token := by
  unfold ofToken
  split_ifs <;> simp_all [ActionState.token]

theorem reprints_executionState :
    Reprints ExecutionState levels :=
  reprints_of_text ExecutionState.token (fun _ => rfl) fun isRead => by
    obtain ⟨token, -, rfl⟩ := mapText_eq_ok_iff.mp isRead
    rw [ExecutionState.token_ofToken]
    rfl

theorem reprints_actionState :
    Reprints ActionState levels :=
  reprints_of_text ActionState.token (fun _ => rfl) fun isRead => by
    obtain ⟨token, -, rfl⟩ := mapText_eq_ok_iff.mp isRead
    rw [ActionState.token_ofToken]
    rfl

section Containers

variable
  [Wire α]

/-- Nothing is printed as null, which is read as nothing again. -/
theorem reprinted_none :
    Reprinted levels .null (none : Option α) where
  isRead := by simp [Wire.toJson, Wire.ofJson, readOptional_eq_ok_iff]
  depth_le := by simp [Wire.toJson]
  ne_null := fun notNull => (notNull rfl).elim

/-- An absent list is printed as an empty one. -/
theorem reprinted_nil :
    Reprinted (levels + 1) .null ([] : List α) where
  isRead := by
    simp [Wire.toJson, Wire.ofJson, readList_eq_ok_iff, Json.ordered_array]
  depth_le := by
    refine Nat.le_trans ?_ (Nat.le_max_left _ _)
    exact Json.depth_array_le_succ_iff.mpr (List.forall_mem_nil _)
  ne_null := fun notNull => (notNull rfl).elim

theorem reprints_option
    (inner : Reprints α levels) :
    Reprints (Option α) levels := by
  intro value content isOrdered isRead
  rcases readOptional_eq_ok_iff.mp isRead with
    ⟨rfl, rfl⟩ | ⟨notNull, found, innerRead, rfl⟩
  · exact reprinted_none
  · obtain ⟨isReadBack, depth_le, ne_null⟩ := inner isOrdered innerRead
    exact {
      isRead :=
        readOptional_eq_ok_iff.mpr
          (Or.inr ⟨ne_null notNull, found, isReadBack, rfl⟩)
      depth_le := depth_le
      ne_null := ne_null
    }

theorem toJson_list
    (contents : List α) :
    Wire.toJson contents = .array (contents.map Wire.toJson) :=
  rfl

/-- A list is read back when each of its elements is. -/
theorem ofJson_ordered_list_iff
    {contents : List α} :
    Wire.ofJson (Wire.toJson contents).ordered = .ok contents ↔
      ∀ content ∈ contents, Wire.ofJson (Wire.toJson content).ordered =
        .ok content := by
  rw [toJson_list, Json.ordered_array]
  refine readList_eq_ok_iff.trans ?_
  simp only [Json.array.injEq, exists_eq_left', List.forall₂_map_left_iff,
    List.forall₂_same]

/-- The elements of a list are reprinted one by one. -/
theorem reprints_list
    (inner : Reprints α levels) :
    Reprints (List α) (levels + 1) := by
  intro value contents isOrdered isRead
  obtain ⟨elements, rfl, related⟩ := readList_eq_ok_iff.mp isRead
  cases isOrdered with
  | array inside =>
      have reprinted : ∀ content ∈ contents,
          ∃ element ∈ elements, Reprinted levels element content :=
        forall_mem_of_forall₂
            related fun element content isElement elementRead =>
          ⟨element, isElement, inner (inside element isElement) elementRead⟩
      obtain ⟨deepest, depth_eq, depth_le⟩ := Json.exists_depth_array elements
      exact {
        isRead := ofJson_ordered_list_iff.mpr fun content isContent => by
          obtain ⟨element, -, elementReprinted⟩ := reprinted content isContent
          exact elementReprinted.isRead
        depth_le := by
          rw [toJson_list, depth_eq, Nat.add_max_add_right,
            Json.depth_array_le_succ_iff, List.forall_mem_map]
          intro content isContent
          obtain ⟨element, isElement, elementReprinted⟩ :=
            reprinted content isContent
          have bound := elementReprinted.depth_le
          have := depth_le element isElement
          omega
        ne_null := fun _ => by simp [toJson_list, Json.ordered_array]
      }

end Containers

/-! ## Records -/

/--
The contents of a slot are reprinted, be they read from a value or those of an
absent one.
-/
structure Slot.Reprints
    (slot : Slot α)
    (levels : Nat) :
    Prop where
  ofValue : WorkflowQueue.Reprints slot.Content levels
  ofNothing :
    ∀ content, slot.field.absent = some content → Reprinted levels .null content

/--
What a value in order assigns to names is in order, and less deep than the
value.
-/
theorem Json.Ordered.of_assigns
    {names : List String}
    {value : Json}
    {members : Json.Members}
    (isOrdered : value.Ordered)
    (assigns : Json.Assigns names value members) :
    ∃ deepest, value.depth = deepest + 1 ∧
      ∀ member ∈ members, member.2.Ordered ∧ member.2.depth ≤ deepest := by
  cases isOrdered with
  | @object found increasing inside =>
      obtain rfl : members = found := assigns
      obtain ⟨deepest, depth_eq, depth_le⟩ := Json.exists_depth_object members
      exact ⟨deepest, depth_eq, fun member isMember =>
        ⟨inside member isMember, depth_le member isMember⟩⟩
  | @array elements inside =>
      obtain ⟨-, rfl⟩ := assigns
      obtain ⟨deepest, depth_eq, depth_le⟩ := Json.exists_depth_array elements
      refine ⟨deepest, depth_eq, fun member isMember => ?_⟩
      have isElement : member.2 ∈ elements := (List.of_mem_zip isMember).2
      exact ⟨inside member.2 isElement, depth_le member.2 isElement⟩
  | _ =>
      exact assigns.elim

namespace RecordForm.Consists

variable
  [Wire α]
  {form : RecordForm α}
  {slots : List (Slot α)}
  (consists : form.Consists slots)

include consists

theorem slotNames_nodup :
    (slots.map fun slot => slot.field.name).Nodup := by
  have distinct := consists.distinct
  rwa [fieldNames, consists.checks_eq, List.map_map] at distinct

/-- The members of a record are found under the names of its fields. -/
theorem exists_ordered_object
    (record : α) :
    ∃ members, (Wire.toJson record).ordered = .object members ∧
      (∀ slot ∈ slots, members.lookup slot.field.name =
        some (Wire.toJson (slot.content record)).ordered) ∧
      ∀ slot ∈ slots, ∀ value, (slot.field.name, value) ∈ members →
        value = (Wire.toJson (slot.content record)).ordered := by
  rw [consists.toJson_eq, Json.ordered_object, List.map_map]
  have distinct :
      ((slots.map (Json.orderedMember ∘ fun slot => slot.member record)).map
        Prod.fst).Nodup := by
    rw [List.map_map]
    exact consists.slotNames_nodup
  have stored (slot) (isSlot : slot ∈ slots) :
      (slot.field.name, (Wire.toJson (slot.content record)).ordered) ∈
        slots.map (Json.orderedMember ∘ fun slot => slot.member record) :=
    List.mem_map_of_mem isSlot
  refine ⟨_, rfl, ?_, ?_⟩
  · intro slot isSlot
    exact Json.Members.lookup_insertAll_of_mem distinct (stored slot isSlot)
  · intro slot isSlot value isMember
    rcases Json.Members.mem_of_mem_insertAll isMember with isStored | isNone
    · have same := (lookup_eq_some_iff_mem distinct).mpr isStored
      rw [(lookup_eq_some_iff_mem distinct).mpr (stored slot isSlot)] at same
      exact (Option.some.inj same).symm
    · cases isNone

/--
A record is read from its own members, in whatever order, if each content is.
-/
theorem ofJson_ordered
    {record : α}
    (isRead : ∀ slot ∈ slots, Wire.ofJson
      (Wire.toJson (slot.content record)).ordered = .ok (slot.content record)) :
    Wire.ofJson (Wire.toJson record).ordered = .ok record := by
  obtain ⟨members, isObject, found, only⟩ :=
    consists.exists_ordered_object record
  rw [isObject, consists.ofJson_eq, read_eq_ok_iff consists.distinct]
  refine ⟨members, rfl, ?_, ?_⟩
  · rw [Suited, consists.checks_eq, List.forall_mem_map]
    intro slot isSlot value isMember
    rw [only slot isSlot value isMember]
    refine Field.mismatch?_eq_none_iff.mpr ⟨slot.content record, ?_⟩
    rw [slot.reader_eq]
    exact isRead slot isSlot
  · rw [consists.build_eq_ok_iff]
    intro slot isSlot
    refine Field.get_eq_ok_iff.mpr (Or.inl ⟨_, found slot isSlot, ?_⟩)
    rw [slot.reader_eq]
    exact isRead slot isSlot

/--
A written record is no wrapper, since it has a member that a wrapper has not.
-/
theorem unwrapEnvelope_ordered
    {slot : Slot α}
    (isSlot : slot ∈ slots)
    (isOther : slot.field.name ≠ "data")
    (record : α) :
    unwrapEnvelope (Wire.toJson record).ordered =
      (Wire.toJson record).ordered := by
  obtain ⟨members, isObject, found, -⟩ := consists.exists_ordered_object record
  rw [isObject]
  unfold unwrapEnvelope
  split
  case h_1 isWrapper =>
    cases isWrapper
    have other := found slot isSlot
    rw [Json.Members.lookup_cons, if_neg isOther] at other
    cases other
  case h_2 =>
    rfl

theorem reprints
    (slotsReprint : ∀ slot ∈ slots, slot.Reprints levels) :
    Reprints α (levels + 1) := by
  intro value record isOrdered isRead
  obtain ⟨members, assigns, gets⟩ := consists.gets_of_ofJson isRead
  obtain ⟨deepest, depth_eq, inside⟩ := isOrdered.of_assigns assigns
  have reprinted : ∀ slot ∈ slots,
      ∃ inner : Json, inner.depth ≤ deepest ∧
        Reprinted levels inner (slot.content record) := by
    intro slot isSlot
    rcases Field.get_eq_ok_iff.mp (gets slot isSlot) with
      ⟨inner, found, innerRead⟩ | ⟨-, absent⟩
    · obtain ⟨innerOrdered, depth_le⟩ := inside _ (mem_of_lookup found)
      rw [slot.reader_eq] at innerRead
      exact ⟨inner, depth_le,
        (slotsReprint slot isSlot).ofValue innerOrdered innerRead⟩
    · exact ⟨.null, by simp, (slotsReprint slot isSlot).ofNothing _ absent⟩
  exact {
    isRead := consists.ofJson_ordered fun slot isSlot => by
      obtain ⟨inner, -, innerReprinted⟩ := reprinted slot isSlot
      exact innerReprinted.isRead
    depth_le := by
      rw [consists.toJson_eq, depth_eq, Nat.add_max_add_right,
        Json.depth_object_le_succ_iff, List.forall_mem_map]
      intro slot isSlot
      obtain ⟨inner, depth_le, innerReprinted⟩ := reprinted slot isSlot
      have bound := innerReprinted.depth_le
      simp only [Slot.member]
      omega
    ne_null := fun _ => by simp [consists.toJson_eq, Json.ordered_object]
  }

end RecordForm.Consists

namespace Slot

section Kinds

variable
  {levels : Nat}
  [Wire β]
  (inner : WorkflowQueue.Reprints β levels)
  {name : String}
  {content : α → β}

include inner

theorem reprints_required :
    (Slot.of (.required name) content rfl).Reprints levels where
  ofValue := inner
  ofNothing := by
    rintro _ ⟨⟩

theorem reprints_optional
    {content : α → Option β} :
    (Slot.of (.optional name) content rfl).Reprints levels where
  ofValue := reprints_option inner
  ofNothing := by
    rintro _ ⟨⟩
    exact reprinted_none

theorem reprints_list
    {content : α → List β} :
    (Slot.of (.list name) content rfl).Reprints (levels + 1) where
  ofValue := WorkflowQueue.reprints_list inner
  ofNothing := by
    rintro _ ⟨⟩
    exact reprinted_nil

end Kinds

end Slot

theorem reprints_workflowSummary :
    Reprints WorkflowSummary (levels + 1) := by
  refine WorkflowSummary.consists.reprints ?_
  simp only [WorkflowSummary.slots, List.forall_mem_cons]
  exact ⟨Slot.reprints_required reprints_text,
    Slot.reprints_required reprints_text, List.forall_mem_nil _⟩

theorem reprints_playbook :
    Reprints Playbook (levels + 3) := by
  refine Playbook.consists.reprints ?_
  simp only [Playbook.slots, List.forall_mem_cons]
  exact ⟨Slot.reprints_required reprints_text,
    Slot.reprints_required reprints_text,
    Slot.reprints_list reprints_workflowSummary, List.forall_mem_nil _⟩

theorem reprints_actionStatus :
    Reprints ActionStatus (levels + 1) := by
  refine ActionStatus.consists.reprints ?_
  simp only [ActionStatus.slots, List.forall_mem_cons]
  exact ⟨Slot.reprints_required reprints_text,
    Slot.reprints_required reprints_text, Slot.reprints_required reprints_text,
    Slot.reprints_required reprints_text, Slot.reprints_required reprints_text,
    Slot.reprints_required reprints_actionState,
    Slot.reprints_optional reprints_any, Slot.reprints_optional reprints_any,
    Slot.reprints_optional reprints_timestamp,
    Slot.reprints_optional reprints_timestamp, List.forall_mem_nil _⟩

theorem reprints_workflowStatus :
    Reprints WorkflowStatus (levels + 3) := by
  refine WorkflowStatus.consists.reprints ?_
  simp only [WorkflowStatus.slots, List.forall_mem_cons]
  exact ⟨Slot.reprints_required reprints_text,
    Slot.reprints_optional reprints_text, Slot.reprints_optional reprints_text,
    Slot.reprints_required reprints_executionState,
    Slot.reprints_optional reprints_timestamp,
    Slot.reprints_optional reprints_timestamp,
    Slot.reprints_optional reprints_text,
    Slot.reprints_list reprints_actionStatus, List.forall_mem_nil _⟩

theorem RecordKind.reprints
    (kind : RecordKind) :
    Reprints kind.Record 3 := by
  cases kind with
  | workflowStatus => exact reprints_workflowStatus
  | actionStatus => exact reprints_actionStatus
  | playbook => exact reprints_playbook
  | workflowSummary => exact reprints_workflowSummary

/-- A written record is no wrapper. -/
theorem RecordKind.unwrapEnvelope_ordered
    (kind : RecordKind)
    (record : kind.Record) :
    unwrapEnvelope (Wire.toJson record).ordered =
      (Wire.toJson record).ordered := by
  cases kind with
  | workflowStatus =>
      exact WorkflowStatus.consists.unwrapEnvelope_ordered List.mem_cons_self
        (by decide) record
  | actionStatus =>
      exact ActionStatus.consists.unwrapEnvelope_ordered List.mem_cons_self
        (by decide) record
  | playbook =>
      exact Playbook.consists.unwrapEnvelope_ordered List.mem_cons_self
        (by decide) record
  | workflowSummary =>
      exact WorkflowSummary.consists.unwrapEnvelope_ordered List.mem_cons_self
        (by decide) record

/-! ## Bodies -/

section Bodies

variable
  [Wire α]

theorem decode_eq_ok_iff
    {body : String}
    {record : α} :
    decode body = .ok record ↔
      ∃ value, Json.parse body = .ok value ∧
        Wire.ofJson (unwrapEnvelope value) = .ok record := by
  unfold decode
  cases Json.parse body with
  | error fault =>
      simp
  | ok value =>
      cases outcome :
        (Wire.ofJson (unwrapEnvelope value) : Except Mismatch α) <;>
          simp [outcome]

/-- Taking a wrapper off makes nothing deeper. -/
theorem Json.Stored.unwrapEnvelope
    {value : Json}
    (stored : Json.Stored bound value) :
    Json.Stored bound (unwrapEnvelope value) := by
  unfold WorkflowQueue.unwrapEnvelope
  split
  case h_1 payload =>
    obtain ⟨isOrdered, depth_le⟩ := stored
    cases isOrdered with
    | object increasing inside =>
        obtain ⟨deepest, depth_eq, inner_le⟩ :=
          Json.exists_depth_object [("data", payload)]
        have inner : payload.depth ≤ deepest :=
          inner_le ("data", payload) List.mem_cons_self
        exact {
          isOrdered := inside ("data", payload) List.mem_cons_self
          depth_le := by omega
        }
  case h_2 =>
    exact stored

/-- What a body carries is read back from its text, in either layout. -/
theorem decode_write
    (layout : Json.Layout)
    (reprints : Reprints α levels)
    (enough : levels ≤ Json.nestingLimit)
    {body : String}
    {record : α}
    (isDecoded : decode body = .ok record)
    (noWrapper : unwrapEnvelope (Wire.toJson record).ordered =
      (Wire.toJson record).ordered)
    (isFloatFree : (Wire.toJson record).isFloatFree = true)
    {blanks : List Char}
    (allBlank : ∀ c ∈ blanks, Json.isBlank c = true) :
    decode
      (String.ofList (Json.write layout 0 (Wire.toJson record) ++ blanks)) =
        .ok record := by
  obtain ⟨value, isParsed, isRead⟩ := decode_eq_ok_iff.mp isDecoded
  obtain ⟨isOrdered, nested⟩ := (Json.stored_of_parse isParsed).unwrapEnvelope
  obtain ⟨isReadBack, depth_le, -⟩ := reprints isOrdered isRead
  have writtenNested :
      (Wire.toJson record).depth ≤ Json.nestingLimit := by omega
  refine decode_eq_ok_iff.mpr ⟨_,
    Json.parse_write layout isFloatFree writtenNested allBlank, ?_⟩
  rw [noWrapper]
  exact isReadBack

/--
A record whose texts give it back: the text that is sent and the one that is
printed.
-/
structure ReadsBack
    (record : α) :
    Prop where
  compact : decode (Wire.toJson record).compact = .ok record
  pretty : decode (Wire.toJson record).pretty = .ok record
  printed : decode (CommandLine.printed record) = .ok record

theorem readsBack_of_decode
    (reprints : Reprints α levels)
    (enough : levels ≤ Json.nestingLimit)
    {body : String}
    {record : α}
    (isDecoded : decode body = .ok record)
    (noWrapper : unwrapEnvelope (Wire.toJson record).ordered =
      (Wire.toJson record).ordered)
    (isFloatFree : (Wire.toJson record).isFloatFree = true) :
    ReadsBack record := by
  have written (layout) (blanks)
      (allBlank : ∀ c ∈ blanks, Json.isBlank c = true) :=
    decode_write layout reprints enough isDecoded noWrapper isFloatFree allBlank
  have bare (layout) :
      decode (String.ofList (Json.write layout 0 (Wire.toJson record))) =
        .ok record := by
    simpa using written layout [] (List.forall_mem_nil _)
  have line : CommandLine.printed record =
      String.ofList (Json.write .pretty 0 (Wire.toJson record) ++ ['\n']) := by
    rw [String.ofList_append]
    rfl
  exact {
    compact := bare .compact
    pretty := bare .pretty
    printed := line ▸ written .pretty ['\n'] (List.forall_mem_singleton.mpr rfl)
  }

/-- What is seen of a body by evaluation holds of the record that it carries. -/
theorem exists_decoded_of_evaluated
    {body : String}
    {good : α → Bool}
    (evaluated :
      (decode body : Except DecodeError α).toOption.map good = some true) :
    ∃ record : α, decode body = .ok record ∧ good record = true := by
  cases isDecoded : (decode body : Except DecodeError α) with
  | error fault =>
      simp [isDecoded, Except.toOption] at evaluated
  | ok record =>
      exact ⟨record, rfl, by simpa [isDecoded, Except.toOption] using evaluated⟩

end Bodies

/--
Whatever record or list of records a body carries, its texts give it back, as
long as its free values hold no floating-point numbers. Printing changes nothing
after one decoding.
-/
theorem RecordKind.readsBack_of_body
    (kind : RecordKind)
    (body : String) :
    (∀ record : kind.Record, decode body = .ok record →
      (Wire.toJson record).isFloatFree = true → ReadsBack record) ∧
    (∀ records : List kind.Record, decode body = .ok records →
      (Wire.toJson records).isFloatFree = true → ReadsBack records) := by
  constructor
  · intro record isDecoded isFloatFree
    exact readsBack_of_decode kind.reprints (by decide) isDecoded
      (kind.unwrapEnvelope_ordered record) isFloatFree
  · intro records isDecoded isFloatFree
    have noWrapper :
        unwrapEnvelope (Wire.toJson records).ordered =
          (Wire.toJson records).ordered := by
      rw [toJson_list, Json.ordered_array]
      rfl
    exact readsBack_of_decode (reprints_list kind.reprints) (by decide)
      isDecoded noWrapper isFloatFree

/--
A status in the short form: an escape, an unknown state, a leap second of a far
year.
-/
def shortBody : String :=
  "[\"\\u00e9\",null,null,\"queued\",\"+12016-12-31T23:59:60.5+01:00\"]"

theorem RecordKind.readsBack_of_shortBody :
    (∃ record : WorkflowStatus, decode shortBody = .ok record ∧
      (Wire.toJson record).isFloatFree = true ∧ ReadsBack record) ∧
    (∃ records : List WorkflowStatus, decode ("[" ++ shortBody ++ "]") =
        .ok records ∧
      (Wire.toJson records).isFloatFree = true ∧ ReadsBack records) := by
  obtain ⟨record, isDecoded, isFloatFree⟩ :
      ∃ record : WorkflowStatus, decode shortBody = .ok record ∧
        (Wire.toJson record).isFloatFree = true :=
    exists_decoded_of_evaluated (by decide +kernel)
  obtain ⟨records, areDecoded, areFloatFree⟩ :
      ∃ records : List WorkflowStatus, decode ("[" ++ shortBody ++ "]") =
          .ok records ∧
        (Wire.toJson records).isFloatFree = true :=
    exists_decoded_of_evaluated (by decide +kernel)
  exact ⟨⟨record, isDecoded, isFloatFree,
      (RecordKind.readsBack_of_body .workflowStatus _).1 record isDecoded
        isFloatFree⟩,
    ⟨records, areDecoded, areFloatFree,
      (RecordKind.readsBack_of_body .workflowStatus _).2 records areDecoded
        areFloatFree⟩⟩

end WorkflowQueue
