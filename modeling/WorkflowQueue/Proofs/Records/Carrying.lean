import WorkflowQueue.Proofs.Json.Recognition
import WorkflowQueue.Proofs.Records.Reprinting

namespace WorkflowQueue

/-!
# Texts that carry a record

A record is determined by the contents of its fields, and those may be carried
by many values and each of the values by many texts. Whichever it is, the record
is read: that is the other half of the grammar of records, where a value that is
read was shown to have the contents of the record.
`RecordKind.decode_eq_ok_iff_carried` puts both together with the texts of a
value.
-/

/-! ## Contents -/

/-- A value in order that holds a content is read as the content. -/
def Carried
    [Wire α]
    (Holds : Json → α → Prop) :
    Prop :=
  ∀ {value : Json} {content : α},
    value.Ordered → Holds value content → Wire.ofJson value = .ok content

open Json

theorem carried_text :
    Carried HoldsText :=
  fun _ holds => readText_eq_ok_iff.mpr holds

theorem carried_timestamp :
    Carried HoldsTimestamp :=
  fun _ holds => readTimestamp_eq_ok_iff.mpr holds

theorem carried_executionState :
    Carried (HoldsState ExecutionState.ofToken) :=
  fun _ holds => mapText_eq_ok_iff.mpr holds

theorem carried_actionState :
    Carried (HoldsState ActionState.ofToken) :=
  fun _ holds => mapText_eq_ok_iff.mpr holds

theorem carried_any :
    Carried HoldsAny :=
  fun _ holds => congrArg Except.ok holds.symm

section Containers

variable
  [Wire α]
  {Holds : Json → α → Prop}
  (carried : Carried Holds)

include carried

theorem carried_option :
    Carried (HoldsOption Holds) := by
  intro value content isOrdered holds
  refine readOptional_eq_ok_iff.mpr (holds.imp_right ?_)
  rintro ⟨notNull, inner, innerHolds, rfl⟩
  exact ⟨notNull, inner, carried isOrdered innerHolds, rfl⟩

theorem carried_list :
    Carried (HoldsList Holds) := by
  rintro _ contents isOrdered ⟨elements, rfl, related⟩
  cases isOrdered with
  | array inside =>
      refine readList_eq_ok_iff.mpr ⟨elements, rfl, ?_⟩
      induction related with
      | nil => exact .nil
      | cons first _ inductionHypothesis =>
          rw [List.forall_mem_cons] at inside
          exact .cons (carried inside.1 first) (inductionHypothesis inside.2)

end Containers

/-! ## Records -/

/-- No name is assigned a second value. -/
theorem Json.Ordered.assigned_distinct
    {names : List String}
    (distinct : names.Nodup)
    {value : Json}
    {members : Json.Members}
    (isOrdered : value.Ordered)
    (assigns : Assigns names value members) :
    (members.map Prod.fst).Nodup := by
  cases isOrdered with
  | @object found increasing _ =>
      obtain rfl : members = found := assigns
      exact increasing.distinct
  | @array elements _ =>
      obtain ⟨notMore, rfl⟩ := assigns
      rw [List.zip_eq_zip_take_min, List.map_fst_zip (by simp)]
      exact distinct.sublist (List.take_sublist _ names)
  | _ =>
      exact assigns.elim

/-- A field is found among members that give its content. -/
theorem Field.get_of_gives
    {field : Field α}
    {Holds : Json → α → Prop}
    {members : Json.Members}
    (inside : ∀ member ∈ members, member.2.Ordered)
    (carried : ∀ {value content}, value.Ordered → Holds value content →
      field.read value = .ok content)
    {missing : String → Mismatch}
    {content : α}
    (gives : members.Gives field.name Holds field.absent content) :
    field.get missing members = .ok content :=
  Field.get_eq_ok_iff.mpr <| gives.imp_left fun ⟨value, found, holds⟩ =>
    ⟨value, found, carried (inside _ (mem_of_lookup found)) holds⟩

namespace RecordForm.Consists

variable
  [Wire α]
  {form : RecordForm α}
  {slots : List (Slot α)}
  (consists : form.Consists slots)

include consists

/-- A record is read when each of its contents is found. -/
theorem ofJson_of_gets
    {value : Json}
    {record : α}
    {members : Json.Members}
    (isOrdered : value.Ordered)
    (assigns : Assigns form.fieldNames value members)
    (gets :
      ∀ slot ∈ slots,
        slot.field.get (form.missing value) members =
          .ok (slot.content record)) :
    Wire.ofJson value = .ok record := by
  rw [consists.ofJson_eq, read_eq_ok_iff consists.distinct]
  refine ⟨members, assigns, ?_, consists.build_eq_ok_iff.mpr gets⟩
  rw [Suited, consists.checks_eq, List.forall_mem_map]
  intro slot isSlot value isMember
  have found := (lookup_eq_some_iff_mem
    (isOrdered.assigned_distinct consists.distinct assigns)).mpr isMember
  have get := Field.get_eq_ok_iff.mp (gets slot isSlot)
  simp only [Field.check] at found
  simp only [found, Option.some.injEq, exists_eq_left', reduceCtorEq, false_and,
    or_false] at get
  exact Field.mismatch?_eq_none_iff.mpr ⟨_, get⟩

/--
Whatever holds the contents of a record is read as the record, if each slot
finds its own.
-/
theorem carried
    {grammar : Grammar}
    (obeys :
      List.Forall₂ (fun slot rule => slot.field.Obeys rule) slots grammar.rules)
    {Contents : Json.Members → α → Prop}
    (gets :
      ∀ {members record}, (∀ member ∈ members, member.2.Ordered) →
          Contents members record →
        ∀ missing, ∀ slot ∈ slots, slot.field.get missing members =
          .ok (slot.content record)) :
    Carried (HoldsRecord grammar.names Contents) := by
  rintro value record isOrdered ⟨members, assigns, contents⟩
  obtain ⟨_, -, inside⟩ := isOrdered.of_assigns assigns
  rw [← consists.fieldNames_eq obeys] at assigns
  exact consists.ofJson_of_gets isOrdered assigns
    (gets (fun member isMember => (inside member isMember).1) contents _)

/--
A value from which a record is read is no wrapper if the record needs a member
that none has.
-/
theorem unwrapEnvelope_of_ofJson
    {slot : Slot α}
    (isSlot : slot ∈ slots)
    (isOther : slot.field.name ≠ "data")
    (isRequired : slot.field.absent = none)
    {value : Json}
    {record : α}
    (isRead : Wire.ofJson value = .ok record) :
    unwrapEnvelope value = value := by
  unfold unwrapEnvelope
  split
  case h_1 payload =>
    obtain ⟨members, rfl, gets⟩ := consists.gets_of_ofJson isRead
    have get := Field.get_eq_ok_iff.mp (gets slot isSlot)
    rw [isRequired, Json.Members.lookup_cons, if_neg isOther] at get
    simp at get
  case h_2 =>
    rfl

end RecordForm.Consists

theorem WorkflowSummary.carried :
    Carried (HoldsRecord grammar.names Contents) := by
  refine consists.carried obeys fun inside contents missing => ?_
  simp only [slots, List.forall_mem_cons]
  exact ⟨Field.get_of_gives inside carried_text contents.id,
    Field.get_of_gives inside carried_text contents.name, List.forall_mem_nil _⟩

theorem Playbook.carried :
    Carried (HoldsRecord grammar.names Contents) := by
  refine consists.carried obeys fun inside contents missing => ?_
  simp only [slots, List.forall_mem_cons]
  exact ⟨Field.get_of_gives inside carried_text contents.id,
    Field.get_of_gives inside carried_text contents.name,
    Field.get_of_gives inside (carried_list WorkflowSummary.carried)
      contents.workflows, List.forall_mem_nil _⟩

theorem ActionStatus.carried :
    Carried (HoldsRecord grammar.names Contents) := by
  refine consists.carried obeys fun inside contents missing => ?_
  simp only [slots, List.forall_mem_cons]
  exact ⟨Field.get_of_gives inside carried_text contents.executionId,
    Field.get_of_gives inside carried_text contents.actionId,
    Field.get_of_gives inside carried_text contents.name,
    Field.get_of_gives inside carried_text contents.appName,
    Field.get_of_gives inside carried_text contents.actionName,
    Field.get_of_gives inside carried_actionState contents.status,
    Field.get_of_gives inside (carried_option carried_any) contents.arguments,
    Field.get_of_gives inside (carried_option carried_any) contents.result,
    Field.get_of_gives inside (carried_option carried_timestamp)
      contents.startedAt,
    Field.get_of_gives inside (carried_option carried_timestamp)
      contents.completedAt,
    List.forall_mem_nil _⟩

theorem WorkflowStatus.carried :
    Carried (HoldsRecord grammar.names Contents) := by
  refine consists.carried obeys fun inside contents missing => ?_
  simp only [slots, List.forall_mem_cons]
  exact ⟨Field.get_of_gives inside carried_text contents.executionId,
    Field.get_of_gives inside (carried_option carried_text) contents.workflowId,
    Field.get_of_gives inside (carried_option carried_text) contents.name,
    Field.get_of_gives inside carried_executionState contents.status,
    Field.get_of_gives inside (carried_option carried_timestamp)
      contents.startedAt,
    Field.get_of_gives inside (carried_option carried_timestamp)
      contents.completedAt,
    Field.get_of_gives inside (carried_option carried_text) contents.user,
    Field.get_of_gives inside (carried_list ActionStatus.carried)
      contents.actionStatuses,
    List.forall_mem_nil _⟩

namespace RecordKind

theorem carried
    (kind : RecordKind) :
    Carried kind.Holds := by
  cases kind with
  | workflowStatus => exact WorkflowStatus.carried
  | actionStatus => exact ActionStatus.carried
  | playbook => exact Playbook.carried
  | workflowSummary => exact WorkflowSummary.carried

/-- Nothing that is read as a record is a wrapper. -/
theorem unwrapEnvelope_of_ofJson
    (kind : RecordKind)
    {value : Json}
    {record : kind.Record}
    (isRead : Wire.ofJson value = .ok record) :
    unwrapEnvelope value = value := by
  cases kind with
  | workflowStatus =>
      exact WorkflowStatus.consists.unwrapEnvelope_of_ofJson List.mem_cons_self
        (by decide) rfl
        isRead
  | actionStatus =>
      exact ActionStatus.consists.unwrapEnvelope_of_ofJson List.mem_cons_self
        (by decide) rfl isRead
  | playbook =>
      exact Playbook.consists.unwrapEnvelope_of_ofJson List.mem_cons_self
        (by decide) rfl isRead
  | workflowSummary =>
      exact WorkflowSummary.consists.unwrapEnvelope_of_ofJson List.mem_cons_self
        (by decide) rfl
        isRead

/--
In order, the values that a record is read from are those that hold its
contents.
-/
theorem ofJson_eq_ok_iff
    (kind : RecordKind)
    {value : Json}
    (isOrdered : value.Ordered)
    {record : kind.Record} :
    Wire.ofJson value = .ok record ↔ kind.Holds value record :=
  ⟨kind.holds_of_ofJson value record, kind.carried isOrdered⟩

/--
What is left without a wrapper holds a record if the whole does, or if it was
wrapped.
-/
theorem holds_unwrapEnvelope_iff
    (kind : RecordKind)
    {value : Json}
    (isOrdered : value.Ordered)
    {record : kind.Record} :
    kind.Holds (unwrapEnvelope value) record ↔
      kind.Holds value record ∨
        ∃ payload, value = .object [("data", payload)] ∧
          kind.Holds payload record := by
  constructor
  · intro holds
    unfold unwrapEnvelope at holds
    split at holds
    case h_1 payload => exact .inr ⟨payload, rfl, holds⟩
    case h_2 => exact .inl holds
  · rintro (holds | ⟨payload, rfl, holds⟩)
    · rw [kind.unwrapEnvelope_of_ofJson (kind.carried isOrdered holds)]
      exact holds
    · exact holds

/-! ## Texts -/

/--
A body is decoded as a record exactly when it is a text of a value that carries
the record, bare or wrapped. The value may be any whose members settle to the
contents of the record, and the text any of its texts: the order of members, the
unknown members, the repeated names, the blanks, and the spelling of characters
do not matter.
-/
theorem decode_eq_ok_iff_carried
    (kind : RecordKind)
    (body : String)
    (record : kind.Record) :
    decode body = .ok record ↔
      ∃ written stored,
        IsTextOf written body ∧ written.depth ≤ nestingLimit ∧
            Settles written stored ∧
          (kind.Holds stored record ∨
            ∃ payload, stored = .object [("data", payload)] ∧
              kind.Holds payload record) := by
  calc decode body = .ok record
    _ ↔ ∃ stored, Json.parse body = .ok stored ∧
        Wire.ofJson (unwrapEnvelope stored) = .ok record :=
      decode_eq_ok_iff
    _ ↔ ∃ stored, Json.parse body = .ok stored ∧
          (kind.Holds stored record ∨
            ∃ payload, stored = .object [("data", payload)] ∧
              kind.Holds payload record) := by
      refine exists_congr fun stored => and_congr_right fun isParsed => ?_
      have inOrder := stored_of_parse isParsed
      rw [kind.ofJson_eq_ok_iff inOrder.unwrapEnvelope.isOrdered,
        kind.holds_unwrapEnvelope_iff inOrder.isOrdered]
    _ ↔ _ := by
      simp only [parse_eq_ok_iff, ← exists_and_right, and_assoc]
      exact exists_comm

/--
A new member, a name that is repeated, members in another order, and escapes.
-/
example :
    (decode "\x7b\"new\":[1.5],\"name\":null,\"\\u0069d\":\"w\",\n\"name\":\"\\ud83d\\ude00\"\x7d" :
      Except DecodeError WorkflowSummary).toOption =
        some { id := "w", name := "😀" } := by
  decide +kernel

end RecordKind

end WorkflowQueue
