import WorkflowQueue.Proofs.Records.Carrying

namespace WorkflowQueue

/-!
# Null and absent fields

A field that may be null may as well be absent, in a record and in the records
inside it. `RecordKind.Alike` relates two values that differ in nothing else,
whichever of their fields are null in the one and absent in the other, and both
give the same record.
-/

/-- Values of arrays with alike elements. -/
def Json.AlikeElements
    (Alike : Json → Json → Prop)
    (value twin : Json) :
    Prop :=
  ∃ elements others, value = .array elements ∧ twin = .array others ∧
    List.Forall₂ Alike elements others

/--
What two values have under the name of a rule: the same, or null and nothing.
-/
inductive Rule.AlikePlaces
    (rule : Rule)
    (Inside : Json → Json → Prop) :
    Option Json →
    Option Json →
    Prop where
  | absent : rule.AlikePlaces Inside none none
  | present
      {value twin : Json}
      (alike : Inside value twin) :
      rule.AlikePlaces Inside (some value) (some twin)
  | nullForAbsent
      (notRequired : rule.isRequired = false)
      (suits : rule.Suits .null) :
      rule.AlikePlaces Inside none (some .null)
  | absentForNull
      (notRequired : rule.isRequired = false)
      (suits : rule.Suits .null) :
      rule.AlikePlaces Inside (some .null) none

/-- Values that assign alike values to the names of a grammar, up to nulls. -/
def Grammar.Alike
    (grammar : Grammar)
    (Inside : String → Json → Json → Prop)
    (value twin : Json) :
    Prop :=
  ∃ members others,
    Json.Assigns grammar.names value members ∧
        Json.Assigns grammar.names twin others ∧
      ∀ rule ∈ grammar.rules,
        rule.AlikePlaces (Inside rule.name) (members.lookup rule.name)
          (others.lookup rule.name)

/-! ## Fields -/

/--
A field whose content for null is its content for nothing, unless it needs a
value.
-/
def Field.NullIsAbsent
    (field : Field α) :
    Prop :=
  ∀ content absent, field.read .null = .ok content →
    field.absent = some absent → content = absent

namespace Field

section NullIsAbsent

variable
  [Wire α]
  {name : String}

theorem required_nullIsAbsent :
    (Field.required name : Field α).NullIsAbsent := by
  rintro content absent - ⟨⟩

theorem optional_nullIsAbsent :
    (Field.optional name : Field (Option α)).NullIsAbsent := by
  rintro content absent isRead ⟨⟩
  have isRead : readOptional Wire.ofJson .null = .ok content := isRead
  rcases readOptional_eq_ok_iff.mp isRead with ⟨-, isNone⟩ | ⟨notNull, -⟩
  · exact isNone
  · exact (notNull rfl).elim

theorem list_nullIsAbsent :
    (Field.list name : Field (List α)).NullIsAbsent := by
  rintro content absent isRead -
  have isRead : readList Wire.ofJson .null = .ok content := isRead
  obtain ⟨elements, isArray, -⟩ := readList_eq_ok_iff.mp isRead
  cases isArray

end NullIsAbsent

/-- A field has the same content in places that are alike. -/
theorem get_of_alikePlaces
    {field : Field α}
    {rule : Rule}
    (obeys : field.Obeys rule)
    (nullIsAbsent : field.NullIsAbsent)
    {Inside : Json → Json → Prop}
    {members others : Json.Members}
    (alike : rule.AlikePlaces Inside (members.lookup rule.name)
      (others.lookup rule.name))
    {content : α}
    (keeps :
        ∀ value twin, others.lookup rule.name = some twin → Inside value twin →
      field.read value = .ok content → field.read twin = .ok content)
    {missing otherMissing : String → Mismatch}
    (get : field.get missing members = .ok content) :
    field.get otherMissing others = .ok content := by
  rw [get_eq_ok_iff, obeys.name_eq] at get ⊢
  generalize members.lookup rule.name = place at *
  generalize others.lookup rule.name = otherPlace at *
  cases alike with
  | absent => exact get
  | present inside =>
      rcases get with ⟨_, ⟨⟩, isRead⟩ | ⟨⟨⟩, -⟩
      exact .inl ⟨_, rfl, keeps _ _ rfl inside isRead⟩
  | nullForAbsent _ suits =>
      rcases get with ⟨_, ⟨⟩, -⟩ | ⟨-, isAbsent⟩
      obtain ⟨ofNull, isRead⟩ := (obeys.reads .null).mpr suits
      obtain rfl := nullIsAbsent ofNull content isRead isAbsent
      exact .inl ⟨.null, rfl, isRead⟩
  | absentForNull notRequired _ =>
      rcases get with ⟨_, ⟨⟩, isRead⟩ | ⟨⟨⟩, -⟩
      obtain ⟨ofNothing, isAbsent⟩ :
          ∃ ofNothing, field.absent = some ofNothing := by
        rw [← Option.ne_none_iff_exists', ne_eq,
          ← obeys.absent_iff, notRequired]
        exact Bool.false_ne_true
      obtain rfl := nullIsAbsent content ofNothing isRead isAbsent
      exact .inr ⟨rfl, isAbsent⟩

end Field

/-! ## Records -/

/-- Alike values give the same content. -/
def ReadsAlike
    (α : Type)
    [Wire α]
    (Alike : Json → Json → Prop) :
    Prop :=
  ∀ {value twin : Json} {content : α},
    twin.Ordered → Alike value twin → Wire.ofJson value = .ok content →
      Wire.ofJson twin = .ok content

theorem readsAlike_eq
    [Wire α] :
    ReadsAlike α Eq := by
  rintro value _ content - rfl isRead
  exact isRead

/-- Arrays of alike elements give the same list. -/
theorem readsAlike_list
    [Wire α]
    {Alike : Json → Json → Prop}
    (readsAlike : ReadsAlike α Alike) :
    ReadsAlike (List α) (Json.AlikeElements Alike) := by
  rintro _ _ contents twinOrdered ⟨elements, others, rfl, rfl, alike⟩ isRead
  obtain ⟨_, ⟨⟩, related⟩ := readList_eq_ok_iff.mp isRead
  clear isRead
  refine readList_eq_ok_iff.mpr ⟨others, rfl, ?_⟩
  cases twinOrdered with
  | array inside =>
      induction related generalizing others with
      | nil =>
          cases alike
          exact .nil
      | cons first _ inductionHypothesis =>
          obtain ⟨other, rest, firstAlike, restAlike, rfl⟩ :=
            List.forall₂_cons_left_iff.mp alike
          rw [List.forall_mem_cons] at inside
          exact .cons (readsAlike inside.1 firstAlike first)
            (inductionHypothesis rest restAlike inside.2)

/-- A value assigns in one way only. -/
theorem Json.Assigns.eq
    {names : List String}
    {value : Json}
    {members others : Json.Members}
    (assigns : Json.Assigns names value members)
    (assignsOthers : Json.Assigns names value others) :
    members = others := by
  cases value with
  | object => exact assigns.trans assignsOthers.symm
  | array => exact assigns.2.trans assignsOthers.2.symm
  | _ => exact assigns.elim

/--
A slot with the same content for null as for nothing, and for alike values
inside it.
-/
structure Slot.ReadsAlike
    (slot : Slot α)
    (Inside : String → Json → Json → Prop) :
    Prop where
  nullIsAbsent : slot.field.NullIsAbsent
  inside : WorkflowQueue.ReadsAlike slot.Content (Inside slot.field.name)

namespace Slot

section Kinds

variable
  [Wire β]
  {name : String}
  {Inside : String → Json → Json → Prop}

theorem readsAlike_required
    {content : α → β}
    (inside : WorkflowQueue.ReadsAlike β (Inside name)) :
    (Slot.of (.required name) content rfl).ReadsAlike Inside where
  nullIsAbsent := Field.required_nullIsAbsent
  inside := inside

theorem readsAlike_optional
    {content : α → Option β}
    (inside : WorkflowQueue.ReadsAlike (Option β) (Inside name)) :
    (Slot.of (.optional name) content rfl).ReadsAlike Inside where
  nullIsAbsent := Field.optional_nullIsAbsent
  inside := inside

theorem readsAlike_list
    {content : α → List β}
    (inside : WorkflowQueue.ReadsAlike (List β) (Inside name)) :
    (Slot.of (.list name) content rfl).ReadsAlike Inside where
  nullIsAbsent := Field.list_nullIsAbsent
  inside := inside

end Kinds

end Slot

/--
Alike values give the same record, if what they have inside one another gives
the same.
-/
theorem RecordForm.Consists.readsAlike
    [Wire α]
    {form : RecordForm α}
    {slots : List (Slot α)}
    (consists : form.Consists slots)
    {grammar : Grammar}
    (obeys :
      List.Forall₂ (fun slot rule => slot.field.Obeys rule) slots grammar.rules)
    {Inside : String → Json → Json → Prop}
    (slotsAlike : ∀ slot ∈ slots, slot.ReadsAlike Inside) :
    ReadsAlike α (grammar.Alike Inside) := by
  rintro value twin record twinOrdered
    ⟨members, others, assigns, assignsOthers, alike⟩ isRead
  obtain ⟨_, -, othersOrdered⟩ := twinOrdered.of_assigns assignsOthers
  obtain ⟨found, assignsFound, gets⟩ := consists.gets_of_ofJson isRead
  rw [← consists.fieldNames_eq obeys] at assigns assignsOthers
  obtain rfl := assigns.eq assignsFound
  refine consists.ofJson_of_gets twinOrdered assignsOthers fun slot isSlot => ?_
  obtain ⟨nullIsAbsent, readsAlike⟩ := slotsAlike slot isSlot
  have obeysSome :
      ∀ slot ∈ slots, ∃ rule ∈ grammar.rules, slot.field.Obeys rule :=
    forall_mem_of_forall₂ obeys.flip fun rule _ isRule follows =>
      ⟨rule, isRule, follows⟩
  obtain ⟨rule, isRule, follows⟩ := obeysSome slot isSlot
  refine Field.get_of_alikePlaces follows nullIsAbsent (alike rule isRule) ?_
    (gets slot isSlot)
  intro inner other isFound inside innerRead
  rw [slot.reader_eq] at innerRead ⊢
  rw [← follows.name_eq] at inside
  exact readsAlike (othersOrdered _ (mem_of_lookup isFound)).1 inside innerRead

/-- Values of a workflow in a playbook that differ in nulls at most. -/
def WorkflowSummary.Alike :
    Json →
    Json →
    Prop :=
  grammar.Alike fun _ => Eq

/-- Values of a playbook that differ in nulls at most. -/
def Playbook.Alike :
    Json →
    Json →
    Prop :=
  grammar.Alike fun name =>
    if name = "workflows" then Json.AlikeElements WorkflowSummary.Alike else Eq

/-- Values of an action's status that differ in nulls at most. -/
def ActionStatus.Alike :
    Json →
    Json →
    Prop :=
  grammar.Alike fun _ => Eq

/-- Values of an execution's status that differ in nulls at most. -/
def WorkflowStatus.Alike :
    Json →
    Json →
    Prop :=
  grammar.Alike fun name =>
    if name = "action_statuses" then
      Json.AlikeElements ActionStatus.Alike else Eq

theorem WorkflowSummary.readsAlike :
    ReadsAlike WorkflowSummary Alike := by
  refine consists.readsAlike obeys ?_
  simp only [slots, List.forall_mem_cons]
  exact ⟨Slot.readsAlike_required readsAlike_eq,
    Slot.readsAlike_required readsAlike_eq, List.forall_mem_nil _⟩

theorem Playbook.readsAlike :
    ReadsAlike Playbook Alike := by
  refine consists.readsAlike obeys ?_
  simp only [slots, List.forall_mem_cons]
  exact ⟨Slot.readsAlike_required readsAlike_eq,
    Slot.readsAlike_required readsAlike_eq,
    Slot.readsAlike_list (readsAlike_list WorkflowSummary.readsAlike),
    List.forall_mem_nil _⟩

theorem ActionStatus.readsAlike :
    ReadsAlike ActionStatus Alike := by
  refine consists.readsAlike obeys ?_
  simp only [slots, List.forall_mem_cons]
  exact ⟨Slot.readsAlike_required readsAlike_eq,
    Slot.readsAlike_required readsAlike_eq,
    Slot.readsAlike_required readsAlike_eq,
    Slot.readsAlike_required readsAlike_eq, Slot.readsAlike_required
      readsAlike_eq, Slot.readsAlike_required readsAlike_eq,
        Slot.readsAlike_optional readsAlike_eq, Slot.readsAlike_optional
          readsAlike_eq, Slot.readsAlike_optional readsAlike_eq,
            Slot.readsAlike_optional readsAlike_eq, List.forall_mem_nil _⟩

theorem WorkflowStatus.readsAlike :
    ReadsAlike WorkflowStatus Alike := by
  refine consists.readsAlike obeys ?_
  simp only [slots, List.forall_mem_cons]
  exact ⟨Slot.readsAlike_required readsAlike_eq,
    Slot.readsAlike_optional readsAlike_eq,
    Slot.readsAlike_optional readsAlike_eq,
    Slot.readsAlike_required readsAlike_eq,
    Slot.readsAlike_optional readsAlike_eq,
    Slot.readsAlike_optional readsAlike_eq,
    Slot.readsAlike_optional readsAlike_eq, Slot.readsAlike_list
      (readsAlike_list ActionStatus.readsAlike), List.forall_mem_nil _⟩

namespace RecordKind

/-- Values of a record of a kind that differ in nulls at most. -/
def Alike :
    RecordKind →
    Json →
    Json →
    Prop
  | .workflowStatus => WorkflowStatus.Alike
  | .actionStatus => ActionStatus.Alike
  | .playbook => Playbook.Alike
  | .workflowSummary => WorkflowSummary.Alike

theorem readsAlike
    (kind : RecordKind) :
    ReadsAlike kind.Record kind.Alike := by
  cases kind with
  | workflowStatus => exact WorkflowStatus.readsAlike
  | actionStatus => exact ActionStatus.readsAlike
  | playbook => exact Playbook.readsAlike
  | workflowSummary => exact WorkflowSummary.readsAlike

end RecordKind

end WorkflowQueue
