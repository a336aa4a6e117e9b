import WorkflowQueue.Proofs.Records.Kinds

namespace WorkflowQueue

/-!
# Comparing records

Records are compared field by field, and the free values in them member by
member. Only floating-point numbers keep this from being equality, since two
zeros compare equal and no number that is none compares equal to itself. Without
them the comparison is exact, and where every number is one, a value compares
equal to itself.
-/

/--
Contents without floating-point numbers compare equal exactly to themselves.
-/
def ComparesExactly
    (α : Type)
    [Wire α]
    [BEq α] :
    Prop :=
  ∀ first second : α, (Wire.toJson first).isFloatFree = true →
    ((first == second) = true ↔ first = second)

/-! ## Contents -/

theorem comparesExactly_of_lawful
    [Wire α]
    [BEq α]
    [LawfulBEq α] :
    ComparesExactly α :=
  fun _ _ _ => beq_iff_eq

namespace Json

theorem sameElements_iff
    {elements : List Json}
    (inside : ∀ element ∈ elements, ∀ other, same element other = true ↔
      element = other)
    (others : List Json) :
    sameElements elements others = true ↔ elements = others := by
  induction elements generalizing others with
  | nil => cases others <;> simp [sameElements]
  | cons element elements inductionHypothesis =>
      rw [List.forall_mem_cons] at inside
      cases others with
      | nil => simp [sameElements]
      | cons other others =>
          rw [sameElements, Bool.and_eq_true, inside.1,
            inductionHypothesis inside.2, List.cons.injEq]

theorem sameMembers_iff
    {members : Members}
    (inside : ∀ member ∈ members, ∀ other, same member.2 other = true ↔
      member.2 = other)
    (others : Members) :
    sameMembers members others = true ↔ members = others := by
  induction members generalizing others with
  | nil => cases others <;> simp [sameMembers]
  | cons member members inductionHypothesis =>
      rw [List.forall_mem_cons] at inside
      cases others with
      | nil => simp [sameMembers]
      | cons other others =>
          rw [sameMembers, Bool.and_eq_true, Bool.and_eq_true, inside.1,
            inductionHypothesis inside.2, List.cons.injEq,
            Prod.ext_iff, beq_iff_eq]

/--
Values are the same when they are equal, as long as no number is only compared.
-/
theorem same_iff
    {value : Json}
    (isFloatFree : value.isFloatFree = true)
    (other : Json) :
    same value other = true ↔ value = other := by
  induction value using Json.induction generalizing other with
  | null => cases other <;> simp [same]
  | bool flag => cases other <;> simp [same]
  | integer number =>
      cases other with
      | integer otherNumber =>
          rcases number with ⟨number, inRange⟩
          rcases otherNumber with ⟨otherNumber, otherInRange⟩
          simp [same]
      | _ => simp [same]
  | float number => simp [Json.isFloatFree] at isFloatFree
  | string text => cases other <;> simp [same]
  | array elements inductionHypothesis =>
      rw [isFloatFree_array_iff] at isFloatFree
      cases other with
      | array others =>
          rw [same, sameElements_iff fun element isElement =>
            inductionHypothesis element isElement
              (isFloatFree element isElement), array.injEq]
      | _ => simp [same]
  | object members inductionHypothesis =>
      rw [isFloatFree_object_iff] at isFloatFree
      cases other with
      | object others =>
          rw [same, sameMembers_iff fun member isMember =>
            inductionHypothesis member isMember (isFloatFree member isMember),
              object.injEq]
      | _ => simp [same]

/-- A value in which every number is one, as in every JSON text. -/
inductive Numeric :
    Json →
    Prop where
  | null : Numeric .null
  | bool (value : Bool) : Numeric (.bool value)
  | integer (value : WideInteger) : Numeric (.integer value)
  | float (value : Binary64) (isNumber : value ≠ .nan) : Numeric (.float value)
  | string (value : String) : Numeric (.string value)
  | array (elements : List Json)
      (inside : ∀ element ∈ elements, Numeric element) :
      Numeric (.array elements)
  | object (members : Members) (inside : ∀ member ∈ members, Numeric member.2) :
      Numeric (.object members)

theorem sameElements_self
    {elements : List Json}
    (inside : ∀ element ∈ elements, same element element = true) :
    sameElements elements elements = true := by
  induction elements with
  | nil => rw [sameElements]
  | cons element rest inductionHypothesis =>
      rw [List.forall_mem_cons] at inside
      rw [sameElements, inside.1, inductionHypothesis inside.2, Bool.and_self]

theorem sameMembers_self
    {members : Members}
    (inside : ∀ member ∈ members, same member.2 member.2 = true) :
    sameMembers members members = true := by
  induction members with
  | nil => rw [sameMembers]
  | cons member rest inductionHypothesis =>
      rw [List.forall_mem_cons] at inside
      rw [sameMembers, inside.1, inductionHypothesis inside.2, beq_self_eq_true,
        Bool.and_self, Bool.and_self]

/-- Such a value is the same as itself. -/
theorem Numeric.same_self
    {value : Json}
    (numeric : Numeric value) :
    (value == value) = true := by
  show same value value = true
  induction numeric with
  | null => rw [same]
  | bool value => rw [same, beq_self_eq_true]
  | integer value => rw [same, beq_self_eq_true]
  | float value isNumber =>
      rw [same]
      cases value with
      | nan => exact (isNumber rfl).elim
      | infinite negative => simp [Binary64.same]
      | finite negative significand exponent => simp [Binary64.same]
  | string value => rw [same, beq_self_eq_true]
  | array elements _ inductionHypothesis =>
      rw [same]
      exact sameElements_self inductionHypothesis
  | object members _ inductionHypothesis =>
      rw [same]
      exact sameMembers_self inductionHypothesis

end Json

theorem comparesExactly_any :
    ComparesExactly Json :=
  fun _ second isFloatFree => Json.same_iff isFloatFree second

section Containers

variable
  [Wire α]
  [BEq α]
  (exactly : ComparesExactly α)

include exactly

theorem comparesExactly_option :
    ComparesExactly (Option α) := by
  rintro (_ | first) (_ | second) isFloatFree
  · simp
  · simp
  · simp
  · rw [Option.some_beq_some, Option.some.injEq]
    exact exactly first second isFloatFree

theorem comparesExactly_list :
    ComparesExactly (List α) := by
  intro first second isFloatFree
  have inside : ∀ content ∈ first, (Wire.toJson content).isFloatFree = true :=
    List.forall_mem_map.mp (Json.isFloatFree_array_iff.mp isFloatFree)
  clear isFloatFree
  induction first generalizing second with
  | nil => cases second <;> simp
  | cons content first inductionHypothesis =>
      rw [List.forall_mem_cons] at inside
      cases second with
      | nil => simp
      | cons other second =>
          rw [List.cons_beq_cons, Bool.and_eq_true,
            exactly content other inside.1, List.cons.injEq]
          exact and_congr_right fun _ => inductionHypothesis second inside.2

end Containers

/-! ## Records -/

/-- A record has no floating-point numbers when none of its contents has. -/
theorem RecordForm.Consists.isFloatFree_iff
    [Wire α]
    {form : RecordForm α}
    {slots : List (Slot α)}
    (consists : form.Consists slots)
    {record : α} :
    (Wire.toJson record).isFloatFree = true ↔
      ∀ slot ∈ slots,
        (Wire.toJson (slot.content record)).isFloatFree = true := by
  rw [consists.toJson_eq, Json.isFloatFree_object_iff, List.forall_mem_map]
  rfl

/-- The comparison of two actions, field by field. -/
theorem ActionStatus.beq_eq
    (first second : ActionStatus) :
    (first == second) =
      (first.executionId == second.executionId &&
          (first.actionId == second.actionId &&
        (first.name == second.name && (first.appName == second.appName &&
        (first.actionName == second.actionName &&
          (first.status == second.status &&
        (first.arguments == second.arguments &&
          (first.result == second.result &&
        (first.startedAt == second.startedAt &&
          first.completedAt == second.completedAt))))))))) :=
  rfl

theorem WorkflowStatus.beq_eq
    (first second : WorkflowStatus) :
    (first == second) =
      (first.executionId == second.executionId &&
          (first.workflowId == second.workflowId &&
        (first.name == second.name && (first.status == second.status &&
        (first.startedAt == second.startedAt &&
          (first.completedAt == second.completedAt &&
        (first.user == second.user &&
          first.actionStatuses == second.actionStatuses))))))) :=
  rfl

theorem comparesExactly_actionStatus :
    ComparesExactly ActionStatus := by
  intro first second isFloatFree
  rw [ActionStatus.consists.isFloatFree_iff] at isFloatFree
  simp only [ActionStatus.slots, List.forall_mem_cons] at isFloatFree
  obtain ⟨-, -, -, -, -, -, arguments, result, -⟩ := isFloatFree
  have sameArguments (other) :
      (first.arguments == other) = true ↔ first.arguments = other :=
    comparesExactly_option comparesExactly_any _ other arguments
  have sameResult (other) :
      (first.result == other) = true ↔ first.result = other :=
    comparesExactly_option comparesExactly_any _ other result
  rcases first with ⟨⟩
  rcases second with ⟨⟩
  simp only [ActionStatus.beq_eq, Bool.and_eq_true, beq_iff_eq,
    ActionStatus.mk.injEq, sameArguments, sameResult]

theorem comparesExactly_workflowStatus :
    ComparesExactly WorkflowStatus := by
  intro first second isFloatFree
  rw [WorkflowStatus.consists.isFloatFree_iff] at isFloatFree
  simp only [WorkflowStatus.slots, List.forall_mem_cons] at isFloatFree
  obtain ⟨-, -, -, -, -, -, -, actionStatuses, -⟩ := isFloatFree
  have sameActions (others) :
      (first.actionStatuses == others) = true ↔ first.actionStatuses = others :=
    comparesExactly_list comparesExactly_actionStatus _ others actionStatuses
  rcases first with ⟨⟩
  rcases second with ⟨⟩
  simp only [WorkflowStatus.beq_eq, Bool.and_eq_true, beq_iff_eq,
    WorkflowStatus.mk.injEq, sameActions]

namespace RecordKind

instance : (kind : RecordKind) → BEq kind.Record
  | .workflowStatus => inferInstanceAs (BEq WorkflowStatus)
  | .actionStatus => inferInstanceAs (BEq ActionStatus)
  | .playbook => inferInstanceAs (BEq Playbook)
  | .workflowSummary => inferInstanceAs (BEq WorkflowSummary)

/--
Records of each kind compare equal exactly to themselves, if they hold no such
numbers.
-/
theorem comparesExactly
    (kind : RecordKind) :
    ComparesExactly kind.Record := by
  cases kind with
  | workflowStatus => exact comparesExactly_workflowStatus
  | actionStatus => exact comparesExactly_actionStatus
  | playbook => exact @comparesExactly_of_lawful Playbook _ _ _
  | workflowSummary => exact @comparesExactly_of_lawful WorkflowSummary _ _ _

end RecordKind

end WorkflowQueue
