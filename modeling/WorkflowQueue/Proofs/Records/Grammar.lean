import Mathlib.Data.List.Nodup
import WorkflowQueue.Proofs.Records.Slots

namespace WorkflowQueue

/-!
# The grammar of records

Which JSON values are read as a record, and with which content. A grammar lists
the rules of the fields in declaration order. A value is accepted as an object,
whose other members are ignored, or as an array of the fields in that order,
which may end after the last required one. A record whose fields are read by the
rules of a grammar is read from the values of the grammar and from no others.
-/

/-! ## Kinds of values -/

namespace Json

/-- Any value at all. -/
def IsAny
    (_ : Json) :
    Prop :=
  True

/-- A string. -/
def IsText
    (value : Json) :
    Prop :=
  ∃ text, value = .string text

/-- A string that is a timestamp. -/
def IsTimestamp
    (value : Json) :
    Prop :=
  ∃ text timestamp, value = .string text ∧ Rfc3339.parse text = .ok timestamp

/-- Null, or a value of the given kind. -/
def IsNullOr
    (Suits : Json → Prop)
    (value : Json) :
    Prop :=
  value = .null ∨ Suits value

/-- An array whose elements are of the given kind. Null is no array. -/
def IsArrayOf
    (Suits : Json → Prop)
    (value : Json) :
    Prop :=
  ∃ elements, value = .array elements ∧ ∀ element ∈ elements, Suits element

end Json

section Kinds

variable
  [Wire α]
  {Suits : Json → Prop}

theorem exists_ofJson_any_iff
    {value : Json} :
    (∃ content : Json, Wire.ofJson value = .ok content) ↔ value.IsAny := by
  simp [Wire.ofJson, Json.IsAny]

theorem exists_ofJson_text_iff
    {value : Json} :
    (∃ content : String, Wire.ofJson value = .ok content) ↔ value.IsText :=
  exists_congr fun _ => readText_eq_ok_iff

theorem exists_ofJson_timestamp_iff
    {value : Json} :
    (∃ content : Timestamp, Wire.ofJson value = .ok content) ↔
      value.IsTimestamp := by
  rw [Json.IsTimestamp, exists_comm]
  exact exists_congr fun _ => readTimestamp_eq_ok_iff

/-- Every token is a state. -/
theorem exists_ofJson_executionState_iff
    {value : Json} :
    (∃ content : ExecutionState, Wire.ofJson value = .ok content) ↔
      value.IsText := by
  simp [Wire.ofJson, mapText_eq_ok_iff, Json.IsText]

theorem exists_ofJson_actionState_iff
    {value : Json} :
    (∃ content : ActionState, Wire.ofJson value = .ok content) ↔
      value.IsText := by
  simp [Wire.ofJson, mapText_eq_ok_iff, Json.IsText]

theorem exists_ofJson_option_iff
    (reads :
      ∀ value, (∃ content : α, Wire.ofJson value = .ok content) ↔ Suits value)
    {value : Json} :
    (∃ content : Option α, Wire.ofJson value = .ok content) ↔
      value.IsNullOr Suits := by
  by_cases isNull : value = .null
  · simp [Wire.ofJson, readOptional_eq_ok_iff, Json.IsNullOr, isNull]
  · simp [Wire.ofJson, readOptional_eq_ok_iff, Json.IsNullOr, isNull,
      ← reads, exists_comm]

theorem exists_ofJson_list_iff
    (reads :
      ∀ value, (∃ content : α, Wire.ofJson value = .ok content) ↔ Suits value)
    {value : Json} :
    (∃ contents : List α, Wire.ofJson value = .ok contents) ↔
      value.IsArrayOf Suits := by
  simp only [Wire.ofJson, readList_eq_ok_iff, Json.IsArrayOf, ← reads]
  rw [exists_comm]
  simp only [exists_and_left, exists_forall₂_iff]

end Kinds

/-! ## Rules -/

/-- What a grammar says of one field. -/
structure Rule where
  name : String
  isRequired : Bool
  Suits : Json → Prop

namespace Rule

/-- A field that must be present. -/
def required
    (name : String)
    (Suits : Json → Prop) :
    Rule where
  name := name
  isRequired := true
  Suits := Suits

/-- A field that may be absent or null. -/
def optional
    (name : String)
    (Suits : Json → Prop) :
    Rule where
  name := name
  isRequired := false
  Suits := Json.IsNullOr Suits

/-- A list that may be absent, but not null. -/
def list
    (name : String)
    (Suits : Json → Prop) :
    Rule where
  name := name
  isRequired := false
  Suits := Json.IsArrayOf Suits

/-- The number of places up to the last required field. -/
def places :
    List Rule →
    Nat
  | [] => 0
  | rule :: rest =>
      if places rest = 0 then if rule.isRequired then 1 else 0
      else places rest + 1

end Rule

/-- A field is read by its rule. -/
structure Field.Obeys
    (field : Field α)
    (rule : Rule) :
    Prop where
  name_eq : field.name = rule.name
  reads :
    ∀ value, (∃ content, field.read value = .ok content) ↔ rule.Suits value
  absent_iff : rule.isRequired = true ↔ field.absent = none

namespace Field

section Obeys

variable
  [Wire α]
  {Suits : Json → Prop}
  (reads :
    ∀ value, (∃ content : α, Wire.ofJson value = .ok content) ↔ Suits value)
  (name : String)

include reads

theorem required_obeys :
    (Field.required name : Field α).Obeys (.required name Suits) where
  name_eq := rfl
  reads := reads
  absent_iff := by simp [Field.required, Rule.required]

theorem optional_obeys :
    (Field.optional name : Field (Option α)).Obeys (.optional name Suits) where
  name_eq := rfl
  reads _ := exists_ofJson_option_iff reads
  absent_iff := by simp [Field.optional, Rule.optional]

theorem list_obeys :
    (Field.list name : Field (List α)).Obeys (.list name Suits) where
  name_eq := rfl
  reads _ := exists_ofJson_list_iff reads
  absent_iff := by simp [Field.list, Rule.list]

end Obeys

/-- Among suitable values a field is found unless it is required and absent. -/
theorem Obeys.exists_get_iff
    {field : Field α}
    {rule : Rule}
    (obeys : field.Obeys rule)
    (missing : String → Mismatch)
    {assigned : Json.Members}
    (suited : ∀ value, (rule.name, value) ∈ assigned → rule.Suits value) :
    (∃ content, field.get missing assigned = .ok content) ↔
      (rule.isRequired = true → ∃ value, (rule.name, value) ∈ assigned) := by
  simp only [get_eq_ok_iff, obeys.name_eq, ← exists_lookup_iff,
    obeys.absent_iff]
  cases found : assigned.lookup rule.name with
  | some value =>
      simpa using (obeys.reads value).mpr (suited value (mem_of_lookup found))
  | none =>
      simp [Option.ne_none_iff_exists']

end Field

/-! ## Grammars -/

/-- The rules of a record's fields in declaration order. -/
structure Grammar where
  rules : List Rule
  least : Nat
  distinct : (rules.map Rule.name).Nodup
  least_eq : least = Rule.places rules

namespace Grammar

/-- The names of the fields in declaration order. -/
def names
    (grammar : Grammar) :
    List String :=
  grammar.rules.map Rule.name

/--
Members with every required field whose values under the names of fields suit.
-/
def Fits
    (grammar : Grammar)
    (members : Json.Members) :
    Prop :=
  ∀ rule ∈ grammar.rules,
    (rule.isRequired = true → ∃ value, (rule.name, value) ∈ members) ∧
      ∀ value, (rule.name, value) ∈ members → rule.Suits value

/-- Elements that suit the fields in whose places they stand. -/
def FitsInOrder
    (grammar : Grammar)
    (elements : List Json) :
    Prop :=
  ∀ placed ∈ grammar.rules.zip elements, placed.1.Suits placed.2

/-- The values of a grammar. -/
def Accepts
    (grammar : Grammar) :
    Json →
    Prop
  | .object members => grammar.Fits members
  | .array elements =>
      grammar.least ≤ elements.length ∧ elements.length ≤ grammar.rules.length ∧
        grammar.FitsInOrder elements
  | _ => False

end Grammar

namespace Rule

theorem places_eq_zero_iff
    {rules : List Rule} :
    places rules = 0 ↔ ∀ rule ∈ rules, ¬rule.isRequired = true := by
  induction rules with
  | nil =>
      simp [places]
  | cons rule rest inductionHypothesis =>
      rw [List.forall_mem_cons, ← inductionHypothesis, places]
      by_cases restFree : places rest = 0 <;> simp [restFree]

theorem places_cons_le_succ_iff
    {rule : Rule}
    {rest : List Rule}
    {length : Nat} :
    places (rule :: rest) ≤ length + 1 ↔ places rest ≤ length := by
  rw [places]
  split
  · next restFree =>
      rw [restFree]
      split <;> simp
  · exact Nat.add_le_add_iff_right

/--
The required fields have elements of their own in an array that is long enough.
-/
theorem required_placed_iff
    {rules : List Rule}
    (distinct : (rules.map name).Nodup)
    {elements : List Json} :
    (∀ rule ∈ rules, rule.isRequired = true →
        ∃ value, (rule.name, value) ∈ (rules.map name).zip elements) ↔
      places rules ≤ elements.length := by
  induction rules generalizing elements with
  | nil =>
      simp [places]
  | cons rule rest inductionHypothesis =>
      cases elements with
      | nil =>
          rw [List.length_nil, Nat.le_zero, places_eq_zero_iff]
          simp
      | cons element others =>
          rw [List.map_cons, List.nodup_cons] at distinct
          -- No other rule finds the element of the first one, since the names
          -- differ.
          have further (other) (isOther : other ∈ rest) :
              other.name ≠ rule.name :=
            fun same => distinct.1 (List.mem_map.mpr ⟨other, isOther, same⟩)
          rw [List.length_cons, places_cons_le_succ_iff,
            ← inductionHypothesis distinct.2, List.map_cons, List.zip_cons_cons,
            List.forall_mem_cons]
          constructor
          · rintro ⟨-, later⟩ other isOther isRequired
            obtain ⟨value, placed⟩ := later other isOther isRequired
            rcases List.mem_cons.mp placed with isFirst | placedLater
            · exact (further other isOther (Prod.ext_iff.mp isFirst).1).elim
            · exact ⟨value, placedLater⟩
          · intro later
            refine ⟨fun _ => ⟨element, List.mem_cons_self⟩, ?_⟩
            intro other isOther isRequired
            obtain ⟨value, placed⟩ := later other isOther isRequired
            exact ⟨value, List.mem_cons_of_mem _ placed⟩

/--
A value stands under the name of a rule exactly when it stands in its place.
-/
theorem suits_placed_iff
    {rules : List Rule}
    (distinct : (rules.map name).Nodup)
    {elements : List Json} :
    (∀ rule ∈ rules, ∀ value, (rule.name, value) ∈
        (rules.map name).zip elements →
        rule.Suits value) ↔
      ∀ placed ∈ rules.zip elements, placed.1.Suits placed.2 := by
  rw [List.zip_map_left]
  constructor
  · intro suits placed member
    exact suits placed.1 (List.of_mem_zip member).1 placed.2
      (List.mem_map.mpr ⟨placed, member, rfl⟩)
  · intro suits rule isRule value named
    obtain ⟨placed, member, same⟩ := List.mem_map.mp named
    obtain ⟨sameName, rfl⟩ := Prod.ext_iff.mp same
    have sameRule : placed.1 = rule :=
      List.inj_on_of_nodup_map distinct (List.of_mem_zip member).1
        isRule sameName
    exact sameRule ▸ suits placed member

end Rule

namespace Grammar

variable
  {grammar : Grammar}

theorem fits_zip_iff
    {elements : List Json} :
    grammar.Fits (grammar.names.zip elements) ↔
      grammar.least ≤ elements.length ∧ grammar.FitsInOrder elements := by
  rw [grammar.least_eq, ← Rule.required_placed_iff grammar.distinct,
    FitsInOrder, ← Rule.suits_placed_iff grammar.distinct]
  exact ⟨fun fits =>
    ⟨fun rule isRule => (fits rule isRule).1,
      fun rule isRule => (fits rule isRule).2⟩,
        fun fits rule isRule => ⟨fits.1 rule isRule, fits.2 rule isRule⟩⟩

/-- A value is accepted for the values that it assigns to the fields' names. -/
theorem accepts_iff
    {value : Json} :
    grammar.Accepts value ↔
      ∃ members, Json.Assigns grammar.names value members ∧
        grammar.Fits members := by
  cases value with
  | object members =>
      simp [Accepts, Json.Assigns]
  | array elements =>
      simp only [Accepts, Json.Assigns, and_assoc, exists_and_left,
        exists_eq_left, fits_zip_iff]
      rw [names, List.length_map]
      exact and_left_comm
  | _ =>
      simp [Accepts, Json.Assigns]

end Grammar

/-- Every rule is a rule of a slot and the other way round. -/
theorem forall_iff_of_forall₂
    {relation : α → β → Prop}
    {Left : α → Prop}
    {Right : β → Prop}
    {lefts : List α}
    {rights : List β}
    (related : List.Forall₂ relation lefts rights)
    (agree : ∀ left right, right ∈ rights → relation left right →
      (Left left ↔ Right right)) :
    (∀ left ∈ lefts, Left left) ↔ ∀ right ∈ rights, Right right := by
  induction related with
  | nil =>
      simp
  | cons first _ inductionHypothesis =>
      rw [List.forall_mem_cons, List.forall_mem_cons,
        agree _ _ List.mem_cons_self first,
        inductionHypothesis fun left right member =>
          agree left right (List.mem_cons_of_mem _ member)]

namespace RecordForm.Consists

variable
  [Wire α]
  {form : RecordForm α}
  {slots : List (Slot α)}
  {grammar : Grammar}
  (consists : form.Consists slots)
  (obeys :
    List.Forall₂ (fun slot rule => slot.field.Obeys rule) slots grammar.rules)

include consists obeys

theorem fieldNames_eq :
    form.fieldNames = grammar.names := by
  rw [fieldNames, consists.checks_eq, List.map_map, Grammar.names]
  refine List.forall₂_eq_eq_eq ▸
    List.forall₂_map_left_iff.mpr (List.forall₂_map_right_iff.mpr ?_)
  exact obeys.imp fun _ _ follows => follows.name_eq

theorem suited_iff
    {assigned : Json.Members} :
    form.Suited assigned ↔
      ∀ rule ∈ grammar.rules, ∀ value, (rule.name, value) ∈ assigned →
        rule.Suits value := by
  rw [Suited, consists.checks_eq, List.forall_mem_map]
  refine forall_iff_of_forall₂ obeys ?_
  intro slot rule _ follows
  simp only [Field.check, Field.mismatch?_eq_none_iff, follows.name_eq,
    follows.reads]

/--
Among suitable values a record is built unless a required field is absent.
-/
theorem exists_build_iff
    {missing : String → Mismatch}
    {assigned : Json.Members}
    (suited : form.Suited assigned) :
    (∃ record, form.build missing assigned = .ok record) ↔
      ∀ rule ∈ grammar.rules, rule.isRequired = true →
        ∃ value, (rule.name, value) ∈ assigned := by
  rw [consists.suited_iff obeys] at suited
  rw [← forall_iff_of_forall₂ obeys fun slot rule isRule follows =>
    follows.exists_get_iff missing (suited rule isRule)]
  constructor
  · rintro ⟨record, built⟩ slot isSlot
    exact ⟨_, consists.build_eq_ok_iff.mp built slot isSlot⟩
  · exact consists.exists_build

/-- A record is read exactly from the values of its grammar. -/
theorem exists_ofJson_iff
    {value : Json} :
    (∃ record : α, Wire.ofJson value = .ok record) ↔ grammar.Accepts value := by
  simp only [consists.ofJson_eq, read_eq_ok_iff consists.distinct,
    Grammar.accepts_iff, consists.fieldNames_eq obeys]
  rw [exists_comm]
  refine exists_congr fun members => ?_
  rw [exists_and_left, exists_and_left]
  refine and_congr_right fun _ => ?_
  constructor
  · rintro ⟨suited, built⟩ rule isRule
    exact ⟨(consists.exists_build_iff obeys suited).mp built rule isRule,
      (consists.suited_iff obeys).mp suited rule isRule⟩
  · intro fits
    have suited : form.Suited members :=
      (consists.suited_iff obeys).mpr fun rule isRule => (fits rule isRule).2
    exact ⟨suited,
      (consists.exists_build_iff obeys suited).mpr fun rule isRule =>
        (fits rule isRule).1⟩

end RecordForm.Consists

end WorkflowQueue
