import WorkflowQueue.Json.Value

namespace WorkflowQueue

/-!
# The shape of values

Three things about a value decide what becomes of it on the way through its
text: how deep its containers are nested, whether it holds a floating-point
number, and whether its members stand in the order of their names. `ordered` is
the value that is stored when the text of a value is read: the same value with
its members in that order. A value that is `Ordered` already stays what it is.
-/

/-! ## Tables -/

/-- What is found is in the table. -/
theorem mem_of_lookup
    {entries : List (String × α)}
    {name : String}
    {content : α}
    (found : entries.lookup name = some content) :
    (name, content) ∈ entries := by
  obtain ⟨earlier, later, rfl, -⟩ := List.lookup_eq_some_iff.mp found
  simp

/-- In a table whose names are distinct a name stands for its one entry. -/
theorem lookup_eq_some_iff_mem
    {entries : List (String × α)}
    (distinct : (entries.map Prod.fst).Nodup)
    {name : String}
    {content : α} :
    entries.lookup name = some content ↔ (name, content) ∈ entries := by
  induction entries with
  | nil =>
      simp
  | cons entry rest inductionHypothesis =>
      obtain ⟨other, kept⟩ := entry
      rw [List.map_cons, List.nodup_cons] at distinct
      by_cases isName : name = other
      · subst isName
        have fresh : (name, content) ∉ rest := fun member =>
          distinct.1 (List.mem_map.mpr ⟨(name, content), member, rfl⟩)
        simp [fresh, eq_comm]
      · have different : (name == other) = false :=
          beq_eq_false_iff_ne.mpr isName
        simp [List.lookup_cons, different,
          inductionHypothesis distinct.2, isName]

namespace Json

/-! ## Values -/

/--
Induction over values, in which a container's parts are its elements or its
members' values.
-/
@[elab_as_elim]
theorem induction
    {motive : Json → Prop}
    (null : motive .null)
    (bool : ∀ value, motive (.bool value))
    (integer : ∀ value, motive (.integer value))
    (float : ∀ value, motive (.float value))
    (string : ∀ value, motive (.string value))
    (array : ∀ elements, (∀ element ∈ elements, motive element) →
      motive (.array elements))
    (object : ∀ members : Members, (∀ member ∈ members, motive member.2) →
      motive (.object members)) :
    (value : Json) → motive value
  | .null => null
  | .bool value => bool value
  | .integer value => integer value
  | .float value => float value
  | .string value => string value
  | .array elements =>
      array elements fun element member =>
        have _ : sizeOf element < sizeOf elements :=
          List.sizeOf_lt_of_mem member
        induction null bool integer float string array object element
  | .object members =>
      object members fun (name, value) member =>
        have _ : sizeOf (name, value) < sizeOf members :=
          List.sizeOf_lt_of_mem member
        induction null bool integer float string array object value
termination_by value => sizeOf value
decreasing_by
  all_goals simp_all
  all_goals omega

/-! ## Nesting -/

mutual

/-- How many containers stand inside one another. -/
def depth :
    Json →
    Nat
  | .array elements => depthOfElements elements + 1
  | .object members => depthOfMembers members + 1
  | _ => 0

/-- The greatest depth of an element. -/
def depthOfElements :
    List Json →
    Nat
  | [] => 0
  | element :: rest => max (depth element) (depthOfElements rest)

/-- The greatest depth of a member's value. -/
def depthOfMembers :
    List (String × Json) →
    Nat
  | [] => 0
  | (_, value) :: rest => max (depth value) (depthOfMembers rest)

end

theorem depthOfElements_le_iff
    {elements : List Json}
    {bound : Nat} :
    depthOfElements elements ≤ bound ↔
      ∀ element ∈ elements, element.depth ≤ bound := by
  induction elements with
  | nil =>
      simp [depthOfElements]
  | cons element rest inductionHypothesis =>
      rw [depthOfElements, Nat.max_le, inductionHypothesis,
        List.forall_mem_cons]

theorem depthOfMembers_le_iff
    {members : Members}
    {bound : Nat} :
    depthOfMembers members ≤ bound ↔
      ∀ member ∈ members, member.2.depth ≤ bound := by
  induction members with
  | nil =>
      simp [depthOfMembers]
  | cons member rest inductionHypothesis =>
      rw [depthOfMembers, Nat.max_le, inductionHypothesis, List.forall_mem_cons]

@[simp]
theorem depth_null :
    null.depth = 0 := by
  simp [depth]

@[simp]
theorem depth_string
    (text : String) :
    (string text).depth = 0 := by
  simp [depth]

/-- Elements are nested one level less deep than their array. -/
theorem depth_array_le_succ_iff
    {elements : List Json}
    {bound : Nat} :
    (array elements).depth ≤ bound + 1 ↔
      ∀ element ∈ elements, element.depth ≤ bound := by
  rw [depth, Nat.succ_le_succ_iff]
  exact depthOfElements_le_iff

/-- Members' values are nested one level less deep than their object. -/
theorem depth_object_le_succ_iff
    {members : Members}
    {bound : Nat} :
    (object members).depth ≤ bound + 1 ↔
      ∀ member ∈ members, member.2.depth ≤ bound := by
  rw [depth, Nat.succ_le_succ_iff]
  exact depthOfMembers_le_iff

/-- An array is one level deeper than its deepest element. -/
theorem exists_depth_array
    (elements : List Json) :
    ∃ inner, (array elements).depth = inner + 1 ∧
      ∀ element ∈ elements, element.depth ≤ inner :=
  ⟨depthOfElements elements, by rw [depth],
    depthOfElements_le_iff.mp (Nat.le_refl _)⟩

/-- An object is one level deeper than its deepest value. -/
theorem exists_depth_object
    (members : Members) :
    ∃ inner, (object members).depth = inner + 1 ∧
      ∀ member ∈ members, member.2.depth ≤ inner :=
  ⟨depthOfMembers members, by rw [depth],
    depthOfMembers_le_iff.mp (Nat.le_refl _)⟩

/-! ## Floating-point numbers -/

mutual

/-- Whether a value holds no floating-point number anywhere. -/
def isFloatFree :
    Json →
    Bool
  | .float _ => false
  | .array elements => areFloatFree elements
  | .object members => membersAreFloatFree members
  | _ => true

/-- Whether no element holds a floating-point number. -/
def areFloatFree :
    List Json →
    Bool
  | [] => true
  | element :: rest => isFloatFree element && areFloatFree rest

/-- Whether no member's value holds a floating-point number. -/
def membersAreFloatFree :
    List (String × Json) →
    Bool
  | [] => true
  | (_, value) :: rest => isFloatFree value && membersAreFloatFree rest

end

theorem isFloatFree_array_iff
    {elements : List Json} :
    (array elements).isFloatFree = true ↔
      ∀ element ∈ elements, element.isFloatFree = true := by
  rw [isFloatFree]
  induction elements with
  | nil =>
      simp [areFloatFree]
  | cons element rest inductionHypothesis =>
      simp [areFloatFree, inductionHypothesis]

theorem isFloatFree_object_iff
    {members : Members} :
    (object members).isFloatFree = true ↔
      ∀ member ∈ members, member.2.isFloatFree = true := by
  rw [isFloatFree]
  induction members with
  | nil =>
      simp [membersAreFloatFree]
  | cons member rest inductionHypothesis =>
      simp [membersAreFloatFree, inductionHypothesis]

/-! ## Members in order -/

namespace Members

/-- Members whose names increase strictly. -/
def Increasing
    (members : Members) :
    Prop :=
  members.Pairwise fun first second => first.1 < second.1

/-- Members that are stored one after another. -/
def insertAll
    (members : Members)
    (more : List (String × Json)) :
    Members :=
  more.foldl (fun members member => members.insert member.1 member.2) members

/-- A member after an insertion is the new one or was there before. -/
theorem mem_of_mem_insert
    {name : String}
    {value : Json}
    {members : Members}
    {member : String × Json}
    (isMember : member ∈ members.insert name value) :
    member = (name, value) ∨ member ∈ members := by
  induction members with
  | nil =>
      exact Or.inl (List.mem_singleton.mp isMember)
  | cons other rest inductionHypothesis =>
      obtain ⟨otherName, kept⟩ := other
      rw [insert] at isMember
      split at isMember
      · exact List.mem_cons.mp isMember
      split at isMember
      · rcases List.mem_cons.mp isMember with isNew | inRest
        · exact Or.inl isNew
        · exact Or.inr (List.mem_cons_of_mem _ inRest)
      · rcases List.mem_cons.mp isMember with isOther | inRest
        · exact Or.inr (isOther ▸ List.mem_cons_self)
        · exact (inductionHypothesis inRest).imp_right (List.mem_cons_of_mem _)

theorem mem_of_mem_insertAll
    {members : Members}
    {more : List (String × Json)}
    {member : String × Json}
    (isMember : member ∈ members.insertAll more) :
    member ∈ more ∨ member ∈ members := by
  induction more generalizing members with
  | nil =>
      exact Or.inr isMember
  | cons first rest inductionHypothesis =>
      rcases inductionHypothesis isMember with inRest | inserted
      · exact Or.inl (List.mem_cons_of_mem first inRest)
      · rcases mem_of_mem_insert inserted with isFirst | before
        · exact Or.inl (isFirst ▸ List.mem_cons_self)
        · exact Or.inr before

/-- The first member of a name is the one that is found. -/
theorem lookup_cons
    (name : String)
    (value : Json)
    (rest : Members)
    (wanted : String) :
    List.lookup wanted ((name, value) :: rest) =
      if wanted = name then some value else rest.lookup wanted := by
  by_cases isName : wanted = name
  · simp [isName]
  · have different : (wanted == name) = false := beq_eq_false_iff_ne.mpr isName
    simp [List.lookup_cons, different, isName]

/-- An insertion is found under its name and leaves all other names alone. -/
theorem lookup_insert
    (name : String)
    (value : Json)
    (members : Members)
    (wanted : String) :
    (members.insert name value).lookup wanted =
      if wanted = name then some value else members.lookup wanted := by
  induction members with
  | nil =>
      exact lookup_cons name value [] wanted
  | cons other rest inductionHypothesis =>
      obtain ⟨otherName, kept⟩ := other
      rw [insert]
      split
      · exact lookup_cons name value _ wanted
      split
      · next same =>
          subst same
          by_cases isName : wanted = name <;> simp [lookup_cons, isName]
      · next different =>
          rw [lookup_cons, lookup_cons, inductionHypothesis]
          by_cases isOther : wanted = otherName
          · have notName : wanted ≠ name :=
              fun isName => different (isName ▸ isOther)
            rw [if_pos isOther, if_pos isOther, if_neg notName]
          · rw [if_neg isOther, if_neg isOther]

/-- Names that are not stored again keep their values. -/
theorem lookup_insertAll_of_notMem
    {members : Members}
    {more : List (String × Json)}
    {name : String}
    (notStored : ∀ member ∈ more, member.1 ≠ name) :
    (members.insertAll more).lookup name = members.lookup name := by
  induction more generalizing members with
  | nil =>
      rfl
  | cons first rest inductionHypothesis =>
      rw [List.forall_mem_cons] at notStored
      calc
        (members.insertAll (first :: rest)).lookup name
        _ = (members.insert first.1 first.2).lookup name :=
          inductionHypothesis notStored.2
        _ = members.lookup name := by
          rw [lookup_insert, if_neg notStored.1.symm]

/-- Members that are stored under distinct names are all found. -/
theorem lookup_insertAll_of_mem
    {members : Members}
    {more : List (String × Json)}
    (distinct : (more.map Prod.fst).Nodup)
    {name : String}
    {value : Json}
    (isStored : (name, value) ∈ more) :
    (members.insertAll more).lookup name = some value := by
  induction more generalizing members with
  | nil =>
      cases isStored
  | cons first rest inductionHypothesis =>
      rw [List.map_cons, List.nodup_cons] at distinct
      rcases List.mem_cons.mp isStored with isFirst | inRest
      · subst isFirst
        have notAgain :
            ∀ member ∈ rest, member.1 ≠ name := fun member isMember same =>
          distinct.1 (List.mem_map.mpr ⟨member, isMember, same⟩)
        calc
          (members.insertAll ((name, value) :: rest)).lookup name
          _ = (members.insert name value).lookup name :=
            lookup_insertAll_of_notMem notAgain
          _ = some value := by rw [lookup_insert, if_pos rfl]
      · exact inductionHypothesis distinct.2 inRest

/-- Insertions keep the order of names. -/
theorem Increasing.insert
    {members : Members}
    (increasing : members.Increasing)
    (name : String)
    (value : Json) :
    (members.insert name value).Increasing := by
  induction members with
  | nil =>
      exact List.pairwise_singleton _ _
  | cons other rest inductionHypothesis =>
      obtain ⟨otherName, kept⟩ := other
      obtain ⟨first, later⟩ := List.pairwise_cons.mp increasing
      rw [Members.insert]
      split
      · next before =>
          refine List.pairwise_cons.mpr ⟨?_, increasing⟩
          intro member isMember
          rcases List.mem_cons.mp isMember with isOther | inRest
          · exact isOther ▸ before
          · exact String.lt_trans before (first member inRest)
      split
      · next same =>
          subst same
          exact List.pairwise_cons.mpr ⟨first, later⟩
      · next notBefore different =>
          have after : otherName < name := by
            rcases Std.lt_trichotomy name otherName with before | same | after
            · exact (notBefore before).elim
            · exact (different same).elim
            · exact after
          refine List.pairwise_cons.mpr ⟨?_, inductionHypothesis later⟩
          intro member isMember
          rcases mem_of_mem_insert isMember with isNew | inRest
          · exact isNew ▸ after
          · exact first member inRest

/-- A member whose name comes after all others is stored at the end. -/
theorem insert_of_last
    {name : String}
    {value : Json}
    {members : Members}
    (last : ∀ member ∈ members, member.1 < name) :
    members.insert name value = members ++ [(name, value)] := by
  induction members with
  | nil =>
      rfl
  | cons other rest inductionHypothesis =>
      obtain ⟨otherName, kept⟩ := other
      have before : otherName < name :=
        last (otherName, kept) List.mem_cons_self
      have notAfter : ¬ name < otherName := String.lt_asymm before
      have different : name ≠ otherName := by
        rintro rfl
        exact String.lt_irrefl name before
      rw [insert, if_neg notAfter, if_neg different,
        inductionHypothesis fun member inRest =>
          last member (List.mem_cons_of_mem _ inRest)]
      rfl

/-- Members in order are stored as they are. -/
theorem insertAll_of_increasing
    {members : Members}
    {more : List (String × Json)}
    (increasing : Increasing (members ++ more)) :
    members.insertAll more = members ++ more := by
  induction more generalizing members with
  | nil =>
      exact (List.append_nil members).symm
  | cons first rest inductionHypothesis =>
      obtain ⟨name, value⟩ := first
      have last : ∀ member ∈ members, member.1 < name := fun member isMember =>
        (List.pairwise_append.mp increasing).2.2 member isMember (name, value)
          List.mem_cons_self
      have shape : members ++ (name, value) :: rest =
          members ++ [(name, value)] ++ rest := by
        simp
      rw [shape] at increasing ⊢
      rw [← inductionHypothesis increasing, ← insert_of_last last]
      rfl

end Members

mutual

/--
The value with the members of all its objects in order, the last of several of
one name.
-/
def ordered :
    Json →
    Json
  | .array elements => .array (orderedElements elements)
  | .object members => .object (orderedMembers [] members)
  | value => value

/-- The elements with their members in order. -/
def orderedElements :
    List Json →
    List Json
  | [] => []
  | element :: rest => ordered element :: orderedElements rest

/-- Members stored in order after those that are stored already. -/
def orderedMembers
    (stored : Members) :
    List (String × Json) →
    Members
  | [] => stored
  | (name, value) :: rest =>
      orderedMembers (stored.insert name (ordered value)) rest

end

@[simp]
theorem ordered_null :
    null.ordered = .null := by
  simp [ordered]

@[simp]
theorem ordered_string
    (text : String) :
    (string text).ordered = .string text := by
  simp [ordered]

/-- A member with its value in order. -/
def orderedMember
    (member : String × Json) :
    String × Json :=
  (member.1, member.2.ordered)

theorem ordered_array
    (elements : List Json) :
    (array elements).ordered = .array (elements.map ordered) := by
  rw [ordered]
  congr 1
  induction elements with
  | nil =>
      rfl
  | cons element rest inductionHypothesis =>
      rw [orderedElements, inductionHypothesis, List.map_cons]

theorem orderedMembers_eq
    (stored members : Members) :
    orderedMembers stored members =
      stored.insertAll (members.map orderedMember) := by
  induction members generalizing stored with
  | nil =>
      rfl
  | cons member rest inductionHypothesis =>
      rw [orderedMembers, inductionHypothesis]
      rfl

theorem ordered_object
    (members : Members) :
    (object members).ordered =
      .object (Members.insertAll [] (members.map orderedMember)) := by
  rw [ordered, orderedMembers_eq]

/-- A value in which the members of every object are in order. -/
inductive Ordered :
    Json →
    Prop where
  | null : Ordered .null
  | bool (value : Bool) : Ordered (.bool value)
  | integer (value : WideInteger) : Ordered (.integer value)
  | float (value : Binary64) : Ordered (.float value)
  | string (value : String) : Ordered (.string value)
  | array
      {elements : List Json}
      (inside : ∀ element ∈ elements, Ordered element) :
      Ordered (.array elements)
  | object
      {members : Members}
      (increasing : members.Increasing)
      (inside : ∀ member ∈ members, Ordered member.2) :
      Ordered (.object members)

/-- A value in order stays what it is. -/
theorem Ordered.ordered_eq
    {value : Json}
    (isOrdered : value.Ordered) :
    value.ordered = value := by
  induction isOrdered with
  | null => rfl
  | bool value => rfl
  | integer value => rfl
  | float value => rfl
  | string value => rfl
  | array inside inductionHypothesis =>
      rw [ordered_array, List.map_congr_left inductionHypothesis, List.map_id']
  | @object members increasing inside inductionHypothesis =>
      have same : members.map orderedMember = members := by
        refine (List.map_congr_left ?_).trans (List.map_id' members)
        intro member isMember
        exact congrArg (member.1, ·) (inductionHypothesis member isMember)
      rw [ordered_object, same,
        @Members.insertAll_of_increasing [] members increasing, List.nil_append]

end Json

end WorkflowQueue
