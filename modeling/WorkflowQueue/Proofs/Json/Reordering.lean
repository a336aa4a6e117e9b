import WorkflowQueue.Proofs.Json.Spelling
import WorkflowQueue.Proofs.Json.Settling

namespace WorkflowQueue.Json

/-!
# Members in another order

The members of an object that has no name twice may stand in any order, in every
object of a value. `Reordered` relates two values that differ in nothing else,
and the texts of such values are read as the same value.
-/

/-- The same value with the members of any of its objects in another order. -/
inductive Reordered :
    Json →
    Json →
    Prop where
  | same (value : Json) : Reordered value value
  | array
      {elements others : List Json}
      (inside : List.Forall₂ Reordered elements others) :
      Reordered (.array elements) (.array others)
  | object
      {members others : Members}
      (distinct : (members.map Prod.fst).Nodup)
      (permuted : (members.map Prod.fst).Perm (others.map Prod.fst))
      (inside : ∀ name value other, (name, value) ∈ members →
        (name, other) ∈ others → Reordered value other) :
      Reordered (.object members) (.object others)

/-- Where names are distinct, the last value of a name is its only one. -/
theorem Members.last?_eq_some_iff_mem
    {members : Members}
    (distinct : (members.map Prod.fst).Nodup)
    {name : String}
    {value : Json} :
    members.last? name = some value ↔ (name, value) ∈ members := by
  have reversed : (members.reverse.map Prod.fst).Nodup := by
    rw [List.map_reverse]
    exact List.nodup_reverse.mpr distinct
  rw [last?, lookup_eq_some_iff_mem reversed, List.mem_reverse]

/-- Members of permuted names have a name together. -/
theorem exists_mem_of_permuted
    {members others : Members}
    (permuted : (members.map Prod.fst).Perm (others.map Prod.fst))
    {name : String}
    {value : Json}
    (isMember : (name, value) ∈ members) :
    ∃ other, (name, other) ∈ others := by
  have isName : name ∈ others.map Prod.fst :=
    permuted.mem_iff.mp (List.mem_map.mpr ⟨(name, value), isMember, rfl⟩)
  obtain ⟨⟨_, other⟩, isOther, rfl⟩ := List.mem_map.mp isName
  exact ⟨other, isOther⟩

/-- The order of members leaves no trace. -/
theorem Reordered.ordered_eq
    {value other : Json}
    (reordered : Reordered value other) :
    value.ordered = other.ordered := by
  induction value using Json.induction generalizing other with
  | null | bool | integer | float | string =>
      cases reordered
      rfl
  | array elements inductionHypothesis =>
      cases reordered with
      | same => rfl
      | @array _ others inside =>
          rw [ordered_array, ordered_array]
          congr 1
          induction inside with
          | nil => rfl
          | cons first _ rest =>
              rw [List.forall_mem_cons] at inductionHypothesis
              rw [List.map_cons, List.map_cons, inductionHypothesis.1 first,
                rest inductionHypothesis.2]
  | object members inductionHypothesis =>
      cases reordered with
      | same => rfl
      | @object _ others distinct permuted inside =>
          have increasing (stored : Members) :
              (Members.insertAll [] (stored.map orderedMember)).Increasing :=
            Members.Increasing.insertAll List.Pairwise.nil _
          have last (written : Members) (name : String) :
              (Members.insertAll [] (written.map orderedMember)).lookup name =
                (written.last? name).map ordered := by
            rw [Members.lookup_insertAll]
            exact Members.last?_map ordered written name
          have othersDistinct : (others.map Prod.fst).Nodup :=
            permuted.nodup_iff.mp distinct
          rw [ordered_object, ordered_object]
          congr 1
          refine (increasing members).ext (increasing others) fun name => ?_
          rw [last, last]
          cases isLast : members.last? name with
          | none =>
              cases isOther : others.last? name with
              | none => rfl
              | some other =>
                  obtain ⟨value, isMember⟩ :=
                    exists_mem_of_permuted permuted.symm
                      ((Members.last?_eq_some_iff_mem othersDistinct).mp
                        isOther)
                  rw [(Members.last?_eq_some_iff_mem distinct).mpr isMember]
                    at isLast
                  cases isLast
          | some value =>
              have isMember :=
                (Members.last?_eq_some_iff_mem distinct).mp isLast
              obtain ⟨other, isOther⟩ :=
                exists_mem_of_permuted permuted isMember
              rw [(Members.last?_eq_some_iff_mem othersDistinct).mpr isOther,
                Option.map_some,
                Option.map_some, inductionHypothesis (name, value) isMember
                  (inside name value other isMember isOther)]

/-- Another order makes nothing deeper. -/
theorem Reordered.depth_le
    {value other : Json}
    (reordered : Reordered value other)
    {bound : Nat}
    (nested : value.depth ≤ bound) :
    other.depth ≤ bound := by
  induction value using Json.induction generalizing other bound with
  | null | bool | integer | float | string =>
      cases reordered
      exact nested
  | array elements inductionHypothesis =>
      cases reordered with
      | same => exact nested
      | @array _ others inside =>
          obtain ⟨inner, rfl⟩ : ∃ inner, bound = inner + 1 :=
            Nat.exists_eq_add_of_le' (Nat.le_trans (Nat.le_add_left 1 _) nested)
          rw [depth_array_le_succ_iff] at nested ⊢
          induction inside with
          | nil => exact List.forall_mem_nil _
          | cons first _ rest =>
              rw [List.forall_mem_cons] at inductionHypothesis nested ⊢
              exact ⟨inductionHypothesis.1 first nested.1,
                rest inductionHypothesis.2 nested.2⟩
  | object members inductionHypothesis =>
      cases reordered with
      | same => exact nested
      | @object _ others distinct permuted inside =>
          obtain ⟨inner, rfl⟩ : ∃ inner, bound = inner + 1 :=
            Nat.exists_eq_add_of_le' (Nat.le_trans (Nat.le_add_left 1 _) nested)
          rw [depth_object_le_succ_iff] at nested ⊢
          rintro ⟨name, other⟩ isOther
          obtain ⟨value, isMember⟩ :=
            exists_mem_of_permuted permuted.symm isOther
          exact inductionHypothesis (name, value) isMember
            (inside name value other isMember isOther)
              (nested (name, value) isMember)

/-- Texts of reordered values are read as the same value. -/
theorem Reordered.parse_eq
    {value other : Json}
    (reordered : Reordered value other)
    {body twin : String}
    (isText : IsTextOf value body)
    (isTwin : IsTextOf other twin)
    (nested : value.depth ≤ nestingLimit) :
    Json.parse twin = Json.parse body := by
  rw [isTwin.parse (reordered.depth_le nested), isText.parse nested,
    reordered.ordered_eq]

end WorkflowQueue.Json
