import Mathlib.Data.List.Forall2
import Mathlib.Data.List.Induction
import Mathlib.Data.List.Nodup
import Mathlib.Data.List.Perm.Basic
import WorkflowQueue.Proofs.Json.Shape

namespace WorkflowQueue.Json

/-!
# What a value settles to

The members of an object may be written in any order, and a name may occur
again, so that many values mean the same. `Settles` says which value a written
one stands for, member by member: the last value of each name, in the order of
the names, and so on inside. It says so without the insertions by which a reader
gets there; `settles_iff` joins the two.
-/

namespace Members

/-- The value of the last member of a name. -/
def last?
    (members : Members)
    (name : String) :
    Option Json :=
  members.reverse.lookup name

theorem mem_of_last?
    {members : Members}
    {name : String}
    {value : Json}
    (isLast : members.last? name = some value) :
    (name, value) ∈ members := by
  rw [← List.mem_reverse]
  exact mem_of_lookup isLast

/-- The last value of a name with what is made of values. -/
theorem last?_map
    (change : Json → Json)
    (members : Members)
    (name : String) :
    last? (members.map fun member => (member.1, change member.2)) name =
      (members.last? name).map change := by
  rw [last?, last?, ← List.map_reverse]
  induction members.reverse with
  | nil => rfl
  | cons member others inductionHypothesis =>
      obtain ⟨other, value⟩ := member
      rw [List.map_cons, lookup_cons, lookup_cons, inductionHypothesis]
      split <;> rfl

/-- Storing members one after another keeps the last of each name. -/
theorem lookup_insertAll
    (members : Members)
    (name : String) :
    (insertAll [] members).lookup name = members.last? name := by
  induction members using List.reverseRecOn with
  | nil => rfl
  | append_singleton earlier member inductionHypothesis =>
      have shape : insertAll [] (earlier ++ [member]) =
          (insertAll [] earlier).insert member.1 member.2 := by
        simp [insertAll, List.foldl_append]
      rw [shape, lookup_insert, inductionHypothesis, last?, last?,
        List.reverse_append, List.reverse_singleton, List.singleton_append]
      exact (lookup_cons member.1 member.2 _ name).symm

/-- Storing members one after another keeps their names in order. -/
theorem Increasing.insertAll
    {members : Members}
    (increasing : members.Increasing)
    (more : Members) :
    (members.insertAll more).Increasing := by
  induction more generalizing members with
  | nil => exact increasing
  | cons member more inductionHypothesis =>
      exact inductionHypothesis (increasing.insert member.1 member.2)

namespace Increasing

variable
  {members : Members}
  (increasing : members.Increasing)

include increasing

theorem distinct :
    (members.map Prod.fst).Nodup := by
  rw [List.Nodup, List.pairwise_map]
  refine increasing.imp ?_
  intro first second before same
  rw [same] at before
  exact String.lt_irrefl _ before

/-- Members in order are determined by what is found among them. -/
theorem ext
    {others : Members}
    (othersIncreasing : others.Increasing)
    (same : ∀ name, members.lookup name = others.lookup name) :
    members = others := by
  have sameMembers : ∀ member, member ∈ members ↔ member ∈ others := by
    rintro ⟨name, value⟩
    rw [← lookup_eq_some_iff_mem increasing.distinct,
      ← lookup_eq_some_iff_mem othersIncreasing.distinct, same]
  have permuted : members.Perm others :=
    (List.perm_ext_iff_of_nodup (List.Nodup.of_map Prod.fst increasing.distinct)
      (List.Nodup.of_map Prod.fst othersIncreasing.distinct)).mpr sameMembers
  refine permuted.eq_of_pairwise ?_ increasing othersIncreasing
  intro first second _ _ before after
  exact (String.lt_asymm before after).elim

end Increasing

end Members

/-- A value as it is written and the value that it stands for. -/
inductive Settles :
    Json →
    Json →
    Prop where
  | null : Settles .null .null
  | bool (value : Bool) : Settles (.bool value) (.bool value)
  | integer (value : WideInteger) : Settles (.integer value) (.integer value)
  | float (value : Binary64) : Settles (.float value) (.float value)
  | string (value : String) : Settles (.string value) (.string value)
  | array
      {elements settled : List Json}
      (inside : List.Forall₂ Settles elements settled) :
      Settles (.array elements) (.array settled)
  | object
      {members settled : Members}
      (increasing : settled.Increasing)
      (sameNames :
        ∀ name, (members.last? name).isSome = (settled.lookup name).isSome)
      (inside : ∀ name value stored,
        members.last? name = some value → settled.lookup name = some stored →
          Settles value stored) :
      Settles (.object members) (.object settled)

/-- What a value settles to is the value with its members in order. -/
theorem Settles.ordered_eq
    {value settled : Json}
    (settles : Settles value settled) :
    value.ordered = settled := by
  induction value using Json.induction generalizing settled with
  | null | bool | integer | float | string =>
      cases settles
      simp [ordered]
  | array elements inductionHypothesis =>
      cases settles with
      | @array _ settled inside =>
          rw [ordered_array]
          congr 1
          induction inside with
          | nil => rfl
          | cons first _ others =>
              rw [List.forall_mem_cons] at inductionHypothesis
              rw [List.map_cons, inductionHypothesis.1 first,
                others inductionHypothesis.2]
  | object members inductionHypothesis =>
      cases settles with
      | @object _ settled increasing sameNames inside =>
          have stored :
              (Members.insertAll [] (members.map orderedMember)).Increasing :=
            Members.Increasing.insertAll List.Pairwise.nil _
          have same (name) :
              (Members.insertAll [] (members.map orderedMember)).lookup name =
              settled.lookup name := by
            have sameName := sameNames name
            rw [Members.lookup_insertAll]
            refine (Members.last?_map ordered members name).trans ?_
            cases isLast : members.last? name with
            | none =>
                rw [isLast] at sameName
                have missing : settled.lookup name = none :=
                  Option.isNone_iff_eq_none.mp
                    (Option.isSome_eq_false_iff.mp sameName.symm)
                rw [missing, Option.map_none]
            | some value =>
                rw [isLast] at sameName
                obtain ⟨settledValue, found⟩ :=
                  Option.isSome_iff_exists.mp sameName.symm
                rw [found, Option.map_some]
                exact congrArg some
                  (inductionHypothesis (name, value) (Members.mem_of_last?
                    isLast) (inside name value settledValue isLast found))
          rw [ordered_object, stored.ext increasing same]

/-- Every value settles. -/
theorem settles_ordered
    (value : Json) :
    Settles value value.ordered := by
  induction value using Json.induction with
  | null => simpa using Settles.null
  | bool value => simpa [ordered] using Settles.bool value
  | integer value => simpa [ordered] using Settles.integer value
  | float value => simpa [ordered] using Settles.float value
  | string value => simpa using Settles.string value
  | array elements inductionHypothesis =>
      rw [ordered_array]
      refine .array ?_
      rw [List.forall₂_map_right_iff, List.forall₂_same]
      exact inductionHypothesis
  | object members inductionHypothesis =>
      have found (name : String) :
          (Members.insertAll [] (members.map orderedMember)).lookup name =
            (members.last? name).map ordered := by
        rw [Members.lookup_insertAll]
        exact Members.last?_map ordered members name
      rw [ordered_object]
      refine .object (Members.Increasing.insertAll List.Pairwise.nil _) ?_ ?_
      · intro name
        rw [found, Option.isSome_map]
      · intro name value stored isLast isStored
        rw [found, isLast, Option.map_some, Option.some.injEq] at isStored
        exact isStored ▸
          inductionHypothesis (name, value) (Members.mem_of_last? isLast)

/--
What a value settles to is the value with its members in order, and nothing
else.
-/
theorem settles_iff
    {value settled : Json} :
    Settles value settled ↔ value.ordered = settled := by
  constructor
  · exact Settles.ordered_eq
  · rintro rfl
    exact settles_ordered value

end WorkflowQueue.Json
