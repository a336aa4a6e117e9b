import WorkflowQueue.Proofs.Json.Written

namespace WorkflowQueue.Json

/-!
# Objects of strings

An object of strings is read back from its text member by member, whatever the
strings hold. Therefore no two of them have the same text.
-/

/-- The object whose members are strings. -/
def ofTexts
    (members : List (String × String)) :
    Json :=
  .object (members.map fun (name, text) => (name, .string text))

/-- Members in the order in which an object stores them. -/
def TextsIncrease
    (members : List (String × String)) :
    Prop :=
  (members.map Prod.fst).Pairwise (· < ·)

variable
  {members others : List (String × String)}

theorem isFloatFree_ofTexts
    (members : List (String × String)) :
    (ofTexts members).isFloatFree = true :=
  isFloatFree_object_iff.mpr (List.forall_mem_map.mpr fun _ _ => rfl)

/-- Nothing is nested in a string. -/
theorem depth_ofTexts_le
    (members : List (String × String)) :
    (ofTexts members).depth ≤ 1 :=
  depth_object_le_succ_iff.mpr <| List.forall_mem_map.mpr fun _ _ => by
    rw [depth_string]

theorem ofTexts_ordered
    (increasing : TextsIncrease members) :
    (ofTexts members).Ordered :=
  .object (List.pairwise_map.mpr (List.pairwise_map.mp increasing))
    (List.forall_mem_map.mpr fun _ _ => .string _)

/--
An object of strings is read back from its text, whatever the strings hold.
-/
theorem parse_compact_ofTexts
    (increasing : TextsIncrease members) :
    parse (ofTexts members).compact = .ok (ofTexts members) := by
  have nested : (ofTexts members).depth ≤ nestingLimit :=
    Nat.le_trans (depth_ofTexts_le members) (by decide)
  have isRead :=
    parse_write .compact (isFloatFree_ofTexts members) nested
      (List.forall_mem_nil _)
  rw [List.append_nil, (ofTexts_ordered increasing).ordered_eq] at isRead
  exact isRead

theorem ofTexts_injective :
    Function.Injective ofTexts := by
  intro members others same
  refine (List.map_inj_right ?_).mp (Json.object.inj same)
  rintro ⟨name, text⟩ ⟨otherName, otherText⟩ sameMember
  simpa using sameMember

/--
Objects of strings with one text have the same members, since the text is read
as both.
-/
theorem eq_of_compact_ofTexts
    (increasing : TextsIncrease members)
    (othersIncreasing : TextsIncrease others)
    (same : (ofTexts members).compact = (ofTexts others).compact) :
    members = others := by
  have isRead := parse_compact_ofTexts increasing
  rw [same, parse_compact_ofTexts othersIncreasing] at isRead
  exact ofTexts_injective (Except.ok.inj isRead.symm)

end WorkflowQueue.Json
