import WorkflowQueue.Proofs.Records.Carrying

namespace WorkflowQueue

/-!
# Wrapped bodies

What becomes of a body that is put into a wrapper. A body is a text of a value,
and the wrapped body is a text of the object that has this value as its only
member, so the two are related through the texts of values. One level of nesting
is used up by the wrapper. The levels are those of the text: a member that is
replaced by a later one of its name leaves no trace in the value, but it has
been read.
-/

/-- An object whose only member is a payload. -/
def Json.IsWrapper
    (value : Json) :
    Prop :=
  ∃ payload, value = .object [("data", payload)]

/-- A body in a wrapper. -/
def wrapped
    (body : String) :
    String :=
  "\x7b\"data\":" ++ body ++ "\x7d"

/--
A body with at most so many containers inside one another, replaced members
included.
-/
def NestsWithin
    (levels : Nat)
    (body : String) :
    Prop :=
  ∃ written, Json.IsTextOf written body ∧ written.depth ≤ levels

/-- A value read as it stands, with whatever wrapper it has. -/
def decodeValue
    [Wire α]
    (value : Json) :
    Except DecodeError α :=
  (Wire.ofJson value).mapError .badValue

/-! ## Values -/

theorem unwrapEnvelope_of_not_isWrapper
    {value : Json}
    (noWrapper : ¬ value.IsWrapper) :
    unwrapEnvelope value = value := by
  unfold unwrapEnvelope
  split
  case h_1 payload => exact (noWrapper ⟨payload, rfl⟩).elim
  case h_2 => rfl

/--
A body that is read is decoded as what is left of its value without one wrapper.
-/
theorem decode_of_parse
    [Wire α]
    {body : String}
    {value : Json}
    (isParsed : Json.parse body = .ok value) :
    (decode body : Except DecodeError α) =
      decodeValue (unwrapEnvelope value) := by
  simp only [decode, decodeValue, isParsed]
  cases (Wire.ofJson (unwrapEnvelope value) : Except Mismatch α) <;> rfl

theorem decodeValue_eq_ok_iff
    [Wire α]
    {value : Json}
    {content : α} :
    decodeValue value = .ok content ↔ Wire.ofJson value = .ok content := by
  unfold decodeValue
  cases (Wire.ofJson value : Except Mismatch α) <;> simp [Except.mapError]

/--
No record is read from a wrapper, since all records need a member that it has
not.
-/
theorem Json.IsWrapper.ofJson_ne_ok
    {value : Json}
    (isWrapper : value.IsWrapper)
    (kind : RecordKind)
    (record : kind.Record) :
    Wire.ofJson value ≠ .ok record := by
  obtain ⟨payload, rfl⟩ := isWrapper
  intro isRead
  have bare : payload = .object [("data", payload)] :=
    kind.unwrapEnvelope_of_ofJson isRead
  exact absurd (congrArg sizeOf bare) (by simp; omega)

theorem Json.IsWrapper.ofJson_list_ne_ok
    [Wire α]
    {value : Json}
    (isWrapper : value.IsWrapper)
    (contents : List α) :
    Wire.ofJson value ≠ .ok contents := by
  obtain ⟨payload, rfl⟩ := isWrapper
  intro isRead
  obtain ⟨elements, isArray, -⟩ := readList_eq_ok_iff.mp isRead
  cases isArray

/-! ## Members -/

namespace Json

/-- An object that is written with another name is no wrapper. -/
theorem not_isWrapper_of_other
    {members : Members}
    (hasOther : ∃ member ∈ members, member.1 ≠ "data") :
    ¬ (object members).ordered.IsWrapper := by
  rintro ⟨payload, isWrapper⟩
  obtain ⟨member, isMember, isOther⟩ := hasOther
  have settles : Settles (.object members) (.object [("data", payload)]) :=
    settles_iff.mpr isWrapper
  cases settles with
  | object _ sameNames _ =>
      have isWritten : (members.last? member.1).isSome = true :=
        List.lookup_isSome_iff.mpr ⟨member, List.mem_reverse.mpr isMember,
          beq_self_eq_true _⟩
      rw [sameNames, Members.lookup_cons, if_neg isOther] at isWritten
      cases isWritten

/-- An object that is written with a single name has the last value of it. -/
theorem ordered_of_only
    {only : String}
    {earlier : Members}
    {last : String × Json}
    (isOnly : ∀ member ∈ earlier ++ [last], member.1 = only) :
    (object (earlier ++ [last])).ordered =
      .object [(only, last.2.ordered)] := by
  obtain ⟨earlierOnly, lastOnly⟩ := List.forall_mem_append.mp isOnly
  rw [List.forall_mem_singleton] at lastOnly
  have isLast (name : String) :
      Members.last? (earlier ++ [last]) name = if name = only then
        some last.2 else none := by
    rw [Members.last?, List.reverse_append, List.reverse_singleton,
      List.singleton_append]
    refine (Members.lookup_cons last.1 last.2 _ name).trans ?_
    rw [lastOnly]
    split
    · rfl
    · next isOther =>
        refine List.lookup_eq_none_iff.mpr fun member isMember => ?_
        rw [earlierOnly member (List.mem_reverse.mp isMember)]
        exact bne_iff_ne.mpr isOther
  rw [← settles_iff]
  refine .object (List.pairwise_singleton _ _) ?_ ?_
  · intro name
    rw [isLast, Members.lookup_cons]
    split <;> rfl
  · intro name value stored written isStored
    rw [isLast] at written
    rw [Members.lookup_cons] at isStored
    split at written
    · next isName =>
        rw [if_pos isName] at isStored
        cases written
        cases isStored
        exact settles_ordered _
    · cases written

end Json

/-! ## Texts -/

namespace Json

/-- A wrapped body is a text of a wrapper. -/
theorem IsTextOf.wrapped
    {value : Json}
    {body : String}
    (isText : IsTextOf value body) :
    IsTextOf (.object [("data", value)]) (wrapped body) := by
  obtain ⟨before, after, text, spells, shape⟩ := isText
  let named : NamedPiece := {
    before := .none
    name := "data"
    spelling := "data".toList
    spelled := spellsText_escaped "data".toList
    between := .none
    piece := {
      before := before
      value := value
      text := text
      after := after
    }
  }
  refine ⟨.none, .none, _,
    .object [named] .none (List.forall_mem_singleton.mpr spells), ?_⟩
  simp [WorkflowQueue.wrapped, shape, joined, NamedPiece.written,
    NamedPiece.quoted, Piece.written, named, Blanks.none]

end Json

section Bodies

variable
  {body : String}
  {value : Json}

/-- A wrapper takes up one level of nesting. -/
theorem parse_wrapped
    (nests : NestsWithin 126 body)
    (isParsed : Json.parse body = .ok value) :
    Json.parse (wrapped body) = .ok (.object [("data", value)]) := by
  obtain ⟨written, isText, depth_le⟩ := nests
  have isOrdered : written.ordered = value := by
    have alone :=
      isText.parse (Nat.le_trans depth_le (by decide : 126 ≤ Json.nestingLimit))
    exact Except.ok.inj (alone.symm.trans isParsed)
  have nested : (Json.object [("data", written)]).depth ≤ Json.nestingLimit :=
    Json.depth_object_le_succ_iff.mpr (List.forall_mem_singleton.mpr depth_le)
  have only :=
    @Json.ordered_of_only "data" [] ("data", written)
      (List.forall_mem_singleton.mpr rfl)
  rw [isText.wrapped.parse nested, ← isOrdered]
  exact congrArg Except.ok only

/--
A wrapped body is decoded as its value, from which no further wrapper is taken.
-/
theorem decode_wrapped_eq
    [Wire α]
    (nests : NestsWithin 126 body)
    (isParsed : Json.parse body = .ok value) :
    (decode (wrapped body) : Except DecodeError α) = decodeValue value :=
  decode_of_parse (parse_wrapped nests isParsed)

theorem decode_wrapped_of_not_isWrapper
    [Wire α]
    (nests : NestsWithin 126 body)
    (isParsed : Json.parse body = .ok value)
    (noWrapper : ¬ value.IsWrapper) :
    (decode (wrapped body) : Except DecodeError α) = decode body := by
  rw [decode_wrapped_eq nests isParsed, decode_of_parse isParsed,
    unwrapEnvelope_of_not_isWrapper noWrapper]

/--
Nothing is found under two wrappers by a reader that finds nothing in a wrapper.
-/
theorem decode_wrapped_ne_ok
    [Wire α]
    {content : α}
    (nests : NestsWithin 126 body)
    (isParsed : Json.parse body = .ok value)
    (notRead : Wire.ofJson value ≠ .ok content) :
    decode (wrapped body) ≠ .ok content := by
  rwa [decode_wrapped_eq nests isParsed, ne_eq, decodeValue_eq_ok_iff]

theorem decode_of_other
    [Wire α]
    {members : Json.Members}
    (isText : Json.IsTextOf (.object members) body)
    (nested : (Json.object members).depth ≤ Json.nestingLimit)
    (hasOther : ∃ member ∈ members, member.1 ≠ "data") :
    (decode body : Except DecodeError α) =
      decodeValue (Json.object members).ordered := by
  rw [decode_of_parse (isText.parse nested),
    unwrapEnvelope_of_not_isWrapper (Json.not_isWrapper_of_other hasOther)]

theorem decode_of_only_data
    [Wire α]
    {earlier : Json.Members}
    {last : String × Json}
    (isText : Json.IsTextOf (.object (earlier ++ [last])) body)
    (nested : (Json.object (earlier ++ [last])).depth ≤ Json.nestingLimit)
    (onlyData : ∀ member ∈ earlier ++ [last], member.1 = "data") :
    (decode body : Except DecodeError α) = decodeValue last.2.ordered := by
  rw [decode_of_parse (isText.parse nested), Json.ordered_of_only onlyData]
  rfl

/--
A wrapper changes nothing around a value that is no wrapper itself: the same
content is decoded, or the same mismatch found. Of two wrappers only the outer
one is taken off, so that neither a record nor a list is found in the inner one.
An object with another member is no wrapper, and one with a single member is a
wrapper of its last value, however often the member is repeated.
-/
theorem decode_wrapped
    (body : String) :
    (∀ value, NestsWithin 126 body → Json.parse body = .ok value →
      (¬ value.IsWrapper → ∀ (α : Type) [Wire α],
        (decode (wrapped body) : Except DecodeError α) = decode body) ∧
      (value.IsWrapper →
        (∀ (α : Type) [Wire α],
          (decode (wrapped body) : Except DecodeError α) = decodeValue value) ∧
        (∀ (kind : RecordKind) (record : kind.Record), decode (wrapped body) ≠
          .ok record) ∧
        ∀ (α : Type) [Wire α] (contents : List α), decode (wrapped body) ≠
          .ok contents)) ∧
    ∀ members, Json.IsTextOf (.object members) body →
      (Json.object members).depth ≤ Json.nestingLimit →
      ((∃ member ∈ members, member.1 ≠ "data") →
        ∀ (α : Type) [Wire α], (decode body : Except DecodeError α) =
          decodeValue (Json.object members).ordered) ∧
      ∀ earlier last, members = earlier ++ [last] →
          (∀ member ∈ members, member.1 = "data") →
        ∀ (α : Type) [Wire α],
          (decode body : Except DecodeError α) =
            decodeValue last.2.ordered := by
  refine ⟨fun value nests isParsed =>
    ⟨fun noWrapper α _ => ?_,
      fun isWrapper =>
        ⟨fun α _ => ?_, fun kind record => ?_, fun α _ contents => ?_⟩⟩,
          fun members isText nested => ⟨?_, ?_⟩⟩
  · exact decode_wrapped_of_not_isWrapper nests isParsed noWrapper
  · exact decode_wrapped_eq nests isParsed
  · exact decode_wrapped_ne_ok nests isParsed
      (isWrapper.ofJson_ne_ok kind record)
  · exact decode_wrapped_ne_ok nests isParsed
      (isWrapper.ofJson_list_ne_ok contents)
  · intro hasOther α _
    exact decode_of_other isText nested hasOther
  · rintro earlier last rfl onlyData α _
    exact decode_of_only_data isText nested onlyData

end Bodies

/--
Of two wrappers the outer one is taken off, and a list is found under a single
one. A list is not found beside another member, and it is found in the last of
two members.
-/
theorem decode_wrapped_list :
    (∀ playbooks : List Playbook, decode (wrapped (wrapped "[]")) ≠
        .ok playbooks) ∧
      (decode (wrapped "[]") : Except DecodeError (List Playbook)) =
        decode "[]" ∧
      (∀ playbooks : List Playbook,
        decode "\x7b\"data\":[],\"page\":null\x7d" ≠ .ok playbooks) ∧
      (decode "\x7b\"data\":null,\"data\":[]\x7d" :
        Except DecodeError (List Playbook)) = .ok [] := by
  have list : Json.IsTextOf (.array []) "[]" := Json.isTextOf_compact rfl
  have nestsList : NestsWithin 126 "[]" := ⟨_, list, by decide⟩
  have isList : Json.parse "[]" = .ok (.array []) := by
    simpa [Json.ordered_array] using list.parse (by decide)
  refine ⟨?nested, ?single, ?beside, ?repeated⟩
  case nested =>
    have nestsWrapper : NestsWithin 126 (wrapped "[]") :=
      ⟨_, list.wrapped, by decide⟩
    have isWrapper :
        Json.parse (wrapped "[]") = .ok (.object [("data", .array [])]) :=
      parse_wrapped nestsList isList
    have decoded := (decode_wrapped (wrapped "[]")).1 _ nestsWrapper isWrapper
    exact (decoded.2 ⟨_, rfl⟩).2.2 _
  case single =>
    refine ((decode_wrapped "[]").1 _ nestsList isList).1 ?_ _
    rintro ⟨payload, isObject⟩
    cases isObject
  case beside =>
    have isText :
        Json.IsTextOf (.object [("data", .array []), ("page", .null)])
          "\x7b\"data\":[],\"page\":null\x7d" := Json.isTextOf_compact rfl
    have decoded := (decode_wrapped _).2 _ isText (by decide)
    have hasOther :
        ∃ member ∈ [("data", Json.array []), ("page", Json.null)],
          member.1 ≠ "data" := ⟨_, .tail _ (.head _), by decide⟩
    rw [decoded.1 hasOther (List Playbook)]
    rintro playbooks ⟨⟩
  case repeated =>
    have isText :
        Json.IsTextOf (.object [("data", .null), ("data", .array [])])
          "\x7b\"data\":null,\"data\":[]\x7d" := Json.isTextOf_compact rfl
    have decoded := (decode_wrapped _).2 _ isText (by decide)
    exact decoded.2 [("data", .null)] ("data", .array []) rfl (by decide)
      (List Playbook)

/-! ## Nesting beyond the limit -/

section Characters

variable
  {text : List Char}

theorem parse_of_read
    {value : Json}
    (isRead : Json.read text = .ok value) :
    Json.parse (String.ofList text) = .ok value := by
  rw [Json.parse, String.toList_ofList, isRead]
  rfl

theorem decode_ne_ok_of_read
    [Wire α]
    (refused : (Json.read text).isOk = false)
    (content : α) :
    decode (String.ofList text) ≠ .ok content := by
  rw [decode, Json.parse, String.toList_ofList]
  cases isRead : Json.read text with
  | error stopped => simp [Except.mapError]
  | ok value =>
      rw [isRead] at refused
      cases refused

theorem wrapped_ofList :
    wrapped (String.ofList text) =
      String.ofList ("\x7b\"data\":".toList ++ (text ++ "\x7d".toList)) := by
  rw [wrapped, String.ofList_append, String.ofList_append, String.ofList_toList,
    String.ofList_toList, String.append_assoc]

end Characters

/--
A text with as many containers inside one another as can be read, all of them
replaced.
-/
def deepText : List Char :=
  "\x7b\"a\":".toList ++ (List.replicate 126 '[' ++ List.replicate 126 ']') ++
    ",\"a\":1\x7d".toList

/-- A wrapper is one container too many around what has been replaced. -/
theorem wrapped_deepText_differs :
    ∃ value, Json.parse (String.ofList deepText) = .ok value ∧
        value.depth ≤ 126 ∧
      ¬ value.IsWrapper ∧
      (decode (wrapped (String.ofList deepText)) : Except DecodeError Json) ≠
        decode (String.ofList deepText) := by
  have evaluated : (Json.read deepText).toOption.any (fun value =>
      decide (value.depth ≤ 126) &&
        (unwrapEnvelope value).depth == value.depth) = true := by
    decide +kernel
  have isRefused :
      (Json.read ("\x7b\"data\":".toList ++ (deepText ++ "\x7d".toList))).isOk =
        false := by
    decide +kernel
  cases isRead : Json.read deepText with
  | error stopped =>
      rw [isRead] at evaluated
      cases evaluated
  | ok value =>
      simp only [isRead, Except.toOption, Option.any_some, Bool.and_eq_true,
        decide_eq_true_eq, beq_iff_eq] at evaluated
      obtain ⟨nested, sameDepth⟩ := evaluated
      have isParsed := parse_of_read isRead
      -- A payload is less deep than its wrapper.
      have noWrapper : ¬ value.IsWrapper := by
        rintro ⟨payload, rfl⟩
        simp [unwrapEnvelope, Json.depth, Json.depthOfMembers] at sameDepth
      refine ⟨value, isParsed, nested, noWrapper, ?_⟩
      rw [wrapped_ofList, decode_of_parse isParsed]
      exact decode_ne_ok_of_read isRefused _

end WorkflowQueue
