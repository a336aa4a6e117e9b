import WorkflowQueue.Proofs.Json.Texts
import WorkflowQueue.Proofs.Records.Reprinting

namespace WorkflowQueue

/-!
# State tokens

A state is its token: known tokens have states of their own and all others are
kept, so that no two tokens share a state and none is changed on the way through
a record. `AreTokens` says this of a type of states.
`RecordForm.Consists.keepsToken` carries it to a field of a record, from the
value that was read to the text that is printed.
-/

/-! ## States -/

/--
States that stand for tokens, one for each. They are read from strings only and
written as the strings that they were read from, quotes and controls included,
and a token is kept as `other` exactly when it is not among the known ones.
-/
structure AreTokens
    {State : Type}
    [Wire State]
    (ofToken : String → State)
    (other : String → State)
    (known : List String) : Prop where
  reads :
    ∀ value state, Wire.ofJson value = .ok state ↔
      ∃ token, value = .string token ∧ state = ofToken token
  writes : ∀ token, Wire.toJson (ofToken token) = .string token
  readsBack : ∀ token, Json.parse (Wire.toJson (ofToken token)).compact =
    .ok (.string token)
  same_iff : ∀ token another, ofToken token = ofToken another ↔ token = another
  other_iff :
    ∀ token kept, ofToken token = other kept ↔ kept = token ∧ token ∉ known

/--
States stand for tokens when their token is the one that they are read from.
-/
theorem AreTokens.of_token
    {State : Type}
    [Wire State]
    {ofToken other : String → State}
    {known : List String}
    (token : State → String)
    (token_ofToken : ∀ text, token (ofToken text) = text)
    (ofJson_eq : ∀ value, Wire.ofJson value = (readText value).map ofToken)
    (toJson_eq : ∀ state : State, Wire.toJson state = .string (token state))
    (other_iff :
      ∀ text kept, ofToken text = other kept ↔ kept = text ∧ text ∉ known) :
    AreTokens ofToken other known where
  reads value state := by
    rw [ofJson_eq]
    exact mapText_eq_ok_iff
  writes text := by rw [toJson_eq, token_ofToken]
  readsBack text := by
    rw [toJson_eq, token_ofToken]
    exact Json.parse_compact_string text
  same_iff text another := by
    refine ⟨fun same => ?_, congrArg ofToken⟩
    rw [← token_ofToken text, same, token_ofToken]
  other_iff := other_iff

namespace ExecutionState

/-- The tokens that have states of their own. -/
def knownTokens : List String :=
  ["pending", "running", "paused", "awaiting_data", "completed", "aborted"]

theorem ofToken_eq_other_iff
    (text kept : String) :
    ofToken text = .other kept ↔ kept = text ∧ text ∉ knownTokens := by
  unfold ofToken
  split_ifs <;> simp_all [knownTokens, eq_comm]

theorem areTokens :
    AreTokens ofToken other knownTokens :=
  .of_token token token_ofToken (fun _ => rfl) (fun _ => rfl)
    ofToken_eq_other_iff

/-- A state is terminal when its token is one of two, letter by letter. -/
theorem isTerminal_ofToken_iff
    {token : String} :
    (ofToken token).isTerminal = true ↔
      token = "completed" ∨ token = "aborted" := by
  unfold ofToken
  split_ifs <;> simp_all [isTerminal]

end ExecutionState

namespace ActionState

/-- The tokens that have states of their own. -/
def knownTokens : List String :=
  ["executing", "awaiting_data", "success", "failure", "aborted"]

theorem ofToken_eq_other_iff
    (text kept : String) :
    ofToken text = .other kept ↔ kept = text ∧ text ∉ knownTokens := by
  unfold ofToken
  split_ifs <;> simp_all [knownTokens, eq_comm]

theorem areTokens :
    AreTokens ofToken other knownTokens :=
  .of_token token token_ofToken (fun _ => rfl) (fun _ => rfl)
    ofToken_eq_other_iff

end ActionState

/-! ## Fields that hold tokens -/

/-- The values that are assigned to names are determined by the value. -/
theorem Json.Assigns.unique
    {names : List String}
    {value : Json}
    {members others : Json.Members}
    (assigns : Assigns names value members)
    (assignsOthers : Assigns names value others) :
    members = others := by
  cases value with
  | object found => exact Eq.trans assigns (Eq.symm assignsOthers)
  | array elements => exact assigns.2.trans assignsOthers.2.symm
  | _ => exact assigns.elim

/-- What a value of either form shows under a name. -/
def Json.Shows
    (value : Json)
    (names : List String)
    (name : String)
    (shown : Json) :
    Prop :=
  ∃ members, Assigns names value members ∧ members.lookup name = some shown

/-- A value shows one thing under a name. -/
theorem Json.Shows.unique
    {value : Json}
    {names : List String}
    {name : String}
    {shown another : Json}
    (shows : value.Shows names name shown)
    (showsAnother : value.Shows names name another) :
    shown = another := by
  obtain ⟨members, assigns, found⟩ := shows
  obtain ⟨others, assignsOthers, foundAnother⟩ := showsAnother
  rw [Assigns.unique assigns assignsOthers, foundAnother] at found
  exact (Option.some.inj found).symm

namespace RecordForm.Consists

variable
  [Wire α]
  {form : RecordForm α}
  {slots : List (Slot α)}
  (consists : form.Consists slots)
  {slot : Slot α}
  (isSlot : slot ∈ slots)

include consists isSlot

/-- A required field is read from what is shown under its name. -/
theorem exists_shown
    (isRequired : slot.field.absent = none)
    {value : Json}
    {record : α}
    (isRead : Wire.ofJson value = .ok record) :
    ∃ shown, value.Shows form.fieldNames slot.field.name shown ∧
      Wire.ofJson shown = .ok (slot.content record) := by
  obtain ⟨members, assigns, gets⟩ := consists.gets_of_ofJson isRead
  rcases Field.get_eq_ok_iff.mp (gets slot isSlot) with
    ⟨shown, found, fieldRead⟩ | ⟨-, absent⟩
  · rw [slot.reader_eq] at fieldRead
    exact ⟨shown, ⟨members, assigns, found⟩, fieldRead⟩
  · rw [isRequired] at absent
    cases absent

/-- The members that a record is written with have the names of its fields. -/
theorem toJson_shows
    (record : α) :
    (Wire.toJson record).Shows form.fieldNames slot.field.name
      (Wire.toJson (slot.content record)) := by
  have distinct := consists.distinct
  rw [fieldNames, consists.checks_eq, List.map_map] at distinct
  refine ⟨slots.map fun slot => slot.member record, ?_, ?_⟩
  · rw [consists.toJson_eq]
    rfl
  · rw [lookup_eq_some_iff_mem (by rwa [List.map_map])]
    exact List.mem_map.mpr ⟨slot, isSlot, rfl⟩

/--
The content of every field stands in the text of a record after the name of the
field.
-/
theorem toJson_written
    (record : α)
    (layout : Json.Layout) :
    ∃ before after, Json.write layout 0 (Wire.toJson record) =
      before ++ (Json.quote slot.field.name ++ layout.colon ++
        Json.write layout 1 (Wire.toJson (slot.content record))) ++ after := by
  have isMember :
      slot.member record ∈ slots.map fun slot => slot.member record :=
    List.mem_map.mpr ⟨slot, isSlot, rfl⟩
  have written := Json.write_of_mem layout 0 isMember
  rw [← consists.toJson_eq] at written
  exact written

end RecordForm.Consists

/-! ## The status of a record -/

/--
A record that is printed with a token under a name: its value shows the token
there, and its text in either layout has the token between quotes after the
name.
-/
structure PrintsToken
    [Wire α]
    (form : RecordForm α)
    (name : String)
    (record : α)
    (token : String) : Prop where
  shows : (Wire.toJson record).Shows form.fieldNames name (.string token)
  written :
    ∀ layout, ∃ before after, Json.write layout 0 (Wire.toJson record) =
      before ++ (Json.quote name ++ layout.colon ++ Json.quote token) ++ after

/-- A body that shows a token under a name of a record, bare or wrapped. -/
def RecordForm.ShowsToken
    (form : RecordForm α)
    (name body token : String) :
    Prop :=
  ∃ value, Json.parse body = .ok value ∧
    (unwrapEnvelope value).Shows form.fieldNames name (.string token)

/--
A record that keeps the token which its body shows under a name: the body does
show one, the record has the state of it, and it is printed again.
-/
structure KeepsToken
    [Wire α]
    (form : RecordForm α)
    (name : String)
    (state : α → State)
    (ofToken : String → State)
    (body : String)
    (record : α) : Prop where
  exists_token : ∃ token, form.ShowsToken name body token
  keeps :
    ∀ token, form.ShowsToken name body token →
      state record = ofToken token ∧ PrintsToken form name record token

/-- A record that was decoded keeps the token of a required field. -/
theorem RecordForm.Consists.keepsToken
    [Wire α]
    {form : RecordForm α}
    {slots : List (Slot α)}
    (consists : form.Consists slots)
    [Wire State]
    {ofToken other : String → State}
    {known : List String}
    (areTokens : AreTokens ofToken other known)
    {field : Field State}
    {state : α → State}
    {reader_eq : field.read = Wire.ofJson}
    (isSlot : Slot.of field state reader_eq ∈ slots)
    (isRequired : field.absent = none)
    {body : String}
    {record : α}
    (isDecoded : decode body = .ok record) :
    KeepsToken form field.name state ofToken body record := by
  obtain ⟨value, isParsed, isRead⟩ := decode_eq_ok_iff.mp isDecoded
  obtain ⟨_, shown, fieldRead⟩ := consists.exists_shown isSlot isRequired isRead
  obtain ⟨token, rfl, isState⟩ := (areTokens.reads _ _).mp fieldRead
  have printed : Wire.toJson (state record) = .string token := by
    rw [← areTokens.writes token]
    exact congrArg Wire.toJson isState
  have shows :
      (Wire.toJson record).Shows form.fieldNames field.name
        (Wire.toJson (state record)) :=
    consists.toJson_shows isSlot record
  have written (layout : Json.Layout) :
      ∃ before after, Json.write layout 0 (Wire.toJson record) =
        before ++ (Json.quote field.name ++ layout.colon ++
          Json.write layout 1 (Wire.toJson (state record))) ++ after :=
    consists.toJson_written isSlot record layout
  rw [printed] at shows
  simp only [printed, Json.write] at written
  refine ⟨⟨token, value, isParsed, shown⟩, ?_⟩
  rintro another ⟨other, isOther, showsAnother⟩
  obtain rfl : value = other := Except.ok.inj (isParsed.symm.trans isOther)
  obtain rfl : token = another := Json.string.inj (shown.unique showsAnother)
  exact ⟨isState, shows, written⟩

/--
An object of strings from which a record is read carries the token that it
shows.
-/
theorem RecordForm.carries_texts
    [Wire α]
    {form : RecordForm α}
    {members : List (String × String)}
    (increasing : Json.TextsIncrease members)
    {record : α}
    (isRead : Wire.ofJson (Json.ofTexts members) = .ok record)
    (noWrapper : unwrapEnvelope (Json.ofTexts members) = Json.ofTexts members)
    {name token : String}
    (shows :
      (Json.ofTexts members).Shows form.fieldNames name (.string token)) :
    (∃ record : α, decode (Json.ofTexts members).compact = .ok record) ∧
      form.ShowsToken name (Json.ofTexts members).compact token := by
  have isParsed := Json.parse_compact_ofTexts increasing
  refine ⟨⟨record, decode_eq_ok_iff.mpr ⟨_, isParsed, ?_⟩⟩, _, isParsed, ?_⟩
  · rw [noWrapper]
    exact isRead
  · rw [noWrapper]
    exact shows

/--
Records that carry tokens under a name, whatever strings these are: every token
has a body that shows it there and carries a record, and every record that was
decoded keeps the token that its body shows.
-/
structure CarriesTokens
    [Wire α]
    (form : RecordForm α)
    (name : String)
    (state : α → State)
    (ofToken : String → State) : Prop where
  exists_body :
    ∀ token, ∃ body, (∃ record : α, decode body = .ok record) ∧
      form.ShowsToken name body token
  keeps :
    ∀ body record, decode body = .ok record →
      KeepsToken form name state ofToken body record

/-- The text of an execution of which no more than the state is known. -/
def WorkflowStatus.textOfToken
    (token : String) :
    String :=
  (Json.ofTexts [("execution_id", ""), ("status", token)]).compact

theorem WorkflowStatus.carries_textOfToken
    (token : String) :
    (∃ record : WorkflowStatus, decode (textOfToken token) = .ok record) ∧
      form.ShowsToken "status" (textOfToken token) token := by
  have inOrder : ["execution_id", "status"].Pairwise (· < ·) := by decide
  have increasing :
      Json.TextsIncrease [("execution_id", ""), ("status", token)] := inOrder
  exact RecordForm.carries_texts increasing rfl rfl ⟨_, rfl, rfl⟩

theorem WorkflowStatus.carriesTokens :
    CarriesTokens form "status" status ExecutionState.ofToken where
  exists_body token := ⟨textOfToken token, carries_textOfToken token⟩
  keeps body record isDecoded := by
    have isSlot : Slot.of statusField status rfl ∈ slots := by simp [slots]
    exact consists.keepsToken ExecutionState.areTokens isSlot rfl isDecoded

theorem ActionStatus.carriesTokens :
    CarriesTokens form "status" status ActionState.ofToken where
  exists_body token := by
    have inOrder :
        ["action_id", "action_name", "app_name", "execution_id", "name",
          "status"].Pairwise (· < ·) := by decide
    have increasing :
        Json.TextsIncrease
          [("action_id", ""), ("action_name", ""), ("app_name", ""),
            ("execution_id", ""), ("name", ""), ("status", token)] := inOrder
    exact ⟨_, RecordForm.carries_texts increasing rfl rfl ⟨_, rfl, rfl⟩⟩
  keeps body record isDecoded := by
    have isSlot : Slot.of statusField status rfl ∈ slots := by simp [slots]
    exact consists.keepsToken ActionState.areTokens isSlot rfl isDecoded

end WorkflowQueue
