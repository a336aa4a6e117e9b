import WorkflowQueue.Record.Mismatch

namespace WorkflowQueue

/-!
# Reading and writing records as JSON

`Wire` is the class of types that travel as JSON. A record may arrive as an
object or as an array of its fields in declaration order. An object is checked
member by member in the order of its keys before missing fields are looked for,
so of two faults the bad value wins; unknown members are passed over.
-/

/-- Types that are read from and written as JSON. -/
class Wire (α : Type) where
  ofJson : Json → Except Mismatch α
  toJson : α → Json

/-- A string value. -/
def readText :
    Json →
    Except Mismatch String
  | .string text => .ok text
  | other => .error (.wrongType other .text)

/-- A timestamp, written as a string. -/
def readTimestamp :
    Json →
    Except Mismatch Timestamp
  | .string text => (Rfc3339.parse text).mapError .badTimestamp
  | other => .error (.wrongType other .timestamp)

/-- The elements of a list, in order, up to the first that cannot be read. -/
def readElements
    (read : Json → Except Mismatch α) :
    List Json →
    Except Mismatch (List α)
  | [] => .ok []
  | element :: rest =>
      match read element with
      | .error mismatch => .error mismatch
      | .ok value =>
          match readElements read rest with
          | .error mismatch => .error mismatch
          | .ok values => .ok (value :: values)

/-- A list value. -/
def readList
    (read : Json → Except Mismatch α) :
    Json →
    Except Mismatch (List α)
  | .array elements => readElements read elements
  | other => .error (.wrongType other .sequence)

/-- A value that may be null. -/
def readOptional
    (read : Json → Except Mismatch α) :
    Json →
    Except Mismatch (Option α)
  | .null => .ok none
  | value =>
      match read value with
      | .error mismatch => .error mismatch
      | .ok result => .ok (some result)

instance : Wire Json where
  ofJson := .ok
  toJson value := value

instance : Wire String where
  ofJson := readText
  toJson := .string

instance : Wire Timestamp where
  ofJson := readTimestamp
  toJson timestamp := .string timestamp.text

instance [Wire α] : Wire (List α) where
  ofJson := readList Wire.ofJson
  toJson values := .array (values.map Wire.toJson)

instance [Wire α] : Wire (Option α) where
  ofJson := readOptional Wire.ofJson
  toJson
    | none => .null
    | some value => Wire.toJson value

/-! ## Fields -/

/--
A field of a record: its name, its reader, and its value when it is absent.
-/
structure Field (α : Type) where
  name : String
  read : Json → Except Mismatch α
  absent : Option α

namespace Field

/-- A field that must be present. -/
def required
    [Wire α]
    (name : String) :
    Field α where
  name := name
  read := Wire.ofJson
  absent := none

/-- A field that may be absent or null. -/
def optional
    [Wire α]
    (name : String) :
    Field (Option α) where
  name := name
  read := Wire.ofJson
  absent := some none

/-- A list that may be absent, but not null. -/
def list
    [Wire α]
    (name : String) :
    Field (List α) where
  name := name
  read := Wire.ofJson
  absent := some []

/-- The mismatch of a value for this field, if there is one. -/
def mismatch?
    (field : Field α)
    (value : Json) :
    Option Mismatch :=
  match field.read value with
  | .error mismatch => some mismatch
  | .ok _ => none

/-- The value of the field among the values assigned to names. -/
def get
    (field : Field α)
    (missing : String → Mismatch)
    (assigned : Json.Members) :
    Except Mismatch α :=
  match assigned.lookup field.name with
  | some value => field.read value
  | none =>
      match field.absent with
      | some value => .ok value
      | none => .error (missing field.name)

end Field

/-- The check of one field's value, under the field's name. -/
abbrev FieldCheck := String × (Json → Option Mismatch)

/-- The check that belongs to a field. -/
def Field.check
    (field : Field α) :
    FieldCheck :=
  (field.name, field.mismatch?)

/--
The first value, in the order given, that does not suit the field of its name.
-/
def firstMismatch?
    (checks : List FieldCheck)
    (assigned : Json.Members) :
    Option Mismatch :=
  assigned.findSome? fun (name, value) =>
    (checks.lookup name).bind fun mismatch? => mismatch? value

/--
How a record is read: its name, its fields' checks in declaration order, its
construction.
-/
structure RecordForm (α : Type) where
  name : String
  checks : List FieldCheck
  build : (String → Mismatch) → Json.Members → Except Mismatch α

namespace RecordForm

/-- The names of the fields in declaration order. -/
def fieldNames
    (form : RecordForm α) :
    List String :=
  form.checks.map Prod.fst

/--
A record from values assigned to names: first their checks, then the missing
fields.
-/
def ofAssigned
    (form : RecordForm α)
    (missing : String → Mismatch)
    (assigned : Json.Members) :
    Except Mismatch α :=
  match firstMismatch? form.checks assigned with
  | some mismatch => .error mismatch
  | none => form.build missing assigned

/-- The mismatch of an array that ends before a required field. -/
def tooFew
    (form : RecordForm α)
    (name : String) :
    Mismatch :=
  .tooFewElements (form.fieldNames.idxOf name) form.name form.fieldNames.length

/-- Read a record from an object or from an array of its fields. -/
def read
    (form : RecordForm α) :
    Json →
    Except Mismatch α
  | .object members => form.ofAssigned .missingField members
  | .array elements =>
      match form.ofAssigned form.tooFew (form.fieldNames.zip elements) with
      | .error mismatch => .error mismatch
      | .ok record =>
          if form.fieldNames.length < elements.length then
            .error (.tooManyElements elements.length)
          else .ok record
  | other => .error (.wrongType other (.record form.name))

end RecordForm

end WorkflowQueue
