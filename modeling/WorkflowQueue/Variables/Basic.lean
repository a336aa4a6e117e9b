namespace WorkflowQueue

/-!
# Variables

The named texts that a program is started with.
-/

/-- Variables with their values. The first one of a name counts. -/
abbrev Variables := List (String × String)

namespace Variables

/-- The value of a variable that is set. -/
def value?
    (environment : Variables)
    (name : String) :
    Option String :=
  environment.lookup name

/-- Set a variable, unless it is set already. -/
def define
    (environment : Variables)
    (name value : String) :
    Variables :=
  if (environment.value? name).isSome then
    environment else environment ++ [(name, value)]

end Variables

end WorkflowQueue
