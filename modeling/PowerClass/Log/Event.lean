import PowerClass.Log.Level

/-!
# PowerClass.Log.Event

Log lines: a level, the part of the program that speaks, a message, and named fields.
-/

namespace PowerClass

/-- A log line before it is laid out. The values of fields are ready to be printed. -/
structure Event where
  level : Level
  target : String
  message : String
  fields : List (String × String)
  deriving DecidableEq

namespace Event

def body (event : Event) : String :=
  event.message ++ String.join (event.fields.map fun (name, value) => " " ++ name ++ "=" ++ value)

/-- The line without a time. -/
def line (event : Event) : String :=
  event.level.label ++ " " ++ event.target ++ ": " ++ event.body

end Event
end PowerClass
