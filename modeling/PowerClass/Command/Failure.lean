import PowerClass.Source

/-!
# PowerClass.Command.Failure

Why a command that was understood does not succeed, with the chain of causes that the user is told.
-/

namespace PowerClass

/-- Why a command fails. -/
inductive Failure where
  | registry (error : RegistryError)
  | source (error : SourceError)
  | reading (device property : String) (error : AccessError)
  | writing (device property : String) (error : AccessError)
  | snapshot (error : AccessError)
  | saving (error : FileError)

namespace Failure

/-- The messages of a failure and of what caused it, outermost first. -/
def causes : Failure → List String
  | .registry error => ["invalid property extensions", error.message]
  | .source error => error.causes
  | .reading device property error =>
    ("failed to read " ++ device ++ "/" ++ property) :: error.causes
  | .writing device property error =>
    ("failed to write " ++ device ++ "/" ++ property) :: error.causes
  | .snapshot error => error.causes
  | .saving error => [error.message]

/-- The causes as numbered lines. Of a message of several lines the first is shown. -/
def lines (failure : Failure) : List String :=
  failure.causes.mapIdx fun i cause => Decimal.ofNat i ++ ": " ++ Text.firstLine cause

end Failure
end PowerClass
