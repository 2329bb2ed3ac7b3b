import PowerClass.Snapshot

/-!
# PowerClass.Uevent

The environment of a uevent: variables of the form `KEY=value`, each ended by a NUL byte, in a
buffer of fixed size. A variable that does not fit is refused and leaves the environment as it is.
-/

namespace PowerClass
namespace Uevent

/-- What stands before every key of a snapshot. -/
def keyPrefix : String := "POWER_SUPPLY_"

/-- The number of slots for variables. The last one stays free. -/
def slots : Nat := 64

def bufferSize : Nat := 2048

/-- Why a variable is refused. -/
inductive Refusal where
  | tooManyVariables
  | bufferTooSmall
  deriving DecidableEq

namespace Refusal

def message : Refusal → String
  | .tooManyVariables => "too many uevent variables"
  | .bufferTooSmall => "uevent buffer size too small"

end Refusal

/-- Variables in order, and the bytes that they take with their terminators. -/
structure Environment where
  vars : List String
  used : Nat
  deriving DecidableEq

namespace Environment

def empty : Environment := ⟨[], 0⟩

def add (env : Environment) (var : String) : Except Refusal Environment :=
  if slots - 1 ≤ env.vars.length then .error .tooManyVariables
  else if bufferSize - env.used ≤ var.utf8ByteSize then .error .bufferTooSmall
  else .ok ⟨env.vars ++ [var], env.used + (var.utf8ByteSize + 1)⟩

/-- What a caller is told who adds a variable to the environment at hand. -/
def addVar (var : String) : StateM Environment (Except AccessError Unit) := do
  match (← get).add var with
  | .error _ => return .error .allocationFailure
  | .ok env =>
    set env
    return .ok ()

/-- The environment with more variables, or the first that is refused and why. -/
def addAll (env : Environment) : List String → Except (String × Refusal) Environment
  | [] => .ok env
  | var :: rest =>
    match env.add var with
    | .error refusal => .error (var, refusal)
    | .ok env => env.addAll rest

/-- The characters of the encoding: each variable and its NUL. -/
def encoding (env : Environment) : List Char :=
  env.vars.flatMap fun var => var.toList ++ ['\x00']

end Environment

def entryVar (key value : String) : String :=
  keyPrefix ++ key ++ "=" ++ value

/-- The environment of a snapshot, or the variable that is refused and why. -/
def ofEntries (entries : List (String × String)) : Except (String × Refusal) Environment :=
  Environment.empty.addAll (entries.map fun (key, value) => entryVar key value)

def ofSnapshot (snapshot : Snapshot) : Except AccessError Environment :=
  (ofEntries snapshot.entries).mapError fun _ => .allocationFailure

end Uevent

/-- The environment of a uevent of a supply, from a snapshot that is taken for it. -/
def Supply.uevent {m : Type → Type} [Monad m] (supply : Supply m) (registry : Registry) :
    m (Except AccessError Uevent.Environment) :=
  (fun result => result.bind Uevent.ofSnapshot) <$> supply.snapshot registry

end PowerClass
