import PowerClass.Attribute
import PowerClass.Snapshot

/-!
# PowerClass.Proofs.Supply.Operation

Everything that can be asked of a supply, as data, so that a statement can speak of all runs: the
attributes by name, single properties by identifier, the mode of a property, and the snapshot.

* `perform` and `performAll`: one operation, and several one after the other.
* `after_append`: a run goes on in the state where its first part ended.
-/

namespace PowerClass

inductive Operation where
  | attributes
  | attributeMode (name : String)
  | mode (d : Descriptor)
  | showAttribute (name : String)
  | storeAttribute (name text : String)
  | read (id : PropertyId)
  | readOnto (id : PropertyId) (buffer : String)
  | write (id : PropertyId) (text : String)
  | snapshot

namespace Operation

/-- What an operation answers. -/
@[reducible] def Answer : Operation → Type
  | .attributes => List Attribute
  | .attributeMode _ => Mode
  | .mode _ => Mode
  | .showAttribute _ => Except AccessError String
  | .storeAttribute _ _ => Except AccessError Nat
  | .read _ => Except AccessError String
  | .readOnto _ _ => Except AccessError Unit × String
  | .write _ _ => Except AccessError Unit
  | .snapshot => Except AccessError Snapshot

/-- The name that an operation is about. -/
def name? (registry : Registry) : Operation → Option String
  | .attributes | .snapshot => none
  | .attributeMode name | .showAttribute name | .storeAttribute name _ => some name
  | .mode d => some d.name
  | .read id | .readOnto id _ | .write id _ => (registry.get? id).map Descriptor.name

def takesText : Operation → Bool
  | .storeAttribute _ _ | .write _ _ => true
  | _ => false

end Operation

/-- An operation that was performed, and its answer. -/
structure Step where
  operation : Operation
  answer : operation.Answer

namespace Step

/-- The name of the property and the text, when a step stored one. -/
def stored? (registry : Registry) : Step → Option (String × String)
  | ⟨.storeAttribute name text, .ok _⟩ => some (name, text)
  | ⟨.write id text, .ok _⟩ => (registry.get? id).map fun d => (d.name, text)
  | _ => none

def failed : Step → Bool
  | ⟨.showAttribute _, .error _⟩ | ⟨.storeAttribute _ _, .error _⟩ | ⟨.read _, .error _⟩
  | ⟨.readOnto _ _, (.error _, _)⟩ | ⟨.write _ _, .error _⟩ | ⟨.snapshot, .error _⟩ => true
  | _ => false

end Step

namespace Supply

section

variable {m : Type → Type} [Monad m]

def perform (supply : Supply m) (registry : Registry) : (op : Operation) → m op.Answer
  | .attributes => supply.attributes registry
  | .attributeMode name => supply.attributeMode registry name
  | .mode d => supply.mode d
  | .showAttribute name => supply.showAttribute registry name
  | .storeAttribute name text => supply.storeAttribute registry name text
  | .read id => supply.read registry id
  | .readOnto id buffer => supply.readOnto registry id buffer
  | .write id text => supply.write registry id text
  | .snapshot => supply.snapshot registry

/-- Performs operations in order and keeps their answers. -/
def performAll (supply : Supply m) (registry : Registry) : List Operation → m (List Step)
  | [] => pure []
  | op :: rest => do
    let answer ← supply.perform registry op
    (⟨op, answer⟩ :: ·) <$> supply.performAll registry rest

end

variable {σ : Type} (supply : Supply (StateM σ)) (registry : Registry)

/-- The state of the device after operations. -/
def after (ops : List Operation) (s : σ) : σ :=
  (supply.performAll registry ops s).2

theorem performAll_cons (op : Operation) (rest : List Operation) (s : σ) :
    supply.performAll registry (op :: rest) s =
      (⟨op, (supply.perform registry op s).1⟩ ::
          (supply.performAll registry rest (supply.perform registry op s).2).1,
        supply.after registry rest (supply.perform registry op s).2) := rfl

@[simp] theorem after_nil (s : σ) : supply.after registry [] s = s := rfl

@[simp] theorem after_cons (op : Operation) (rest : List Operation) (s : σ) :
    supply.after registry (op :: rest) s =
      supply.after registry rest (supply.perform registry op s).2 := rfl

theorem after_append (first rest : List Operation) (s : σ) :
    supply.after registry (first ++ rest) s =
      supply.after registry rest (supply.after registry first s) := by
  induction first generalizing s with
  | nil => rfl
  | cons op others ih =>
    rw [List.cons_append, after_cons, after_cons]
    exact ih (supply.perform registry op s).2

end Supply
end PowerClass
