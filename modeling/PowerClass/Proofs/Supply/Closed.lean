import PowerClass.Proofs.Snapshot.Entries
import PowerClass.Proofs.Supply.Operation

/-!
# PowerClass.Proofs.Supply.Closed

Properties of computations that a sequence has when its parts have them, such as to leave the state
as it is. When the calls to a device have such a property, so has everything that is asked of the
supply.

* `Closed`: the property holds of answers without effects, and goes through sequences.
* `Asking`, `Acting`: it holds of the getter and of the question what may be written, and of the
  setter too. Each function of the library has one lemma.
* `Asking.perform`, `Acting.perform`: the operations.
-/

namespace PowerClass

/-- A property of computations that a sequence has when its parts have it. -/
structure Closed {m : Type → Type} [Monad m] (P : (α : Type) → m α → Prop) : Prop where
  pure : ∀ {α : Type} (a : α), P α (pure a)
  bind : ∀ {α β : Type} {x : m α} {f : α → m β}, P α x → (∀ a, P β (f a)) → P β (x >>= f)

namespace Closed

variable {m : Type → Type} [Monad m] [LawfulMonad m] {P : (α : Type) → m α → Prop}
  (hP : Closed P) {α β : Type}
include hP

theorem map {x : m α} (f : α → β) (h : P α x) : P β (f <$> x) := by
  rw [map_eq_pure_bind]
  exact hP.bind h fun _ => hP.pure _

theorem mapM {f : α → m β} (hf : ∀ a, P β (f a)) (as : List α) : P (List β) (as.mapM f) := by
  induction as with
  | nil => exact hP.pure _
  | cons a rest ih =>
    rw [List.mapM_cons]
    exact hP.bind (hf a) fun _ => hP.bind ih fun _ => hP.pure _

end Closed

namespace Supply

variable {m : Type → Type} [Monad m] {P : (α : Type) → m α → Prop} {supply : Supply m}

/-- The property holds of what the device does when it is only asked. -/
structure Asking (P : (α : Type) → m α → Prop) (supply : Supply m) : Prop where
  closed : Closed P
  get : ∀ id, P _ (supply.get id)
  isWritable : ∀ id, P _ (supply.isWritable id)

/-- The property holds of everything that the device does. -/
structure Acting (P : (α : Type) → m α → Prop) (supply : Supply m) : Prop extends
    Asking P supply where
  set : ∀ id value, P _ (supply.set id value)

namespace Asking

variable (h : Asking P supply) (registry : Registry)
include h

theorem fetch (d : Descriptor) : P _ (supply.fetch d) := by
  by_cases hk : d.kind = .deviceType
  · rw [fetch_of_deviceType supply hk]
    exact h.closed.pure _
  · rw [fetch_of_ne_deviceType supply hk]
    exact h.get d.id

variable [LawfulMonad m]

theorem readOnto (id : PropertyId) (buffer : String) :
    P _ (supply.readOnto registry id buffer) := by
  unfold Supply.readOnto
  cases registry.get? id with
  | none => exact h.closed.pure _
  | some d => exact h.closed.map _ (h.fetch d)

theorem read (id : PropertyId) : P _ (supply.read registry id) :=
  h.closed.map _ (h.readOnto registry id "")

theorem mode (d : Descriptor) : P _ (supply.mode d) := by
  unfold Supply.mode
  by_cases hk : d.kind = .deviceType
  · rw [if_pos hk]
    exact h.closed.pure _
  · rw [if_neg hk]
    by_cases hd : supply.declaration.declares d.id = true
    · rw [if_pos hd]
      exact h.closed.map _ (h.isWritable d.id)
    · rw [if_neg hd]
      exact h.closed.pure _

theorem attributes : P _ (supply.attributes registry) :=
  h.closed.map _ (h.closed.mapM (fun d => h.closed.map _ (h.mode d)) registry.descriptors)

theorem attributeMode (name : String) : P _ (supply.attributeMode registry name) := by
  unfold Supply.attributeMode
  cases registry.lookup? name with
  | none => exact h.closed.pure _
  | some d => exact h.mode d

theorem findAttribute (name : String) : P _ (supply.findAttribute registry name) := by
  unfold Supply.findAttribute
  cases registry.lookup? name with
  | none => exact h.closed.pure _
  | some d => exact h.closed.map _ (h.mode d)

theorem showAttribute (name : String) : P _ (supply.showAttribute registry name) := by
  refine h.closed.bind (h.findAttribute registry name) fun found => ?_
  cases found with
  | error e => exact h.closed.pure _
  | ok a => exact h.read registry a.descriptor.id

theorem readAll (ids : List PropertyId) : P _ (supply.readAll registry ids) := by
  induction ids with
  | nil => exact h.closed.pure _
  | cons id rest ih =>
    rw [readAll_cons_eq]
    refine h.closed.bind (h.read registry id) fun result => ?_
    by_cases hf : Reading.isFatal ⟨id, result⟩ = true
    · simp only [if_pos hf]
      exact h.closed.pure _
    · simp only [if_neg hf]
      exact h.closed.map _ ih

theorem snapshot : P _ (supply.snapshot registry) :=
  h.closed.map _ (h.readAll registry supply.declaration.properties)

theorem perform {op : Operation} (ht : op.takesText = false) :
    P _ (supply.perform registry op) := by
  cases op with
  | attributes => exact h.attributes registry
  | attributeMode name => exact h.attributeMode registry name
  | mode d => exact h.mode d
  | showAttribute name => exact h.showAttribute registry name
  | storeAttribute name text => cases ht
  | read id => exact h.read registry id
  | readOnto id buffer => exact h.readOnto registry id buffer
  | write id text => cases ht
  | snapshot => exact h.snapshot registry

end Asking

namespace Acting

variable [LawfulMonad m] (h : Acting P supply) (registry : Registry)
include h

theorem write (id : PropertyId) (text : String) : P _ (supply.write registry id text) := by
  unfold Supply.write
  cases registry.get? id with
  | none => exact h.closed.pure _
  | some d =>
    simp only
    cases Codec.decode d.kind text with
    | error e => exact h.closed.pure _
    | ok value => exact h.closed.map _ (h.set id value)

theorem storeAttribute (name text : String) :
    P _ (supply.storeAttribute registry name text) := by
  refine h.closed.bind (h.findAttribute registry name) fun found => ?_
  cases found with
  | error e => exact h.closed.pure _
  | ok a =>
    by_cases ha : a.mode.isWritable = true
    · simp only [if_pos ha]
      exact h.closed.map _ (h.write registry a.descriptor.id text)
    · simp only [if_neg ha]
      exact h.closed.pure _

theorem perform (op : Operation) : P _ (supply.perform registry op) := by
  cases op with
  | storeAttribute name text => exact h.storeAttribute registry name text
  | write id text => exact h.write registry id text
  | _ => exact h.toAsking.perform registry rfl

end Acting
end Supply
end PowerClass
