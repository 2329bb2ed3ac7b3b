import PowerClass.Proofs.Supply.Quiet
import PowerClass.Supply.Scripted

/-!
# PowerClass.Proofs.Supply.Steady

Devices that are only read. A device may change its state whenever it is asked; what matters to a
reader is that the answers stay.

* `Reads`: the states that readings lead to, whatever is read in between.
* `Steady.read_eq`, `Steady.showAttribute_eq`: a steady device gives every reading of a property the
  same text, by its identifier and by its name.
-/

namespace PowerClass
namespace Supply

variable {σ : Type}

/-- The states that a device reaches from one state while its setter is not called. -/
inductive Reads (supply : Supply (StateM σ)) (s : σ) : σ → Prop where
  | refl : Reads supply s s
  | get {s' : σ} (id : PropertyId) : Reads supply s s' → Reads supply s (supply.get id s').2
  | isWritable {s' : σ} (id : PropertyId) :
      Reads supply s s' → Reads supply s (supply.isWritable id s').2

/-- The answers of the getter do not change while the device is only read. -/
def Steady (supply : Supply (StateM σ)) (s : σ) : Prop :=
  ∀ s', supply.Reads s s' → ∀ id, (supply.get id s').1 = (supply.get id s).1

variable {supply : Supply (StateM σ)} {registry : Registry} {s s' : σ}

theorem Reads.fetch (h : supply.Reads s s') (d : Descriptor) :
    supply.Reads s (supply.fetch d s').2 := by
  by_cases hk : d.kind = .deviceType
  · rw [fetch_of_deviceType supply hk]
    exact h
  · rw [fetch_of_ne_deviceType supply hk]
    exact h.get d.id

theorem Reads.read (h : supply.Reads s s') (registry : Registry) (id : PropertyId) :
    supply.Reads s (supply.read registry id s').2 := by
  rw [read_eq]
  split
  · exact h
  · exact h.fetch _

theorem Steady.fetch_eq (hs : supply.Steady s) (h : supply.Reads s s') (d : Descriptor) :
    (supply.fetch d s').1 = (supply.fetch d s).1 := by
  by_cases hk : d.kind = .deviceType
  · rw [fetch_of_deviceType supply hk]
    rfl
  · rw [fetch_of_ne_deviceType supply hk]
    exact hs s' h d.id

theorem Steady.read_eq (hs : supply.Steady s) (h : supply.Reads s s') (registry : Registry)
    (id : PropertyId) : (supply.read registry id s').1 = (supply.read registry id s).1 := by
  rw [Supply.read_eq]
  split
  · rfl
  · next d _ => exact congrArg (textOf d.kind) (hs.fetch_eq h d)

theorem Steady.showAttribute_eq (hs : supply.Steady s) (h : supply.Reads s s')
    (hw : registry.WellFormed) {d : Descriptor} (hr : d ∈ registry.descriptors)
    (hk : d.kind ≠ .deviceType) (hd : d.id ∈ supply.declaration.properties) :
    (supply.showAttribute registry d.name s').1 = (supply.read registry d.id s).1 := by
  rw [showAttribute_of_declared supply hw hr hk hd]
  exact hs.read_eq (h.isWritable d.id) registry d.id

/-- A device that keeps its state while it is read is steady. -/
theorem Quiet.steady (hq : supply.Quiet) (s : σ) : supply.Steady s := by
  intro s' h
  have hs : s' = s := by
    induction h with
    | refl => rfl
    | get id _ ih => rw [hq.get, ih]
    | isWritable id _ ih => rw [hq.isWritable, ih]
  rw [hs]
  exact fun _ => rfl

end Supply

theorem Script.quiet (declaration : Declaration) (writable : List PropertyId) :
    (Script.supply declaration writable).Quiet where
  get _ _ := rfl
  isWritable _ _ := rfl

theorem Script.steady (declaration : Declaration) (writable : List PropertyId) (script : Script) :
    (Script.supply declaration writable).Steady script :=
  (Script.quiet declaration writable).steady script

end PowerClass
