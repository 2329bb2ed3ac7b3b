import PowerClass.Proofs.Supply.Closed

/-!
# PowerClass.Proofs.Supply.Quiet

Devices whose state changes only through their setter. On such a device every operation that neither
stores nor writes leaves the state as it is.

* `Keeps`: a computation that leaves the state, as a sequence of such computations does.
* `Quiet.keeps_perform`: the operations that only ask.
-/

namespace PowerClass

namespace Supply

variable {σ α : Type}

/-- The computation leaves the state of the device as it is. -/
def Keeps (x : StateM σ α) : Prop :=
  ∀ s, (x s).2 = s

theorem closed_keeps : Closed fun α => (Keeps : StateM σ α → Prop) where
  pure _ _ := rfl
  bind := by
    intro α β x f hx hf s
    have hb : (x >>= f) s = f (x s).1 (x s).2 := rfl
    rw [hb, hf (x s).1, hx s]

/-- The getter and the question what may be written leave the state of the device. -/
structure Quiet (supply : Supply (StateM σ)) : Prop where
  get : ∀ id, Keeps (supply.get id)
  isWritable : ∀ id, Keeps (supply.isWritable id)

namespace Quiet

variable {supply : Supply (StateM σ)} (hq : supply.Quiet)
include hq

theorem asking : supply.Asking fun _ => Keeps :=
  ⟨closed_keeps, hq.get, hq.isWritable⟩

theorem keeps_mode (d : Descriptor) : Keeps (supply.mode d) :=
  hq.asking.mode d

theorem keeps_perform (registry : Registry) {op : Operation} (h : op.takesText = false) :
    Keeps (supply.perform registry op) :=
  hq.asking.perform registry h

end Quiet
end Supply
end PowerClass
