import PowerClass.Proofs.Registry.Built
import PowerClass.Supply

/-!
# PowerClass.Proofs.Supply.Declared

Which declarations a registry accepts: those whose properties are registered, are not the supply's
type, and do not repeat.
-/

namespace PowerClass
namespace Declaration

def CanDeclare (registry : Registry) (id : PropertyId) : Prop :=
  ∃ d, registry.get? id = some d ∧ d.kind ≠ .deviceType

/-- What holds of a declaration that was validated. -/
structure Valid (registry : Registry) (declaration : Declaration) : Prop where
  canDeclare : ∀ id ∈ declaration.properties, CanDeclare registry id
  nodup : declaration.properties.Nodup

namespace Valid

variable {registry : Registry} {declaration : Declaration} (hv : declaration.Valid registry)
  (hw : registry.WellFormed)
include hv hw

theorem exists_mem {id : PropertyId} (hi : id ∈ declaration.properties) :
    ∃ d ∈ registry.descriptors, d.id = id ∧ d.kind ≠ .deviceType := by
  obtain ⟨d, hg, hk⟩ := hv.canDeclare id hi
  obtain ⟨hd, hid⟩ := hw.get?_eq_some_iff.mp hg
  exact ⟨d, hd, hid, hk⟩

theorem kind_ne_deviceType {d : Descriptor} (hd : d ∈ registry.descriptors)
    (hi : d.id ∈ declaration.properties) : d.kind ≠ .deviceType := by
  obtain ⟨d', hg, hk⟩ := hv.canDeclare d.id hi
  rw [hw.get?_id hd] at hg
  cases hg
  exact hk

end Valid

theorem firstFault?_eq_none_iff {registry : Registry} {seen ids : List PropertyId} :
    firstFault? registry seen ids = none ↔
      (∀ id ∈ ids, CanDeclare registry id ∧ id ∉ seen) ∧ ids.Nodup := by
  induction ids generalizing seen with
  | nil => simp [firstFault?]
  | cons id rest ih =>
    simp only [firstFault?, List.forall_mem_cons, List.nodup_cons]
    cases hg : registry.get? id with
    | none => simp [CanDeclare, hg]
    | some d =>
      simp only
      split
      · next hk => simp [CanDeclare, hg, hk]
      · next hk =>
        split
        · next hs => simp [hs]
        · next hs =>
          rw [ih]
          have hc : CanDeclare registry id := ⟨d, hg, hk⟩
          grind

theorem validate_eq_ok_iff {registry : Registry} {name : String} {type : SupplyType}
    {ids : List PropertyId} {declaration : Declaration} :
    validate registry name type ids = .ok declaration ↔
      declaration = ⟨name, type, ids⟩ ∧ declaration.Valid registry := by
  unfold validate
  split
  · next fault h =>
    refine ⟨nofun, ?_⟩
    rintro ⟨rfl, hv⟩
    have : firstFault? registry [] ids = none :=
      firstFault?_eq_none_iff.mpr ⟨fun id hi => ⟨hv.canDeclare id hi, List.not_mem_nil⟩, hv.nodup⟩
    rw [h] at this
    cases this
  · next h =>
    obtain ⟨hc, hd⟩ := firstFault?_eq_none_iff.mp h
    constructor
    · intro he
      cases he
      exact ⟨rfl, fun id hi => (hc id hi).1, hd⟩
    · rintro ⟨rfl, -⟩
      rfl

end Declaration

/-- Whether the declaration of a supply was validated in a registry. -/
def Supply.Validated {m : Type → Type} (supply : Supply m) (registry : Registry) : Prop :=
  ∃ name type ids, Declaration.validate registry name type ids = .ok supply.declaration

theorem Supply.validated_iff {m : Type → Type} {supply : Supply m} {registry : Registry} :
    supply.Validated registry ↔ supply.declaration.Valid registry := by
  simp only [Supply.Validated, Declaration.validate_eq_ok_iff]
  constructor
  · rintro ⟨_, _, _, -, hv⟩
    exact hv
  · intro hv
    exact ⟨_, _, _, rfl, hv⟩

end PowerClass
