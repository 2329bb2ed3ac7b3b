import Mathlib.Data.List.Destutter
import Mathlib.Data.List.Sort
import PowerClass.Property

/-!
# PowerClass.Proofs.Registry.Order

Identifiers in the order of the registry.

* `Increasing`: a list in that order, in which none repeats. It is fixed by what is in it
  (`Increasing.eq_of_mem_iff`).
* `increasing_sortUnique`, `mem_sortUnique_iff`: sorting any list and leaving each identifier once
  gives that list.
* `Increasing.mergeSort_eq_of_perm`: sorting an increasing list from any order gives it back.
-/

namespace PowerClass
namespace PropertyId

/-- The identifiers in increasing order, where those that repeat the one before are left out. -/
def sortUnique (ids : List PropertyId) : List PropertyId :=
  (ids.mergeSort le).destutter (· ≠ ·)

theorem le_iff {id other : PropertyId} :
    le id other = true ↔ id.index.toNat ≤ other.index.toNat :=
  decide_eq_true_iff

theorem eq_of_toNat_eq {id other : PropertyId} (h : id.index.toNat = other.index.toNat) :
    id = other := by
  obtain ⟨index⟩ := id
  obtain ⟨index'⟩ := other
  exact congrArg PropertyId.mk (UInt16.toNat_inj.mp h)

theorem pairwise_mergeSort_le (ids : List PropertyId) :
    (ids.mergeSort le).Pairwise fun id other => id.index.toNat ≤ other.index.toNat := by
  have htrans : ∀ a b c : PropertyId, le a b = true → le b c = true → le a c = true := by
    intro a b c hab hbc
    rw [le_iff] at hab hbc ⊢
    omega
  have htotal : ∀ a b : PropertyId, (le a b || le b a) = true := by
    intro a b
    rw [Bool.or_eq_true, le_iff, le_iff]
    omega
  exact (List.pairwise_mergeSort htrans htotal ids).imp le_iff.mp

theorem sortUnique_eq_dedup (ids : List PropertyId) : sortUnique ids = (ids.mergeSort le).dedup := by
  have : Std.Antisymm fun id other : PropertyId => id.index.toNat ≤ other.index.toNat :=
    ⟨fun _ _ h h' => eq_of_toNat_eq (Nat.le_antisymm h h')⟩
  exact (pairwise_mergeSort_le ids).destutter_eq_dedup

theorem mem_sortUnique_iff {ids : List PropertyId} {id : PropertyId} :
    id ∈ sortUnique ids ↔ id ∈ ids := by
  rw [sortUnique_eq_dedup, List.mem_dedup, List.mem_mergeSort]

/-- Strictly increasing, so that none repeats. -/
def Increasing (ids : List PropertyId) : Prop :=
  ids.Pairwise fun id other => id.index.toNat < other.index.toNat

theorem Increasing.nodup {ids : List PropertyId} (h : Increasing ids) : ids.Nodup := by
  refine List.Pairwise.imp (fun hlt heq => ?_) h
  rw [heq] at hlt
  exact Nat.lt_irrefl _ hlt

theorem increasing_sortUnique (ids : List PropertyId) : Increasing (sortUnique ids) := by
  rw [sortUnique_eq_dedup]
  have hle := (pairwise_mergeSort_le ids).sublist (List.dedup_sublist _)
  refine (hle.and (List.nodup_dedup (ids.mergeSort le))).imp ?_
  rintro id other ⟨hle, hne⟩
  exact Nat.lt_of_le_of_ne hle fun heq => hne (eq_of_toNat_eq heq)

/-- An increasing list is fixed by what is in it. -/
theorem Increasing.eq_of_mem_iff {ids others : List PropertyId} (h : Increasing ids)
    (h' : Increasing others) (hm : ∀ id, id ∈ ids ↔ id ∈ others) : ids = others := by
  have : Std.Antisymm fun id other : PropertyId => id.index.toNat < other.index.toNat :=
    ⟨fun _ _ hlt hgt => absurd hgt (Nat.lt_asymm hlt)⟩
  have : Std.Irrefl fun id other : PropertyId => id.index.toNat < other.index.toNat :=
    ⟨fun _ => Nat.lt_irrefl _⟩
  exact List.Pairwise.eq_of_mem_iff h h' hm

/-- Members of an increasing list in any order, sorted. -/
theorem Increasing.mergeSort_eq_of_perm {ids keys : List PropertyId} (h : Increasing ids)
    (hp : keys.Perm ids) : keys.mergeSort le = ids :=
  ((List.mergeSort_perm keys le).trans hp).eq_of_pairwise
    (fun _ _ _ _ hle hge => eq_of_toNat_eq (Nat.le_antisymm hle hge))
    (pairwise_mergeSort_le keys) (List.Pairwise.imp Nat.le_of_lt h)

end PropertyId
end PowerClass
