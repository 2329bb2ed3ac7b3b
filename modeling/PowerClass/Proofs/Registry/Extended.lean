import PowerClass.Proofs.Supply.Declared

/-!
# PowerClass.Proofs.Registry.Extended

A registry to which properties were added after those that it had.

* `Extends`: the larger registry begins with the smaller one, and what it has besides is never the
  type of a supply. A registry that is built from more entries extends the one built from fewer.
* `get?_of_get?`, `lookup?_of_lookup?`: what was found in the smaller registry is found in the larger
  one, where it has the same identifier.
* `get?_eq_none_of_new`: an identifier of a new property was not known.
-/

namespace PowerClass
namespace Registry

/-- The first registry begins with the properties of the second. -/
structure Extends (larger registry : Registry) : Prop where
  larger_wellFormed : larger.WellFormed
  wellFormed : registry.WellFormed
  isPrefix : registry.descriptors <+: larger.descriptors
  kind_ne : ∀ d ∈ larger.descriptors, d ∉ registry.descriptors → d.kind ≠ .deviceType

theorem descriptors_isPrefix {entries others : List Entry} (h : entries <+: others) :
    (ofEntries entries).descriptors <+: (ofEntries others).descriptors := by
  obtain ⟨rest, rfl⟩ := h
  simp only [ofEntries, List.mapIdx_append]
  exact List.prefix_append _ _

theorem extends_of_build {additions others : List Addition} {registry larger : Registry}
    (hb : build additions = .ok registry) (hl : build others = .ok larger)
    (hp : additions.flatMap Addition.entries <+: others.flatMap Addition.entries) :
    larger.Extends registry := by
  have hbegins : registry.descriptors <+: larger.descriptors := by
    obtain ⟨-, rfl⟩ := build_eq_ok_iff.mp hb
    obtain ⟨-, rfl⟩ := build_eq_ok_iff.mp hl
    exact descriptors_isPrefix ((List.prefix_append_right_inj _).mpr hp)
  -- The type of a supply is found among the properties that both have, and is there once.
  obtain ⟨t, ht⟩ := exists_isType_of_build hb
  obtain ⟨t', ht'⟩ := exists_isType_of_build hl
  refine ⟨wellFormed_of_build hl, wellFormed_of_build hb, hbegins, fun d hd hn hk => hn ?_⟩
  rw [ht'.eq_of_kind d hd hk, ← ht'.eq_of_kind t (hbegins.subset ht.mem) ht.kind_eq]
  exact ht.mem

namespace Extends

variable {larger registry : Registry} (h : larger.Extends registry) {d : Descriptor}
include h

theorem mem (hd : d ∈ registry.descriptors) : d ∈ larger.descriptors :=
  h.isPrefix.subset hd

theorem get?_of_get? {id : PropertyId} (hg : registry.get? id = some d) :
    larger.get? id = some d := by
  obtain ⟨hd, hid⟩ := h.wellFormed.get?_eq_some_iff.mp hg
  exact h.larger_wellFormed.get?_eq_some_iff.mpr ⟨h.mem hd, hid⟩

theorem lookup?_of_lookup? {name : String} (hl : registry.lookup? name = some d) :
    larger.lookup? name = some d := by
  obtain ⟨hd, hname⟩ := h.wellFormed.lookup?_eq_some_iff.mp hl
  exact h.larger_wellFormed.lookup?_eq_some_iff.mpr ⟨h.mem hd, hname⟩

theorem get?_eq_none_of_new (hd : d ∈ larger.descriptors) (hn : d ∉ registry.descriptors) :
    registry.get? d.id = none := by
  cases hg : registry.get? d.id with
  | none => rfl
  | some found =>
    have hfound : larger.get? d.id = some found := h.get?_of_get? hg
    rw [h.larger_wellFormed.get?_id hd] at hfound
    cases hfound
    exact absurd (h.wellFormed.get?_eq_some_iff.mp hg).1 hn

/-- A name that only the larger registry has is that of a new property. -/
theorem new_of_lookup? {name : String} (hl : larger.lookup? name = some d)
    (hn : registry.lookup? name = none) : d ∈ larger.descriptors ∧ d ∉ registry.descriptors := by
  obtain ⟨hd, rfl⟩ := h.larger_wellFormed.lookup?_eq_some_iff.mp hl
  refine ⟨hd, fun hm => ?_⟩
  rw [h.wellFormed.lookup?_name hm] at hn
  cases hn

/-- The properties that were added, in their order. -/
theorem exists_added : ∃ added, larger.descriptors = registry.descriptors ++ added ∧
    ∀ d ∈ added, d ∈ larger.descriptors ∧ d ∉ registry.descriptors := by
  obtain ⟨added, hadded⟩ := h.isPrefix
  have hnodup : (registry.descriptors ++ added).Nodup := by
    rw [hadded]
    exact h.larger_wellFormed.nodup.of_map
  refine ⟨added, hadded.symm, fun d hd => ⟨?_, ?_⟩⟩
  · rw [← hadded]
    exact List.mem_append_right _ hd
  · intro hm
    exact (List.nodup_append.mp hnodup).2.2 d hm d hd rfl

end Extends
end Registry

namespace Declaration

theorem Valid.extends {larger registry : Registry} (h : larger.Extends registry)
    {declaration : Declaration} (hv : declaration.Valid registry) : declaration.Valid larger where
  canDeclare id hi := by
    obtain ⟨d, hg, hk⟩ := hv.canDeclare id hi
    exact ⟨d, h.get?_of_get? hg, hk⟩
  nodup := hv.nodup

end Declaration
end PowerClass
