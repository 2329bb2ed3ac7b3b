import PowerClass.Proofs.Snapshot.Entries

/-!
# PowerClass.Proofs.Supply.Validation

When a registry accepts the properties of a supply, which fault it reports when it does not, and
what an accepted declaration is good for.

* `firstFault?_eq_some_iff`: the fault that is reported is that of the first property that has one.
* `looksUp_of_valid`: a snapshot finds every property of a declaration that was accepted.
* `validate_exact`: both of these for `validate`.
-/

namespace PowerClass

namespace AccessError

/-- What a device reports is never that a property is unknown. -/
theorem ofDevice_ne_unknownProperty (fault : DeviceError) (id : PropertyId) :
    ofDevice fault ≠ .unknownProperty id := by
  cases fault <;> exact nofun

end AccessError

namespace Supply

/-- What a snapshot of a supply looks up in a registry is there: each property that it reads has a
descriptor, before it is read and again for its key. -/
structure LooksUp {σ : Type} (supply : Supply (StateM σ)) (registry : Registry) (s : σ) :
    Prop where
  found : ∀ reading ∈ (supply.readAll registry supply.declaration.properties s).1,
    ∃ d, registry.get? reading.id = some d ∧
      Snapshot.key registry reading.id = .ok d.name.toUpper
  result_ne : ∀ reading ∈ (supply.readAll registry supply.declaration.properties s).1,
    ∀ id, reading.result ≠ .error (.unknownProperty id)
  snapshot_ne : ∀ id, (supply.snapshot registry s).1 ≠ .error (.unknownProperty id)

section

variable {σ : Type} {registry : Registry} {supply : Supply (StateM σ)} {s : σ}

theorem read_ne_unknownProperty {id : PropertyId} {d : Descriptor}
    (hg : registry.get? id = some d) (s : σ) (other : PropertyId) :
    (supply.read registry id s).1 ≠ .error (.unknownProperty other) := by
  rw [read_eq, hg]
  intro h
  have h : textOf d.kind (supply.fetch d s).1 = .error (.unknownProperty other) := h
  obtain ⟨fault, he⟩ := error_of_textOf h
  exact AccessError.ofDevice_ne_unknownProperty fault other he.symm

theorem looksUp_of_valid (hv : supply.declaration.Valid registry) (s : σ) :
    supply.LooksUp registry s := by
  have hfound : ∀ reading ∈ (supply.readAll registry supply.declaration.properties s).1,
      ∃ d, registry.get? reading.id = some d := by
    intro reading hr
    have hids : ((supply.readAll registry supply.declaration.properties s).1.map Reading.id) <+:
      supply.declaration.properties := map_id_readAll_prefix _ s
    have hid := hids.subset (List.mem_map_of_mem hr)
    obtain ⟨d, hg, -⟩ := hv.canDeclare reading.id hid
    exact ⟨d, hg⟩
  have hresult : ∀ reading ∈ (supply.readAll registry supply.declaration.properties s).1,
      ∀ id, reading.result ≠ .error (.unknownProperty id) := by
    intro reading hr id
    obtain ⟨d, hg⟩ := hfound reading hr
    obtain ⟨s', he⟩ := mem_readAll hr
    rw [he]
    exact read_ne_unknownProperty hg s' id
  constructor
  case found =>
    intro reading hr
    obtain ⟨d, hg⟩ := hfound reading hr
    exact ⟨d, hg, by simp only [Snapshot.key, hg]⟩
  case result_ne => exact hresult
  case snapshot_ne =>
    intro id h
    -- The error of a snapshot is that of one of its readings.
    have h : Snapshot.entriesOf registry
        (supply.readAll registry supply.declaration.properties s).1 =
          .error (.unknownProperty id) := Result.map_eq_error.mp h
    rw [Snapshot.entriesOf_eq fun _ => registered_of_mem_readAll] at h
    split at h
    · next e hf =>
      cases h
      obtain ⟨reading, hr, hfatal⟩ := List.exists_of_findSome?_eq_some hf
      exact hresult reading hr id (Reading.fatal?_eq_some_iff.mp hfatal).1
    · cases h

end

end Supply

namespace Declaration

variable {registry : Registry} {before seen ids : List PropertyId} {id : PropertyId}
  {e : DeclarationError}

/-- Each property is registered and is not the supply's type, and none occurs twice. -/
structure Declarable (registry : Registry) (ids : List PropertyId) : Prop where
  registered : ∀ id ∈ ids, ∃ d ∈ registry.descriptors, d.id = id
  ne_deviceType : ∀ d ∈ registry.descriptors, d.id ∈ ids → d.kind ≠ .deviceType
  nodup : ids.Nodup

/-- What is wrong with a property that comes after others. -/
inductive PropertyFault (registry : Registry) (before : List PropertyId) (id : PropertyId) :
    DeclarationError → Prop where
  | unknownProperty : (∀ d ∈ registry.descriptors, d.id ≠ id) →
      PropertyFault registry before id (.unknownProperty id)
  | deviceTypeDeclared {d : Descriptor} : d ∈ registry.descriptors → d.id = id →
      d.kind = .deviceType → PropertyFault registry before id (.deviceTypeDeclared d.name)
  | duplicate {d : Descriptor} : d ∈ registry.descriptors → d.id = id → d.kind ≠ .deviceType →
      id ∈ before → PropertyFault registry before id (.duplicate id)

theorem declarable_iff (hw : registry.WellFormed) :
    Declarable registry ids ↔ (∀ id ∈ ids, CanDeclare registry id) ∧ ids.Nodup := by
  constructor
  · intro h
    refine ⟨fun id hi => ?_, h.nodup⟩
    obtain ⟨d, hd, rfl⟩ := h.registered id hi
    exact ⟨d, hw.get?_id hd, h.ne_deviceType d hd hi⟩
  · rintro ⟨hc, hn⟩
    refine ⟨fun id hi => ?_, fun d hd hi => ?_, hn⟩
    · obtain ⟨d, hg, -⟩ := hc id hi
      exact ⟨d, hw.get?_eq_some_iff.mp hg⟩
    · obtain ⟨d', hg, hk⟩ := hc d.id hi
      rw [hw.get?_id hd] at hg
      cases hg
      exact hk

/-! ## The first fault -/

theorem PropertyFault.mono (h : PropertyFault registry before id e)
    (hm : ∀ other, other ∈ before → other ∈ seen) : PropertyFault registry seen id e := by
  cases h with
  | unknownProperty hn => exact .unknownProperty hn
  | deviceTypeDeclared hd hid hk => exact .deviceTypeDeclared hd hid hk
  | duplicate hd hid hk hb => exact .duplicate hd hid hk (hm id hb)

theorem exists_fault_or_canDeclare (hw : registry.WellFormed) (seen : List PropertyId)
    (id : PropertyId) :
    (∃ e, PropertyFault registry seen id e) ∨ CanDeclare registry id ∧ id ∉ seen := by
  cases hg : registry.get? id with
  | none =>
    refine .inl ⟨_, .unknownProperty fun d hd hid => ?_⟩
    rw [hw.get?_eq_some_iff.mpr ⟨hd, hid⟩] at hg
    cases hg
  | some d =>
    obtain ⟨hd, hid⟩ := hw.get?_eq_some_iff.mp hg
    by_cases hk : d.kind = .deviceType
    · exact .inl ⟨_, .deviceTypeDeclared hd hid hk⟩
    · by_cases hs : id ∈ seen
      · exact .inl ⟨_, .duplicate hd hid hk hs⟩
      · exact .inr ⟨⟨d, hg, hk⟩, hs⟩

/-- A fault ends the checks. -/
theorem firstFault?_of_fault (hw : registry.WellFormed) (h : PropertyFault registry seen id e)
    (rest : List PropertyId) : firstFault? registry seen (id :: rest) = some e := by
  rw [firstFault?]
  cases h with
  | unknownProperty hn =>
    cases hg : registry.get? id with
    | none => rfl
    | some d =>
      obtain ⟨hd, hid⟩ := hw.get?_eq_some_iff.mp hg
      exact absurd hid (hn d hd)
  | deviceTypeDeclared hd hid hk =>
    rw [hw.get?_eq_some_iff.mpr ⟨hd, hid⟩]
    exact if_pos hk
  | duplicate hd hid hk hs =>
    rw [hw.get?_eq_some_iff.mpr ⟨hd, hid⟩]
    simp only [if_neg hk, if_pos hs]

/-- A property without a fault is only remembered. -/
theorem firstFault?_of_canDeclare (hc : CanDeclare registry id) (hs : id ∉ seen)
    (rest : List PropertyId) :
    firstFault? registry seen (id :: rest) = firstFault? registry (id :: seen) rest := by
  obtain ⟨d, hg, hk⟩ := hc
  rw [firstFault?, hg]
  simp only [if_neg hk, if_neg hs]

theorem exists_fault_of_firstFault? (hw : registry.WellFormed)
    (h : firstFault? registry seen ids = some e) :
    ∃ before id after, ids = before ++ id :: after ∧
      firstFault? registry seen before = none ∧ PropertyFault registry (before ++ seen) id e := by
  induction ids generalizing seen with
  | nil => cases h
  | cons first rest ih =>
    rcases exists_fault_or_canDeclare hw seen first with ⟨e', hf⟩ | ⟨hc, hs⟩
    · rw [firstFault?_of_fault hw hf] at h
      cases h
      exact ⟨[], first, rest, rfl, rfl, hf⟩
    · rw [firstFault?_of_canDeclare hc hs] at h
      obtain ⟨before, id, after, rfl, hb, hf⟩ := ih h
      refine ⟨first :: before, id, after, rfl, ?_, hf.mono fun other hm => ?_⟩
      · rwa [firstFault?_of_canDeclare hc hs]
      · simp only [List.mem_append, List.mem_cons] at hm ⊢
        tauto

theorem firstFault?_append (hw : registry.WellFormed) (after : List PropertyId)
    (hb : firstFault? registry seen before = none)
    (hf : PropertyFault registry (before ++ seen) id e) :
    firstFault? registry seen (before ++ id :: after) = some e := by
  induction before generalizing seen with
  | nil => exact firstFault?_of_fault hw hf after
  | cons first rest ih =>
    obtain ⟨hsound, -⟩ := firstFault?_eq_none_iff.mp hb
    obtain ⟨hc, hs⟩ := hsound first List.mem_cons_self
    rw [firstFault?_of_canDeclare hc hs] at hb
    rw [List.cons_append, firstFault?_of_canDeclare hc hs]
    refine ih hb (hf.mono fun other hm => ?_)
    simp only [List.cons_append, List.mem_append, List.mem_cons] at hm ⊢
    tauto

/-- The fault that is reported is that of the first property that has one. -/
theorem firstFault?_eq_some_iff (hw : registry.WellFormed) :
    firstFault? registry [] ids = some e ↔
      ∃ before id after, ids = before ++ id :: after ∧ Declarable registry before ∧
        PropertyFault registry before id e := by
  have hnone : ∀ before, firstFault? registry [] before = none ↔ Declarable registry before := by
    intro before
    rw [declarable_iff hw, firstFault?_eq_none_iff]
    simp
  constructor
  · intro h
    obtain ⟨before, id, after, hids, hb, hf⟩ := exists_fault_of_firstFault? hw h
    rw [List.append_nil] at hf
    exact ⟨before, id, after, hids, (hnone before).mp hb, hf⟩
  · rintro ⟨before, id, after, rfl, hb, hf⟩
    exact firstFault?_append hw after ((hnone before).mpr hb) (by rwa [List.append_nil])

theorem validate_eq_error_iff (hw : registry.WellFormed) {name : String} {type : SupplyType} :
    validate registry name type ids = .error e ↔
      ∃ before id after, ids = before ++ id :: after ∧ Declarable registry before ∧
        PropertyFault registry before id e := by
  rw [← firstFault?_eq_some_iff hw, validate]
  cases firstFault? registry [] ids <;> simp

/-- What the validation of a list of properties answers, and what it makes of the list. -/
structure ValidatesExactly (registry : Registry) (name : String) (type : SupplyType)
    (ids : List PropertyId) : Prop where
  ok_iff : ∀ declaration, validate registry name type ids = .ok declaration ↔
    Declarable registry ids ∧ declaration = ⟨name, type, ids⟩
  error_iff : ∀ e, validate registry name type ids = .error e ↔
    ∃ before id after, ids = before ++ id :: after ∧ Declarable registry before ∧
      PropertyFault registry before id e
  declares_iff : ∀ declaration, validate registry name type ids = .ok declaration →
    ∀ id, declaration.declares id = true ↔ id ∈ ids
  looksUp : ∀ declaration, validate registry name type ids = .ok declaration →
    ∀ (σ : Type) (supply : Supply (StateM σ)) (s : σ), supply.declaration = declaration →
      supply.LooksUp registry s

/-- **Validation.** In every built registry a list of properties is accepted exactly when each is
registered, none is the supply's type and none occurs twice. The declaration then has that list, and
a snapshot finds all of it in the registry. Otherwise the fault is that of the first property that
is not registered, is the type or occurred before, where each of these is checked in turn. -/
theorem validate_exact {additions : List Addition} {registry : Registry}
    (hb : Registry.build additions = .ok registry) (name : String) (type : SupplyType)
    (ids : List PropertyId) : ValidatesExactly registry name type ids := by
  have hw := Registry.wellFormed_of_build hb
  have hok : ∀ {declaration}, validate registry name type ids = .ok declaration →
      declaration = ⟨name, type, ids⟩ ∧ declaration.Valid registry :=
    fun h => validate_eq_ok_iff.mp h
  constructor
  case ok_iff =>
    intro declaration
    rw [validate_eq_ok_iff, declarable_iff hw]
    constructor
    · rintro ⟨rfl, hc, hn⟩
      exact ⟨⟨hc, hn⟩, rfl⟩
    · rintro ⟨⟨hc, hn⟩, rfl⟩
      exact ⟨rfl, hc, hn⟩
  case error_iff => exact fun e => validate_eq_error_iff hw
  case declares_iff =>
    intro declaration h id
    obtain ⟨rfl, -⟩ := hok h
    simp [declares]
  case looksUp =>
    rintro declaration h σ supply s rfl
    exact Supply.looksUp_of_valid (hok h).2 s

theorem validate_exact_repeatedStatus :
    Registry.build [] = .ok .standard ∧
      ValidatesExactly .standard "BAT0" .battery [⟨0⟩, ⟨46⟩, ⟨0⟩, ⟨58⟩] :=
  ⟨Registry.build_nil, validate_exact Registry.build_nil _ _ _⟩

example :
    validate .standard "BAT0" .battery [⟨0⟩, ⟨46⟩, ⟨0⟩, ⟨58⟩] = .error (.duplicate ⟨0⟩) ∧
      validate .standard "BAT0" .battery [⟨0⟩, ⟨58⟩, ⟨58⟩] =
        .error (.deviceTypeDeclared "type") := by
  decide

end Declaration
end PowerClass
