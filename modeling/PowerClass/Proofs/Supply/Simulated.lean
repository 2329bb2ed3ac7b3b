import PowerClass.Proofs.Attribute.Views
import PowerClass.Proofs.Supply.Quiet
import PowerClass.Supply.Simulated

/-!
# PowerClass.Proofs.Supply.Simulated

How operations change what a simulated supply keeps. Whether text is taken does not depend on what
is kept, so each operation either always leaves the state or always puts the same value in the same
property.

* `perform_cases`: the change that an operation makes, for all states at once.
* `SameAt`: two states with the same contents for one property. Operations keep it
  (`sameAt_after`), and an answer about one property depends on nothing else (`answer_congr`).
-/

namespace PowerClass

namespace SimulatedState

/-- The state in which a property has a new value and no fault. -/
def hold (state : SimulatedState) (id : PropertyId) (value : Value) : SimulatedState :=
  ⟨state.values.insert id value, state.faults.erase id⟩

@[simp] theorem get?_values_hold (state : SimulatedState) (id other : PropertyId) (value : Value) :
    (state.hold id value).values.get? other =
      if other = id then some value else state.values.get? other :=
  PropertyMap.get?_insert _ _ _ _

@[simp] theorem get?_faults_hold (state : SimulatedState) (id other : PropertyId) (value : Value) :
    (state.hold id value).faults.get? other =
      if other = id then none else state.faults.get? other :=
  PropertyMap.get?_erase _ _ _

/-- Two states have the same contents for a property. -/
structure SameAt (id : PropertyId) (state other : SimulatedState) : Prop where
  value_eq : state.values.get? id = other.values.get? id
  fault_eq : state.faults.get? id = other.faults.get? id

namespace SameAt

variable {id : PropertyId} {s s' : SimulatedState}

theorem refl (id : PropertyId) (s : SimulatedState) : SameAt id s s :=
  ⟨rfl, rfl⟩

theorem hold (h : SameAt id s s') (other : PropertyId) (value : Value) :
    SameAt id (s.hold other value) (s'.hold other value) where
  value_eq := by simp only [get?_values_hold, h.value_eq]
  fault_eq := by simp only [get?_faults_hold, h.fault_eq]

theorem hold_of_ne {other : PropertyId} (hne : id ≠ other) (s : SimulatedState) (value : Value) :
    SameAt id (s.hold other value) s where
  value_eq := by rw [get?_values_hold, if_neg hne]
  fault_eq := by rw [get?_faults_hold, if_neg hne]

end SameAt
end SimulatedState

namespace Simulated

open SimulatedState

variable (simulated : Simulated) {registry : Registry}

/-! ## Questions -/

theorem quiet : simulated.supply.Quiet where
  get id s := by
    show (simulated.get id s).2 = s
    unfold get
    cases s.faults.get? id with
    | some fault => rfl
    | none => cases s.values.get? id <;> rfl
  isWritable _ _ := rfl

theorem writable_supply (s : SimulatedState) :
    simulated.supply.Writable s fun id => simulated.writable.contains id :=
  Supply.writable_of_forall (fun _ _ => rfl) s

/-- The mode of a property, whatever the supply keeps. -/
def modeOf (d : Descriptor) : Mode :=
  simulated.supply.exposure (fun id => simulated.writable.contains id) d

theorem mode_eq (d : Descriptor) (s : SimulatedState) :
    simulated.supply.mode d s = (simulated.modeOf d, s) :=
  Prod.ext ((simulated.writable_supply s).mode_eq .refl d) (simulated.quiet.keeps_mode d s)

theorem attributeMode_fst_eq (registry : Registry) (name : String) (s s' : SimulatedState) :
    (simulated.supply.attributeMode registry name s).1 =
      (simulated.supply.attributeMode registry name s').1 := by
  unfold Supply.attributeMode
  cases registry.lookup? name with
  | none => rfl
  | some d => simp only [mode_eq]

theorem attributes_fst_eq (registry : Registry) (s s' : SimulatedState) :
    (simulated.supply.attributes registry s).1 = (simulated.supply.attributes registry s').1 := by
  rw [(simulated.writable_supply s).attributes_eq, (simulated.writable_supply s').attributes_eq]

/-! ## Changes -/

/-- Text is refused, or its value is put in the property, whatever the supply keeps. -/
theorem write_cases (hw : registry.WellFormed) (id : PropertyId) (text : String) :
    (∃ e, ∀ s, simulated.supply.write registry id text s = (.error e, s)) ∨
      ∃ d ∈ registry.descriptors, d.id = id ∧ ∃ value, Codec.decode d.kind text = .ok value ∧
        ∀ s, simulated.supply.write registry id text s = (.ok (), s.hold id value) := by
  unfold Supply.write
  cases hg : registry.get? id with
  | none => exact .inl ⟨_, fun _ => rfl⟩
  | some d =>
    obtain ⟨hd, hid⟩ := hw.get?_eq_some_iff.mp hg
    simp only
    cases hv : Codec.decode d.kind text with
    | error e => exact .inl ⟨_, fun _ => rfl⟩
    | ok value =>
      by_cases hp : simulated.writable.contains id = true
      · have hset : ∀ s, simulated.supply.set id value s = (.ok (), s.hold id value) :=
          fun s => if_pos hp
        refine .inr ⟨d, hd, hid, value, hv, fun s => ?_⟩
        exact congrArg (fun r => (r.1.mapError AccessError.ofDevice, r.2)) (hset s)
      · have hset : ∀ s, simulated.supply.set id value s = (.error .notSupported, s) :=
          fun s => if_neg hp
        refine .inl ⟨.deviceFailure .notSupported, fun s => ?_⟩
        exact congrArg (fun r => (r.1.mapError AccessError.ofDevice, r.2)) (hset s)

theorem storeAttribute_cases (hw : registry.WellFormed) (name text : String) :
    (∃ e, ∀ s, simulated.supply.storeAttribute registry name text s = (.error e, s)) ∨
      ∃ d ∈ registry.descriptors, d.name = name ∧ ∃ value, Codec.decode d.kind text = .ok value ∧
        ∀ s, simulated.supply.storeAttribute registry name text s =
          (.ok text.utf8ByteSize, s.hold d.id value) := by
  cases hl : registry.lookup? name with
  | none =>
    exact .inl ⟨_, fun s => Supply.storeAttribute_of_unknown simulated.supply hl text s⟩
  | some d =>
    obtain ⟨hd, hname⟩ := hw.lookup?_eq_some_iff.mp hl
    have hmode : ∀ s, (simulated.supply.mode d s).1 = simulated.modeOf d :=
      fun s => by rw [mode_eq]
    cases hm : simulated.modeOf d with
    | hidden =>
      refine .inl ⟨.unknownAttribute name, fun s => ?_⟩
      rw [Supply.storeAttribute_of_hidden simulated.supply hl text ((hmode s).trans hm), mode_eq]
    | readOnly =>
      refine .inl ⟨.readOnly name, fun s => ?_⟩
      rw [Supply.storeAttribute_of_readOnly simulated.supply hl text ((hmode s).trans hm), mode_eq]
    | readWrite =>
      have hstore : ∀ s, simulated.supply.storeAttribute registry name text s =
          ((simulated.supply.write registry d.id text s).1.map fun () => text.utf8ByteSize,
            (simulated.supply.write registry d.id text s).2) := by
        intro s
        rw [Supply.storeAttribute_of_writable simulated.supply hl text ((hmode s).trans hm),
          mode_eq]
      rcases simulated.write_cases hw d.id text with ⟨e, he⟩ | ⟨d', hd', hid, value, hv, hok⟩
      · refine .inl ⟨e, fun s => ?_⟩
        rw [hstore, he]
        rfl
      · obtain rfl : d' = d :=
          List.inj_on_of_nodup_map hw.nodup hd' hd ((hw.id_eq_iff hd' hd).mp hid)
        refine .inr ⟨d', hd, hname, value, hv, fun s => ?_⟩
        rw [hstore, hok]
        rfl

/-- An operation leaves the state, or it stores text in a registered property. -/
theorem perform_cases (hw : registry.WellFormed) (op : Operation) :
    (∀ s, Step.stored? registry ⟨op, (simulated.supply.perform registry op s).1⟩ = none ∧
        (simulated.supply.perform registry op s).2 = s) ∨
      ∃ d ∈ registry.descriptors, op.name? registry = some d.name ∧
        ∃ text value, Codec.decode d.kind text = .ok value ∧
          ∀ s, Step.stored? registry ⟨op, (simulated.supply.perform registry op s).1⟩ =
              some (d.name, text) ∧
            (simulated.supply.perform registry op s).2 = s.hold d.id value := by
  -- Only two operations take text, and each has its cases; the others keep the state.
  by_cases ht : op.takesText = false
  · have hnone : ∀ answer : op.Answer, Step.stored? registry ⟨op, answer⟩ = none := by
      intro answer
      cases op <;> first | rfl | cases ht
    exact .inl fun s => ⟨hnone _, simulated.quiet.keeps_perform registry ht s⟩
  · cases op with
    | storeAttribute name text =>
      rcases simulated.storeAttribute_cases hw name text with
        ⟨e, he⟩ | ⟨d, hd, rfl, value, hv, hok⟩
      · refine .inl fun s => ?_
        rw [Supply.perform, he]
        exact ⟨rfl, rfl⟩
      · refine .inr ⟨d, hd, rfl, text, value, hv, fun s => ?_⟩
        rw [Supply.perform, hok]
        exact ⟨rfl, rfl⟩
    | write id text =>
      rcases simulated.write_cases hw id text with ⟨e, he⟩ | ⟨d, hd, rfl, value, hv, hok⟩
      · refine .inl fun s => ?_
        rw [Supply.perform, he]
        exact ⟨rfl, rfl⟩
      · have hg : registry.get? d.id = some d := hw.get?_id hd
        refine .inr ⟨d, hd, by simp [Operation.name?, hg], text, value, hv, fun s => ?_⟩
        rw [Supply.perform, hok]
        exact ⟨by simp [Step.stored?, hg], rfl⟩
    | _ => exact absurd rfl ht

theorem perform_of_failed (hw : registry.WellFormed) {op : Operation} {s : SimulatedState}
    (hf : Step.failed ⟨op, (simulated.supply.perform registry op s).1⟩ = true) :
    (simulated.supply.perform registry op s).2 = s := by
  have hstored : ∀ step : Step, step.failed = true → step.stored? registry = none := by
    rintro ⟨op, answer⟩ hf
    cases op <;> try rfl
    all_goals cases answer <;> first | rfl | cases hf
  rcases simulated.perform_cases hw op with h | ⟨d, -, -, text, value, -, h⟩
  · exact (h s).2
  · have hsome := (h s).1
    rw [hstored _ hf] at hsome
    cases hsome

/-! ## One property at a time -/

section

variable {id : PropertyId} {s s' : SimulatedState}

theorem sameAt_perform (hw : registry.WellFormed) (h : SameAt id s s') (op : Operation) :
    SameAt id (simulated.supply.perform registry op s).2
      (simulated.supply.perform registry op s').2 := by
  rcases simulated.perform_cases hw op with hkeep | ⟨d, -, -, text, value, -, hhold⟩
  · rw [(hkeep s).2, (hkeep s').2]
    exact h
  · rw [(hhold s).2, (hhold s').2]
    exact h.hold d.id value

theorem sameAt_after (hw : registry.WellFormed) (h : SameAt id s s') (ops : List Operation) :
    SameAt id (simulated.supply.after registry ops s) (simulated.supply.after registry ops s') := by
  induction ops generalizing s s' with
  | nil => exact h
  | cons op rest ih =>
    rw [Supply.after_cons, Supply.after_cons]
    exact ih (simulated.sameAt_perform hw h op)

/-- An operation about another name leaves the property as it is. -/
theorem sameAt_perform_of_ne (hw : registry.WellFormed) {d : Descriptor}
    (hd : d ∈ registry.descriptors) {op : Operation} (hne : op.name? registry ≠ some d.name)
    (s : SimulatedState) : SameAt d.id (simulated.supply.perform registry op s).2 s := by
  rcases simulated.perform_cases hw op with hkeep | ⟨d', hd', hname, text, value, -, hhold⟩
  · rw [(hkeep s).2]
    exact .refl d.id s
  · have hid : d.id ≠ d'.id := by
      intro hid
      rw [hname, (hw.id_eq_iff hd hd').mp hid] at hne
      exact hne rfl
    rw [(hhold s).2]
    exact .hold_of_ne hid s value

theorem get_congr (h : SameAt id s s') :
    (simulated.supply.get id s).1 = (simulated.supply.get id s').1 := by
  show (simulated.get id s).1 = (simulated.get id s').1
  unfold get
  rw [h.fault_eq, h.value_eq]
  cases s'.faults.get? id with
  | some fault => rfl
  | none => cases s'.values.get? id <;> rfl

theorem readOnto_congr (h : ∀ d, registry.get? id = some d → SameAt d.id s s')
    (buffer : String) :
    (simulated.supply.readOnto registry id buffer s).1 =
      (simulated.supply.readOnto registry id buffer s').1 := by
  unfold Supply.readOnto
  cases hg : registry.get? id with
  | none => rfl
  | some d =>
    have hfetch : (simulated.supply.fetch d s).1 = (simulated.supply.fetch d s').1 := by
      by_cases hk : d.kind = .deviceType
      · rw [Supply.fetch_of_deviceType _ hk]
        rfl
      · rw [Supply.fetch_of_ne_deviceType _ hk]
        exact simulated.get_congr (h d hg)
    exact congrArg (Supply.render buffer d.kind) hfetch

theorem read_congr (h : ∀ d, registry.get? id = some d → SameAt d.id s s') :
    (simulated.supply.read registry id s).1 = (simulated.supply.read registry id s').1 :=
  congrArg (fun r => r.1.map fun () => r.2) (simulated.readOnto_congr h "")

theorem showAttribute_congr (hw : registry.WellFormed) {name : String}
    (h : ∀ d, registry.lookup? name = some d → SameAt d.id s s') :
    (simulated.supply.showAttribute registry name s).1 =
      (simulated.supply.showAttribute registry name s').1 := by
  cases hl : registry.lookup? name with
  | none => rw [Supply.showAttribute_of_unknown _ hl, Supply.showAttribute_of_unknown _ hl]
  | some d =>
    have hmode : ∀ s, (simulated.supply.mode d s).1 = simulated.modeOf d :=
      fun s => by rw [mode_eq]
    by_cases hm : simulated.modeOf d = .hidden
    · rw [Supply.showAttribute_of_hidden _ hl ((hmode s).trans hm),
        Supply.showAttribute_of_hidden _ hl ((hmode s').trans hm)]
    · rw [Supply.showAttribute_of_visible _ hl (by rwa [hmode]),
        Supply.showAttribute_of_visible _ hl (by rwa [hmode]), mode_eq, mode_eq]
      refine simulated.read_congr fun d' hg => ?_
      obtain ⟨-, hid⟩ := hw.get?_eq_some_iff.mp hg
      rw [hid]
      exact h d hl

/-- What is answered about a name depends on what is kept for its property, and on nothing else. -/
theorem answer_congr (hw : registry.WellFormed) {op : Operation} {name : String}
    (hname : op.name? registry = some name)
    (h : ∀ d ∈ registry.descriptors, d.name = name → SameAt d.id s s') :
    (simulated.supply.perform registry op s).1 = (simulated.supply.perform registry op s').1 := by
  have hget : ∀ id, (registry.get? id).map Descriptor.name = some name →
      ∀ d, registry.get? id = some d → SameAt d.id s s' := by
    intro id hid d hg
    rw [hg] at hid
    exact h d (hw.get?_eq_some_iff.mp hg).1 (Option.some.inj hid)
  cases op with
  | attributes => cases hname
  | snapshot => cases hname
  | attributeMode other => exact simulated.attributeMode_fst_eq registry other s s'
  | mode d =>
    show (simulated.supply.mode d s).1 = (simulated.supply.mode d s').1
    rw [mode_eq, mode_eq]
  | showAttribute other =>
    cases hname
    refine simulated.showAttribute_congr hw fun d hl => ?_
    obtain ⟨hd, hdname⟩ := hw.lookup?_eq_some_iff.mp hl
    exact h d hd hdname
  | storeAttribute other text =>
    show (simulated.supply.storeAttribute registry other text s).1 =
      (simulated.supply.storeAttribute registry other text s').1
    rcases simulated.storeAttribute_cases hw other text with ⟨e, he⟩ | ⟨d, -, -, value, -, hok⟩
    · rw [he, he]
    · rw [hok, hok]
  | read id => exact simulated.read_congr (hget id hname)
  | readOnto id buffer =>
    exact simulated.readOnto_congr (hget id hname) buffer
  | write id text =>
    show (simulated.supply.write registry id text s).1 =
      (simulated.supply.write registry id text s').1
    rcases simulated.write_cases hw id text with ⟨e, he⟩ | ⟨d, -, -, value, -, hok⟩
    · rw [he, he]
    · rw [hok, hok]

end

end Simulated
end PowerClass
