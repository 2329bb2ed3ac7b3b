import PowerClass.Proofs.Snapshot.Entries
import PowerClass.Proofs.Supply.Operation
import PowerClass.Supply.Scripted

/-!
# PowerClass.Proofs.Supply.Calls

The calls that a device receives. `Supply.logged` is a device that keeps a log of them; here it is
said what each operation adds to the log, and that the log changes nothing else.

* `Logs`: a computation over a logged device does what it does without the log, and adds given
  calls. It goes through sequences (`Logs.bind`), so each function of the library has one lemma.
* `calls`: the calls of one operation, none for an operation that is refused before the device.
* `performAll_logged`: the log of a run is made of the calls of its operations. A snapshot reads the
  declared properties in order up to its first fatal failure, and only text that was decoded for a
  writable attribute, or for a registered property, is ever set.
-/

namespace PowerClass

namespace Descriptor

/-- The call that reads a property. The type of a supply is not read from the device. -/
def getCalls (d : Descriptor) : List Call :=
  if d.kind = .deviceType then [] else [.get d.id]

/-- The call that stores text in a property, none when the property does not take the text. -/
def setCalls (d : Descriptor) (text : String) : List Call :=
  match Codec.decode d.kind text with
  | .ok value => [.set d.id value]
  | .error _ => []

theorem set_not_mem_getCalls (d : Descriptor) (id : PropertyId) (value : Value) :
    Call.set id value ∉ d.getCalls := by
  unfold getCalls
  by_cases hk : d.kind = .deviceType <;> simp [hk]

theorem set_mem_setCalls {d : Descriptor} {text : String} {id : PropertyId} {value : Value}
    (h : Call.set id value ∈ d.setCalls text) :
    d.id = id ∧ Codec.decode d.kind text = .ok value := by
  unfold setCalls at h
  cases hd : Codec.decode d.kind text with
  | error e => simp [hd] at h
  | ok v =>
    simp only [hd, List.mem_singleton, Call.set.injEq] at h
    obtain ⟨rfl, rfl⟩ := h
    exact ⟨rfl, rfl⟩

end Descriptor

/-- Readings in order, up to and with the first that ends a snapshot. -/
inductive UntilFatal : List PropertyId → List Reading → Prop where
  | nil : UntilFatal [] []
  | fatal {reading : Reading} {rest : List PropertyId} :
      reading.isFatal = true → UntilFatal (reading.id :: rest) [reading]
  | next {reading : Reading} {rest : List PropertyId} {readings : List Reading} :
      reading.isFatal = false → UntilFatal rest readings →
        UntilFatal (reading.id :: rest) (reading :: readings)

namespace Supply

variable {σ : Type} {α β : Type}

/-- A computation over a logged device does the same as one over the device, and logs calls that
may depend on the state of the device. -/
def Logs (logged : StateT (List Call) (StateM σ) α) (plain : StateM σ α)
    (calls : σ → List Call) : Prop :=
  ∀ log s, logged log s = (((plain s).1, log ++ calls s), (plain s).2)

namespace Logs

variable {x : StateT (List Call) (StateM σ) α} {y : StateM σ α} {calls : σ → List Call}

theorem pure (a : α) :
    Logs (pure a : StateT (List Call) (StateM σ) α) (pure a) fun _ => [] := by
  intro log s
  rw [List.append_nil]
  rfl

theorem bind {f : α → StateT (List Call) (StateM σ) β} {g : α → StateM σ β}
    {more : α → σ → List Call} (hx : Logs x y calls) (hf : ∀ a, Logs (f a) (g a) (more a)) :
    Logs (x >>= f) (y >>= g) fun s => calls s ++ more (y s).1 (y s).2 := by
  intro log s
  have hb : (x >>= f) log s = f (x log s).1.1 (x log s).1.2 (x log s).2 := rfl
  have hs := hf (y s).1 (log ++ calls s) (y s).2
  rw [hb, hx log s, hs, List.append_assoc]
  rfl

theorem map (f : α → β) (h : Logs x y calls) : Logs (f <$> x) (f <$> y) calls := by
  intro log s
  have hm : (f <$> x) log s = ((f (x log s).1.1, (x log s).1.2), (x log s).2) := rfl
  rw [hm, h log s]
  rfl

theorem congr {other : σ → List Call} (h : Logs x y calls) (hc : ∀ s, calls s = other s) :
    Logs x y other := by
  intro log s
  rw [h log s, hc s]

end Logs

/-! ## The calls of each function -/

section

variable (supply : Supply (StateM σ)) (registry : Registry)

theorem logs_get (id : PropertyId) :
    Logs (supply.logged.get id) (supply.get id) fun _ => [.get id] :=
  fun _ _ => rfl

theorem logs_set (id : PropertyId) (value : Value) :
    Logs (supply.logged.set id value) (supply.set id value) fun _ => [.set id value] :=
  fun _ _ => rfl

/-- Asking whether a property is writable is no call of the getter or the setter. -/
theorem logs_isWritable (id : PropertyId) :
    Logs (supply.logged.isWritable id) (supply.isWritable id) fun _ => [] := by
  intro log s
  rw [List.append_nil]
  rfl

theorem logs_fetch (d : Descriptor) :
    Logs (supply.logged.fetch d) (supply.fetch d) fun _ => d.getCalls := by
  unfold Descriptor.getCalls
  by_cases hk : d.kind = .deviceType
  · rw [fetch_of_deviceType _ hk, fetch_of_deviceType _ hk, if_pos hk]
    exact .pure _
  · rw [fetch_of_ne_deviceType _ hk, fetch_of_ne_deviceType _ hk, if_neg hk]
    exact supply.logs_get d.id

def readCalls (id : PropertyId) : List Call :=
  match registry.get? id with
  | none => []
  | some d => d.getCalls

def writeCalls (id : PropertyId) (text : String) : List Call :=
  match registry.get? id with
  | none => []
  | some d => d.setCalls text

theorem readCalls_of_mem {registry : Registry} (hw : registry.WellFormed) {d : Descriptor}
    (hd : d ∈ registry.descriptors) : readCalls registry d.id = d.getCalls := by
  rw [readCalls, hw.get?_id hd]

theorem writeCalls_of_mem {registry : Registry} (hw : registry.WellFormed) {d : Descriptor}
    (hd : d ∈ registry.descriptors) (text : String) :
    writeCalls registry d.id text = d.setCalls text := by
  rw [writeCalls, hw.get?_id hd]

theorem logs_readOnto (id : PropertyId) (buffer : String) :
    Logs (supply.logged.readOnto registry id buffer) (supply.readOnto registry id buffer)
      fun _ => readCalls registry id := by
  unfold readOnto readCalls
  cases registry.get? id with
  | none => exact .pure _
  | some d => exact (supply.logs_fetch d).map _

theorem logs_read (id : PropertyId) :
    Logs (supply.logged.read registry id) (supply.read registry id)
      fun _ => readCalls registry id :=
  (supply.logs_readOnto registry id "").map _

theorem logs_write (hw : registry.WellFormed) (id : PropertyId) (text : String) :
    Logs (supply.logged.write registry id text) (supply.write registry id text)
      fun _ => writeCalls registry id text := by
  unfold write writeCalls Descriptor.setCalls
  cases hg : registry.get? id with
  | none => exact .pure _
  | some d =>
    obtain ⟨-, rfl⟩ := hw.get?_eq_some_iff.mp hg
    simp only
    cases Codec.decode d.kind text with
    | error e => exact .pure _
    | ok value => exact (supply.logs_set d.id value).map _

theorem logs_mode (d : Descriptor) :
    Logs (supply.logged.mode d) (supply.mode d) fun _ => [] := by
  have hd : supply.logged.declaration = supply.declaration := rfl
  unfold mode
  rw [hd]
  by_cases hk : d.kind = .deviceType
  · rw [if_pos hk, if_pos hk]
    exact .pure _
  · rw [if_neg hk, if_neg hk]
    by_cases hp : supply.declaration.declares d.id = true
    · rw [if_pos hp, if_pos hp]
      exact (supply.logs_isWritable d.id).map _
    · rw [if_neg hp, if_neg hp]
      exact .pure _

theorem logs_mapM_mode (ds : List Descriptor) :
    Logs (ds.mapM fun d => (Attribute.mk d ·) <$> supply.logged.mode d)
      (ds.mapM fun d => (Attribute.mk d ·) <$> supply.mode d) fun _ => [] := by
  induction ds with
  | nil => exact .pure _
  | cons d rest ih =>
    rw [List.mapM_cons, List.mapM_cons]
    refine (((supply.logs_mode d).map _).bind fun a => ih.bind fun all => .pure _).congr ?_
    intro s
    rfl

theorem logs_attributes :
    Logs (supply.logged.attributes registry) (supply.attributes registry) fun _ => [] :=
  (supply.logs_mapM_mode registry.descriptors).map _

theorem logs_attributeMode (name : String) :
    Logs (supply.logged.attributeMode registry name) (supply.attributeMode registry name)
      fun _ => [] := by
  unfold attributeMode
  cases registry.lookup? name with
  | none => exact .pure _
  | some d => exact supply.logs_mode d

theorem logs_findAttribute (name : String) :
    Logs (supply.logged.findAttribute registry name) (supply.findAttribute registry name)
      fun _ => [] := by
  unfold findAttribute
  cases registry.lookup? name with
  | none => exact .pure _
  | some d => exact (supply.logs_mode d).map _

/-- The attribute must be visible, which the type of a supply always is. -/
def showCalls (name : String) (s : σ) : List Call :=
  match registry.lookup? name with
  | none => []
  | some d => if (supply.mode d s).1.isVisible then d.getCalls else []

/-- The attribute must be writable. -/
def storeCalls (name text : String) (s : σ) : List Call :=
  match registry.lookup? name with
  | none => []
  | some d => if (supply.mode d s).1.isWritable then d.setCalls text else []

/-- What is read once an attribute was looked up. -/
def foundReadCalls : Except AccessError Attribute → List Call
  | .error _ => []
  | .ok a => readCalls registry a.descriptor.id

/-- What is set once an attribute was looked up. -/
def foundWriteCalls (text : String) : Except AccessError Attribute → List Call
  | .error _ => []
  | .ok a => if a.mode.isWritable then writeCalls registry a.descriptor.id text else []

theorem logs_showAttribute (hw : registry.WellFormed) (name : String) :
    Logs (supply.logged.showAttribute registry name) (supply.showAttribute registry name)
      (supply.showCalls registry name) := by
  have hfind := supply.logs_findAttribute registry name
  refine (hfind.bind fun found => (?_ : Logs _ _ fun _ => foundReadCalls registry found)).congr
    fun s => ?_
  · cases found with
    | error e => exact .pure _
    | ok a => exact supply.logs_read registry a.descriptor.id
  · unfold showCalls foundReadCalls
    cases hl : registry.lookup? name with
    | none => simp [findAttribute_of_unknown supply hl]
    | some d =>
      have hd := readCalls_of_mem hw (hw.lookup?_eq_some_iff.mp hl).1
      by_cases hv : (supply.mode d s).1.isVisible = true <;>
        simp [findAttribute_of_known supply hl, hv, hd]

theorem logs_storeAttribute (hw : registry.WellFormed) (name text : String) :
    Logs (supply.logged.storeAttribute registry name text)
      (supply.storeAttribute registry name text) (supply.storeCalls registry name text) := by
  have hfind := supply.logs_findAttribute registry name
  refine (hfind.bind fun found =>
    (?_ : Logs _ _ fun _ => foundWriteCalls registry text found)).congr fun s => ?_
  · cases found with
    | error e => exact .pure _
    | ok a =>
      unfold foundWriteCalls
      by_cases ha : a.mode.isWritable = true
      · simp only [if_pos ha]
        exact (supply.logs_write registry hw a.descriptor.id text).map _
      · simp only [if_neg ha]
        exact .pure _
  · unfold storeCalls foundWriteCalls
    cases hl : registry.lookup? name with
    | none => simp [findAttribute_of_unknown supply hl]
    | some d =>
      have hd := writeCalls_of_mem hw (hw.lookup?_eq_some_iff.mp hl).1 text
      cases hm : (supply.mode d s).1 <;>
        simp [findAttribute_of_known supply hl, hm, hd, Mode.isVisible, Mode.isWritable]

/-! ## Snapshots -/

def snapshotCalls : List PropertyId → σ → List Call
  | [], _ => []
  | id :: rest, s =>
    readCalls registry id ++
      if Reading.isFatal ⟨id, (supply.read registry id s).1⟩ then []
      else snapshotCalls rest (supply.read registry id s).2

theorem logs_readAll (ids : List PropertyId) :
    Logs (supply.logged.readAll registry ids) (supply.readAll registry ids)
      (supply.snapshotCalls registry ids) := by
  induction ids with
  | nil => exact .pure _
  | cons id rest ih =>
    have hrest : ∀ result : Except AccessError String,
        Logs
          (if Reading.isFatal ⟨id, result⟩ then pure [⟨id, result⟩]
            else (⟨id, result⟩ :: ·) <$> supply.logged.readAll registry rest)
          (if Reading.isFatal ⟨id, result⟩ then pure [⟨id, result⟩]
            else (⟨id, result⟩ :: ·) <$> supply.readAll registry rest)
          fun s => if Reading.isFatal ⟨id, result⟩ then []
            else supply.snapshotCalls registry rest s := by
      intro result
      by_cases hf : Reading.isFatal ⟨id, result⟩ = true
      · simp only [if_pos hf]
        exact .pure _
      · simp only [if_neg hf]
        exact ih.map _
    rw [readAll_cons_eq, readAll_cons_eq]
    exact (supply.logs_read registry id).bind hrest

theorem logs_snapshot :
    Logs (supply.logged.snapshot registry) (supply.snapshot registry)
      (supply.snapshotCalls registry supply.declaration.properties) :=
  (supply.logs_readAll registry supply.declaration.properties).map _

/-- The readings of a snapshot end with the first fatal one. -/
theorem untilFatal_readAll (ids : List PropertyId) (s : σ) :
    UntilFatal ids (supply.readAll registry ids s).1 := by
  induction ids generalizing s with
  | nil => exact .nil
  | cons id rest ih =>
    rw [readAll_cons]
    simp only
    by_cases hf : Reading.isFatal ⟨id, (supply.read registry id s).1⟩ = true
    · rw [if_pos hf]
      exact .fatal hf
    · rw [if_neg hf]
      exact .next (Bool.eq_false_iff.mpr hf) (ih _)

theorem readCalls_of_canDeclare (hw : registry.WellFormed) {id : PropertyId}
    (hc : Declaration.CanDeclare registry id) : readCalls registry id = [.get id] := by
  obtain ⟨d, hg, hk⟩ := hc
  obtain ⟨-, rfl⟩ := hw.get?_eq_some_iff.mp hg
  rw [readCalls, hg]
  exact if_neg hk

/-- Of declared properties, each reading is one call. -/
theorem snapshotCalls_eq_map (hw : registry.WellFormed) {ids : List PropertyId}
    (hc : ∀ id ∈ ids, Declaration.CanDeclare registry id) (s : σ) :
    supply.snapshotCalls registry ids s =
      (supply.readAll registry ids s).1.map fun reading => .get reading.id := by
  induction ids generalizing s with
  | nil => rfl
  | cons id rest ih =>
    rw [List.forall_mem_cons] at hc
    have ih := ih hc.2 (supply.read registry id s).2
    rw [snapshotCalls, readAll_cons, readCalls_of_canDeclare registry hw hc.1]
    simp only
    by_cases hf : Reading.isFatal ⟨id, (supply.read registry id s).1⟩ = true
    · simp [hf]
    · simp [hf, ih]

/-! ## Runs -/

/-- The calls of an operation on a device in a state. -/
def calls (s : σ) : Operation → List Call
  | .attributes => []
  | .attributeMode _ => []
  | .mode _ => []
  | .showAttribute name => supply.showCalls registry name s
  | .storeAttribute name text => supply.storeCalls registry name text s
  | .read id => readCalls registry id
  | .readOnto id _ => readCalls registry id
  | .write id text => writeCalls registry id text
  | .snapshot => supply.snapshotCalls registry supply.declaration.properties s

/-- The calls of operations, each on the device as the operations before it left it. -/
def callsAll : List Operation → σ → List Call
  | [], _ => []
  | op :: rest, s =>
    supply.calls registry s op ++ callsAll rest (supply.perform registry op s).2

theorem logs_perform (hw : registry.WellFormed) (op : Operation) :
    Logs (supply.logged.perform registry op) (supply.perform registry op)
      fun s => supply.calls registry s op := by
  cases op with
  | attributes => exact supply.logs_attributes registry
  | attributeMode name => exact supply.logs_attributeMode registry name
  | mode d => exact supply.logs_mode d
  | showAttribute name => exact supply.logs_showAttribute registry hw name
  | storeAttribute name text => exact supply.logs_storeAttribute registry hw name text
  | read id => exact supply.logs_read registry id
  | readOnto id buffer => exact supply.logs_readOnto registry id buffer
  | write id text => exact supply.logs_write registry hw id text
  | snapshot => exact supply.logs_snapshot registry

theorem logs_performAll (hw : registry.WellFormed) (ops : List Operation) :
    Logs (supply.logged.performAll registry ops) (supply.performAll registry ops)
      (supply.callsAll registry ops) := by
  induction ops with
  | nil => exact .pure _
  | cons op rest ih =>
    exact (supply.logs_perform registry hw op).bind fun answer => ih.map _

theorem set_not_mem_readCalls {id : PropertyId} {value : Value} (other : PropertyId) :
    Call.set id value ∉ readCalls registry other := by
  unfold readCalls
  cases registry.get? other with
  | none => exact List.not_mem_nil
  | some d => exact d.set_not_mem_getCalls id value

theorem set_not_mem_snapshotCalls {id : PropertyId} {value : Value} (ids : List PropertyId)
    (s : σ) : Call.set id value ∉ supply.snapshotCalls registry ids s := by
  induction ids generalizing s with
  | nil => exact List.not_mem_nil
  | cons first rest ih =>
    rw [snapshotCalls, List.mem_append, not_or]
    refine ⟨set_not_mem_readCalls registry first, ?_⟩
    by_cases hf : Reading.isFatal ⟨first, (supply.read registry first s).1⟩ = true
    · simp [hf]
    · simp [hf, ih]

/-- Only text that was decoded is set: what is written to a registered property, or stored in an
attribute that is writable. -/
theorem of_set_mem_calls (hw : registry.WellFormed) {s : σ} {op : Operation} {id : PropertyId}
    {value : Value} (h : Call.set id value ∈ supply.calls registry s op) :
    ∃ d ∈ registry.descriptors, ∃ text, d.id = id ∧ Codec.decode d.kind text = .ok value ∧
      (op = .write id text ∨
        op = .storeAttribute d.name text ∧ (supply.mode d s).1 = .readWrite) := by
  cases op with
  | attributes => cases h
  | attributeMode name => cases h
  | mode d => cases h
  | showAttribute name =>
    simp only [calls, showCalls] at h
    cases hl : registry.lookup? name with
    | none => simp [hl] at h
    | some d =>
      by_cases hv : (supply.mode d s).1.isVisible = true
      · simp only [hl, hv, if_true] at h
        exact absurd h (d.set_not_mem_getCalls id value)
      · simp [hl, hv] at h
  | storeAttribute name text =>
    simp only [calls, storeCalls] at h
    cases hl : registry.lookup? name with
    | none => simp [hl] at h
    | some d =>
      by_cases hm : (supply.mode d s).1.isWritable = true
      · simp only [hl, hm, if_true] at h
        obtain ⟨hid, hdec⟩ := Descriptor.set_mem_setCalls h
        obtain ⟨hmem, rfl⟩ := hw.lookup?_eq_some_iff.mp hl
        exact ⟨d, hmem, text, hid, hdec, .inr ⟨rfl, by simpa [Mode.isWritable] using hm⟩⟩
      · simp [hl, hm] at h
  | read other => exact absurd h (set_not_mem_readCalls registry other)
  | readOnto other buffer => exact absurd h (set_not_mem_readCalls registry other)
  | write other text =>
    simp only [calls, writeCalls] at h
    cases hg : registry.get? other with
    | none => simp [hg] at h
    | some d =>
      simp only [hg] at h
      obtain ⟨hmem, hother⟩ := hw.get?_eq_some_iff.mp hg
      obtain ⟨hid, hdec⟩ := Descriptor.set_mem_setCalls h
      exact ⟨d, hmem, text, hid, hdec, .inl (by rw [← hid, hother])⟩
  | snapshot => exact absurd h (supply.set_not_mem_snapshotCalls registry _ s)

theorem nodup_snapshotCalls (hw : registry.WellFormed)
    (hv : supply.declaration.Valid registry) (s : σ) :
    (supply.calls registry s .snapshot).Nodup := by
  have hprefix : (supply.readAll registry supply.declaration.properties s).1.map Reading.id <+:
      supply.declaration.properties := map_id_readAll_prefix _ s
  have hids := hprefix.sublist.nodup hv.nodup
  have hget : Function.Injective Call.get := fun a b h => by cases h; rfl
  have hcalls := hids.map hget
  rw [List.map_map] at hcalls
  rw [calls, supply.snapshotCalls_eq_map registry hw hv.canDeclare s]
  exact hcalls

end

/-- **Device calls.** In every built registry, a device receives in any run exactly the calls of the
operations, and answers as it does without a log. A snapshot of a supply with a validated
declaration reads each property once, in order, up to and with the first fatal failure. Whatever is
set was decoded from text for a registered property, or for an attribute that is writable. -/
theorem performAll_logged {additions : List Addition} {registry : Registry}
    (hb : Registry.build additions = .ok registry) (supply : Supply (StateM σ)) :
    (∀ ops log s, supply.logged.performAll registry ops log s =
      (((supply.performAll registry ops s).1, log ++ supply.callsAll registry ops s),
        supply.after registry ops s)) ∧
    (supply.Validated registry → ∀ s,
      let readings := (supply.readAll registry supply.declaration.properties s).1
      UntilFatal supply.declaration.properties readings ∧
        supply.calls registry s .snapshot = readings.map (fun reading => .get reading.id) ∧
        (supply.calls registry s .snapshot).Nodup) ∧
    ∀ s op id value, Call.set id value ∈ supply.calls registry s op →
      ∃ d ∈ registry.descriptors, ∃ text, d.id = id ∧ Codec.decode d.kind text = .ok value ∧
        (op = .write id text ∨
          op = .storeAttribute d.name text ∧ (supply.mode d s).1 = .readWrite) := by
  have hw := Registry.wellFormed_of_build hb
  refine ⟨?_, ?_, ?_⟩
  · intro ops log s
    exact supply.logs_performAll registry hw ops log s
  · intro hvalidated s
    have hv := validated_iff.mp hvalidated
    exact ⟨supply.untilFatal_readAll registry _ s,
      supply.snapshotCalls_eq_map registry hw hv.canDeclare s,
      supply.nodup_snapshotCalls registry hw hv s⟩
  · intro s op id value h
    exact supply.of_set_mem_calls registry hw h

/-- A battery whose status can be stored and whose temperature sensor is broken. -/
def brokenSensor : Supply (StateM Script) :=
  Script.supply ⟨"BAT0", .battery, [⟨0⟩, ⟨46⟩, ⟨68⟩]⟩ [⟨0⟩]

def brokenAnswers : Script :=
  ⟨⟨[(⟨0⟩, .ok (.ordinal 1)), (⟨46⟩, .error (.other "sensor"))]⟩, none⟩

/-- What is malformed, read-only or hidden does not reach the device, and the snapshot ends at the
sensor. -/
theorem performAll_logged_brokenSensor :
    Registry.build [] = .ok .standard ∧ brokenSensor.Validated .standard ∧
      (brokenSensor.logged.performAll .standard
        [.showAttribute "type", .showAttribute "status", .storeAttribute "status" "Full\n",
          .storeAttribute "status" "full", .storeAttribute "temp" "5",
          .storeAttribute "capacity" "5", .snapshot] [] brokenAnswers).1.2 =
        [.get ⟨0⟩, .set ⟨0⟩ (.ordinal 4), .get ⟨0⟩, .get ⟨46⟩] ∧
      (brokenSensor.calls .standard brokenAnswers .snapshot).Nodup := by
  have hv : brokenSensor.Validated .standard := ⟨"BAT0", .battery, [⟨0⟩, ⟨46⟩, ⟨68⟩], rfl⟩
  obtain ⟨hlog, hsnapshot, -⟩ := performAll_logged Registry.build_nil brokenSensor
  refine ⟨Registry.build_nil, hv, ?_, (hsnapshot hv brokenAnswers).2.2⟩
  rw [hlog]
  decide +kernel

end Supply
end PowerClass
