import PowerClass.Proofs.Attribute.Appending
import PowerClass.Proofs.Result
import PowerClass.Snapshot

/-!
# PowerClass.Proofs.Snapshot.Entries

What a snapshot makes of its readings, and where the readings come from.

* `readAll_cons_eq`: readings onto one buffer that is cleared are readings of their own.
* `entriesOf_eq`: the readings give the error of the first fatal one, and entries when none is.
* `mem_readAll`, `map_id_readAll_prefix`: each reading is one of the device, and the properties are
  read in order from the first.
-/

namespace PowerClass

namespace Reading

/-- A reading that gave text is of a registered property. -/
def Registered (registry : Registry) (reading : Reading) : Prop :=
  ∀ text, reading.result = .ok text → ∃ d, registry.get? reading.id = some d

/-- The error with which a reading ends a snapshot. -/
def fatal? (reading : Reading) : Option AccessError :=
  match reading.result with
  | .ok _ => none
  | .error e => if e.isSkippable then none else some e

theorem fatal?_eq_none_iff {id : PropertyId} {result : Except AccessError String} :
    fatal? ⟨id, result⟩ = none ↔ ∀ e, result = .error e → e.isSkippable = true := by
  cases result <;> simp [fatal?]

theorem fatal?_eq_some_iff {id : PropertyId} {result : Except AccessError String}
    {e : AccessError} :
    fatal? ⟨id, result⟩ = some e ↔ result = .error e ∧ e.isSkippable = false := by
  cases result with
  | ok text => simp [fatal?]
  | error other =>
    cases hs : other.isSkippable <;> simp [fatal?, hs] <;> rintro rfl <;> simp [hs]

end Reading

namespace Snapshot

def entryOf? (registry : Registry) (reading : Reading) : Option (String × String) :=
  match registry.get? reading.id, reading.result with
  | some d, .ok text => some (d.name.toUpper, Text.firstLine text)
  | _, _ => none

variable {registry : Registry}

theorem entriesOf_cons_congr {reading : Reading} {rest rest' : List Reading}
    (h : entriesOf registry rest = entriesOf registry rest') :
    entriesOf registry (reading :: rest) = entriesOf registry (reading :: rest') := by
  obtain ⟨id, result⟩ := reading
  cases result <;> simp only [entriesOf, h]

/-- Nothing after a fatal reading counts. -/
theorem entriesOf_cons_of_isFatal {reading : Reading} (rest : List Reading)
    (hf : reading.isFatal = true) :
    entriesOf registry (reading :: rest) = entriesOf registry [reading] := by
  obtain ⟨id, result⟩ := reading
  cases result with
  | ok text => cases hf
  | error e =>
    have hs : e.isSkippable = false := by simpa [Reading.isFatal] using hf
    simp [entriesOf, hs]

theorem entriesOf_eq {readings : List Reading}
    (hr : ∀ reading ∈ readings, reading.Registered registry) :
    entriesOf registry readings =
      match readings.findSome? Reading.fatal? with
      | some e => .error e
      | none => .ok (readings.filterMap (entryOf? registry)) := by
  induction readings with
  | nil => rfl
  | cons reading rest ih =>
    rw [List.forall_mem_cons] at hr
    have ih := ih hr.2
    obtain ⟨id, result⟩ := reading
    rw [List.findSome?_cons, List.filterMap_cons]
    cases result with
    | ok text =>
      obtain ⟨d, hd⟩ := hr.1 text rfl
      have hd : registry.get? id = some d := hd
      simp only [entriesOf, key, hd, Reading.fatal?, entryOf?, ih]
      cases rest.findSome? Reading.fatal? <;> rfl
    | error e =>
      have hn : entryOf? registry ⟨id, .error e⟩ = none := by
        unfold entryOf?
        cases registry.get? id <;> rfl
      cases hs : e.isSkippable <;> simp [entriesOf, Reading.fatal?, hs, hn, ih]

theorem entriesOf_eq_ok_iff {readings : List Reading} {entries : List (String × String)}
    (hr : ∀ reading ∈ readings, reading.Registered registry) :
    entriesOf registry readings = .ok entries ↔
      (∀ reading ∈ readings, reading.fatal? = none) ∧
        entries = readings.filterMap (entryOf? registry) := by
  rw [entriesOf_eq hr, ← List.findSome?_eq_none_iff]
  cases readings.findSome? Reading.fatal? <;> simp [eq_comm]

end Snapshot

/-! ## The readings of a supply -/

namespace Supply

section

variable {m : Type → Type} [Monad m] (supply : Supply m) (registry : Registry)

/-- What the buffer holds before the readings does not count. -/
theorem readAllOnto_eq (scratch : String) (ids : List PropertyId) :
    supply.readAllOnto registry scratch ids = supply.readAll registry ids := by
  cases ids <;> rfl

theorem readAll_nil : supply.readAll registry [] = pure [] := rfl

/-- The text that a reading appends to the cleared buffer is the text of the property, so the
readings are the same on a buffer of their own. -/
theorem readAll_cons_eq [LawfulMonad m] (id : PropertyId) (rest : List PropertyId) :
    supply.readAll registry (id :: rest) = (do
      let reading : Reading := ⟨id, ← supply.read registry id⟩
      if reading.isFatal then pure [reading]
      else (reading :: ·) <$> supply.readAll registry rest) := by
  have htext : ∀ result : Except AccessError String,
      (Result.appendTo (Text.clear "") result).1.map
        (fun () => (Result.appendTo (Text.clear "") result).2) = result := by
    intro result
    cases result with
    | ok text => exact congrArg Except.ok String.empty_append
    | error e => rfl
  rw [readAll, readAllOnto]
  simp only [readAllOnto_eq, readOnto_eq_appendTo, bind_map_left, htext]

end

variable {σ : Type} {registry : Registry} {supply : Supply (StateM σ)}

theorem readAll_cons (registry : Registry) (id : PropertyId) (rest : List PropertyId) (s : σ) :
    (supply.readAll registry (id :: rest) s).1 =
      let first : Reading := ⟨id, (supply.read registry id s).1⟩
      if first.isFatal then [first]
      else first :: (supply.readAll registry rest (supply.read registry id s).2).1 := by
  obtain ⟨result, s', hr⟩ : ∃ result s', supply.read registry id s = (result, s') := ⟨_, _, rfl⟩
  simp only [readAll_cons_eq, bind, StateT.bind, hr]
  split <;> rfl

theorem mem_readAll {ids : List PropertyId} {s : σ} {reading : Reading}
    (h : reading ∈ (supply.readAll registry ids s).1) :
    ∃ s', reading.result = (supply.read registry reading.id s').1 := by
  induction ids generalizing s with
  | nil => cases h
  | cons id rest ih =>
    rw [readAll_cons] at h
    simp only at h
    split at h
    · obtain rfl := List.mem_singleton.mp h
      exact ⟨s, rfl⟩
    · rcases List.mem_cons.mp h with rfl | h
      · exact ⟨s, rfl⟩
      · exact ih h

theorem map_id_readAll_prefix (ids : List PropertyId) (s : σ) :
    (supply.readAll registry ids s).1.map Reading.id <+: ids := by
  induction ids generalizing s with
  | nil => exact List.prefix_rfl
  | cons id rest ih =>
    rw [readAll_cons]
    simp only
    split
    · exact (List.prefix_cons_inj id).mpr List.nil_prefix
    · exact (List.prefix_cons_inj id).mpr (ih _)

/-- Where the text of a reading comes from: a value of the device that fits its property. -/
theorem exists_line?_of_mem_readAll {ids : List PropertyId} {s : σ} {reading : Reading}
    {text : String} (h : reading ∈ (supply.readAll registry ids s).1)
    (ht : reading.result = .ok text) :
    ∃ d value line, registry.get? reading.id = some d ∧ Codec.line? d.kind value = some line ∧
      text = line.push '\n' := by
  obtain ⟨s', hr⟩ := mem_readAll h
  rw [ht, read_eq] at hr
  cases hg : registry.get? reading.id with
  | none => rw [hg] at hr; cases hr
  | some d =>
    rw [hg] at hr
    obtain ⟨value, line, hl, hline⟩ := exists_line?_of_textOf hr.symm
    exact ⟨d, value, line, rfl, hl, hline⟩

theorem registered_of_mem_readAll {ids : List PropertyId} {s : σ} {reading : Reading}
    (h : reading ∈ (supply.readAll registry ids s).1) : reading.Registered registry := by
  intro text ht
  obtain ⟨d, -, -, hd, -⟩ := exists_line?_of_mem_readAll h ht
  exact ⟨d, hd⟩

/-- A snapshot that was taken holds the name of the supply, then what its readings gave. -/
theorem entries_of_snapshot {s : σ} {snapshot : Snapshot}
    (h : (supply.snapshot registry s).1 = .ok snapshot) :
    snapshot.entries = ("NAME", supply.declaration.name) ::
      (supply.readAll registry supply.declaration.properties s).1.filterMap
        (Snapshot.entryOf? registry) := by
  obtain ⟨entries, he, rfl⟩ := Result.map_eq_ok.mp h
  obtain ⟨-, rfl⟩ := (Snapshot.entriesOf_eq_ok_iff fun _ => registered_of_mem_readAll).mp he
  rfl

/-- Where the key and the value come from that a reading gives. -/
theorem exists_line?_of_mem_filterMap {ids : List PropertyId} {s : σ} {key value : String}
    (hm : (key, value) ∈
      (supply.readAll registry ids s).1.filterMap (Snapshot.entryOf? registry)) :
    ∃ d ∈ registry.descriptors, key = d.name.toUpper ∧
      ∃ v line, Codec.line? d.kind v = some line ∧ value = Text.firstLine (line.push '\n') := by
  obtain ⟨reading, hr, he⟩ := List.mem_filterMap.mp hm
  unfold Snapshot.entryOf? at he
  split at he
  · next d text hg ht =>
    cases he
    obtain ⟨d', v, line, hg', hl, rfl⟩ := exists_line?_of_mem_readAll hr ht
    rw [hg] at hg'
    cases hg'
    exact ⟨d, List.mem_of_getElem? hg, rfl, v, line, hl, rfl⟩
  · cases he

/-- Where the key and the value of an entry come from. -/
theorem exists_line?_of_mem_entries {s : σ} {snapshot : Snapshot}
    (h : (supply.snapshot registry s).1 = .ok snapshot) {key value : String}
    (hm : (key, value) ∈ snapshot.entries) :
    (key, value) = ("NAME", supply.declaration.name) ∨
      ∃ d ∈ registry.descriptors, key = d.name.toUpper ∧
        ∃ v line, Codec.line? d.kind v = some line ∧ value = Text.firstLine (line.push '\n') := by
  rw [entries_of_snapshot h] at hm
  rcases List.mem_cons.mp hm with hm | hm
  · exact .inl hm
  · exact .inr (exists_line?_of_mem_filterMap hm)

end Supply
end PowerClass
