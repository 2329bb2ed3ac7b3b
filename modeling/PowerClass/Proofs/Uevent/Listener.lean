import PowerClass.Proofs.Registry.Capitals
import PowerClass.Proofs.Snapshot.Entries
import PowerClass.Proofs.Text.Bytes
import PowerClass.Proofs.Text.Pieces
import PowerClass.Supply.Scripted
import PowerClass.Uevent

/-!
# PowerClass.Proofs.Uevent.Listener

What a listener makes of the bytes of a uevent. It takes a NUL for the end of a variable, but the
name of a supply and the text of a property may hold one.

* `listen`: the bytes are split after every NUL, and each piece is read as a key and a value.
* `listen_toBytes_iff`: a listener gets the entries of the snapshot exactly when no value has a
  NUL. Keys have none, nor has the value of any property that is not a text.
-/

namespace PowerClass
namespace Uevent

def nul : UInt8 := '\x00'.toUInt8

def equals : UInt8 := '='.toUInt8

/-- The bytes of an environment: those of each variable and a NUL. -/
def Environment.toBytes (env : Environment) : List UInt8 :=
  env.vars.flatMap fun var => Text.bytes var ++ [nul]

/-- They are the encoding in UTF-8. -/
theorem Environment.bytes_encoding (env : Environment) :
    Text.bytes (String.ofList env.encoding) = env.toBytes := by
  rw [Text.bytes_eq_flatMap, String.toList_ofList, encoding, List.flatMap_assoc, toBytes]
  refine List.flatMap_congr fun var _ => ?_
  rw [List.flatMap_append, ← Text.bytes_eq_flatMap]
  rfl

/-! ## The listener -/

/-- The pieces of bytes that a NUL ends. -/
def pieces (bytes : List UInt8) : List (List UInt8) :=
  (bytes.splitOn nul).dropLast

/-- The key and the value of a piece: what follows the prefix, split at its first equals sign. -/
def readPiece? (piece : List UInt8) : Option (String × String) :=
  match piece.dropPrefix? (Text.bytes keyPrefix) with
  | none => none
  | some rest =>
    match rest.dropWhile (· != equals) with
    | [] => none
    | _ :: value =>
      match Text.ofBytes? (rest.takeWhile (· != equals)), Text.ofBytes? value with
      | some key, some value => some (key, value)
      | _, _ => none

/-- What a listener makes of each piece, none when it is not a variable of a supply. -/
def listen (bytes : List UInt8) : List (Option (String × String)) :=
  (pieces bytes).map readPiece?

theorem pieces_flatMap (vars : List String) :
    pieces (vars.flatMap fun var => Text.bytes var ++ [nul]) =
      vars.flatMap fun var => (Text.bytes var).splitOn nul := by
  have h := Text.dropLast_splitOn_flatMap nul (vars.map Text.bytes)
  rwa [List.flatMap_map, List.flatMap_map] at h

/-! ## Variables -/

theorem bytes_entryVar (key value : String) :
    Text.bytes (entryVar key value) =
      Text.bytes keyPrefix ++ (Text.bytes key ++ equals :: Text.bytes value) := by
  have he : Text.bytes "=" = [equals] := rfl
  simp only [entryVar, Text.bytes_append, he, List.append_assoc, List.singleton_append]

theorem readPiece?_entryVar {key : String} (hk : Registry.IsName key) (value : String) :
    readPiece? (Text.bytes (entryVar key value)) = some (key, value) := by
  have hn : ∀ b ∈ Text.bytes key, (b != equals) = true := by
    intro b hb
    refine bne_iff_ne.mpr fun he => ?_
    rw [he] at hb
    exact hk.not_mem (by decide) ((Text.mem_bytes_iff (by decide)).mp hb)
  rw [readPiece?, bytes_entryVar, List.dropPrefix?_append_of_beq _ (by simp)]
  simp only [List.dropWhile_append_of_pos hn, List.takeWhile_append_of_pos hn]
  simp [Text.ofBytes?_bytes]

theorem nul_mem_entryVar_iff {key value : String} (hk : Registry.IsName key) :
    nul ∈ Text.bytes (entryVar key value) ↔ '\x00' ∈ value.toList := by
  have hkey : '\x00' ∉ key.toList := hk.not_mem (by decide)
  have hp : '\x00' ∉ keyPrefix.toList := by decide
  rw [nul, Text.mem_bytes_iff (by decide)]
  simp [entryVar, String.toList_append, hkey, hp]

theorem nul_not_mem_of_readPiece? {piece : List UInt8} {key value : String}
    (hp : nul ∉ piece) (h : readPiece? piece = some (key, value)) : '\x00' ∉ value.toList := by
  unfold readPiece? at h
  split at h
  · cases h
  · next rest hr =>
    obtain ⟨front, rfl, -⟩ := List.dropPrefix?_eq_some_iff.mp hr
    split at h
    · cases h
    · next b valueBytes hd =>
      split at h
      · next key value _ hv =>
        cases h
        have hsub : (b :: valueBytes) ⊆ rest := by
          rw [← hd]
          exact (List.dropWhile_suffix _).subset
        intro hm
        refine hp (List.mem_append_right _ (hsub (List.mem_cons_of_mem _ ?_)))
        rw [← Text.ofBytes?_eq_some_iff.mp hv]
        exact (Text.mem_bytes_iff (by decide)).mpr hm
      · cases h

/-! ## Environments -/

theorem Environment.vars_of_add {env env' : Environment} {var : String}
    (h : env.add var = .ok env') : env'.vars = env.vars ++ [var] := by
  unfold add at h
  split at h
  · cases h
  · split at h
    · cases h
    · cases h
      rfl

theorem Environment.vars_of_addAll {env env' : Environment} {vars : List String}
    (h : env.addAll vars = .ok env') : env'.vars = env.vars ++ vars := by
  induction vars generalizing env with
  | nil => cases h; simp
  | cons var rest ih =>
    unfold addAll at h
    split at h
    · cases h
    · next more hm => rw [ih h, vars_of_add hm, List.append_assoc, List.singleton_append]

theorem vars_of_ofSnapshot {snapshot : Snapshot} {env : Environment}
    (h : ofSnapshot snapshot = .ok env) :
    env.vars = snapshot.entries.map fun (key, value) => entryVar key value :=
  Environment.vars_of_addAll (Result.mapError_eq_ok.mp h)

/-- A listener gets back what a snapshot with proper keys says, unless a value has a NUL. -/
theorem listen_eq_iff {snapshot : Snapshot} {env : Environment}
    (h : ofSnapshot snapshot = .ok env)
    (hk : ∀ entry ∈ snapshot.entries, Registry.IsName entry.1) :
    listen env.toBytes = snapshot.entries.map some ↔
      ∀ entry ∈ snapshot.entries, '\x00' ∉ entry.2.toList := by
  have hp : pieces env.toBytes = snapshot.entries.flatMap fun (key, value) =>
      (Text.bytes (entryVar key value)).splitOn nul := by
    rw [Environment.toBytes, pieces_flatMap, vars_of_ofSnapshot h, List.flatMap_map]
  rw [listen, hp]
  constructor
  · -- No piece has a NUL, so a value that has one is not found.
    intro hl entry hm
    obtain ⟨piece, hpiece, hr⟩ : ∃ piece ∈ _, readPiece? piece = some entry := by
      rw [← List.mem_map, hl]
      exact List.mem_map_of_mem hm
    obtain ⟨other, -, hs⟩ := List.mem_flatMap.mp hpiece
    exact nul_not_mem_of_readPiece? (Text.not_mem_of_mem_splitOn hs) hr
  · intro hn
    rw [List.map_flatMap, List.map_eq_flatMap]
    refine List.flatMap_congr ?_
    rintro ⟨key, value⟩ hm
    have hs := List.splitOn_eq_singleton (mt (nul_mem_entryVar_iff (hk _ hm)).mp (hn _ hm))
    simp only [hs, List.map_singleton, readPiece?_entryVar (hk _ hm)]

/-! ## Snapshots -/

theorem isName_key {registry : Registry} (hw : registry.WellFormed) {σ : Type}
    {supply : Supply (StateM σ)} {s : σ} {snapshot : Snapshot}
    (h : (supply.snapshot registry s).1 = .ok snapshot) :
    ∀ entry ∈ snapshot.entries, Registry.IsName entry.1 := by
  rintro ⟨key, value⟩ hm
  rcases Supply.exists_line?_of_mem_entries h hm with he | ⟨d, hd, rfl, -⟩
  · cases he
    show Registry.IsName "NAME"
    decide
  · exact (hw.isName d hd).toUpper

theorem nul_not_mem_line {kind : Kind} {v : Value} {line : String} (hk : kind ≠ .text)
    (hl : Codec.line? kind v = some line) :
    '\x00' ∉ (Text.firstLine (line.push '\n')).toList := by
  intro hm
  rw [Text.firstLine, String.toList_ofList, String.toList_push] at hm
  rcases List.mem_append.mp ((List.takeWhile_subset _) hm) with hm | hm
  · exact absurd (Codec.printable_of_line? hk hl _ hm) (by decide)
  · cases List.mem_singleton.mp hm

/-- **Listeners.** Whenever a snapshot of a built registry fits an environment, a listener gets
exactly its entries when no value has a NUL, and otherwise something else. Only the name of the
supply and the texts of its device can have one. -/
theorem listen_toBytes_iff {additions : List Addition} {registry : Registry}
    (hb : Registry.build additions = .ok registry) {σ : Type} {supply : Supply (StateM σ)} {s : σ}
    {snapshot : Snapshot} (hs : (supply.snapshot registry s).1 = .ok snapshot)
    {env : Environment} (he : ofSnapshot snapshot = .ok env) :
    (listen env.toBytes = snapshot.entries.map some ↔
      ∀ entry ∈ snapshot.entries, '\x00' ∉ entry.2.toList) ∧
    ∀ key value, (key, value) ∈ snapshot.entries → '\x00' ∈ value.toList →
      (key, value) = ("NAME", supply.declaration.name) ∨
        ∃ d ∈ registry.descriptors, d.kind = .text ∧ key = d.name.toUpper := by
  have hw := Registry.wellFormed_of_build hb
  refine ⟨listen_eq_iff he (isName_key hw hs), fun key value hm hn => ?_⟩
  rcases Supply.exists_line?_of_mem_entries hs hm with hname | ⟨d, hd, hkey, v, line, hl, rfl⟩
  · exact .inl hname
  · by_cases hk : d.kind = .text
    · exact .inr ⟨d, hd, hk, hkey⟩
    · exact absurd hn (nul_not_mem_line hk hl)

def namedBattery : Supply (StateM Script) :=
  Script.supply ⟨"BAT0", .battery, [⟨68⟩]⟩ []

def modelName (text : String) : Script :=
  ⟨⟨[(⟨68⟩, .ok (.text text))]⟩, none⟩

theorem listen_toBytes_iff_modelName :
    Registry.build [] = .ok .standard ∧
      (namedBattery.snapshot .standard (modelName "A=1")).1 =
        .ok ⟨[("NAME", "BAT0"), ("MODEL_NAME", "A=1")]⟩ ∧
      ∃ env, ofSnapshot ⟨[("NAME", "BAT0"), ("MODEL_NAME", "A=1")]⟩ = .ok env ∧
        listen env.toBytes = [some ("NAME", "BAT0"), some ("MODEL_NAME", "A=1")] := by
  have hs : (namedBattery.snapshot .standard (modelName "A=1")).1 =
      .ok ⟨[("NAME", "BAT0"), ("MODEL_NAME", "A=1")]⟩ := by decide +kernel
  have he : ofSnapshot ⟨[("NAME", "BAT0"), ("MODEL_NAME", "A=1")]⟩ =
      .ok ⟨["POWER_SUPPLY_NAME=BAT0", "POWER_SUPPLY_MODEL_NAME=A=1"], 51⟩ := rfl
  exact ⟨Registry.build_nil, hs, _, he,
    (listen_toBytes_iff Registry.build_nil hs he).1.mpr (by decide)⟩

/-- A model name with a NUL is cut, and what follows is taken for a status. -/
theorem listen_forged_status :
    Registry.build [] = .ok .standard ∧ namedBattery.Validated .standard ∧
      ∃ snapshot,
        (namedBattery.snapshot .standard (modelName "A\x00POWER_SUPPLY_STATUS=Full")).1 =
          .ok snapshot ∧
        snapshot.entries = [("NAME", "BAT0"), ("MODEL_NAME", "A\x00POWER_SUPPLY_STATUS=Full")] ∧
        ∃ env, ofSnapshot snapshot = .ok env ∧
          listen env.toBytes =
            [some ("NAME", "BAT0"), some ("MODEL_NAME", "A"), some ("STATUS", "Full")] := by
  refine ⟨Registry.build_nil, ⟨"BAT0", .battery, [⟨68⟩], rfl⟩,
    ⟨[("NAME", "BAT0"), ("MODEL_NAME", "A\x00POWER_SUPPLY_STATUS=Full")]⟩, ?_, rfl,
    ⟨["POWER_SUPPLY_NAME=BAT0", "POWER_SUPPLY_MODEL_NAME=A\x00POWER_SUPPLY_STATUS=Full"], 74⟩,
    rfl, ?_⟩
  · decide +kernel
  · decide +kernel

end Uevent
end PowerClass
