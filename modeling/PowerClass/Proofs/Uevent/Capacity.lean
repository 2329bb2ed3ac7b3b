import Mathlib.Algebra.Order.BigOperators.Group.List
import Mathlib.Algebra.Order.Group.Nat
import PowerClass.Proofs.Uevent.Limits

/-!
# PowerClass.Proofs.Uevent.Capacity

The snapshots that an environment can hold. Variables are added one by one, and the first that does
not fit is refused; whether one is refused depends on the number of entries and on the bytes of all
of them alone.

* `HasRoom`: the entries that an environment can hold.
* `Environment.addAll_of_room`: variables that fit together are all added.
* `hasRoom_of_ofSnapshot`: nothing else is accepted, since what comes out is within its limits.
* `ofSnapshot_fits`: the two together, and that leaving out entries does no harm.
-/

namespace PowerClass
namespace Uevent

/-- The bytes that variables take, each with its NUL. -/
def varBytes (vars : List String) : Nat :=
  (vars.map fun var => var.utf8ByteSize + 1).sum

@[simp] theorem varBytes_nil : varBytes [] = 0 := rfl

@[simp] theorem varBytes_cons (var : String) (rest : List String) :
    varBytes (var :: rest) = var.utf8ByteSize + 1 + varBytes rest := by
  simp [varBytes]

/-- The bytes that an entry takes: the prefix, the key, the equals sign, the value and the NUL. -/
def entryBytes (entry : String × String) : Nat :=
  13 + entry.1.utf8ByteSize + 1 + entry.2.utf8ByteSize + 1

theorem utf8ByteSize_entryVar (key value : String) :
    (entryVar key value).utf8ByteSize + 1 = entryBytes (key, value) := by
  have hprefix : keyPrefix.utf8ByteSize = 13 := by decide
  have hequals : ("=" : String).utf8ByteSize = 1 := by decide
  simp only [entryVar, entryBytes, String.utf8ByteSize_append, hprefix, hequals]

theorem varBytes_map_entryVar (entries : List (String × String)) :
    varBytes (entries.map fun (key, value) => entryVar key value) =
      (entries.map entryBytes).sum := by
  rw [varBytes, List.map_map]
  exact congrArg List.sum (List.map_congr_left fun (key, value) _ =>
    utf8ByteSize_entryVar key value)

/-- Entries that an environment can hold: there is a slot for each, and room for their bytes. -/
structure HasRoom (entries : List (String × String)) : Prop where
  length_le : entries.length ≤ 63
  sum_le : (entries.map entryBytes).sum ≤ 2048

theorem HasRoom.sublist {entries fewer : List (String × String)} (h : HasRoom entries)
    (hs : fewer.Sublist entries) : HasRoom fewer where
  length_le := hs.length_le.trans h.length_le
  sum_le := ((hs.map entryBytes).sum_le_sum fun _ _ => Nat.zero_le _).trans h.sum_le

/-- By induction on the variables, with the environment that the first of them leaves. -/
theorem Environment.addAll_of_room {env : Environment} {vars : List String}
    (hslots : env.vars.length + vars.length ≤ 63) (hroom : env.used + varBytes vars ≤ 2048) :
    env.addAll vars = .ok ⟨env.vars ++ vars, env.used + varBytes vars⟩ := by
  induction vars generalizing env with
  | nil => simp [addAll]
  | cons var rest ih =>
    rw [List.length_cons] at hslots
    rw [varBytes_cons] at hroom
    have hfits : env.Fits var := by
      constructor <;> omega
    have hslots' : (env.append var).vars.length + rest.length ≤ 63 := by
      simp only [append, List.length_append, List.length_singleton]
      omega
    have hroom' : (env.append var).used + varBytes rest ≤ 2048 := by
      simp only [append]
      omega
    have hrest := ih hslots' hroom'
    rw [addAll, add_of_fits hfits]
    simpa [append, Nat.add_assoc] using hrest

section

variable {snapshot : Snapshot}

theorem ofSnapshot_of_hasRoom (h : HasRoom snapshot.entries) :
    ∃ env, ofSnapshot snapshot = .ok env := by
  have hslots : Environment.empty.vars.length +
      (snapshot.entries.map fun (key, value) => entryVar key value).length ≤ 63 := by
    simpa [Environment.empty] using h.length_le
  have hroom : Environment.empty.used +
      varBytes (snapshot.entries.map fun (key, value) => entryVar key value) ≤ 2048 := by
    rw [varBytes_map_entryVar]
    simpa [Environment.empty] using h.sum_le
  have hall := Environment.addAll_of_room hslots hroom
  exact ⟨_, Result.mapError_eq_ok.mpr hall⟩

/-- The environment that comes out is within its limits, so what went in was. -/
theorem hasRoom_of_ofSnapshot {env : Environment} (h : ofSnapshot snapshot = .ok env) :
    HasRoom snapshot.entries := by
  have hvars := vars_of_ofSnapshot h
  have hb : env.Bounded := by
    have hbounded := Environment.bounded_addVars Environment.bounded_empty
      (snapshot.entries.map fun (key, value) => entryVar key value)
    rwa [ofSnapshot_eq_ok_iff.mp h] at hbounded
  constructor
  case length_le =>
    have hlength := hb.length_le
    rwa [hvars, List.length_map] at hlength
  case sum_le =>
    have hused := hb.used_le
    rwa [hb.used_eq_sum, ← varBytes, hvars, varBytes_map_entryVar] at hused

theorem exists_ofSnapshot_iff :
    (∃ env, ofSnapshot snapshot = .ok env) ↔ HasRoom snapshot.entries :=
  ⟨fun ⟨_, h⟩ => hasRoom_of_ofSnapshot h, ofSnapshot_of_hasRoom⟩

/-- Whatever variable is refused, the caller is told the same. -/
theorem ofSnapshot_eq_error (h : ¬ ∃ env, ofSnapshot snapshot = .ok env) :
    ofSnapshot snapshot = .error .allocationFailure := by
  cases hr : ofEntries snapshot.entries with
  | error refused => rw [ofSnapshot, hr, Except.mapError]
  | ok env => exact absurd ⟨env, Result.mapError_eq_ok.mpr hr⟩ h

end

/-- **Capacity.** An environment is made of a snapshot exactly when the snapshot has at most 63
entries and these take at most 2048 bytes. It then holds one variable for each entry, in order;
otherwise the answer is that there is no room. So whatever entries are left out of a snapshot that
is accepted, the others are accepted. -/
theorem ofSnapshot_fits (snapshot : Snapshot) :
    ((∃ env, ofSnapshot snapshot = .ok env) ↔
      snapshot.entries.length ≤ 63 ∧
        (snapshot.entries.map fun (key, value) =>
          13 + key.utf8ByteSize + 1 + value.utf8ByteSize + 1).sum ≤ 2048) ∧
    (∀ env, ofSnapshot snapshot = .ok env →
      env.vars = snapshot.entries.map fun (key, value) => "POWER_SUPPLY_" ++ key ++ "=" ++ value) ∧
    ((¬ ∃ env, ofSnapshot snapshot = .ok env) →
      ofSnapshot snapshot = .error .allocationFailure) ∧
    ∀ fewer : List (String × String), fewer.Sublist snapshot.entries →
      (∃ env, ofSnapshot snapshot = .ok env) → ∃ env, ofSnapshot ⟨fewer⟩ = .ok env := by
  refine ⟨?_, fun env h => vars_of_ofSnapshot h, ofSnapshot_eq_error, fun fewer hs h => ?_⟩
  · rw [exists_ofSnapshot_iff]
    exact ⟨fun h => ⟨h.length_le, h.sum_le⟩, fun ⟨hlength, hsum⟩ => ⟨hlength, hsum⟩⟩
  · rw [exists_ofSnapshot_iff] at h ⊢
    exact h.sublist hs

/-- Thirty-two entries of 64 bytes fill the buffer, and one byte more does not fit. -/
example :
    let value := String.ofList (List.replicate 48 'x')
    (ofSnapshot ⟨List.replicate 32 ("K", value)⟩).isOk = true ∧
      (ofSnapshot ⟨List.replicate 31 ("K", value) ++ [("K2", value)]⟩).isOk = false := by
  decide +kernel

end Uevent
end PowerClass
