import Mathlib.Algebra.GroupWithZero.Nat
import PowerClass.Proofs.Uevent.Listener

/-!
# PowerClass.Proofs.Uevent.Limits

The limits of an environment, over any number of calls that add a variable to it.

* `Bounded`: the count of bytes is that of the variables that are held, and neither limit is passed.
* `bounded_addVar`, `bounded_addVars`: a call keeps an environment within its limits, whatever it
  answers, and so does a run of calls.
* `Serves`: a call is accepted exactly when its variable fits, and leaves no trace otherwise.
* `vars_addVars`: after a run, the variables that were accepted are held in order.
* `addVars_within_limits`: all this holds at every point of every run.
* `ofSnapshot_eq_ok_iff`: the environment of a snapshot is that of a run without a refusal.
-/

namespace PowerClass
namespace Uevent
namespace Environment

/-- What an environment says of its bytes is true, and it is within its limits. -/
structure Bounded (env : Environment) : Prop where
  used_eq_sum : env.used = (env.vars.map fun var => var.utf8ByteSize + 1).sum
  used_eq_length : env.used = env.toBytes.length
  used_le : env.used ≤ 2048
  length_le : env.vars.length ≤ 63

/-- There is a slot for a variable, and room for its bytes and their NUL. -/
def Fits (env : Environment) (var : String) : Prop :=
  env.vars.length < 63 ∧ env.used + var.utf8ByteSize + 1 ≤ 2048

/-- A run of calls: what each was told, and the environment that is left. -/
def addVars (vars : List String) (env : Environment) :
    List (Except AccessError Unit) × Environment :=
  vars.mapM addVar env

/-- The variables that were accepted, in order. -/
def accepted : List String → List (Except AccessError Unit) → List String
  | var :: vars, .ok () :: answers => var :: accepted vars answers
  | _ :: vars, .error _ :: answers => accepted vars answers
  | _, _ => []

/-- The environment with one variable more. -/
def append (env : Environment) (var : String) : Environment :=
  ⟨env.vars ++ [var], env.used + (var.utf8ByteSize + 1)⟩

theorem add_of_fits {env : Environment} {var : String} (h : env.Fits var) :
    env.add var = .ok (env.append var) := by
  obtain ⟨hslot, hroom⟩ := h
  have hs : ¬ slots - 1 ≤ env.vars.length := Nat.not_le.mpr hslot
  have hr : ¬ bufferSize - env.used ≤ var.utf8ByteSize := by
    unfold bufferSize
    omega
  rw [add, if_neg hs, if_neg hr, append]

theorem add_of_not_fits {env : Environment} {var : String} (h : ¬ env.Fits var) :
    ∃ refusal, env.add var = .error refusal := by
  unfold add
  split
  · exact ⟨_, rfl⟩
  · next hs =>
    rw [if_pos]
    · exact ⟨_, rfl⟩
    · unfold Fits at h
      unfold slots at hs
      unfold bufferSize
      omega

theorem addVar_of_fits {env : Environment} {var : String} (h : env.Fits var) :
    addVar var env = (.ok (), env.append var) := by
  have hrun : (addVar var).run env = pure (.ok (), env.append var) := by
    simp [addVar, add_of_fits h]
  exact hrun

theorem addVar_of_not_fits {env : Environment} {var : String} (h : ¬ env.Fits var) :
    addVar var env = (.error .allocationFailure, env) := by
  obtain ⟨refusal, hr⟩ := add_of_not_fits h
  have hrun : (addVar var).run env = pure (.error .allocationFailure, env) := by
    simp [addVar, hr]
  exact hrun

/-! ## Limits -/

theorem bounded_empty : Bounded empty :=
  ⟨rfl, rfl, Nat.zero_le _, Nat.zero_le _⟩

theorem toBytes_append (env : Environment) (var : String) :
    (env.append var).toBytes = env.toBytes ++ (Text.bytes var ++ [nul]) := by
  rw [toBytes, append, List.flatMap_append, List.flatMap_singleton]
  rfl

theorem Bounded.append {env : Environment} (h : env.Bounded) {var : String} (hf : env.Fits var) :
    (env.append var).Bounded where
  used_eq_sum := by
    rw [Environment.append, List.map_append, List.sum_append, ← h.used_eq_sum]
    rfl
  used_eq_length := by
    rw [toBytes_append, List.length_append, List.length_append, ← h.used_eq_length,
      Text.length_bytes]
    rfl
  used_le := hf.2
  length_le := by
    rw [Environment.append, List.length_append]
    exact hf.1

/-- A call keeps an environment within its limits, whatever it answers. -/
theorem bounded_addVar {env : Environment} (h : env.Bounded) (var : String) :
    (addVar var env).2.Bounded := by
  by_cases hf : env.Fits var
  · rw [addVar_of_fits hf]
    exact h.append hf
  · rw [addVar_of_not_fits hf]
    exact h

@[simp] theorem addVars_nil (env : Environment) : addVars [] env = ([], env) := rfl

theorem addVars_cons (var : String) (rest : List String) (env : Environment) :
    addVars (var :: rest) env =
      ((addVar var env).1 :: (addVars rest (addVar var env).2).1,
        (addVars rest (addVar var env).2).2) := by
  rw [addVars, List.mapM_cons]
  rfl

theorem bounded_addVars {env : Environment} (h : env.Bounded) (vars : List String) :
    (addVars vars env).2.Bounded := by
  induction vars generalizing env with
  | nil => exact h
  | cons var rest ih =>
    rw [addVars_cons]
    exact ih (bounded_addVar h var)

/-! ## Calls -/

theorem addVars_of_not_fits {env : Environment} {vars : List String}
    (h : ∀ var ∈ vars, ¬ env.Fits var) :
    addVars vars env = (vars.map fun _ => .error .allocationFailure, env) := by
  induction vars with
  | nil => rfl
  | cons var rest ih =>
    rw [List.forall_mem_cons] at h
    rw [addVars_cons, addVar_of_not_fits h.1, ih h.2, List.map_cons]

/-- What was accepted is held after what was there, and nothing else is. -/
theorem vars_addVars (vars : List String) (env : Environment) :
    (addVars vars env).2.vars = env.vars ++ accepted vars (addVars vars env).1 := by
  induction vars generalizing env with
  | nil => simp [accepted]
  | cons var rest ih =>
    rw [addVars_cons, ih]
    by_cases hf : env.Fits var
    · rw [addVar_of_fits hf]
      simp [accepted, append]
    · rw [addVar_of_not_fits hf]
      simp [accepted]

/-- The answers to the calls that an environment can get. -/
structure Serves (env : Environment) : Prop where
  accepts_iff : ∀ var, (addVar var env).1 = .ok () ↔
    env.vars.length < 63 ∧ env.used + var.utf8ByteSize + 1 ≤ 2048
  accepted : ∀ var, (addVar var env).1 = .ok () →
    (addVar var env).2 = ⟨env.vars ++ [var], env.used + (var.utf8ByteSize + 1)⟩
  refused : ∀ var, (addVar var env).1 ≠ .ok () →
    addVar var env = (.error .allocationFailure, env)
  after_refused : ∀ vars, (∀ var ∈ vars, (addVar var env).1 ≠ .ok ()) →
    (addVars vars env).2 = env

theorem accepts_iff {env : Environment} {var : String} :
    (addVar var env).1 = .ok () ↔ env.Fits var := by
  by_cases hf : env.Fits var
  · simp [addVar_of_fits hf, hf]
  · simp [addVar_of_not_fits hf, hf]

theorem serves (env : Environment) : env.Serves where
  accepts_iff _ := accepts_iff
  accepted var h := by
    rw [addVar_of_fits (accepts_iff.mp h)]
    rfl
  refused var h := addVar_of_not_fits (mt accepts_iff.mpr h)
  after_refused vars h := by
    rw [addVars_of_not_fits fun var hv => mt accepts_iff.mpr (h var hv)]

/-- **Limits of an environment.** At every point of every run of calls, whatever they were answered,
the environment holds what was accepted, in order, is within its limits, counts its bytes rightly,
and answers the next call by what fits it. -/
theorem addVars_within_limits (vars : List String) :
    let run := addVars vars empty
    run.2.vars = accepted vars run.1 ∧ run.2.Bounded ∧ run.2.Serves :=
  ⟨vars_addVars vars empty, bounded_addVars bounded_empty vars, serves _⟩

/-- Thirty-two variables of 63 bytes fill the buffer to its last byte. -/
example :
    (addVars (List.replicate 32 (String.ofList (List.replicate 63 'x'))) empty).2.used = 2048 := by
  decide +kernel

/-! ## Snapshots -/

theorem addAll_eq_ok_iff {env last : Environment} {vars : List String} :
    env.addAll vars = .ok last ↔ addVars vars env = (vars.map fun _ => .ok (), last) := by
  induction vars generalizing env with
  | nil => simp [addAll]
  | cons var rest ih =>
    rw [addVars_cons, addAll]
    by_cases hf : env.Fits var
    · simp [add_of_fits hf, addVar_of_fits hf, ih, Prod.ext_iff]
    · obtain ⟨refusal, hr⟩ := add_of_not_fits hf
      simp [hr, addVar_of_not_fits hf]

end Environment

/-- The environment of a snapshot is that of a run in which every call is accepted. -/
theorem ofSnapshot_eq_ok_iff {snapshot : Snapshot} {env : Environment} :
    ofSnapshot snapshot = .ok env ↔
      Environment.addVars (snapshot.entries.map fun (key, value) => entryVar key value) .empty =
        (snapshot.entries.map fun _ => .ok (), env) := by
  rw [ofSnapshot, Result.mapError_eq_ok, ofEntries, Environment.addAll_eq_ok_iff, List.map_map]
  rfl

end Uevent
end PowerClass
