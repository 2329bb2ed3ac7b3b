import PowerClass.Command.Output
import PowerClass.Proofs.Uevent.Listener
import PowerClass.Supply.Simulated

/-!
# PowerClass.Proofs.Uevent.Lines

The plain listing of a uevent, one variable after the other. The value of a property ends before its
first newline, but the name of a supply goes into its variable as it is.

* `lines_uevent`: every variable of a property is one line, and the variable of the name is as many
  lines as the name has.
* `oneLineEach_iff`: the listing has one line for each variable exactly when the name of the supply
  has no newline.
-/

namespace PowerClass
namespace Uevent

/-- The listing of an environment can be read line by line. -/
structure OneLineEach (env : Environment) : Prop where
  newline_not_mem : ∀ var ∈ env.vars, '\n' ∉ var.toList
  lines_eq : Text.lines (Output.uevent env) = env.vars
  isPrefix : ∀ line ∈ Text.lines (Output.uevent env), keyPrefix.toList <+: line.toList

theorem lines_output (env : Environment) :
    Text.lines (Output.uevent env) = env.vars.flatMap Text.segments := by
  have h : Output.uevent env =
      String.ofList (env.vars.flatMap fun var => var.toList ++ ['\n']) := by
    rw [← String.toList_inj, String.toList_ofList]
    simp [Output.uevent, Output.lines, String.toList_join, List.flatMap_map]
  rw [h, Text.lines_ofList_flatMap]

theorem newline_not_mem_entryVar {key value : String} (hk : Registry.IsName key)
    (hv : '\n' ∉ value.toList) : '\n' ∉ (entryVar key value).toList := by
  have hkey : '\n' ∉ key.toList := hk.not_mem (by decide)
  have hp : '\n' ∉ keyPrefix.toList := by decide
  simp [entryVar, String.toList_append, hkey, hp, hv]

theorem isPrefix_entryVar (key value : String) :
    keyPrefix.toList <+: (entryVar key value).toList := by
  simp [entryVar, String.toList_append]

section

variable {registry : Registry} {σ : Type} {supply : Supply (StateM σ)} {s : σ}
  {snapshot : Snapshot} {env : Environment}

/-- The variable of the name comes first, and the others are variables of properties. -/
theorem vars_of_snapshot (hw : registry.WellFormed)
    (hs : (supply.snapshot registry s).1 = .ok snapshot) (he : ofSnapshot snapshot = .ok env) :
    env.vars.head? = some (entryVar "NAME" supply.declaration.name) ∧
      ∀ var ∈ env.vars.tail, '\n' ∉ var.toList := by
  rw [vars_of_ofSnapshot he, Supply.entries_of_snapshot hs]
  refine ⟨rfl, fun var hm => ?_⟩
  obtain ⟨⟨key, value⟩, hentry, rfl⟩ := List.mem_map.mp hm
  obtain ⟨d, hd, rfl, v, line, -, rfl⟩ := Supply.exists_line?_of_mem_filterMap hentry
  exact newline_not_mem_entryVar (hw.isName d hd).toUpper (Text.newline_not_mem_firstLine _)

theorem lines_uevent (hw : registry.WellFormed)
    (hs : (supply.snapshot registry s).1 = .ok snapshot) (he : ofSnapshot snapshot = .ok env) :
    Text.lines (Output.uevent env) =
      Text.segments (entryVar "NAME" supply.declaration.name) ++ env.vars.tail := by
  obtain ⟨hhead, htail⟩ := vars_of_snapshot hw hs he
  have hself : env.vars.tail.flatMap Text.segments = env.vars.tail := by
    have hone : env.vars.tail.flatMap Text.segments = env.vars.tail.flatMap fun var => [var] :=
      List.flatMap_congr fun var hm => Text.segments_of_not_mem (htail var hm)
    rw [hone]
    simp
  rw [lines_output]
  conv => lhs; rw [← List.cons_head?_tail hhead, List.flatMap_cons, hself]

end

/-- **Lines of a uevent.** Whenever a snapshot of a built registry fits an environment, what its
properties say takes one line for each of them. The listing has one line for each variable, each
with the prefix, exactly when the name of the supply has no newline; the name alone can add lines. -/
theorem oneLineEach_iff {additions : List Addition} {registry : Registry}
    (hb : Registry.build additions = .ok registry) {σ : Type} {supply : Supply (StateM σ)} {s : σ}
    {snapshot : Snapshot} (hs : (supply.snapshot registry s).1 = .ok snapshot)
    {env : Environment} (he : ofSnapshot snapshot = .ok env) :
    (OneLineEach env ↔ '\n' ∉ supply.declaration.name.toList) ∧
      (∀ var ∈ env.vars, keyPrefix.toList <+: var.toList) ∧
      (∀ var ∈ env.vars.tail, '\n' ∉ var.toList) ∧
      Text.lines (Output.uevent env) =
        Text.segments (entryVar "NAME" supply.declaration.name) ++ env.vars.tail := by
  have hw := Registry.wellFormed_of_build hb
  obtain ⟨hhead, htail⟩ := vars_of_snapshot hw hs he
  have hlines := lines_uevent hw hs he
  have hprefix : ∀ var ∈ env.vars, keyPrefix.toList <+: var.toList := by
    intro var hm
    rw [vars_of_ofSnapshot he] at hm
    obtain ⟨⟨key, value⟩, -, rfl⟩ := List.mem_map.mp hm
    exact isPrefix_entryVar key value
  refine ⟨⟨fun h => ?_, fun hn => ?_⟩, hprefix, htail, hlines⟩
  · have hfirst := h.newline_not_mem _ (List.mem_of_mem_head? hhead)
    intro hm
    exact hfirst (by simp [entryVar, String.toList_append, hm])
  · have hfirst : '\n' ∉ (entryVar "NAME" supply.declaration.name).toList :=
      newline_not_mem_entryVar (by decide) hn
    have heq : Text.lines (Output.uevent env) = env.vars := by
      rw [hlines, Text.segments_of_not_mem hfirst, List.singleton_append,
        List.cons_head?_tail hhead]
    refine ⟨fun var hm => ?_, heq, fun line hm => ?_⟩
    · exact Text.newline_not_mem_of_mem_lines (heq ▸ hm)
    · exact hprefix line (heq ▸ hm)

theorem oneLineEach_iff_modelName :
    Registry.build [] = .ok .standard ∧
      (namedBattery.snapshot .standard (modelName "AB\nPOWER_SUPPLY_STATUS=Full")).1 =
        .ok ⟨[("NAME", "BAT0"), ("MODEL_NAME", "AB")]⟩ ∧
      ∃ env, ofSnapshot ⟨[("NAME", "BAT0"), ("MODEL_NAME", "AB")]⟩ = .ok env ∧
        OneLineEach env := by
  have hs : (namedBattery.snapshot .standard (modelName "AB\nPOWER_SUPPLY_STATUS=Full")).1 =
      .ok ⟨[("NAME", "BAT0"), ("MODEL_NAME", "AB")]⟩ := by decide +kernel
  have he : ofSnapshot ⟨[("NAME", "BAT0"), ("MODEL_NAME", "AB")]⟩ =
      .ok ⟨["POWER_SUPPLY_NAME=BAT0", "POWER_SUPPLY_MODEL_NAME=AB"], 50⟩ := rfl
  have hn : '\n' ∉ namedBattery.declaration.name.toList := by decide
  exact ⟨Registry.build_nil, hs, _, he,
    (oneLineEach_iff Registry.build_nil hs he).1.mpr hn⟩

/-- The description of a supply that declares nothing and has a newline in its name. -/
def twoLineName : String :=
  "[[supply]]\nname = \"BAT0\\nPOWER_SUPPLY_STATUS=Full\"\n"

/-- The name of a supply adds a line that looks like the variable of a property. -/
theorem lines_forged_status :
    Registry.build [] = .ok .standard ∧
      ∃ simulated state, Simulated.load .standard twoLineName = .ok [(simulated, state)] ∧
        simulated.supply.Validated .standard ∧ simulated.declaration.properties = [] ∧
        ∃ snapshot, (simulated.supply.snapshot .standard state).1 = .ok snapshot ∧
          ∃ env, ofSnapshot snapshot = .ok env ∧ env.vars.length = 1 ∧ ¬ OneLineEach env ∧
            Text.lines (Output.uevent env) =
              ["POWER_SUPPLY_NAME=BAT0", entryVar "STATUS" "Full"] := by
  refine ⟨Registry.build_nil,
    ⟨⟨"BAT0\nPOWER_SUPPLY_STATUS=Full", .unknown, []⟩, ⟨[]⟩, []⟩, ⟨⟨[]⟩, ⟨[]⟩⟩, by decide +kernel,
    ⟨_, _, [], rfl⟩, rfl, ⟨[("NAME", "BAT0\nPOWER_SUPPLY_STATUS=Full")]⟩, by decide +kernel,
    ⟨["POWER_SUPPLY_NAME=BAT0\nPOWER_SUPPLY_STATUS=Full"], 48⟩, rfl, rfl, fun h => ?_, ?_⟩
  · exact h.newline_not_mem _ List.mem_cons_self (by decide)
  · decide +kernel

end Uevent
end PowerClass
