import PowerClass.Proofs.Disk.Below
import PowerClass.Proofs.Supply.Directory
import PowerClass.Uevent

/-!
# PowerClass.Proofs.Supply.Confined

A directory as a supply sees what stands directly below it and touches nothing else. Names of
properties are single steps of a path, so this is as true of properties that were added.

* `Session`: a directory is opened and then asked and told things, in any order.
* `Alike`: a computation that answers the same in related states, and leaves related states. It goes
  through sequences (`closed_alike`).
* `InStep`: the relation that a session keeps. The trees agree below the directory, and each is its
  first tree except there, so the files of the declared properties stay.
* `session_confined`: two sessions on disks that agree below a directory answer the same, and keep
  to that directory.
-/

namespace PowerClass

/-- What is asked of a supply: an operation, or the environment of a uevent. -/
inductive Request where
  | operation (op : Operation)
  | uevent

namespace Request

@[reducible] def Answer : Request → Type
  | .operation op => op.Answer
  | .uevent => Except AccessError Uevent.Environment

end Request

/-- A request and the answer to it. -/
structure Reply where
  request : Request
  answer : request.Answer

namespace Supply

variable {m : Type → Type} [Monad m]

def answer (supply : Supply m) (registry : Registry) : (request : Request) → m request.Answer
  | .operation op => supply.perform registry op
  | .uevent => supply.uevent registry

/-- Answers requests in order. -/
def answerAll (supply : Supply m) (registry : Registry) : List Request → m (List Reply)
  | [] => pure []
  | request :: rest => do
    let answer ← supply.answer registry request
    (⟨request, answer⟩ :: ·) <$> supply.answerAll registry rest

namespace Acting

variable [LawfulMonad m] {P : (α : Type) → m α → Prop} {supply : Supply m} (h : Acting P supply)
  (registry : Registry)
include h

theorem answer (request : Request) : P _ (supply.answer registry request) := by
  cases request with
  | operation op => exact h.perform registry op
  | uevent => exact h.closed.map _ (h.toAsking.snapshot registry)

theorem answerAll (requests : List Request) : P _ (supply.answerAll registry requests) := by
  induction requests with
  | nil => exact h.closed.pure _
  | cons request rest ih =>
    exact h.closed.bind (h.answer registry request) fun _ => h.closed.map _ ih

end Acting

/-! ## Two runs -/

section

variable {σ α : Type}

/-- In states that a relation holds of, the computation answers the same and leaves such states. -/
def Alike (I : σ → σ → Prop) (x : StateM σ α) : Prop :=
  ∀ s s', I s s' → (x s).1 = (x s').1 ∧ I (x s).2 (x s').2

theorem closed_alike (I : σ → σ → Prop) : Closed fun α => (Alike I : StateM σ α → Prop) where
  pure _ _ _ hs := ⟨rfl, hs⟩
  bind := by
    intro α β x f hx hf s s' hs
    obtain ⟨hanswer, hs⟩ := hx s s' hs
    have hb : ∀ t, (x >>= f) t = f (x t).1 (x t).2 := fun _ => rfl
    rw [hb, hb, ← hanswer]
    exact hf (x s).1 _ _ hs

end

end Supply

namespace Directory

open PowerClass.Tree (AgreeBelow OnlyBelow)
open TreeDisk (tree)

section

variable {m : Type → Type} [Monad m] [Disk m] (registry : Registry)

/-- What was opened answers requests in order. -/
def replies (requests : List Request) :
    Except OpenError Directory → m (Except OpenError (Directory × List Reply))
  | .error e => pure (.error e)
  | .ok directory =>
    (fun replies => .ok (directory, replies)) <$> directory.supply.answerAll registry requests

/-- A session with a directory: it is opened, and then asked. -/
def session (path : Path) (requests : List Request) :
    m (Except OpenError (Directory × List Reply)) := do
  replies registry requests (← Directory.open registry path)

end

variable {σ : Type} [Disk (StateM σ)] {registry : Registry} {path : Path}

/-- Two states to which two runs led. They agree below a path, and each is what its run began with,
except for what files hold there. -/
structure InStep [TreeDisk σ] (path : Path) (start start' s s' : σ) : Prop where
  agree : AgreeBelow path (tree s) (tree s')
  onlyBelow : OnlyBelow path (tree start) (tree s)
  onlyBelow' : OnlyBelow path (tree start') (tree s')

/-! ## Opening -/

section

variable [TreeDisk σ] (hw : registry.WellFormed)
include hw

theorem opened_congr {first second : Tree} (h : AgreeBelow path first second) (name : String) :
    opened registry path name first = opened registry path name second := by
  have hfilter : registry.descriptors.filter (isPresent first path) =
      registry.descriptors.filter (isPresent second path) := by
    refine List.filter_congr fun d hd => ?_
    have hfind := h.find_eq d.name (hw.isName d hd).isComponent
    rw [isPresent, isPresent, Tree.isFile, Tree.isFile, Tree.status_congr hfind]
  have htype := Tree.readText_congr (h.find_eq "type" (by decide))
  rw [opened, opened, hfilter, htype]

/-- The declared properties of a directory had files when it was opened. -/
theorem exists_file_of_open {s : σ} {directory : Directory}
    (ho : ((Directory.open registry path : StateM σ _) s).1 = .ok directory) :
    directory.path = path ∧ ∀ d ∈ directory.descriptors, ∃ content permissions,
      (tree s).find (path.join d.name) = .ok (.file content permissions) := by
  obtain ⟨name, -, rfl⟩ := (open_eq_ok_iff hw).mp ho
  refine ⟨rfl, fun d hd => ?_⟩
  obtain ⟨-, hp⟩ := List.mem_filter.mp hd
  simp only [isPresent, Bool.and_eq_true] at hp
  exact Tree.isFile_iff.mp hp.2

end

/-! ## The device -/

section

open Supply (Alike)

variable [LocalDisk σ] {start start' : σ} {name : String}

theorem alike_readText (hc : Path.IsComponent name) :
    Alike (InStep path start start') (Disk.readText (path.join name) : StateM σ _) := by
  intro s s' hs
  rw [TreeDisk.readText_eq, TreeDisk.readText_eq]
  exact ⟨Tree.readText_congr (hs.agree.find_eq name hc), hs⟩

theorem alike_isWritable (hc : Path.IsComponent name) :
    Alike (InStep path start start') (Disk.isWritable (path.join name) : StateM σ Bool) := by
  intro s s' hs
  rw [isWritable_disk, isWritable_disk, Tree.isWritable, Tree.isWritable,
    Tree.status_congr (hs.agree.find_eq name hc)]
  exact ⟨rfl, hs⟩

/-- A text for a file that was there at the start is refused in both runs, or written in both. -/
theorem alike_writeText (hc : Path.IsComponent name)
    (hf : ∃ content permissions,
      (tree start).find (path.join name) = .ok (.file content permissions)) (text : String) :
    Alike (InStep path start start') (Disk.writeText (path.join name) text : StateM σ _) := by
  intro s s' hs
  obtain ⟨initial, permissions, hf⟩ := hf
  obtain ⟨content, hf⟩ := hs.onlyBelow.exists_file hf
  have hf' := hs.agree.find_eq name hc ▸ hf
  have hanswer := LocalDisk.writeText_congr (path.join name) text content permissions s s' hf hf'
  refine ⟨hanswer, ?_⟩
  have hcases := TreeDisk.writeText_cases (path.join name) text s'
  rcases TreeDisk.writeText_cases (path.join name) text s with ⟨e, he⟩ | ⟨after, he, hwrite⟩
  · rcases hcases with ⟨e', he'⟩ | ⟨after', he', -⟩
    · rw [he, he']
      exact hs
    · rw [he, he'] at hanswer
      cases hanswer
  · rcases hcases with ⟨e', he'⟩ | ⟨after', he', hwrite'⟩
    · rw [he, he'] at hanswer
      cases hanswer
    · rw [he, he']
      exact ⟨hs.agree.writeText hc hf hwrite hwrite',
        hs.onlyBelow.trans (.writeText hs.agree.directory hc hf hwrite),
        hs.onlyBelow'.trans (.writeText hs.agree.directory' hc hf' hwrite')⟩

/-- All that the device of a directory does stays in step. -/
theorem Opened.acting {directory : Directory} (h : Opened registry directory)
    (hw : registry.WellFormed)
    (hf : ∀ d ∈ directory.descriptors, ∃ content permissions,
      (tree start).find (directory.path.join d.name) = .ok (.file content permissions)) :
    (directory.supply : Supply (StateM σ)).Acting fun _ =>
      Alike (InStep directory.path start start') := by
  have hclosed := Supply.closed_alike (InStep directory.path start start')
  have hmem : ∀ {id d}, directory.descriptor? id = some d →
      d ∈ directory.descriptors ∧ Path.IsComponent d.name := by
    intro id d hd
    have hm := List.mem_of_find?_eq_some hd
    exact ⟨hm, (hw.isName d (h.sublist.subset hm)).isComponent⟩
  refine ⟨⟨hclosed, fun id => ?_, fun id => ?_⟩, fun id value => ?_⟩
  · show Alike _ (directory.get id)
    unfold Directory.get
    cases hd : directory.descriptor? id with
    | none => exact hclosed.pure _
    | some d => exact hclosed.map _ (alike_readText (hmem hd).2)
  · show Alike _ (directory.isWritable id)
    unfold Directory.isWritable
    cases hd : directory.descriptor? id with
    | none => exact hclosed.pure _
    | some d => exact alike_isWritable (hmem hd).2
  · show Alike _ (directory.set id value)
    unfold Directory.set
    cases hd : directory.descriptor? id with
    | none => exact hclosed.pure _
    | some d =>
      obtain ⟨hm, hc⟩ := hmem hd
      simp only
      cases Codec.encode d.kind value with
      | error e => exact hclosed.pure _
      | ok text => exact hclosed.map _ (alike_writeText hc (hf d hm) _)

end

/-! ## Sessions -/

theorem session_eq {s : σ} {result : Except OpenError Directory}
    (ho : (Directory.open registry path : StateM σ _) s = (result, s)) (requests : List Request) :
    (session registry path requests : StateM σ _) s =
      (replies registry requests result : StateM σ _) s := by
  have hb : (session registry path requests : StateM σ _) s =
      (replies registry requests ((Directory.open registry path : StateM σ _) s).1 : StateM σ _)
        ((Directory.open registry path : StateM σ _) s).2 := rfl
  rw [hb, ho]

/-- **Confinement.** Let a registry be built, and let two disks agree on what stands directly below a
directory: which names are there, as files or directories, with which permission bits and contents.
A session with the directory gives the same answers on both, from what is declared on. It changes
nothing on either of them but what files directly below the directory hold, and leaves them in
agreement. -/
theorem session_confined [LocalDisk σ] {additions : List Addition}
    (hb : Registry.build additions = .ok registry) {s s' : σ}
    (h : AgreeBelow path (tree s) (tree s')) (requests : List Request) :
    let run := (session registry path requests : StateM σ _) s
    let run' := (session registry path requests : StateM σ _) s'
    run.1 = run'.1 ∧ InStep path s s' run.2 run'.2 := by
  have hw := Registry.wellFormed_of_build hb
  obtain ⟨result, hs, hs'⟩ : ∃ result,
      (Directory.open registry path : StateM σ _) s = (result, s) ∧
        (Directory.open registry path : StateM σ _) s' = (result, s') := by
    rw [open_eq hw, open_eq hw]
    cases path.fileName? with
    | none => exact ⟨_, rfl, rfl⟩
    | some name => exact ⟨_, rfl, by simp only [opened_congr hw h name]⟩
  have halike : Supply.Alike (InStep path s s')
      (replies registry requests result : StateM σ _) := by
    have hclosed := Supply.closed_alike (InStep path s s')
    cases result with
    | error e => exact hclosed.pure _
    | ok directory =>
      have ho := congrArg Prod.fst hs
      obtain ⟨rfl, hfiles⟩ := exists_file_of_open hw ho
      have hacting : (directory.supply : Supply (StateM σ)).Acting fun _ =>
          Supply.Alike (InStep directory.path s s') := (opened_of_open hw ho).acting hw hfiles
      exact hclosed.map _ (hacting.answerAll registry requests)
  simp only [session_eq hs, session_eq hs']
  exact halike s s' ⟨h, .refl _ _, .refl _ _⟩

/-- A tree with a battery whose charge limit may be written. -/
def hostTree : Tree :=
  ⟨[(["BAT0"], .directory), (["charge_control_limit", "BAT0"], .file (.text "100\n") 0o644)], []⟩

/-- The same battery in another place, beside another file. -/
def guestTree : Tree :=
  ⟨[(["class"], .directory), (["BAT0", "class"], .directory),
    (["charge_control_limit", "BAT0", "class"], .file (.text "100\n") 0o644),
    (["limit", "class"], .file (.text "7") 0o644)], ["class"]⟩

def lowerLimit : List Request :=
  [.operation (.storeAttribute "charge_control_limit" "60\n"), .uevent]

theorem agreeBelow_guestTree : AgreeBelow (.ofString "BAT0") hostTree guestTree where
  directory := by decide
  directory' := by decide
  find_eq name hc := by
    have hhost : hostTree.resolve ((Path.ofString "BAT0").join name) = .ok [name, "BAT0"] :=
      Tree.resolve_join hc (by decide) (by decide)
    have hguest : guestTree.resolve ((Path.ofString "BAT0").join name) =
        .ok [name, "BAT0", "class"] := Tree.resolve_join hc (by decide) (by decide)
    rw [Tree.find, Tree.find, hhost, hguest]
    by_cases hn : name = "charge_control_limit" <;>
      simp [Tree.get?, hostTree, guestTree, List.lookup_cons, hn]

/-- The limit of the guest is lowered with that of the host, and the other file stays. -/
theorem session_confined_guest :
    Registry.build [] = .ok .standard ∧ AgreeBelow (.ofString "BAT0") hostTree guestTree ∧
      ((session .standard (.ofString "BAT0") lowerLimit : StateM Tree _) hostTree).1 =
        ((session .standard (.ofString "BAT0") lowerLimit : StateM Tree _) guestTree).1 ∧
      ((session .standard (.ofString "BAT0") lowerLimit : StateM Tree _) guestTree).2.find
        ((Path.ofString "BAT0").join "charge_control_limit") = .ok (.file (.text "60") 0o644) ∧
      ((session .standard (.ofString "BAT0") lowerLimit : StateM Tree _) guestTree).2.get?
        ["limit", "class"] = some (.file (.text "7") 0o644) := by
  have hagree : AgreeBelow (.ofString "BAT0") (tree hostTree) (tree guestTree) :=
    agreeBelow_guestTree
  obtain ⟨hanswers, hin⟩ := session_confined Registry.build_nil hagree lowerLimit
  have hhost : ((session .standard (.ofString "BAT0") lowerLimit : StateM Tree _) hostTree).2.find
      ((Path.ofString "BAT0").join "charge_control_limit") = .ok (.file (.text "60") 0o644) := by
    decide +kernel
  have hchild := hin.agree.find_eq "charge_control_limit" (by decide)
  have hresolve : guestTree.resolve (.ofString "BAT0") = .ok ["BAT0", "class"] := by decide
  have houtside : ∀ name, Path.IsComponent name → ["limit", "class"] ≠ [name, "BAT0", "class"] := by
    simp
  have hother := hin.onlyBelow'.get?_eq _ _ hresolve houtside
  rw [LocalDisk.tree_eq, LocalDisk.tree_eq] at hchild hother
  exact ⟨Registry.build_nil, agreeBelow_guestTree, hanswers, hchild.symm.trans hhost, hother⟩

end Directory
end PowerClass
