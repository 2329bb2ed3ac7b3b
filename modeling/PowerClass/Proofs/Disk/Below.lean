import PowerClass.Proofs.Disk.Tree

/-!
# PowerClass.Proofs.Disk.Below

What stands directly below a directory, and nothing else of a tree.

* `AgreeBelow`: two trees have the same directly below a path. What is read there is the same
  (`readText_congr`, `status_congr`), and a text that is written to one file in both keeps it so.
* `OnlyBelow`: a tree that differs from another in what files directly below a path hold, and in
  nothing else. All paths lead where they led (`OnlyBelow.resolve_eq`), so it goes through a run.
* `LocalDisk`: a disk that refuses a text by the file that it is for.
-/

namespace PowerClass

/-- The permission bits of a file, none for a directory. -/
def TreeNode.permissions? : TreeNode → Option Nat
  | .directory => none
  | .file _ permissions => some permissions

namespace Tree

/-- A path leads to directories in which every name leads to the same. -/
structure AgreeBelow (path : Path) (first second : Tree) : Prop where
  directory : first.find path = .ok .directory
  directory' : second.find path = .ok .directory
  find_eq : ∀ name, Path.IsComponent name →
    first.find (path.join name) = second.find (path.join name)

/-- The second tree is the first, except for what files hold directly below a path. No file was made
or removed, and none got other permission bits. -/
structure OnlyBelow (path : Path) (before after : Tree) : Prop where
  here_eq : after.here = before.here
  permissions_eq : ∀ place,
    (after.get? place).map TreeNode.permissions? = (before.get? place).map TreeNode.permissions?
  get?_eq : ∀ place other, before.resolve path = .ok place →
    (∀ name, Path.IsComponent name → other ≠ name :: place) → after.get? other = before.get? other

variable {tree other : Tree} {path : Path} {name text : String}

theorem readText_congr (h : tree.find path = other.find path) :
    tree.readText path = other.readText path := by
  unfold readText
  rw [h]

theorem status_congr (h : tree.find path = other.find path) :
    tree.status path = other.status path := by
  unfold status
  rw [h]

/-! ## Places below a directory -/

theorem resolve_ne_join (hd : tree.find path = .ok .directory) (hc : Path.IsComponent name) :
    tree.resolve path ≠ tree.resolve (path.join name) := by
  obtain ⟨place, hr, hg⟩ := find_eq_ok_iff.mp hd
  rw [resolve_join hc hr hg, hr]
  intro h
  exact List.cons_ne_self name place (Except.ok.inj h).symm

theorem resolve_join_ne (hd : tree.find path = .ok .directory) (hc : Path.IsComponent name)
    {name' : String} (hc' : Path.IsComponent name') (hne : name' ≠ name) :
    tree.resolve (path.join name') ≠ tree.resolve (path.join name) := by
  obtain ⟨place, hr, hg⟩ := find_eq_ok_iff.mp hd
  rw [resolve_join hc hr hg, resolve_join hc' hr hg]
  intro h
  exact hne (List.head_eq_of_cons_eq (Except.ok.inj h))

/-! ## Agreement -/

theorem AgreeBelow.writeText {first second first' second' : Tree} {content : Content}
    {permissions : Nat} (h : AgreeBelow path first second) (hc : Path.IsComponent name)
    (hf : first.find (path.join name) = .ok (.file content permissions))
    (hw : first.writeText (path.join name) text = .ok first')
    (hw' : second.writeText (path.join name) text = .ok second') :
    AgreeBelow path first' second' := by
  have hf' := h.find_eq name hc ▸ hf
  have hr := rewrites_of_writeText hf hw
  have hr' := rewrites_of_writeText hf' hw'
  constructor
  case directory => rw [hr.find_eq path (resolve_ne_join h.directory hc), h.directory]
  case directory' => rw [hr'.find_eq path (resolve_ne_join h.directory' hc), h.directory']
  case find_eq =>
    intro other ho
    by_cases hne : other = name
    · subst hne
      obtain ⟨_, _, hbefore, hafter⟩ := hr.file
      obtain ⟨_, _, hbefore', hafter'⟩ := hr'.file
      rw [hf] at hbefore
      rw [hf'] at hbefore'
      cases hbefore
      cases hbefore'
      rw [hafter, hafter']
    · rw [hr.find_eq _ (resolve_join_ne h.directory hc ho hne),
        hr'.find_eq _ (resolve_join_ne h.directory' hc ho hne), h.find_eq other ho]

/-! ## Changes -/

namespace OnlyBelow

theorem refl (path : Path) (tree : Tree) : OnlyBelow path tree tree :=
  ⟨rfl, fun _ => rfl, fun _ _ _ _ => rfl⟩

section

variable {before after : Tree} (h : OnlyBelow path before after)
include h

theorem get?_of_directory {place : Place} (hd : before.get? place = some .directory) :
    after.get? place = some .directory := by
  have hp := h.permissions_eq place
  rw [hd] at hp
  cases ha : after.get? place with
  | none => simp [ha] at hp
  | some node =>
    cases node with
    | directory => rfl
    | file content permissions => simp [ha, TreeNode.permissions?] at hp

theorem get?_of_file {place : Place} {content : Content} {permissions : Nat}
    (hf : before.get? place = some (.file content permissions)) :
    ∃ content', after.get? place = some (.file content' permissions) := by
  have hp := h.permissions_eq place
  rw [hf] at hp
  cases ha : after.get? place with
  | none => simp [ha] at hp
  | some node =>
    cases node with
    | directory => simp [ha, TreeNode.permissions?] at hp
    | file content' permissions' =>
      simp only [ha, TreeNode.permissions?, Option.map_some, Option.some.injEq] at hp
      exact ⟨content', by rw [hp]⟩

theorem get?_of_none {place : Place} (hn : before.get? place = none) :
    after.get? place = none := by
  have hp := h.permissions_eq place
  rwa [hn, Option.map_none, Option.map_eq_none_iff] at hp

theorem walk_eq (place : Place) (steps : List String) :
    after.walk place steps = before.walk place steps := by
  induction steps generalizing place with
  | nil => rfl
  | cons step rest ih =>
    rw [walk, walk]
    cases hb : before.get? place with
    | none => rw [h.get?_of_none hb]
    | some node =>
      cases node with
      | directory =>
        rw [h.get?_of_directory hb]
        simp only [ih]
      | file content permissions =>
        obtain ⟨content', ha⟩ := h.get?_of_file hb
        rw [ha]

/-- All paths lead where they led. -/
theorem resolve_eq (other : Path) : after.resolve other = before.resolve other := by
  unfold resolve
  rw [h.walk_eq, h.walk_eq, h.here_eq]

theorem exists_file {other : Path} {content : Content} {permissions : Nat}
    (hf : before.find other = .ok (.file content permissions)) :
    ∃ content', after.find other = .ok (.file content' permissions) := by
  obtain ⟨place, hr, hg⟩ := find_eq_ok_iff.mp hf
  obtain ⟨content', ha⟩ := h.get?_of_file hg
  exact ⟨content', find_eq_ok_iff.mpr ⟨place, (h.resolve_eq other).trans hr, ha⟩⟩

theorem trans {last : Tree} (hl : OnlyBelow path after last) : OnlyBelow path before last where
  here_eq := hl.here_eq.trans h.here_eq
  permissions_eq place := (hl.permissions_eq place).trans (h.permissions_eq place)
  get?_eq place other hr ho :=
    (hl.get?_eq place other ((h.resolve_eq path).trans hr) ho).trans (h.get?_eq place other hr ho)

end

theorem writeText {before after : Tree} {content : Content} {permissions : Nat}
    (hd : before.find path = .ok .directory) (hc : Path.IsComponent name)
    (hf : before.find (path.join name) = .ok (.file content permissions))
    (hw : before.writeText (path.join name) text = .ok after) : OnlyBelow path before after := by
  obtain ⟨place, hr, hg⟩ := find_eq_ok_iff.mp hd
  have hjoin := resolve_join hc hr hg
  obtain ⟨_, hjoin', hfile⟩ := find_eq_ok_iff.mp hf
  rw [hjoin] at hjoin'
  cases hjoin'
  rw [writeText_of_file hjoin hfile] at hw
  cases hw
  constructor
  case here_eq => rfl
  case permissions_eq =>
    intro other
    rw [get?_put (ne_nil_of_get?_file hfile)]
    by_cases ho : other = name :: place
    · rw [if_pos ho, ho, hfile]
      rfl
    · rw [if_neg ho]
  case get?_eq =>
    intro place' other hr' ho
    rw [hr] at hr'
    cases hr'
    rw [get?_put (ne_nil_of_get?_file hfile), if_neg (ho name hc)]

end OnlyBelow
end Tree

/-- A disk that refuses a text by the file that it is for: by its content and permission bits, its
path and the text, and nothing else on the disk. -/
class LocalDisk (σ : Type) [Disk (StateM σ)] extends TreeDisk σ where
  writeText_congr : ∀ path text content permissions s s',
    (tree s).find path = .ok (.file content permissions) →
      (tree s').find path = .ok (.file content permissions) →
        ((Disk.writeText path text : StateM σ _) s).1 =
          ((Disk.writeText path text : StateM σ _) s').1

namespace LocalDisk

instance : LocalDisk Tree where
  writeText_congr path text content permissions s s' hf hf' := by
    have hok : ∀ t : Tree, t.find path = .ok (.file content permissions) →
        ((Disk.writeText path text : StateM Tree _) t).1 = .ok () := by
      intro t ht
      obtain ⟨place, hr, hg⟩ := Tree.find_eq_ok_iff.mp ht
      show (Tree.update (fun tree => tree.writeText path text) t).1 = .ok ()
      unfold Tree.update
      simp only [Tree.writeText_of_file hr hg]
    exact (hok s hf).trans (hok s' hf').symm

@[simp] theorem tree_eq (t : Tree) : (TreeDisk.tree t : Tree) = t := rfl

end LocalDisk
end PowerClass
