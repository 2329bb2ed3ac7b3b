import PowerClass.Disk.Tree
import PowerClass.Proofs.Disk.Path
import PowerClass.Proofs.Result

/-!
# PowerClass.Proofs.Disk.Tree

Trees of files seen through what their paths lead to, and the disks whose files are such a tree.

* `resolve_join`: the place of a name below a directory.
* `mem_of_find_join`: what a name leads to below a directory is listed there.
* `Rewrites`: a write to a file that is there changes what is found by the paths to this file, and
  nothing else (`rewrites_of_writeText`).
* `readText_of_writeText`, `find_of_writeText_self`: what was written is read, and writing it once
  more changes nothing.
* `Disk.Quiet`: a disk that does not change while it is only read, and `TreeDisk`: one that is read
  like a tree, and whose writes replace the text of a file or fail without effect.
-/

namespace PowerClass
namespace Tree

variable {tree : Tree}

/-! ## Places -/

theorem lookup_filter_ne {place other : Place} (h : other ≠ place)
    (nodes : List (Place × TreeNode)) :
    (nodes.filter fun entry => entry.1 != place).lookup other = nodes.lookup other := by
  induction nodes with
  | nil => rfl
  | cons entry rest ih =>
    obtain ⟨key, node⟩ := entry
    rw [List.filter_cons, List.lookup_cons]
    by_cases hk : key = place
    · have hb : (other == key) = false := beq_eq_false_iff_ne.mpr (hk ▸ h)
      simp [hk, ih, hk ▸ hb]
    · simp [hk, List.lookup_cons, ih]

theorem get?_put {place : Place} (hp : place ≠ []) (node : TreeNode) (other : Place) :
    (tree.put place node).get? other = if other = place then some node else tree.get? other := by
  unfold get? put
  by_cases ho : other = []
  · have hne : other ≠ place := fun he => hp (he.symm.trans ho)
    rw [if_pos ho, if_pos ho, if_neg hne]
  · rw [if_neg ho, if_neg ho]
    by_cases he : other = place
    · simp [he]
    · have hb : (other == place) = false := beq_eq_false_iff_ne.mpr he
      simp only [List.lookup_cons, hb, if_neg he, lookup_filter_ne he]

theorem ne_nil_of_get?_file {place : Place} {content : Content} {permissions : Nat}
    (h : tree.get? place = some (.file content permissions)) : place ≠ [] := by
  rintro rfl
  cases h

theorem ne_nil_of_get?_none {place : Place} (h : tree.get? place = none) : place ≠ [] := by
  rintro rfl
  cases h

theorem walk_append (tree : Tree) (place : Place) (first rest : List String) :
    tree.walk place (first ++ rest) =
      tree.walk place first >>= fun place => tree.walk place rest := by
  induction first generalizing place with
  | nil => rfl
  | cons step others ih =>
    rw [List.cons_append, walk, walk]
    split
    · rfl
    · rfl
    · by_cases hhere : step = "."
      · rw [if_pos hhere, if_pos hhere, ih]
      · by_cases hup : step = ".."
        · rw [if_neg hhere, if_neg hhere, if_pos hup, if_pos hup, ih]
        · rw [if_neg hhere, if_neg hhere, if_neg hup, if_neg hup, ih]

theorem walk_component {place : Place} {name : String} (h : Path.IsComponent name)
    (hd : tree.get? place = some .directory) : tree.walk place [name] = .ok (name :: place) := by
  rw [walk, hd]
  simp [h.ne_here, h.ne_up, walk]

/-- The place of a name below a directory. -/
theorem resolve_join {path : Path} {place : Place} {name : String} (h : Path.IsComponent name)
    (hr : tree.resolve path = .ok place) (hd : tree.get? place = some .directory) :
    tree.resolve (path.join name) = .ok (name :: place) := by
  unfold resolve at hr ⊢
  rw [Path.join_isAbsolute h, Path.join_steps h]
  split at hr
  · next ha => rw [if_pos ha, walk_append, hr]; exact walk_component h hd
  · next ha =>
    split at hr
    · cases hr
    · rw [if_neg ha, if_neg (by simp), walk_append, hr]
      exact walk_component h hd

theorem find_eq_ok_iff {path : Path} {node : TreeNode} :
    tree.find path = .ok node ↔
      ∃ place, tree.resolve path = .ok place ∧ tree.get? place = some node := by
  unfold find
  cases tree.resolve path with
  | error e => simp
  | ok place => cases hg : tree.get? place <;> simp [hg]

/-! ## What is there -/

def isFile (tree : Tree) (path : Path) : Bool :=
  (tree.status path).any fun file => file.kind == .regular

def isDirectory (tree : Tree) (path : Path) : Bool :=
  (tree.status path).any fun file => file.kind == .directory

def isWritable (tree : Tree) (path : Path) : Bool :=
  (tree.status path).any fun file => file.isWritable

theorem isFile_iff {path : Path} :
    tree.isFile path = true ↔
      ∃ content permissions, tree.find path = .ok (.file content permissions) := by
  unfold isFile status
  split <;> simp [*]

theorem isDirectory_iff {path : Path} :
    tree.isDirectory path = true ↔ tree.find path = .ok .directory := by
  unfold isDirectory status
  split <;> simp [*]

theorem isWritable_of_file {path : Path} {content : Content} {permissions : Nat}
    (h : tree.find path = .ok (.file content permissions)) :
    tree.isWritable path = allowsWriting permissions := by
  simp [isWritable, status, h]

theorem readText_of_file {path : Path} {text : String} {permissions : Nat}
    (h : tree.find path = .ok (.file (.text text) permissions)) :
    tree.readText path = .ok text := by
  simp [readText, h]

/-! ## Listing a directory -/

/-- What can be listed is a directory, and the list is of what stands directly below its place. -/
theorem exists_place_of_listDirectory {root : Path} {names : List String}
    (h : tree.listDirectory root = .ok names) :
    ∃ place, tree.resolve root = .ok place ∧ tree.get? place = some .directory ∧
      ∀ name, name ∈ names ↔ ∃ node, (name :: place, node) ∈ tree.nodes := by
  unfold listDirectory at h
  split at h
  · cases h
  · next place hr =>
    split at h
    · cases h
    · cases h
    · next hd =>
      obtain rfl := Except.ok.inj h
      refine ⟨place, hr, hd, fun name => ?_⟩
      rw [List.mem_filterMap]
      constructor
      · rintro ⟨⟨there, node⟩, hm, he⟩
        cases there with
        | nil => cases he
        | cons other parent =>
          obtain ⟨rfl, hname⟩ := Option.ite_none_right_eq_some.mp he
          cases hname
          exact ⟨node, hm⟩
      · rintro ⟨node, hm⟩
        exact ⟨_, hm, by simp⟩

/-- Whatever a name leads to below a directory is in the list of the directory. -/
theorem mem_of_find_join {root : Path} {names : List String}
    (h : tree.listDirectory root = .ok names) {name : String} (hc : Path.IsComponent name)
    {node : TreeNode} (hf : tree.find (root.join name) = .ok node) : name ∈ names := by
  obtain ⟨place, hr, hd, hnames⟩ := exists_place_of_listDirectory h
  rw [find_eq_ok_iff, resolve_join hc hr hd] at hf
  obtain ⟨there, hthere, hg⟩ := hf
  obtain rfl := Except.ok.inj hthere
  rw [get?, if_neg (by simp)] at hg
  obtain ⟨before, after, he, -⟩ := List.lookup_eq_some_iff.mp hg
  exact (hnames name).mpr ⟨node, by simp [he]⟩

/-! ## Writing to a file -/

/-- The second tree is the first with a new text in the file that a path leads to. -/
structure Rewrites (before after : Tree) (path : Path) (text : String) : Prop where
  file : ∃ content permissions, before.find path = .ok (.file content permissions) ∧
    after.find path = .ok (.file (.text text) permissions)
  find_eq : ∀ other, before.resolve other ≠ before.resolve path →
    after.find other = before.find other

/-- Nothing is made by writing to a file that is there. -/
theorem Rewrites.find_eq_error {before after : Tree} {path other : Path} {text : String}
    (h : Rewrites before after path text) {e : FileError} (ho : before.find other = .error e) :
    after.find other = .error e := by
  rw [h.find_eq other, ho]
  intro hr
  obtain ⟨content, permissions, hf, -⟩ := h.file
  have hsame : before.find other = before.find path := by
    unfold find
    rw [hr]
  rw [hsame, hf] at ho
  cases ho

theorem walk_put {place : Place} {content : Content} {permissions : Nat}
    (h : tree.get? place = some (.file content permissions)) (content' : Content)
    (permissions' : Nat) (start : Place) (steps : List String) :
    (tree.put place (.file content' permissions')).walk start steps = tree.walk start steps := by
  induction steps generalizing start with
  | nil => rfl
  | cons step rest ih =>
    -- A file is no step of a way, whatever it holds.
    rw [walk, walk, get?_put (ne_nil_of_get?_file h)]
    by_cases hs : start = place
    · rw [if_pos hs, hs, h]
    · rw [if_neg hs]
      simp only [ih]

theorem resolve_put {place : Place} {content : Content} {permissions : Nat}
    (h : tree.get? place = some (.file content permissions)) (content' : Content)
    (permissions' : Nat) (path : Path) :
    (tree.put place (.file content' permissions')).resolve path = tree.resolve path := by
  unfold resolve
  have hhere : (tree.put place (.file content' permissions')).here = tree.here := rfl
  rw [walk_put h, walk_put h, hhere]

/-- Writing to a file that is there replaces what it holds. -/
theorem writeText_of_file {path : Path} {place : Place} {content : Content} {permissions : Nat}
    (hr : tree.resolve path = .ok place) (hg : tree.get? place = some (.file content permissions))
    (text : String) :
    tree.writeText path text = .ok (tree.put place (.file (.text text) permissions)) := by
  unfold writeText
  rw [hr]
  simp only [hg]

theorem rewrites_of_writeText {after : Tree} {path : Path} {text : String} {content : Content}
    {permissions : Nat} (hf : tree.find path = .ok (.file content permissions))
    (h : tree.writeText path text = .ok after) : Rewrites tree after path text := by
  obtain ⟨place, hr, hg⟩ := find_eq_ok_iff.mp hf
  rw [writeText_of_file hr hg] at h
  cases h
  have hp := ne_nil_of_get?_file hg
  constructor
  case file =>
    refine ⟨content, permissions, hf, find_eq_ok_iff.mpr ⟨place, ?_, ?_⟩⟩
    · rw [resolve_put hg, hr]
    · rw [get?_put hp, if_pos rfl]
  case find_eq =>
    intro other hne
    unfold find
    rw [resolve_put hg]
    cases ho : tree.resolve other with
    | error e => rfl
    | ok there =>
      have hthere : there ≠ place := by
        rintro rfl
        exact hne (ho.trans hr.symm)
      simp only [get?_put hp, if_neg hthere]

/-- A way that leads somewhere goes through no place where nothing stands, so it is the same when
something is put there. -/
theorem walk_put_of_none {place there : Place} (h : tree.get? place = none) (node : TreeNode)
    {start : Place} {steps : List String} (hw : tree.walk start steps = .ok there) :
    (tree.put place node).walk start steps = .ok there := by
  induction steps generalizing start with
  | nil => exact hw
  | cons step rest ih =>
    rw [walk] at hw ⊢
    rw [get?_put (ne_nil_of_get?_none h)]
    by_cases hs : start = place
    · rw [hs, h] at hw
      cases hw
    · rw [if_neg hs]
      split at hw
      · cases hw
      · cases hw
      · split at hw
        · next hhere => rw [if_pos hhere, ih hw]
        · next hhere =>
          rw [if_neg hhere]
          split at hw
          · next hup => rw [if_pos hup, ih hw]
          · next hup => rw [if_neg hup, ih hw]

theorem resolve_put_of_none {place there : Place} (h : tree.get? place = none) (node : TreeNode)
    {path : Path} (hr : tree.resolve path = .ok there) :
    (tree.put place node).resolve path = .ok there := by
  unfold resolve at hr ⊢
  split at hr
  · next ha => rw [if_pos ha, walk_put_of_none h node hr]
  · next ha =>
    split at hr
    · cases hr
    · next hn => rw [if_neg ha, if_neg hn]; exact walk_put_of_none h node hr

theorem readText_put {path : Path} {place : Place} {text : String} {permissions : Nat}
    (hp : place ≠ [])
    (hr : (tree.put place (.file (.text text) permissions)).resolve path = .ok place) :
    (tree.put place (.file (.text text) permissions)).readText path = .ok text := by
  have hg : (tree.put place (.file (.text text) permissions)).get? place =
      some (.file (.text text) permissions) := by rw [get?_put hp, if_pos rfl]
  exact readText_of_file (find_eq_ok_iff.mpr ⟨place, hr, hg⟩)

/-- What was written is what is read, also from a file that was not there before. -/
theorem readText_of_writeText {after : Tree} {path : Path} {text : String}
    (h : tree.writeText path text = .ok after) : after.readText path = .ok text := by
  unfold writeText at h
  split at h
  · cases h
  · next place hr =>
    split at h
    · cases h
    · next content permissions hg =>
      cases h
      exact readText_put (ne_nil_of_get?_file hg) ((resolve_put hg _ _ path).trans hr)
    · next hg =>
      split at h
      · cases h
        exact readText_put (ne_nil_of_get?_none hg) (resolve_put_of_none hg _ hr)
      · cases h
      · cases h

theorem exists_file_of_readText {path : Path} {text : String}
    (h : tree.readText path = .ok text) :
    ∃ permissions, tree.find path = .ok (.file (.text text) permissions) := by
  unfold readText at h
  split at h
  · cases h
  · cases h
  · next permissions hf =>
    cases h
    exact ⟨permissions, hf⟩
  · cases h

/-- Writing a text over itself changes nothing that is found. -/
theorem find_of_writeText_self {after : Tree} {path : Path} {text : String}
    (hr : tree.readText path = .ok text) (h : tree.writeText path text = .ok after)
    (other : Path) : after.find other = tree.find other := by
  obtain ⟨permissions, hf⟩ := exists_file_of_readText hr
  obtain ⟨place, hp, hg⟩ := find_eq_ok_iff.mp hf
  rw [writeText_of_file hp hg] at h
  cases h
  unfold find
  rw [resolve_put hg]
  cases tree.resolve other with
  | error e => rfl
  | ok there =>
    simp only [get?_put (ne_nil_of_get?_file hg)]
    by_cases ht : there = place
    · rw [if_pos ht, ht, hg]
    · rw [if_neg ht]

/-- Nothing is written to a directory, so what takes text and may be written is a file. -/
theorem exists_file_of_writeText {after : Tree} {path : Path} {text : String}
    (hp : tree.isWritable path = true) (h : tree.writeText path text = .ok after) :
    ∃ content permissions, tree.find path = .ok (.file content permissions) ∧
      allowsWriting permissions = true := by
  cases hf : tree.find path with
  | error e =>
    simp [isWritable, status, hf] at hp
  | ok node =>
    cases node with
    | directory =>
      obtain ⟨place, hr, hg⟩ := find_eq_ok_iff.mp hf
      simp [writeText, hr, hg] at h
    | file content permissions =>
      rw [isWritable_of_file hf] at hp
      exact ⟨content, permissions, rfl, hp⟩

end Tree

/-! ## Disks -/

/-- Reading a file, and asking what stands at a path, leave the disk as it is. -/
structure Disk.Quiet (σ : Type) [Disk (StateM σ)] : Prop where
  readText : ∀ path s, ((Disk.readText path : StateM σ _) s).2 = s
  status : ∀ path s, ((Disk.status path : StateM σ _) s).2 = s

/-- A disk whose files are those of a tree. Whatever only reads leaves it as it is, and a write
either changes the tree as writing does or is refused, for any reason, and changes nothing. -/
class TreeDisk (σ : Type) [Disk (StateM σ)] where
  tree : σ → Tree
  readText_eq : ∀ path s, (Disk.readText path : StateM σ _) s = ((tree s).readText path, s)
  status_eq : ∀ path s, (Disk.status path : StateM σ _) s = ((tree s).status path, s)
  listDirectory_eq : ∀ path s,
    (Disk.listDirectory path : StateM σ _) s = ((tree s).listDirectory path, s)
  writeText_cases : ∀ path text s,
    (∃ e, (Disk.writeText path text : StateM σ _) s = (.error e, s)) ∨
      ∃ s', (Disk.writeText path text : StateM σ _) s = (.ok (), s') ∧
        (tree s).writeText path text = .ok (tree s')

namespace TreeDisk

theorem quiet (σ : Type) [Disk (StateM σ)] [TreeDisk σ] : Disk.Quiet σ where
  readText path s := by rw [readText_eq]
  status path s := by rw [status_eq]

section

variable {σ : Type} [Disk (StateM σ)] [TreeDisk σ] {path : Path} {text : String} {s s' : σ}

/-- A write that succeeds is one of the tree. -/
theorem writeText_of_ok (h : (Disk.writeText path text : StateM σ _) s = (.ok (), s')) :
    (tree s).writeText path text = .ok (tree s') := by
  rcases writeText_cases path text s with ⟨e, he⟩ | ⟨after, he, ht⟩
  · rw [h] at he
    cases he
  · rw [h] at he
    cases he
    exact ht

theorem readText_of_writeText (h : (Disk.writeText path text : StateM σ _) s = (.ok (), s')) :
    (tree s').readText path = .ok text :=
  Tree.readText_of_writeText (writeText_of_ok h)

/-- Writing the text of a file again changes no file, whether the disk takes it or not. -/
theorem find_of_writeText_self (h : (tree s).readText path = .ok text) (other : Path) :
    (tree ((Disk.writeText path text : StateM σ _) s).2).find other = (tree s).find other := by
  rcases writeText_cases path text s with ⟨e, he⟩ | ⟨after, he, ht⟩
  · rw [he]
  · rw [he]
    exact Tree.find_of_writeText_self h ht other

end

instance : TreeDisk Tree where
  tree := id
  readText_eq _ _ := rfl
  status_eq _ _ := rfl
  listDirectory_eq _ _ := rfl
  writeText_cases path text s := by
    have hw : (Disk.writeText path text : StateM Tree _) s =
        Tree.update (fun tree => tree.writeText path text) s := rfl
    rw [hw]
    unfold Tree.update
    cases ht : s.writeText path text with
    | error e => exact .inl ⟨e, by simp only [ht]⟩
    | ok tree => exact .inr ⟨tree, by simp only [ht], ht⟩

end TreeDisk
end PowerClass
