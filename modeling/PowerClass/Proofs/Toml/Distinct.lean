import Mathlib.Data.List.Nodup
import Mathlib.Data.Option.Basic
import PowerClass.Toml.Reader

/-!
# PowerClass.Proofs.Toml.Distinct

No table of a document names a field twice. The reader adds a name only where it is not there yet,
and otherwise changes what a name holds, so that the names stay as they are.

* `Distinct`: no table in a value names a field twice.
* `Fields.Distinct.within`: a change at the end of a path keeps the names of all tables on the way
  apart if it keeps those of the table that it is made to.
* `Reader.readsDistinct`: all that is read, by one induction over values, items and fields.
* `distinct_of_read?`: the fields of a document.
-/

namespace PowerClass
namespace Toml

/-- No table in the value names a field twice. -/
inductive Distinct : Toml → Prop where
  | string (text : String) : Distinct (.string text)
  | integer (n : Int) : Distinct (.integer n)
  | float (literal : String) : Distinct (.float literal)
  | boolean (value : Bool) : Distinct (.boolean value)
  | datetime (literal : String) : Distinct (.datetime literal)
  | array {items : List Toml} : (∀ item ∈ items, Distinct item) → Distinct (.array items)
  | table {fields : List (String × Toml)} : (fields.map Prod.fst).Nodup →
      (∀ field ∈ fields, Distinct field.2) → Distinct (.table fields)

theorem Distinct.of_lookup {fields : List (String × Toml)} {name : String} {value : Toml}
    (h : (Toml.table fields).Distinct) (hl : fields.lookup name = some value) : value.Distinct := by
  obtain ⟨before, after, rfl, -⟩ := List.lookup_eq_some_iff.mp hl
  cases h with
  | table _ hfields => exact hfields (name, value) (by simp)

theorem Distinct.of_mem {items : List Toml} (h : (Toml.array items).Distinct) :
    ∀ item ∈ items, item.Distinct := by
  cases h with
  | array hitems => exact hitems

theorem Distinct.nodup {fields : List (String × Toml)} (h : (Toml.table fields).Distinct) :
    (fields.map Prod.fst).Nodup := by
  cases h with
  | table hn _ => exact hn

/-! ## Tables while they are read -/

/-- No table in what a key holds names a field twice. -/
inductive Node.Distinct : Node → Prop where
  | value {value : Toml} : value.Distinct → Distinct (.value value)
  | table {origin : Origin} {fields : Fields} : (fields.map Prod.fst).Nodup →
      (∀ field ∈ fields, Distinct field.2) → Distinct (.table origin fields)
  | tables {items : List Fields} : (∀ fields ∈ items, (fields.map Prod.fst).Nodup) →
      (∀ fields ∈ items, ∀ field ∈ fields, Distinct field.2) → Distinct (.tables items)

/-- No name is given twice, neither here nor in a table below. -/
structure Fields.Distinct (fields : Fields) : Prop where
  nodup : (fields.map Prod.fst).Nodup
  nodes : ∀ field ∈ fields, field.2.Distinct

theorem Node.distinct_table_iff {origin : Origin} {fields : Fields} :
    (Node.table origin fields).Distinct ↔ fields.Distinct := by
  constructor
  · rintro ⟨⟩
    next hd hn => exact ⟨hd, hn⟩
  · exact fun h => .table h.nodup h.nodes

theorem Node.distinct_tables_iff {items : List Fields} :
    (Node.tables items).Distinct ↔ ∀ fields ∈ items, fields.Distinct := by
  constructor
  · rintro ⟨⟩
    next hd hn => exact fun fields hm => ⟨hd fields hm, hn fields hm⟩
  · intro h
    exact .tables (fun fields hm => (h fields hm).nodup) fun fields hm => (h fields hm).nodes

namespace Fields

variable {fields result : Fields} {path : List String} {key : String} {node : Node} {value : Toml}

theorem distinct_nil : Fields.Distinct [] :=
  ⟨List.nodup_nil, nofun⟩

namespace Distinct

theorem of_lookup (h : fields.Distinct) (hl : fields.lookup key = some node) : node.Distinct := by
  obtain ⟨before, after, rfl, -⟩ := List.lookup_eq_some_iff.mp hl
  exact h.nodes (key, node) (by simp)

theorem concat (h : fields.Distinct) (hl : fields.lookup key = none) (hn : node.Distinct) :
    Fields.Distinct (fields ++ [(key, node)]) where
  nodup := by
    rw [List.map_append, List.map_singleton, ← List.concat_eq_append]
    refine h.nodup.concat fun hm => ?_
    obtain ⟨field, hf, hk⟩ := List.mem_map.mp hm
    exact bne_iff_ne.mp (List.lookup_eq_none_iff.mp hl field hf) hk.symm
  nodes := by
    refine List.forall_mem_append.mpr ⟨h.nodes, fun field hf => ?_⟩
    rwa [List.mem_singleton.mp hf]

theorem map_fst_replace (fields : Fields) (key : String) (node : Node) :
    (fields.replace key node).map Prod.fst = fields.map Prod.fst := by
  rw [replace, List.map_map]
  refine List.map_congr_left fun field _ => ?_
  by_cases hk : field.1 = key <;> simp [hk]

theorem replace (h : fields.Distinct) (hn : node.Distinct) :
    (fields.replace key node).Distinct where
  nodup := by
    rw [map_fst_replace]
    exact h.nodup
  nodes := by
    intro field hf
    obtain ⟨before, hb, rfl⟩ := List.mem_map.mp hf
    split
    · exact hn
    · exact h.nodes before hb

/-- The induction is on the path: each table on the way is replaced by what became of it. -/
theorem within {keys : Bool} {change : Origin → Fields → Option Fields} {origin : Origin}
    (hc : ∀ origin fields result, Fields.Distinct fields → change origin fields = some result →
      result.Distinct)
    (h : fields.Distinct) (hw : Fields.within keys change path origin fields = some result) :
    result.Distinct := by
  induction path generalizing origin fields result with
  | nil => exact hc origin fields result h hw
  | cons key path ih =>
    rw [Fields.within] at hw
    split at hw
    · next hl =>
      obtain ⟨sub, hs, rfl⟩ := Option.map_eq_some_iff.mp hw
      exact h.concat hl (Node.distinct_table_iff.mpr (ih distinct_nil hs))
    · next origin sub hl =>
      split at hw
      · cases hw
      · obtain ⟨changed, hs, rfl⟩ := Option.map_eq_some_iff.mp hw
        have hsub : Fields.Distinct sub := Node.distinct_table_iff.mp (h.of_lookup hl)
        exact h.replace (Node.distinct_table_iff.mpr (ih hsub hs))
    · next newest older hl =>
      obtain ⟨changed, hs, rfl⟩ := Option.map_eq_some_iff.mp hw
      obtain ⟨hnewest, holder⟩ :=
        List.forall_mem_cons.mp (Node.distinct_tables_iff.mp (h.of_lookup hl))
      exact h.replace (Node.distinct_tables_iff.mpr
        (List.forall_mem_cons.mpr ⟨ih hnewest hs, holder⟩))
    · cases hw
    · cases hw

theorem insert (h : fields.Distinct) (hv : value.Distinct)
    (hi : fields.insert path key value = some result) : result.Distinct := by
  refine h.within (fun origin fields result h hc => ?_) hi
  split at hc
  · cases hc
  split at hc
  · cases hc
  · next hl =>
    cases hc
    exact h.concat hl (.value hv)

theorem openTable (h : fields.Distinct) (ho : fields.openTable path key = some result) :
    result.Distinct := by
  refine h.within (fun _ fields result h hc => ?_) ho
  split at hc
  · next hl =>
    cases hc
    exact h.concat hl (Node.distinct_table_iff.mpr distinct_nil)
  · next sub hl =>
    cases hc
    have hsub : Fields.Distinct sub := Node.distinct_table_iff.mp (h.of_lookup hl)
    exact h.replace (Node.distinct_table_iff.mpr hsub)
  · cases hc

theorem openItem (h : fields.Distinct) (ho : fields.openItem path key = some result) :
    result.Distinct := by
  refine h.within (fun _ fields result h hc => ?_) ho
  split at hc
  · next hl =>
    cases hc
    exact h.concat hl (Node.distinct_tables_iff.mpr (by simp [distinct_nil]))
  · next items hl =>
    cases hc
    have hitems := Node.distinct_tables_iff.mp (h.of_lookup hl)
    exact h.replace (Node.distinct_tables_iff.mpr
      (List.forall_mem_cons.mpr ⟨distinct_nil, hitems⟩))
  · cases hc

theorem insertIn {section_ : List String} (h : fields.Distinct) (hv : value.Distinct)
    (hi : fields.insertIn section_ path key value = some result) : result.Distinct :=
  h.within (fun _ _ _ h hc => h.insert hv hc) hi

end Distinct
end Fields

/-! ## Finished values -/

theorem finishFields_eq_map (fields : Fields) :
    finishFields fields = fields.map fun field => (field.1, field.2.finish) := by
  induction fields with
  | nil => rfl
  | cons field rest ih => rw [finishFields, ih, List.map_cons]

theorem finishItems_eq_map (items : List Fields) :
    finishItems items = items.map fun fields => .table (finishFields fields) := by
  induction items with
  | nil => rfl
  | cons fields rest ih => rw [finishItems, ih, List.map_cons]

theorem map_fst_finishFields (fields : Fields) :
    (finishFields fields).map Prod.fst = fields.map Prod.fst := by
  rw [finishFields_eq_map, List.map_map]
  rfl

theorem distinct_finishFields {fields : Fields} (hd : (fields.map Prod.fst).Nodup)
    (hn : ∀ field ∈ fields, field.2.finish.Distinct) : (table (finishFields fields)).Distinct := by
  refine .table (by rwa [map_fst_finishFields]) fun field hf => ?_
  rw [finishFields_eq_map] at hf
  obtain ⟨before, hb, rfl⟩ := List.mem_map.mp hf
  exact hn before hb

theorem Node.Distinct.finish {node : Node} (h : node.Distinct) : node.finish.Distinct := by
  induction h with
  | value hv => rwa [Node.finish]
  | table hd _ ih =>
    rw [Node.finish]
    exact distinct_finishFields hd ih
  | tables hd _ ih =>
    rw [Node.finish]
    refine .array fun item hm => ?_
    rw [List.mem_reverse, finishItems_eq_map] at hm
    obtain ⟨fields, hf, rfl⟩ := List.mem_map.mp hm
    exact distinct_finishFields (hd fields hf) (ih fields hf)

theorem Fields.Distinct.finish {fields : Fields} (h : fields.Distinct) :
    (table (finishFields fields)).Distinct :=
  distinct_finishFields h.nodup fun field hf => (h.nodes field hf).finish

/-! ## Reading -/

namespace Reader

theorem distinct_ofChars? {cs : List Char} {value : Toml} (h : Scalar.ofChars? cs = some value) :
    value.Distinct := by
  unfold Scalar.ofChars? at h
  split at h
  · cases h
    exact .boolean _
  split at h
  · cases h
    exact .boolean _
  split at h
  · cases h
    exact .integer _
  split at h
  · cases h
    exact .float _
  split at h
  · cases h
    exact .datetime _
  · cases h

theorem distinct_scalar {cs rest : List Char} {value : Toml}
    (h : Scalar.read? cs = some (value, rest)) : value.Distinct := by
  obtain ⟨v, hv, he⟩ := Option.map_eq_some_iff.mp h
  cases he
  exact distinct_ofChars? hv

/-- What is read with some fuel names no field twice. -/
structure ReadsDistinct (fuel : Nat) : Prop where
  value : ∀ {levels cs value rest}, value? fuel levels cs = some (value, rest) → value.Distinct
  items : ∀ {levels cs items rest}, items? fuel levels cs = some (items, rest) →
    ∀ item ∈ items, item.Distinct
  fields : ∀ {levels before cs fields rest}, Fields.Distinct before →
    fields? fuel levels before cs = some (fields, rest) → fields.Distinct

theorem ReadsDistinct.value_succ {fuel : Nat} (h : ReadsDistinct fuel) {levels : Nat}
    {cs rest : List Char} {value : Toml} (hv : value? (fuel + 1) levels cs = some (value, rest)) :
    value.Distinct := by
  unfold value? at hv
  dsimp only at hv
  split at hv
  · obtain ⟨_, -, hv⟩ := Option.bind_eq_some_iff.mp hv
    obtain ⟨⟨items, _⟩, hitems, he⟩ := Option.bind_eq_some_iff.mp hv
    cases he
    exact .array (h.items hitems)
  · obtain ⟨_, -, hv⟩ := Option.bind_eq_some_iff.mp hv
    obtain ⟨⟨fields, _⟩, hfields, he⟩ := Option.bind_eq_some_iff.mp hv
    cases he
    exact (h.fields Fields.distinct_nil hfields).finish
  · obtain ⟨⟨text, _⟩, -, he⟩ := Option.bind_eq_some_iff.mp hv
    cases he
    exact .string text
  · obtain ⟨⟨text, _⟩, -, he⟩ := Option.bind_eq_some_iff.mp hv
    cases he
    exact .string text
  · exact distinct_scalar hv

theorem ReadsDistinct.items_succ {fuel : Nat} (h : ReadsDistinct fuel) {levels : Nat}
    {cs rest : List Char} {items : List Toml}
    (hi : items? (fuel + 1) levels cs = some (items, rest)) : ∀ item ∈ items, item.Distinct := by
  unfold items? at hi
  split at hi
  · cases hi
  · cases hi
    exact nofun
  · next hfuel _ =>
    cases hfuel
    simp only [Option.bind_eq_bind, Option.bind_eq_some_iff] at hi
    obtain ⟨⟨item, _⟩, hitem, hi⟩ := hi
    have hfirst : item.Distinct := h.value hitem
    split at hi
    · obtain ⟨⟨others, _⟩, hothers, he⟩ := Option.bind_eq_some_iff.mp hi
      cases he
      exact List.forall_mem_cons.mpr ⟨hfirst, h.items hothers⟩
    · cases hi
      exact List.forall_mem_singleton.mpr hfirst
    · cases hi

theorem ReadsDistinct.fields_succ {fuel : Nat} (h : ReadsDistinct fuel) {levels : Nat}
    {before fields : Fields} {cs rest : List Char} (hb : before.Distinct)
    (hf : fields? (fuel + 1) levels before cs = some (fields, rest)) : fields.Distinct := by
  unfold fields? at hf
  split at hf
  · cases hf
  · cases hf
    exact hb
  · next hfuel _ =>
    cases hfuel
    simp only [Option.bind_eq_bind, Option.bind_eq_some_iff] at hf
    obtain ⟨⟨path, key, _⟩, -, hf⟩ := hf
    split at hf
    · obtain ⟨⟨value, _⟩, hv, hf⟩ := Option.bind_eq_some_iff.mp hf
      obtain ⟨more, hi, hf⟩ := Option.bind_eq_some_iff.mp hf
      have hmore : more.Distinct := hb.insert (h.value hv) hi
      simp only at hf
      split at hf
      · exact h.fields hmore hf
      · cases hf
        exact hmore
      · cases hf
    · cases hf

/-- Values, items and fields take less fuel for what is in them, so the induction is on the fuel of
all three. -/
theorem readsDistinct (fuel : Nat) : ReadsDistinct fuel := by
  induction fuel with
  | zero =>
    constructor
    case value => exact nofun
    case items => exact nofun
    case fields => exact nofun
  | succ fuel ih => exact ⟨ih.value_succ, ih.items_succ, ih.fields_succ⟩

/-! ## Documents -/

/-- The path of the last header and the fields, after a line. -/
def Line.applyTo (section_ : List String) (fields : Fields) : Line → Option (List String × Fields)
  | .blank => some (section_, fields)
  | .header path key => (fields.openTable path key).map (path ++ [key], ·)
  | .item path key => (fields.openItem path key).map (path ++ [key], ·)
  | .field path key value => (fields.insertIn section_ path key value).map (section_, ·)

/-- The fields of a document when what is left of it comes after a line. -/
def rest? (fuel : Nat) (section_ : List String) (fields : Fields) : List Char → Option Fields
  | [] => some fields
  | c :: cs =>
    match fuel with
    | 0 => none
    | fuel + 1 =>
      match Quoted.newline? (c :: cs) with
      | some (_, cs) => document? fuel section_ fields cs
      | none => none

theorem document?_eq (fuel : Nat) (section_ : List String) (fields : Fields) (cs : List Char) :
    document? fuel section_ fields cs =
      (line? fuel cs).bind fun (line, cs) =>
        (line.applyTo section_ fields).bind fun (section_, fields) =>
          rest? fuel section_ fields (skipComment (skipBlanks cs)) := by
  -- The reader has no equation of its own for fuel that is not a number, so both sides are opened.
  cases fuel <;> delta rest? document?
  all_goals
    refine congrArg (Option.bind (line? _ cs)) (funext fun (line, cs) => ?_)
    dsimp only
    generalize skipComment (skipBlanks cs) = more
    cases more <;> cases line <;> rfl

/-- A document that is read: its first line, and then nothing or another document with less fuel. -/
theorem document?_cases {fuel : Nat} {section_ : List String} {before fields : Fields}
    {cs : List Char} (h : document? fuel section_ before cs = some fields) :
    ∃ line more next after, line? fuel cs = some (line, more) ∧
      line.applyTo section_ before = some (next, after) ∧
      (fields = after ∨
        ∃ less cs, fuel = less + 1 ∧ document? less next after cs = some fields) := by
  rw [document?_eq] at h
  obtain ⟨⟨line, more⟩, hl, h⟩ := Option.bind_eq_some_iff.mp h
  obtain ⟨⟨next, after⟩, ha, h⟩ := Option.bind_eq_some_iff.mp h
  refine ⟨line, more, next, after, hl, ha, ?_⟩
  simp only at h
  unfold rest? at h
  split at h
  · cases h
    exact .inl rfl
  split at h
  · cases h
  split at h
  · exact .inr ⟨_, _, rfl, h⟩
  · cases h

theorem distinct_line {fuel : Nat} {cs rest : List Char} {path : List String} {key : String}
    {value : Toml} (h : line? fuel cs = some (.field path key value, rest)) : value.Distinct := by
  unfold line? at h
  split at h
  · simp only [Option.bind_eq_bind, Option.bind_eq_some_iff] at h
    obtain ⟨_, -, h⟩ := h
    split at h <;> cases h
  · simp only [Option.bind_eq_bind, Option.bind_eq_some_iff] at h
    obtain ⟨_, -, h⟩ := h
    split at h <;> cases h
  · cases h
  · cases h
  · cases h
  · cases h
  · simp only [Option.bind_eq_bind, Option.bind_eq_some_iff] at h
    obtain ⟨_, -, h⟩ := h
    split at h
    · obtain ⟨⟨read, _⟩, hv, he⟩ := Option.bind_eq_some_iff.mp h
      cases he
      exact (readsDistinct _).value hv
    · cases h

theorem distinct_applyTo {fuel : Nat} {cs rest : List Char} {line : Line}
    (hl : line? fuel cs = some (line, rest)) {section_ next : List String}
    {before fields : Fields} (hb : before.Distinct)
    (h : line.applyTo section_ before = some (next, fields)) : fields.Distinct := by
  cases line with
  | blank =>
    cases h
    exact hb
  | header path key =>
    obtain ⟨_, ho, he⟩ := Option.map_eq_some_iff.mp h
    cases he
    exact hb.openTable ho
  | item path key =>
    obtain ⟨_, ho, he⟩ := Option.map_eq_some_iff.mp h
    cases he
    exact hb.openItem ho
  | field path key value =>
    obtain ⟨_, hi, he⟩ := Option.map_eq_some_iff.mp h
    cases he
    exact hb.insertIn (distinct_line hl) hi

theorem distinct_document {fuel : Nat} {section_ : List String} {before fields : Fields}
    {cs : List Char} (hb : before.Distinct)
    (h : document? fuel section_ before cs = some fields) : fields.Distinct := by
  induction fuel generalizing section_ before cs with
  | zero =>
    obtain ⟨_, _, _, after, hl, ha, rfl | ⟨less, _, hless, -⟩⟩ := document?_cases h
    · exact distinct_applyTo hl hb ha
    · cases hless
  | succ fuel ih =>
    obtain ⟨_, _, _, after, hl, ha, rfl | ⟨less, _, hless, hd⟩⟩ := document?_cases h
    · exact distinct_applyTo hl hb ha
    · cases hless
      exact ih (distinct_applyTo hl hb ha) hd

end Reader

/-- The fields of a document, and those of every table in it, have different names. -/
theorem distinct_of_read? {text : String} {fields : List (String × Toml)}
    (h : read? text = some fields) : (table fields).Distinct := by
  obtain ⟨read, hr, rfl⟩ := Option.map_eq_some_iff.mp h
  exact (Reader.distinct_document Fields.distinct_nil hr).finish

end Toml
end PowerClass
