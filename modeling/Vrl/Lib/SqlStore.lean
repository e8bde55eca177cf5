import Mathlib.Logic.Function.Basic
import Vrl.Lib.SqlTable

/-!
# Vrl.Lib.SqlStore

The tables of a relational database with their keys and references, and the commands that roles
send to it, under privileges and row security.

A command either raises, and nothing has changed, or does all of its work. An insertion checks
its own rows only. That is enough: what the tables declare holds of all rows in every state that
is reached (**`Sql.Store.consistent_run`**), as long as no row is updated or deleted. On tables
whose triggers raise on updates and deletions that is so, and what is left are insertions and
truncations by those who may make them (**`Sql.Store.exec_cases`**).
-/

namespace Sql.Store

variable {V : Type}

/-! ### Tables -/

/-- What may be granted on a table. -/
inductive Privilege where
  | select
  | insert
  | update
  | delete
  | truncate
  deriving DecidableEq, Repr

/-- A role that is not a member of others. Privileges and row security do not hold back a
superuser. -/
structure Role where
  name : String
  isSuperuser : Bool := false
  deriving DecidableEq, Repr

/-- A policy: the rows with which some roles may do one thing. -/
structure Policy (V : Type) where
  name : String
  command : Privilege
  roles : List String
  passes : Row V → Bool

/-- `REFERENCES`: a column whose values are those of a column of another table. -/
structure Reference where
  column : String
  table : String
  target : String

/-- The declaration of a table. -/
structure Relation (V : Type) where
  name : String
  columns : List Column
  hasType : String → V → Bool
  checks : List (Check V)
  keys : List String
  references : List Reference
  triggers : List (RowTrigger V)
  owner : String
  acl : List (String × Privilege)
  rowSecurity : Bool
  forcesRowSecurity : Bool
  policies : List (Policy V)

/-- The rows of each table. -/
abbrev Contents (V : Type) := String → List (Row V)

namespace Relation

variable (rel : Relation V)

/-- The names of the columns. -/
def names : List String := rel.columns.map Column.name

/-- The table with some rows. -/
def table (rows : List (Row V)) : Table V where
  name := rel.name
  columns := rel.columns
  rows := rows
  triggers := rel.triggers
  checks := rel.checks

/-- The role has a privilege. -/
def allows (role : Role) (privilege : Privilege) : Bool :=
  role.isSuperuser || rel.acl.contains (role.name, privilege)

/-- Row security does not apply to the role. -/
def bypasses (role : Role) : Bool :=
  role.isSuperuser || !rel.rowSecurity || (role.name == rel.owner && !rel.forcesRowSecurity)

/-- The policies let the role do this with a row. -/
def admits (role : Role) (command : Privilege) (row : Row V) : Bool :=
  rel.bypasses role || rel.policies.any fun policy =>
    policy.command == command && policy.roles.contains role.name && policy.passes row

end Relation

/-! ### Commands -/

/-- The errors of commands. -/
inductive StoreError where
  | undefinedTable (table : String)
  | permissionDenied (table : String)
  | rowSecurityViolation (table : String)
  | datatypeMismatch (column : String)
  | statement (e : Error)
  | uniqueViolation (table column : String)
  | foreignKeyViolation (table column : String)
  | truncatesReferenced (table : String)
  deriving DecidableEq, Repr

/-- The commands. An insertion may be into several tables; its rows have the defaults filled
in. The tables of a truncation are those that `CASCADE` adds, too. -/
inductive Command (V : Type) where
  | insert (entries : List (String × Row V))
  | update (table : String) (mentioned : List String) (condition : Row V → Bool)
      (values : Row V → List (String × Option V))
  | delete (table : String) (condition : Row V → Bool)
  | truncate (tables : List String)

/-- `BEFORE DELETE` and the deletion of one row. -/
def deleteRow (t : Table V) (selects : Row V → Bool) (row : Row V) :
    Except Error (List (Row V)) :=
  if selects row then
    match Table.fireBefore t.name .delete t.triggers row row with
    | .error e => .error e
    | .ok none => .ok [row]
    | .ok (some _) => .ok []
  else .ok [row]

/-- `DELETE FROM … WHERE …`. -/
def deleteFrom (t : Table V) (selects : Row V → Bool) : Except Error (Table V) := do
  let rows ← t.rows.mapM (deleteRow t selects)
  return { t with rows := rows.flatten }

section Exec

variable (schema : List (Relation V)) (same : V → V → Bool)

/-- Two values of a key are equal. `NULL` is not equal to anything. -/
def clashes : Option V → Option V → Bool
  | some v, some w => same v w
  | _, _ => false

/-- What the constraints of the table say of a row by itself. -/
def Relation.rowError (rel : Relation V) (row : Row V) : Option StoreError :=
  ((row.find? fun m => m.1 ∉ rel.names).map fun m =>
      .statement (.undefinedColumn m.1)).or <|
    ((row.find? fun m => !m.2.all (rel.hasType m.1)).map fun m => .datatypeMismatch m.1).or <|
    match (rel.table []).checkRow row with
    | .error e => some (.statement e)
    | .ok _ => none

/-- The first key of a row that is taken. -/
def Relation.takenKey (rel : Relation V) (rows : List (Row V)) (row : Row V) : Option String :=
  rel.keys.find? fun key => rows.any fun other => clashes same (other.value key) (row.value key)

/-- What is wrong with the insertion of a row, beside its references. -/
def Relation.insertError (rel : Relation V) (role : Role) (rows : List (Row V)) (row : Row V) :
    Option StoreError :=
  if !rel.allows role .insert then some (.permissionDenied rel.name)
  else if !rel.admits role .insert row then some (.rowSecurityViolation rel.name)
  else (rel.rowError row).or ((rel.takenKey same rows row).map (.uniqueViolation rel.name))

/-- The first reference of a row that leads to no row. -/
def Relation.unmet (rel : Relation V) (contents : Contents V) (row : Row V) : Option Reference :=
  rel.references.find? fun reference =>
    (row.value reference.column).isSome &&
      !(contents reference.table).any fun target =>
        clashes same (target.value reference.target) (row.value reference.column)

/-- The table of a name. -/
def findRelation (table : String) : Except StoreError (Relation V) :=
  match schema.find? fun rel => rel.name == table with
  | some rel => .ok rel
  | none => .error (.undefinedTable table)

/-- One row of an insertion. -/
def insertRow (role : Role) (contents : Contents V) (entry : String × Row V) :
    Except StoreError (Contents V) := do
  let rel ← findRelation schema entry.1
  match rel.insertError same role (contents rel.name) entry.2 with
  | some e => .error e
  | none => .ok (Function.update contents rel.name (contents rel.name ++ [entry.2]))

/-- A reference of an inserted row that leads to no row. -/
def referenceError (contents : Contents V) (entry : String × Row V) : Option StoreError :=
  (schema.find? fun rel => rel.name == entry.1).bind fun rel =>
    (rel.unmet same contents entry.2).map fun reference =>
      .foreignKeyViolation rel.name reference.column

/-- `INSERT`. The references are checked at the end of the command. -/
def insert (role : Role) (contents : Contents V) (entries : List (String × Row V)) :
    Except StoreError (Contents V) := do
  let contents' ← entries.foldlM (insertRow schema same role) contents
  match entries.findSome? (referenceError schema same contents') with
  | some e => .error e
  | none => .ok contents'

/-- Two rows have one key. -/
def hasClash (key : String) : List (Row V) → Bool
  | [] => false
  | row :: rows =>
      rows.any (fun other => clashes same (row.value key) (other.value key)) || hasClash key rows

/-- What is wrong with the keys and references of a table. -/
def Relation.contentsError (rel : Relation V) (contents : Contents V) : Option StoreError :=
  ((rel.keys.find? fun key => hasClash same key (contents rel.name)).map
      (.uniqueViolation rel.name)).or <|
    ((contents rel.name).findSome? (rel.unmet same contents)).map fun reference =>
      .foreignKeyViolation rel.name reference.column

/-- The keys and references of all tables are checked. -/
def validate (contents : Contents V) : Except StoreError (Contents V) :=
  match schema.findSome? fun rel => rel.contentsError same contents with
  | some e => .error e
  | none => .ok contents

/-- A table with other rows, if the change is allowed and leaves no constraint violated. -/
def change (role : Role) (privilege : Privilege) (contents : Contents V) (table : String)
    (f : Relation V → Except Error (Table V)) : Except StoreError (Contents V) := do
  let rel ← findRelation schema table
  if !rel.allows role privilege then .error (.permissionDenied rel.name)
  else
    match f rel with
    | .error e => .error (.statement e)
    | .ok t => validate schema same (Function.update contents rel.name t.rows)

/-- `TRUNCATE`, which fires no row trigger and which row security does not hold back. -/
def truncate (role : Role) (contents : Contents V) (tables : List String) :
    Except StoreError (Contents V) := do
  let rels ← tables.mapM (findRelation schema)
  match rels.find? fun rel => !rel.allows role .truncate with
  | some rel => .error (.permissionDenied rel.name)
  | none =>
      match schema.find? fun rel =>
          !tables.contains rel.name && rel.references.any fun r => tables.contains r.table with
      | some rel => .error (.truncatesReferenced rel.name)
      | none => .ok fun table => if tables.contains table then [] else contents table

/-- A command of a role. -/
def exec (role : Role) (contents : Contents V) : Command V → Except StoreError (Contents V)
  | .insert entries => insert schema same role contents entries
  | .update table mentioned condition values =>
      change schema same role .update contents table fun rel =>
        (rel.table (contents rel.name)).update mentioned
          (fun row => rel.admits role .update row && condition row) values
  | .delete table condition =>
      change schema same role .delete contents table fun rel =>
        deleteFrom (rel.table (contents rel.name))
          fun row => rel.admits role .delete row && condition row
  | .truncate tables => truncate schema role contents tables

/-- The rows after a command, which may have raised. -/
def after (contents : Contents V) (call : Role × Command V) : Contents V :=
  match exec schema same call.1 contents call.2 with
  | .ok contents' => contents'
  | .error _ => contents

/-- The rows after some commands. -/
def runCommands (contents : Contents V) (calls : List (Role × Command V)) : Contents V :=
  calls.foldl (after schema same) contents

end Exec

/-! ### Tables that are only appended to -/

/-- A trigger raises on every update and deletion. -/
def Relation.IsAppendOnly (rel : Relation V) : Prop :=
  ∃ trigger ∈ rel.triggers, ∀ op, op ∈ trigger.events ∧
    ∀ table old new, ∃ e, trigger.execute table op old new = .error e

/-- No row passes the triggers of an operation if one of them raises on it. -/
theorem fireBefore_raises {table : String} {op : Operation} {trigger : RowTrigger V}
    (hevent : op ∈ trigger.events)
    (hraises : ∀ table old new, ∃ e, trigger.execute table op old new = .error e)
    {triggers : List (RowTrigger V)} (hmem : trigger ∈ triggers) {old new row : Row V} :
    Table.fireBefore table op triggers old new ≠ .ok (some row) := by
  induction triggers generalizing new with
  | nil => cases hmem
  | cons first rest ih =>
      rw [Table.fireBefore]
      rcases List.mem_cons.mp hmem with rfl | hmem
      · obtain ⟨e, he⟩ := hraises table old new
        rw [if_pos hevent, he]
        exact fun h => by cases h
      · split
        · split
          · exact fun h => by cases h
          · exact fun h => by cases h
          · exact ih hmem
        · exact ih hmem

/-- A deletion that does not raise there deletes nothing. -/
theorem deleteFrom_rows {t t' : Table V} {trigger : RowTrigger V}
    (hevent : .delete ∈ trigger.events)
    (hraises : ∀ table old new, ∃ e, trigger.execute table .delete old new = .error e)
    (hmem : trigger ∈ t.triggers) {selects : Row V → Bool}
    (h : deleteFrom t selects = .ok t') : t'.rows = t.rows := by
  obtain ⟨kept, hkept, h⟩ := Except.bind_eq_ok_iff.mp h
  cases h
  have hrow : ∀ {row rows}, deleteRow t selects row = .ok rows → rows = [row] := by
    intro row rows hrow
    rw [deleteRow] at hrow
    split at hrow
    · split at hrow
      · cases hrow
      · cases hrow
        rfl
      · next hfire => exact absurd hfire (fireBefore_raises hevent hraises hmem)
    · cases hrow
      rfl
  have hall : ∀ {rows : List (Row V)} {kept : List (List (Row V))},
      List.Forall₂ (fun row kept => deleteRow t selects row = .ok kept) rows kept →
        kept.flatten = rows := by
    intro rows kept hrows
    induction hrows with
    | nil => rfl
    | cons hfirst _ ih =>
        rw [List.flatten_cons, hrow hfirst, ih]
        rfl
  exact hall (Except.forall₂_of_mapM hkept)

section Runs

variable {schema : List (Relation V)} {same : V → V → Bool} {role : Role}
  {contents contents' : Contents V}

theorem findRelation_eq_ok {table : String} {rel : Relation V}
    (h : findRelation schema table = .ok rel) : rel ∈ schema ∧ rel.name = table := by
  rw [findRelation] at h
  split at h
  · next hfind =>
      cases h
      exact ⟨List.mem_of_find?_eq_some hfind, by simpa using List.find?_some hfind⟩
  · cases h

/-- The names of some tables are those of tables. -/
theorem exists_of_mapM {tables : List String} {rels : List (Relation V)}
    (h : tables.mapM (findRelation schema) = .ok rels) {table : String} (htable : table ∈ tables) :
    ∃ rel ∈ rels, findRelation schema table = .ok rel := by
  have hall := Except.forall₂_of_mapM h
  clear h
  induction hall with
  | nil => cases htable
  | @cons _ rel _ _ hfirst _ ih =>
      rcases List.mem_cons.mp htable with rfl | hmem
      · exact ⟨rel, List.mem_cons_self, hfirst⟩
      · obtain ⟨found, hfound, hok⟩ := ih hmem
        exact ⟨found, List.mem_cons_of_mem _ hfound, hok⟩

theorem validate_eq_ok (h : validate schema same contents = .ok contents') :
    contents' = contents := by
  rw [validate] at h
  split at h
  · cases h
  · cases h
    rfl

/-- A change that leaves the rows of its table as they are leaves all of them. -/
theorem change_eq_ok {privilege : Privilege} {table : String}
    {f : Relation V → Except Error (Table V)}
    (hf : ∀ rel ∈ schema, ∀ t, f rel = .ok t → t.rows = contents rel.name)
    (h : change schema same role privilege contents table f = .ok contents') :
    contents' = contents := by
  obtain ⟨rel, hrel, h⟩ := Except.bind_eq_ok_iff.mp h
  split at h
  · cases h
  · split at h
    · cases h
    · next t ht =>
        rw [validate_eq_ok h, hf rel (findRelation_eq_ok hrel).1 t ht, Function.update_eq_self]

/-- **An update or a deletion of rows of a table that is only appended to changes nothing if it
returns.** -/
theorem exec_change (happend : ∀ rel ∈ schema, rel.IsAppendOnly) {command : Command V}
    (hcommand : (∃ table mentioned condition values,
        command = .update table mentioned condition values) ∨
      ∃ table condition, command = .delete table condition)
    (h : exec schema same role contents command = .ok contents') : contents' = contents := by
  rcases hcommand with ⟨table, mentioned, condition, values, rfl⟩ | ⟨table, condition, rfl⟩
  · refine change_eq_ok (fun rel hrel t ht => ?_) h
    obtain ⟨trigger, hmem, hraises⟩ := happend rel hrel
    rw [Table.update_guarded (hraises .update) hmem ht]
    rfl
  · refine change_eq_ok (fun rel hrel t ht => ?_) h
    obtain ⟨trigger, hmem, hraises⟩ := happend rel hrel
    exact deleteFrom_rows (hraises .delete).1 (hraises .delete).2 hmem ht

/-! ### Insertions -/

/-- The rows with those of an insertion. -/
def appended (contents : Contents V) (entries : List (String × Row V)) : Contents V :=
  fun table => contents table ++ (entries.filter fun e => e.1 == table).map (·.2)

theorem mem_appended {entries : List (String × Row V)} {table : String} {row : Row V} :
    row ∈ appended contents entries table ↔ row ∈ contents table ∨ (table, row) ∈ entries := by
  simp [appended]

/-- The role may insert the row. -/
def MayInsert (schema : List (Relation V)) (role : Role) (entry : String × Row V) : Prop :=
  ∃ rel ∈ schema, rel.name = entry.1 ∧ rel.allows role .insert = true ∧
    rel.admits role .insert entry.2 = true

/-- Every row by itself is as its table declares, and no two rows have one key. -/
structure LocallyConsistent (schema : List (Relation V)) (same : V → V → Bool)
    (contents : Contents V) : Prop where
  rows : ∀ rel ∈ schema, ∀ row ∈ contents rel.name, rel.rowError row = none
  keys : ∀ rel ∈ schema, ∀ key ∈ rel.keys,
    (contents rel.name).Pairwise fun r s => clashes same (r.value key) (s.value key) = false

theorem insertError_eq_none_iff {rel : Relation V} {rows : List (Row V)} {row : Row V} :
    rel.insertError same role rows row = none ↔
      rel.allows role .insert = true ∧ rel.admits role .insert row = true ∧
        rel.rowError row = none ∧ rel.takenKey same rows row = none := by
  unfold Relation.insertError
  cases rel.allows role .insert <;> cases rel.admits role .insert row <;> simp

/-- One row of an insertion is appended to its table. -/
theorem insertRow_eq_ok {entry : String × Row V}
    (h : insertRow schema same role contents entry = .ok contents') :
    ∃ rel ∈ schema, rel.name = entry.1 ∧
      rel.insertError same role (contents rel.name) entry.2 = none ∧
      contents' = appended contents [entry] := by
  obtain ⟨rel, hrel, h⟩ := Except.bind_eq_ok_iff.mp h
  obtain ⟨hmem, hname⟩ := findRelation_eq_ok hrel
  split at h
  · cases h
  · next herror =>
      cases h
      refine ⟨rel, hmem, hname, herror, ?_⟩
      funext table
      rw [appended, hname]
      by_cases htable : table = entry.1
      · subst htable
        rw [Function.update_self, List.filter_cons_of_pos (by simp)]
        rfl
      · rw [Function.update_of_ne htable, List.filter_cons_of_neg (by simp [Ne.symm htable])]
        simp

theorem appended_nil : appended contents [] = contents := by
  funext table
  simp [appended]

theorem appended_append (entries entries' : List (String × Row V)) :
    appended (appended contents entries) entries' = appended contents (entries ++ entries') := by
  funext table
  simp [appended]

/-- **A row that is checked against the rows that are there keeps what is said of single rows and
of keys.** -/
theorem locallyConsistent_insertRow (hnames : (schema.map Relation.name).Nodup)
    (hlocal : LocallyConsistent schema same contents) {entry : String × Row V}
    (h : insertRow schema same role contents entry = .ok contents') :
    LocallyConsistent schema same contents' := by
  obtain ⟨rel, hmem, hname, herror, rfl⟩ := insertRow_eq_ok h
  obtain ⟨-, -, hrow, hkeys⟩ := insertError_eq_none_iff.mp herror
  -- the table that a name belongs to is only one
  have hsame : ∀ rel' ∈ schema, rel'.name = entry.1 → rel' = rel := fun rel' hmem' hname' =>
    List.inj_on_of_nodup_map hnames hmem' hmem (hname'.trans hname.symm)
  have hother : ∀ rel' : Relation V, rel'.name ≠ entry.1 →
      appended contents [entry] rel'.name = contents rel'.name := by
    intro rel' hne
    simp [appended, Ne.symm hne]
  refine ⟨?_, ?_⟩
  · intro rel' hmem' row hin
    rcases mem_appended.mp hin with hold | hnew
    · exact hlocal.rows rel' hmem' row hold
    · rw [List.mem_singleton] at hnew
      subst hnew
      rw [hsame rel' hmem' rfl]
      exact hrow
  · intro rel' hmem' key hkey
    by_cases hname' : rel'.name = entry.1
    · rw [hsame rel' hmem' hname'] at hkey ⊢
      have happended : appended contents [entry] rel.name = contents rel.name ++ [entry.2] := by
        simp [appended, hname]
      rw [happended, List.pairwise_append]
      refine ⟨hlocal.keys rel hmem key hkey, List.pairwise_singleton .., ?_⟩
      intro other hother row hrow
      rw [List.mem_singleton.mp hrow]
      have hfree := List.find?_eq_none.mp hkeys key hkey
      simp only [List.any_eq_true, not_exists, not_and, Bool.not_eq_true] at hfree
      exact hfree other hother
    · rw [hother rel' hname']
      exact hlocal.keys rel' hmem' key hkey

/-- The rows of an insertion, one after the other. -/
theorem foldlM_insertRow (hnames : (schema.map Relation.name).Nodup)
    (hlocal : LocallyConsistent schema same contents) {entries : List (String × Row V)}
    (h : entries.foldlM (insertRow schema same role) contents = .ok contents') :
    LocallyConsistent schema same contents' ∧ contents' = appended contents entries ∧
      ∀ entry ∈ entries, MayInsert schema role entry := by
  induction entries generalizing contents with
  | nil =>
      cases h
      exact ⟨hlocal, appended_nil.symm, List.forall_mem_nil _⟩
  | cons entry entries ih =>
      rw [List.foldlM_cons] at h
      obtain ⟨next, hnext, h⟩ := Except.bind_eq_ok_iff.mp h
      obtain ⟨hlocal', rfl, hall⟩ := ih (locallyConsistent_insertRow hnames hlocal hnext) h
      obtain ⟨rel, hmem, hname, herror, rfl⟩ := insertRow_eq_ok hnext
      obtain ⟨hallows, hadmits, -⟩ := insertError_eq_none_iff.mp herror
      refine ⟨hlocal', appended_append .., ?_⟩
      rw [List.forall_mem_cons]
      exact ⟨⟨rel, hmem, hname, hallows, hadmits⟩, hall⟩

/-! ### What the tables declare -/

/-- What the tables declare holds of the rows: of each by itself, of keys and of references. -/
structure Consistent (schema : List (Relation V)) (same : V → V → Bool) (contents : Contents V) :
    Prop extends LocallyConsistent schema same contents where
  references : ∀ rel ∈ schema, ∀ row ∈ contents rel.name, rel.unmet same contents row = none

theorem unmet_eq_none_iff {rel : Relation V} {row : Row V} :
    rel.unmet same contents row = none ↔
      ∀ reference ∈ rel.references, (row.value reference.column).isSome = true →
        ∃ target ∈ contents reference.table,
          clashes same (target.value reference.target) (row.value reference.column) = true := by
  simp only [Relation.unmet, List.find?_eq_none, Bool.and_eq_true, Bool.not_eq_true', not_and,
    Bool.not_eq_false, List.any_eq_true]

/-- References stay met when rows are added. -/
theorem unmet_mono {rel : Relation V} {row : Row V} (h : rel.unmet same contents row = none)
    (hmono : ∀ table, contents table ⊆ contents' table) : rel.unmet same contents' row = none := by
  rw [unmet_eq_none_iff] at h ⊢
  intro reference hreference hvalue
  obtain ⟨target, htarget, hclash⟩ := h reference hreference hvalue
  exact ⟨target, hmono _ htarget, hclash⟩

theorem find?_name_eq (hnames : (schema.map Relation.name).Nodup) {rel : Relation V}
    (hmem : rel ∈ schema) : schema.find? (fun r => r.name == rel.name) = some rel := by
  cases hfind : schema.find? fun r => r.name == rel.name with
  | none => simpa using List.find?_eq_none.mp hfind rel hmem
  | some found =>
      have hname : found.name = rel.name := by simpa using List.find?_some hfind
      rw [List.inj_on_of_nodup_map hnames (List.mem_of_find?_eq_some hfind) hmem hname]

/-- What an insertion has done when it returns. -/
theorem insert_eq_ok (hnames : (schema.map Relation.name).Nodup)
    (hcons : Consistent schema same contents) {entries : List (String × Row V)}
    (h : insert schema same role contents entries = .ok contents') :
    Consistent schema same contents' ∧ contents' = appended contents entries ∧
      ∀ entry ∈ entries, MayInsert schema role entry := by
  obtain ⟨inserted, hinserted, h⟩ := Except.bind_eq_ok_iff.mp h
  obtain ⟨hlocal, heq, hall⟩ := foldlM_insertRow hnames hcons.toLocallyConsistent hinserted
  split at h
  · cases h
  · next hmet =>
      cases h
      refine ⟨⟨hlocal, ?_⟩, heq, hall⟩
      intro rel hmem row hin
      rw [heq] at hin
      rcases mem_appended.mp hin with hold | hnew
      · refine unmet_mono (hcons.references rel hmem row hold) fun table => ?_
        rw [heq]
        exact List.subset_append_left ..
      · have hnone := List.findSome?_eq_none_iff.mp hmet _ hnew
        rwa [referenceError, find?_name_eq hnames hmem, Option.bind_some, Option.map_eq_none_iff]
          at hnone

/-- The rows with some tables emptied. -/
def emptied (contents : Contents V) (tables : List String) : Contents V :=
  fun table => if tables.contains table then [] else contents table

/-- The role may truncate the table. -/
def MayTruncate (schema : List (Relation V)) (role : Role) (table : String) : Prop :=
  ∃ rel ∈ schema, rel.name = table ∧ rel.allows role .truncate = true

/-- What a truncation has done when it returns. -/
theorem truncate_eq_ok {tables : List String}
    (h : truncate schema role contents tables = .ok contents') :
    contents' = emptied contents tables ∧ (∀ table ∈ tables, MayTruncate schema role table) ∧
      ∀ rel ∈ schema, rel.name ∉ tables → ∀ reference ∈ rel.references,
        reference.table ∉ tables := by
  obtain ⟨rels, hrels, h⟩ := Except.bind_eq_ok_iff.mp h
  split at h
  · cases h
  · next hallowed =>
      split at h
      · cases h
      · next hreferenced =>
          cases h
          refine ⟨rfl, ?_, ?_⟩
          · intro table htable
            obtain ⟨rel, hrel, hfound⟩ := exists_of_mapM hrels htable
            obtain ⟨hmem, hname⟩ := findRelation_eq_ok hfound
            have hallows := List.find?_eq_none.mp hallowed rel hrel
            exact ⟨rel, hmem, hname, by simpa using hallows⟩
          · intro rel hmem hout reference hreference hin
            have hnone := List.find?_eq_none.mp hreferenced rel hmem
            simp only [Bool.and_eq_true, Bool.not_eq_true', List.contains_eq_mem,
              decide_eq_false_iff_not, List.any_eq_true, decide_eq_true_eq, not_and, not_exists]
              at hnone
            exact hnone hout reference hreference hin

/-- Tables are emptied only together with those that refer to them. -/
theorem consistent_truncate (hcons : Consistent schema same contents) {tables : List String}
    (h : truncate schema role contents tables = .ok contents') :
    Consistent schema same contents' := by
  obtain ⟨rfl, -, hclosed⟩ := truncate_eq_ok h
  have hcases : ∀ table, emptied contents tables table = [] ∧ table ∈ tables ∨
      emptied contents tables table = contents table ∧ table ∉ tables := by
    intro table
    by_cases htable : table ∈ tables
    · exact .inl ⟨by simp [emptied, htable], htable⟩
    · exact .inr ⟨by simp [emptied, htable], htable⟩
  refine ⟨⟨?_, ?_⟩, ?_⟩
  · intro rel hmem row hin
    rcases hcases rel.name with ⟨heq, -⟩ | ⟨heq, -⟩
    · rw [heq] at hin
      cases hin
    · rw [heq] at hin
      exact hcons.rows rel hmem row hin
  · intro rel hmem key hkey
    rcases hcases rel.name with ⟨heq, -⟩ | ⟨heq, -⟩
    · rw [heq]
      exact .nil
    · rw [heq]
      exact hcons.keys rel hmem key hkey
  · intro rel hmem row hin
    rcases hcases rel.name with ⟨heq, -⟩ | ⟨heq, hout⟩
    · rw [heq] at hin
      cases hin
    · rw [heq] at hin
      have hold := hcons.references rel hmem row hin
      rw [unmet_eq_none_iff] at hold ⊢
      intro reference hreference hvalue
      rcases hcases reference.table with ⟨-, hin'⟩ | ⟨heq', -⟩
      · exact absurd hin' (hclosed rel hmem hout reference hreference)
      · rw [heq']
        exact hold reference hreference hvalue

/-! ### Runs -/

/-- **What a command can do on tables that are only appended to**: nothing, append rows that its
role may insert, or empty tables that its role may truncate. -/
theorem exec_cases (hnames : (schema.map Relation.name).Nodup)
    (happend : ∀ rel ∈ schema, rel.IsAppendOnly) (hcons : Consistent schema same contents)
    {command : Command V} (h : exec schema same role contents command = .ok contents') :
    contents' = contents ∨
      (∃ entries, command = .insert entries ∧ contents' = appended contents entries ∧
        ∀ entry ∈ entries, MayInsert schema role entry) ∨
      ∃ tables, command = .truncate tables ∧ contents' = emptied contents tables ∧
        ∀ table ∈ tables, MayTruncate schema role table := by
  cases command with
  | insert entries =>
      obtain ⟨-, heq, hall⟩ := insert_eq_ok hnames hcons h
      exact .inr (.inl ⟨entries, rfl, heq, hall⟩)
  | update table mentioned condition values =>
      exact .inl (exec_change happend (.inl ⟨table, mentioned, condition, values, rfl⟩) h)
  | delete table condition =>
      exact .inl (exec_change happend (.inr ⟨table, condition, rfl⟩) h)
  | truncate tables =>
      obtain ⟨heq, hmay, -⟩ := truncate_eq_ok h
      exact .inr (.inr ⟨tables, rfl, heq, hmay⟩)

theorem consistent_exec (hnames : (schema.map Relation.name).Nodup)
    (happend : ∀ rel ∈ schema, rel.IsAppendOnly) (hcons : Consistent schema same contents)
    {command : Command V} (h : exec schema same role contents command = .ok contents') :
    Consistent schema same contents' := by
  cases command with
  | insert entries => exact (insert_eq_ok hnames hcons h).1
  | update table mentioned condition values =>
      rw [exec_change happend (.inl ⟨table, mentioned, condition, values, rfl⟩) h]
      exact hcons
  | delete table condition =>
      rw [exec_change happend (.inr ⟨table, condition, rfl⟩) h]
      exact hcons
  | truncate tables => exact consistent_truncate hcons h

theorem consistent_after (hnames : (schema.map Relation.name).Nodup)
    (happend : ∀ rel ∈ schema, rel.IsAppendOnly) (hcons : Consistent schema same contents)
    (call : Role × Command V) : Consistent schema same (after schema same contents call) := by
  rw [after]
  split
  · next h => exact consistent_exec hnames happend hcons h
  · exact hcons

/-- **Whatever commands are sent, what the tables declare goes on to hold.** -/
theorem consistent_run (hnames : (schema.map Relation.name).Nodup)
    (happend : ∀ rel ∈ schema, rel.IsAppendOnly) (hcons : Consistent schema same contents)
    (calls : List (Role × Command V)) :
    Consistent schema same (runCommands schema same contents calls) := by
  induction calls generalizing contents with
  | nil => exact hcons
  | cons call calls ih => exact ih (consistent_after hnames happend hcons call)

/-- There is nothing to violate a declaration without rows. -/
theorem consistent_empty : Consistent schema same fun _ => [] where
  rows _ _ _ hin := absurd hin List.not_mem_nil
  keys _ _ _ _ := .nil
  references _ _ _ hin := absurd hin List.not_mem_nil

theorem runCommands_append (calls calls' : List (Role × Command V)) :
    runCommands schema same contents (calls ++ calls') =
      runCommands schema same (runCommands schema same contents calls) calls' :=
  List.foldl_append

/-- The rows of a table stay where they are unless it is truncated by one who may. -/
theorem prefix_run (hnames : (schema.map Relation.name).Nodup)
    (happend : ∀ rel ∈ schema, rel.IsAppendOnly) (hcons : Consistent schema same contents)
    {calls : List (Role × Command V)} {table : String}
    (hkeeps : ∀ call ∈ calls, ∀ tables, call.2 = .truncate tables → table ∈ tables →
      ¬ MayTruncate schema call.1 table) :
    contents table <+: runCommands schema same contents calls table := by
  induction calls generalizing contents with
  | nil => exact List.prefix_refl _
  | cons call calls ih =>
      rw [List.forall_mem_cons] at hkeeps
      refine List.IsPrefix.trans ?_ (ih (consistent_after hnames happend hcons call) hkeeps.2)
      unfold after
      cases h : exec schema same call.1 contents call.2 with
      | error e => exact List.prefix_refl _
      | ok contents' =>
          rcases exec_cases hnames happend hcons h with rfl | ⟨entries, -, rfl, -⟩ |
            ⟨tables, hcommand, rfl, hmay⟩
          · exact List.prefix_refl _
          · exact List.prefix_append ..
          · have hout : table ∉ tables := fun hin =>
              hkeeps.1 tables hcommand hin (hmay table hin)
            have hsame : emptied contents tables table = contents table := by
              simp [emptied, hout]
            show contents table <+: emptied contents tables table
            rw [hsame]

end Runs

end Sql.Store
