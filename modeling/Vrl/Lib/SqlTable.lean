import Mathlib.Data.List.Basic
import Vrl.Lib.Python

/-!
# Vrl.Lib.SqlTable

A table of a relational database and the statements of a schema migration: columns that are
added, rows that are updated under row triggers, `NOT NULL` and check constraints.

An update under a trigger that always raises changes nothing if it returns at all
(**`Sql.Table.update_guarded`**), so that a column which is `NULL` somewhere stays so and no
script can make it `NOT NULL` (**`Sql.Database.run_blocked`**). On a table without rows every
script runs whose columns exist, and the second time it changes nothing
(**`Sql.Database.run_empty`**).
-/

namespace Sql

/-! ### Rows -/

/-- The values of a row by column; `none` is `NULL`. -/
abbrev Row (V : Type) := List (String × Option V)

variable {V : Type}

/-- The value of a column, `NULL` if there is no such column. -/
def Row.value (row : Row V) (column : String) : Option V := (row.lookup column).join

/-- The row with other values for some of its columns. -/
def Row.assign (row : Row V) (values : List (String × Option V)) : Row V :=
  row.map fun m => (m.1, (values.lookup m.1).getD m.2)

/-! ### Tables -/

/-- A column. -/
structure Column where
  name : String
  notNull : Bool := false
  deriving DecidableEq, Repr

/-- What a statement does to a row. -/
inductive Operation where
  | update
  | delete
  deriving DecidableEq, Repr

/-- `TG_OP`. -/
def Operation.text : Operation → String
  | .update => "UPDATE"
  | .delete => "DELETE"

/-- The errors of statements. -/
inductive Error where
  | raised (message : String)
  | notNullViolation (column : String)
  | checkViolation (name : String)
  | undefinedColumn (column : String)
  | duplicateConstraint (name : String)
  deriving DecidableEq, Repr

/-- A trigger that runs before a row is changed. It raises, or returns the row to go on with, or
`none` to leave the row as it is. -/
structure RowTrigger (V : Type) where
  name : String
  events : List Operation
  execute : String → Operation → Row V → Row V → Except Error (Option (Row V))

/-- A check of one column; a check that is unknown passes. -/
structure Check (V : Type) where
  name : String
  column : String
  holds : Option V → Option Bool

/-- A table with its rows. -/
structure Table (V : Type) where
  name : String
  columns : List Column
  rows : List (Row V)
  triggers : List (RowTrigger V)
  checks : List (Check V)

namespace Table

variable (t : Table V)

/-- The names of the columns. -/
def names : List String := t.columns.map Column.name

/-! ### Statements -/

/-- The row satisfies the constraints of the table. -/
def checkRow (row : Row V) : Except Error (Row V) :=
  match t.columns.find? fun c => c.notNull && (row.value c.name).isNone with
  | some c => .error (.notNullViolation c.name)
  | none =>
      match t.checks.find? fun k => k.holds (row.value k.column) = some false with
      | some k => .error (.checkViolation k.name)
      | none => .ok row

/-- The triggers of an operation run one after the other. -/
def fireBefore (table : String) (op : Operation) :
    List (RowTrigger V) → Row V → Row V → Except Error (Option (Row V))
  | [], _, new => .ok (some new)
  | trigger :: triggers, old, new =>
      if op ∈ trigger.events then
        match trigger.execute table op old new with
        | .error e => .error e
        | .ok none => .ok none
        | .ok (some row) => fireBefore table op triggers old row
      else fireBefore table op triggers old new

/-- `UPDATE` on one row, where `selects` says which rows the statement may see and asks for. -/
def updateRow (selects : Row V → Bool) (values : Row V → List (String × Option V)) (row : Row V) :
    Except Error (Row V) :=
  if selects row then
    match fireBefore t.name .update t.triggers row (row.assign (values row)) with
    | .error e => .error e
    | .ok none => .ok row
    | .ok (some new) => t.checkRow new
  else .ok row

/-- `UPDATE … SET … WHERE …`, which mentions some columns. -/
def update (mentioned : List String) (selects : Row V → Bool)
    (values : Row V → List (String × Option V)) : Except Error (Table V) :=
  match mentioned.find? fun column => column ∉ t.names with
  | some column => .error (.undefinedColumn column)
  | none => do
      let rows ← t.rows.mapM (t.updateRow selects values)
      return { t with rows }

/-- `ADD COLUMN IF NOT EXISTS … DEFAULT …`, which fires no trigger. -/
def addColumnIfNotExists (column : Column) (default : Option V) : Except Error (Table V) :=
  if column.name ∈ t.names then .ok t
  else if column.notNull && default.isNone && !t.rows.isEmpty then
    .error (.notNullViolation column.name)
  else .ok { t with
    columns := t.columns ++ [column]
    rows := t.rows.map fun row => row ++ [(column.name, default)] }

/-- The columns, one of them with `NOT NULL`. -/
def require (columns : List Column) (column : String) : List Column :=
  columns.map fun c => if c.name = column then { c with notNull := true } else c

theorem map_name_require (columns : List Column) (column : String) :
    (require columns column).map Column.name = columns.map Column.name := by
  rw [require, List.map_map]
  refine List.map_congr_left fun c _ => ?_
  rw [Function.comp_apply]
  split <;> rfl

/-- `ALTER COLUMN … SET NOT NULL`. -/
def setNotNull (column : String) : Except Error (Table V) :=
  if column ∉ t.names then .error (.undefinedColumn column)
  else if t.rows.any fun row => (row.value column).isNone then .error (.notNullViolation column)
  else .ok { t with columns := require t.columns column }

/-- `ADD CONSTRAINT … CHECK …`. -/
def addCheck (check : Check V) : Except Error (Table V) :=
  if t.checks.any fun k => k.name = check.name then .error (.duplicateConstraint check.name)
  else if check.column ∉ t.names then .error (.undefinedColumn check.column)
  else if t.rows.any fun row => check.holds (row.value check.column) = some false then
    .error (.checkViolation check.name)
  else .ok { t with checks := t.checks ++ [check] }

end Table

/-- A table, and the names of the constraints that are not checks of it. -/
structure Database (V : Type) where
  table : Table V
  constraints : List String

/-- The statements of a migration. -/
inductive Statement (V : Type) where
  | addColumnIfNotExists (column : Column) (default : Option V)
  | update (mentioned : List String) (condition : Row V → Bool)
      (values : Row V → List (String × Option V))
  | setNotNull (column : String)
  | addCheckIfNotNamed (check : Check V)

/-- The columns that a statement needs. -/
def Statement.needs : Statement V → List String
  | .addColumnIfNotExists _ _ => []
  | .update mentioned _ _ => mentioned
  | .setNotNull column => [column]
  | .addCheckIfNotNamed check => [check.column]

/-- The columns that a statement adds. -/
def Statement.adds : Statement V → List String
  | .addColumnIfNotExists column _ => [column.name]
  | _ => []

/-- Every statement needs only columns that are there, or were added before. -/
def WellScoped : List String → List (Statement V) → Prop
  | _, [] => True
  | names, statement :: script =>
      statement.needs ⊆ names ∧ WellScoped (names ++ statement.adds) script

namespace Database

/-- A statement. `visible` says which rows the policies of the table show to an update. -/
def step (visible : Row V → Bool) (db : Database V) (statement : Statement V) :
    Except Error (Database V) :=
  let lift := Except.map fun table => { db with table }
  match statement with
  | .addColumnIfNotExists column default => lift (db.table.addColumnIfNotExists column default)
  | .update mentioned condition values =>
      lift (db.table.update mentioned (fun row => visible row && condition row) values)
  | .setNotNull column => lift (db.table.setNotNull column)
  | .addCheckIfNotNamed check =>
      if check.name ∈ db.table.checks.map Check.name ++ db.constraints then .ok db
      else lift (db.table.addCheck check)

/-- A script: its statements one after the other, up to the first error. -/
def run (visible : Row V → Bool) (db : Database V) (script : List (Statement V)) :
    Except Error (Database V) :=
  script.foldlM (step visible) db

end Database

/-! ### Guarded tables -/

/-- The trigger raises on every update. -/
def RowTrigger.Guards (trigger : RowTrigger V) : Prop :=
  .update ∈ trigger.events ∧
    ∀ table old new, ∃ e, trigger.execute table .update old new = .error e

/-- No row passes the triggers of an update if one of them guards. -/
theorem Table.fireBefore_guarded {table : String} {trigger : RowTrigger V}
    (hguard : trigger.Guards) {triggers : List (RowTrigger V)} (hmem : trigger ∈ triggers)
    {old new row : Row V} : fireBefore table .update triggers old new ≠ .ok (some row) := by
  induction triggers generalizing new with
  | nil => cases hmem
  | cons first rest ih =>
      rw [fireBefore]
      rcases List.mem_cons.mp hmem with rfl | hmem
      · obtain ⟨e, he⟩ := hguard.2 table old new
        rw [if_pos hguard.1, he]
        exact nofun
      · split
        · split
          · exact nofun
          · exact nofun
          · exact ih hmem
        · exact ih hmem

/-- **An update under a guard changes nothing if it returns.** -/
theorem Table.update_guarded {t t' : Table V} {trigger : RowTrigger V} (hguard : trigger.Guards)
    (hmem : trigger ∈ t.triggers) {mentioned : List String} {selects : Row V → Bool}
    {values : Row V → List (String × Option V)}
    (h : t.update mentioned selects values = .ok t') : t' = t := by
  rw [update] at h
  split at h
  · cases h
  · obtain ⟨rows, hrows, h⟩ := Except.bind_eq_ok_iff.mp h
    cases h
    have hrow : ∀ {row row'}, t.updateRow selects values row = .ok row' → row' = row := by
      intro row row' hrow
      rw [updateRow] at hrow
      split at hrow
      · split at hrow
        · cases hrow
        · cases hrow
          rfl
        · next hfire => exact absurd hfire (fireBefore_guarded hguard hmem)
      · cases hrow
        rfl
    have hsame : rows = t.rows := by
      refine List.forall₂_eq_eq_eq ▸ ?_
      exact (Except.forall₂_of_mapM hrows).flip.imp fun _ _ => hrow
    rw [hsame]

namespace Database

variable {visible : Row V → Bool} {db db' : Database V}

theorem run_cons (statement : Statement V) (script : List (Statement V)) :
    run visible db (statement :: script) = (step visible db statement).bind fun db' =>
      run visible db' script := List.foldlM_cons

/-- A statement that is no `DO` block changes the table only. -/
theorem map_table_eq_ok {result : Except Error (Table V)}
    (h : result.map (fun table => { db with table }) = .ok db') :
    ∃ table, result = .ok table ∧ db' = { db with table } := by
  cases result with
  | error e => cases h
  | ok table =>
      cases h
      exact ⟨table, rfl, rfl⟩

/-- The column is `NULL` in a row, and a guard stands in front of updates. -/
structure Blocked (db : Database V) (column : String) : Prop where
  exists_column : column ∈ db.table.names
  exists_null : ∃ row ∈ db.table.rows, row.value column = none
  exists_guard : ∃ trigger ∈ db.table.triggers, trigger.Guards

/-- Adding a column leaves the others as they are. -/
theorem value_append_of_ne {row : Row V} {column added : String} (h : column ≠ added)
    (default : Option V) : Row.value (row ++ [(added, default)]) column = row.value column := by
  have hne : (column == added) = false := beq_eq_false_iff_ne.mpr h
  rw [Row.value, Row.value, List.lookup_append, List.lookup_cons, hne]
  simp only [List.lookup_nil, Option.or_none]

/-- **A blocked column stays so**, whatever statement returns. -/
theorem Blocked.step {column : String} (hblocked : db.Blocked column) {statement : Statement V}
    (h : db.step visible statement = .ok db') : db'.Blocked column := by
  obtain ⟨hcolumn, ⟨row, hrow, hnull⟩, trigger, htrigger, hguard⟩ := hblocked
  cases statement with
  | addColumnIfNotExists added default =>
      obtain ⟨table, htable, rfl⟩ := map_table_eq_ok h
      rw [Table.addColumnIfNotExists] at htable
      split at htable
      · cases htable
        exact ⟨hcolumn, ⟨row, hrow, hnull⟩, trigger, htrigger, hguard⟩
      · next hnew =>
          split at htable
          · cases htable
          · cases htable
            have hne : column ≠ added.name := fun heq => hnew (heq ▸ hcolumn)
            refine ⟨?_, ⟨_, List.mem_map_of_mem hrow, ?_⟩, trigger, htrigger, hguard⟩
            · rw [Table.names, List.map_append]
              exact List.mem_append_left _ hcolumn
            · rw [value_append_of_ne hne, hnull]
  | update mentioned condition values =>
      obtain ⟨table, htable, rfl⟩ := map_table_eq_ok h
      rw [Table.update_guarded hguard htrigger htable]
      exact ⟨hcolumn, ⟨row, hrow, hnull⟩, trigger, htrigger, hguard⟩
  | setNotNull other =>
      obtain ⟨table, htable, rfl⟩ := map_table_eq_ok h
      rw [Table.setNotNull] at htable
      split at htable
      · cases htable
      · split at htable
        · cases htable
        · cases htable
          refine ⟨?_, ⟨row, hrow, hnull⟩, trigger, htrigger, hguard⟩
          rw [Table.names, Table.map_name_require]
          exact hcolumn
  | addCheckIfNotNamed check =>
      rw [Database.step] at h
      split at h
      · cases h
        exact ⟨hcolumn, ⟨row, hrow, hnull⟩, trigger, htrigger, hguard⟩
      · obtain ⟨table, htable, rfl⟩ := map_table_eq_ok h
        rw [Table.addCheck] at htable
        split at htable
        · cases htable
        · split at htable
          · cases htable
          · split at htable
            · cases htable
            · cases htable
              exact ⟨hcolumn, ⟨row, hrow, hnull⟩, trigger, htrigger, hguard⟩

/-- A blocked column cannot be made `NOT NULL`. -/
theorem Blocked.setNotNull {column : String} (hblocked : db.Blocked column) :
    db.step visible (.setNotNull column) ≠ .ok db' := by
  obtain ⟨row, hrow, hnull⟩ := hblocked.exists_null
  have hany : (db.table.rows.any fun row => (row.value column).isNone) = true :=
    List.any_eq_true.mpr ⟨row, hrow, by rw [hnull]; rfl⟩
  intro h
  obtain ⟨table, htable, -⟩ := map_table_eq_ok h
  rw [Table.setNotNull, if_neg (not_not.mpr hblocked.exists_column), if_pos hany] at htable
  cases htable

/-- **No script makes a blocked column `NOT NULL`.** -/
theorem run_blocked {column : String} (hblocked : db.Blocked column)
    {script : List (Statement V)} (hmem : .setNotNull column ∈ script) :
    db.run visible script ≠ .ok db' := by
  induction script generalizing db with
  | nil => cases hmem
  | cons statement script ih =>
      rw [run_cons]
      intro h
      obtain ⟨next, hstep, hrun⟩ := Except.bind_eq_ok_iff.mp h
      rcases List.mem_cons.mp hmem with rfl | hmem
      · exact hblocked.setNotNull hstep
      · exact ih (hblocked.step hstep) hmem hrun

/-! ### Scripts that run twice -/

/-- The statement finds its work done. -/
def IsDone (visible : Row V → Bool) (db : Database V) : Statement V → Prop
  | .addColumnIfNotExists column _ => column.name ∈ db.table.names
  | .update mentioned condition _ => mentioned ⊆ db.table.names ∧
      ∀ row ∈ db.table.rows, (visible row && condition row) = false
  | .setNotNull column => column ∈ db.table.names ∧
      (∀ c ∈ db.table.columns, c.name = column → c.notNull = true) ∧
      ∀ row ∈ db.table.rows, (row.value column).isSome
  | .addCheckIfNotNamed check => check.name ∈ db.table.checks.map Check.name ++ db.constraints

/-- A statement whose work is done changes nothing. -/
theorem step_of_isDone {statement : Statement V} (h : IsDone visible db statement) :
    db.step visible statement = .ok db := by
  cases statement with
  | addColumnIfNotExists column default =>
      have hmem : column.name ∈ db.table.names := h
      rw [step, Table.addColumnIfNotExists, if_pos hmem]
      rfl
  | update mentioned condition values =>
      have hfind : mentioned.find? (fun column => column ∉ db.table.names) = none :=
        List.find?_eq_none.mpr fun column hcolumn => by simpa using h.1 hcolumn
      have hrows : db.table.rows.mapM (db.table.updateRow
          (fun row => visible row && condition row) values) = .ok db.table.rows := by
        have hrow : ∀ row ∈ db.table.rows, db.table.updateRow
            (fun row => visible row && condition row) values row = .ok row := by
          intro row hrow
          rw [Table.updateRow, h.2 row hrow]
          rfl
        generalize db.table.rows = rows at hrow
        induction rows with
        | nil => rfl
        | cons row rows ih =>
            rw [List.mapM_cons, hrow row (List.mem_cons_self ..),
              ih fun row' hrow' => hrow row' (List.mem_cons_of_mem _ hrow')]
            rfl
      rw [step, Table.update, hfind]
      simp only [hrows, Except.ok_bind]
      rfl
  | setNotNull column =>
      obtain ⟨hcolumn, hnotNull, hrows⟩ := h
      have hany : (db.table.rows.any fun row => (row.value column).isNone) = false := by
        rw [List.any_eq_false]
        intro row hrow
        rw [Option.isNone_iff_eq_none]
        exact Option.isSome_iff_ne_none.mp (hrows row hrow)
      have hrequire : Table.require db.table.columns column = db.table.columns := by
        refine (List.map_congr_left fun c hc => ?_).trans (List.map_id _)
        split
        · next hname =>
            rw [← hnotNull c hc hname]
            rfl
        · rfl
      rw [step, Table.setNotNull, if_neg (not_not.mpr hcolumn), hany, hrequire]
      rfl
  | addCheckIfNotNamed check => exact if_pos h

/-- **A script whose work is done changes nothing.** -/
theorem run_of_isDone {script : List (Statement V)}
    (h : ∀ statement ∈ script, IsDone visible db statement) : db.run visible script = .ok db := by
  induction script with
  | nil => rfl
  | cons statement script ih =>
      rw [run_cons, step_of_isDone (h statement (List.mem_cons_self ..))]
      exact ih fun statement' hmem => h statement' (List.mem_cons_of_mem _ hmem)

/-! ### Tables without rows -/

/-- The table has no rows, and no less columns and constraints than before. -/
structure Extends (db db' : Database V) : Prop where
  rows : db'.table.rows = []
  names : db.table.names ⊆ db'.table.names
  notNull : ∀ c' ∈ db'.table.columns, c'.name ∈ db.table.names →
    ∃ c ∈ db.table.columns, c.name = c'.name ∧ (c.notNull = true → c'.notNull = true)
  checks : db.table.checks.map Check.name ++ db.constraints ⊆
    db'.table.checks.map Check.name ++ db'.constraints

theorem IsDone.extends {statement : Statement V} (h : IsDone visible db statement)
    (hext : db.Extends db') : IsDone visible db' statement := by
  cases statement with
  | addColumnIfNotExists column default => exact hext.names h
  | update mentioned condition values =>
      refine ⟨fun _ hmem => hext.names (h.1 hmem), ?_⟩
      rw [hext.rows]
      exact nofun
  | setNotNull column =>
      obtain ⟨hcolumn, hnotNull, -⟩ := h
      refine ⟨hext.names hcolumn, fun c' hc' hname => ?_, ?_⟩
      · obtain ⟨c, hc, hcname, hkeeps⟩ := hext.notNull c' hc' (hname ▸ hcolumn)
        exact hkeeps (hnotNull c hc (hcname.trans hname))
      · rw [hext.rows]
        exact nofun
  | addCheckIfNotNamed check => exact hext.checks h

theorem Extends.trans {db'' : Database V} (h : db.Extends db') (h' : db'.Extends db'') :
    db.Extends db'' where
  rows := h'.rows
  names _ hmem := h'.names (h.names hmem)
  notNull c'' hc'' hname := by
    obtain ⟨c', hc', hname', hkeeps'⟩ := h'.notNull c'' hc'' (h.names hname)
    obtain ⟨c, hc, hcname, hkeeps⟩ := h.notNull c' hc' (hname' ▸ hname)
    exact ⟨c, hc, hcname.trans hname', hkeeps' ∘ hkeeps⟩
  checks _ hmem := h'.checks (h.checks hmem)

theorem Extends.refl (hrows : db.table.rows = []) : db.Extends db :=
  ⟨hrows, List.Subset.refl _, fun c hc _ => ⟨c, hc, rfl, id⟩, List.Subset.refl _⟩

/-- The statement succeeds, takes nothing away, and leaves itself nothing to do. -/
def DoesItsWork (visible : Row V → Bool) (db : Database V) (statement : Statement V) : Prop :=
  ∃ db', db.step visible statement = .ok db' ∧ db.Extends db' ∧
    statement.adds ⊆ db'.table.names ∧ IsDone visible db' statement

section Empty

variable (hrows : db.table.rows = [])
include hrows

theorem addColumn_empty (column : Column) (default : Option V) :
    DoesItsWork visible db (.addColumnIfNotExists column default) := by
  by_cases hmem : column.name ∈ db.table.names
  · exact ⟨db, step_of_isDone hmem, .refl hrows, List.cons_subset.mpr ⟨hmem, nofun⟩, hmem⟩
  · have hnames : (db.table.columns ++ [column]).map Column.name =
        db.table.names ++ [column.name] := by
      rw [List.map_append, Table.names, List.map_singleton]
    have hadded : column.name ∈ (db.table.columns ++ [column]).map Column.name := by
      rw [hnames]
      exact List.mem_append_right _ (List.mem_singleton.mpr rfl)
    refine ⟨{ db with table := { db.table with
      columns := db.table.columns ++ [column], rows := [] } }, ?_, ⟨rfl, ?_, ?_, ?_⟩,
      List.cons_subset.mpr ⟨hadded, nofun⟩, hadded⟩
    · rw [step, Table.addColumnIfNotExists, if_neg hmem, hrows, List.isEmpty_nil, Bool.not_true,
        Bool.and_false, if_neg Bool.false_ne_true]
      rfl
    · show db.table.names ⊆ (db.table.columns ++ [column]).map Column.name
      rw [hnames]
      exact List.subset_append_left _ _
    · intro c' hc' hname
      rcases List.mem_append.mp hc' with hc' | hc'
      · exact ⟨c', hc', rfl, id⟩
      · rw [List.mem_singleton.mp hc'] at hname
        exact absurd hname hmem
    · exact List.Subset.refl _

theorem setNotNull_empty {column : String} (hcolumn : column ∈ db.table.names) :
    DoesItsWork visible db (.setNotNull column) := by
  have hnames : (Table.require db.table.columns column).map Column.name = db.table.names :=
    Table.map_name_require _ _
  refine ⟨{ db with table := { db.table with
    columns := Table.require db.table.columns column, rows := [] } }, ?_, ⟨rfl, ?_, ?_, ?_⟩,
    List.nil_subset _, ?_, ?_, nofun⟩
  · rw [step, Table.setNotNull, if_neg (not_not.mpr hcolumn), hrows, List.any_nil,
      if_neg Bool.false_ne_true]
    rfl
  · show db.table.names ⊆ (Table.require db.table.columns column).map Column.name
    rw [hnames]
    exact List.Subset.refl _
  · intro c' hc' _
    obtain ⟨c, hc, rfl⟩ := List.mem_map.mp hc'
    refine ⟨c, hc, ?_⟩
    split
    · exact ⟨rfl, fun _ => rfl⟩
    · exact ⟨rfl, id⟩
  · exact List.Subset.refl _
  · show column ∈ (Table.require db.table.columns column).map Column.name
    rw [hnames]
    exact hcolumn
  · intro c' hc' hname
    obtain ⟨c, hc, rfl⟩ := List.mem_map.mp hc'
    split
    · rfl
    · next hne =>
        rw [if_neg hne] at hname
        exact absurd hname hne

theorem addCheck_empty {check : Check V} (hcolumn : check.column ∈ db.table.names) :
    DoesItsWork visible db (.addCheckIfNotNamed check) := by
  by_cases hmem : check.name ∈ db.table.checks.map Check.name ++ db.constraints
  · exact ⟨db, if_pos hmem, .refl hrows, List.nil_subset _, hmem⟩
  · have hnew : (db.table.checks.any fun k => k.name = check.name) = false := by
      rw [List.any_eq_false]
      intro k hk
      rw [decide_eq_true_eq]
      intro hname
      exact hmem (List.mem_append_left _ (List.mem_map.mpr ⟨k, hk, hname⟩))
    have hnames : (db.table.checks ++ [check]).map Check.name =
        db.table.checks.map Check.name ++ [check.name] := by
      rw [List.map_append, List.map_singleton]
    refine ⟨{ db with table := { db.table with
        checks := db.table.checks ++ [check], rows := [] } }, ?_,
      ⟨rfl, List.Subset.refl _, fun c hc _ => ⟨c, hc, rfl, id⟩, ?_⟩, List.nil_subset _, ?_⟩
    · rw [step, if_neg hmem, Table.addCheck, hnew, if_neg Bool.false_ne_true,
        if_neg (not_not.mpr hcolumn), hrows, List.any_nil, if_neg Bool.false_ne_true]
      rfl
    · intro name hname
      rw [hnames, List.append_assoc]
      rcases List.mem_append.mp hname with hname | hname
      · exact List.mem_append_left _ hname
      · exact List.mem_append_right _ (List.mem_append_right _ hname)
    · rw [IsDone, hnames]
      exact List.mem_append_left _ (List.mem_append_right _ (List.mem_singleton.mpr rfl))

/-- On a table without rows, a statement does its work. -/
theorem step_empty {statement : Statement V} (hneeds : statement.needs ⊆ db.table.names) :
    DoesItsWork visible db statement := by
  cases statement with
  | addColumnIfNotExists column default => exact addColumn_empty hrows column default
  | update mentioned condition values =>
      have hdone : IsDone visible db (.update mentioned condition values) := by
        refine ⟨hneeds, ?_⟩
        rw [hrows]
        exact nofun
      exact ⟨db, step_of_isDone hdone, .refl hrows, List.nil_subset _, hdone⟩
  | setNotNull column => exact setNotNull_empty hrows (hneeds (List.mem_singleton.mpr rfl))
  | addCheckIfNotNamed check => exact addCheck_empty hrows (hneeds (List.mem_singleton.mpr rfl))

end Empty

/-- **On a table without rows, a script whose columns exist does its work**, and running it once
more changes nothing. -/
theorem run_empty (hrows : db.table.rows = []) {script : List (Statement V)} {names : List String}
    (hnames : names ⊆ db.table.names) (hscoped : WellScoped names script) :
    ∃ db', db.run visible script = .ok db' ∧ db'.table.rows = [] ∧
      db'.run visible script = .ok db' := by
  suffices hwork : ∃ db', db.run visible script = .ok db' ∧ db.Extends db' ∧
      ∀ statement ∈ script, IsDone visible db' statement by
    obtain ⟨db', hrun, hext, hdone⟩ := hwork
    exact ⟨db', hrun, hext.rows, run_of_isDone hdone⟩
  induction script generalizing db names with
  | nil => exact ⟨db, rfl, .refl hrows, nofun⟩
  | cons statement script ih =>
      obtain ⟨hneeds, hscoped⟩ := hscoped
      obtain ⟨next, hstep, hext, hadds, hdone⟩ := step_empty hrows fun _ hmem =>
        hnames (hneeds hmem)
      have hnext : names ++ statement.adds ⊆ next.table.names :=
        List.append_subset.mpr ⟨fun _ hmem => hext.names (hnames hmem), hadds⟩
      obtain ⟨db', hrun, hext', hdone'⟩ := ih hext.rows hnext hscoped
      refine ⟨db', ?_, hext.trans hext', fun statement' hmem => ?_⟩
      · rw [run_cons, hstep]
        exact hrun
      · rcases List.mem_cons.mp hmem with rfl | hmem
        · exact hdone.extends hext'
        · exact hdone' statement' hmem

end Database

end Sql
