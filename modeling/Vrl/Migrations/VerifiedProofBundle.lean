import Vrl.Lib.JsonValue
import Vrl.Lib.SqlTable

/-!
# Vrl.Migrations.VerifiedProofBundle

The migration that adds the verified proof bundle to the table of proofs
(`migrations/003_verified_proof_bundle.sql`), on a database that has the append-only triggers of
`migrations/001_init.sql`.

The migration fills the new columns of the rows that exist by an `UPDATE`, which the trigger
refuses. So it runs, and preserves what there was, exactly if there is no row
(**`migration_preserves_iff`**), whichever rows the policies show to the one who runs it.
-/

open Sql

namespace Vrl.Migrations

/-- The values of the table's columns. -/
inductive SqlValue where
  | uuid (value : Uuid)
  | text (value : String)
  | boolean (value : Bool)
  | jsonb (value : JsonValue)
  | timestamptz (microseconds : Int)

/-! ### The append-only triggers -/

/-- `raise_append_only_violation`. -/
def raiseAppendOnlyViolation (table : String) (op : Operation) (_old _new : Row SqlValue) :
    Except Error (Option (Row SqlValue)) :=
  .error (.raised
    ("Append-only table " ++ table ++ " does not allow " ++ op.text ++ " operations"))

/-- `proofs_append_only_guard`. -/
def proofsAppendOnlyGuard : RowTrigger SqlValue where
  name := "proofs_append_only_guard"
  events := [.update, .delete]
  execute := raiseAppendOnlyViolation

theorem proofsAppendOnlyGuard_guards : proofsAppendOnlyGuard.Guards :=
  ⟨by decide, fun _ _ _ => ⟨_, rfl⟩⟩

/-! ### The migration -/

/-- The columns that are made `NOT NULL`. -/
def filledColumns : List String :=
  ["integrity_hash", "proof_system", "circuit_hash", "verification_key_hash", "proof_bundle"]

/-- The `WHERE` of the `UPDATE`: one of the columns is `NULL`. -/
def isIncomplete (row : Row SqlValue) : Bool :=
  filledColumns.any fun column => (row.value column).isNone

/-- A value of a `TEXT` column in `jsonb_build_object`. -/
def textToJson : Option SqlValue → JsonValue
  | some (.text s) => .str s
  | _ => .null

/-- The `SET` of the `UPDATE`: `COALESCE` keeps a value that is there. -/
def backfill (row : Row SqlValue) : List (String × Option SqlValue) :=
  let integrityHash := (row.value "integrity_hash").or (row.value "final_proof")
  [("integrity_hash", integrityHash),
    ("proof_system", (row.value "proof_system").or (some (.text "legacy"))),
    ("circuit_hash", (row.value "circuit_hash").or (some (.text ""))),
    ("verification_key_hash", (row.value "verification_key_hash").or (some (.text ""))),
    ("proof_bundle", (row.value "proof_bundle").or (some (.jsonb (.obj [
      ("legacy", .bool true), ("final_proof", textToJson (row.value "final_proof")),
      ("integrity_hash", textToJson integrityHash)]))))]

/-- `CHECK (jsonb_typeof(proof_bundle) = 'object')`. -/
def proofsBundleObject : Check SqlValue where
  name := "proofs_bundle_object"
  column := "proof_bundle"
  holds
    | none => none
    | some (.jsonb (.obj _)) => some true
    | some _ => some false

/-- `003_verified_proof_bundle.sql`. -/
def verifiedProofBundle : List (Statement SqlValue) :=
  [.addColumnIfNotExists ⟨"integrity_hash", false⟩ none,
    .addColumnIfNotExists ⟨"proof_system", false⟩ none,
    .addColumnIfNotExists ⟨"circuit_hash", false⟩ none,
    .addColumnIfNotExists ⟨"verification_key_hash", false⟩ none,
    .addColumnIfNotExists ⟨"proof_bundle", false⟩ none,
    .addColumnIfNotExists ⟨"proof_verified", true⟩ (some (.boolean false)),
    .update ("final_proof" :: filledColumns) isIncomplete backfill,
    .setNotNull "integrity_hash",
    .setNotNull "proof_system",
    .setNotNull "circuit_hash",
    .setNotNull "verification_key_hash",
    .setNotNull "proof_bundle",
    .addCheckIfNotNamed proofsBundleObject]

/-! ### Legacy databases -/

/-- The columns that the migration adds. -/
def addedColumns : List String := filledColumns ++ ["proof_verified"]

/-- A database from before the migration: the table lacks the new columns, and no row of it can
be updated. -/
structure IsLegacy (db : Database SqlValue) : Prop where
  shape : ∀ row ∈ db.table.rows, row.map Prod.fst = db.table.names
  finalProof : "final_proof" ∈ db.table.names
  lacks : ∀ column ∈ addedColumns, column ∉ db.table.names
  guarded : proofsAppendOnlyGuard ∈ db.table.triggers

/-- The migration runs, every row keeps the columns that it had, the new columns are filled, and
the migration changes nothing when it is run again. -/
def Preserves (visible : Row SqlValue → Bool) (db : Database SqlValue) : Prop :=
  ∃ db', db.run visible verifiedProofBundle = .ok db' ∧
    List.Forall₂ (fun row row' => ∀ column ∈ db.table.names,
      row'.lookup column = row.lookup column) db.table.rows db'.table.rows ∧
    (∀ row ∈ db'.table.rows, ∀ column ∈ filledColumns, (row.value column).isSome) ∧
    db'.run visible verifiedProofBundle = .ok db'

variable {visible : Row SqlValue → Bool} {db : Database SqlValue}

/-- The first statement makes a column that is `NULL` in every row, and the trigger keeps it so. -/
theorem run_ne_ok (h : IsLegacy db) (hrows : db.table.rows ≠ []) {db' : Database SqlValue} :
    db.run visible verifiedProofBundle ≠ .ok db' := by
  have hnew : "integrity_hash" ∉ db.table.names := h.lacks _ (by decide)
  obtain ⟨row, hrow⟩ := List.exists_mem_of_ne_nil _ hrows
  rw [verifiedProofBundle, Database.run_cons, Database.step, Table.addColumnIfNotExists,
    if_neg hnew, Bool.false_and, Bool.false_and, if_neg Bool.false_ne_true]
  have hblocked : Database.Blocked { db with table := { db.table with
      columns := db.table.columns ++ [⟨"integrity_hash", false⟩]
      rows := db.table.rows.map fun row => row ++ [("integrity_hash", none)] } }
      "integrity_hash" := by
    refine ⟨?_, ⟨row ++ [("integrity_hash", none)], ?_, ?_⟩, _, h.guarded,
      proofsAppendOnlyGuard_guards⟩
    · show _ ∈ (db.table.columns ++ [(⟨"integrity_hash", false⟩ : Column)]).map Column.name
      rw [List.map_append]
      exact List.mem_append_right _ (List.mem_singleton.mpr rfl)
    · exact List.mem_map_of_mem hrow
    · have hlookup : row.lookup "integrity_hash" = none := by
        refine List.lookup_eq_none_iff.mpr fun m hm => ?_
        rw [bne_iff_ne]
        intro heq
        have hnames := List.mem_map_of_mem (f := Prod.fst) hm
        rw [h.shape row hrow, ← heq] at hnames
        exact hnew hnames
      rw [Row.value, List.lookup_append, hlookup]
      rfl
  exact Database.run_blocked hblocked (by simp)

/-- **The migration preserves the database exactly if no proof is stored.** -/
theorem migration_preserves_iff (h : IsLegacy db) :
    Preserves visible db ↔ db.table.rows = [] := by
  constructor
  · intro ⟨db', hrun, _⟩
    by_contra hrows
    exact run_ne_ok h hrows hrun
  · intro hrows
    have hscoped : WellScoped ["final_proof"] verifiedProofBundle := by
      refine ⟨?_, ?_, ?_, ?_, ?_, ?_, ?_, ?_, ?_, ?_, ?_, ?_, ?_, trivial⟩ <;> decide
    obtain ⟨db', hrun, hrows', hagain⟩ := Database.run_empty hrows
      (List.cons_subset.mpr ⟨h.finalProof, List.nil_subset _⟩) hscoped
    refine ⟨db', hrun, ?_, ?_, hagain⟩
    · rw [hrows, hrows']
      exact .nil
    · rw [hrows']
      exact nofun

/-! ### A legacy proof -/

/-- The table of proofs of `001_init.sql` without the columns that are added. -/
def legacyDatabase (rows : List (Row SqlValue)) : Database SqlValue where
  table := {
    name := "proofs"
    columns := [⟨"id", true⟩, ⟨"request_id", true⟩, ⟨"trace_hash", true⟩, ⟨"final_proof", true⟩,
      ⟨"created_at", true⟩]
    rows
    triggers := [proofsAppendOnlyGuard]
    checks := [] }
  constraints := ["proofs_pkey", "proofs_request_id_fkey", "proofs_request_unique"]

/-- A row of it. -/
def legacyProof : Row SqlValue :=
  [("id", some (.uuid ⟨1⟩)), ("request_id", some (.uuid ⟨2⟩)), ("trace_hash", some (.text "ab")),
    ("final_proof", some (.text "cd")), ("created_at", some (.timestamptz 0))]

theorem isLegacy_legacyDatabase {rows : List (Row SqlValue)}
    (h : ∀ row ∈ rows, row.map Prod.fst =
      ["id", "request_id", "trace_hash", "final_proof", "created_at"]) :
    IsLegacy (legacyDatabase rows) := by
  have hnames : (legacyDatabase rows).table.names =
      ["id", "request_id", "trace_hash", "final_proof", "created_at"] := rfl
  refine ⟨h, ?_, ?_, List.mem_singleton.mpr rfl⟩
  · rw [hnames]
    decide
  · rw [hnames]
    decide

theorem migration_preserves_iff_legacy :
    IsLegacy (legacyDatabase [legacyProof]) ∧
      (Preserves (fun _ => true) (legacyDatabase [legacyProof]) ↔ [legacyProof] = []) := by
  have hlegacy : IsLegacy (legacyDatabase [legacyProof]) :=
    isLegacy_legacyDatabase fun row hrow => by rw [List.mem_singleton.mp hrow]; rfl
  exact ⟨hlegacy, migration_preserves_iff hlegacy⟩

/-- The `UPDATE` of the migration is refused. -/
theorem legacy_proof_refused :
    (legacyDatabase [legacyProof]).run (fun _ => true) verifiedProofBundle =
        .error (.raised "Append-only table proofs does not allow UPDATE operations") ∧
      ¬ Preserves (fun _ => true) (legacyDatabase [legacyProof]) := by
  have hrun : (legacyDatabase [legacyProof]).run (fun _ => true) verifiedProofBundle =
      .error (.raised "Append-only table proofs does not allow UPDATE operations") := by
    rfl
  refine ⟨hrun, ?_⟩
  intro ⟨db', hrun', _⟩
  rw [hrun] at hrun'
  cases hrun'

end Vrl.Migrations
