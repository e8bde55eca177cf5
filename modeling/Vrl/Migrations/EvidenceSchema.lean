import Vrl.Lib.SqlStore
import Vrl.Utils.Canonical

/-!
# Vrl.Migrations.EvidenceSchema

The tables of the evidence database (`migrations/001_init.sql`, with the column that
`migrations/002_chain_partitioning.sql` adds), and what roles can do with their rows.

Whatever is sent, by whichever role, the keys and references of the tables hold, and rows can
only be added, by the writer or a superuser. The exception is `TRUNCATE`, which the triggers do
not guard: the owner of the tables keeps the privilege, and with it can empty them
(**`evidence_appendOnly`**).
-/

open Sql Sql.Store

namespace Vrl.Migrations

/-! ### Values -/

/-- The values of the tables' columns, as they arrive: a text or an object with a null character
is refused before. -/
inductive EvidenceValue where
  | uuid (value : Uuid)
  | text (value : String)
  | boolean (value : Bool)
  | integer (value : Int)
  | jsonb (value : PyVal)
  | timestamptz (value : DateTime)

/-- The types of the columns. -/
inductive ColumnType where
  | uuid
  | text
  | boolean
  | smallint
  | bigint
  | jsonb
  | timestamptz

/-- The value is of the type. -/
def ColumnType.admits : ColumnType → EvidenceValue → Bool
  | .uuid, .uuid _ => true
  | .text, .text _ => true
  | .boolean, .boolean _ => true
  | .smallint, .integer n => -2 ^ 15 ≤ n && n < 2 ^ 15
  | .bigint, .integer n => -2 ^ 63 ≤ n && n < 2 ^ 63
  | .jsonb, .jsonb _ => true
  | .timestamptz, .timestamptz _ => true
  | _, _ => false

/-- Two values of a key are equal. The keys are identifiers, texts and numbers. -/
def sameKey : EvidenceValue → EvidenceValue → Bool
  | .uuid u, .uuid v => u == v
  | .text s, .text t => s == t
  | .integer m, .integer n => m == n
  | _, _ => false

/-! ### Privileges -/

/-- The privileges of the one who creates a table. -/
def allPrivileges : List Privilege := [.select, .insert, .update, .delete, .truncate]

/-- `REVOKE … FROM …`. -/
def revoke (privileges : List Privilege) (roles : List String) (acl : List (String × Privilege)) :
    List (String × Privilege) :=
  acl.filter fun entry => !(roles.contains entry.1 && privileges.contains entry.2)

/-- `GRANT … TO …`. -/
def grant (privileges : List Privilege) (roles : List String) (acl : List (String × Privilege)) :
    List (String × Privilege) :=
  acl ++ roles.flatMap fun role => privileges.map fun privilege => (role, privilege)

/-- The privileges on each table when the migration ends. `PUBLIC` has none on a new table, so
that there is nothing to revoke from it. -/
def evidenceAcl (owner : String) : List (String × Privilege) :=
  let acl := allPrivileges.map fun privilege => (owner, privilege)
  let acl := revoke [.update, .delete] ["vrl_writer", "vrl_reader"] acl
  let acl := revoke [.truncate] ["vrl_writer", "vrl_reader"] acl
  let acl := grant [.insert] ["vrl_writer"] acl
  grant [.select] ["vrl_reader", "vrl_writer"] acl

/-! ### Tables -/

/-- The trigger that runs `raise_append_only_violation`. -/
def appendOnlyGuard (table : String) : RowTrigger EvidenceValue where
  name := table ++ "_append_only_guard"
  events := [.update, .delete]
  execute table op _ _ := .error (.raised
    ("Append-only table " ++ table ++ " does not allow " ++ op.text ++ " operations"))

/-- The policies of a table. There are none for updates and deletions. -/
def evidencePolicies (table : String) : List (Policy EvidenceValue) :=
  [{ name := table ++ "_writer_insert_policy", command := .insert, roles := ["vrl_writer"],
     passes := fun _ => true },
    { name := table ++ "_reader_select_policy", command := .select,
      roles := ["vrl_reader", "vrl_writer"], passes := fun _ => true }]

/-- `CHECK (jsonb_typeof(…) = 'object')`. -/
def objectCheck (name column : String) : Check EvidenceValue where
  name := name
  column := column
  holds
    | some (.jsonb (.dict _)) => some true
    | some _ => some false
    | none => none

/-- A table of the database, with what the migration says of every table. -/
def evidenceTable (owner name : String) (columns : List (Column × ColumnType)) (keys : List String)
    (references : List Reference) (checks : List (Check EvidenceValue)) :
    Relation EvidenceValue where
  name := name
  columns := columns.map (·.1)
  hasType column value := (columns.find? fun c => c.1.name == column).any fun c => c.2.admits value
  checks := checks
  keys := keys
  references := references
  triggers := [appendOnlyGuard name]
  owner := owner
  acl := evidenceAcl owner
  rowSecurity := true
  forcesRowSecurity := true
  policies := evidencePolicies name

/-- A column that is `NOT NULL`. -/
def required (name : String) (type : ColumnType) : Column × ColumnType :=
  ({ name, notNull := true }, type)

/-- A column that may be `NULL`. -/
def optional (name : String) (type : ColumnType) : Column × ColumnType := ({ name }, type)

/-- `requests`. -/
def requestsTable (owner : String) : Relation EvidenceValue :=
  evidenceTable owner "requests"
    [required "id" .uuid, required "input_hash" .text, required "raw_input" .jsonb,
      required "created_at" .timestamptz]
    ["id", "input_hash"] [] [objectCheck "requests_raw_input_object" "raw_input"]

/-- `results`. -/
def resultsTable (owner : String) : Relation EvidenceValue :=
  evidenceTable owner "results"
    [required "id" .uuid, required "request_id" .uuid, required "output_hash" .text,
      required "raw_output" .jsonb, required "created_at" .timestamptz]
    ["id", "request_id"] [⟨"request_id", "requests", "id"⟩]
    [objectCheck "results_raw_output_object" "raw_output"]

/-- `proofs`. -/
def proofsTable (owner : String) : Relation EvidenceValue :=
  evidenceTable owner "proofs"
    [required "id" .uuid, required "request_id" .uuid, required "trace_hash" .text,
      required "final_proof" .text, required "integrity_hash" .text,
      required "proof_system" .text, required "circuit_hash" .text,
      required "verification_key_hash" .text, required "proof_bundle" .jsonb,
      required "proof_verified" .boolean, required "created_at" .timestamptz]
    ["id", "request_id"] [⟨"request_id", "requests", "id"⟩]
    [objectCheck "proofs_bundle_object" "proof_bundle"]

/-- `audit_log`. -/
def auditLogTable (owner : String) : Relation EvidenceValue :=
  evidenceTable owner "audit_log"
    [required "id" .bigint, required "event_type" .text, optional "reference_id" .uuid,
      required "event_payload" .jsonb, optional "prev_hash" .text, required "current_hash" .text,
      required "created_at" .timestamptz, required "chain_id" .smallint]
    ["id"] [] [objectCheck "audit_log_event_payload_object" "event_payload"]

/-- The tables of the evidence database, which belong to the role that ran the migration. -/
def evidenceSchema (owner : String) : List (Relation EvidenceValue) :=
  [requestsTable owner, resultsTable owner, proofsTable owner, auditLogTable owner]

/-- Their names. -/
def evidenceTables : List String := ["requests", "results", "proofs", "audit_log"]

theorem map_name_evidenceSchema (owner : String) :
    (evidenceSchema owner).map Relation.name = evidenceTables := rfl

theorem evidenceSchema_nodup (owner : String) :
    ((evidenceSchema owner).map Relation.name).Nodup := by
  rw [map_name_evidenceSchema]
  decide

/-- The tables are alike in what does not depend on their columns. -/
theorem eq_evidenceTable {owner : String} {rel : Relation EvidenceValue}
    (h : rel ∈ evidenceSchema owner) :
    ∃ name columns keys references checks, name ∈ evidenceTables ∧
      rel = evidenceTable owner name columns keys references checks := by
  simp only [evidenceSchema, List.mem_cons, List.not_mem_nil, or_false] at h
  obtain rfl | rfl | rfl | rfl := h
  · exact ⟨_, _, _, _, _, by decide, rfl⟩
  · exact ⟨_, _, _, _, _, by decide, rfl⟩
  · exact ⟨_, _, _, _, _, by decide, rfl⟩
  · exact ⟨_, _, _, _, _, by decide, rfl⟩

theorem evidenceSchema_isAppendOnly {owner : String} :
    ∀ rel ∈ evidenceSchema owner, rel.IsAppendOnly := by
  intro rel h
  obtain ⟨name, columns, keys, references, checks, -, rfl⟩ := eq_evidenceTable h
  refine ⟨appendOnlyGuard name, List.mem_cons_self, fun op => ⟨?_, fun _ _ _ => ⟨_, rfl⟩⟩⟩
  cases op with
  | update => exact List.mem_cons_self
  | delete => exact List.mem_cons_of_mem _ List.mem_cons_self

/-! ### Who may do what -/

theorem mem_revoke {privileges : List Privilege} {roles : List String}
    {acl : List (String × Privilege)} {name : String} {privilege : Privilege} :
    (name, privilege) ∈ revoke privileges roles acl ↔
      (name, privilege) ∈ acl ∧ (name ∈ roles → privilege ∉ privileges) := by
  simp [revoke, imp_iff_not_or]

theorem mem_grant {privileges : List Privilege} {roles : List String}
    {acl : List (String × Privilege)} {name : String} {privilege : Privilege} :
    (name, privilege) ∈ grant privileges roles acl ↔
      (name, privilege) ∈ acl ∨ name ∈ roles ∧ privilege ∈ privileges := by
  simp [grant]

/-- The owner keeps what is not revoked from the two roles, if it is one of them. -/
theorem mem_evidenceAcl {owner name : String} {privilege : Privilege} :
    (name, privilege) ∈ evidenceAcl owner ↔
      name = owner ∧ (name ∈ ["vrl_writer", "vrl_reader"] →
          privilege ∉ [Privilege.update, .delete, .truncate]) ∨
        name = "vrl_writer" ∧ privilege = .insert ∨
        name ∈ ["vrl_reader", "vrl_writer"] ∧ privilege = .select := by
  have hall : privilege ∈ allPrivileges := by cases privilege <;> decide
  have hown : (name, privilege) ∈ allPrivileges.map (fun privilege => (owner, privilege)) ↔
      name = owner := by
    simp [hall, eq_comm]
  simp only [evidenceAcl, mem_grant, mem_revoke, hown, List.mem_cons, List.not_mem_nil, or_false]
  tauto

/-- The roles that may add rows. Row security is forced, so that its policies bind the owner,
too, and they let in the writer only. -/
def MayWrite (role : Role) : Prop := role.isSuperuser = true ∨ role.name = "vrl_writer"

/-- The roles that may empty tables. -/
def MayEmpty (owner : String) (role : Role) : Prop :=
  role.isSuperuser = true ∨ role.name = owner ∧ owner ∉ ["vrl_writer", "vrl_reader"]

theorem mayWrite_of_mayInsert {owner : String} {role : Role}
    {entry : String × Sql.Row EvidenceValue} (h : MayInsert (evidenceSchema owner) role entry) :
    MayWrite role := by
  obtain ⟨rel, hmem, -, -, hadmits⟩ := h
  obtain ⟨name, columns, keys, references, checks, -, rfl⟩ := eq_evidenceTable hmem
  simpa [Relation.admits, Relation.bypasses, evidenceTable, evidencePolicies, MayWrite]
    using hadmits

theorem allows_truncate_iff {owner : String} {rel : Relation EvidenceValue}
    (hmem : rel ∈ evidenceSchema owner) {role : Role} :
    rel.allows role .truncate = true ↔ MayEmpty owner role := by
  obtain ⟨name, columns, keys, references, checks, -, rfl⟩ := eq_evidenceTable hmem
  rw [Relation.allows, Bool.or_eq_true, evidenceTable, List.contains_iff_mem, mem_evidenceAcl,
    MayEmpty]
  refine or_congr_right ⟨?_, ?_⟩
  · rintro (⟨rfl, h⟩ | ⟨-, h⟩ | ⟨-, h⟩)
    · exact ⟨rfl, fun hin => h hin (by decide)⟩
    · cases h
    · cases h
  · rintro ⟨rfl, h⟩
    exact .inl ⟨rfl, fun hin => absurd hin h⟩

/-! ### Runs -/

/-- The rows after some commands on the new tables. -/
def evidenceRows (owner : String) (calls : List (Role × Command EvidenceValue)) :
    Contents EvidenceValue :=
  runCommands (evidenceSchema owner) sameKey (fun _ => []) calls

theorem evidenceRows_append (owner : String) (calls more : List (Role × Command EvidenceValue)) :
    evidenceRows owner (calls ++ more) =
      runCommands (evidenceSchema owner) sameKey (evidenceRows owner calls) more :=
  runCommands_append ..

theorem consistent_evidenceRows (owner : String) (calls : List (Role × Command EvidenceValue)) :
    Consistent (evidenceSchema owner) sameKey (evidenceRows owner calls) :=
  consistent_run (evidenceSchema_nodup owner) evidenceSchema_isAppendOnly consistent_empty calls

/-- A role that may neither write nor empty tables changes nothing. -/
theorem after_of_not_may {owner : String} {contents : Contents EvidenceValue}
    (hcons : Consistent (evidenceSchema owner) sameKey contents)
    {call : Role × Command EvidenceValue} (hwrite : ¬ MayWrite call.1)
    (hempty : ¬ MayEmpty owner call.1) :
    after (evidenceSchema owner) sameKey contents call = contents := by
  unfold after
  cases h : exec (evidenceSchema owner) sameKey call.1 contents call.2 with
  | error e => rfl
  | ok contents' =>
      rcases exec_cases (evidenceSchema_nodup owner) evidenceSchema_isAppendOnly hcons h with
        rfl | ⟨entries, -, rfl, hall⟩ | ⟨tables, -, rfl, hall⟩
      · rfl
      · cases entries with
        | nil => exact appended_nil
        | cons entry entries =>
            exact absurd (mayWrite_of_mayInsert (hall entry List.mem_cons_self)) hwrite
      · cases tables with
        | nil => rfl
        | cons table tables =>
            obtain ⟨rel, hmem, -, hallows⟩ := hall table List.mem_cons_self
            exact absurd ((allows_truncate_iff hmem).mp hallows) hempty

/-- Who may empty the tables can do so at any time. -/
theorem truncate_evidenceTables {owner : String} {role : Role} (hmay : MayEmpty owner role)
    (contents : Contents EvidenceValue) :
    Store.truncate (evidenceSchema owner) role contents evidenceTables =
      .ok (emptied contents evidenceTables) := by
  have hfound : evidenceTables.mapM (findRelation (evidenceSchema owner)) =
      .ok (evidenceSchema owner) := rfl
  have hallowed : (evidenceSchema owner).find? (fun rel => !rel.allows role .truncate) = none := by
    rw [List.find?_eq_none]
    intro rel hmem
    simp [(allows_truncate_iff hmem).mpr hmay]
  have hclosed : (evidenceSchema owner).find? (fun rel => !evidenceTables.contains rel.name &&
      rel.references.any fun r => evidenceTables.contains r.table) = none := rfl
  rw [Store.truncate, hfound, Except.ok_bind]
  simp only [hallowed, hclosed]
  rfl

/-- **The keys and references hold after any commands. The rows of a table stay, in their order,
until one who may truncates it, and only the writer and superusers add rows. The owner of the
tables may truncate them.** -/
theorem evidence_appendOnly (owner : String) (calls more : List (Role × Command EvidenceValue)) :
    Consistent (evidenceSchema owner) sameKey (evidenceRows owner calls) ∧
      (∀ table, (∀ call ∈ more, MayEmpty owner call.1 →
          ∀ tables, call.2 = .truncate tables → table ∉ tables) →
        evidenceRows owner calls table <+: evidenceRows owner (calls ++ more) table) ∧
      ((∀ call ∈ more, ¬ MayWrite call.1 ∧ ¬ MayEmpty owner call.1) →
        evidenceRows owner (calls ++ more) = evidenceRows owner calls) ∧
      ∀ role, MayEmpty owner role → ∀ table ∈ evidenceTables,
        evidenceRows owner (calls ++ [(role, .truncate evidenceTables)]) table = [] := by
  refine ⟨consistent_evidenceRows owner calls, ?_, ?_, ?_⟩
  · intro table hkeeps
    rw [evidenceRows_append]
    refine prefix_run (evidenceSchema_nodup owner) evidenceSchema_isAppendOnly
      (consistent_evidenceRows owner calls) ?_
    rintro call hcall tables hcommand hin ⟨rel, hmem, -, hallows⟩
    exact hkeeps call hcall ((allows_truncate_iff hmem).mp hallows) tables hcommand hin
  · intro hnone
    induction more generalizing calls with
    | nil => rw [List.append_nil]
    | cons call more ih =>
        rw [List.forall_mem_cons] at hnone
        rw [List.append_cons, ih _ hnone.2, evidenceRows_append]
        exact after_of_not_may (consistent_evidenceRows owner calls) hnone.1.1 hnone.1.2
  · intro role hmay table hin
    rw [evidenceRows_append]
    show after (evidenceSchema owner) sameKey (evidenceRows owner calls) _ table = []
    rw [after, exec, truncate_evidenceTables hmay]
    simp [emptied, hin]

end Vrl.Migrations
