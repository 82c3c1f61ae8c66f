import Mempal.Schema.Basic

set_option autoImplicit false

/-! The statements of each schema version, the checks by column existence that stand in for some of them, and the list of
tasks of one `apply_migrations`. -/

namespace Mempal.Schema

open Foundation.Text

def currentSchemaVersion : Nat := 21

def v1DrawersSql : String :=
  "CREATE TABLE drawers (\n    id TEXT PRIMARY KEY,\n    content TEXT NOT NULL,\n    wing TEXT NOT NULL,\n" ++
    "    room TEXT,\n    source_file TEXT,\n    source_type TEXT NOT NULL DEFAULT 'system_generated' " ++
    "CHECK(source_type IN ('user_explicit', 'agent_observation', 'agent_inference', 'system_generated')),\n" ++
    "    confidence REAL NOT NULL DEFAULT 0.5,\n    added_at TEXT NOT NULL,\n    chunk_index INTEGER\n)"

def v8KnowledgeCardsSql : String :=
  "CREATE TABLE knowledge_cards (\n    id TEXT PRIMARY KEY,\n    statement TEXT NOT NULL,\n" ++
    "    content TEXT NOT NULL,\n    tier TEXT NOT NULL CHECK(tier IN ('qi', 'shu', 'dao_ren', 'dao_tian')),\n" ++
    "    status TEXT NOT NULL CHECK(status IN ('candidate', 'promoted', 'canonical', 'demoted', 'retired')),\n" ++
    "    domain TEXT NOT NULL CHECK(domain IN ('project', 'agent', 'skill', 'global')),\n" ++
    "    field TEXT NOT NULL DEFAULT 'general',\n" ++
    "    anchor_kind TEXT NOT NULL CHECK(anchor_kind IN ('global', 'repo', 'worktree')),\n" ++
    "    anchor_id TEXT NOT NULL,\n    parent_anchor_id TEXT,\n    scope_constraints TEXT,\n" ++
    "    trigger_hints TEXT,\n    created_at TEXT NOT NULL,\n    updated_at TEXT NOT NULL\n)"

def v1Schema : List Statement :=
  [.createTable "drawers"
      ["id", "content", "wing", "room", "source_file", "source_type", "confidence", "added_at", "chunk_index"]
      v1DrawersSql,
    .createTable "triples"
      ["id", "subject", "predicate", "object", "valid_from", "valid_to", "confidence", "source_drawer"] "",
    .createTable "taxonomy" ["wing", "room", "display_name", "keywords"] "",
    .createIndex "idx_drawers_wing" "drawers" ["wing"],
    .createIndex "idx_drawers_wing_room" "drawers" ["wing", "room"],
    .createIndex "idx_triples_subject" "triples" ["subject"],
    .createIndex "idx_triples_object" "triples" ["object"]]

def v3Migration : List Statement :=
  [.createFts, .fillFts, .createTrigger "drawers_ai", .createTrigger "drawers_au_softdelete"]

/-- `V5_DRAWER_COLUMN_MIGRATIONS`. -/
def v5DrawerColumns : List (String × String) :=
  [("memory_kind", "memory_kind TEXT NOT NULL CHECK(memory_kind IN ('evidence', 'knowledge', 'atomic_fact', " ++
      "'decision', 'case', 'skill', 'foresight', 'profile_fact', 'profile_trait')) DEFAULT 'evidence'"),
    ("domain", "domain TEXT NOT NULL CHECK(domain IN ('project', 'agent', 'skill', 'global')) DEFAULT 'project'"),
    ("field", "field TEXT NOT NULL DEFAULT 'general'"),
    ("anchor_kind", "anchor_kind TEXT NOT NULL CHECK(anchor_kind IN ('global', 'repo', 'worktree')) DEFAULT 'repo'"),
    ("anchor_id", "anchor_id TEXT NOT NULL DEFAULT 'repo://legacy'"),
    ("parent_anchor_id", "parent_anchor_id TEXT"),
    ("provenance", "provenance TEXT CHECK(provenance IN ('runtime', 'research', 'human'))"),
    ("statement", "statement TEXT"),
    ("tier", "tier TEXT CHECK(tier IN ('qi', 'shu', 'dao_ren', 'dao_tian'))"),
    ("status", "status TEXT CHECK(status IN ('active', 'superseded', 'pending_review', 'candidate', 'promoted', " ++
      "'canonical', 'demoted', 'retired'))"),
    ("supporting_refs", "supporting_refs TEXT NOT NULL DEFAULT '[]'"),
    ("counterexample_refs", "counterexample_refs TEXT NOT NULL DEFAULT '[]'"),
    ("teaching_refs", "teaching_refs TEXT NOT NULL DEFAULT '[]'"),
    ("verification_refs", "verification_refs TEXT NOT NULL DEFAULT '[]'"),
    ("scope_constraints", "scope_constraints TEXT"),
    ("trigger_hints", "trigger_hints TEXT"),
    ("content_hash", "content_hash TEXT")]

def v6Migration : List Statement :=
  [.createTable "tunnels" ["id", "left_wing", "left_room", "right_wing", "right_room", "label", "created_at",
      "created_by", "deleted_at"] "",
    .createIndex "idx_tunnels_left" "tunnels" ["left_wing", "left_room", "deleted_at"],
    .createIndex "idx_tunnels_right" "tunnels" ["right_wing", "right_room", "deleted_at"]]

def v7AlreadyApplied : List Statement :=
  [.createIndex "idx_drawers_normalize_version" "drawers" ["normalize_version", "deleted_at"]]

def v7Migration : List Statement :=
  .addColumn "drawers" "normalize_version" "normalize_version INTEGER NOT NULL DEFAULT 1" :: v7AlreadyApplied

def v8Migration : List Statement :=
  [.createTable "knowledge_cards" ["id", "statement", "content", "tier", "status", "domain", "field", "anchor_kind",
      "anchor_id", "parent_anchor_id", "scope_constraints", "trigger_hints", "created_at", "updated_at"]
      v8KnowledgeCardsSql,
    .createTable "knowledge_evidence_links" ["id", "card_id", "evidence_drawer_id", "role", "note", "created_at"] "",
    .createTable "knowledge_events" ["id", "card_id", "event_type", "from_status", "to_status", "reason", "actor",
      "metadata", "created_at"] "",
    .createIndex "idx_knowledge_cards_tier_status" "knowledge_cards" ["tier", "status"],
    .createIndex "idx_knowledge_cards_domain_field" "knowledge_cards" ["domain", "field"],
    .createIndex "idx_knowledge_cards_anchor" "knowledge_cards" ["anchor_kind", "anchor_id"],
    .createIndex "idx_knowledge_evidence_links_card" "knowledge_evidence_links" ["card_id"],
    .createIndex "idx_knowledge_evidence_links_evidence" "knowledge_evidence_links" ["evidence_drawer_id"],
    .createIndex "idx_knowledge_events_card_created_at" "knowledge_events" ["card_id", "created_at"],
    .createTrigger "knowledge_events_no_update",
    .createTrigger "knowledge_events_no_delete"]

def v9Migration : List Statement :=
  [.createTable "runtime_adoption_events" ["id", "track", "signal", "feature", "query", "context_hash", "card_id",
      "evaluator_id", "research_report_id", "note", "metadata", "created_at"] "",
    .createIndex "idx_runtime_adoption_events_track_created_at" "runtime_adoption_events" ["track", "created_at"],
    .createIndex "idx_runtime_adoption_events_feature" "runtime_adoption_events" ["feature"],
    .createIndex "idx_runtime_adoption_events_signal" "runtime_adoption_events" ["signal"]]

def v10DrawerColumns : List (String × String) :=
  [("valid_from", "valid_from TEXT"), ("valid_until", "valid_until TEXT")]

def v11DrawerColumns : List (String × String) :=
  [("source_type", "source_type TEXT NOT NULL DEFAULT 'system_generated' CHECK(source_type IN ('user_explicit', " ++
      "'agent_observation', 'agent_inference', 'system_generated'))"),
    ("confidence", "confidence REAL NOT NULL DEFAULT 0.5")]

def v12DrawerColumns : List (String × String) := [("compacted_into", "compacted_into TEXT REFERENCES drawers(id)")]

def v12CompactionSchema : List Statement :=
  [.createIndex "idx_drawers_compacted_into" "drawers" ["compacted_into"],
    .createTable "consolidation_log" ["id", "created_at", "wing", "room", "project_id", "cluster_size", "strategy",
      "target_drawer_id", "source_drawer_ids", "dry_run"] "",
    .createIndex "idx_consolidation_log_created_at" "consolidation_log" ["created_at"],
    .createIndex "idx_consolidation_log_scope" "consolidation_log" ["wing", "room", "project_id"]]

def v13DrawerColumns : List (String × String) :=
  [("is_pinned", "is_pinned INTEGER NOT NULL DEFAULT 0 CHECK(is_pinned IN (0, 1))"),
    ("pin_order", "pin_order INTEGER"),
    ("supersedes", "supersedes TEXT REFERENCES drawers(id)")]

def v13TypedPinnedSchema : List Statement :=
  [.createIndex "idx_drawers_pinned" "drawers" ["is_pinned", "pin_order", "deleted_at"],
    .createIndex "idx_drawers_supersedes" "drawers" ["supersedes"]]

def v14DrawerColumns : List (String × String) :=
  [("consolidation_priority", "consolidation_priority REAL"), ("last_sleep_at", "last_sleep_at TEXT")]

def v14SleepSchema : List Statement :=
  [.createIndex "idx_drawers_consolidation_priority" "drawers"
      ["consolidation_priority", "deleted_at", "compacted_into"],
    .createIndex "idx_drawers_last_sleep_at" "drawers" ["last_sleep_at"],
    .createTable "sleep_log" ["id", "created_at", "phase", "processed_count", "pruned_count", "compacted_count",
      "conflicts_resolved_count", "salience_scored_count", "dry_run"] "",
    .createIndex "idx_sleep_log_created_at" "sleep_log" ["created_at"],
    .createTable "sleep_resolution_log" ["id", "created_at", "wing", "drawer_id", "contradicted_triple_id",
      "contradicted_source_drawer", "new_confidence", "existing_confidence", "action", "dry_run"] "",
    .createIndex "idx_sleep_resolution_log_created_at" "sleep_resolution_log" ["created_at"]]

def v15CardColumns : List (String × String) :=
  [("auto_generated", "auto_generated INTEGER NOT NULL DEFAULT 0 CHECK(auto_generated IN (0, 1))"),
    ("crystallization_score", "crystallization_score REAL"),
    ("source_drawer_ids", "source_drawer_ids TEXT NOT NULL DEFAULT '[]'")]

def v16Migration : List Statement :=
  [.createTable "leases" ["resource_path", "holder_id", "acquired_at", "expires_at", "metadata"] "",
    .createIndex "idx_leases_expires" "leases" ["expires_at"]]

def v17Migration : List Statement :=
  [.dropTrigger "drawers_ai", .dropTrigger "drawers_au_softdelete", .dropFts, .createFts]

def v18Migration : List Statement :=
  [.createTable "design_insights" ["id", "source", "scope", "target_artifact", "evidence_ref", "summary", "rule_text",
      "priority", "status", "created_at", "resolved_at", "resolved_by", "resolution_note", "redaction_count",
      "project_id"] "",
    .createIndex "idx_design_insights_status_priority" "design_insights" ["status", "priority", "created_at"],
    .createIndex "idx_design_insights_target_status" "design_insights" ["target_artifact", "status", "priority"],
    .createIndex "idx_design_insights_project_status" "design_insights" ["project_id", "status", "priority"]]

def v19Migration : List Statement :=
  [.createTable "foresights" ["drawer_id", "statement", "reason", "trigger_condition", "due_at", "valid_from",
      "valid_until", "resolved_at", "resolution_note", "created_at", "updated_at"] "",
    .createIndex "idx_foresights_due" "foresights" ["due_at", "resolved_at"],
    .createIndex "idx_foresights_validity" "foresights" ["valid_from", "valid_until"]]

def v20Migration : List Statement :=
  [.createTable "runtime_writer_leases" ["name", "owner", "pid", "boot_id", "session_id", "acquired_at", "expires_at",
      "heartbeat_at", "mode", "metadata_json"] "",
    .createIndex "idx_runtime_writer_leases_expires" "runtime_writer_leases" ["expires_at"],
    .createIndex "idx_runtime_writer_leases_mode" "runtime_writer_leases" ["mode"]]

/-- The texts that `apply_migration_atomic` runs; the other versions have an `ensure` function. -/
def migrationSql : Nat → List Statement
  | 1 => v1Schema
  | 2 => [.addColumn "drawers" "deleted_at" "deleted_at TEXT",
      .createIndex "idx_drawers_deleted_at" "drawers" ["deleted_at"]]
  | 3 => v3Migration
  | 4 => [.addColumn "drawers" "importance" "importance INTEGER DEFAULT 0"]
  | 6 => v6Migration
  | 7 => v7Migration
  | 8 => v8Migration
  | 9 => v9Migration
  | 16 => v16Migration
  | 17 => v17Migration
  | 18 => v18Migration
  | 19 => v19Migration
  | 20 => v20Migration
  | 21 => [.addColumn "drawers" "admission_owner" "admission_owner TEXT"]
  | _ => []

section Ensure

variable (current : Nat) (db : SchemaDb)

def missingColumns (table : String) (columns : List (String × String)) : List (String × String) :=
  columns.filter fun column => column.1 ∉ db.tableColumns table

def addColumns (table : String) (columns : List (String × String)) : List Statement :=
  (missingColumns db table columns).map fun column => .addColumn table column.1 column.2

/-- The end of every `ensure` transaction. -/
def recordVersion (version : Nat) : List Statement := if current < version then [.setVersion version] else []

def ensureV5DrawersSchema : Option (List Statement) :=
  if (missingColumns db "drawers" v5DrawerColumns).isEmpty ∧ 5 ≤ current ∧
      db.hasObject "idx_drawers_content_hash" then none
  else
    some (addColumns db "drawers" v5DrawerColumns ++
      [.backfillMetadata, .createIndex "idx_drawers_content_hash" "drawers" ["wing", "content_hash"]] ++
      recordVersion current 5)

def ensureV10DrawersSchema : List Statement :=
  addColumns db "drawers" v10DrawerColumns ++
    [.backfillValidity, .createIndex "idx_drawers_validity" "drawers" ["valid_from", "valid_until", "deleted_at"]] ++
    recordVersion current 10

def ensureV11SourceConfidenceSchema : List Statement :=
  addColumns db "drawers" v11DrawerColumns ++
    [.sourceTypeCheck (current < 11 || !(missingColumns db "drawers" v11DrawerColumns).isEmpty)] ++
    recordVersion current 11

def ensureV12CompactionSchema : List Statement :=
  addColumns db "drawers" v12DrawerColumns ++ v12CompactionSchema ++ recordVersion current 12

def ensureV13TypedPinnedSchema : List Statement :=
  addColumns db "drawers" v13DrawerColumns ++ .typedIngestChecks :: v13TypedPinnedSchema ++ recordVersion current 13

def ensureV14SleepSchema : List Statement :=
  addColumns db "drawers" v14DrawerColumns ++ v14SleepSchema ++ recordVersion current 14

def ensureV15CrystallizeSchema : List Statement :=
  if db.hasTable "knowledge_cards" then
    addColumns db "knowledge_cards" v15CardColumns ++
      [.cardStatusCheck, .createIndex "idx_knowledge_cards_auto_pending" "knowledge_cards"
        ["auto_generated", "status", "created_at"]] ++
      recordVersion current 15
  else recordVersion current 15

end Ensure

inductive Task where
  | migrate (version : Nat)
  | repair (version : Nat)
deriving DecidableEq

def tasks (current : Nat) : List Task :=
  (List.range' (current + 1) (currentSchemaVersion - current)).map .migrate ++
    (if 5 ≤ current then [.repair 5] else []) ++ [11, 12, 13, 14, 15].map .repair

/-- The transaction of a task, if it has one; `current` is the version that `apply_migrations` read first. -/
def plan (current : Nat) (db : SchemaDb) : Task → Option (List Statement)
  | .migrate version =>
    if version = 5 then ensureV5DrawersSchema current db
    else if version = 7 ∧ current < 7 ∧ "normalize_version" ∈ db.tableColumns "drawers" then
      some (v7AlreadyApplied ++ [.setVersion 7])
    else if version = 10 then some (ensureV10DrawersSchema db.version db)
    else if version = 11 then some (ensureV11SourceConfidenceSchema db.version db)
    else if version = 12 then some (ensureV12CompactionSchema db.version db)
    else if version = 13 then some (ensureV13TypedPinnedSchema db.version db)
    else if version = 14 then some (ensureV14SleepSchema db.version db)
    else if version = 15 then some (ensureV15CrystallizeSchema db.version db)
    else if version = 21 ∧ "admission_owner" ∈ db.tableColumns "drawers" then some [.setVersion 21]
    else some (migrationSql version ++ [.setVersion version])
  | .repair version =>
    if version = 5 then ensureV5DrawersSchema db.version db
    else if db.version < version then none
    else if version = 11 then some (ensureV11SourceConfidenceSchema db.version db)
    else if version = 12 then some (ensureV12CompactionSchema db.version db)
    else if version = 13 then some (ensureV13TypedPinnedSchema db.version db)
    else if version = 14 then some (ensureV14SleepSchema db.version db)
    else if version = 15 then some (ensureV15CrystallizeSchema db.version db)
    else none

def sqlRequiresRewrite (sql : String) (replacements : List (String × String)) : Bool :=
  replacements.any fun replacement => hasText sql replacement.1

def v15RepairsRequired (db : SchemaDb) : Bool :=
  !(missingColumns db "knowledge_cards" v15CardColumns).isEmpty ||
    !db.hasObject "idx_knowledge_cards_auto_pending" ||
    sqlRequiresRewrite (db.sql "knowledge_cards") cardStatusReplacements

/-- The text of `drawers` is read before anything else, which fails without that table. -/
def schemaRepairsRequired (db : SchemaDb) : Except SchemaError Bool :=
  if !db.hasTable "drawers" then .error (.noSuchTable "drawers")
  else
    .ok (!(missingColumns db "drawers" (v5DrawerColumns ++ v11DrawerColumns ++ v12DrawerColumns ++ v13DrawerColumns ++
          v14DrawerColumns)).isEmpty ||
        ["idx_drawers_content_hash", "idx_drawers_compacted_into", "consolidation_log",
          "idx_consolidation_log_created_at", "idx_consolidation_log_scope", "idx_drawers_pinned",
          "idx_drawers_supersedes", "idx_drawers_consolidation_priority", "idx_drawers_last_sleep_at", "sleep_log",
          "idx_sleep_log_created_at", "sleep_resolution_log", "idx_sleep_resolution_log_created_at"].any
            (fun name => !db.hasObject name) ||
        !drawersSourceTypeCheckIsCurrent (db.sql "drawers") ||
        sqlRequiresRewrite (db.sql "drawers") typedIngestReplacements ||
        (db.hasObject "knowledge_cards" && v15RepairsRequired db))

end Mempal.Schema
