import Mathlib.Data.Rat.Defs
import Mathlib.Logic.Function.Basic
import Mempal.Foundation.Text

set_option autoImplicit false

/-! The part of the database that migrations read and change: the recorded version, tables with their columns and stored
text, indexes and triggers, the columns of `drawers` that are filled, and the entries of the full-text index. -/

namespace Mempal.Schema

open Foundation.Text

/-- A row of `drawers`; a column that is not there yet has no value. -/
structure DrawerRow where
  rowid : Int
  content : String
  wing : String
  sourceFile : Option String
  sourceType : Option String
  confidence : Option ℚ
  addedAt : String
  deletedAt : Option String
  memoryKind : Option String
  domain : Option String
  field : Option String
  anchorKind : Option String
  anchorId : Option String
  parentAnchorId : Option String
  provenance : Option String
  contentHash : Option String
  validFrom : Option String
deriving DecidableEq

structure SchemaDb where
  version : Nat
  columns : String → Option (List String)
  /-- The `CREATE TABLE` texts in `sqlite_master`. -/
  sql : String → String
  indexes : List String
  triggers : List String
  drawers : List DrawerRow
  /-- The entries of `drawers_fts`. -/
  fts : Option (List (Int × String))

inductive SchemaError where
  | duplicateColumn (column : String)
  | noSuchTable (table : String)
  | noSuchColumn (column : String)
  | unsupportedSchemaVersion (current supported : Nat)
  | io
deriving DecidableEq

namespace SchemaDb

def tableColumns (db : SchemaDb) (table : String) : List String := (db.columns table).getD []

def hasTable (db : SchemaDb) (table : String) : Bool := (db.columns table).isSome

/-- `schema_object_names`. -/
def hasObject (db : SchemaDb) (name : String) : Bool := db.hasTable name || name ∈ db.indexes

/-- `SELECT rowid, content FROM drawers WHERE deleted_at IS NULL`. -/
def liveRows (db : SchemaDb) : List (Int × String) :=
  (db.drawers.filter fun row => row.deletedAt = none).map fun row => (row.rowid, row.content)

def requireColumns (db : SchemaDb) (table : String) (columns : List String) : Except SchemaError Unit :=
  match db.columns table with
  | none => .error (.noSuchTable table)
  | some existing =>
    match columns.find? (· ∉ existing) with
    | some column => .error (.noSuchColumn column)
    | none => .ok ()

end SchemaDb

/-- The text of a `CREATE TABLE` is kept for `drawers` and `knowledge_cards`, whose texts are read. -/
inductive Statement where
  | createTable (table : String) (columns : List String) (sql : String)
  | createIndex (index table : String) (columns : List String)
  | createTrigger (trigger : String)
  | dropTrigger (trigger : String)
  | addColumn (table column definition : String)
  | createFts
  | dropFts
  | fillFts
  | backfillMetadata
  | backfillValidity
  | sourceTypeCheck (force : Bool)
  | typedIngestChecks
  | cardStatusCheck
  | setVersion (version : Nat)
deriving DecidableEq

def withColumn (column : String) (row : DrawerRow) : DrawerRow :=
  { row with
    sourceType := if column = "source_type" then some "system_generated" else row.sourceType
    confidence := if column = "confidence" then some (1 / 2) else row.confidence
    deletedAt := if column = "deleted_at" then none else row.deletedAt
    memoryKind := if column = "memory_kind" then some "evidence" else row.memoryKind
    domain := if column = "domain" then some "project" else row.domain
    field := if column = "field" then some "general" else row.field
    anchorKind := if column = "anchor_kind" then some "repo" else row.anchorKind
    anchorId := if column = "anchor_id" then some "repo://legacy" else row.anchorId
    parentAnchorId := if column = "parent_anchor_id" then none else row.parentAnchorId
    provenance := if column = "provenance" then none else row.provenance
    contentHash := if column = "content_hash" then none else row.contentHash
    validFrom := if column = "valid_from" then none else row.validFrom }

def provenanceOf (sourceType : Option String) : Option String :=
  if sourceType ∈ [some "project", some "agent_inference"] then some "research"
  else if sourceType ∈ [some "conversation", some "manual", some "user_explicit", some "agent_observation"] then
    some "human"
  else if sourceType = some "system_generated" then some "runtime"
  else none

/-- `V5_DRAWER_METADATA_BACKFILL_SQL`; the other columns it sets have these values already. -/
def backfillMetadata (row : DrawerRow) : DrawerRow :=
  if row.memoryKind = some "evidence" ∧ row.domain = some "project" ∧ row.field = some "general" ∧
      row.anchorKind = some "repo" ∧ row.anchorId = some "repo://legacy" ∧ row.parentAnchorId = none ∧
      row.provenance = none then
    { row with provenance := provenanceOf row.sourceType }
  else row

/-- `V10_VALIDITY_BACKFILL_SQL`. -/
def backfillValidity (row : DrawerRow) : DrawerRow :=
  if row.validFrom = none then { row with validFrom := some row.addedAt } else row

/-- The two `CASE`s of `V11_SOURCE_CONFIDENCE_BACKFILL_SQL`, which test the same conditions. -/
def sourceConfidence (row : DrawerRow) : String × ℚ :=
  if like (asciiLower (row.sourceFile.getD "")) "%hook%" ∨ row.wing = "hooks-raw" then ("system_generated", 3 / 10)
  else if row.wing = "agent-diary" then ("agent_observation", 7 / 10)
  else if row.sourceType = some "user_explicit" then ("user_explicit", 9 / 10)
  else if row.sourceType = some "agent_observation" then ("agent_observation", 7 / 10)
  else if row.sourceType = some "system_generated" then ("system_generated", 3 / 10)
  else ("agent_inference", 1 / 2)

def backfillSourceConfidence (row : DrawerRow) : DrawerRow :=
  { row with sourceType := some (sourceConfidence row).1, confidence := some (sourceConfidence row).2 }

def replaceEach (replacements : List (String × String)) (sql : String) : String :=
  replacements.foldl (fun sql (old, new) => replace sql old new) sql

def drawersSourceTypeCheckIsCurrent (sql : String) : Bool :=
  ["user_explicit", "agent_observation", "agent_inference", "system_generated"].all (hasText sql)

def sourceTypeReplacements : List (String × String) :=
  ["source_type TEXT NOT NULL CHECK(source_type IN ('project', 'conversation', 'manual'))",
    "source_type TEXT NOT NULL CHECK(source_type IN ('project','conversation','manual'))"].map fun old =>
      (old, "source_type TEXT NOT NULL DEFAULT 'system_generated' CHECK(source_type IN ('user_explicit', " ++
        "'agent_observation', 'agent_inference', 'system_generated'))")

def memoryKindSql : String :=
  "memory_kind TEXT NOT NULL DEFAULT 'evidence' CHECK(memory_kind IN ('evidence', 'knowledge', 'atomic_fact', " ++
    "'decision', 'case', 'skill', 'foresight', 'profile_fact', 'profile_trait'))"

def domainSql : String :=
  "domain TEXT NOT NULL DEFAULT 'project' CHECK(domain IN ('user', 'agent', 'project', 'skill', 'global'))"

def statusSql : String :=
  "status TEXT CHECK(status IN ('active', 'superseded', 'pending_review', 'candidate', 'promoted', 'canonical', " ++
    "'demoted', 'retired'))"

/-- `V13_TYPED_INGEST_CHECK_REPLACEMENTS`. -/
def typedIngestReplacements : List (String × String) :=
  [("memory_kind TEXT NOT NULL CHECK(memory_kind IN ('evidence', 'knowledge')) DEFAULT 'evidence'", memoryKindSql),
    ("memory_kind TEXT NOT NULL DEFAULT 'evidence' CHECK(memory_kind IN ('evidence', 'knowledge'))", memoryKindSql),
    ("memory_kind TEXT NOT NULL DEFAULT 'evidence' CHECK(memory_kind IN ('evidence', 'knowledge', 'profile_fact'))",
      memoryKindSql),
    ("domain TEXT NOT NULL CHECK(domain IN ('project', 'agent', 'skill', 'global')) DEFAULT 'project'", domainSql),
    ("domain TEXT NOT NULL DEFAULT 'project' CHECK(domain IN ('project', 'agent', 'skill', 'global'))", domainSql),
    ("field TEXT NOT NULL DEFAULT 'general'", "field TEXT"),
    ("status TEXT CHECK(status IN ('candidate', 'promoted', 'canonical', 'demoted', 'retired'))", statusSql),
    ("status TEXT DEFAULT 'active' CHECK(status IN ('candidate', 'promoted', 'canonical', 'demoted', 'retired'))",
      statusSql),
    ("status TEXT DEFAULT 'active' CHECK(status IN ('active', 'superseded', 'candidate', 'promoted', 'canonical', " ++
      "'demoted', 'retired'))", statusSql),
    ("status TEXT DEFAULT 'active' CHECK(status IN ('active', 'superseded', 'pending_review', 'candidate', " ++
      "'promoted', 'canonical', 'demoted', 'retired'))", statusSql)]

/-- `V15_STATUS_CHECK_REPLACEMENTS`. -/
def cardStatusReplacements : List (String × String) :=
  ["status TEXT NOT NULL CHECK(status IN ('candidate', 'promoted', 'canonical', 'demoted', 'retired'))",
    "status TEXT NOT NULL CHECK(status IN ('candidate','promoted','canonical','demoted','retired'))"].map fun old =>
      (old, "status TEXT NOT NULL CHECK(status IN ('pending_review', 'candidate', 'promoted', 'canonical', " ++
        "'demoted', 'retired'))")

/-- `rewrite_drawers_source_type_check`. -/
def rewriteSourceTypeCheck (sql : String) : String :=
  if drawersSourceTypeCheckIsCurrent sql then sql else replaceEach sourceTypeReplacements sql

/-- `rewrite_knowledge_cards_status_check`. -/
def rewriteCardStatusCheck (sql : String) : String :=
  if hasText sql "pending_review" then sql else replaceEach cardStatusReplacements sql

/-- The text after `ALTER TABLE .. ADD COLUMN`: the definition goes before the closing bracket. -/
def alteredSql (sql definition : String) : String :=
  String.ofList sql.toList.dropLast ++ ", " ++ definition ++ ")"

namespace SchemaDb

variable (db : SchemaDb)

def addColumn (table column definition : String) : Except SchemaError SchemaDb :=
  match db.columns table with
  | none => .error (.noSuchTable table)
  | some columns =>
    if column ∈ columns then .error (.duplicateColumn column)
    else
      .ok { db with
        columns := Function.update db.columns table (some (columns ++ [column]))
        sql := Function.update db.sql table (alteredSql (db.sql table) definition)
        drawers := if table = "drawers" then db.drawers.map (withColumn column) else db.drawers }

/-- `IF NOT EXISTS`. -/
def createIndex (index table : String) (columns : List String) : Except SchemaError SchemaDb :=
  if index ∈ db.indexes then .ok db
  else (db.requireColumns table columns).map fun _ => { db with indexes := db.indexes ++ [index] }

def updateDrawers (columns : List String) (update : DrawerRow → DrawerRow) : Except SchemaError SchemaDb :=
  (db.requireColumns "drawers" columns).map fun _ => { db with drawers := db.drawers.map update }

def fillFts : Except SchemaError SchemaDb :=
  match db.fts with
  | none => .error (.noSuchTable "drawers_fts")
  | some entries =>
    (db.requireColumns "drawers" ["content", "deleted_at"]).map fun _ =>
      { db with fts := some (entries ++ db.liveRows) }

/-- `table_sql`, then the `UPDATE` of `sqlite_master` when the text changes. -/
def rewriteSql (table : String) (rewrite : String → String) : Except SchemaError SchemaDb :=
  if db.hasTable table then .ok { db with sql := Function.update db.sql table (rewrite (db.sql table)) }
  else .error (.noSuchTable table)

def sourceTypeCheck (force : Bool) : Except SchemaError SchemaDb :=
  match db.rewriteSql "drawers" rewriteSourceTypeCheck with
  | .error error => .error error
  | .ok rewritten =>
    if force || rewritten.sql "drawers" ≠ db.sql "drawers" then
      rewritten.updateDrawers ["source_type", "confidence", "source_file", "wing"] backfillSourceConfidence
    else .ok rewritten

def exec (db : SchemaDb) : Statement → Except SchemaError SchemaDb
  | .createTable table columns sql =>
    .ok (if db.hasTable table then db
      else { db with
        columns := Function.update db.columns table (some columns), sql := Function.update db.sql table sql })
  | .createIndex index table columns => db.createIndex index table columns
  | .createTrigger trigger =>
    .ok { db with triggers := if trigger ∈ db.triggers then db.triggers else db.triggers ++ [trigger] }
  | .dropTrigger trigger => .ok { db with triggers := db.triggers.filter (· ≠ trigger) }
  | .addColumn table column definition => db.addColumn table column definition
  | .createFts => .ok { db with fts := some (db.fts.getD []) }
  | .dropFts => .ok { db with fts := none }
  | .fillFts => db.fillFts
  | .backfillMetadata =>
    db.updateDrawers ["memory_kind", "domain", "field", "anchor_kind", "anchor_id", "parent_anchor_id", "provenance",
      "source_type"] Schema.backfillMetadata
  | .backfillValidity => db.updateDrawers ["valid_from", "added_at"] Schema.backfillValidity
  | .sourceTypeCheck force => db.sourceTypeCheck force
  | .typedIngestChecks => db.rewriteSql "drawers" (replaceEach typedIngestReplacements)
  | .cardStatusCheck => db.rewriteSql "knowledge_cards" rewriteCardStatusCheck
  | .setVersion version => .ok { db with version := version }

end SchemaDb

end Mempal.Schema
