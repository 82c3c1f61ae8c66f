import Mempal.Drawers.IndexAgreement
import Mempal.Drawers.Upsert
import Mempal.Timestamps

set_option autoImplicit false

/-! A rollup appends an entry to the drawer of its room and day. It is prepared under a lock for that room and day from
what the drawer holds, and committed with an upsert once the text is embedded. -/

namespace Mempal.Drawers

open Foundation Foundation.Text

def diaryRollupWing : String := "agent-diary"

def dailyRollupLimitBytes : Nat := 32 * 1024

def diaryRollupSeparator : String := "\n\n---\n\n"

inductive IngestError where
  | diaryRollupWrongWing (wing : String)
  | diaryRollupMissingRoom
  | dailyRollupFull (drawerId : String) (limitBytes attemptedBytes : Nat)
  | insertDrawer (drawerId : String) (source : DbError)
deriving DecidableEq, Repr

structure DiaryRollupOptions where
  room : Option String
  day : Option String
deriving DecidableEq, Repr

structure PreparedDiaryRollup where
  drawerId : String
  content : String
  room : String
  day : String
deriving DecidableEq, Repr

def diaryRollupDrawerId (room day : String) : String := "drawer_agent-diary_" ++ room ++ "_day_" ++ day

def rolledUp (existing : Option DrawerRow) (content : String) : String :=
  match existing with
  | some existing => existing.content ++ diaryRollupSeparator ++ content
  | none => content

def prepareDiaryRollup (content wing : String) (options : DiaryRollupOptions) (currentRollupDayUtc : String)
    (s : Store) : Except IngestError PreparedDiaryRollup :=
  if wing ≠ diaryRollupWing then .error (.diaryRollupWrongWing wing)
  else
    match options.room.filter fun room => !isBlank room with
    | none => .error .diaryRollupMissingRoom
    | some room =>
      let day := options.day.getD currentRollupDayUtc
      let drawerId := diaryRollupDrawerId room day
      let newContent := rolledUp (s.getDrawer drawerId) content
      if newContent.utf8ByteSize > dailyRollupLimitBytes then
        .error (.dailyRollupFull drawerId dailyRollupLimitBytes newContent.utf8ByteSize)
      else .ok ⟨drawerId, newContent, room, day⟩

def PreparedDiaryRollup.drawer (prepared : PreparedDiaryRollup) (now : ℚ) : NewDrawer where
  id := prepared.drawerId
  content := prepared.content
  wing := diaryRollupWing
  room := some prepared.room
  sourceFile := some ("agent-diary://rollup/" ++ prepared.room ++ "/" ++ prepared.day)
  sourceRoot := none
  projectId := none
  addedAt := currentTimestamp now
  memoryKind := .evidence
  domain := .agent
  anchorKind := .repo
  status := none

section Model
variable (model : TextModel)

def commitPreparedDiaryRollup (prepared : PreparedDiaryRollup) (vector : Embedding) (now : ℚ) (s : Store) :
    Except IngestError Store :=
  match upsertDrawerAndReplaceVector model (prepared.drawer now) vector s with
  | .error source => .error (.insertDrawer prepared.drawerId source)
  | .ok s' => .ok s'

/-- The store, the rollup that holds the lock with its entry, and the entries whose rollups returned `Ok`. -/
structure Diary where
  store : Store
  pending : Option (String × PreparedDiaryRollup)
  entries : List String

inductive DiaryAction where
  | prepare (content : String)
  | commit (vector : Embedding) (now : ℚ)
  | abandon
  | other (store : Store)

/-- Rollups of a room and a day, among arbitrary changes of the store. -/
def diaryMachine (room day : String) : Machine Diary DiaryAction (Except IngestError Unit) where
  step d
    | .prepare content =>
      match d.pending with
      | some _ => (d, .ok ())
      | none =>
        match prepareDiaryRollup content diaryRollupWing ⟨some room, some day⟩ day d.store with
        | .error e => (d, .error e)
        | .ok prepared => ({ d with pending := some (content, prepared) }, .ok ())
    | .commit vector now =>
      match d.pending with
      | none => (d, .ok ())
      | some (content, prepared) =>
        match commitPreparedDiaryRollup model prepared vector now d.store with
        | .error e => ({ d with pending := none }, .error e)
        | .ok store => (⟨store, none, d.entries ++ [content]⟩, .ok ())
    | .abandon => ({ d with pending := none }, .ok ())
    | .other store => ({ d with store }, .ok ())

end Model

/-- No other writer touches the drawer of the day. -/
def KeepsDay (room day : String) (d : Diary) : DiaryAction → Prop
  | .other store => store.db.drawers.find? (diaryRollupDrawerId room day) =
      d.store.db.drawers.find? (diaryRollupDrawerId room day)
  | _ => True

def diaryText (entries : List String) : String := diaryRollupSeparator.intercalate entries

structure Diary.Kept (id : String) (d : Diary) : Prop where
  drawer : match d.store.db.drawers.find? id with
    | none => d.entries = []
    | some row => row.isActive = true ∧ d.entries ≠ [] ∧ row.content = diaryText d.entries
  pending : ∀ content prepared, d.pending = some (content, prepared) →
    prepared.drawerId = id ∧ prepared.content = diaryText (d.entries ++ [content])

theorem diaryText_append {entries : List String} (h : entries ≠ []) (content : String) :
    diaryText (entries ++ [content]) = diaryText entries ++ diaryRollupSeparator ++ content := by
  rw [diaryText, String.intercalate_append_of_ne_nil h (List.cons_ne_nil _ _), String.intercalate_singleton]
  rfl

theorem prepareDiaryRollup_spec {s : Store} {content wing room day today : String} {prepared : PreparedDiaryRollup}
    (h : prepareDiaryRollup content wing ⟨some room, some day⟩ today s = .ok prepared) :
    prepared.drawerId = diaryRollupDrawerId room day ∧
      prepared.content = rolledUp (s.getDrawer (diaryRollupDrawerId room day)) content := by
  unfold prepareDiaryRollup at h
  split at h
  · cases h
  · rw [Option.filter_some] at h
    split at h
    · cases h
    · rename_i hRoom
      split at hRoom
      · cases hRoom
        dsimp only at h
        split at h
        · cases h
        · cases h
          exact ⟨rfl, rfl⟩
      · cases hRoom

variable {d : Diary}

theorem Diary.Kept.prepared {room day : String} (h : d.Kept (diaryRollupDrawerId room day))
    {content wing today : String} {prepared : PreparedDiaryRollup}
    (hPrepare : prepareDiaryRollup content wing ⟨some room, some day⟩ today d.store = .ok prepared) :
    prepared.drawerId = diaryRollupDrawerId room day ∧ prepared.content = diaryText (d.entries ++ [content]) := by
  obtain ⟨hId, hContent⟩ := prepareDiaryRollup_spec hPrepare
  refine ⟨hId, hContent.trans ?_⟩
  have hDrawer := h.drawer
  rw [Store.getDrawer]
  cases hRow : d.store.db.drawers.find? (diaryRollupDrawerId room day) with
  | none =>
    rw [hRow] at hDrawer
    rw [show d.entries = [] from hDrawer]
    exact (String.intercalate_singleton).symm
  | some row =>
    rw [hRow] at hDrawer
    obtain ⟨hActive, hSome, hText⟩ := hDrawer
    rw [Option.filter_some_pos hActive, diaryText_append hSome]
    exact congrArg (· ++ diaryRollupSeparator ++ content) hText

section Model
variable {model : TextModel}

theorem Diary.Kept.committed {id : String} (h : d.Kept id) {content : String} {prepared : PreparedDiaryRollup}
    (hPending : d.pending = some (content, prepared)) {vector : Embedding} {now : ℚ} {store : Store}
    (hCommit : commitPreparedDiaryRollup model prepared vector now d.store = .ok store) :
    Diary.Kept id ⟨store, none, d.entries ++ [content]⟩ := by
  obtain ⟨rfl, hContent⟩ := h.pending content prepared hPending
  refine ⟨?_, by rintro _ _ ⟨⟩⟩
  have hDrawer := h.drawer
  unfold commitPreparedDiaryRollup at hCommit
  split at hCommit
  · cases hCommit
  · rename_i hUpsert
    cases hCommit
    have hFind := find?_upsertDrawer (upsertDrawerAndReplaceVector_spec hUpsert).1 prepared.drawerId
    rw [if_pos (show (prepared.drawer now).id = prepared.drawerId from rfl)] at hFind
    cases hRow : d.store.db.drawers.find? prepared.drawerId with
    | none =>
      rw [hFind, hRow]
      exact ⟨rfl, by simp, hContent⟩
    | some row =>
      rw [hRow] at hDrawer hFind
      have hActive : row.isActive = true := hDrawer.1
      rw [hFind]
      simp only [hActive, if_true]
      exact ⟨hActive, by simp, hContent⟩

theorem diary_kept_step {a : DiaryAction} {room day : String} {d : Diary} (h : d.Kept (diaryRollupDrawerId room day))
    (hKeeps : KeepsDay room day d a) :
    ((diaryMachine model room day).next d a).Kept (diaryRollupDrawerId room day) := by
  have hIdle : Diary.Kept (diaryRollupDrawerId room day) { d with pending := none } :=
    ⟨h.drawer, by rintro _ _ ⟨⟩⟩
  unfold Machine.next diaryMachine
  cases a with
  | prepare content =>
    dsimp only
    split
    · exact h
    · split
      · exact h
      · rename_i prepared hPrepare
        refine ⟨h.drawer, ?_⟩
        rintro _ _ ⟨⟩
        exact h.prepared hPrepare
  | commit vector now =>
    dsimp only
    split
    · exact h
    · rename_i content prepared hPending
      split
      · exact hIdle
      · rename_i store hCommit
        exact h.committed hPending hCommit
  | abandon => exact hIdle
  | other store =>
    refine ⟨?_, h.pending⟩
    have hDrawer := h.drawer
    rwa [← show store.db.drawers.find? _ = d.store.db.drawers.find? _ from hKeeps] at hDrawer

def Diary.text (d : Diary) (room day : String) : Option String :=
  (d.store.getDrawer (diaryRollupDrawerId room day)).map DrawerRow.content

theorem Diary.Kept.text_eq {room day : String} (h : d.Kept (diaryRollupDrawerId room day)) (hSome : d.entries ≠ []) :
    d.text room day = some (diaryText d.entries) := by
  have hDrawer := h.drawer
  rw [Diary.text, Store.getDrawer]
  cases hRow : d.store.db.drawers.find? (diaryRollupDrawerId room day) with
  | none =>
    rw [hRow] at hDrawer
    exact absurd hDrawer hSome
  | some row =>
    rw [hRow] at hDrawer
    obtain ⟨hActive, _, hText⟩ := hDrawer
    rw [Option.filter_some_pos hActive, Option.map_some, hText]

end Model

theorem accepted_upserts_stored (model : TextModel) :
    (∀ drawer vector s s', upsertDrawerAndReplaceVector model drawer vector s = .ok s' →
      (Stored s' drawer.id drawer.content vector ↔ Storable s drawer.id vector)) ∧
    (∀ prepared vector now s s', commitPreparedDiaryRollup model prepared vector now s = .ok s' →
      (Stored s' prepared.drawerId prepared.content vector ↔ Storable s prepared.drawerId vector)) ∧
    (∀ room day s actions, s.db.drawers.find? (diaryRollupDrawerId room day) = none →
      (diaryMachine model room day).Along (KeepsDay room day) ⟨s, none, []⟩ actions →
        ((diaryMachine model room day).final ⟨s, none, []⟩ actions).entries ≠ [] →
          ((diaryMachine model room day).final ⟨s, none, []⟩ actions).text room day =
            some (diaryText ((diaryMachine model room day).final ⟨s, none, []⟩ actions).entries)) := by
  refine ⟨fun _ _ _ _ h => upsert_stored_iff h, ?_, ?_⟩
  · intro prepared vector now s s' h
    unfold commitPreparedDiaryRollup at h
    split at h
    · cases h
    · rename_i hUpsert
      cases h
      exact upsert_stored_iff hUpsert
  · intro room day s actions hNone hKeeps hSome
    have hInit : Diary.Kept (diaryRollupDrawerId room day) ⟨s, none, []⟩ :=
      ⟨by rw [hNone], by rintro _ _ ⟨⟩⟩
    have hKept := Machine.invariant_along (I := Diary.Kept (diaryRollupDrawerId room day))
      (fun d a h hKeeps => diary_kept_step h hKeeps) hInit hKeeps
    exact hKept.text_eq hSome

def firstEntry : Diary :=
  (diaryMachine spacedWords "dev" "2026-03-01").final ⟨.empty, none, []⟩ [.prepare "one", .commit [0] 1776045600]

/-- Two rollups of a day, with a write of another drawer between the two steps of the second one. -/
def twoRollups : List DiaryAction :=
  [.prepare "one", .commit [0] 1776045600, .prepare "two",
    .other ((upsertDrawerAndReplaceVector spacedWords (evidence "a" "alpha") [0] firstEntry.store).toOption.getD .empty),
    .commit [1] 1776045602]

theorem twoRollups_stored :
    ((diaryMachine spacedWords "dev" "2026-03-01").final ⟨.empty, none, []⟩ twoRollups).entries = ["one", "two"] ∧
      ((diaryMachine spacedWords "dev" "2026-03-01").final ⟨.empty, none, []⟩ twoRollups).text "dev" "2026-03-01" =
        some (diaryText ((diaryMachine spacedWords "dev" "2026-03-01").final ⟨.empty, none, []⟩ twoRollups).entries) := by
  have hKeeps : (diaryMachine spacedWords "dev" "2026-03-01").Along (KeepsDay "dev" "2026-03-01") ⟨.empty, none, []⟩
      twoRollups := by
    refine ⟨trivial, trivial, trivial, ?_, trivial, trivial⟩
    unfold KeepsDay
    decide +kernel
  exact ⟨by decide +kernel, (accepted_upserts_stored spacedWords).2.2 "dev" "2026-03-01" .empty twoRollups rfl hKeeps
    (by decide +kernel)⟩

def storeOf (ops : List DrawerOp) (vectors : List VectorRow) : Store where
  db := settled ops
  vectors := vectors.foldl
    (fun table row => (insertVectorWithProject row.id row.embedding row.projectId table).toOption.getD table) .empty
  triples := []
  noveltyAudit := []

def deletedDrawer : Store :=
  storeOf [.insert (evidence "a" "alpha"), .softDelete (.drawer "a") "1776045600"] [⟨"a", [0], none⟩]

def orphanedVector : Store := storeOf [] [⟨"a", [0], none⟩]

def marchId : String := diaryRollupDrawerId "dev" "2026-03-01"

def secondEntry : Diary :=
  (diaryMachine spacedWords "dev" "2026-03-01").final firstEntry
    [.other { firstEntry.store with db := softDelete (.drawer marchId) "1776045601" firstEntry.store.db },
      .prepare "two", .commit [1] 1776045602]

theorem accepted_upserts_lost :
    ((upsertDrawerAndReplaceVector spacedWords (evidence "a" "beta") [1] deletedDrawer).toOption.map
        fun s => (s.getDrawer "a", s.vectors.find? "a")) = some (none, some ⟨"a", [0], none⟩) ∧
      ((upsertDrawerAndReplaceVector spacedWords (evidence "a" "beta") [1] orphanedVector).toOption.map
        fun s => ((s.getDrawer "a").map DrawerRow.content, s.vectors.find? "a")) =
          some (some "beta", some ⟨"a", [0], none⟩) ∧
        firstEntry.text "dev" "2026-03-01" = some "one" ∧ secondEntry.entries = ["one", "two"] ∧
          secondEntry.text "dev" "2026-03-01" = none := by
  decide +kernel

end Mempal.Drawers
