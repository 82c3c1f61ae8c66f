import Mempal.Queue.IdempotencyKey
import Mempal.Spool.Basic

set_option autoImplicit false

/-! A record whose append returned should be in a file of the spool or in the queue, be parked only after the queue
reported a conflict for it, and make one message. -/

namespace Mempal.Spool

open Foundation Queue
section Config
variable (config : SpoolConfig)

def Delivered (db : QueueDb) (request : Request) : Prop :=
  stored db (idempotentKeyMessageId config.blake3 request.kind request.idempotencyKey) =
    some (request.kind, some (hashSource config.blake3 request.kind request.payload))

instance (db : QueueDb) (request : Request) : Decidable (Delivered config db request) :=
  inferInstanceAs (Decidable (_ = _))

def Safe (s : SpoolState) (request : Request) : Prop :=
  s.files.Holds (.record request) ∨ Delivered config s.queue request

instance (s : SpoolState) (request : Request) : Decidable (Safe config s request) :=
  inferInstanceAs (Decidable (_ ∨ _))

def Conflicted (past : List (SpoolAction × Event)) (request : Request) : Prop :=
  ∃ action created, (action, .enqueueReturned request (.error .idempotencyConflict) created) ∈ past

def createdId (event : SpoolAction × Event) : Option String :=
  match event.2 with
  | .enqueueReturned request _ true =>
    some (idempotentKeyMessageId config.blake3 request.kind request.idempotencyKey)
  | _ => none

def Pc.holds : Pc → Option String
  | .claim _ _ .syncRemoved => none
  | .claim _ record _ => some record.stem
  | .park (.drain _ _) _ .sync => none
  | .park (.drain _ record) _ _ => some record.stem
  | .release _ _ (.forget _) | .release _ _ .sync => none
  | .release record _ _ => some record.stem
  | _ => none

def RecoverStage.stem : RecoverStage → Option String
  | .nextEntry => none
  | .checkRecord stem | .restore stem | .readClaim stem | .readRecord stem _ | .removeClaim stem => some stem

def Unheld (s : SpoolState) (stem : String) : Prop := ∀ t, (s.threads t).holds ≠ some stem

def Respects (s : SpoolState) : SpoolAction → Prop
  | .step t _ =>
    match s.threads t with
    | .append request .publish =>
      s.files.read (.record (recordStem config request)) = none ∧
        s.files.read (.claim (recordStem config request)) = none
    | .drain ⟨_, _, record :: _⟩ =>
      ∀ contents, s.files.read (.record record.stem) = some contents → contents = .record record.request
    | .recover _ _ _ stage => ∀ stem, stage.stem = some stem → Unheld s stem
    | .park (.drain _ _) file (.move dest true) => s.files.read dest = s.files.read file
    | _ => True
  | _ => True

def Pc.locked : Pc → Bool
  | .append _ _ | .recover _ _ _ _ | .list _ _ => true
  | .park (.recovery _ _) _ _ | .park (.listing _ _) _ _ => true
  | _ => false

/-- The name that a `move` of `quarantine` has chosen. -/
def ParkStage.Chosen (s : SpoolState) (file : File) : ParkStage → Prop
  | .move dest taken => (∃ digest, dest = .quarantine file digest) ∧ (taken = false → s.files.read dest = none)
  | _ => True

variable {config}

variable (config) in
def PcOk (past : List (SpoolAction × Event)) (s : SpoolState) : Pc → Prop
  | .append request .syncExisting | .append request .syncPublished => Safe config s request
  | .recover _ _ _ (.readRecord stem claimed) =>
    s.files.read (.claim stem) = some (.record claimed) ∧ Unheld s stem
  | .recover _ _ _ (.removeClaim _) => False
  | .claim _ _ .syncRemoved => True
  | .claim _ record .remove =>
    s.files.read (.claim record.stem) = some (.record record.request) ∧ Delivered config s.queue record.request
  | .claim _ record _ => s.files.read (.claim record.stem) = some (.record record.request)
  | .park (.drain _ _) _ .sync => True
  | .park (.drain _ record) file stage =>
    file = .claim record.stem ∧ s.files.read file = some (.record record.request) ∧
      Conflicted past record.request ∧ stage.Chosen s file
  | .park (.listing _ _) _ .sync => True
  | .park (.listing _ _) file stage =>
    (∃ stem bytes, file = .record stem ∧ s.files.read file = some (.undecodable bytes)) ∧ stage.Chosen s file
  | .park (.recovery _ _) _ _ => False
  | .release record _ .checkRecord | .release record _ .restore =>
    s.files.read (.claim record.stem) = some (.record record.request)
  | .release _ _ (.forget _) | .release _ _ .sync => True
  | .release _ _ _ => False
  | _ => True

variable (config) in
structure Durable (past : List (SpoolAction × Event)) (s : SpoolState) : Prop where
  exclusive : ∀ stem, s.files.read (.record stem) = none ∨ s.files.read (.claim stem) = none
  claims : ∀ stem contents, s.files.read (.claim stem) = some contents → ∃ request, contents = .record request
  parked : ∀ file digest request, s.files.read (.quarantine file digest) = some (.record request) →
    Conflicted past request
  threads : ∀ t, PcOk config past s (s.threads t)
  holders : ∀ t t' stem, (s.threads t).holds = some stem → (s.threads t').holds = some stem → t = t'
  locked : ∀ t, (s.threads t).locked = true → s.appendLock = some t
  acknowledged : ∀ action request outcome, (action, Event.appendReturned request (.ok outcome)) ∈ past →
    Safe config s request
  created : (past.filterMap (createdId config)).Nodup
  known : ∀ id ∈ past.filterMap (createdId config), Known s.queue id

/-! Every stage does one of these things to the files, if it finds what it has to.
-/

variable (config) in
inductive Effect (past : List (SpoolAction × Event)) (s : SpoolState) (t : Nat) : Directory File Contents → Prop
  | same : Effect past s t s.files
  | publish {request : Request} (hLocked : (s.threads t).locked = true)
      (hRecord : s.files.read (.record (recordStem config request)) = none)
      (hClaim : s.files.read (.claim (recordStem config request)) = none) :
      Effect past s t (s.files.write (.record (recordStem config request)) (.record request))
  | claim {stem : String} {request : Request} (hRecord : s.files.read (.record stem) = some (.record request)) :
      Effect past s t (s.files.rename (.record stem) (.claim stem))
  | unclaim {stem : String} {request : Request} (hClaim : s.files.read (.claim stem) = some (.record request))
      (hBy : (s.threads t).holds = some stem ∨ (s.threads t).locked = true ∧ Unheld s stem) :
      Effect past s t (s.files.rename (.claim stem) (.record stem))
  | deliver {stem : String} {request : Request} (hHolds : (s.threads t).holds = some stem)
      (hClaim : s.files.read (.claim stem) = some (.record request)) (hDelivered : Delivered config s.queue request) :
      Effect past s t (s.files.remove (.claim stem))
  | park {stem digest : String} {request : Request} (hHolds : (s.threads t).holds = some stem)
      (hClaim : s.files.read (.claim stem) = some (.record request)) (hConflict : Conflicted past request)
      (hFree : s.files.read (.quarantine (.claim stem) digest) = none) :
      Effect past s t (s.files.rename (.claim stem) (.quarantine (.claim stem) digest))
  | parkAgain {stem digest : String} {request : Request} (hHolds : (s.threads t).holds = some stem)
      (hClaim : s.files.read (.claim stem) = some (.record request))
      (hTwin : s.files.read (.quarantine (.claim stem) digest) = some (.record request)) :
      Effect past s t (s.files.remove (.claim stem))
  | discard {stem digest : String} {bytes : List UInt8} (hLocked : (s.threads t).locked = true)
      (hRecord : s.files.read (.record stem) = some (.undecodable bytes))
      (hFree : s.files.read (.quarantine (.record stem) digest) = none) :
      Effect past s t (s.files.rename (.record stem) (.quarantine (.record stem) digest))
  | discardAgain {stem : String} {bytes : List UInt8} (hLocked : (s.threads t).locked = true)
      (hRecord : s.files.read (.record stem) = some (.undecodable bytes)) :
      Effect past s t (s.files.remove (.record stem))

section Effect
variable {past : List (SpoolAction × Event)} {s : SpoolState} {t : Nat} {files : Directory File Contents}
  {stem digest : String} {contents : Contents} {request : Request} {file : File}

theorem Durable.record_free (h : Durable config past s) (hClaim : s.files.read (.claim stem) = some contents) :
    s.files.read (.record stem) = none := by
  rcases h.exclusive stem with hFree | hFree
  · exact hFree
  · rw [hFree] at hClaim
    cases hClaim

theorem Durable.claim_free (h : Durable config past s) (hRecord : s.files.read (.record stem) = some contents) :
    s.files.read (.claim stem) = none := by
  rcases h.exclusive stem with hFree | hFree
  · rw [hFree] at hRecord
    cases hRecord
  · exact hFree

theorem Effect.holds (he : Effect config past s t files) (h : Durable config past s)
    (hHolds : s.files.Holds (.record request)) :
    files.Holds (.record request) ∨ Delivered config s.queue request := by
  cases he with
  | same => exact Or.inl hHolds
  | publish _ hRecord _ => exact Or.inl (hHolds.write hRecord)
  | claim hRecord => exact Or.inl (hHolds.rename (h.claim_free hRecord))
  | unclaim hClaim _ => exact Or.inl (hHolds.rename (h.record_free hClaim))
  | @deliver _ delivered _ hClaim hDelivered =>
    by_cases hSame : delivered = request
    · exact Or.inr (hSame ▸ hDelivered)
    · refine Or.inl (hHolds.remove fun hRead => absurd ?_ hSame)
      exact Contents.record.inj (Option.some.inj (hClaim.symm.trans hRead))
  | park _ _ _ hFree | discard _ _ hFree => exact Or.inl (hHolds.rename hFree)
  | parkAgain _ hClaim hTwin =>
    refine Or.inl (hHolds.remove fun hRead => ⟨_, ?_, hTwin.trans (hClaim.symm.trans hRead)⟩)
    exact fun hEq => by cases hEq
  | discardAgain _ hRecord =>
    refine Or.inl (hHolds.remove fun hRead => ?_)
    rw [hRecord] at hRead
    cases hRead

def Leaves (s : SpoolState) (t : Nat) : File → Prop
  | .record stem => (∃ request, s.files.read (.record stem) = some (.record request)) ∨ (s.threads t).locked = true
  | .claim stem => (s.threads t).holds = some stem ∨ (s.threads t).locked = true ∧ Unheld s stem
  | .quarantine _ _ => False

def Arrives (past : List (SpoolAction × Event)) (s : SpoolState) (t : Nat) (files : Directory File Contents) :
    File → Contents → Prop
  | .record stem, contents => (∃ request, contents = .record request) ∧ files.read (.claim stem) = none
  | .claim stem, contents => (∃ request, contents = .record request) ∧ files.read (.record stem) = none
  | .quarantine (.claim stem) _, contents =>
    (s.threads t).holds = some stem ∧ ∃ request, contents = .record request ∧ Conflicted past request
  | .quarantine _ _, contents => (s.threads t).locked = true ∧ ∃ bytes, contents = .undecodable bytes

section
variable (he : Effect config past s t files) (h : Durable config past s)
include he h

theorem Effect.read_cases (file : File) :
    files.read file = s.files.read file ∨ files.read file = none ∧ Leaves s t file ∨
      ∃ contents, files.read file = some contents ∧ s.files.read file = none ∧
        Arrives past s t files file contents := by
  cases he with
  | same => exact Or.inl rfl
  | publish _ hRecord hClaim =>
    rw [Directory.read_write]
    split_ifs with hNew
    · subst hNew
      exact Or.inr (Or.inr ⟨_, rfl, hRecord, ⟨_, rfl⟩, by simpa using hClaim⟩)
    · exact Or.inl rfl
  | claim hRecord =>
    rw [Directory.read_rename hRecord]
    split_ifs with hNew hOld
    · subst hNew
      exact Or.inr (Or.inr ⟨_, rfl, h.claim_free hRecord, ⟨_, rfl⟩, by simp [Directory.read_rename hRecord]⟩)
    · subst hOld
      exact Or.inr (Or.inl ⟨rfl, Or.inl ⟨_, hRecord⟩⟩)
    · exact Or.inl rfl
  | unclaim hClaim hBy =>
    rw [Directory.read_rename hClaim]
    split_ifs with hNew hOld
    · subst hNew
      exact Or.inr (Or.inr ⟨_, rfl, h.record_free hClaim, ⟨_, rfl⟩, by simp [Directory.read_rename hClaim]⟩)
    · subst hOld
      exact Or.inr (Or.inl ⟨rfl, hBy⟩)
    · exact Or.inl rfl
  | deliver hHolds | parkAgain hHolds =>
    rw [Directory.read_remove]
    split_ifs with hOld
    · subst hOld
      exact Or.inr (Or.inl ⟨rfl, Or.inl hHolds⟩)
    · exact Or.inl rfl
  | park hHolds hClaim hConflict hFree =>
    rw [Directory.read_rename hClaim]
    split_ifs with hNew hOld
    · subst hNew
      exact Or.inr (Or.inr ⟨_, rfl, hFree, hHolds, _, rfl, hConflict⟩)
    · subst hOld
      exact Or.inr (Or.inl ⟨rfl, Or.inl hHolds⟩)
    · exact Or.inl rfl
  | discard hLocked hRecord hFree =>
    rw [Directory.read_rename hRecord]
    split_ifs with hNew hOld
    · subst hNew
      exact Or.inr (Or.inr ⟨_, rfl, hFree, hLocked, _, rfl⟩)
    · subst hOld
      exact Or.inr (Or.inl ⟨rfl, Or.inr hLocked⟩)
    · exact Or.inl rfl
  | discardAgain hLocked _ =>
    rw [Directory.read_remove]
    split_ifs with hOld
    · subst hOld
      exact Or.inr (Or.inl ⟨rfl, Or.inr hLocked⟩)
    · exact Or.inl rfl

theorem Effect.claim_frame
    (hClaim : s.files.read (.claim stem) = some contents) (hOther : (s.threads t).holds ≠ some stem)
    (hKept : (s.threads t).locked = true → ¬ Unheld s stem) : files.read (.claim stem) = some contents := by
  rcases he.read_cases h (.claim stem) with hSame | ⟨_, hHolds | ⟨hLocked, hUnheld⟩⟩ | ⟨_, _, hFree, _⟩
  · exact hSame.trans hClaim
  · exact absurd hHolds hOther
  · exact absurd hUnheld (hKept hLocked)
  · exact absurd (hFree.symm.trans hClaim) (by simp)

theorem Effect.record_frame {bytes : List UInt8}
    (hRead : s.files.read (.record stem) = some (.undecodable bytes)) (hUnlocked : (s.threads t).locked = false) :
    files.read (.record stem) = some (.undecodable bytes) := by
  rcases he.read_cases h (.record stem) with hSame | ⟨_, ⟨_, hRecord⟩ | hLocked⟩ | ⟨_, _, hFree, _⟩
  · exact hSame.trans hRead
  · exact absurd (hRecord.symm.trans hRead) (by simp)
  · exact absurd (hUnlocked.symm.trans hLocked) (by simp)
  · exact absurd (hFree.symm.trans hRead) (by simp)

theorem Effect.free_frame (hFree : s.files.read (.quarantine file digest) = none)
    (hClaim : ∀ stem, file = .claim stem → (s.threads t).holds ≠ some stem)
    (hRecord : (∀ stem, file ≠ .claim stem) → (s.threads t).locked = false) :
    files.read (.quarantine file digest) = none := by
  rcases he.read_cases h (.quarantine file digest) with hSame | ⟨hGone, _⟩ | ⟨_, _, _, hArrives⟩
  · exact hSame.trans hFree
  · exact hGone
  · cases file with
    | claim stem => exact absurd hArrives.1 (hClaim stem rfl)
    | _ => exact absurd ((hRecord (by simp)).symm.trans hArrives.1) (by simp)

theorem Effect.exclusive (stem : String) : files.read (.record stem) = none ∨ files.read (.claim stem) = none := by
  rcases he.read_cases h (.record stem) with hRecord | ⟨hGone, _⟩ | ⟨_, _, _, _, hFree⟩
  · rcases he.read_cases h (.claim stem) with hClaim | ⟨hGone, _⟩ | ⟨_, _, _, _, hFree⟩
    · rw [hRecord, hClaim]
      exact h.exclusive stem
    · exact Or.inr hGone
    · exact Or.inl hFree
  · exact Or.inl hGone
  · exact Or.inr hFree

theorem Effect.read_claim
    (hRead : files.read (.claim stem) = some contents) : ∃ request, contents = .record request := by
  rcases he.read_cases h (.claim stem) with hSame | ⟨hGone, _⟩ | ⟨_, hNew, _, hRequest, _⟩
  · exact h.claims stem contents (hSame.symm.trans hRead)
  · exact absurd (hGone.symm.trans hRead) (by simp)
  · rwa [← Option.some.inj (hNew.symm.trans hRead)]

theorem Effect.read_quarantine
     (hRead : files.read (.quarantine file digest) = some (.record request)) : Conflicted past request := by
  rcases he.read_cases h (.quarantine file digest) with hSame | ⟨hGone, _⟩ | ⟨_, hNew, _, hArrives⟩
  · exact h.parked file digest request (hSame.symm.trans hRead)
  · exact absurd (hGone.symm.trans hRead) (by simp)
  · cases Option.some.inj (hNew.symm.trans hRead)
    cases file with
    | claim stem =>
      obtain ⟨_, _, ⟨⟩, hConflict⟩ := hArrives
      exact hConflict
    | _ => exact absurd hArrives.2 (by simp)

end

end Effect

end Config

end Mempal.Spool
