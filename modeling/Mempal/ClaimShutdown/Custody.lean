import Mathlib.Logic.Basic
import Mempal.ClaimShutdown.Basic
import Mempal.Queue.Lifecycle

set_option autoImplicit false

/-! Whatever the order of the shutdown signal, the answers, the commit and a cancellation, a claim that commits is in
one pair of hands: the worker's, then either the caller's or, released, the queue's. -/

namespace Mempal.ClaimShutdown

open Foundation Queue

structure Book where
  commits : List ClaimedMessage
  releases : List ClaimedMessage
  answers : List Bool
  returns : List (Except CallError (Option ClaimedMessage))

def Book.record (book : Book) : Event → Book
  | .quiet => book
  | .answered approved => { book with answers := book.answers ++ [approved] }
  | .committed claim => { book with commits := book.commits ++ [claim] }
  | .released claim _ => { book with releases := book.releases ++ [claim] }
  | .returned result => { book with returns := book.returns ++ [result] }

def bookOf (trace : List (Action × Event)) : Book :=
  trace.foldl (fun book event => book.record event.2) ⟨[], [], [], []⟩

theorem bookOf_append {event : Action × Event} (trace : List (Action × Event)) :
    bookOf (trace ++ [event]) = (bookOf trace).record event.2 := by
  simp [bookOf]

def Caller.took : Caller → Option ClaimedMessage
  | .returning (.ok claim) | .returned (.ok claim) => claim
  | _ => none

def Worker.owns : Worker → Option ClaimedMessage
  | .claimed claim | .awaitAccepted claim | .dropOwner claim => some claim
  | _ => none

inductive Custody (book : Book) (s : Handshake) : Prop where
  | nobody (hCommits : book.commits = []) (hReleases : book.releases = []) (hOwns : s.worker.owns = none)
      (hTook : s.caller.took = none) (hMessage : s.accepted.message = none)
  | worker (claim : ClaimedMessage) (hCommits : book.commits = [claim]) (hReleases : book.releases = [])
      (hOwns : s.worker.owns = some claim) (hTook : s.caller.took = none) (hMessage : s.accepted.message = none)
  | both (claim : ClaimedMessage) (hCommits : book.commits = [claim]) (hReleases : book.releases = [])
      (hWorker : s.worker = .awaitAccepted claim) (hTook : s.caller.took = some claim)
      (hMessage : s.accepted.message = some ())
  | caller (claim : ClaimedMessage) (hCommits : book.commits = [claim]) (hReleases : book.releases = [])
      (hWorker : s.worker = .finished) (hTook : s.caller.took = some claim)
  | queue (claim : ClaimedMessage) (hCommits : book.commits = [claim]) (hReleases : book.releases = [claim])
      (hWorker : s.worker = .finished) (hTook : s.caller.took = none)

def Caller.early : Caller → Bool
  | .start | .awaitPermit => true
  | _ => false

def Caller.decides : Caller → Bool
  | .start | .awaitPermit | .awaitReady | .gotReady _ | .decided _ => true
  | _ => false

def Caller.listens : Caller → Bool
  | .gotResult _ | .returning _ | .returned _ | .cancelled => false
  | _ => true

def Caller.connected : Caller → Bool
  | .awaitReady | .gotReady _ | .decided _ | .answered _ | .awaitResult | .gotResult _ => true
  | _ => false

def Worker.approvedStage : Worker → Bool
  | .recheck | .claimTx _ | .claimed _ | .awaitAccepted _ | .dropOwner _ => true
  | _ => false

structure Consistent (book : Book) (s : Handshake) : Prop where
  custody : Custody book s
  unspawned : s.caller.early = true → s.worker = .unspawned
  accepts : s.worker ≠ .finished → s.accepted.receiver = true
  connected : s.caller.connected = true → s.accepted.sender = true
  offered : ∀ claim, s.result.message = some (.ok (some claim)) →
    s.worker = .awaitAccepted claim ∨ s.caller.listens = false
  got : ∀ claim, s.caller = .gotResult (.ok (some claim)) → s.worker = .awaitAccepted claim
  replies : ∀ claim, s.worker ≠ .reply (.ok (some claim))
  undecided : s.caller.decides = true → book.answers = []
  answer : ∀ approved, s.approval.message = some approved → book.answers = [approved]
  approved : s.approved = some true → book.answers = [true]
  stage : s.worker.approvedStage = true → s.approved = some true
  committed : book.commits ≠ [] → book.answers = [true]
  returns : ∀ result, result ∈ book.returns → s.caller = .returned result
  recorded : ∀ result, s.caller = .returned result → result ∈ book.returns

variable {book book' : Book} {s s' : Handshake}

theorem Custody.congr (h : Custody book s) (hCommits : book'.commits = book.commits)
    (hReleases : book'.releases = book.releases) (hWorker : s'.worker = s.worker)
    (hTook : s'.caller.took = s.caller.took) (hMessage : s'.accepted.message = s.accepted.message) :
    Custody book' s' := by
  cases h with
  | nobody h₁ h₂ h₃ h₄ h₅ =>
    exact .nobody (hCommits.trans h₁) (hReleases.trans h₂) (hWorker ▸ h₃) (hTook.trans h₄) (hMessage.trans h₅)
  | worker claim h₁ h₂ h₃ h₄ h₅ =>
    exact .worker claim (hCommits.trans h₁) (hReleases.trans h₂) (hWorker ▸ h₃) (hTook.trans h₄) (hMessage.trans h₅)
  | both claim h₁ h₂ h₃ h₄ h₅ =>
    exact .both claim (hCommits.trans h₁) (hReleases.trans h₂) (hWorker.trans h₃) (hTook.trans h₄) (hMessage.trans h₅)
  | caller claim h₁ h₂ h₃ h₄ =>
    exact .caller claim (hCommits.trans h₁) (hReleases.trans h₂) (hWorker.trans h₃) (hTook.trans h₄)
  | queue claim h₁ h₂ h₃ h₄ =>
    exact .queue claim (hCommits.trans h₁) (hReleases.trans h₂) (hWorker.trans h₃) (hTook.trans h₄)

theorem Custody.of_free (h : Custody book s) (hOwns : s.worker.owns = none) (hWorker : s.worker ≠ .finished) :
    book.commits = [] ∧ book.releases = [] ∧ s.caller.took = none ∧ s.accepted.message = none := by
  cases h with
  | nobody hCommits hReleases _ hTook hMessage => exact ⟨hCommits, hReleases, hTook, hMessage⟩
  | worker claim _ _ hOther _ _ => cases hOwns.symm.trans hOther
  | both claim _ _ hOther _ _ =>
    rw [hOther] at hOwns
    cases hOwns
  | caller _ _ _ hOther | queue _ _ _ hOther => exact absurd hOther hWorker

variable {claim : ClaimedMessage} {env : Env} {action : Action} (request : ClaimRequest)

theorem Custody.of_owns (h : Custody book s) (hOwns : s.worker.owns = some claim) :
    book.commits = [claim] ∧ book.releases = [] ∧
      (s.caller.took = none ∧ s.accepted.message = none ∨
        s.worker = .awaitAccepted claim ∧ s.caller.took = some claim ∧ s.accepted.message = some ()) := by
  cases h with
  | nobody _ _ hNone _ _ => cases hOwns.symm.trans hNone
  | worker claim' hCommits hReleases hOther hTook hMessage =>
    cases hOwns.symm.trans hOther
    exact ⟨hCommits, hReleases, Or.inl ⟨hTook, hMessage⟩⟩
  | both claim' hCommits hReleases hWorker hTook hMessage =>
    rw [hWorker] at hOwns
    cases hOwns
    exact ⟨hCommits, hReleases, Or.inr ⟨hWorker, hTook, hMessage⟩⟩
  | caller _ _ _ hWorker | queue _ _ _ hWorker =>
    rw [hWorker] at hOwns
    cases hOwns

theorem Consistent.callerMoves (h : Consistent book s) (hListens : s'.caller.listens = true → s.caller.listens = true)
    (hWorker : s'.worker = s.worker) (hApproved : s'.approved = s.approved) (hApproval : s'.approval = s.approval)
    (hAccepted : s'.accepted = s.accepted)
    (hResult : ∀ result, s'.result.message = some result → s.result.message = some result)
    (hCommits : book'.commits = book.commits) (hReleases : book'.releases = book.releases)
    (hAnswers : book'.answers = book.answers) (hTook : s'.caller.took = s.caller.took)
    (hUnspawned : s'.caller.early = true → s.worker = .unspawned)
    (hConnected : s'.caller.connected = true → s.caller.connected = true)
    (hGot : ∀ claim, s'.caller = .gotResult (.ok (some claim)) → s.worker = .awaitAccepted claim)
    (hDecides : s'.caller.decides = true → s.caller.decides = true)
    (hReturns : ∀ result, result ∈ book'.returns → s'.caller = .returned result)
    (hRecorded : ∀ result, s'.caller = .returned result → result ∈ book'.returns) : Consistent book' s' where
  custody := h.custody.congr hCommits hReleases hWorker hTook (congrArg Oneshot.message hAccepted)
  unspawned hEarly := hWorker.trans (hUnspawned hEarly)
  accepts hOpen := by
    rw [hAccepted]
    exact h.accepts (hWorker ▸ hOpen)
  connected hOpen := by
    rw [hAccepted]
    exact h.connected (hConnected hOpen)
  offered claim hMessage := by
    rcases h.offered claim (hResult _ hMessage) with hOther | hGone
    · exact Or.inl (hWorker.trans hOther)
    · right
      by_contra hStill
      cases (hListens (by simpa using hStill)).symm.trans hGone
  got claim hCaller := hWorker.trans (hGot claim hCaller)
  replies claim := hWorker ▸ h.replies claim
  undecided hOpen := hAnswers.trans (h.undecided (hDecides hOpen))
  answer approved hMessage := hAnswers.trans (h.answer approved (hApproval ▸ hMessage))
  approved hTrue := hAnswers.trans (h.approved (hApproved ▸ hTrue))
  stage hStage := hApproved.trans (h.stage (hWorker ▸ hStage))
  committed hSome := hAnswers.trans (h.committed (hCommits ▸ hSome))
  returns := hReturns
  recorded := hRecorded

def Caller.mayBecome (caller next : Caller) : Bool :=
  caller.took.isNone && next.took.isNone && !caller.gone && (caller.early || !next.early) &&
    (caller.listens || !next.listens) && (caller.connected || !next.connected) && (caller.decides || !next.decides)

section Poll
variable {before caller : Caller} {shutdown : Watch} {ready : Oneshot Unit}

theorem Consistent.returns_live {result : Except CallError (Option ClaimedMessage)} (h : Consistent book s)
    (hCaller : s.caller = before) (hMem : result ∈ book.returns) (hLive : before.gone = false := by rfl) :
    s'.caller = .returned result := by
  rw [← hCaller, h.returns _ hMem] at hLive
  cases hLive

theorem Consistent.goto {result : Oneshot ClaimResult} (h : Consistent book s) (hCaller : s.caller = before)
    (hMay : before.mayBecome caller = true := by rfl)
    (hResult : ∀ r, result.message = some r → s.result.message = some r := by exact fun _ hMessage => hMessage)
    (hGot : ∀ claim, caller = .gotResult (.ok (some claim)) → s.worker = .awaitAccepted claim := by rintro _ ⟨⟩)
    (hFresh : ∀ r, caller ≠ .returned r := by rintro _ ⟨⟩) :
    Consistent book { s with caller := caller, shutdown := shutdown, ready := ready, result := result } := by
  subst hCaller
  simp only [Caller.mayBecome, Bool.and_eq_true, Bool.or_eq_true, Bool.not_eq_true', Option.isNone_iff_eq_none] at hMay
  obtain ⟨⟨⟨⟨⟨⟨hTook, hTook'⟩, hLive⟩, hEarly⟩, hListens⟩, hConnected⟩, hDecides⟩ := hMay
  have hKeeps {b b' : Bool} (hOr : b = true ∨ b' = false) (hTrue : b' = true) : b = true :=
    hOr.resolve_right (by rw [hTrue]; rintro ⟨⟩)
  exact h.callerMoves (hKeeps hListens) rfl rfl rfl rfl hResult rfl rfl rfl (hTook'.trans hTook.symm)
    (fun hNow => h.unspawned (hKeeps hEarly hNow)) (hKeeps hConnected) hGot (hKeeps hDecides)
    (fun r hMem => h.returns_live rfl hMem hLive) (fun r hReturned => absurd hReturned (hFresh r))

theorem Consistent.finishCall {outcome : Except CallError (Option ClaimedMessage)} {result : Oneshot ClaimResult}
    (h : Consistent book s) (hCaller : s.caller = before) (hLive : before.gone = false := by rfl)
    (hTook : (Caller.returned outcome).took = before.took := by rfl)
    (hResult : ∀ r, result.message = some r → s.result.message = some r := by exact fun _ hMessage => hMessage) :
    Consistent (book.record (.returned outcome))
      { s with caller := .returned outcome, shutdown := shutdown, result := result } := by
  subst hCaller
  refine h.callerMoves (by rintro ⟨⟩) rfl rfl rfl rfl hResult rfl rfl rfl hTook (by rintro ⟨⟩) (by rintro ⟨⟩)
    (by rintro _ ⟨⟩) (by rintro ⟨⟩) ?_ ?_
  · intro r hMem
    rcases List.mem_append.mp hMem with hBefore | hNow
    · exact h.returns_live rfl hBefore hLive
    · rw [List.mem_singleton.mp hNow]
  · rintro r ⟨⟩
    exact List.mem_append_right _ (List.mem_singleton_self _)

end Poll

theorem Consistent.spawn (h : Consistent book s) (hCaller : s.caller = .awaitPermit) :
    Consistent book { s with
      caller := .awaitReady, worker := .queued, approved := none, ready := .fresh, approval := .fresh
      result := .fresh, accepted := .fresh } := by
  have hWorker := h.unspawned (by rw [hCaller]; rfl)
  obtain ⟨hCommits, hReleases, _, _⟩ := h.custody.of_free (by rw [hWorker]; rfl) (by rw [hWorker]; simp)
  exact
    { custody := .nobody hCommits hReleases rfl rfl rfl
      unspawned := by rintro ⟨⟩
      accepts := fun _ => rfl
      connected := fun _ => rfl
      offered := by rintro _ ⟨⟩
      got := by rintro _ ⟨⟩
      replies := by rintro _ ⟨⟩
      undecided := fun _ => h.undecided (by rw [hCaller]; rfl)
      answer := by rintro _ ⟨⟩
      approved := by rintro ⟨⟩
      stage := by rintro ⟨⟩
      committed := fun hSome => absurd hCommits hSome
      returns := fun _ hMem => h.returns_live hCaller hMem
      recorded := by rintro _ ⟨⟩ }

variable {approved : Bool}

theorem Consistent.answerSent (h : Consistent book s) (hCaller : s.caller = .decided approved) :
    Consistent (book.record (.answered approved))
      { s with approval := s.approval.send approved, caller := .answered approved } := by
  have hNone : book.answers = [] := h.undecided (by rw [hCaller]; rfl)
  -- nothing was approved before, so nothing was committed
  have hNever : book.answers ≠ [true] := by rw [hNone]; rintro ⟨⟩
  exact
    { h with
      custody := h.custody.congr rfl rfl rfl (by rw [hCaller]; rfl) rfl
      unspawned := by rintro ⟨⟩
      connected := fun _ => h.connected (by rw [hCaller]; rfl)
      offered := fun claim hMessage => by
        rcases h.offered claim hMessage with hWorker | hGone
        · exact Or.inl hWorker
        · rw [hCaller] at hGone
          cases hGone
      got := by rintro _ ⟨⟩
      undecided := by rintro ⟨⟩
      answer := fun b hMessage => by
        change book.answers ++ [approved] = [b]
        have hMessage' : (if s.approval.receiver then some approved else none) = some b := hMessage
        split at hMessage'
        · rw [hNone, Option.some.inj hMessage']
          rfl
        · cases hMessage'
      approved := fun hTrue => absurd (h.approved hTrue) hNever
      committed := fun hSome => absurd (h.committed hSome) hNever
      returns := fun _ hMem => h.returns_live hCaller hMem
      recorded := by rintro _ ⟨⟩ }

theorem Consistent.take (h : Consistent book s) (hCaller : s.caller = .gotResult (.ok (some claim))) :
    Consistent book { s with accepted := s.accepted.send (), caller := .returning (.ok (some claim)) } := by
  have hWorker := h.got claim hCaller
  have hReceiver : s.accepted.receiver = true := h.accepts (by rw [hWorker]; simp)
  obtain ⟨hCommits, hReleases, -⟩ := h.custody.of_owns (show s.worker.owns = some claim by rw [hWorker]; rfl)
  exact
    { h with
      custody := .both claim hCommits hReleases hWorker rfl (by simp [Oneshot.send, hReceiver])
      unspawned := by rintro ⟨⟩
      connected := by rintro ⟨⟩
      offered := fun _ _ => Or.inr rfl
      got := by rintro _ ⟨⟩
      undecided := by rintro ⟨⟩
      returns := fun _ hMem => h.returns_live hCaller hMem
      recorded := by rintro _ ⟨⟩ }

theorem Consistent.poll (h : Consistent book s) (permit : Permit) :
    Consistent (book.record (pollStep permit s).2) (pollStep permit s).1 := by
  have hDropped : ∀ r, s.result.dropReceiver.message = some r → s.result.message = some r := by rintro _ ⟨⟩
  unfold pollStep
  cases hCaller : s.caller with
  | start | answered =>
    dsimp only
    split
    · exact h.finishCall hCaller
    · exact h.goto hCaller
  | awaitPermit =>
    dsimp only
    split
    · exact h.finishCall hCaller
    · cases permit with
      | pending => exact h
      | closed => exact h.finishCall hCaller
      | acquired => exact h.spawn hCaller
  | awaitReady =>
    dsimp only
    split
    · exact h.goto hCaller
    · split
      · exact h
      · exact h.goto hCaller
      · exact h.goto hCaller
  | gotReady isOk => exact h.goto hCaller
  | decided approved => exact h.answerSent hCaller
  | awaitResult =>
    dsimp only
    split
    · exact h
    · exact h.finishCall hCaller rfl rfl hDropped
    · rename_i result hReceived
      refine h.goto hCaller rfl hDropped ?_
      rintro claim ⟨⟩
      rcases h.offered claim (Oneshot.recv_eq_message.mp hReceived) with hWorker | hDeaf
      · exact hWorker
      · rw [hCaller] at hDeaf
        cases hDeaf
  | gotResult result =>
    cases result with
    | error error => exact h.goto hCaller
    | ok message =>
      cases message with
      | none => exact h.goto hCaller
      | some claim => exact h.take hCaller
  | returning result => exact h.finishCall hCaller rfl (by cases result <;> rfl)
  | returned | cancelled => exact h

theorem Consistent.workerMoves (h : Consistent book s) (hBefore : s.worker.owns = none)
    (hUnderWay : s.worker ≠ .finished) (hSpawned : s.worker ≠ .unspawned) (hCaller : s'.caller = s.caller)
    (hAccepted : s'.accepted = s.accepted)
    (hResult : ∀ claim, s'.result.message = some (.ok (some claim)) → s.result.message = some (.ok (some claim)))
    (hOwns : s'.worker.owns = none) (hReplies : ∀ claim, s'.worker ≠ .reply (.ok (some claim)))
    (hAnswer : ∀ approved, s'.approval.message = some approved → s.approval.message = some approved)
    (hApproved : s'.approved = some true → book.answers = [true])
    (hStage : s'.worker.approvedStage = true → s'.approved = some true) : Consistent book s' := by
  obtain ⟨hCommits, hReleases, hTook, hMessage⟩ := h.custody.of_free hBefore hUnderWay
  have hGone : ∀ claim, s.worker ≠ .awaitAccepted claim := by
    intro claim hWorker
    rw [hWorker] at hBefore
    cases hBefore
  constructor
  · exact .nobody hCommits hReleases hOwns (hCaller ▸ hTook) (hAccepted ▸ hMessage)
  · intro hEarly
    exact absurd (h.unspawned (hCaller ▸ hEarly)) hSpawned
  · intro _
    rw [hAccepted]
    exact h.accepts hUnderWay
  · intro hConnected
    rw [hAccepted]
    exact h.connected (hCaller ▸ hConnected)
  · intro claim hOffer
    rcases h.offered claim (hResult claim hOffer) with hWorker | hGone'
    · exact absurd hWorker (hGone claim)
    · exact Or.inr (hCaller ▸ hGone')
  · intro claim hGot
    exact absurd (h.got claim (hCaller ▸ hGot)) (hGone claim)
  · exact hReplies
  · intro hDecides
    exact h.undecided (hCaller ▸ hDecides)
  · intro approved hMessage'
    exact h.answer approved (hAnswer approved hMessage')
  · exact hApproved
  · exact hStage
  · intro hSome
    exact absurd hCommits hSome
  · intro result hMem
    exact hCaller.trans (h.returns result hMem)
  · intro result hReturned
    exact h.recorded result (hCaller ▸ hReturned)

def Worker.free : Worker → Bool
  | .queued | .probe | .askApproval | .awaitApproval | .recheck | .claimTx _ | .reply _ => true
  | _ => false

variable {before worker : Worker} {db : QueueDb}

theorem Worker.free_spec (h : worker.free = true) :
    worker.owns = none ∧ worker ≠ .finished ∧ worker ≠ .unspawned := by
  cases worker <;> cases h <;> simp [Worker.owns]

section
variable (h : Consistent book s)
include h

theorem Consistent.workerGoes {ready : Oneshot Unit} (hWorker : s.worker = before)
    (hStage : worker.approvedStage = true → s.approved = some true := by rintro ⟨⟩)
    (hFree : before.free = true := by rfl) (hOwns : worker.owns = none := by rfl)
    (hReplies : ∀ claim, worker ≠ .reply (.ok (some claim)) := by rintro _ ⟨⟩) :
    Consistent book { s with worker := worker, ready := ready, db := db } := by
  obtain ⟨hNone, hUnderWay, hSpawned⟩ := Worker.free_spec (hWorker ▸ hFree)
  exact h.workerMoves hNone hUnderWay hSpawned rfl rfl (fun _ hMessage => hMessage) hOwns hReplies
    (fun _ hMessage => hMessage) h.approved hStage

theorem Consistent.fail (fault : Fault) (hWorker : s.worker = before)
    (hFree : before.free = true := by rfl) : Consistent (book.record (s.fail fault).2) (s.fail fault).1 := by
  subst hWorker
  unfold Handshake.fail
  split
  · exact h.workerGoes rfl (by rintro ⟨⟩) hFree
  · exact h.workerGoes rfl (by rintro ⟨⟩) hFree

theorem Consistent.heed {approval : Oneshot Bool} (hFree : s.worker.free = true)
    (hAnswer : ∀ b, approval.message = some b → s.approval.message = some b)
    (hApproved : approved = true → book.answers = [true]) :
    Consistent (book.record ({ s with approval := approval }.heed approved).2)
      ({ s with approval := approval }.heed approved).1 := by
  obtain ⟨hNone, hUnderWay, hSpawned⟩ := Worker.free_spec hFree
  refine h.workerMoves hNone hUnderWay hSpawned rfl rfl (fun _ hMessage => hMessage) ?_ ?_ hAnswer ?_ ?_
  · cases approved <;> rfl
  · cases approved <;> rintro _ ⟨⟩
  · exact fun hTrue => hApproved (Option.some.inj hTrue)
  · cases approved with
    | false => rintro ⟨⟩
    | true => exact fun _ => rfl

theorem Consistent.commit {staleCutoff : Int} (hWorker : s.worker = .claimTx staleCutoff)
    (claim : ClaimedMessage) (db : QueueDb) :
    Consistent (book.record (.committed claim)) { s with db := db, worker := .claimed claim } := by
  obtain ⟨hCommits, hReleases, hTook, hMessage⟩ :=
    h.custody.of_free (by rw [hWorker]; rfl) (by rw [hWorker]; simp)
  have hApproved : s.approved = some true := h.stage (by rw [hWorker]; rfl)
  have hGone : ∀ claim, s.worker ≠ .awaitAccepted claim := by
    rw [hWorker]
    rintro _ ⟨⟩
  have hBooked : book.commits ++ [claim] = [claim] := by
    rw [hCommits]
    rfl
  exact
    { h with
      custody := .worker claim hBooked hReleases rfl hTook hMessage
      unspawned := fun hEarly => by
        cases hWorker.symm.trans (h.unspawned hEarly)
      accepts := fun _ => h.accepts (by rw [hWorker]; simp)
      offered := fun claim' hOffer => Or.inr ((h.offered claim' hOffer).resolve_left (hGone claim'))
      got := fun claim' hGot => absurd (h.got claim' hGot) (hGone claim')
      replies := by rintro _ ⟨⟩
      stage := fun _ => hApproved
      committed := fun _ => h.approved hApproved }

theorem Consistent.offer (hWorker : s.worker = .claimed claim) : Consistent book { s with
      result := s.result.send (.ok (some claim))
      worker := if s.result.receiver then .awaitAccepted claim else .dropOwner claim } := by
  obtain ⟨hCommits, hReleases, hHolds⟩ := h.custody.of_owns (show s.worker.owns = some claim by rw [hWorker]; rfl)
  obtain ⟨hTook, hMessage⟩ := hHolds.resolve_right fun hOther => by cases hWorker.symm.trans hOther.1
  have hSent (claim' : ClaimedMessage) (hOffer : (s.result.send (.ok (some claim))).message = some (.ok (some claim'))) :
      (if s.result.receiver then Worker.awaitAccepted claim else .dropOwner claim) = .awaitAccepted claim' := by
    change (if s.result.receiver then some (Except.ok (some claim) : ClaimResult) else none) = _ at hOffer
    split at hOffer
    · cases hOffer
      exact if_pos ‹_›
    · cases hOffer
  exact
    { h with
      custody := .worker claim hCommits hReleases (by cases s.result.receiver <;> rfl) hTook hMessage
      unspawned := fun hEarly => by
        cases hWorker.symm.trans (h.unspawned hEarly)
      accepts := fun _ => h.accepts (by rw [hWorker]; simp)
      offered := fun claim' hOffer => Or.inl (hSent claim' hOffer)
      got := fun claim' hGot => by
        cases hWorker.symm.trans (h.got claim' hGot)
      replies := by cases s.result.receiver <;> rintro _ ⟨⟩
      stage := fun _ => h.stage (by rw [hWorker]; rfl) }

theorem Consistent.ownerMoves (hOwns : s.worker.owns = some claim)
    (hCaller : s'.caller = s.caller) (hApproved : s'.approved = s.approved) (hApproval : s'.approval = s.approval)
    (hResult : s'.result = s.result) (hAccepts : s'.worker ≠ .finished → s'.accepted.receiver = true)
    (hSender : s'.accepted.sender = s.accepted.sender)
    (hOffered : ∀ claim, s.result.message = some (.ok (some claim)) → s.caller.listens = false)
    (hGot : ∀ claim, s.caller ≠ .gotResult (.ok (some claim)))
    (hWorker : (∃ claim, s'.worker = .dropOwner claim) ∨ s'.worker = .finished)
    (hAnswers : book'.answers = book.answers) (hCommits : book'.commits = book.commits)
    (hReturns : book'.returns = book.returns) (hCustody : Custody book' s') : Consistent book' s' where
  custody := hCustody
  unspawned hEarly := by
    rw [h.unspawned (hCaller ▸ hEarly)] at hOwns
    cases hOwns
  accepts := hAccepts
  connected hOpen := hSender.trans (h.connected (hCaller ▸ hOpen))
  offered claim' hMessage := Or.inr (hCaller ▸ hOffered claim' (hResult ▸ hMessage))
  got claim' hOther := absurd (hCaller ▸ hOther) (hGot claim')
  replies claim' hOther := by
    rcases hWorker with ⟨claim, hDrop⟩ | hEnd
    · cases hDrop.symm.trans hOther
    · cases hEnd.symm.trans hOther
  undecided hOpen := hAnswers.trans (h.undecided (hCaller ▸ hOpen))
  answer approved hMessage := hAnswers.trans (h.answer approved (hApproval ▸ hMessage))
  approved hTrue := hAnswers.trans (h.approved (hApproved ▸ hTrue))
  stage _ := hApproved.trans (h.stage (by
    generalize s.worker = worker at hOwns
    cases worker <;> first | rfl | cases hOwns))
  committed hSome := hAnswers.trans (h.committed (hCommits ▸ hSome))
  returns result hMem := hCaller.trans (h.returns result (hReturns ▸ hMem))
  recorded result hReturned := hReturns ▸ h.recorded result (hCaller ▸ hReturned)

end

theorem Caller.deaf_of_took {caller : Caller} (h : caller.took = some claim) :
    caller.listens = false ∧ ∀ claim, caller ≠ .gotResult (.ok (some claim)) := by
  cases caller with
  | returning | returned => exact ⟨rfl, fun _ hEq => by cases hEq⟩
  | _ => cases h

theorem Caller.deaf_of_disconnected {caller : Caller} (hEarly : caller.early = false)
    (hDisconnected : caller.connected = false) :
    caller.listens = false ∧ ∀ claim, caller ≠ .gotResult (.ok (some claim)) := by
  cases caller with
  | returning | returned | cancelled => exact ⟨rfl, fun _ hEq => by cases hEq⟩
  | start | awaitPermit => cases hEarly
  | _ => cases hDisconnected

section
variable (h : Consistent book s)
include h

theorem Consistent.accept (hWorker : s.worker = .awaitAccepted claim) (hMessage : s.accepted.message = some ()) :
    Consistent book { s with accepted := s.accepted.dropReceiver, worker := .finished } := by
  have hOwns : s.worker.owns = some claim := by rw [hWorker]; rfl
  obtain ⟨hCommits, hReleases, hHolds⟩ := h.custody.of_owns hOwns
  obtain ⟨-, hTook, -⟩ := hHolds.resolve_left fun hOther => by cases hMessage.symm.trans hOther.2
  obtain ⟨hDeaf, hGot⟩ := Caller.deaf_of_took hTook
  exact h.ownerMoves hOwns rfl rfl rfl rfl (fun hNot => absurd rfl hNot) rfl (fun _ _ => hDeaf) hGot (Or.inr rfl) rfl rfl
    rfl (.caller claim hCommits hReleases rfl hTook)

theorem Consistent.refuse (hWorker : s.worker = .awaitAccepted claim)
    (hMessage : s.accepted.message = none) (hSender : s.accepted.sender = false) :
    Consistent book { s with worker := .dropOwner claim } := by
  have hOwns : s.worker.owns = some claim := by rw [hWorker]; rfl
  obtain ⟨hCommits, hReleases, hHolds⟩ := h.custody.of_owns hOwns
  obtain ⟨hTook, -⟩ := hHolds.resolve_right fun hOther => by cases hMessage.symm.trans hOther.2.2
  have hDisconnected : s.caller.connected = false := by
    by_contra hOpen
    cases hSender.symm.trans (h.connected (by simpa using hOpen))
  have hEarly : s.caller.early = false := by
    by_contra hOpen
    cases hWorker.symm.trans (h.unspawned (by simpa using hOpen))
  have hDeaf := Caller.deaf_of_disconnected hEarly hDisconnected
  exact h.ownerMoves hOwns rfl rfl rfl rfl (fun _ => h.accepts (by rw [hWorker]; simp)) rfl (fun _ _ => hDeaf.1)
    hDeaf.2 (Or.inl ⟨claim, rfl⟩) rfl rfl rfl (.worker claim hCommits hReleases rfl hTook hMessage)

theorem Consistent.release (hWorker : s.worker = .dropOwner claim) (db : QueueDb) (result : Except QueueError Unit) :
    Consistent (book.record (.released claim result)) { s with db := db, worker := .finished } := by
  have hOwns : s.worker.owns = some claim := by rw [hWorker]; rfl
  have hElsewhere : ∀ claim, s.worker ≠ .awaitAccepted claim := by
    rw [hWorker]
    rintro _ ⟨⟩
  obtain ⟨hCommits, hReleases, hHolds⟩ := h.custody.of_owns hOwns
  obtain ⟨hTook, -⟩ := hHolds.resolve_right fun hOther => hElsewhere claim hOther.1
  have hBooked : book.releases ++ [claim] = [claim] := by
    rw [hReleases]
    rfl
  exact h.ownerMoves hOwns rfl rfl rfl rfl (fun hNot => absurd rfl hNot) rfl
    (fun claim' hMessage => (h.offered claim' hMessage).resolve_left (hElsewhere claim'))
    (fun claim' hGot => hElsewhere claim' (h.got claim' hGot)) (Or.inr rfl) rfl rfl rfl
    (.queue claim hCommits hBooked rfl hTook)

theorem Consistent.replied {result : ClaimResult} (hWorker : s.worker = .reply result) :
    Consistent book { s with result := s.result.send result, worker := .finished } := by
  have hFree : s.worker.free = true := by rw [hWorker]; rfl
  obtain ⟨hNone, hUnderWay, hSpawned⟩ := Worker.free_spec hFree
  refine h.workerMoves hNone hUnderWay hSpawned rfl rfl ?_ rfl (by rintro _ ⟨⟩) (fun _ hMessage => hMessage) h.approved
    (by rintro ⟨⟩)
  intro claim hMessage
  change (if s.result.receiver then some result else none) = some (.ok (some claim)) at hMessage
  split at hMessage
  · exact absurd (hWorker.trans (congrArg Worker.reply (Option.some.inj hMessage))) (h.replies claim)
  · cases hMessage

theorem Consistent.work (request : ClaimRequest) (env : Env) (fault : Option Fault) :
    Consistent (book.record (workStep request env fault s).2) (workStep request env fault s).1 := by
  unfold workStep
  cases hWorker : s.worker with
  | unspawned => exact h
  | finished => exact h
  | queued => exact h.workerGoes hWorker
  | probe =>
    cases fault with
    | some fault => exact h.fail fault hWorker
    | none =>
      dsimp only
      split <;> exact h.workerGoes hWorker
  | askApproval =>
    cases fault with
    | some fault => exact h.fail fault hWorker
    | none =>
      have hAsks : Consistent book { s with ready := s.ready.send (), worker := .awaitApproval } :=
        h.workerGoes hWorker
      cases hApproved : s.approved with
      | some approved =>
        exact h.heed (by rw [hWorker]; rfl) (fun _ hMessage => hMessage) (fun hTrue => h.approved (by rw [hApproved, hTrue]))
      | none =>
        rw [hApproved] at hAsks
        exact hAsks
  | awaitApproval =>
    have hFree : s.worker.free = true := by rw [hWorker]; rfl
    dsimp only
    split
    · exact h
    · rename_i approved hReceived
      refine h.heed hFree (by rintro _ ⟨⟩) ?_
      rintro rfl
      exact h.answer true (Oneshot.recv_eq_message.mp hReceived)
    · exact h.heed hFree (by rintro _ ⟨⟩) (by rintro ⟨⟩)
  | recheck =>
    cases fault with
    | some fault => exact h.fail fault hWorker
    | none =>
      dsimp only
      split
      · exact h.workerGoes hWorker
      · exact h.workerGoes hWorker
      · exact h.workerGoes hWorker fun _ => h.stage (by rw [hWorker]; rfl)
  | claimTx staleCutoff =>
    cases fault with
    | some fault => exact h.fail fault hWorker
    | none =>
      dsimp only
      split
      · exact h.workerGoes hWorker
      · exact h.workerGoes hWorker
      · exact h.commit hWorker _ _
  | claimed claim => exact h.offer hWorker
  | awaitAccepted claim =>
    dsimp only
    split
    · exact h
    · rename_i hReceived
      exact h.accept hWorker (Oneshot.recv_eq_message.mp hReceived)
    · rename_i hReceived
      obtain ⟨hMessage, hSender⟩ := Oneshot.recv_eq_closed.mp hReceived
      exact h.refuse hWorker hMessage hSender
  | dropOwner claim =>
    cases fault with
    | some fault => exact h.release hWorker s.db _
    | none =>
      dsimp only
      split
      · exact h.release hWorker s.db _
      · exact h.release hWorker _ _
  | reply result => exact h.replied hWorker

theorem Consistent.callerDrops (channel : ChannelEnd) : Consistent book (callerDropsStep channel s) := by
  unfold callerDropsStep
  cases hGone : s.caller.gone with
  | false => exact h
  | true =>
    have hDisconnected : s.caller.connected = true → s.accepted.dropSender.sender = true := by
      intro hConnected
      generalize s.caller = caller at hGone hConnected
      cases caller with
      | returned | cancelled => cases hConnected
      | _ => cases hGone
    cases channel with
    | ready | approval => exact { h with custody := h.custody.congr rfl rfl rfl rfl rfl }
    | result => exact { h with custody := h.custody.congr rfl rfl rfl rfl rfl, offered := by rintro _ ⟨⟩ }
    | accepted => exact { h with custody := h.custody.congr rfl rfl rfl rfl rfl, connected := hDisconnected }

theorem Consistent.workerDrops (channel : ChannelEnd) : Consistent book (workerDropsStep channel s) := by
  unfold workerDropsStep
  split
  · rename_i hWorker
    have hCustody : Custody book { s with accepted := s.accepted.dropReceiver } := by
      cases h.custody with
      | nobody h₁ h₂ h₃ h₄ _ => exact .nobody h₁ h₂ h₃ h₄ rfl
      | worker claim h₁ h₂ h₃ h₄ _ => exact .worker claim h₁ h₂ h₃ h₄ rfl
      | both claim _ _ hOther _ _ =>
        rw [hWorker] at hOther
        cases hOther
      | caller claim h₁ h₂ h₃ h₄ => exact .caller claim h₁ h₂ h₃ h₄
      | queue claim h₁ h₂ h₃ h₄ => exact .queue claim h₁ h₂ h₃ h₄
    cases channel with
    | ready | result => exact { h with custody := h.custody.congr rfl rfl rfl rfl rfl }
    | approval => exact { h with custody := h.custody.congr rfl rfl rfl rfl rfl, answer := by rintro _ ⟨⟩ }
    | accepted => exact { h with custody := hCustody, accepts := fun hNot => absurd hWorker hNot }
  · exact h

theorem Consistent.cancel (hAwaits : s.caller.awaits = true) : Consistent book { s with caller := .cancelled } := by
  have hMay : s.caller.mayBecome .cancelled = true := by
    generalize s.caller = caller at hAwaits
    cases caller <;> first | rfl | cases hAwaits
  exact h.goto rfl hMay

end

theorem Consistent.next {past : List (Action × Event)} (h : Consistent (bookOf past) s) (action : Action) :
    Consistent (bookOf (past ++ [(action, (handshakeMachine request).output s action)]))
      ((handshakeMachine request).next s action) := by
  rw [bookOf_append]
  cases action with
  | signal | dropShutdown => exact { h with custody := h.custody.congr rfl rfl rfl rfl rfl }
  | poll permit => exact h.poll permit
  | cancel =>
    change Consistent _ (if s.caller.awaits then { s with caller := .cancelled } else s)
    cases hAwaits : s.caller.awaits with
    | true => exact h.cancel hAwaits
    | false => exact h
  | callerDrops channel => exact h.callerDrops channel
  | work env fault => exact h.work request env fault
  | dropTask =>
    cases hWorker : s.worker with
    | queued =>
      simp only [handshakeMachine, Machine.next, Machine.output, hWorker]
      exact h.workerGoes hWorker
    | _ =>
      simp only [handshakeMachine, Machine.next, Machine.output, hWorker]
      exact h
  | workerDrops channel => exact h.workerDrops channel
  | others db => exact { h with custody := h.custody.congr rfl rfl rfl rfl rfl }

theorem beforeCall_consistent {shutdown : Watch} (db : QueueDb) : Consistent (bookOf []) (beforeCall shutdown db) where
  custody := .nobody rfl rfl rfl rfl rfl
  unspawned _ := rfl
  accepts _ := rfl
  connected := by rintro ⟨⟩
  offered := by rintro _ ⟨⟩
  got := by rintro _ ⟨⟩
  replies := by rintro _ ⟨⟩
  undecided _ := rfl
  answer := by rintro _ ⟨⟩
  approved := by rintro ⟨⟩
  stage := by rintro ⟨⟩
  committed hSome := absurd rfl hSome
  returns := by rintro _ ⟨⟩
  recorded := by rintro _ ⟨⟩

theorem run_consistent {request : ClaimRequest} {shutdown : Watch} {actions : List Action} (db : QueueDb) :
    Consistent (bookOf ((handshakeMachine request).trace (beforeCall shutdown db) actions))
      ((handshakeMachine request).final (beforeCall shutdown db) actions) :=
  Machine.invariant_trace (P := fun _ _ => True) (I := fun past s => Consistent (bookOf past) s)
    (fun _ _ action h _ => h.next request action) (beforeCall_consistent db)
    ((handshakeMachine request).along_true _ actions)

theorem mem_answers {trace : List (Action × Event)} :
    approved ∈ (bookOf trace).answers ↔ ∃ action, (action, Event.answered approved) ∈ trace := by
  induction trace using List.reverseRecOn with
  | nil => simp [bookOf]
  | append_singleton trace event ih =>
    obtain ⟨action, event⟩ := event
    rw [bookOf_append]
    cases event with
    | answered b => simp [Book.record, ih, exists_or, eq_comm]
    | _ => simp [Book.record, ih]

theorem work_caller {request : ClaimRequest} {fault : Option Fault} (s : Handshake) :
    (workStep request env fault s).1.caller = s.caller ∧
      ∀ approved, (workStep request env fault s).2 ≠ .answered approved := by
  unfold workStep Handshake.fail Handshake.heed
  repeat' split
  all_goals exact ⟨rfl, by rintro _ ⟨⟩⟩

theorem gone_step {request : ClaimRequest} (hGone : s.caller.gone = true) :
    ((handshakeMachine request).next s action).caller = s.caller ∧
      ∀ approved, (handshakeMachine request).output s action ≠ .answered approved := by
  cases action with
  | poll permit =>
    change (pollStep permit s).1.caller = s.caller ∧ ∀ approved, (pollStep permit s).2 ≠ .answered approved
    unfold pollStep
    cases hCaller : s.caller with
    | returned | cancelled => exact ⟨hCaller, by rintro _ ⟨⟩⟩
    | _ =>
      rw [hCaller] at hGone
      cases hGone
  | cancel =>
    refine ⟨?_, by rintro _ ⟨⟩⟩
    change (if s.caller.awaits then { s with caller := .cancelled } else s).caller = s.caller
    split
    · rename_i hAwaits
      generalize s.caller = caller at hGone hAwaits
      cases caller with
      | returned | cancelled => cases hAwaits
      | _ => cases hGone
    · rfl
  | callerDrops channel =>
    refine ⟨?_, by rintro _ ⟨⟩⟩
    change (callerDropsStep channel s).caller = s.caller
    unfold callerDropsStep
    cases channel <;> simp [hGone]
  | work env fault => exact work_caller s
  | dropTask =>
    cases hWorker : s.worker <;> simp [handshakeMachine, Machine.next, Machine.output, hWorker]
  | workerDrops channel =>
    refine ⟨?_, by rintro _ ⟨⟩⟩
    change (workerDropsStep channel s).caller = s.caller
    unfold workerDropsStep
    cases s.worker <;> cases channel <;> rfl
  | _ => exact ⟨rfl, by rintro _ ⟨⟩⟩

def Worker.distance : Worker → Nat
  | .unspawned | .finished => 0
  | .reply _ => 1
  | .dropOwner _ => 2
  | .awaitAccepted _ => 3
  | .claimed _ => 4
  | .claimTx _ => 5
  | .recheck => 6
  | .awaitApproval => 7
  | .askApproval => 8
  | .probe => 9
  | .queued => 10

def Abandoned (s : Handshake) : Prop := s.approval.sender = false ∧ s.accepted.sender = false

theorem heed_distance (s : Handshake) (approved : Bool) : (s.heed approved).1.worker.distance ≤ 6 := by
  cases approved <;> simp [Handshake.heed, Worker.distance]

theorem work_abandoned (env : Env) (h : Abandoned s) :
    Abandoned (workStep request env none s).1 ∧
      (workStep request env none s).1.worker.distance ≤ s.worker.distance - 1 := by
  obtain ⟨hApproval, hAccepted⟩ := h
  unfold workStep
  cases hWorker : s.worker with
  | awaitApproval =>
    dsimp only
    split
    · rename_i hPending
      simp [Oneshot.recv, hApproval] at hPending
      split at hPending <;> cases hPending
    · exact ⟨⟨hApproval, hAccepted⟩, heed_distance _ _⟩
    · exact ⟨⟨hApproval, hAccepted⟩, heed_distance _ _⟩
  | awaitAccepted claim =>
    dsimp only
    split
    · rename_i hPending
      simp [Oneshot.recv, hAccepted] at hPending
      split at hPending <;> cases hPending
    · exact ⟨⟨hApproval, hAccepted⟩, by simp [Worker.distance]⟩
    · exact ⟨⟨hApproval, hAccepted⟩, by simp [Worker.distance]⟩
  | askApproval =>
    cases s.approved with
    | some approved => exact ⟨⟨hApproval, hAccepted⟩, (heed_distance s approved).trans (by decide)⟩
    | none => exact ⟨⟨hApproval, hAccepted⟩, by simp [Worker.distance]⟩
  | claimed claim =>
    refine ⟨⟨hApproval, hAccepted⟩, ?_⟩
    dsimp only
    split <;> simp [Worker.distance]
  | unspawned | finished => exact ⟨⟨hApproval, hAccepted⟩, by simp [hWorker, Worker.distance]⟩
  | queued | reply => exact ⟨⟨hApproval, hAccepted⟩, by simp [Worker.distance]⟩
  | _ =>
    dsimp only
    split <;> exact ⟨⟨hApproval, hAccepted⟩, by simp [Worker.distance]⟩

theorem abandoned_worker_ends (h : Abandoned s) (envs : List Env) (hLong : s.worker.distance ≤ envs.length) :
    ((handshakeMachine request).final s (envs.map (Action.work · none))).worker.distance = 0 := by
  induction envs generalizing s with
  | nil => exact Nat.le_zero.mp hLong
  | cons env envs ih =>
    obtain ⟨hNext, hCloser⟩ := work_abandoned request env h
    refine ih hNext (hCloser.trans ?_)
    rw [List.length_cons] at hLong
    omega

theorem Consistent.returned_claim (h : Consistent book s)
    (hMem : .ok (some claim) ∈ book.returns) : claim ∈ book.commits ∧ book.releases = [] := by
  have hTook : s.caller.took = some claim := by rw [h.returns _ hMem]; rfl
  cases h.custody with
  | both _ hCommits hReleases _ hOther | caller _ hCommits hReleases _ hOther =>
    cases hTook.symm.trans hOther
    exact ⟨by simp [hCommits], hReleases⟩
  | nobody _ _ _ hNone | worker _ _ _ _ hNone | queue _ _ _ _ hNone => cases hTook.symm.trans hNone

theorem Consistent.released_claim (h : Consistent book s) (hMem : claim ∈ book.releases) :
    claim ∈ book.commits := by
  cases h.custody with
  | queue claim' hCommits hReleases _ _ => rwa [hCommits, ← hReleases]
  | nobody _ hReleases | worker _ _ hReleases | both _ _ hReleases | caller _ _ hReleases => cases hReleases ▸ hMem

theorem Consistent.settled (h : Consistent book s) (hGone : s.caller.gone = true) (hEnd : s.worker.distance = 0)
    (hMem : claim ∈ book.commits) : .ok (some claim) ∈ book.returns ∨ claim ∈ book.releases := by
  have hOwns : s.worker.owns = none := by
    generalize s.worker = worker at hEnd
    cases worker <;> first | rfl | cases hEnd
  cases h.custody with
  | nobody hCommits _ _ _ _ => cases hCommits ▸ hMem
  | worker _ _ _ hOther _ _ => cases hOwns.symm.trans hOther
  | both _ _ _ hOther _ _ =>
    rw [hOther] at hOwns
    cases hOwns
  | caller claim' hCommits _ _ hTook =>
    rw [hCommits, List.mem_singleton] at hMem
    subst hMem
    refine Or.inl (h.recorded _ ?_)
    generalize s.caller = caller at hGone hTook
    cases caller with
    | returned result =>
      cases result with
      | ok message =>
        cases hTook
        rfl
      | error error => cases hTook
    | cancelled => cases hTook
    | _ => cases hGone
  | queue claim' hCommits hReleases _ _ =>
    rw [hCommits] at hMem
    exact Or.inr (by rwa [hReleases])

theorem releaseClaim_pending {db' : QueueDb} {u : Unit} (h : releaseClaim env none claim db = .ok (db', u)) :
    ∃ row, db'.pending.find? claim.id = some row ∧ row.status = .pending ∧ row.claimToken = none := by
  obtain ⟨hSome, rfl⟩ := releaseClaim_ok h
  obtain ⟨row, hRow, hHeld⟩ := Table.exists_of_count_pos hSome
  have hId : (unclaimedRow row).id = claim.id := (unclaimedRow_id row).trans (heldBy_iff.mp hHeld).1
  refine ⟨unclaimedRow row, Table.find?_eq_some_iff.mpr ⟨?_, hId⟩, ?_⟩
  · rw [Table.mem_update]
    exact ⟨row, hRow, if_pos hHeld⟩
  · unfold unclaimedRow clearIngestResults
    split <;> exact ⟨rfl, rfl⟩

theorem released_pending {request : ClaimRequest}
    (h : (handshakeMachine request).output s action = .released claim (.ok ())) :
    ∃ row, ((handshakeMachine request).next s action).db.pending.find? claim.id = some row ∧
      row.status = .pending ∧ row.claimToken = none := by
  cases action with
  | poll permit =>
    change (pollStep permit s).2 = _ at h
    unfold pollStep Handshake.finishCall at h
    repeat' split at h
    all_goals cases h
  | work env fault =>
    change (workStep request env fault s).2 = _ at h
    change ∃ row, (workStep request env fault s).1.db.pending.find? claim.id = some row ∧ _
    unfold workStep at h ⊢
    cases hWorker : s.worker with
    | dropOwner claim' =>
      simp only [hWorker] at h ⊢
      cases fault with
      | some fault => cases h
      | none =>
        cases hRelease : releaseClaim env none claim' s.db with
        | error error =>
          simp only [hRelease] at h
          cases h
        | ok result =>
          simp only [hRelease] at h ⊢
          cases h
          exact releaseClaim_pending hRelease
    | _ =>
      simp only [hWorker, Handshake.fail, Handshake.heed] at h
      repeat' split at h
      all_goals cases h
  | dropTask =>
    simp only [handshakeMachine, Machine.output] at h
    split at h <;> cases h
  | _ => cases h

theorem gone_run {request : ClaimRequest} {future : List Action} (hGone : s.caller.gone = true) :
    ∀ event ∈ (handshakeMachine request).trace s future, ∀ approved, event.2 ≠ .answered approved :=
  Machine.forall_trace (I := fun s => s.caller.gone = true)
    (fun s action h => by rw [(gone_step h).1]; exact h)
    (fun s action h => (gone_step h).2) hGone future

theorem distance_le (worker : Worker) : worker.distance ≤ 10 := by
  cases worker <;> simp [Worker.distance]

theorem callerDrops_abandoned (hGone : s.caller.gone = true) :
    Abandoned (callerDropsStep .accepted (callerDropsStep .approval s)) := by
  simp [callerDropsStep, hGone, Abandoned, Oneshot.dropSender]

/-- A claim that commits is returned or released, never both and never neither, and without approval nothing
commits. -/
theorem claims_handed_over (request : ClaimRequest) (shutdown : Watch) (db : QueueDb) (actions : List Action) :
    let book := bookOf ((handshakeMachine request).trace (beforeCall shutdown db) actions)
    let s := (handshakeMachine request).final (beforeCall shutdown db) actions
    (∀ claim, .ok (some claim) ∈ book.returns → claim ∈ book.commits ∧ claim ∉ book.releases) ∧
    (∀ claim ∈ book.releases, claim ∈ book.commits ∧ .ok (some claim) ∉ book.returns) ∧
    (s.caller.gone = true → s.worker.distance = 0 →
      ∀ claim ∈ book.commits, Xor (.ok (some claim) ∈ book.returns) (claim ∈ book.releases)) ∧
    (s.caller.gone = true → ∀ envs : List Env, 10 ≤ envs.length →
      ((handshakeMachine request).final s
        (.callerDrops .approval :: .callerDrops .accepted :: envs.map (Action.work · none))).worker.distance = 0) ∧
    (∀ past action future claim, actions = past ++ action :: future →
      let t := (handshakeMachine request).final (beforeCall shutdown db) past
      (handshakeMachine request).output t action = .released claim (.ok ()) →
        ∃ row, ((handshakeMachine request).next t action).db.pending.find? claim.id = some row ∧
          row.status = .pending ∧ row.claimToken = none) ∧
    (∀ past future, actions = past ++ future →
      let before := bookOf ((handshakeMachine request).trace (beforeCall shutdown db) past)
      let t := (handshakeMachine request).final (beforeCall shutdown db) past
      false ∈ before.answers ∨ t.caller.gone = true ∧ true ∉ before.answers → book.commits = []) := by
  intro book s
  have h : Consistent book s := run_consistent db
  refine ⟨?_, ?_, ?_, ?_, fun _ _ _ _ _ => released_pending, ?_⟩
  · intro claim hMem
    obtain ⟨hCommitted, hReleases⟩ := h.returned_claim hMem
    exact ⟨hCommitted, by simp [hReleases]⟩
  · intro claim hMem
    refine ⟨h.released_claim hMem, fun hReturned => ?_⟩
    rw [(h.returned_claim hReturned).2] at hMem
    cases hMem
  · intro hGone hEnd claim hMem
    rcases h.settled hGone hEnd hMem with hReturned | hReleased
    · exact Or.inl ⟨hReturned, by simp [(h.returned_claim hReturned).2]⟩
    · refine Or.inr ⟨hReleased, fun hReturned => ?_⟩
      rw [(h.returned_claim hReturned).2] at hReleased
      cases hReleased
  · intro hGone envs hLong
    exact abandoned_worker_ends request (callerDrops_abandoned hGone) envs ((distance_le _).trans hLong)
  · rintro past future rfl before t hRefused
    by_contra hCommitted
    -- a commit needs the one answer to have been an approval
    have hAnswers : book.answers = [true] := h.committed hCommitted
    rcases hRefused with hFalse | ⟨hGone, hNever⟩
    · obtain ⟨action, hMem⟩ := mem_answers.mp hFalse
      have hLater : false ∈ book.answers := by
        refine mem_answers.mpr ⟨action, ?_⟩
        rw [Machine.trace_append]
        exact List.mem_append_left _ hMem
      rw [hAnswers] at hLater
      simp at hLater
    · have hTrue : true ∈ book.answers := by simp [hAnswers]
      obtain ⟨action, hMem⟩ := mem_answers.mp hTrue
      rw [Machine.trace_append] at hMem
      rcases List.mem_append.mp hMem with hPast | hFuture
      · exact hNever (mem_answers.mpr ⟨action, hPast⟩)
      · exact gone_run hGone _ hFuture true rfl

/-- A call commits one claim at most, releases nothing else, and has one result. -/
theorem one_claim_per_call (request : ClaimRequest) (shutdown : Watch) (db : QueueDb) (actions : List Action) :
    let book := bookOf ((handshakeMachine request).trace (beforeCall shutdown db) actions)
    (book.commits.length ≤ 1 ∧ book.releases <+: book.commits) ∧ ∀ r ∈ book.returns, ∀ r' ∈ book.returns, r = r' := by
  intro book
  have h : Consistent book ((handshakeMachine request).final (beforeCall shutdown db) actions) := run_consistent db
  refine ⟨?_, fun r hr r' hr' => Caller.returned.inj ((h.returns r hr).symm.trans (h.returns r' hr'))⟩
  cases h.custody with
  | nobody hCommits hReleases => simp [hCommits, hReleases]
  | worker _ hCommits hReleases | both _ hCommits hReleases | caller _ hCommits hReleases
  | queue _ hCommits hReleases => simp [hCommits, hReleases]

end Mempal.ClaimShutdown
