import Mathlib.Data.List.Nodup
import Mempal.Cowork.Inbox

set_option autoImplicit false

/-! Push and drain share no lock. A message is delivered exactly once as long as its line goes into the file that is
still the inbox, at the start of a line, and drains do not overlap. -/

namespace Mempal.Cowork

open Foundation

def InboxReply.drainedEntries : Option InboxReply → List Entry
  | some (.drained entries) => entries
  | _ => []

def drainedOf (events : List ((Bool × Move InboxOp) × Option InboxReply)) : List Entry :=
  events.flatMap fun event => InboxReply.drainedEntries event.2

def Accepted (events : List ((Bool × Move InboxOp) × Option InboxReply)) (entry : Entry) : Prop :=
  ∃ action bytes, (action, some (InboxReply.pushed entry bytes)) ∈ events

def contents (files : Files InboxFile Piece) (name : InboxFile) : List Entry :=
  ((files.read name).map messages).getD []

def Finished (state : Clients Inbox InboxCall) : Prop := ∀ slot, state.calls slot = none

structure ExactlyOnce (kind : InboxKind) (size : InboxMessage → Nat) (schedule : List (Bool × Move InboxOp)) :
    Prop where
  /-- No message is returned twice. -/
  once : (drainedOf ((inboxMachine kind size).trace (.start .empty) schedule)).Nodup
  /-- In the end each accepted message has been returned, or it is in the inbox. -/
  delivered : Finished ((inboxMachine kind size).final (.start .empty) schedule) →
    ∀ entry, Accepted ((inboxMachine kind size).trace (.start .empty) schedule) entry →
      (entry ∈ drainedOf ((inboxMachine kind size).trace (.start .empty) schedule) ↔
        entry ∉ contents ((inboxMachine kind size).final (.start .empty) schedule).shared.files .inbox)
  /-- A message whose push began after the push of another one had returned is not returned before it. -/
  ordered : ∀ past future, schedule = past ++ future → ∀ first second,
    Accepted ((inboxMachine kind size).trace (.start .empty) past) first →
      ((inboxMachine kind size).final (.start .empty) past).shared.issued ≤ second.tag →
        ¬ [second, first].Sublist (drainedOf ((inboxMachine kind size).trace (.start .empty) schedule))

namespace InboxCall

def pushView : InboxCall → Option (Entry × Bool)
  | measuring entry => some (entry, false)
  | opening entry => some (entry, false)
  | writing entry _ => some (entry, false)
  | ending entry _ => some (entry, true)
  | sizing entry => some (entry, true)
  | _ => none

def drainView : InboxCall → Option (Option (List Entry))
  | reading => some none
  | removing drained => some (some drained)
  | recording drained => some (some drained)
  | _ => none

end InboxCall

def pushAt (calls : Nat → Option InboxCall) (slot : Nat) : Option (Entry × Bool) :=
  (calls slot).bind InboxCall.pushView

def drainAt (calls : Nat → Option InboxCall) (slot : Nat) : Option (Option (List Entry)) :=
  (calls slot).bind InboxCall.drainView

def NoDrain (calls : Nat → Option InboxCall) : Prop := ∀ slot, drainAt calls slot = none

/-- The step is one of a call that goes on to its end: a line is written at a line start of the file that is the
inbox, and the inbox is moved away while no other drain is under way. -/
def Undisturbed (kind : InboxKind) (state : Clients Inbox InboxCall) (a : Bool × Move InboxOp) : Prop :=
  match a.2 with
  | .abandon _ => False
  | .call _ (.push _) => True
  | .call slot .drain => kind ≠ .agent → state.calls slot = none → NoDrain state.calls
  | .resume slot =>
    match state.calls slot with
    | some (.writing _ handle) =>
      state.shared.files.entry .inbox = some handle ∧ ¬ Unfinished (state.shared.files.content handle)
    | some .moving => NoDrain state.calls
    | _ => True

structure Pushes (issued : Nat) (written : List Entry) (views : Nat → Option (Entry × Bool)) : Prop where
  written_lt : ∀ entry ∈ written, entry.tag < issued
  written_nodup : (written.map Entry.tag).Nodup
  issued_call : ∀ {slot entry done}, views slot = some (entry, done) → entry.tag < issued
  distinct : ∀ {slot slot' entry entry' done done'}, views slot = some (entry, done) →
    views slot' = some (entry', done') → entry.tag = entry'.tag → slot = slot'
  pending : ∀ {slot entry}, views slot = some (entry, false) → entry.tag ∉ written.map Entry.tag
  done : ∀ {slot entry}, views slot = some (entry, true) → entry ∈ written

def setView {α : Type} (views : Nat → Option α) (slot : Nat) (view : Option α) : Nat → Option α :=
  fun other => if other = slot then view else views other

theorem setView_eq_some {α : Type} {views : Nat → Option α} {a : α} {slot other : Nat} {view : Option α}
    (h : setView views slot view other = some a) :
    other = slot ∧ view = some a ∨ other ≠ slot ∧ views other = some a := by
  unfold setView at h
  split_ifs at h with hSlot
  · exact .inl ⟨hSlot, h⟩
  · exact .inr ⟨hSlot, h⟩

namespace Pushes

variable {issued slot : Nat} {written : List Entry} {views : Nat → Option (Entry × Bool)}

section
variable (h : Pushes issued written views)
include h

theorem keep {view : Option (Entry × Bool)}
    (hView : view = none ∨ view = views slot) : Pushes issued written (setView views slot view) := by
  have hSub : ∀ {other pair}, setView views slot view other = some pair → views other = some pair := by
    intro other pair hSome
    rcases setView_eq_some hSome with ⟨rfl, hNew⟩ | ⟨_, hOld⟩
    · rcases hView with rfl | rfl
      · cases hNew
      · exact hNew
    · exact hOld
  exact ⟨h.written_lt, h.written_nodup, fun hv => h.issued_call (hSub hv),
    fun hv hv' => h.distinct (hSub hv) (hSub hv'), fun hv => h.pending (hSub hv), fun hv => h.done (hSub hv)⟩

theorem issue (message : InboxMessage) :
    Pushes (issued + 1) written (setView views slot (some (⟨issued, message⟩, false))) := by
  refine ⟨fun entry hMem => Nat.lt_succ_of_lt (h.written_lt entry hMem), h.written_nodup, fun hv => ?_,
    fun hv hv' hTag => ?_, fun hv => ?_, fun hv => ?_⟩
  · rcases setView_eq_some hv with ⟨_, hPair⟩ | ⟨_, hOld⟩
    · cases hPair
      exact Nat.lt_succ_self _
    · exact Nat.lt_succ_of_lt (h.issued_call hOld)
  · rcases setView_eq_some hv with ⟨hSlot, hPair⟩ | ⟨_, hOld⟩
    · rcases setView_eq_some hv' with ⟨hSlot', _⟩ | ⟨_, hOld'⟩
      · rw [hSlot, hSlot']
      · cases hPair
        exact absurd hTag (Nat.ne_of_gt (h.issued_call hOld'))
    · rcases setView_eq_some hv' with ⟨_, hPair'⟩ | ⟨_, hOld'⟩
      · cases hPair'
        exact absurd hTag (Nat.ne_of_lt (h.issued_call hOld))
      · exact h.distinct hOld hOld' hTag
  · rcases setView_eq_some hv with ⟨_, hPair⟩ | ⟨_, hOld⟩
    · cases hPair
      intro hMem
      obtain ⟨entry, hMem, hTag⟩ := List.mem_map.mp hMem
      exact absurd hTag (Nat.ne_of_lt (h.written_lt entry hMem))
    · exact h.pending hOld
  · rcases setView_eq_some hv with ⟨_, hPair⟩ | ⟨_, hOld⟩
    · cases hPair
    · exact h.done hOld

theorem skip : Pushes (issued + 1) written (setView views slot none) := by
  obtain ⟨hWritten, hNodup, hCall, hDistinct, hPending, hDone⟩ :
      Pushes issued written (setView views slot none) := h.keep (.inl rfl)
  exact ⟨fun entry hMem => Nat.lt_succ_of_lt (hWritten entry hMem), hNodup, fun hv => Nat.lt_succ_of_lt (hCall hv),
    hDistinct, hPending, hDone⟩

theorem write {entry : Entry} (hView : views slot = some (entry, false)) :
    Pushes issued (written ++ [entry]) (setView views slot (some (entry, true))) := by
  refine ⟨fun e hMem => ?_, ?_, fun hv => ?_, fun hv hv' hTag => ?_, fun hv hMem => ?_, fun hv => ?_⟩
  · rcases List.mem_append.mp hMem with hMem | hMem
    · exact h.written_lt e hMem
    · rw [List.mem_singleton.mp hMem]
      exact h.issued_call hView
  · rw [List.map_append, List.nodup_append]
    refine ⟨h.written_nodup, List.nodup_singleton _, ?_⟩
    rintro tag hTag _ hNew rfl
    rw [List.mem_singleton.mp hNew] at hTag
    exact h.pending hView hTag
  · rcases setView_eq_some hv with ⟨_, hPair⟩ | ⟨_, hOld⟩
    · cases hPair
      exact h.issued_call hView
    · exact h.issued_call hOld
  · rcases setView_eq_some hv with ⟨hSlot, hPair⟩ | ⟨_, hOld⟩
    · rcases setView_eq_some hv' with ⟨hSlot', _⟩ | ⟨_, hOld'⟩
      · rw [hSlot, hSlot']
      · cases hPair
        rw [hSlot]
        exact h.distinct hView hOld' hTag
    · rcases setView_eq_some hv' with ⟨hSlot', hPair'⟩ | ⟨_, hOld'⟩
      · cases hPair'
        rw [hSlot']
        exact h.distinct hOld hView hTag
      · exact h.distinct hOld hOld' hTag
  · rcases setView_eq_some hv with ⟨_, hPair⟩ | ⟨hNe, hOld⟩
    · cases hPair
    · rw [List.map_append] at hMem
      rcases List.mem_append.mp hMem with hMem | hMem
      · exact h.pending hOld hMem
      · exact hNe (h.distinct hOld hView (List.mem_singleton.mp hMem))
  · rcases setView_eq_some hv with ⟨_, hPair⟩ | ⟨_, hOld⟩
    · cases hPair
      exact List.mem_append_right _ (List.mem_singleton_self _)
    · exact List.mem_append_left _ (h.done hOld)

end

end Pushes

def Carries (files : Files InboxFile Piece) (hand : List Entry) : Option (List Entry) → Prop
  | none => files.read .draining ≠ none ∧ contents files .draining = hand
  | some drained => drained = hand

def Drains (returned written : List Entry) (files : Files InboxFile Piece)
    (views : Nat → Option (Option (List Entry))) : Prop :=
  ∃ hand, returned ++ hand ++ contents files .inbox = written ∧
    ((∀ slot, views slot = none) ∧ hand = [] ∨
      ∃ slot view, views slot = some view ∧ (∀ other, other ≠ slot → views other = none) ∧ Carries files hand view)

namespace Drains

variable {returned written : List Entry} {files files' : Files InboxFile Piece}
  {views : Nat → Option (Option (List Entry))} {slot : Nat}

section
variable (h : Drains returned written files views)
include h

theorem push {more : List Entry} (hInbox : contents files' .inbox = contents files .inbox ++ more)
    (hDraining : contents files' .draining = contents files .draining)
    (hStays : files.read .draining ≠ none → files'.read .draining ≠ none) (hFree : views slot = none) :
    Drains returned (written ++ more) files' (setView views slot none) := by
  have hViews : setView views slot none = views := by
    funext other
    unfold setView
    split_ifs with hSlot
    · rw [hSlot, hFree]
    · rfl
  obtain ⟨hand, hWritten, hHand⟩ := h
  rw [hViews]
  refine ⟨hand, by rw [hInbox, ← List.append_assoc, hWritten], hHand.imp_right ?_⟩
  rintro ⟨slot, view, hView, hOthers, hCarries⟩
  refine ⟨slot, view, hView, hOthers, ?_⟩
  cases view with
  | none => exact ⟨hStays hCarries.1, hDraining.trans hCarries.2⟩
  | some drained => exact hCarries

variable {view : Option (List Entry)}

theorem start {hand : List Entry} (hNone : ∀ slot, views slot = none)
    (hCarries : Carries files' hand view) (hInbox : hand ++ contents files' .inbox = contents files .inbox) :
    Drains returned written files' (setView views slot (some view)) := by
  obtain ⟨old, hWritten, hOld⟩ := h
  have hNil : old = [] := by
    rcases hOld with ⟨_, hNil⟩ | ⟨slot, view, hView, _⟩
    · exact hNil
    · exact absurd ((hNone slot).symm.trans hView) nofun
  subst hNil
  refine ⟨hand, ?_, .inr ⟨slot, view, if_pos rfl, fun other hOther => (if_neg hOther).trans (hNone other), hCarries⟩⟩
  rw [List.append_assoc, hInbox, ← hWritten, List.append_nil]

theorem carries (hView : views slot = some view) :
    ∃ hand, returned ++ hand ++ contents files .inbox = written ∧ (∀ other, other ≠ slot → views other = none) ∧
      Carries files hand view := by
  obtain ⟨hand, hWritten, ⟨hNone, _⟩ | ⟨owner, view', hOwner, hOthers, hHand⟩⟩ := h
  · exact absurd ((hNone slot).symm.trans hView) nofun
  · have hSlot : slot = owner := by
      by_contra hNe
      exact absurd ((hOthers slot hNe).symm.trans hView) nofun
    subst hSlot
    cases hView.symm.trans hOwner
    exact ⟨hand, hWritten, hOthers, hHand⟩

theorem go {view' : Option (List Entry)} (hView : views slot = some view)
    (hInbox : contents files' .inbox = contents files .inbox)
    (hCarries : ∀ hand, Carries files hand view → Carries files' hand view') :
    Drains returned written files' (setView views slot (some view')) := by
  obtain ⟨hand, hWritten, hOthers, hHand⟩ := h.carries hView
  refine ⟨hand, by rw [hInbox, hWritten], .inr ⟨slot, view', if_pos rfl, fun other hOther => ?_, hCarries hand hHand⟩⟩
  rw [setView, if_neg hOther]
  exact hOthers other hOther

theorem finish {drained : List Entry}
    (hView : views slot = some (some drained)) (hInbox : contents files' .inbox = contents files .inbox) :
    Drains (returned ++ drained) written files' (setView views slot none) := by
  obtain ⟨hand, hWritten, hOthers, hHand⟩ := h.carries hView
  cases hHand
  refine ⟨[], by rw [hInbox, List.append_nil, hWritten], .inl ⟨fun other => ?_, rfl⟩⟩
  unfold setView
  split_ifs with hOther
  · rfl
  · exact hOthers other hOther

end

end Drains

section Contents

variable (files : Files InboxFile Piece)

theorem contents_openAppend (name : InboxFile) : contents (files.openAppend .inbox).1 name = contents files name := by
  unfold contents
  rw [files.read_openAppend .inbox name]
  split_ifs with hName
  · subst hName
    cases files.read .inbox <;> rfl
  · rfl

theorem contents_append_lineEnd (handle : Nat) (name : InboxFile) :
    contents (files.append handle .lineEnd) name = contents files name := by
  unfold contents
  rw [files.read_append handle .lineEnd name]
  split_ifs with hEntry
  · simp [Files.read, hEntry, messages_append_lineEnd]
  · rfl

variable {files} {handle : Nat}

theorem contents_append_line (hEntry : files.entry .inbox = some handle)
    (hFinished : ¬ Unfinished (files.content handle)) (entry : Entry) :
    contents (files.append handle (.line entry)) .inbox = contents files .inbox ++ [entry] := by
  unfold contents
  rw [files.read_append handle (.line entry) .inbox, if_pos hEntry]
  simp [Files.read, hEntry, messages_append_line hFinished]

theorem read_append_draining {piece : Piece} (hEntry : files.entry .inbox = some handle) :
    (files.append handle piece).read .draining = files.read .draining := by
  rw [files.read_append handle piece .draining, if_neg]
  intro hDraining
  exact absurd (files.distinct hEntry hDraining) nofun

theorem read_append_ne_none {name : InboxFile} (h : files.read name ≠ none) (handle : Nat) (piece : Piece) :
    (files.append handle piece).read name ≠ none := by
  rw [files.read_append handle piece name]
  split_ifs
  · exact nofun
  · exact h

end Contents

structure Inv (events : List ((Bool × Move InboxOp) × Option InboxReply)) (state : Clients Inbox InboxCall) : Prop where
  pushes : Pushes state.shared.issued state.shared.written (pushAt state.calls)
  drains : Drains (drainedOf events) state.shared.written state.shared.files (drainAt state.calls)
  accepted : ∀ entry, Accepted events entry → entry ∈ state.shared.written

variable {calls : Nat → Option InboxCall} {call : Option InboxCall} {op : InboxOp}
  {schedule : List (Bool × Move InboxOp)} (kind : InboxKind) (size : InboxMessage → Nat)

theorem pushAt_setCall {slot : Nat} :
    pushAt (Clients.setCall calls slot call) = setView (pushAt calls) slot (call.bind InboxCall.pushView) := by
  funext other
  unfold pushAt setView Clients.setCall
  split_ifs <;> rfl

theorem drainAt_setCall {slot : Nat} :
    drainAt (Clients.setCall calls slot call) = setView (drainAt calls) slot (call.bind InboxCall.drainView) := by
  funext other
  unfold drainAt setView Clients.setCall
  split_ifs <;> rfl

theorem drainedOf_append {events : List ((Bool × Move InboxOp) × Option InboxReply)} {a : Bool × Move InboxOp}
    {reply : Option InboxReply} :
    drainedOf (events ++ [(a, reply)]) = drainedOf events ++ InboxReply.drainedEntries reply := by
  simp [drainedOf]

section Step

variable {events : List ((Bool × Move InboxOp) × Option InboxReply)} {state : Clients Inbox InboxCall}
  {a : Bool × Move InboxOp} {slot : Nat} {inbox : Inbox} {progress : Progress InboxCall InboxReply}

def Settles (events : List ((Bool × Move InboxOp) × Option InboxReply)) (state : Clients Inbox InboxCall)
    (a : Bool × Move InboxOp) (slot : Nat) (result : Inbox × Progress InboxCall InboxReply) : Prop :=
  Inv (events ++ [(a, (state.settle slot result).2)]) (state.settle slot result).1

theorem inv_settle (hInv : Inv events state) (hPushes : Pushes inbox.issued inbox.written
      (setView (pushAt state.calls) slot (progress.next?.bind InboxCall.pushView)))
    (hDrains : Drains (drainedOf events ++ InboxReply.drainedEntries progress.reply?) inbox.written inbox.files
      (setView (drainAt state.calls) slot (progress.next?.bind InboxCall.drainView)))
    (hGrows : ∀ entry ∈ state.shared.written, entry ∈ inbox.written)
    (hAccepted : ∀ entry bytes, progress = .returned (.pushed entry bytes) → entry ∈ inbox.written) :
    Settles events state a slot (inbox, progress) := by
  rw [Settles, Clients.settle_eq]
  refine ⟨?_, ?_, ?_⟩
  · rw [pushAt_setCall]
    exact hPushes
  · rw [drainAt_setCall, drainedOf_append]
    exact hDrains
  · rintro entry ⟨action, bytes, hMem⟩
    rcases List.mem_append.mp hMem with hMem | hMem
    · exact hGrows entry (hInv.accepted entry ⟨action, bytes, hMem⟩)
    · obtain ⟨_, hReply⟩ := Prod.mk.inj (List.mem_singleton.mp hMem)
      cases progress with
      | waits call => cases hReply
      | returned reply =>
        cases hReply
        exact hAccepted entry bytes rfl

theorem inv_waits (hInv : Inv events state) {next : InboxCall}
    (hPushes : Pushes inbox.issued inbox.written (setView (pushAt state.calls) slot next.pushView))
    (hDrains : Drains (drainedOf events) inbox.written inbox.files (setView (drainAt state.calls) slot next.drainView))
    (hGrows : ∀ entry ∈ state.shared.written, entry ∈ inbox.written) :
    Settles events state a slot (inbox, .waits next) := by
  refine inv_settle hInv hPushes ?_ hGrows nofun
  rw [show InboxReply.drainedEntries (Progress.reply? (.waits next)) = [] from rfl, List.append_nil]
  exact hDrains

theorem inv_quiet (hInv : Inv events state) (hWritten : inbox.written = state.shared.written)
    (hContents : ∀ name, contents inbox.files name = contents state.shared.files name)
    (hStays : state.shared.files.read .draining ≠ none → inbox.files.read .draining ≠ none)
    (hBefore : drainAt state.calls slot = none) (hAfter : progress.next?.bind InboxCall.drainView = none)
    (hReply : InboxReply.drainedEntries progress.reply? = [])
    (hPushes : Pushes inbox.issued state.shared.written
      (setView (pushAt state.calls) slot (progress.next?.bind InboxCall.pushView)))
    (hAccepted : ∀ entry bytes, progress = .returned (.pushed entry bytes) → entry ∈ state.shared.written) :
    Settles events state a slot (inbox, progress) := by
  refine inv_settle hInv ?_ ?_ ?_ ?_
  · rw [hWritten]
    exact hPushes
  · have hDrains : Drains _ (state.shared.written ++ []) inbox.files (setView (drainAt state.calls) slot none) :=
      hInv.drains.push ((hContents .inbox).trans (List.append_nil _).symm) (hContents .draining) hStays hBefore
    rw [hReply, hAfter, hWritten, List.append_nil]
    rwa [List.append_nil] at hDrains
  · intro entry hMem
    rwa [hWritten]
  · rw [hWritten]
    exact hAccepted

theorem inv_idle (hInv : Inv events state) (issued : Nat) (hBefore : drainAt state.calls slot = none)
    (hAfter : progress.next?.bind InboxCall.drainView = none)
    (hReply : InboxReply.drainedEntries progress.reply? = [])
    (hPushes : Pushes issued state.shared.written
      (setView (pushAt state.calls) slot (progress.next?.bind InboxCall.pushView)))
    (hAccepted : ∀ entry bytes, progress = .returned (.pushed entry bytes) → entry ∈ state.shared.written) :
    Settles events state a slot ({ state.shared with issued := issued }, progress) :=
  inv_quiet hInv rfl (fun _ => rfl) id hBefore hAfter hReply hPushes hAccepted

theorem drainAt_of_free (h : state.calls slot = none) : drainAt state.calls slot = none := by
  rw [drainAt, h]
  rfl

theorem inv_renameInbox (hInv : Inv events state) (kind : InboxKind) (hNone : NoDrain state.calls) :
    Settles events state a slot (Inbox.renameInbox kind state.shared) := by
  have hPushes : Pushes state.shared.issued state.shared.written (setView (pushAt state.calls) slot none) :=
    hInv.pushes.keep (.inl rfl)
  cases hEntry : state.shared.files.entry .inbox with
  | none =>
    cases kind with
    | tool target =>
      simp only [Inbox.renameInbox, hEntry]
      exact inv_idle hInv state.shared.issued (hNone slot) rfl rfl hPushes nofun
    | agent =>
      simp only [Inbox.renameInbox, hEntry]
      refine inv_waits hInv hPushes ?_ fun _ hMem => hMem
      exact hInv.drains.start hNone (by exact rfl : Carries _ [] (some [])) (List.nil_append _)
  | some handle =>
    simp only [Inbox.renameInbox, hEntry]
    refine inv_waits hInv hPushes ?_ fun _ hMem => hMem
    have hRead := Files.read_rename hEntry InboxFile.draining
    have hInbox : contents (state.shared.files.rename .inbox .draining) .inbox = [] := by
      simp [contents, hRead]
    have hDraining : contents (state.shared.files.rename .inbox .draining) .draining =
        contents state.shared.files .inbox := by
      simp [contents, hRead]
    have hStays : (state.shared.files.rename .inbox .draining).read .draining ≠ none := by
      rw [hRead, if_pos rfl]
      intro hNo
      exact absurd (hEntry.symm.trans (Files.read_eq_none_iff.mp hNo)) (Option.some_ne_none handle)
    exact hInv.drains.start hNone (⟨hStays, hDraining⟩ : Carries _ _ none) (by rw [hInbox, List.append_nil])

theorem inv_begin (hInv : Inv events state) (kind : InboxKind) (size : InboxMessage → Nat) (registered : Bool)
    (hFree : state.calls slot = none) (hRename : kind ≠ .agent → op = .drain → NoDrain state.calls) :
    Settles events state a slot (Inbox.begin kind size registered op state.shared) := by
  have hBefore := drainAt_of_free hFree
  have hPushes : Pushes state.shared.issued state.shared.written (setView (pushAt state.calls) slot none) :=
    hInv.pushes.keep (.inl rfl)
  cases op with
  | push message =>
    cases hRefusal : Inbox.refusal kind message with
    | some error =>
      simp only [Inbox.begin, hRefusal]
      exact inv_idle hInv state.shared.issued hBefore rfl rfl hPushes nofun
    | none =>
      cases hEntry : state.shared.files.entry .inbox with
      | none =>
        simp only [Inbox.begin, hRefusal, hEntry]
        rcases Inbox.backpressure_cases size ⟨state.shared.issued, message⟩ 0 0 with hFull | hOpen
        · rw [hFull]
          exact inv_idle hInv _ hBefore rfl rfl hInv.pushes.skip nofun
        · rw [hOpen]
          exact inv_idle hInv _ hBefore rfl rfl (hInv.pushes.issue message) nofun
      | some handle =>
        simp only [Inbox.begin, hRefusal, hEntry]
        exact inv_idle hInv _ hBefore rfl rfl (hInv.pushes.issue message) nofun
  | drain =>
    cases kind with
    | tool target => exact inv_renameInbox hInv (.tool target) (hRename nofun rfl)
    | agent =>
      cases registered with
      | true | false => exact inv_idle hInv state.shared.issued hBefore rfl rfl hPushes nofun

theorem inv_resume {call : InboxCall} (hInv : Inv events state) (kind : InboxKind) (size : InboxMessage → Nat)
    (hCall : state.calls slot = some call)
    (hWrite : ∀ entry handle, call = .writing entry handle →
      state.shared.files.entry .inbox = some handle ∧ ¬ Unfinished (state.shared.files.content handle))
    (hRename : call = .moving → NoDrain state.calls) :
    Settles events state a slot (Inbox.resume kind size call state.shared) := by
  have hPushView : pushAt state.calls slot = call.pushView := by
    rw [pushAt, hCall]
    rfl
  have hDrainView : drainAt state.calls slot = call.drainView := by
    rw [drainAt, hCall]
    rfl
  have hOver : Pushes state.shared.issued state.shared.written (setView (pushAt state.calls) slot none) :=
    hInv.pushes.keep (.inl rfl)
  have hKeep : Pushes state.shared.issued state.shared.written (setView (pushAt state.calls) slot call.pushView) :=
    hInv.pushes.keep (.inr hPushView.symm)
  cases call with
  | measuring entry =>
    have hAdmit (count bytes : Nat) :
        Settles events state a slot (state.shared, Inbox.backpressure size entry count bytes) := by
      rcases Inbox.backpressure_cases size entry count bytes with hFull | hOpen
      · rw [hFull]
        exact inv_idle hInv state.shared.issued hDrainView rfl rfl hOver nofun
      · rw [hOpen]
        exact inv_idle hInv state.shared.issued hDrainView rfl rfl hKeep nofun
    cases hRead : state.shared.files.read .inbox with
    | some pieces =>
      simp only [Inbox.resume, hRead]
      exact hAdmit _ _
    | none =>
      cases kind with
      | tool target =>
        simp only [Inbox.resume, hRead]
        exact hAdmit 0 0
      | agent =>
        simp only [Inbox.resume, hRead]
        exact inv_idle hInv state.shared.issued hDrainView rfl rfl hOver nofun
  | opening entry =>
    refine inv_quiet hInv rfl (contents_openAppend _) ?_ hDrainView rfl rfl hKeep nofun
    simp only [Files.read_openAppend, reduceCtorEq, if_false]
    exact id
  | writing entry handle =>
    obtain ⟨hEntry, hFinished⟩ := hWrite entry handle rfl
    refine inv_waits hInv (hInv.pushes.write hPushView) ?_ fun _ hMem => List.mem_append_left _ hMem
    have hDraining : contents (state.shared.files.append handle (.line entry)) .draining =
        contents state.shared.files .draining := by
      rw [contents, read_append_draining hEntry, contents]
    exact hInv.drains.push (contents_append_line hEntry hFinished entry) hDraining
      (fun hStays => read_append_ne_none hStays handle _) hDrainView
  | ending entry handle =>
    exact inv_quiet hInv rfl (contents_append_lineEnd _ handle) (fun hStays => read_append_ne_none hStays handle _)
      hDrainView rfl rfl hKeep nofun
  | sizing entry =>
    cases hRead : state.shared.files.read .inbox with
    | none =>
      simp only [Inbox.resume, hRead]
      exact inv_idle hInv state.shared.issued hDrainView rfl rfl hOver nofun
    | some pieces =>
      simp only [Inbox.resume, hRead]
      refine inv_idle hInv state.shared.issued hDrainView rfl rfl hOver ?_
      rintro entry' bytes hPushed
      cases hPushed
      exact hInv.pushes.done hPushView
  | moving => exact inv_renameInbox hInv kind (hRename rfl)
  | reading =>
    cases hRead : state.shared.files.read .draining with
    | none =>
      obtain ⟨hand, _, _, hCarries⟩ := hInv.drains.carries hDrainView
      exact absurd hRead hCarries.1
    | some pieces =>
      simp only [Inbox.resume, hRead]
      refine inv_waits hInv hOver (hInv.drains.go hDrainView rfl ?_) fun _ hMem => hMem
      rintro hand ⟨_, rfl⟩
      simp [Carries, contents, hRead]
  | removing drained =>
    have hInbox : contents (state.shared.files.unlink .draining) .inbox = contents state.shared.files .inbox := by
      simp [contents, Files.read_unlink]
    cases kind with
    | tool target =>
      exact inv_settle hInv hOver (hInv.drains.finish hDrainView hInbox) (fun _ hMem => hMem) nofun
    | agent =>
      exact inv_waits hInv hOver (hInv.drains.go hDrainView hInbox fun _ hCarries => hCarries) fun _ hMem => hMem
  | recording drained =>
    exact inv_settle hInv hOver (hInv.drains.finish hDrainView rfl) (fun _ hMem => hMem) nofun

theorem inv_step {kind : InboxKind} (hInv : Inv events state) (hStep : Undisturbed kind state a) :
    Inv (events ++ [(a, (inboxMachine kind size).output state a)]) ((inboxMachine kind size).next state a) := by
  have hIdle : Inv (events ++ [(a, none)]) state := by
    refine ⟨hInv.pushes, ?_, ?_⟩
    · rw [drainedOf_append]
      exact (List.append_nil (drainedOf events)).symm ▸ hInv.drains
    · rintro entry ⟨action, bytes, hMem⟩
      rcases List.mem_append.mp hMem with hMem | hMem
      · exact hInv.accepted entry ⟨action, bytes, hMem⟩
      · cases (Prod.mk.inj (List.mem_singleton.mp hMem)).2
  obtain ⟨registered, move⟩ := a
  unfold Machine.output Machine.next inboxMachine
  cases move with
  | abandon slot => exact hStep.elim
  | call slot op =>
    cases hSlot : state.calls slot with
    | some call =>
      rw [Program.step_call_busy _ hSlot]
      exact hIdle
    | none =>
      rw [Program.step_call _ hSlot]
      refine inv_begin hInv kind size registered hSlot fun hKind hOp => ?_
      subst hOp
      exact hStep hKind hSlot
  | resume slot =>
    cases hSlot : state.calls slot with
    | none =>
      rw [Program.step_resume_free _ hSlot]
      exact hIdle
    | some call =>
      rw [Program.step_resume _ hSlot]
      simp only [Undisturbed, hSlot] at hStep
      refine inv_resume hInv kind size hSlot ?_ ?_
      · rintro entry handle rfl
        exact hStep
      · rintro rfl
        exact hStep

end Step

theorem inv_start : Inv [] (.start .empty) := by
  refine ⟨⟨nofun, List.nodup_nil, nofun, nofun, nofun, nofun⟩, ⟨[], rfl, .inl ⟨fun _ => rfl, rfl⟩⟩, ?_⟩
  rintro entry ⟨_, _, hMem⟩
  exact absurd hMem List.not_mem_nil

theorem inv_run {kind : InboxKind} (hRun : (inboxMachine kind size).Along (Undisturbed kind) (.start .empty) schedule) :
    Inv ((inboxMachine kind size).trace (.start .empty) schedule)
      ((inboxMachine kind size).final (.start .empty) schedule) :=
  Machine.invariant_trace (fun _ _ _ hInv hStep => inv_step size hInv hStep) inv_start hRun

theorem written_prefix_begin {inbox : Inbox} (registered : Bool) :
    (Inbox.begin kind size registered op inbox).1.written = inbox.written := by
  have hRename : (Inbox.renameInbox kind inbox).1.written = inbox.written := by
    unfold Inbox.renameInbox
    split
    · rfl
    · cases kind <;> rfl
  cases op with
  | push message =>
    simp only [Inbox.begin]
    split
    · rfl
    · split <;> rfl
  | drain =>
    cases kind with
    | tool target => exact hRename
    | agent => rfl

theorem written_prefix_resume {call : InboxCall} {inbox : Inbox} :
    inbox.written <+: (Inbox.resume kind size call inbox).1.written := by
  cases call with
  | writing entry handle => exact List.prefix_append _ _
  | measuring | sizing | reading =>
    simp only [Inbox.resume]
    split <;> exact List.prefix_rfl
  | moving =>
    simp only [Inbox.resume, Inbox.renameInbox]
    split
    · exact List.prefix_rfl
    · cases kind <;> exact List.prefix_rfl
  | opening | ending | removing | recording => exact List.prefix_rfl

theorem written_prefix {state : Clients Inbox InboxCall} :
    state.shared.written <+: ((inboxMachine kind size).final state schedule).shared.written := by
  refine Machine.relate (I := fun _ => True)
    (R := fun s t : Clients Inbox InboxCall => s.shared.written <+: t.shared.written)
    (fun _ => List.prefix_rfl) (fun _ _ _ => List.IsPrefix.trans) (fun _ _ _ => trivial) ?_ trivial schedule
  intro s a _
  have hStep := (inboxProgram kind size).steps s a
  unfold Machine.next inboxMachine
  generalize (inboxProgram kind size).machine.step s a = result at hStep
  cases hStep with
  | idle env move calls => exact List.prefix_rfl
  | begins env slot op hFree =>
    rw [Clients.settle_shared]
    exact (written_prefix_begin kind size env).symm ▸ List.prefix_rfl
  | resumes env slot call hCall =>
    rw [Clients.settle_shared]
    exact written_prefix_resume kind size

theorem not_sublist_of_prefix {α : Type*} {l l' : List α} {first second : α} (hPrefix : l <+: l') (hNodup : l'.Nodup)
    (hFirst : first ∈ l) (hSecond : second ∉ l) : ¬ [second, first].Sublist l' := by
  obtain ⟨rest, rfl⟩ := hPrefix
  intro hSub
  obtain ⟨l₁, l₂, hSplit, hLeft, hRight⟩ := List.sublist_append_iff.mp hSub
  cases l₁ with
  | nil =>
    have hMem : first ∈ rest := hRight.subset (by rw [← List.nil_append l₂, ← hSplit]; simp)
    exact (List.nodup_append.mp hNodup).2.2 first hFirst first hMem rfl
  | cons x l₁ =>
    obtain ⟨rfl, _⟩ := List.cons.inj hSplit
    exact hSecond (hLeft.subset List.mem_cons_self)

/-- If no call is cut off, lines are written at line starts of the inbox file and drains do not overlap, then
messages are delivered exactly once and in order. -/
theorem undisturbed_exactly_once (schedule : List (Bool × Move InboxOp))
    (hRun : (inboxMachine kind size).Along (Undisturbed kind) (.start .empty) schedule) :
    ExactlyOnce kind size schedule := by
  have hInv := inv_run size hRun
  have hNodup := hInv.pushes.written_nodup.of_map
  obtain ⟨hand, hWritten, hHand⟩ := hInv.drains
  have hPrefix : drainedOf ((inboxMachine kind size).trace (.start .empty) schedule) <+:
      ((inboxMachine kind size).final (.start .empty) schedule).shared.written := by
    rw [← hWritten, List.append_assoc]
    exact List.prefix_append _ _
  refine ⟨hNodup.sublist hPrefix.sublist, ?_, ?_⟩
  · intro hFinished entry hAccepted
    have hNil : hand = [] := by
      rcases hHand with ⟨_, hNil⟩ | ⟨slot, view, hView, _⟩
      · exact hNil
      · rw [drainAt, hFinished slot] at hView
        cases hView
    have hMem := hInv.accepted entry hAccepted
    rw [hNil, List.append_nil] at hWritten
    rw [← hWritten] at hMem hNodup
    constructor
    · intro hDrained hInbox
      exact (List.nodup_append.mp hNodup).2.2 entry hDrained entry hInbox rfl
    · intro hInbox
      exact (List.mem_append.mp hMem).resolve_right hInbox
  · rintro past future rfl first second hFirst hSecond hSub
    have hPast := inv_run size ((Machine.along_append _ _ _ _).mp hRun).1
    refine not_sublist_of_prefix ?_ hNodup (hPast.accepted first hFirst) ?_ (hSub.trans hPrefix.sublist)
    · rw [Machine.final_append]
      exact written_prefix kind size
    · intro hMem
      exact absurd (hPast.pushes.written_lt second hMem) (Nat.not_lt.mpr hSecond)

def note (content : String) : InboxMessage := ⟨"2026-01-01T00:00:00Z", "codex", content, none, none⟩

def toClaude : InboxKind := .tool .claude

def contentSize (message : InboxMessage) : Nat := message.content.utf8ByteSize

/-- The first push has opened the inbox when a drain takes it away and reads it; a second push makes a new inbox
before the first one goes on. -/
def overtaken : List (Bool × Move InboxOp) :=
  [.call 0 (.push (note "a")), .resume 0, .call 1 .drain, .resume 1, .call 2 (.push (note "b")), .resume 2, .resume 2,
    .resume 2, .resume 2, .resume 0, .resume 0, .resume 0, .resume 1].map fun move => (true, move)

/-- Both pushes succeed, but the first message is neither returned nor in the inbox. -/
theorem push_overtaken_by_drain_lost :
    ((inboxMachine toClaude contentSize).trace (.start .empty) overtaken).filterMap Prod.snd =
        [.pushed ⟨1, note "b"⟩ 2, .pushed ⟨0, note "a"⟩ 2, .drained []] ∧
      contents ((inboxMachine toClaude contentSize).final (.start .empty) overtaken).shared.files .inbox =
        [⟨1, note "b"⟩] ∧
      Finished ((inboxMachine toClaude contentSize).final (.start .empty) overtaken) := by
  refine ⟨by decide +kernel, by decide +kernel, ?_⟩
  intro slot
  rcases slot with _ | _ | _ | slot <;> rfl

/-- Two pushes overlap each other and a drain, which takes away the first message while the second push has not yet
opened a file; a second drain takes the other one. -/
def overlapping : List (Bool × Move InboxOp) :=
  [.call 0 (.push (note "a")), .resume 0, .call 2 (.push (note "b")), .resume 0, .resume 0, .call 1 .drain, .resume 2,
    .resume 2, .resume 0, .resume 1, .resume 2, .resume 2, .resume 1, .resume 2, .call 1 .drain, .resume 1,
    .resume 1].map fun move => (true, move)

theorem overlapping_exactly_once :
    ((inboxMachine toClaude contentSize).trace (.start .empty) overlapping).filterMap Prod.snd =
        [.pushed ⟨0, note "a"⟩ 0, .drained [⟨0, note "a"⟩], .pushed ⟨1, note "b"⟩ 2, .drained [⟨1, note "b"⟩]] ∧
      ExactlyOnce toClaude contentSize overlapping := by
  refine ⟨by decide +kernel, undisturbed_exactly_once toClaude contentSize overlapping
    ⟨trivial, trivial, trivial, ⟨rfl, ?_⟩, trivial, fun _ _ slot => ?_, trivial, trivial, trivial, trivial, ⟨rfl, ?_⟩,
      trivial, trivial, trivial, fun _ _ slot => ?_, trivial, trivial, trivial⟩⟩
  · rintro ⟨entry, hLast⟩
    cases hLast
  · rcases slot with _ | _ | _ | slot <;> rfl
  · rintro ⟨entry, hLast⟩
    cases hLast
  · rcases slot with _ | _ | _ | slot <;> rfl

end Mempal.Cowork
