import Mathlib.Algebra.Order.Ring.Nat
import Mempal.Foundation.Clients
import Mempal.Foundation.Files

set_option autoImplicit false

/-! A push appends one line of JSON to the inbox file, a drain moves the file away, reads it and deletes it. Every call
of the file system is a step of its own. -/

namespace Mempal.Cowork

open Foundation

inductive Tool where
  | claude
  | codex
  | auto
deriving DecidableEq

def Tool.dirName : Tool → String
  | claude => "claude"
  | codex => "codex"
  | auto => "auto"

structure InboxMessage where
  pushedAt : String
  /-- The field `from`. -/
  source : String
  content : String
  threadId : Option String
  channel : Option String
deriving DecidableEq

def maxMessageSize : Nat := 8 * 1024

def maxPendingMessages : Nat := 16

def maxTotalInboxBytes : Nat := 32 * 1024

structure Entry where
  tag : Nat
  message : InboxMessage
deriving DecidableEq

inductive Piece where
  | line (entry : Entry)
  | lineEnd
deriving DecidableEq

/-- The lines of a file; `current` has been read of the first one. -/
def linesFrom (current : List Entry) : List Piece → List (List Entry)
  | [] => if current = [] then [] else [current]
  | .line entry :: pieces => linesFrom (current ++ [entry]) pieces
  | .lineEnd :: pieces => current :: linesFrom [] pieces

def parseLine : List Entry → Option Entry
  | [entry] => some entry
  | _ => none

def messages (pieces : List Piece) : List Entry := (linesFrom [] pieces).filterMap parseLine

def lineCount (pieces : List Piece) : Nat := (linesFrom [] pieces).countP (· ≠ [])

def Unfinished (pieces : List Piece) : Prop := ∃ entry, pieces.getLast? = some (.line entry)

inductive InboxFile where
  | inbox
  | draining
deriving DecidableEq

inductive InboxKind where
  | tool (target : Tool)
  | agent
deriving DecidableEq

inductive InboxError where
  | selfPush
  | messageTooLarge (bytes : Nat)
  | inboxFull (count bytes : Nat)
  | unknownAgent
  | io
deriving DecidableEq

structure Inbox where
  files : Files InboxFile Piece
  /-- The number of pushes begun. -/
  issued : Nat
  /-- The messages whose line has been written, in that order. -/
  written : List Entry

inductive InboxOp where
  | push (message : InboxMessage)
  | drain
deriving DecidableEq

inductive InboxCall where
  | measuring (entry : Entry)
  | opening (entry : Entry)
  | writing (entry : Entry) (handle : Nat)
  | ending (entry : Entry) (handle : Nat)
  | sizing (entry : Entry)
  | moving
  | reading
  | removing (drained : List Entry)
  | recording (drained : List Entry)
deriving DecidableEq

inductive InboxReply where
  | pushed (entry : Entry) (bytes : Nat)
  | drained (entries : List Entry)
  | failed (error : InboxError)
deriving DecidableEq

namespace Inbox

def empty : Inbox := ⟨.empty, 0, []⟩

section Steps

variable (kind : InboxKind) (size : InboxMessage → Nat)

def pieceSize : Piece → Nat
  | .line entry => size entry.message
  | .lineEnd => 1

def byteSize (pieces : List Piece) : Nat := (pieces.map (pieceSize size)).sum

def refusal (message : InboxMessage) : Option InboxError :=
  match kind with
  | .agent => none
  | .tool target =>
    if message.source = target.dirName then some .selfPush
    else if maxMessageSize < message.content.utf8ByteSize then some (.messageTooLarge message.content.utf8ByteSize)
    else none

def backpressure (entry : Entry) (count bytes : Nat) : Progress InboxCall InboxReply :=
  if maxPendingMessages < count + 1 ∨ maxTotalInboxBytes < bytes + (size entry.message + 1) then
    .returned (.failed (.inboxFull count bytes))
  else .waits (.opening entry)

def renameInbox (inbox : Inbox) : Inbox × Progress InboxCall InboxReply :=
  match inbox.files.entry .inbox with
  | some _ => ({ inbox with files := inbox.files.rename .inbox .draining }, .waits .reading)
  | none =>
    match kind with
    | .tool _ => (inbox, .returned (.drained []))
    | .agent => (inbox, .waits (.recording []))

/-- `registered` is what the registry says about the agent when it is read. -/
def begin (registered : Bool) : InboxOp → Inbox → Inbox × Progress InboxCall InboxReply
  | .push message, inbox =>
    match refusal kind message with
    | some error => (inbox, .returned (.failed error))
    | none =>
      let entry : Entry := ⟨inbox.issued, message⟩
      let inbox := { inbox with issued := inbox.issued + 1 }
      match inbox.files.entry .inbox with
      | none => (inbox, backpressure size entry 0 0)
      | some _ => (inbox, .waits (.measuring entry))
  | .drain, inbox =>
    match kind with
    | .tool _ => renameInbox kind inbox
    | .agent => (inbox, if registered then .waits .moving else .returned (.failed .unknownAgent))

def resume (call : InboxCall) (inbox : Inbox) : Inbox × Progress InboxCall InboxReply :=
  match call with
  | .measuring entry =>
    match inbox.files.read .inbox, kind with
    | some pieces, _ => (inbox, backpressure size entry (lineCount pieces) (byteSize size pieces))
    | none, .tool _ => (inbox, backpressure size entry 0 0)
    | none, .agent => (inbox, .returned (.failed .io))
  | .opening entry =>
    let opened := inbox.files.openAppend .inbox
    ({ inbox with files := opened.1 }, .waits (.writing entry opened.2))
  | .writing entry handle =>
    ({ inbox with
        files := inbox.files.append handle (.line entry)
        written := inbox.written ++ [entry] }, .waits (.ending entry handle))
  | .ending entry handle =>
    ({ inbox with files := inbox.files.append handle .lineEnd }, .waits (.sizing entry))
  | .sizing entry =>
    match inbox.files.read .inbox with
    | none => (inbox, .returned (.failed .io))
    | some pieces => (inbox, .returned (.pushed entry (byteSize size pieces)))
  | .moving => renameInbox kind inbox
  | .reading =>
    match inbox.files.read .draining with
    | none => (inbox, .returned (.failed .io))
    | some pieces => (inbox, .waits (.removing (messages pieces)))
  | .removing drained =>
    ({ inbox with files := inbox.files.unlink .draining },
      match kind with
      | .tool _ => .returned (.drained drained)
      | .agent => .waits (.recording drained))
  | .recording drained => (inbox, .returned (.drained drained))

end Steps

end Inbox

def inboxProgram (kind : InboxKind) (size : InboxMessage → Nat) :
    Program Inbox Bool InboxOp InboxCall InboxReply where
  begin := Inbox.begin kind size
  resume := fun _ => Inbox.resume kind size

def inboxMachine (kind : InboxKind) (size : InboxMessage → Nat) :
    Machine (Clients Inbox InboxCall) (Bool × Move InboxOp) (Option InboxReply) :=
  (inboxProgram kind size).machine

theorem Inbox.backpressure_cases (size : InboxMessage → Nat) (entry : Entry) (count bytes : Nat) :
    Inbox.backpressure size entry count bytes = .returned (.failed (.inboxFull count bytes)) ∨
      Inbox.backpressure size entry count bytes = .waits (.opening entry) := by
  unfold Inbox.backpressure
  split_ifs
  · exact .inl rfl
  · exact .inr rfl

theorem filterMap_linesFrom_append_lineEnd (pieces : List Piece) (current : List Entry) :
    (linesFrom current (pieces ++ [.lineEnd])).filterMap parseLine = (linesFrom current pieces).filterMap parseLine := by
  induction pieces generalizing current with
  | nil => cases current <;> rfl
  | cons piece pieces ih =>
    cases piece with
    | line entry => exact ih (current ++ [entry])
    | lineEnd =>
      have hRest := ih []
      simp only [List.cons_append, linesFrom, List.filterMap_cons, hRest]

theorem messages_append_lineEnd (pieces : List Piece) : messages (pieces ++ [.lineEnd]) = messages pieces :=
  filterMap_linesFrom_append_lineEnd pieces []

theorem messages_append_line {pieces : List Piece} (hFinished : ¬ Unfinished pieces) (entry : Entry) :
    messages (pieces ++ [.line entry]) = messages pieces ++ [entry] := by
  have hFrom : ∀ current, (pieces = [] → current = []) →
      (linesFrom current (pieces ++ [.line entry])).filterMap parseLine =
        (linesFrom current pieces).filterMap parseLine ++ [entry] := by
    induction pieces with
    | nil =>
      intro current hStart
      rw [hStart rfl]
      rfl
    | cons piece pieces ih =>
      intro current _
      have hRest : ¬ Unfinished pieces := by
        rintro ⟨last, hLast⟩
        refine hFinished ⟨last, ?_⟩
        rw [List.getLast?_cons, hLast]
        rfl
      cases piece with
      | line first =>
        refine ih hRest (current ++ [first]) fun hNil => ?_
        subst hNil
        exact absurd ⟨first, rfl⟩ hFinished
      | lineEnd =>
        simp only [List.cons_append, linesFrom, List.filterMap_cons, ih hRest [] fun _ => rfl]
        cases parseLine current <;> rfl
  exact hFrom [] fun _ => rfl

end Mempal.Cowork
