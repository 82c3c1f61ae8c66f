import Mathlib.Data.List.Forall2
import Mempal.Foundation.Located
import Mempal.Foundation.Text
import Mempal.Cowork.Inbox

set_option autoImplicit false

/-! A working directory belongs to the closest ancestor with a `.git`, or is a project of its own. -/

namespace Mempal.Cowork

open Foundation

def isSkipped (name : List Char) : Bool := name == [] || name == ['.']

def parents : List (List Char) → List (List (List Char))
  | [] => []
  | name :: names => if isSkipped name then parents names else names.dropWhile isSkipped :: parents names

def joinNames (reversed : List (List Char)) : List Char := ['/'].intercalate reversed.reverse

/-- The path, then `Path::parent` over and over. -/
def ancestors (path : String) : List String :=
  match path.toList with
  | '/' :: rest => path :: (parents (rest.splitOn '/').reverse).map fun names => String.ofList ('/' :: joinNames names)
  | chars => path :: (parents (chars.splitOn '/').reverse).map fun names => String.ofList (joinNames names)

inductive CoworkError where
  | invalidCwd (path : String)
  | invalidAgentId (agentId : String)
deriving DecidableEq

def isAbsolute (path : String) : Bool := path.toList.head? == some '/'

def dash (c : Char) : Char := if c = '/' then '-' else c

def encodeProjectIdentity (identity : String) : Except CoworkError String :=
  if !isAbsolute identity || Text.hasText identity ".." then .error (.invalidCwd identity)
  else .ok (String.ofList (identity.toList.map dash))

def isSafeBusToken (value : String) : Bool :=
  value ≠ "" && value.utf8ByteSize ≤ 64 &&
    value.toList.all fun c => c.isAlphanum || c == '_' || c == '-' || c == '.'

/-- The names below `~/.mempal`. -/
abbrev Location := List String

inductive Box where
  | tool (target : Tool)
  | agent (agentId : String)
deriving DecidableEq

namespace Box

def kind : Box → InboxKind
  | tool target => .tool target
  | agent _ => .agent

def path (encoded : String) : Box → Location
  | tool target => ["cowork-inbox", target.dirName, encoded ++ ".jsonl"]
  | agent agentId => ["cowork-bus", encoded, "inbox", agentId ++ ".jsonl"]

end Box

section Paths

variable (isGitRoot : String → Bool)

def projectIdentity (cwd : String) : String := ((ancestors cwd).find? isGitRoot).getD cwd

def inboxPath (target : Tool) (cwd : String) : Except CoworkError Location := do
  let _ ← encodeProjectIdentity cwd
  let encoded ← encodeProjectIdentity (projectIdentity isGitRoot cwd)
  .ok ((Box.tool target).path encoded)

def projectBusDir (cwd : String) : Except CoworkError Location := do
  let encoded ← encodeProjectIdentity (projectIdentity isGitRoot cwd)
  .ok ["cowork-bus", encoded]

def agentInboxPath (cwd agentId : String) : Except CoworkError Location := do
  if !isSafeBusToken agentId then .error (.invalidAgentId agentId)
  else
    let dir ← projectBusDir isGitRoot cwd
    .ok (dir ++ ["inbox", agentId ++ ".jsonl"])

def Box.location (cwd : String) : Box → Except CoworkError Location
  | .tool target => inboxPath isGitRoot target cwd
  | .agent agentId => agentInboxPath isGitRoot cwd agentId

variable (size : InboxMessage → Nat)

def wholeCall (registered : Bool) (op : InboxOp) : List (Bool × Move InboxOp) :=
  (registered, .call 0 op) :: List.replicate 5 (registered, .resume 0)

structure ProjectOp where
  cwd : String
  box : Box
  op : InboxOp
  registered : Bool
deriving DecidableEq

def ProjectOp.run (call : ProjectOp) (inbox : Inbox) : Inbox × Option InboxReply :=
  let schedule := wholeCall call.registered call.op
  (((inboxMachine call.box.kind size).final (.start inbox) schedule).shared,
    (((inboxMachine call.box.kind size).trace (.start inbox) schedule).filterMap Prod.snd).head?)

def mailboxes : Located Location Inbox ProjectOp (Option InboxReply) where
  locate := fun call => (call.box.location isGitRoot call.cwd).toOption
  act := fun call => call.run size

end Paths

end Mempal.Cowork
