import Mempal.Foundation.Fallible
import Mempal.Timestamps
import Mempal.Cowork.Project

set_option autoImplicit false

/-! One file holds the agents and the channels of a project. Every update reads the file, makes its change and replaces
the whole file, then appends to the event log. -/

namespace Mempal.Cowork

open Foundation

structure AgentRecord where
  agentId : String
  tool : String
  transport : String
  tmuxTarget : Option String
  registeredAt : String
  updatedAt : String
  lastSeenAt : Option String
deriving DecidableEq

structure ChannelRecord where
  channel : String
  agents : List String
  updatedAt : String
deriving DecidableEq

structure AgentRegistry where
  agents : String → Option AgentRecord
  channels : String → Option ChannelRecord

structure RegisterAgentRequest where
  agentId : String
  tool : String
  transport : String
  tmuxTarget : Option String
deriving DecidableEq

inductive BusError where
  | invalidAgentId (agentId : String)
  | invalidTool (tool : String)
  | unsupportedTransport (transport : String)
  | invalidChannel (channel : String)
  | invalidThreadId (threadId : String)
  | invalidSessionId (sessionId : String)
  | emptyChannel (channel : String)
  | tmuxTargetRequired
  | invalidTimestamp (text : String)
  | unknownAgent (agentId : String)
  | io
deriving DecidableEq

def AgentRegistry.empty : AgentRegistry := ⟨fun _ => none, fun _ => none⟩

def validateToken (error : String → BusError) (value : String) : Except BusError Unit :=
  if isSafeBusToken value then .ok () else .error (error value)

def validateAgentId : String → Except BusError Unit := validateToken .invalidAgentId

def validateTool : String → Except BusError Unit := validateToken .invalidTool

def validateChannel : String → Except BusError Unit := validateToken .invalidChannel

/-- `seen` has the targets so far, in reverse order. -/
def dedupFrom (seen : List String) : List String → Except BusError (List String)
  | [] => .ok seen.reverse
  | target :: targets => do
    validateAgentId target
    dedupFrom (if target ∈ seen then seen else target :: seen) targets

def dedupTargets : List String → Except BusError (List String) := dedupFrom []

inductive RegistryOp where
  | register (request : RegisterAgentRequest)
  | heartbeat (agentId : String) (seenAt : Option String)
  | setChannel (channel : String) (agents : List String)
deriving DecidableEq

/-- What a call that passes its checks does to the registry. -/
inductive Change where
  | register (request : RegisterAgentRequest) (now : String)
  | heartbeat (agentId seenAt : String)
  | bind (record : ChannelRecord)
deriving DecidableEq

def prepare (now : String) : RegistryOp → Except BusError Change
  | .register request => do
    validateAgentId request.agentId
    validateTool request.tool
    if request.transport ≠ "inbox" ∧ request.transport ≠ "tmux" then
      .error (.unsupportedTransport request.transport)
    else if request.transport = "tmux" ∧ Text.isBlank (request.tmuxTarget.getD "") then .error .tmuxTargetRequired
    else .ok (.register request now)
  | .heartbeat agentId seenAt => do
    validateAgentId agentId
    match seenAt with
    | none => .ok (.heartbeat agentId now)
    | some seenAt =>
      if (parseRfc3339 seenAt).isNone then .error (.invalidTimestamp seenAt) else .ok (.heartbeat agentId seenAt)
  | .setChannel channel agents => do
    validateChannel channel
    let agents ← dedupTargets agents
    if agents.isEmpty then .error (.emptyChannel channel) else .ok (.bind ⟨channel, agents, now⟩)

inductive SavedRecord where
  | agent (record : AgentRecord)
  | channel (record : ChannelRecord)
deriving DecidableEq

namespace Change

def agentId? : Change → Option String
  | register request _ => some request.agentId
  | heartbeat agentId _ => some agentId
  | bind _ => none

def channel? : Change → Option String
  | bind record => some record.channel
  | _ => none

def registered (request : RegisterAgentRequest) (now : String) (existing : Option AgentRecord) : AgentRecord where
  agentId := request.agentId
  tool := request.tool
  transport := request.transport
  tmuxTarget := request.tmuxTarget
  registeredAt := (existing.map AgentRecord.registeredAt).getD now
  updatedAt := now
  lastSeenAt := some now

def seen (seenAt : String) (record : AgentRecord) : AgentRecord :=
  { record with lastSeenAt := some seenAt, updatedAt := seenAt }

/-- What the entry of the agent becomes. -/
def entry : Change → Option AgentRecord → Option AgentRecord
  | register request now, existing => some (registered request now existing)
  | heartbeat _ seenAt, existing => existing.map (seen seenAt)
  | bind _, existing => existing

def binding : Change → Option ChannelRecord → Option ChannelRecord
  | bind record, _ => some record
  | _, existing => existing

def apply (change : Change) (registry : AgentRegistry) : AgentRegistry where
  agents := fun agentId =>
    if change.agentId? = some agentId then change.entry (registry.agents agentId) else registry.agents agentId
  channels := fun channel =>
    if change.channel? = some channel then change.binding (registry.channels channel) else registry.channels channel

def outcome (registry : AgentRegistry) : Change → Except BusError SavedRecord
  | register request now => .ok (.agent (registered request now (registry.agents request.agentId)))
  | heartbeat agentId seenAt =>
    match registry.agents agentId with
    | none => .error (.unknownAgent agentId)
    | some existing => .ok (.agent (seen seenAt existing))
  | bind record =>
    match record.agents.find? fun agentId => (registry.agents agentId).isNone with
    | some agentId => .error (.unknownAgent agentId)
    | none => .ok (.channel record)

end Change

/-- What a step meets: the clock, and whether the file system does its work. -/
structure BusEnv where
  now : String
  works : Bool
deriving DecidableEq

structure Bus where
  registry : AgentRegistry
  /-- The changes whose replacement of the file has been done, in that order. -/
  saved : List Change

inductive RegistryCall where
  | saving (change : Change) (loaded : AgentRegistry) (record : SavedRecord)
  | recording (change : Change) (record : SavedRecord)

inductive RegistryReply where
  | done (change : Change) (record : SavedRecord)
  | failed (error : BusError)
deriving DecidableEq

namespace Bus

def begin (env : BusEnv) (op : RegistryOp) (bus : Bus) : Bus × Progress RegistryCall RegistryReply :=
  (bus,
    match prepare env.now op with
    | .error error => .returned (.failed error)
    | .ok change =>
      if !env.works then .returned (.failed .io)
      else
        match change.outcome bus.registry with
        | .error error => .returned (.failed error)
        | .ok record => .waits (.saving change bus.registry record))

def resume (env : BusEnv) (call : RegistryCall) (bus : Bus) : Bus × Progress RegistryCall RegistryReply :=
  match call with
  | .saving change loaded record =>
    if env.works then (⟨change.apply loaded, bus.saved ++ [change]⟩, .waits (.recording change record))
    else (bus, .returned (.failed .io))
  | .recording change record => (bus, .returned (if env.works then .done change record else .failed .io))

end Bus

def busProgram : Program Bus BusEnv RegistryOp RegistryCall RegistryReply := ⟨Bus.begin, Bus.resume⟩

def busMachine : Machine (Clients Bus RegistryCall) (BusEnv × Move RegistryOp) (Option RegistryReply) :=
  busProgram.machine

end Mempal.Cowork
