import Mempal.Cowork.Registry

set_option autoImplicit false

/-! A handoff summary reads the end of the event log and keeps of it the events that match its filters. -/

namespace Mempal.Cowork

open Foundation

structure BusEvent where
  eventId : String
  occurredAt : String
  eventType : String
  status : String
  actorAgentId : Option String
  targetAgentIds : List String
  transport : Option String
  messagePreview : Option String
  details : String → Option String

structure TeamSession where
  sessionId : String
  channels : List String
  threadId : Option String
deriving DecidableEq

structure HandoffFilters where
  threadId : Option String
  channel : Option String
  sessionId : Option String
  limit : Option Nat
deriving DecidableEq

structure HandoffSummary where
  filters : HandoffFilters
  sessions : List TeamSession
  recentEvents : List BusEvent

section
variable {α : Type}

def last (limit : Nat) (l : List α) : List α := l.drop (l.length - limit)

variable {limit : Nat} {l : List α}

theorem length_last : (last limit l).length = min limit l.length := by
  simp only [last, List.length_drop]
  omega

theorem last_eq_self {limit : Nat} {l : List α} (h : l.length ≤ limit) : last limit l = l := by
  rw [last, Nat.sub_eq_zero_of_le h, List.drop_zero]

theorem last_append_iff {limit : Nat} {a b : List α} (h : b.length ≤ limit) :
    last limit (a ++ b) = b ↔ b.length = limit ∨ a = [] := by
  constructor
  · intro hEq
    have hLength := congrArg List.length hEq
    rw [length_last, List.length_append] at hLength
    rw [← List.length_eq_zero_iff]
    omega
  · rintro (rfl | rfl)
    · rw [last, List.length_append, Nat.add_sub_cancel, List.drop_left]
    · rw [List.nil_append, last_eq_self h]

theorem filter_last_iff {p : α → Bool} :
    (last limit l).filter p = last limit (l.filter p) ↔
      (∀ a ∈ last limit l, p a = true) ∨ ∀ a ∈ l.take (l.length - limit), p a = false := by
  have hSplit : l.filter p = (l.take (l.length - limit)).filter p ++ (last limit l).filter p := by
    rw [← List.filter_append, last, List.take_append_drop]
  have hShort := List.length_filter_le p (last limit l)
  have hAll : ((last limit l).filter p).length = (last limit l).length ↔ ∀ a ∈ last limit l, p a = true :=
    List.length_filter_eq_length_iff
  have hNone : (l.take (l.length - limit)).filter p = [] ↔ ∀ a ∈ l.take (l.length - limit), p a = false := by
    simp [List.filter_eq_nil_iff]
  rw [length_last] at hShort hAll
  rw [hSplit, eq_comm, last_append_iff (hShort.trans (Nat.min_le_left _ _)), ← hAll, hNone]
  by_cases hLong : limit ≤ l.length
  · rw [Nat.min_eq_left hLong]
  · -- a log that is shorter than the limit has nothing before its end
    rw [Nat.sub_eq_zero_of_le (Nat.le_of_not_le hLong)]
    simp

end

/-- `list_events`, with the events that the lines of the log hold. -/
def listEvents (limit : Option Nat) (log : List BusEvent) : List BusEvent :=
  match limit with
  | none => log
  | some limit => last limit log

def HandoffFilters.keepsSession (filters : HandoffFilters) (session : TeamSession) : Bool :=
  filters.sessionId.all (· = session.sessionId) && filters.threadId.all (some · = session.threadId) &&
    filters.channel.all (· ∈ session.channels)

def HandoffFilters.keepsEvent (filters : HandoffFilters) (sessions : List TeamSession) (event : BusEvent) : Bool :=
  (filters.threadId.all fun threadId =>
    event.details "thread_id" = some threadId || (event.details "session_id").any fun sessionId =>
      sessions.any fun session => session.sessionId = sessionId && session.threadId = some threadId) &&
    (filters.channel.all fun channel => event.details "channel" = some channel) &&
    filters.sessionId.all fun sessionId => event.details "session_id" = some sessionId

/-- The sessions and the events of `build_handoff_summary`. -/
def buildHandoffSummary (filters : HandoffFilters) (stored : List TeamSession) (log : List BusEvent) :
    Except BusError HandoffSummary := do
  filters.threadId.forM (validateToken .invalidThreadId)
  filters.channel.forM validateChannel
  filters.sessionId.forM (validateToken .invalidSessionId)
  let limit := filters.limit.getD 20
  let sessions := stored.filter filters.keepsSession
  let recentEvents := (listEvents (some limit) log).filter (filters.keepsEvent sessions)
  .ok ⟨{ filters with limit := some limit }, sessions, last limit recentEvents⟩

theorem buildHandoffSummary_ok {filters : HandoffFilters} {stored : List TeamSession} {log : List BusEvent}
    {summary : HandoffSummary} (h : buildHandoffSummary filters stored log = .ok summary) :
    summary.sessions = stored.filter filters.keepsSession ∧
      summary.recentEvents = (last (filters.limit.getD 20) log).filter (filters.keepsEvent summary.sessions) := by
  obtain ⟨_, _, h⟩ := bind_eq_ok_iff.mp h
  obtain ⟨_, _, h⟩ := bind_eq_ok_iff.mp h
  obtain ⟨_, _, h⟩ := bind_eq_ok_iff.mp h
  cases h
  refine ⟨rfl, last_eq_self ?_⟩
  have hShort := List.length_filter_le (filters.keepsEvent (stored.filter filters.keepsSession))
    (last (filters.limit.getD 20) log)
  rw [length_last] at hShort
  exact hShort.trans (Nat.min_le_left _ _)

/-- The summary has the last matching events exactly if the events at the end of the log, as many as the limit, all
match or no event before them does. -/
theorem recent_events_last_iff (filters : HandoffFilters) (stored : List TeamSession) (log : List BusEvent)
    (summary : HandoffSummary) (h : buildHandoffSummary filters stored log = .ok summary) :
    let limit := filters.limit.getD 20
    let kept := filters.keepsEvent (stored.filter filters.keepsSession)
    let matching := log.filter kept
    summary.recentEvents = matching.drop (matching.length - limit) ↔
      (∀ event ∈ log.drop (log.length - limit), kept event = true) ∨
        ∀ event ∈ log.take (log.length - limit), kept event = false := by
  intro limit kept matching
  obtain ⟨hSessions, hEvents⟩ := buildHandoffSummary_ok h
  rw [hEvents, hSessions]
  exact filter_last_iff

def channelEvent (eventId channel : String) : BusEvent :=
  ⟨eventId, "", "send", "delivered", none, [], none, none, fun key => if key = "channel" then some channel else none⟩

/-- With room for both, the other event does not matter. -/
theorem two_events_recent :
    let log := [channelEvent "e1" "a", channelEvent "e2" "b"]
    let matching := log.filter (HandoffFilters.keepsEvent ⟨none, some "a", none, some 2⟩ [])
    matching.drop (matching.length - 2) = matching :=
  (recent_events_last_iff ⟨none, some "a", none, some 2⟩ [] [channelEvent "e1" "a", channelEvent "e2" "b"]
    ⟨⟨none, some "a", none, some 2⟩, [], [channelEvent "e1" "a"]⟩ rfl).mpr (.inr (by decide)) |>.symm

/-- One event of another channel hides the only one of the channel asked for. -/
theorem later_event_hides_match :
    (buildHandoffSummary ⟨none, some "a", none, some 1⟩ [] [channelEvent "e1" "a", channelEvent "e2" "b"]).map
        (fun summary => summary.recentEvents.map (·.eventId)) = .ok [] ∧
      HandoffFilters.keepsEvent ⟨none, some "a", none, some 1⟩ [] (channelEvent "e1" "a") = true := by
  decide +kernel

end Mempal.Cowork
