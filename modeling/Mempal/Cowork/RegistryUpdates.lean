import Mempal.Cowork.Registry

set_option autoImplicit false

/-! As long as every replacement of the file is computed from what the file still holds, the entry of every agent is
what the saved changes for that agent make of it, one after the other. -/

namespace Mempal.Cowork

open Foundation

/-- The registry reflects every saved change, and every call that succeeded has saved its change. -/
structure Reflected (initial : AgentRegistry) (events : List ((BusEnv × Move RegistryOp) × Option RegistryReply))
    (bus : Bus) : Prop where
  agents : ∀ agentId, bus.registry.agents agentId =
    (bus.saved.filter fun change => change.agentId? = some agentId).foldl (fun existing change => change.entry existing)
      (initial.agents agentId)
  channels : ∀ channel, bus.registry.channels channel =
    (bus.saved.filter fun change => change.channel? = some channel).foldl
      (fun existing change => change.binding existing) (initial.channels channel)
  returned : ∀ a change record, (a, some (.done change record)) ∈ events → change ∈ bus.saved
  present : ∀ a request now record, (a, some (.done (.register request now) record)) ∈ events →
    (bus.registry.agents request.agentId).isSome

/-- A call that replaces the file has read what the file holds. -/
def Unraced (state : Clients Bus RegistryCall) : BusEnv × Move RegistryOp → Prop
  | (_, .resume slot) =>
    match state.calls slot with
    | some (.saving _ loaded _) => state.shared.registry = loaded
    | _ => True
  | _ => True

def applyAll (changes : List Change) (registry : AgentRegistry) : AgentRegistry :=
  changes.foldl (fun registry change => change.apply registry) registry

theorem applyAll_append {changes : List Change} {change : Change} {registry : AgentRegistry} :
    applyAll (changes ++ [change]) registry = change.apply (applyAll changes registry) := by
  rw [applyAll, List.foldl_append]
  rfl

variable (changes : List Change)

-- what a part of the registry becomes, if a change either updates it or does not concern it
theorem part_applyAll {α : Type} (part : AgentRegistry → α) {concerns : Change → Prop} [DecidablePred concerns]
    {update : α → Change → α} (registry : AgentRegistry)
    (h : ∀ change registry, part (Change.apply change registry) =
      if concerns change then update (part registry) change else part registry) :
    part (applyAll changes registry) = (changes.filter concerns).foldl update (part registry) := by
  induction changes generalizing registry with
  | nil => rfl
  | cons change changes ih =>
    refine (ih (change.apply registry)).trans ?_
    by_cases hFor : concerns change <;> simp [h, hFor]

variable {registry : AgentRegistry} {agentId : String} {progress : Progress RegistryCall RegistryReply}

theorem Change.apply_isSome (change : Change)
    (h : (registry.agents agentId).isSome) : ((change.apply registry).agents agentId).isSome := by
  unfold apply
  dsimp only
  split_ifs
  · cases change <;> simp [entry, h]
  · exact h

theorem applyAll_isSome (h : (registry.agents agentId).isSome) :
    ((applyAll changes registry).agents agentId).isSome := by
  induction changes generalizing registry with
  | nil => exact h
  | cons change changes ih => exact ih (change.apply_isSome h)

theorem applyAll_registered {changes : List Change} {request : RegisterAgentRequest} {now : String}
    (h : .register request now ∈ changes) (registry : AgentRegistry) :
    ((applyAll changes registry).agents request.agentId).isSome := by
  obtain ⟨before, after, rfl⟩ := List.append_of_mem h
  have hRegistered : ∀ registry : AgentRegistry,
      (((Change.register request now).apply registry).agents request.agentId).isSome := by
    intro registry
    simp [Change.apply, Change.agentId?, Change.entry]
  rw [applyAll, List.foldl_append]
  exact applyAll_isSome after (hRegistered _)

structure BusInv (initial : AgentRegistry) (events : List ((BusEnv × Move RegistryOp) × Option RegistryReply))
    (state : Clients Bus RegistryCall) : Prop where
  registry : state.shared.registry = applyAll state.shared.saved initial
  recording : ∀ slot change record, state.calls slot = some (.recording change record) → change ∈ state.shared.saved
  returned : ∀ a change record, (a, some (.done change record)) ∈ events → change ∈ state.shared.saved

def Quiet : Progress RegistryCall RegistryReply → Prop
  | .waits (.recording _ _) => False
  | .returned (.done _ _) => False
  | _ => True

namespace BusInv

variable {initial : AgentRegistry} {events : List ((BusEnv × Move RegistryOp) × Option RegistryReply)}
  {state : Clients Bus RegistryCall} {slot : Nat}

theorem start (initial : AgentRegistry) : BusInv initial [] (.start ⟨initial, []⟩) := by
  constructor
  · rfl
  · intro slot change record hCall
    exact absurd hCall.symm (Option.some_ne_none _)
  · intro a change record hDone
    exact absurd hDone List.not_mem_nil

section
variable (h : BusInv initial events state)
include h

theorem reflected : Reflected initial events state.shared := by
  constructor
  · intro agentId
    rw [h.registry]
    exact part_applyAll _ (·.agents agentId) initial fun _ _ => rfl
  · intro channel
    rw [h.registry]
    exact part_applyAll _ (·.channels channel) initial fun _ _ => rfl
  · exact h.returned
  · intro a request now record hDone
    rw [h.registry]
    exact applyAll_registered (h.returned a _ record hDone) initial

theorem idle {calls : Nat → Option RegistryCall} (a : BusEnv × Move RegistryOp)
    (hCalls : ∀ slot call, calls slot = some call → state.calls slot = some call) :
    BusInv initial (events ++ [(a, none)]) ⟨state.shared, calls⟩ := by
  constructor
  · exact h.registry
  · intro slot change record hCall
    exact h.recording slot change record (hCalls slot _ hCall)
  · intro b change record hDone
    rw [List.mem_append, List.mem_singleton, Prod.mk.injEq] at hDone
    exact h.returned b change record (hDone.resolve_right fun hNow => Option.some_ne_none _ hNow.2)

theorem settle {bus : Bus} (a : BusEnv × Move RegistryOp)
    (hRegistry : bus.registry = applyAll bus.saved initial) (hSaved : state.shared.saved ⊆ bus.saved)
    (hWaits : ∀ change record, progress = .waits (.recording change record) → change ∈ bus.saved)
    (hReturned : ∀ change record, progress = .returned (.done change record) → change ∈ bus.saved) :
    BusInv initial (events ++ [(a, (state.settle slot (bus, progress)).2)]) (state.settle slot (bus, progress)).1 := by
  rw [Clients.settle_eq]
  constructor
  · exact hRegistry
  · intro other change record hCall
    simp only [Clients.setCall] at hCall
    split_ifs at hCall
    · exact hWaits change record (Progress.next?_eq_some_iff.mp hCall)
    · exact hSaved (h.recording other change record hCall)
  · intro b change record hDone
    rw [List.mem_append, List.mem_singleton] at hDone
    obtain hPast | hNow := hDone
    · exact hSaved (h.returned b change record hPast)
    · exact hReturned change record (Progress.reply?_eq_some_iff.mp (Prod.mk.inj hNow).2.symm)

theorem settle_quiet (a : BusEnv × Move RegistryOp) (hQuiet : Quiet progress) :
    BusInv initial (events ++ [(a, (state.settle slot (state.shared, progress)).2)])
      (state.settle slot (state.shared, progress)).1 := by
  apply h.settle a h.registry (List.Subset.refl _)
  · rintro change record rfl
    exact hQuiet.elim
  · rintro change record rfl
    exact hQuiet.elim

theorem begin (env : BusEnv) (op : RegistryOp) (a : BusEnv × Move RegistryOp) :
    BusInv initial (events ++ [(a, (state.settle slot (Bus.begin env op state.shared)).2)])
      (state.settle slot (Bus.begin env op state.shared)).1 := by
  unfold Bus.begin
  split
  · exact h.settle_quiet a trivial
  · split_ifs
    · exact h.settle_quiet a trivial
    · split
      · exact h.settle_quiet a trivial
      · exact h.settle_quiet a trivial

theorem resume (env : BusEnv) (a : BusEnv × Move RegistryOp) {call : RegistryCall}
    (hCall : state.calls slot = some call)
    (hUnraced : ∀ change loaded record, call = .saving change loaded record → state.shared.registry = loaded) :
    BusInv initial (events ++ [(a, (state.settle slot (Bus.resume env call state.shared)).2)])
      (state.settle slot (Bus.resume env call state.shared)).1 := by
  cases call with
  | saving change loaded record =>
    have hLoaded := hUnraced change loaded record rfl
    simp only [Bus.resume]
    split_ifs
    · apply h.settle a
      · rw [applyAll_append, ← h.registry, hLoaded]
      · exact List.subset_append_left _ _
      · intro other otherRecord hProgress
        cases hProgress
        exact List.mem_append_right _ List.mem_cons_self
      · nofun
    · exact h.settle_quiet a trivial
  | recording change record =>
    simp only [Bus.resume]
    split_ifs
    · apply h.settle a h.registry (List.Subset.refl _)
      · nofun
      · intro other otherRecord hProgress
        cases hProgress
        exact h.recording slot change record hCall
    · exact h.settle_quiet a trivial

theorem step (a : BusEnv × Move RegistryOp) (hUnraced : Unraced state a) :
    BusInv initial (events ++ [(a, busMachine.output state a)]) (busMachine.next state a) := by
  have hStep := busProgram.steps state a
  unfold Machine.output Machine.next busMachine
  generalize busProgram.machine.step state a = result at hStep
  cases hStep with
  | idle env move calls hCalls => exact h.idle _ hCalls
  | begins env slot op hFree => exact h.begin env op _
  | resumes env slot call hCall =>
    apply h.resume env _ hCall
    rintro change loaded record rfl
    simpa only [Unraced, hCall] using hUnraced

end

end BusInv

/-- In a run in which every replacement of the file is computed from what the file holds, the registry reflects every
update in every state. -/
theorem unraced_updates_reflected (initial : AgentRegistry) (schedule : List (BusEnv × Move RegistryOp))
    (hRun : busMachine.Along Unraced (.start ⟨initial, []⟩) schedule) :
    Reflected initial (busMachine.trace (.start ⟨initial, []⟩) schedule)
      (busMachine.final (.start ⟨initial, []⟩) schedule).shared :=
  (Machine.invariant_trace (fun _ _ a h hUnraced => h.step a hUnraced) (BusInv.start initial) hRun).reflected

def asInbox (agentId : String) : RegistryOp := .register ⟨agentId, "codex", "inbox", none⟩

def atNoon : BusEnv := ⟨"2026-01-01T12:00:00Z", true⟩

/-- Both calls read the registry before either replaces it. -/
def crossed : List (BusEnv × Move RegistryOp) :=
  [.call 0 (asInbox "alice"), .call 1 (asInbox "bob"), .resume 0, .resume 0, .resume 1, .resume 1].map (atNoon, ·)

def consecutive : List (BusEnv × Move RegistryOp) :=
  [.call 0 (asInbox "alice"), .resume 0, .resume 0, .call 1 (asInbox "bob"), .resume 1, .resume 1].map (atNoon, ·)

theorem consecutive_reflected : Reflected .empty (busMachine.trace (.start ⟨.empty, []⟩) consecutive)
    (busMachine.final (.start ⟨.empty, []⟩) consecutive).shared :=
  unraced_updates_reflected .empty consecutive
    ⟨trivial, rfl, trivial, trivial, rfl, trivial, trivial⟩

/-- Both registrations succeed, but the first agent is not in the registry. -/
theorem crossed_registration_lost :
    (busMachine.trace (.start ⟨.empty, []⟩) crossed).filterMap Prod.snd =
        ["alice", "bob"].map (fun agentId =>
          .done (.register ⟨agentId, "codex", "inbox", none⟩ atNoon.now)
            (.agent ⟨agentId, "codex", "inbox", none, atNoon.now, atNoon.now, some atNoon.now⟩)) ∧
      (busMachine.final (.start ⟨.empty, []⟩) crossed).shared.registry.agents "alice" = none ∧
      ∀ slot, (busMachine.final (.start ⟨.empty, []⟩) crossed).calls slot = none := by
  refine ⟨by decide +kernel, by decide +kernel, ?_⟩
  intro slot
  rcases slot with _ | _ | slot <;> rfl

end Mempal.Cowork
