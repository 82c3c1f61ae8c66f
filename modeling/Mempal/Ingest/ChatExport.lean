import Mempal.Foundation.DepthFirst
import Mempal.Foundation.Json
import Mempal.Foundation.Text

set_option autoImplicit false

/-! `normalize_chatgpt_json` of `ingest/normalize.rs`. An export keeps its messages in a mapping from ids to nodes, and
`collect_messages_dfs` calls itself on every child id without recording where it has been. -/

namespace Mempal.Ingest

open Foundation Foundation.DepthFirst

inductive NormalizeError where
  | unsupportedChatGptShape
deriving DecidableEq

abbrev Message := String × String

abbrev Mapping := List (String × Json)

def joinTexts (items : List Json) : String := "\n".intercalate (items.filterMap Json.asStr)

def extractContentText : Json → Option String
  | .string text => some text
  | .array items => some (joinTexts items)
  | .object entries => (((entries.lookup "parts").bind Json.asArray).map joinTexts).filter (· ≠ "")
  | _ => none

def renderTranscript (items : List Message) : String :=
  "\n".intercalate <| items.filterMap fun (role, content) =>
    if Text.isBlank content then none
    else if role = "user" ∨ role = "human" then some ("> " ++ Text.trim content)
    else some (Text.trim content)

def normalizeChatgptMessages (messages : List Json) : String :=
  renderTranscript <| messages.filterMap fun message =>
    ((message.get "role").bind Json.asStr).bind fun role =>
      ((message.get "content").bind extractContentText).map (role, ·)

def isRoot (node : Json) : Bool :=
  match node.get "parent" with
  | none => true
  | some parent => parent.isNull || parent.asStr = some ""

def findRootNode (mapping : Mapping) : Option String :=
  (mapping.find? fun entry => isRoot entry.2).map Prod.fst

def nodeMessage (node : Json) : Option Message :=
  (node.get "message").bind fun message =>
    let role := ((message.get "author").bind (Json.get "role")).bind Json.asStr
    let content := (message.get "content").bind extractContentText
    role.bind fun role => content.map (role, ·)

def childIds (node : Json) : List String :=
  (((node.get "children").bind Json.asArray).getD []).filterMap Json.asStr

/-- `none` stands for a call that has not returned after `fuel` nested calls. -/
def collectMessagesDfs (mapping : Mapping) : Nat → String → List Message → Option (List Message)
  | 0, _, _ => none
  | fuel + 1, nodeId, result =>
    match mapping.lookup nodeId with
    | none => some result
    | some node =>
      (childIds node).foldlM (fun result child => collectMessagesDfs mapping fuel child result)
        (result ++ (nodeMessage node).toList)

def normalizeChatgptJson (fuel : Nat) (value : Json) : Option (Except NormalizeError String) :=
  match value.asArray with
  | some messages => some (.ok (normalizeChatgptMessages messages))
  | none =>
    match (value.get "messages").bind Json.asArray with
    | some messages => some (.ok (normalizeChatgptMessages messages))
    | none =>
      match (value.get "mapping").bind Json.asObject with
      | none => some (.error .unsupportedChatGptShape)
      | some mapping =>
        match findRootNode mapping with
        | none => some (.ok (renderTranscript []))
        | some root => (collectMessagesDfs mapping fuel root []).map fun ordered => .ok (renderTranscript ordered)

variable {fuel : Nat} {ordered : List Message}

section Graph

variable (mapping : Mapping)

def message (id : String) : Option Message := (mapping.lookup id).bind nodeMessage

def children (id : String) : List String := ((mapping.lookup id).map childIds).getD []

def visited (fuel : Nat) (root : String) : Option (List String) :=
  (walk (children mapping) fuel root).map (List.map Prod.snd)

def messagesOf (ids : List String) : List Message := ids.filterMap (message mapping)

variable {mapping}

theorem foldlM_collect {ids : List String}
    (hCollect : ∀ id result, collectMessagesDfs mapping fuel id result =
      (walk (children mapping) fuel id).map fun met => result ++ messagesOf mapping (met.map Prod.snd)) (i : Nat)
    (result : List Message) :
    ids.foldlM (fun result child => collectMessagesDfs mapping fuel child result) result =
      (walkAll (walk (children mapping) fuel) i ids).map
        fun met => result ++ messagesOf mapping (met.map Prod.snd) := by
  induction ids generalizing i result with
  | nil => simp [walkAll, messagesOf]
  | cons id ids ih =>
    rw [List.foldlM_cons, hCollect]
    cases hHere : walk (children mapping) fuel id with
    | none => simp [walkAll, hHere]
    | some here =>
      simp only [Option.map_some, Option.bind_eq_bind, Option.bind_some, ih (i + 1), walkAll, hHere,
        Option.map_map]
      congr 1
      funext later
      simp [messagesOf]

theorem collectMessagesDfs_eq (fuel : Nat) (id : String) (result : List Message) :
    collectMessagesDfs mapping fuel id result =
      (walk (children mapping) fuel id).map fun met => result ++ messagesOf mapping (met.map Prod.snd) := by
  induction fuel generalizing id result with
  | zero => rfl
  | succ fuel ih =>
    cases hNode : mapping.lookup id with
    | none =>
      have hChildren : children mapping id = [] := by rw [children, hNode]; rfl
      have hMessage : message mapping id = none := by rw [message, hNode]; rfl
      simp [collectMessagesDfs, walk, walkAll, hNode, hChildren, messagesOf, hMessage]
    | some node =>
      have hChildren : children mapping id = childIds node := by rw [children, hNode]; rfl
      have hMessage : message mapping id = nodeMessage node := by rw [message, hNode]; rfl
      simp only [collectMessagesDfs, hNode, foldlM_collect ih 0, walk, hChildren, Option.map_map]
      congr 1
      funext met
      cases hOwn : nodeMessage node <;> simp [messagesOf, hMessage, hOwn]

theorem visited_of_collect {root : String} (h : collectMessagesDfs mapping fuel root [] = some ordered) :
    ∃ met, walk (children mapping) fuel root = some met ∧ ordered = messagesOf mapping (met.map Prod.snd) := by
  rw [collectMessagesDfs_eq, Option.map_eq_some_iff] at h
  obtain ⟨met, hMet, hOrdered⟩ := h
  exact ⟨met, hMet, hOrdered.symm⟩

theorem reaches_finite (root : String) : {id | Reaches (children mapping) root id}.Finite := by
  apply Set.Finite.subset (List.finite_toSet (root :: mapping.flatMap fun entry => childIds entry.2))
  intro id hReaches
  cases hReaches with
  | refl => exact List.mem_cons_self
  | @tail parent _ _ hChild =>
    apply List.mem_cons_of_mem
    cases hNode : mapping.lookup parent with
    | none => simp [Child, children, hNode] at hChild
    | some node =>
      simp only [Child, children, hNode, Option.map_some, Option.getD_some] at hChild
      obtain ⟨before, after, hMapping, _⟩ := List.lookup_eq_some_iff.mp hNode
      exact List.mem_flatMap.mpr ⟨(parent, node), by rw [hMapping]; simp, hChild⟩

end Graph

section Promise

variable (mapping : Mapping) (root : String)

def bearsMessage (id : String) : Bool := (message mapping id).isSome

def OnePath (id : String) : Prop :=
  ∀ path path', Follows (children mapping) path root id → Follows (children mapping) path' root id → path = path'

/-- The messages of the nodes at the end of every path of child positions, in lexicographic order of the paths. -/
def DepthFirstOrder (ordered : List Message) : Prop :=
  ∃ met : List (List Nat × String), met.Pairwise (fun m m' => m.1 < m'.1) ∧
    (∀ path id, (path, id) ∈ met ↔ Follows (children mapping) path root id) ∧
    ordered = messagesOf mapping (met.map Prod.snd)

structure TraversesOnce : Prop where
  terminates : ∃ fuel ordered, ∀ more ≥ fuel, collectMessagesDfs mapping more root [] = some ordered
  once : ∀ fuel ordered, collectMessagesDfs mapping fuel root [] = some ordered →
    ∃ ids, visited mapping fuel root = some ids ∧ ordered = messagesOf mapping ids ∧
      (ids.filter (bearsMessage mapping)).Nodup
  tree : (∀ id, OnePath mapping root id) → ∀ fuel ordered,
    collectMessagesDfs mapping fuel root [] = some ordered → DepthFirstOrder mapping root ordered

/-- No cycle can be reached, and no message along two paths. -/
structure Unshared : Prop where
  acyclic : ∀ id, Reaches (children mapping) root id → ¬ Relation.TransGen (Child (children mapping)) id id
  single : ∀ id, bearsMessage mapping id = true → OnePath mapping root id

variable {mapping root}

theorem collect_returns_iff :
    (∃ fuel ordered, ∀ more ≥ fuel, collectMessagesDfs mapping more root [] = some ordered) ↔
      ∀ id, Reaches (children mapping) root id → ¬ Relation.TransGen (Child (children mapping)) id id := by
  rw [← walk_returns_iff (reaches_finite root)]
  constructor
  · rintro ⟨fuel, ordered, hCollect⟩
    obtain ⟨met, hMet, _⟩ := visited_of_collect (hCollect fuel le_rfl)
    exact ⟨fuel, met, hMet⟩
  · rintro ⟨fuel, met, hMet⟩
    refine ⟨fuel, messagesOf mapping (met.map Prod.snd), fun more hMore => ?_⟩
    rw [collectMessagesDfs_eq, walk_mono hMore hMet, Option.map_some, List.nil_append]

theorem collect_depthFirst
    (h : collectMessagesDfs mapping fuel root [] = some ordered) : DepthFirstOrder mapping root ordered := by
  obtain ⟨met, hMet, hOrdered⟩ := visited_of_collect h
  exact ⟨met, walk_sorted hMet, fun _ _ => mem_walk hMet, hOrdered⟩

theorem Unshared.traversesOnce (h : Unshared mapping root) : TraversesOnce mapping root where
  terminates := collect_returns_iff.mpr h.acyclic
  once := by
    intro fuel ordered hCollect
    obtain ⟨met, hMet, hOrdered⟩ := visited_of_collect hCollect
    refine ⟨met.map Prod.snd, by rw [visited, hMet]; rfl, hOrdered, ?_⟩
    exact (walk_nodup_iff hMet _).mpr fun id path path' hBears => h.single id hBears path path'
  tree := fun _ _ _ => collect_depthFirst

theorem TraversesOnce.unshared (h : TraversesOnce mapping root) : Unshared mapping root where
  acyclic := collect_returns_iff.mp h.terminates
  single := by
    obtain ⟨fuel, ordered, hCollect⟩ := h.terminates
    obtain ⟨ids, hVisited, _, hNodup⟩ := h.once fuel ordered (hCollect fuel le_rfl)
    obtain ⟨met, hMet, rfl⟩ := Option.map_eq_some_iff.mp hVisited
    intro id hBears path path'
    exact (walk_nodup_iff hMet _).mp hNodup id path path' hBears

end Promise

theorem export_traversed_once_iff (mapping : Mapping) :
    (∀ root ∈ findRootNode mapping, TraversesOnce mapping root) ↔
      ∀ root ∈ findRootNode mapping, Unshared mapping root := by
  constructor
  · intro hOnce root hRoot
    exact (hOnce root hRoot).unshared
  · intro hUnshared root hRoot
    exact (hUnshared root hRoot).traversesOnce

/-- An export whose only node lists itself as a child. -/
def selfReference : Mapping :=
  [("a", .object [("children", .array [.string "a"]), ("parent", .null)])]

theorem self_reference_never_returns :
    ¬ ∀ root ∈ findRootNode selfReference, TraversesOnce selfReference root := by
  intro hOnce
  have hUnshared := (hOnce "a" rfl).unshared
  have hChild : "a" ∈ children selfReference "a" := by decide
  exact hUnshared.acyclic "a" .refl (.single hChild)

/-- An import returns unless it walks a mapping in which the root reaches a cycle. -/
theorem normalizeChatgptJson_returns_iff (value : Json) :
    (∃ fuel output, ∀ more ≥ fuel, normalizeChatgptJson more value = some output) ↔
      (value.asArray = none → (value.get "messages").bind Json.asArray = none →
        ∀ mapping ∈ (value.get "mapping").bind Json.asObject, ∀ root ∈ findRootNode mapping,
          ∀ id, Reaches (children mapping) root id → ¬ Relation.TransGen (Child (children mapping)) id id) := by
  simp only [normalizeChatgptJson]
  cases value.asArray with
  | some messages => exact iff_of_true ⟨0, _, fun _ _ => rfl⟩ (by simp)
  | none =>
    cases (value.get "messages").bind Json.asArray with
    | some messages => exact iff_of_true ⟨0, _, fun _ _ => rfl⟩ (by simp)
    | none =>
      cases (value.get "mapping").bind Json.asObject with
      | none => exact iff_of_true ⟨0, _, fun _ _ => rfl⟩ (by simp)
      | some mapping =>
        simp only [true_implies, Option.mem_def, Option.some.injEq, forall_eq']
        cases findRootNode mapping with
        | none => exact iff_of_true ⟨0, _, fun _ _ => rfl⟩ (by simp)
        | some root =>
          simp only [Option.some.injEq, forall_eq']
          constructor
          · rintro ⟨fuel, output, hReturns⟩
            obtain ⟨ordered, hCollect, _⟩ := Option.map_eq_some_iff.mp (hReturns fuel le_rfl)
            obtain ⟨met, hMet, _⟩ := visited_of_collect hCollect
            exact (walk_returns_iff (reaches_finite root)).mp ⟨fuel, met, hMet⟩
          · intro hAcyclic
            obtain ⟨fuel, ordered, hCollect⟩ := collect_returns_iff.mpr hAcyclic
            exact ⟨fuel, _, fun more hMore => by rw [hCollect more hMore, Option.map_some]⟩

end Mempal.Ingest
