/-! A connection sees the content of its open transaction, or the stored content if it has none. -/

namespace Foundation

universe u v

/-- What happens to a statement besides its own outcome. -/
inductive Fate (E : Type v) where
  | runs
  | fails (error : E)
  | cancels (error : E)
deriving DecidableEq, Repr

structure Connection (D : Type u) where
  stored : D
  working : Option D
deriving DecidableEq, Repr

namespace Connection

variable {D : Type u} {E : Type v}

def visible (c : Connection D) : D := c.working.getD c.stored

def write (c : Connection D) (content : D) : Connection D :=
  match c.working with
  | none => { c with stored := content }
  | some _ => { c with working := some content }

def rollback (c : Connection D) : Connection D := { c with working := none }

def update (f : D → Except E D) (fate : Fate E) (c : Connection D) : Except E D × Connection D :=
  match fate with
  | .fails error => (.error error, c)
  | .cancels error => (.error error, c.rollback)
  | .runs =>
    match f c.visible with
    | .error error => (.error error, c)
    | .ok content => (.ok content, c.write content)

/-- `already` is the error of a connection that has a transaction. -/
def begin (already : E) (fate : Fate E) (c : Connection D) : Except E D × Connection D :=
  match fate with
  | .fails error => (.error error, c)
  | .cancels error => (.error error, c.rollback)
  | .runs =>
    match c.working with
    | some _ => (.error already, c)
    | none => (.ok c.stored, { c with working := some c.stored })

/-- `missing` is the error of a connection that has no transaction. -/
def commit (missing : E) (fate : Fate E) (c : Connection D) : Except E D × Connection D :=
  match fate with
  | .fails error => (.error error, c)
  | .cancels error => (.error error, c.rollback)
  | .runs =>
    match c.working with
    | none => (.error missing, c)
    | some content => (.ok content, ⟨content, none⟩)

variable {c : Connection D}

theorem update_of_open (f : D → Except E D) (fate : Fate E) (h : c.working.isSome = true) :
    (c.update f fate).2.stored = c.stored ∧
      ∀ content, (c.update f fate).1 = .ok content → (c.update f fate).2.working.isSome = true := by
  obtain ⟨working, hWorking⟩ := Option.isSome_iff_exists.mp h
  cases fate with
  | fails error => exact ⟨rfl, fun _ _ => h⟩
  | cancels error => exact ⟨rfl, fun _ hOk => nomatch hOk⟩
  | runs =>
    simp only [update]
    cases f c.visible with
    | error error => exact ⟨rfl, fun _ _ => h⟩
    | ok content => simp [write, hWorking]

theorem begin_of_idle (already : E) (fate : Fate E) (h : c.working = none) :
    (∃ error, c.begin already fate = (.error error, c)) ∨
      c.begin already fate = (.ok c.stored, ⟨c.stored, some c.stored⟩) := by
  cases fate with
  | fails error => exact Or.inl ⟨error, rfl⟩
  | cancels error => exact Or.inl ⟨error, by rw [begin, rollback, ← h]⟩
  | runs => exact Or.inr (by simp only [begin, h])

theorem begin_ok {already : E} {fate : Fate E} {content : D} (h : (c.begin already fate).1 = .ok content) :
    (c.begin already fate).2.working.isSome = true ∧ (c.begin already fate).2.stored = c.stored := by
  cases fate with
  | fails | cancels => cases h
  | runs =>
    cases hWorking : c.working with
    | some working => simp [begin, hWorking] at h
    | none => simp [begin, hWorking]

theorem commit_error {missing error : E} {fate : Fate E} {c' : Connection D}
    (h : c.commit missing fate = (.error error, c')) : c'.stored = c.stored := by
  cases fate with
  | fails | cancels => cases h; rfl
  | runs =>
    simp only [commit] at h
    split at h <;> cases h
    rfl

end Connection

end Foundation
