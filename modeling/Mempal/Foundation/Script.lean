import Mempal.Foundation.Connection

set_option autoImplicit false

/-! A script is a sequence of statements, each of which may look at the content that the one before it left; it ends
with the first error. -/

namespace Foundation

universe u v

inductive Script (D : Type u) (E : Type v) where
  | done
  | fail (error : E)
  | statement (f : D → Except E D) (next : D → Script D E)

namespace Script

variable {D : Type u} {E : Type v}

def apply : Script D E → D → Except E D
  | .done, content => .ok content
  | .fail error, _ => .error error
  | .statement f next, content =>
    match f content with
    | .error error => .error error
    | .ok content' => (next content').apply content'

def Safe (Q : D → Prop) : Script D E → D → Prop
  | .done, _ => True
  | .fail _, _ => True
  | .statement f next, content => ∀ content', f content = .ok content' → Q content' ∧ (next content').Safe Q content'

/-- The statements on a connection, with the fates that are left. -/
def run : Script D E → List (Fate E) → Connection D → Except E Unit × List (Fate E) × Connection D
  | .done, fates, c => (.ok (), fates, c)
  | .fail error, fates, c => (.error error, fates, c)
  | .statement f next, fates, c =>
    match c.update f (fates.headD .runs) with
    | (.error error, c') => (.error error, fates.tail, c')
    | (.ok content, c') => (next content).run fates.tail c'

def transact (already missing : E) (rollsBack : Bool) (script : Script D E) (fates : List (Fate E))
    (c : Connection D) : Except E Unit × Connection D :=
  if c.working.isSome then ((script.run fates c).1, (script.run fates c).2.2)
  else
    match c.begin already (fates.headD .runs) with
    | (.error error, c') => (.error error, c')
    | (.ok _, c') =>
      match script.run fates.tail c' with
      | (.error error, _, c'') => (.error error, c''.rollback)
      | (.ok _, fates', c'') =>
        match c''.commit missing (fates'.headD .runs) with
        | (.ok _, c''') => (.ok (), c''')
        | (.error error, c''') => (.error error, if rollsBack then c'''.rollback else c''')

section Run
variable {Q : D → Prop} {script : Script D E}

theorem apply_safe {content content' : D} (hContent : Q content) (hSafe : script.Safe Q content)
    (h : script.apply content = .ok content') : Q content' := by
  induction script generalizing content with
  | done =>
    cases h
    exact hContent
  | fail error => cases h
  | statement f next ih =>
    rw [apply] at h
    split at h
    · cases h
    · rename_i content₁ hf
      exact ih content₁ (hSafe content₁ hf).1 (hSafe content₁ hf).2 h

variable {c : Connection D}

theorem update_ok {f : D → Except E D} {fate : Fate E} {c c' : Connection D} {content : D}
    (h : c.update f fate = (.ok content, c')) :
    f c.visible = .ok content ∧ c'.visible = content ∧ c'.working.isSome = c.working.isSome := by
  cases fate with
  | fails | cancels => cases h
  | runs =>
    simp only [Connection.update] at h
    split at h
    · cases h
    · rename_i content' hf
      cases h
      refine ⟨hf, ?_⟩
      cases hWorking : c.working <;> simp [Connection.write, Connection.visible, hWorking]

theorem run_stored {fates : List (Fate E)} (hOpen : c.working.isSome = true) :
    (script.run fates c).2.2.stored = c.stored := by
  induction script generalizing fates c with
  | done | fail => rfl
  | statement f next ih =>
    obtain ⟨hStored, hStays⟩ := Connection.update_of_open f (fates.headD .runs) hOpen
    rw [run]
    split
    · rename_i error c' hUpdate
      rwa [hUpdate] at hStored
    · rename_i content c' hUpdate
      rw [hUpdate] at hStored hStays
      exact (ih content (hStays content rfl)).trans hStored

theorem run_ok {fates fates' : List (Fate E)} {c c' : Connection D} (h : script.run fates c = (.ok (), fates', c')) :
    script.apply c.visible = .ok c'.visible ∧ c'.working.isSome = c.working.isSome := by
  induction script generalizing fates c with
  | done =>
    cases h
    exact ⟨rfl, rfl⟩
  | fail error => cases h
  | statement f next ih =>
    rw [run] at h
    split at h
    · cases h
    · rename_i content c₁ hUpdate
      obtain ⟨hf, hVisible, hOpen⟩ := update_ok hUpdate
      obtain ⟨hApply, hOpen'⟩ := ih content h
      rw [hVisible] at hApply
      refine ⟨?_, hOpen'.trans hOpen⟩
      simp only [apply, hf, hApply]

theorem update_contents {f : D → Except E D} (fate : Fate E) (hStored : Q c.stored) (hVisible : Q c.visible)
    (hf : ∀ content, f c.visible = .ok content → Q content) :
    Q (c.update f fate).2.stored ∧ Q (c.update f fate).2.visible := by
  cases fate with
  | fails error => exact ⟨hStored, hVisible⟩
  | cancels error => exact ⟨hStored, hStored⟩
  | runs =>
    simp only [Connection.update]
    cases hRun : f c.visible with
    | error error => exact ⟨hStored, hVisible⟩
    | ok content =>
      have hContent := hf content hRun
      cases hWorking : c.working <;> simp [Connection.write, Connection.visible, hWorking, hStored, hContent]

theorem run_contents (fates : List (Fate E)) (hStored : Q c.stored) (hVisible : Q c.visible)
    (hSafe : script.Safe Q c.visible) : Q (script.run fates c).2.2.stored ∧ Q (script.run fates c).2.2.visible := by
  induction script generalizing fates c with
  | done | fail => exact ⟨hStored, hVisible⟩
  | statement f next ih =>
    have hUpdated := update_contents (fates.headD .runs) hStored hVisible fun content h => (hSafe content h).1
    rw [run]
    split
    · rename_i error c' hUpdate
      rwa [hUpdate] at hUpdated
    · rename_i content c' hUpdate
      rw [hUpdate] at hUpdated
      obtain ⟨hf, hVisible', _⟩ := update_ok hUpdate
      exact ih content _ hUpdated.1 hUpdated.2 (hVisible'.symm ▸ (hSafe content hf).2)

end Run

section Transact
variable {Q : D → Prop} {already missing : E} {rollsBack : Bool} {script : Script D E} {fates : List (Fate E)}
  {c : Connection D}

def CommitRefused (script : Script D E) (fates : List (Fate E)) (c : Connection D) : Prop :=
  fates.headD .runs = .runs ∧
    ∃ fates' c' error, script.run fates.tail ⟨c.stored, some c.stored⟩ = (.ok (), fates', c') ∧
      fates'.headD .runs = .fails error

theorem transact_cases (script : Script D E) (already missing : E) (rollsBack : Bool) (fates : List (Fate E))
    (hIdle : c.working = none) :
    (∃ content, script.apply c.stored = .ok content ∧
        script.transact already missing rollsBack fates c = (.ok (), ⟨content, none⟩)) ∨
      (∃ error, script.transact already missing rollsBack fates c = (.error error, c) ∧
        (rollsBack = true ∨ ¬script.CommitRefused fates c)) ∨
      ∃ error content, rollsBack = false ∧ script.CommitRefused fates c ∧ script.apply c.stored = .ok content ∧
        script.transact already missing rollsBack fates c = (.error error, ⟨c.stored, some content⟩) := by
  have hSame : (⟨c.stored, none⟩ : Connection D) = c := by rw [← hIdle]
  rw [transact, if_neg (by simp [hIdle])]
  cases hFate : fates.headD .runs with
  | fails error => exact Or.inr (Or.inl ⟨error, rfl, Or.inr fun h => nomatch hFate.symm.trans h.1⟩)
  | cancels error =>
    refine Or.inr (Or.inl ⟨error, ?_, Or.inr fun h => nomatch hFate.symm.trans h.1⟩)
    simp only [Connection.begin, Connection.rollback, hSame]
  | runs =>
    have hStored : (script.run fates.tail ⟨c.stored, some c.stored⟩).2.2.stored = c.stored := run_stored rfl
    simp only [Connection.begin, hIdle]
    cases hRun : script.run fates.tail ⟨c.stored, some c.stored⟩ with
    | mk result rest =>
      obtain ⟨fates', c'⟩ := rest
      rw [hRun] at hStored
      cases result with
      | error error =>
        refine Or.inr (Or.inl ⟨error, ?_, Or.inr ?_⟩)
        · exact congrArg (Prod.mk _) ((congrArg (Connection.mk · none) hStored).trans hSame)
        · rintro ⟨_, _, _, _, hOk, _⟩
          rw [hRun] at hOk
          cases hOk
      | ok _ =>
        obtain ⟨hApply, hOpen⟩ := run_ok hRun
        obtain ⟨content, hContent⟩ := Option.isSome_iff_exists.mp hOpen
        have hVisible : c'.visible = content := by rw [Connection.visible, hContent, Option.getD_some]
        rw [hVisible] at hApply
        dsimp only
        cases hEnd : fates'.headD .runs with
        | runs =>
          simp only [Connection.commit, hContent]
          exact Or.inl ⟨content, hApply, rfl⟩
        | cancels error =>
          refine Or.inr (Or.inl ⟨error, ?_, Or.inr ?_⟩)
          · simp only [Connection.commit, Connection.rollback, ite_self]
            exact congrArg (Prod.mk _) ((congrArg (Connection.mk · none) hStored).trans hSame)
          · rintro ⟨_, _, _, _, hOk, hFails⟩
            rw [hRun] at hOk
            cases hOk
            rw [hEnd] at hFails
            cases hFails
        | fails error =>
          cases rollsBack with
          | true =>
            refine Or.inr (Or.inl ⟨error, ?_, Or.inl rfl⟩)
            exact congrArg (Prod.mk _) ((congrArg (Connection.mk · none) hStored).trans hSame)
          | false =>
            refine Or.inr (Or.inr ⟨error, content, rfl, ⟨hFate, fates', c', error, hRun, hEnd⟩, hApply, ?_⟩)
            have hEnds : c' = ⟨c.stored, some content⟩ := by
              rw [← hStored, ← hContent]
            exact congrArg (Prod.mk _) hEnds

theorem transact_ok (h : (script.transact already missing rollsBack fates c).1 = .ok ()) :
    script.apply c.visible = .ok (script.transact already missing rollsBack fates c).2.visible := by
  cases hWorking : c.working with
  | some content =>
    rw [transact, if_pos (by simp [hWorking])] at h ⊢
    exact (run_ok (Prod.ext h rfl)).1
  | none =>
    have hVisible : c.visible = c.stored := by rw [Connection.visible, hWorking, Option.getD_none]
    obtain ⟨content, hApply, hEq⟩ | ⟨error, hEq, _⟩ | ⟨error, content, _, _, _, hEq⟩ :=
      transact_cases script already missing rollsBack fates hWorking
    · rw [hEq, hVisible, hApply]
      rfl
    · rw [hEq] at h
      cases h
    · rw [hEq] at h
      cases h

theorem transact_contents (already missing : E) (rollsBack : Bool) (fates : List (Fate E)) (hStored : Q c.stored)
    (hVisible : Q c.visible) (hSafe : script.Safe Q c.visible) :
    Q (script.transact already missing rollsBack fates c).2.stored ∧
      Q (script.transact already missing rollsBack fates c).2.visible := by
  cases hWorking : c.working with
  | some content =>
    rw [transact, if_pos (by simp [hWorking])]
    exact run_contents fates hStored hVisible hSafe
  | none =>
    rw [Connection.visible, hWorking, Option.getD_none] at hSafe
    obtain ⟨content, hApply, hEq⟩ | ⟨error, hEq, _⟩ | ⟨error, content, _, _, hApply, hEq⟩ :=
      transact_cases script already missing rollsBack fates hWorking
    · rw [hEq]
      exact ⟨apply_safe hStored hSafe hApply, apply_safe hStored hSafe hApply⟩
    · rw [hEq]
      exact ⟨hStored, hVisible⟩
    · rw [hEq]
      exact ⟨hStored, apply_safe hStored hSafe hApply⟩

end Transact

end Script

end Foundation
