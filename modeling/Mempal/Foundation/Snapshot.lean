import Mathlib.Data.List.Basic
import Mathlib.Data.Option.Basic

set_option autoImplicit false

/-! Cells hold a value and a counter. A writer reads a cell, computes for a while and then commits; meanwhile others
commit. -/

namespace Foundation.Snapshot

universe u v

variable {K : Type u} {V : Type v}

inductive Touch where
  | counted
  | uncounted
  | removed
deriving DecidableEq, Repr

abbrev View (K : Type u) (V : Type v) := K → Option (V × Nat)

def Touch.Allows : Option Touch → Option (V × Nat) → Option (V × Nat) → Prop
  | none, cell, cell' => cell' = cell
  | some .counted, cell, cell' => ∀ v' n', cell' = some (v', n') → ∃ v n, cell = some (v, n) ∧ n < n'
  | some .uncounted, _, _ => True
  | some .removed, cell, cell' => cell' = none ∨ cell' = cell

def Effect (touch : K → Option Touch) (view view' : View K V) : Prop :=
  ∀ k, Touch.Allows (touch k) (view k) (view' k)

inductive Check where
  | counter (expected : Nat)
  | present
  | unchecked
deriving DecidableEq, Repr

def Check.passes : Check → Option (V × Nat) → Prop
  | .counter expected, cell => ∃ v, cell = some (v, expected)
  | .present, cell => ∃ v n, cell = some (v, n)
  | .unchecked, _ => True

def Check.stands : Check → Touch → Bool
  | .counter _, touch => touch ≠ .uncounted
  | .present, touch => touch = .removed
  | .unchecked, _ => false

structure Reader (K : Type u) (V : Type v) where
  key : K
  base : Option V
  check : Check
  since : List Touch

namespace Reader

def undisturbed (reader : Reader K V) : Bool := reader.since.all reader.check.stands

def record (touch : K → Option Touch) (reader : Reader K V) : Reader K V :=
  { reader with since := reader.since ++ (touch reader.key).toList }

def Relies (reader : Reader K V) (view : View K V) : Prop :=
  match reader.check with
  | .counter expected =>
    ∀ v n, view reader.key = some (v, n) → expected ≤ n ∧ (n = expected → reader.base = some v)
  | .present => ∀ v n, view reader.key = some (v, n) → reader.base = some v
  | .unchecked => (view reader.key).map Prod.fst = reader.base

def Holds (reader : Reader K V) (view : View K V) : Prop := reader.undisturbed = true → reader.Relies view

variable {reader : Reader K V} {view view' : View K V} {touch : K → Option Touch}

theorem relies_step (h : reader.Relies view) (hEffect : Effect touch view view')
    (hStands : ∀ t, touch reader.key = some t → reader.check.stands t = true) : reader.Relies view' := by
  have hCell := hEffect reader.key
  unfold Relies at h ⊢
  cases hTouch : touch reader.key with
  | none =>
    rw [hTouch] at hCell
    rwa [show view' reader.key = view reader.key from hCell]
  | some t =>
    have hStand := hStands t hTouch
    rw [hTouch] at hCell
    cases hCheck : reader.check with
    | unchecked =>
      rw [hCheck] at hStand
      cases hStand
    | present =>
      rw [hCheck] at hStand h
      obtain rfl : t = .removed := by simpa [Check.stands] using hStand
      intro v n hView
      rcases hCell with hGone | hSame
      · rw [hGone] at hView
        cases hView
      · exact h v n (hSame ▸ hView)
    | counter expected =>
      rw [hCheck] at hStand h
      intro v' n' hView
      cases t with
      | uncounted => cases hStand
      | counted =>
        obtain ⟨v, n, hBefore, hLt⟩ := hCell v' n' hView
        have hLe := (h v n hBefore).1
        exact ⟨by omega, fun hEq => by omega⟩
      | removed =>
        rcases hCell with hGone | hSame
        · rw [hGone] at hView
          cases hView
        · exact h v' n' (hSame ▸ hView)

theorem Holds.record (h : reader.Holds view) (hEffect : Effect touch view view') :
    (reader.record touch).Holds view' := by
  intro hAll
  have hBoth : (reader.since ++ (touch reader.key).toList).all reader.check.stands = true := hAll
  rw [List.all_append, Bool.and_eq_true] at hBoth
  have hRelies : reader.Relies view' := by
    refine relies_step (h hBoth.1) hEffect fun t hTouch => ?_
    have hLast := hBoth.2
    rw [hTouch] at hLast
    simpa using hLast
  exact hRelies

theorem Holds.fresh (h : reader.Holds view) (hUndisturbed : reader.undisturbed = true)
    (hPasses : reader.check.passes (view reader.key)) : (view reader.key).map Prod.fst = reader.base := by
  have hRelies := h hUndisturbed
  unfold Relies at hRelies
  cases hCheck : reader.check with
  | unchecked =>
    rw [hCheck] at hRelies
    exact hRelies
  | present =>
    rw [hCheck] at hRelies hPasses
    obtain ⟨v, n, hView⟩ := hPasses
    rw [hView, hRelies v n hView]
    rfl
  | counter expected =>
    rw [hCheck] at hRelies hPasses
    obtain ⟨v, hView⟩ := hPasses
    rw [hView, (hRelies v expected hView).2 rfl]
    rfl

theorem holds_of_read {key : K} {base : Option V} {check : Check} (hBase : (view key).map Prod.fst = base)
    (hCheck : ∀ expected, check = .counter expected → ∀ v n, view key = some (v, n) → n = expected) :
    (⟨key, base, check, []⟩ : Reader K V).Holds view := by
  intro _
  have hRead (v : V) (n : Nat) (hView : view key = some (v, n)) : base = some v := by
    rw [← hBase, hView]
    rfl
  cases check with
  | counter expected =>
    intro v n hView
    exact ⟨Nat.le_of_eq (hCheck expected rfl v n hView).symm, fun _ => hRead v n hView⟩
  | present => exact hRead
  | unchecked => exact hBase

end Reader

end Foundation.Snapshot
