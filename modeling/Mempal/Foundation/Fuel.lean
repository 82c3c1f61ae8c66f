import Mathlib.Order.Lattice
import Mathlib.Data.List.Basic

set_option autoImplicit false

/-! A computation that is given fuel stops without a result when the fuel runs out. It returns a value if every large
enough amount of fuel gives that value. -/

namespace Foundation

universe u v

variable {α β : Type u} {γ : Type v}

def Returns (f : Nat → Option α) (a : α) : Prop := ∃ bound, ∀ fuel ≥ bound, f fuel = some a

namespace Returns

theorem pure (a : α) : Returns (fun _ => some a) a := ⟨0, fun _ _ => rfl⟩

variable {a : α} {f : Nat → Option α}

theorem succ (h : Returns (fun fuel => f (fuel + 1)) a) : Returns f a := by
  obtain ⟨bound, hBound⟩ := h
  refine ⟨bound + 1, fun fuel hFuel => ?_⟩
  obtain ⟨fuel, rfl⟩ : ∃ n, fuel = n + 1 := ⟨fuel - 1, by omega⟩
  exact hBound fuel (by omega)

theorem map (h : Returns f a) (g : α → β) : Returns (fun fuel => (f fuel).map g) (g a) := by
  obtain ⟨bound, hBound⟩ := h
  refine ⟨bound, fun fuel hFuel => ?_⟩
  dsimp only
  rw [hBound fuel hFuel, Option.map_some]

theorem bind {g : Nat → α → Option β} {b : β} (hf : Returns f a) (hg : Returns (fun fuel => g fuel a) b) :
    Returns (fun fuel => (f fuel).bind (g fuel)) b := by
  obtain ⟨bound, hBound⟩ := hf
  obtain ⟨bound', hBound'⟩ := hg
  refine ⟨max bound bound', fun fuel hFuel => ?_⟩
  dsimp only
  rw [hBound fuel (le_trans (le_max_left _ _) hFuel), Option.bind_some]
  exact hBound' fuel (le_trans (le_max_right _ _) hFuel)

theorem eq_of_mono {a b : α} (h : Returns f a) (hMono : ∀ fuel x, f fuel = some x → f (fuel + 1) = some x) {fuel : Nat}
    (hb : f fuel = some b) : b = a := by
  obtain ⟨bound, hBound⟩ := h
  have hLater : ∀ n, f (fuel + n) = some b := by
    intro n
    induction n with
    | zero => exact hb
    | succ n ih => exact hMono _ _ ih
  have hBoth := hBound (fuel + bound) (by omega)
  rw [hLater bound] at hBoth
  exact Option.some.inj hBoth

theorem foldlM {step : Nat → α → γ → Option α} {P : List γ → α → Prop} {l : List γ}
    (hStep : ∀ done b rest a, l = done ++ b :: rest → P done a →
      ∃ a', Returns (fun fuel => step fuel a b) a' ∧ P (done ++ [b]) a') (hInit : P [] a) :
    ∃ a', Returns (fun fuel => l.foldlM (step fuel) a) a' ∧ P l a' := by
  have hFrom : ∀ rest done a, l = done ++ rest → P done a →
      ∃ a', Returns (fun fuel => rest.foldlM (step fuel) a) a' ∧ P l a' := by
    intro rest
    induction rest with
    | nil =>
      intro done a hDone hP
      rw [List.append_nil] at hDone
      exact ⟨a, pure a, hDone ▸ hP⟩
    | cons b rest ih =>
      intro done a hDone hP
      obtain ⟨a₁, hReturns, hFirst⟩ := hStep done b rest a hDone hP
      obtain ⟨a', hReturns', hAll⟩ := ih (done ++ [b]) a₁ (by simpa using hDone) hFirst
      exact ⟨a', hReturns.bind hReturns', hAll⟩
  exact hFrom l [] a rfl hInit

end Returns

end Foundation
