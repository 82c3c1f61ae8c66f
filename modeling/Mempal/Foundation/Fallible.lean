import Mathlib.Data.List.Basic
import Mathlib.Tactic.SplitIfs

set_option autoImplicit false

/-! A change of the value or of the error keeps a success a success. Collecting a list of results fails with the first
error, and otherwise keeps them in order. Operations on integers of fixed width are partial functions: a result that
does not fit is a fault, and so is a slice out of bounds. -/

namespace Foundation

universe u v w

variable {α : Type u} {ε : Type v} {β : Type w} {result : Except ε α} {a : α} {l : List α}

theorem map_eq_ok_iff {f : α → β} {b : β} : result.map f = .ok b ↔ ∃ a, result = .ok a ∧ f a = b := by
  cases result <;> simp [Except.map]

theorem map_eq_error_iff {f : α → β} {e : ε} : result.map f = .error e ↔ result = .error e := by
  cases result <;> simp [Except.map]

theorem mapError_eq_ok_iff {ε' : Type w} {f : ε → ε'} : result.mapError f = .ok a ↔ result = .ok a := by
  cases result <;> simp [Except.mapError]

theorem ite_error_eq_ok_iff {c : Prop} [Decidable c] {e : ε} {rest : Except ε α} :
    (if c then .error e else rest) = .ok a ↔ ¬ c ∧ rest = .ok a := by
  split_ifs with h <;> simp [h]

theorem ite_ok_eq_ok_iff {c : Prop} [Decidable c] {rest : Except ε Unit} :
    (if c then .ok () else rest) = .ok () ↔ (¬ c → rest = .ok ()) := by
  split_ifs with h <;> simp [h]

theorem bind_eq_ok_iff {α β : Type u} {ε : Type v} {f : α → Except ε β} {result : Except ε α} {b : β} :
    (result >>= f) = .ok b ↔ ∃ a, result = .ok a ∧ f a = .ok b := by
  cases result <;> simp [bind, Except.bind]

theorem ok_bind {ε : Type*} {α β : Type} (a : α) (f : α → Except ε β) : (Except.ok a >>= f) = f a := by
  simp only [bind, Except.bind]

theorem check_bind_eq_ok_iff {β : Type} {ε : Type v} {check : Except ε Unit} {rest : Except ε β} {b : β} :
    (check >>= fun _ => rest) = .ok b ↔ check = .ok () ∧ rest = .ok b := by
  cases check <;> simp [bind, Except.bind]

theorem foldlM_invariant {f : β → α → Except ε β} {P : β → Prop} (hStep : ∀ a ∈ l, ∀ b b', f b a = .ok b' → P b → P b')
    {b b' : β} (h : l.foldlM f b = .ok b') (hb : P b) : P b' := by
  induction l generalizing b with
  | nil =>
    cases h
    exact hb
  | cons a l ih =>
    rw [List.foldlM_cons] at h
    cases hHead : f b a with
    | error e =>
      rw [hHead] at h
      cases h
    | ok c =>
      rw [hHead] at h
      exact ih (fun a' hMem => hStep a' (List.mem_cons_of_mem _ hMem)) h (hStep a List.mem_cons_self b c hHead hb)

theorem foldlM_concat_ok {f : β → α → Except ε β} {b c d : β} (hInit : l.foldlM f b = .ok c) (hLast : f c a = .ok d) :
    (l ++ [a]).foldlM f b = .ok d := by
  simp only [List.foldlM_append, hInit, List.foldlM_cons, List.foldlM_nil]
  exact congrArg (· >>= pure) hLast

theorem exists_of_mem_mapM {f : α → Except ε β} {bs : List β} (h : l.mapM f = .ok bs) :
    ∀ b ∈ bs, ∃ a ∈ l, f a = .ok b := by
  induction l generalizing bs with
  | nil =>
    cases h
    nofun
  | cons a l ih =>
    rw [List.mapM_cons] at h
    cases hHead : f a with
    | error e =>
      rw [hHead] at h
      cases h
    | ok b =>
      cases hTail : l.mapM f with
      | error e =>
        rw [hHead, hTail] at h
        cases h
      | ok rest =>
        rw [hHead, hTail] at h
        cases h
        intro c hc
        rcases List.mem_cons.mp hc with rfl | hc
        · exact ⟨a, List.mem_cons_self, hHead⟩
        · obtain ⟨a', hMem, hEq⟩ := ih hTail c hc
          exact ⟨a', List.mem_cons_of_mem _ hMem, hEq⟩

inductive Fault where
  | bounds
  | overflow
deriving DecidableEq, Repr

def i64 (n : Int) : Except Fault Int :=
  if -9223372036854775808 ≤ n ∧ n < 9223372036854775808 then .ok n else .error .overflow

end Foundation
