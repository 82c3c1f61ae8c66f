import Mathlib.Data.List.Induction
import Mathlib.Data.List.Pairwise
import Mathlib.Order.Basic

set_option autoImplicit false

/-! A machine takes one atomic step for each scheduled action. All nondeterminism (which party moves, what the
clock reads, what an oracle answers) sits in the action, so that a run is a list of actions and an
interleaving is nothing but the order of that list. -/

namespace Foundation

universe u v w

structure Machine (σ : Type u) (α : Type v) (ω : Type w) where
  step : σ → α → σ × ω

namespace Machine

variable {σ : Type u} {α : Type v} {ω : Type w} (m : Machine σ α ω)

def next (s : σ) (a : α) : σ := (m.step s a).1

def output (s : σ) (a : α) : ω := (m.step s a).2

def final : σ → List α → σ
  | s, [] => s
  | s, a :: as => final (m.next s a) as

def trace : σ → List α → List (α × ω)
  | _, [] => []
  | s, a :: as => (a, m.output s a) :: trace (m.next s a) as

/-- Every step of the run meets `P` in the state from which it is taken. -/
def Along (P : σ → α → Prop) : σ → List α → Prop
  | _, [] => True
  | s, a :: as => P s a ∧ Along P (m.next s a) as

@[simp] theorem final_nil (s : σ) : m.final s [] = s := rfl

@[simp] theorem final_cons (s : σ) (a : α) (as : List α) : m.final s (a :: as) = m.final (m.next s a) as := rfl

@[simp] theorem trace_nil (s : σ) : m.trace s [] = [] := rfl

@[simp] theorem trace_cons (s : σ) (a : α) (as : List α) :
    m.trace s (a :: as) = (a, m.output s a) :: m.trace (m.next s a) as := rfl

theorem final_append (s : σ) (as bs : List α) : m.final s (as ++ bs) = m.final (m.final s as) bs := by
  induction as generalizing s with
  | nil => rfl
  | cons a as ih => exact ih (m.next s a)

theorem trace_append (s : σ) (as bs : List α) :
    m.trace s (as ++ bs) = m.trace s as ++ m.trace (m.final s as) bs := by
  induction as generalizing s with
  | nil => rfl
  | cons a as ih => exact congrArg (List.cons _) (ih (m.next s a))

variable {P : σ → α → Prop} {I : σ → Prop}

theorem along_append (s : σ) (as bs : List α) :
    m.Along P s (as ++ bs) ↔ m.Along P s as ∧ m.Along P (m.final s as) bs := by
  induction as generalizing s with
  | nil => simp [Along]
  | cons a as ih => simp only [List.cons_append, Along, ih, final_cons, and_assoc]

theorem along_true (s : σ) (as : List α) : m.Along (fun _ _ => True) s as := by
  induction as generalizing s with
  | nil => trivial
  | cons a as ih => exact ⟨trivial, ih _⟩

theorem along_mono {P Q : σ → α → Prop} (h : ∀ s a, P s a → Q s a) {s : σ} {as : List α} (hRun : m.Along P s as) :
    m.Along Q s as := by
  induction as generalizing s with
  | nil => trivial
  | cons a as ih => exact ⟨h s a hRun.1, ih hRun.2⟩

instance decidableAlong {P : σ → α → Prop} [∀ s a, Decidable (P s a)] (s : σ) :
    (as : List α) → Decidable (m.Along P s as)
  | [] => isTrue trivial
  | a :: as => @instDecidableAnd _ _ _ (decidableAlong (m.next s a) as)

variable {m}

theorem invariant_along (hStep : ∀ s a, I s → P s a → I (m.next s a)) {s : σ} (hInit : I s) {as : List α}
    (hRun : m.Along P s as) : I (m.final s as) := by
  induction as generalizing s with
  | nil => exact hInit
  | cons a as ih => exact ih (hStep s a hInit hRun.1) hRun.2

theorem along_of_invariant {P Q : σ → α → Prop} (hInv : ∀ s a, I s → P s a → I (m.next s a))
    (hStep : ∀ s a, I s → P s a → Q s a) {s : σ} (hInit : I s) {as : List α} (hRun : m.Along P s as) :
    m.Along Q s as := by
  induction as generalizing s with
  | nil => trivial
  | cons a as ih => exact ⟨hStep s a hInit hRun.1, ih (hInv s a hInit hRun.1) hRun.2⟩

theorem invariant (hStep : ∀ s a, I s → I (m.next s a)) {s : σ} (hInit : I s) (as : List α) : I (m.final s as) :=
  invariant_along (P := fun _ _ => True) (fun s a hs _ => hStep s a hs) hInit (m.along_true s as)

theorem invariant_history {I : List α → σ → Prop} {P : List α → α → Prop}
    (hStep : ∀ past s a, I past s → P past a → I (past ++ [a]) (m.next s a)) {s : σ} (hInit : I [] s) {as : List α}
    (hAll : ∀ past a future, as = past ++ a :: future → P past a) : I as (m.final s as) := by
  induction as using List.reverseRecOn with
  | nil => exact hInit
  | append_singleton as a ih =>
    rw [final_append]
    refine hStep as _ a (ih ?_) (hAll as a [] rfl)
    rintro past b future rfl
    exact hAll past b (future ++ [a]) (by simp)

theorem invariant_trace {I : List (α × ω) → σ → Prop}
    (hStep : ∀ past s a, I past s → P s a → I (past ++ [(a, m.output s a)]) (m.next s a)) {s : σ} (hInit : I [] s)
    {as : List α} (hRun : m.Along P s as) : I (m.trace s as) (m.final s as) := by
  have hFrom : ∀ past s, I past s → m.Along P s as → I (past ++ m.trace s as) (m.final s as) := by
    clear hInit hRun
    induction as with
    | nil =>
      intro past s hs _
      rwa [trace_nil, List.append_nil]
    | cons a as ih =>
      intro past s hs hRun
      have hRest := ih _ _ (hStep past s a hs hRun.1) hRun.2
      rwa [List.append_assoc] at hRest
  exact hFrom [] s hInit hRun

theorem relate {R : σ → σ → Prop} (hRefl : ∀ s, R s s) (hTrans : ∀ s t u, R s t → R t u → R s u)
    (hInv : ∀ s a, I s → I (m.next s a)) (hStep : ∀ s a, I s → R s (m.next s a)) {s : σ} (hInit : I s) (as : List α) :
    R s (m.final s as) := by
  induction as generalizing s with
  | nil => exact hRefl s
  | cons a as ih => exact hTrans _ _ _ (hStep s a hInit) (ih (hInv s a hInit))

theorem forall_trace_along {Q : α × ω → Prop} (hInv : ∀ s a, I s → P s a → I (m.next s a))
    (hOut : ∀ s a, I s → P s a → Q (a, m.output s a)) {s : σ} (hInit : I s) {as : List α} (hRun : m.Along P s as) :
    ∀ e ∈ m.trace s as, Q e := by
  induction as generalizing s with
  | nil => exact List.forall_mem_nil _
  | cons a as ih =>
    rw [trace_cons, List.forall_mem_cons]
    exact ⟨hOut s a hInit hRun.1, ih (hInv s a hInit hRun.1) hRun.2⟩

theorem forall_trace {Q : α × ω → Prop} (hInv : ∀ s a, I s → I (m.next s a)) (hOut : ∀ s a, I s → Q (a, m.output s a))
    {s : σ} (hInit : I s) (as : List α) : ∀ e ∈ m.trace s as, Q e :=
  forall_trace_along (fun s a hs _ => hInv s a hs) (fun s a hs _ => hOut s a hs) hInit (m.along_true s as)

theorem pairwise_trace_along {After : α × ω → σ → Prop} {Q : α × ω → α × ω → Prop}
    (hInv : ∀ s a, I s → P s a → I (m.next s a)) (hLeave : ∀ s a, I s → P s a → After (a, m.output s a) (m.next s a))
    (hKeep : ∀ e s a, I s → P s a → After e s → After e (m.next s a))
    (hUse : ∀ e s a, I s → P s a → After e s → Q e (a, m.output s a)) {s : σ} (hInit : I s) {as : List α}
    (hRun : m.Along P s as) : (m.trace s as).Pairwise Q := by
  induction as generalizing s with
  | nil => exact List.Pairwise.nil
  | cons a as ih =>
    rw [trace_cons, List.pairwise_cons]
    refine ⟨?_, ih (hInv s a hInit hRun.1) hRun.2⟩
    exact forall_trace_along (I := fun t => I t ∧ After (a, m.output s a) t)
      (fun t b ht hb => ⟨hInv t b ht.1 hb, hKeep _ t b ht.1 hb ht.2⟩) (fun t b ht hb => hUse _ t b ht.1 hb ht.2)
      ⟨hInv s a hInit hRun.1, hLeave s a hInit hRun.1⟩ hRun.2

theorem pairwise_trace {After : α × ω → σ → Prop} {Q : α × ω → α × ω → Prop} (hInv : ∀ s a, I s → I (m.next s a))
    (hLeave : ∀ s a, I s → After (a, m.output s a) (m.next s a))
    (hKeep : ∀ e s a, I s → After e s → After e (m.next s a)) (hUse : ∀ e s a, I s → After e s → Q e (a, m.output s a))
    {s : σ} (hInit : I s) (as : List α) : (m.trace s as).Pairwise Q :=
  pairwise_trace_along (fun s a hs _ => hInv s a hs) (fun s a hs _ => hLeave s a hs) (fun e s a hs _ => hKeep e s a hs)
    (fun e s a hs _ => hUse e s a hs) hInit (m.along_true s as)

end Machine

end Foundation
