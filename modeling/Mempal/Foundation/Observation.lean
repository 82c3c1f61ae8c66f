import Mathlib.Data.List.Sort

set_option autoImplicit false

/-! An observer sees of each element only what `obs` shows. Two lists look alike when their elements do, in order. -/

namespace Foundation.Observation

universe u v w

variable {α : Type u} {β : Type v}

/-- What the observer sees of the result depends on what the observer sees of the argument. -/
def Respects (obs : α → β) (f : α → α) : Prop := ∀ a a', obs a = obs a' → obs (f a) = obs (f a')

variable {obs : α → β} {l l' : List α}

theorem map_map {f : α → α} (hf : Respects obs f) (h : l.map obs = l'.map obs) :
    (l.map f).map obs = (l'.map f).map obs := by
  induction l generalizing l' with
  | nil => rw [List.map_eq_nil_iff.mp h.symm]
  | cons a l ih =>
    obtain ⟨a', t, rfl, hHead, hTail⟩ := List.map_eq_cons_iff.mp h.symm
    rw [List.map_cons, List.map_cons, List.map_cons, List.map_cons, hf a a' hHead.symm, ih hTail.symm]

theorem map_filter {p : α → Bool} (hp : ∀ a a', obs a = obs a' → p a = p a') (h : l.map obs = l'.map obs) :
    (l.filter p).map obs = (l'.filter p).map obs := by
  induction l generalizing l' with
  | nil => rw [List.map_eq_nil_iff.mp h.symm]
  | cons a l ih =>
    obtain ⟨a', t, rfl, hHead, hTail⟩ := List.map_eq_cons_iff.mp h.symm
    rw [List.filter_cons, List.filter_cons, hp a a' hHead.symm]
    split
    · rw [List.map_cons, List.map_cons, hHead, ih hTail.symm]
    · exact ih hTail.symm

theorem map_insertionSort {r : α → α → Prop} [DecidableRel r]
    (hr : ∀ a a' b b', obs a = obs a' → obs b = obs b' → (r a b ↔ r a' b')) (h : l.map obs = l'.map obs) :
    (l.insertionSort r).map obs = (l'.insertionSort r).map obs := by
  classical
  -- the order, read off what the observer sees
  let s : β → β → Prop := fun x y => ∃ a b, obs a = x ∧ obs b = y ∧ r a b
  have hIff (a b : α) : r a b ↔ s (obs a) (obs b) := by
    constructor
    · exact fun hab => ⟨a, b, rfl, rfl, hab⟩
    · rintro ⟨a', b', ha, hb, hab⟩
      exact (hr a' a b' b ha hb).mp hab
  rw [List.map_insertionSort r s obs l fun a _ b _ => hIff a b,
    List.map_insertionSort r s obs l' fun a _ b _ => hIff a b, h]

theorem map_eq_of_obs {γ : Type w} {f f' : α → γ} (h : l.map obs = l'.map obs)
    (hf : ∀ a ∈ l, ∀ a' ∈ l', obs a = obs a' → f a = f' a') : l.map f = l'.map f' := by
  induction l generalizing l' with
  | nil => rw [List.map_eq_nil_iff.mp h.symm]; rfl
  | cons a l ih =>
    obtain ⟨a', t, rfl, hHead, hTail⟩ := List.map_eq_cons_iff.mp h.symm
    have hRest := ih hTail.symm fun b hb b' hb' => hf b (List.mem_cons_of_mem _ hb) b' (List.mem_cons_of_mem _ hb')
    rw [List.map_cons, List.map_cons, hf a List.mem_cons_self a' List.mem_cons_self hHead.symm, hRest]

theorem except_map_eq_of_obs {ε : Type*} {γ : Type w} {f f' : α → γ} {x x' : Except ε (List α)}
    (h : x.map (List.map obs) = x'.map (List.map obs))
    (hf : ∀ l l', x = .ok l → x' = .ok l' → ∀ a ∈ l, ∀ a' ∈ l', obs a = obs a' → f a = f' a') :
    x.map (List.map f) = x'.map (List.map f') := by
  cases x with
  | error e =>
    cases x' with
    | error e' =>
      cases h
      rfl
    | ok l' => cases h
  | ok l =>
    cases x' with
    | error e' => cases h
    | ok l' => exact congrArg Except.ok (map_eq_of_obs (Except.ok.inj h) (hf l l' rfl rfl))

end Foundation.Observation
