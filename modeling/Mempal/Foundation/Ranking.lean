import Mathlib.Data.List.Nodup
import Mathlib.Data.List.Pairwise
import Mathlib.Data.List.Sort

set_option autoImplicit false

/-! Lists that show the first ones of some candidates by an order other than the one they were sorted by. -/

namespace Foundation.Ranking

universe u v w

variable {α : Type u} {β : Type v} {ι : Type w} {l l' candidates : List α}

theorem eq_of_map_eq {key : α → β} (hInj : ∀ a ∈ l, ∀ b ∈ l', key a = key b → a = b)
    (h : l.map key = l'.map key) : l = l' := by
  induction l generalizing l' with
  | nil => exact (List.map_eq_nil_iff.mp h.symm).symm
  | cons a l ih =>
    cases l' with
    | nil => cases h
    | cons b l' =>
      obtain ⟨hHead, hTail⟩ := List.cons.inj h
      rw [hInj a List.mem_cons_self b List.mem_cons_self hHead,
        ih (fun x hx y hy => hInj x (List.mem_cons_of_mem _ hx) y (List.mem_cons_of_mem _ hy)) hTail]

theorem pairwise_iff_of_pairwise {order agrees : α → α → Prop} (hSorted : l.Pairwise order)
    (hAntisymm : ∀ a ∈ l, ∀ b ∈ l, order a b → order b a → a = b) (hRefl : ∀ a, agrees a a) :
    l.Pairwise agrees ↔ ∀ a ∈ l, ∀ b ∈ l, order a b → agrees a b := by
  constructor
  · intro hAgrees a ha b hb hOrder
    rcases eq_or_ne a b with rfl | hNe
    · exact hRefl a
    let either (a b : α) : Prop := order a b ∧ agrees a b ∨ order b a ∧ agrees b a
    have : Std.Symm either := ⟨fun _ _ => Or.symm⟩
    have hEither : l.Pairwise either := (hSorted.and hAgrees).imp Or.inl
    rcases hEither.forall ha hb hNe with h | h
    · exact h.2
    · exact absurd (hAntisymm a ha b hb hOrder h.1) hNe
  · intro h
    exact hSorted.imp_of_mem fun ha hb hOrder => h _ ha _ hb hOrder

/-- The first element of a sorted list comes before the later ones and not after the earlier ones. -/
theorem head?_insertionSort {order : α → α → Prop} [DecidableRel order] [Std.Total order] [IsTrans α order] {a : α}
    (h : (l.insertionSort order).head? = some a) :
    ∃ front back, l = front ++ a :: back ∧ (∀ b ∈ front, ¬ order b a) ∧ ∀ b ∈ back, order a b := by
  induction l generalizing a with
  | nil => cases h
  | cons b l ih =>
    rw [List.insertionSort_cons] at h
    cases hSorted : l.insertionSort order with
    | nil =>
      have hNil : l = [] := List.perm_nil.mp (hSorted ▸ (List.perm_insertionSort order l).symm)
      rw [hSorted] at h
      cases h
      exact ⟨[], l, rfl, by simp, by simp [hNil]⟩
    | cons c rest =>
      rw [hSorted, List.orderedInsert_cons] at h
      obtain ⟨front, back, rfl, hFront, hBack⟩ := ih (by rw [hSorted]; rfl)
      split at h
      · rename_i hFirst
        cases h
        refine ⟨[], _, rfl, by simp, fun x hx => ?_⟩
        rcases List.mem_append.mp hx with hx | hx
        · exact IsTrans.trans _ _ _ hFirst ((Std.Total.total c x).resolve_right (hFront x hx))
        · rcases List.mem_cons.mp hx with rfl | hx
          · exact hFirst
          · exact IsTrans.trans _ _ _ hFirst (hBack x hx)
      · rename_i hLater
        cases h
        refine ⟨b :: front, back, rfl, fun x hx => ?_, hBack⟩
        rcases List.mem_cons.mp hx with rfl | hx
        · exact hLater
        · exact hFront x hx

/-- What is listed are the first candidates, none of which comes after one that is `before` it. -/
def ListsFirst (before : α → α → Prop) (key : α → β) (candidates : List α) (listed : List β) : Prop :=
  ∃ sorted : List α, sorted.Perm candidates ∧ sorted.Pairwise (fun a b => ¬before b a) ∧ listed <+: sorted.map key

theorem forall_listsFirst_iff {order before : α → α → Prop} {key : α → β} {listed : ι → List β}
    (hPerm : l.Perm candidates) (hSorted : l.Pairwise order) (hKeys : (candidates.map key).Nodup)
    (hAntisymm : ∀ a ∈ candidates, ∀ b ∈ candidates, order a b → order b a → a = b)
    (hIrrefl : ∀ a, ¬before a a) (hPrefix : ∀ i, listed i <+: l.map key) (hAll : ∃ i, listed i = l.map key) :
    (∀ i, ListsFirst before key candidates (listed i)) ↔
      ∀ a ∈ candidates, ∀ b ∈ candidates, order a b → ¬before b a := by
  have hIff : l.Pairwise (fun a b => ¬before b a) ↔ ∀ a ∈ l, ∀ b ∈ l, order a b → ¬before b a :=
    pairwise_iff_of_pairwise hSorted (fun a ha b hb => hAntisymm a (hPerm.subset ha) b (hPerm.subset hb)) hIrrefl
  simp only [hPerm.mem_iff] at hIff
  rw [← hIff]
  constructor
  · intro h
    obtain ⟨i, hListed⟩ := hAll
    obtain ⟨sorted, hPerm', hOrdered, hFirst⟩ := h i
    have hInj : ∀ a ∈ l, ∀ b ∈ sorted, key a = key b → a = b := fun a ha b hb =>
      List.inj_on_of_nodup_map hKeys (hPerm.subset ha) (hPerm'.subset hb)
    rw [hListed] at hFirst
    rw [eq_of_map_eq hInj (hFirst.eq_of_length (by simp [(hPerm.trans hPerm'.symm).length_eq]))]
    exact hOrdered
  · exact fun hOrdered i => ⟨l, hPerm, hOrdered, hPrefix i⟩

end Foundation.Ranking
