import Mathlib.Logic.Relation

set_option autoImplicit false

/-! Every key is no node, a root, or a node that points to another key. -/

namespace Foundation

universe u

variable {K : Type u}

def Points (next : K → Option (Option K)) (k k' : K) : Prop := next k = some (some k')

inductive Leads (next : K → Option (Option K)) : K → K → Prop
  | root {r : K} (h : next r = some none) : Leads next r r
  | link {k k' r : K} (h : next k = some (some k')) (hRest : Leads next k' r) : Leads next k r

variable {next next' : K → Option (Option K)} {k s t r r' : K}

namespace Leads

section
variable (h : Leads next k r)
include h

theorem isRoot : next r = some none := by
  induction h with
  | root h => exact h
  | link _ _ ih => exact ih

theorem isNode : ∃ v, next k = some v := by
  cases h with
  | root h | link h => exact ⟨_, h⟩

theorem path : Relation.ReflTransGen (Points next) k r := by
  induction h with
  | root h => exact Relation.ReflTransGen.refl
  | link h _ ih => exact Relation.ReflTransGen.head h ih

theorem unique (h' : Leads next k r') : r = r' := by
  induction h with
  | root h =>
    cases h' with
    | root _ => rfl
    | link hLink _ =>
      rw [h] at hLink
      cases hLink
  | link h _ ih =>
    cases h' with
    | root hRoot =>
      rw [h] at hRoot
      cases hRoot
    | link hLink hRest =>
      rw [h] at hLink
      cases hLink
      exact ih hRest

theorem eq_of_isRoot (hRoot : next k = some none) : r = k := h.unique (.root hRoot)

theorem not_cycle : ¬Relation.TransGen (Points next) k k := by
  induction h with
  | root h =>
    intro hCycle
    obtain ⟨k', hStep, _⟩ := Relation.TransGen.head'_iff.mp hCycle
    rw [Points, h] at hStep
    cases hStep
  | @link k k' r h _ ih =>
    -- the cycle leaves `k` through its only pointer, so it is a cycle of the next node as well
    intro hCycle
    obtain ⟨k'', hStep, hBack⟩ := Relation.TransGen.head'_iff.mp hCycle
    rw [Points, h] at hStep
    cases hStep
    exact ih (Relation.TransGen.tail' hBack h)

theorem mono (hKept : ∀ k v, next k = some v → next' k = some v) : Leads next' k r := by
  induction h with
  | root h => exact .root (hKept _ _ h)
  | link h _ ih => exact .link (hKept _ _ h) ih

end

end Leads

theorem leads_compress (hLeads : Leads next s t) (hNe : s ≠ t) (hSource : next' s = some (some t))
    (hKept : ∀ k ≠ s, next' k = next k) : Leads next' k r ↔ Leads next k r := by
  have hRoot : next' t = some none := (hKept t hNe.symm).trans hLeads.isRoot
  constructor
  · intro h
    induction h with
    | @root k h =>
      have hk : k ≠ s := by
        rintro rfl
        rw [hSource] at h
        cases h
      exact .root ((hKept k hk).symm.trans h)
    | @link k k' r h _ ih =>
      by_cases hk : k = s
      · subst hk
        rw [hSource] at h
        cases h
        rw [ih.eq_of_isRoot hLeads.isRoot]
        exact hLeads
      · exact .link ((hKept k hk).symm.trans h) ih
  · intro h
    induction h with
    | @root k h =>
      have hk : k ≠ s := by
        rintro rfl
        exact hNe (hLeads.eq_of_isRoot h).symm
      exact .root ((hKept k hk).trans h)
    | @link k k' r h hRest ih =>
      by_cases hk : k = s
      · subst hk
        rw [(Leads.link h hRest).unique hLeads]
        exact .link hSource (.root hRoot)
      · exact .link ((hKept k hk).trans h) ih

theorem leads_redirect (hTarget : next t = some none) (hOld : next s = some none) (hNe : t ≠ s)
    (hSource : next' s = some (some t)) (hKept : ∀ k ≠ s, next' k = next k) :
    Leads next' k r ↔ Leads next k r ∧ r ≠ s ∨ Leads next k s ∧ r = t := by
  have hRoot : next' t = some none := (hKept t hNe).trans hTarget
  constructor
  · intro h
    induction h with
    | @root k h =>
      have hk : k ≠ s := by
        rintro rfl
        rw [hSource] at h
        cases h
      exact Or.inl ⟨.root ((hKept k hk).symm.trans h), hk⟩
    | @link k k' r h hRest ih =>
      by_cases hk : k = s
      · subst hk
        rw [hSource] at h
        cases h
        exact Or.inr ⟨.root hOld, hRest.eq_of_isRoot hRoot⟩
      · have hLink := (hKept k hk).symm.trans h
        exact ih.imp (fun hLeads => ⟨.link hLink hLeads.1, hLeads.2⟩) fun hLeads => ⟨.link hLink hLeads.1, hLeads.2⟩
  · have hStill : ∀ {k r}, Leads next k r → r ≠ s ∧ Leads next' k r ∨ r = s ∧ Leads next' k t := by
      intro k r h
      induction h with
      | @root k h =>
        by_cases hk : k = s
        · exact Or.inr ⟨hk, .link (hk ▸ hSource) (.root hRoot)⟩
        · exact Or.inl ⟨hk, .root ((hKept k hk).trans h)⟩
      | @link k k' r h _ ih =>
        have hk : k ≠ s := by
          rintro rfl
          rw [hOld] at h
          cases h
        have hLink := (hKept k hk).trans h
        exact ih.imp (fun hLeads => ⟨hLeads.1, .link hLink hLeads.2⟩) fun hLeads => ⟨hLeads.1, .link hLink hLeads.2⟩
    rintro (⟨h, hr⟩ | ⟨h, hr⟩)
    · exact ((hStill h).resolve_right fun hEq => hr hEq.1).2
    · exact hr ▸ ((hStill h).resolve_left fun hEq => hEq.1 rfl).2

def Forest (next : K → Option (Option K)) : Prop := ∀ k v, next k = some v → ∃ r, Leads next k r

namespace Forest

theorem isNode {k k' : K} (h : Forest next) (hPoints : Points next k k') : ∃ v, next k' = some v := by
  obtain ⟨r, hr⟩ := h k _ hPoints
  cases hr with
  | root hRoot =>
    rw [Points, hRoot] at hPoints
    cases hPoints
  | link hLink hRest =>
    rw [Points, hLink] at hPoints
    cases hPoints
    exact hRest.isNode

theorem grow (h : Forest next) (hKept : ∀ k v, next k = some v → next' k = some v)
    (hNew : ∀ k v, next' k = some v → next k = some v ∨ v = none) : Forest next' := by
  intro k v hk
  rcases hNew k v hk with hOld | rfl
  · obtain ⟨r, hLeads⟩ := h k v hOld
    exact ⟨r, hLeads.mono hKept⟩
  · exact ⟨k, .root hk⟩

theorem redirect (h : Forest next) (hTarget : next t = some none) (hOld : next s = some none) (hNe : t ≠ s)
    (hSource : next' s = some (some t)) (hKept : ∀ k ≠ s, next' k = next k) : Forest next' := by
  have hLeads (k r : K) := leads_redirect (k := k) (r := r) hTarget hOld hNe hSource hKept
  intro k v hk
  by_cases hSame : k = s
  · subst hSame
    exact ⟨t, (hLeads k t).mpr (Or.inr ⟨.root hOld, rfl⟩)⟩
  · obtain ⟨r, hr⟩ := h k v ((hKept k hSame).symm.trans hk)
    by_cases hRoot : r = s
    · exact ⟨t, (hLeads k t).mpr (Or.inr ⟨hRoot ▸ hr, rfl⟩)⟩
    · exact ⟨r, (hLeads k r).mpr (Or.inl ⟨hr, hRoot⟩)⟩

theorem compress (h : Forest next) (hLeads : Leads next s t) (hNe : s ≠ t) (hSource : next' s = some (some t))
    (hKept : ∀ k ≠ s, next' k = next k) : Forest next' := by
  intro k v hk
  by_cases hSame : k = s
  · exact ⟨t, (leads_compress hLeads hNe hSource hKept).mpr (hSame ▸ hLeads)⟩
  · obtain ⟨r, hr⟩ := h k v ((hKept k hSame).symm.trans hk)
    exact ⟨r, (leads_compress hLeads hNe hSource hKept).mpr hr⟩

theorem drop (h : Forest next) (hUnreferenced : ∀ k, ¬Points next k s) (hGone : next' s = none)
    (hKept : ∀ k ≠ s, next' k = next k) : Forest next' := by
  intro k v hk
  have hNe : k ≠ s := by
    rintro rfl
    rw [hGone] at hk
    cases hk
  obtain ⟨r, hr⟩ := h k v ((hKept k hNe).symm.trans hk)
  refine ⟨r, ?_⟩
  clear hk
  induction hr with
  | @root k hk => exact .root ((hKept k hNe).trans hk)
  | @link k k' r hk _ ih =>
    have hNext : k' ≠ s := by
      rintro rfl
      exact hUnreferenced k hk
    exact .link ((hKept k hNe).trans hk) (ih hNext)

end Forest

def Joined (next : K → Option (Option K)) (k k' : K) : Prop := ∃ r, Leads next k r ∧ Leads next k' r

namespace Joined

theorem symm {k k' : K} (h : Joined next k k') : Joined next k' k := by
  obtain ⟨r, hk, hk'⟩ := h
  exact ⟨r, hk', hk⟩

theorem trans {k k' k'' : K} (h : Joined next k k') (h' : Joined next k' k'') : Joined next k k'' := by
  obtain ⟨r, hk, hk'⟩ := h
  obtain ⟨r', hk₁, hk''⟩ := h'
  cases hk'.unique hk₁
  exact ⟨r, hk, hk''⟩

end Joined

theorem joined_iff_leads {k k' : K} (h : Leads next k' r) : Joined next k k' ↔ Leads next k r := by
  constructor
  · rintro ⟨r', hk, hk'⟩
    cases hk'.unique h
    exact hk
  · exact fun hk => ⟨r, hk, h⟩

theorem joined_redirect {k k' : K} (hTarget : next t = some none) (hOld : next s = some none) (hNe : t ≠ s)
    (hSource : next' s = some (some t)) (hKept : ∀ k ≠ s, next' k = next k) :
    Joined next' k k' ↔
      Joined next k k' ∨ Leads next k s ∧ Leads next k' t ∨ Leads next k t ∧ Leads next k' s := by
  have hLeads (k r : K) := leads_redirect (k := k) (r := r) hTarget hOld hNe hSource hKept
  constructor
  · rintro ⟨r, hk, hk'⟩
    rcases (hLeads k r).mp hk with ⟨h, hr⟩ | ⟨h, rfl⟩ <;> rcases (hLeads k' r).mp hk' with ⟨h', hr'⟩ | ⟨h', hEq⟩
    · exact Or.inl ⟨r, h, h'⟩
    · exact Or.inr (Or.inr ⟨hEq ▸ h, h'⟩)
    · exact Or.inr (Or.inl ⟨h, h'⟩)
    · exact Or.inl ⟨s, h, h'⟩
  · rintro (⟨r, h, h'⟩ | ⟨h, h'⟩ | ⟨h, h'⟩)
    · by_cases hr : r = s
      · subst hr
        exact ⟨t, (hLeads k t).mpr (Or.inr ⟨h, rfl⟩), (hLeads k' t).mpr (Or.inr ⟨h', rfl⟩)⟩
      · exact ⟨r, (hLeads k r).mpr (Or.inl ⟨h, hr⟩), (hLeads k' r).mpr (Or.inl ⟨h', hr⟩)⟩
    · exact ⟨t, (hLeads k t).mpr (Or.inr ⟨h, rfl⟩), (hLeads k' t).mpr (Or.inl ⟨h', hNe⟩)⟩
    · exact ⟨t, (hLeads k t).mpr (Or.inl ⟨h, hNe⟩), (hLeads k' t).mpr (Or.inr ⟨h', rfl⟩)⟩

end Foundation
