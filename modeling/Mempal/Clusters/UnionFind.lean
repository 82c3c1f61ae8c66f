import Mathlib.Logic.Function.Basic
import Mempal.Foundation.Fuel
import Mempal.Foundation.Pointers

set_option autoImplicit false

/-! The parents and the ranks are hash maps; an id is added the first time it is looked for. -/

namespace Mempal.Clusters

open Foundation

structure UnionFind where
  parents : String → Option String
  ranks : String → Option Nat

namespace UnionFind

def empty : UnionFind := ⟨fun _ => none, fun _ => none⟩

def ensure (id : String) (uf : UnionFind) : UnionFind where
  parents := Function.update uf.parents id (some ((uf.parents id).getD id))
  ranks := Function.update uf.ranks id (some ((uf.ranks id).getD 0))

def setParent (id parent : String) (uf : UnionFind) : UnionFind :=
  { uf with parents := Function.update uf.parents id (some parent) }

def find : Nat → String → UnionFind → Option (String × UnionFind)
  | 0, _, _ => none
  | fuel + 1, id, uf =>
    let uf := uf.ensure id
    let parent := (uf.parents id).getD id
    if parent = id then some (parent, uf)
    else (find fuel parent uf).map fun found => (found.1, found.2.setParent id found.1)

/-- What `union` does with the roots it found. -/
def link (leftRoot rightRoot : String) (uf : UnionFind) : UnionFind :=
  let leftRank := (uf.ranks leftRoot).getD 0
  let rightRank := (uf.ranks rightRoot).getD 0
  if leftRoot = rightRoot then uf
  else if leftRank < rightRank then uf.setParent leftRoot rightRoot
  else if rightRank < leftRank then uf.setParent rightRoot leftRoot
  else { uf.setParent rightRoot leftRoot with
    ranks := Function.update uf.ranks leftRoot (some (min (leftRank + 1) 255)) }

def union (fuel : Nat) (left right : String) (uf : UnionFind) : Option UnionFind :=
  (uf.find fuel left).bind fun leftFound =>
    (leftFound.2.find fuel right).bind fun rightFound => some (rightFound.2.link leftFound.1 rightFound.1)

/-- A root is its own parent. -/
def next (uf : UnionFind) (id : String) : Option (Option String) :=
  (uf.parents id).map fun parent => if parent = id then none else some parent

theorem next_ensure {k : String} (id : String) (uf : UnionFind) :
    (uf.ensure id).next k = if k = id then some ((uf.next k).getD none) else uf.next k := by
  have hParents : (uf.ensure id).parents k = if k = id then some ((uf.parents k).getD k) else uf.parents k := by
    by_cases hk : k = id <;> simp [ensure, hk]
  rw [next, next, hParents]
  by_cases hk : k = id
  · cases uf.parents k <;> simp
  · rw [if_neg hk, if_neg hk]

variable {id leftRoot rightRoot left right : String} {uf uf' : UnionFind} {v : Option String} {fuel : Nat}

theorem next_ensure_of_known (h : uf.next id = some v) : (uf.ensure id).next = uf.next := by
  funext k
  rw [next_ensure]
  split
  · rename_i hk
    rw [hk, h]
    rfl
  · rfl

theorem next_setParent {parent : String} (h : parent ≠ id) (uf : UnionFind) (k : String) :
    (uf.setParent id parent).next k = if k = id then some (some parent) else uf.next k := by
  have hParents : (uf.setParent id parent).parents k = if k = id then some parent else uf.parents k :=
    Function.update_apply _ _ _ _
  rw [next, next, hParents]
  by_cases hk : k = id
  · rw [if_pos hk, if_pos hk, Option.map_some, if_neg (hk ▸ h)]
  · rw [if_neg hk, if_neg hk]

theorem leads_ensure (id : String) (hForest : Forest uf.next) :
    Forest (uf.ensure id).next ∧ (∀ k r, Leads uf.next k r → Leads (uf.ensure id).next k r) ∧
      ∀ k r, Leads (uf.ensure id).next k r → Leads uf.next k r ∨ k = id ∧ r = id := by
  cases hKnown : uf.next id with
  | some v =>
    rw [next_ensure_of_known hKnown]
    exact ⟨hForest, fun _ _ h => h, fun _ _ h => Or.inl h⟩
  | none =>
    have hNext : ∀ k, (uf.ensure id).next k = if k = id then some none else uf.next k := by
      intro k
      rw [next_ensure]
      by_cases hk : k = id
      · rw [if_pos hk, if_pos hk, hk, hKnown]
        rfl
      · rw [if_neg hk, if_neg hk]
    have hKept : ∀ k v, uf.next k = some v → (uf.ensure id).next k = some v := by
      intro k v hk
      have hNe : k ≠ id := by
        rintro rfl
        rw [hKnown] at hk
        cases hk
      rwa [hNext, if_neg hNe]
    refine ⟨hForest.grow hKept ?_, fun k r h => h.mono hKept, ?_⟩
    · intro k v hk
      rw [hNext] at hk
      split at hk
      · cases hk
        exact Or.inr rfl
      · exact Or.inl hk
    · intro k r h
      induction h with
      | @root k h =>
        rw [hNext] at h
        split at h
        · rename_i hk
          exact Or.inr ⟨hk, hk⟩
        · exact Or.inl (.root h)
      | @link k k' r h _ ih =>
        rw [hNext] at h
        split at h
        · cases h
        · rcases ih with hLeads | ⟨rfl, _⟩
          · exact Or.inl (.link h hLeads)
          · obtain ⟨v, hv⟩ := hForest.isNode h
            rw [hKnown] at hv
            cases hv

theorem parents_of_next (h : uf.next id = some v) : (uf.parents id).getD id = v.getD id := by
  obtain ⟨parent, hParent, hv⟩ := Option.map_eq_some_iff.mp h
  rw [hParent, ← hv]
  split <;> simp [*]

/-- A known id: `find` returns its root and leaves every root where it is. -/
theorem find_of_leads {root : String} (hForest : Forest uf.next) (h : Leads uf.next id root) :
    ∃ uf', Returns (fun fuel => uf.find fuel id) (root, uf') ∧ Forest uf'.next ∧
      ∀ k r, Leads uf'.next k r ↔ Leads uf.next k r := by
  generalize hNext : uf.next = pointers at h
  induction h generalizing uf with
  | @root id h =>
    subst hNext
    have hSame := next_ensure_of_known h
    refine ⟨uf.ensure id, ?_, hSame.symm ▸ hForest, fun k r => by rw [hSame]⟩
    apply Returns.succ
    have hParent := parents_of_next (hSame.symm ▸ h)
    simp only [find, hParent, Option.getD_none, if_true]
    exact Returns.pure _
  | @link id parent root h hRest ih =>
    subst hNext
    have hSame := next_ensure_of_known h
    obtain ⟨uf', hReturns, hForest', hLeads⟩ := ih (hSame.symm ▸ hForest) hSame
    have hRoot : Leads uf'.next id root := (hLeads id root).mpr (.link h hRest)
    have hNe : id ≠ root := by
      rintro rfl
      have hEnd := hRest.isRoot
      rw [h] at hEnd
      cases hEnd
    have hSource : (uf'.setParent id root).next id = some (some root) := by
      rw [next_setParent hNe.symm, if_pos rfl]
    have hKept : ∀ k ≠ id, (uf'.setParent id root).next k = uf'.next k := by
      intro k hk
      rw [next_setParent hNe.symm, if_neg hk]
    refine ⟨uf'.setParent id root, ?_, hForest'.compress hRoot hNe hSource hKept, fun k r => ?_⟩
    · apply Returns.succ
      have hParent := parents_of_next (hSame.symm ▸ h)
      have hOther : parent ≠ id := by
        rintro rfl
        exact (Leads.link h hRest).not_cycle (Relation.TransGen.single h)
      simp only [find, hParent, Option.getD_some, if_neg hOther]
      exact hReturns.map _
    · rw [leads_compress hRoot hNe hSource hKept, hLeads]

/-- Every call of `find` returns in a forest; the id it is called with becomes known and nothing else changes. -/
theorem find_returns (hForest : Forest uf.next) (id : String) :
    ∃ root uf', Returns (fun fuel => uf.find fuel id) (root, uf') ∧ Forest uf'.next ∧ Leads uf'.next id root ∧
      (∀ k r, Leads uf.next k r → Leads uf'.next k r) ∧
      ∀ k r, Leads uf'.next k r → Leads uf.next k r ∨ k = id ∧ r = id := by
  obtain ⟨hForest₁, hOld, hNew⟩ := leads_ensure id hForest
  have hKnown : (uf.ensure id).next id = some ((uf.next id).getD none) := by rw [next_ensure, if_pos rfl]
  obtain ⟨root, hRoot⟩ := hForest₁ id _ hKnown
  obtain ⟨uf', ⟨bound, hReturns⟩, hForest', hLeads⟩ := find_of_leads hForest₁ hRoot
  refine ⟨root, uf', ?_, hForest', (hLeads id root).mpr hRoot, ?_, ?_⟩
  · -- a second `ensure` of the same id changes nothing
    have hTwice : (uf.ensure id).ensure id = uf.ensure id := by
      simp [ensure, Function.update_idem]
    refine ⟨bound + 1, fun fuel hFuel => ?_⟩
    obtain ⟨fuel, rfl⟩ : ∃ n, fuel = n + 1 := ⟨fuel - 1, by omega⟩
    have hFound := hReturns (fuel + 1) (by omega)
    simpa only [find, hTwice] using hFound
  · exact fun k r h => (hLeads k r).mpr (hOld k r h)
  · exact fun k r h => hNew k r ((hLeads k r).mp h)

theorem joined_of_find {x y : String} (hNew : ∀ k r, Leads uf'.next k r → Leads uf.next k r ∨ k = id ∧ r = id)
    (h : Joined uf'.next x y) : Joined uf.next x y ∨ x = id ∧ y = id := by
  obtain ⟨r, hx, hy⟩ := h
  rcases hNew x r hx with hx | ⟨hxId, hr⟩ <;> rcases hNew y r hy with hy | ⟨hyId, hr'⟩
  · exact Or.inl ⟨r, hx, hy⟩
  · subst hyId hr'
    exact Or.inl ⟨_, hx, .root hx.isRoot⟩
  · subst hxId hr
    exact Or.inl ⟨_, .root hy.isRoot, hy⟩
  · exact Or.inr ⟨hxId, hyId⟩

theorem next_link (hNe : leftRoot ≠ rightRoot) (uf : UnionFind) :
    (∀ k, (uf.link leftRoot rightRoot).next k = if k = leftRoot then some (some rightRoot) else uf.next k) ∨
      ∀ k, (uf.link leftRoot rightRoot).next k = if k = rightRoot then some (some leftRoot) else uf.next k := by
  simp only [link, if_neg hNe]
  split
  · exact Or.inl (next_setParent hNe.symm uf)
  · split
    · exact Or.inr (next_setParent hNe uf)
    · exact Or.inr (next_setParent hNe uf)

theorem link_joins (hForest : Forest uf.next)
    (hLeft : Leads uf.next left leftRoot) (hRight : Leads uf.next right rightRoot) :
    Forest (uf.link leftRoot rightRoot).next ∧ ∀ x y, Joined (uf.link leftRoot rightRoot).next x y ↔
      Joined uf.next x y ∨ Joined uf.next x left ∧ Joined uf.next y right ∨
        Joined uf.next x right ∧ Joined uf.next y left := by
  simp only [joined_iff_leads hLeft, joined_iff_leads hRight]
  by_cases hNe : leftRoot = rightRoot
  · subst hNe
    have hSame : uf.link leftRoot leftRoot = uf := if_pos rfl
    rw [hSame]
    refine ⟨hForest, fun x y => ⟨Or.inl, ?_⟩⟩
    rintro (h | ⟨hx, hy⟩ | ⟨hx, hy⟩)
    · exact h
    · exact ⟨leftRoot, hx, hy⟩
    · exact ⟨leftRoot, hx, hy⟩
  · rcases next_link hNe uf with hNext | hNext
    · have hSource := (hNext leftRoot).trans (if_pos rfl)
      have hKept : ∀ k ≠ leftRoot, (uf.link leftRoot rightRoot).next k = uf.next k :=
        fun k hk => (hNext k).trans (if_neg hk)
      have hRoots := Ne.symm hNe
      exact ⟨hForest.redirect hRight.isRoot hLeft.isRoot hRoots hSource hKept,
        fun x y => joined_redirect hRight.isRoot hLeft.isRoot hRoots hSource hKept⟩
    · have hSource := (hNext rightRoot).trans (if_pos rfl)
      have hKept : ∀ k ≠ rightRoot, (uf.link leftRoot rightRoot).next k = uf.next k :=
        fun k hk => (hNext k).trans (if_neg hk)
      refine ⟨hForest.redirect hLeft.isRoot hRight.isRoot hNe hSource hKept, fun x y => ?_⟩
      rw [joined_redirect hLeft.isRoot hRight.isRoot hNe hSource hKept, or_comm (a := _ ∧ _)]

theorem union_returns (hForest : Forest uf.next) (left right : String) :
    ∃ uf', Returns (fun fuel => uf.union fuel left right) uf' ∧ Forest uf'.next ∧
      (∀ x y, Joined uf.next x y → Joined uf'.next x y) ∧ Joined uf'.next left right ∧
      ∀ Q : String → String → Prop, (∀ x y, Q x y → Q y x) → (∀ x y z, Q x y → Q y z → Q x z) →
        (∀ x y, Joined uf.next x y → Q x y) → Q left right → ∀ x y, Joined uf'.next x y → Q x y := by
  obtain ⟨leftRoot, uf₁, hReturns₁, hForest₁, hLeft₁, hOld₁, hNew₁⟩ := find_returns hForest left
  obtain ⟨rightRoot, uf₂, hReturns₂, hForest₂, hRight₂, hOld₂, hNew₂⟩ := find_returns hForest₁ right
  have hLeft₂ := hOld₂ left leftRoot hLeft₁
  obtain ⟨hForest', hJoined⟩ := link_joins hForest₂ hLeft₂ hRight₂
  refine ⟨uf₂.link leftRoot rightRoot, ?_, hForest', ?_, ?_, ?_⟩
  · exact hReturns₁.bind (hReturns₂.bind (Returns.pure _))
  · rintro x y ⟨r, hx, hy⟩
    exact (hJoined x y).mpr (Or.inl ⟨r, hOld₂ x r (hOld₁ x r hx), hOld₂ y r (hOld₁ y r hy)⟩)
  · exact (hJoined left right).mpr (Or.inr (Or.inl ⟨⟨_, hLeft₂, hLeft₂⟩, ⟨_, hRight₂, hRight₂⟩⟩))
  · intro Q hSymm hTrans hKept hPair
    have hBoth : ∀ x y, Joined uf₂.next x y → Q x y := by
      intro x y h
      rcases joined_of_find hNew₂ h with h | ⟨rfl, rfl⟩
      · rcases joined_of_find hNew₁ h with h | ⟨rfl, rfl⟩
        · exact hKept x y h
        · exact hTrans _ _ _ hPair (hSymm _ _ hPair)
      · exact hTrans _ _ _ (hSymm _ _ hPair) hPair
    intro x y h
    rcases (hJoined x y).mp h with h | ⟨hx, hy⟩ | ⟨hx, hy⟩
    · exact hBoth x y h
    · exact hTrans _ _ _ (hBoth x left hx) (hTrans _ _ _ hPair (hSymm _ _ (hBoth y right hy)))
    · exact hTrans _ _ _ (hBoth x right hx) (hTrans _ _ _ (hSymm _ _ hPair) (hSymm _ _ (hBoth y left hy)))

theorem find_succ {found : String × UnionFind} (h : uf.find fuel id = some found) :
    uf.find (fuel + 1) id = some found := by
  induction fuel generalizing id uf found with
  | zero => cases h
  | succ fuel ih =>
    rw [find] at h ⊢
    split at h
    · rename_i hRoot
      rwa [if_pos hRoot]
    · rename_i hOther
      rw [if_neg hOther]
      obtain ⟨found', hFound, rfl⟩ := Option.map_eq_some_iff.mp h
      rw [ih hFound]
      rfl

theorem union_succ (h : uf.union fuel left right = some uf') : uf.union (fuel + 1) left right = some uf' := by
  obtain ⟨leftFound, hLeft, h⟩ := Option.bind_eq_some_iff.mp h
  obtain ⟨rightFound, hRight, h⟩ := Option.bind_eq_some_iff.mp h
  rw [union, find_succ hLeft, Option.bind_some, find_succ hRight]
  exact h

inductive Built : UnionFind → Prop
  | empty : Built empty
  | find {fuel : Nat} {id : String} {uf : UnionFind} {found : String × UnionFind} (h : Built uf)
    (hFind : uf.find fuel id = some found) : Built found.2
  | union {fuel : Nat} {left right : String} {uf uf' : UnionFind} (h : Built uf)
    (hUnion : uf.union fuel left right = some uf') : Built uf'

theorem Built.forest (h : Built uf) : Forest uf.next := by
  induction h with
  | empty =>
    intro k v hk
    cases hk
  | @find fuel id uf found _ hFind ih =>
    obtain ⟨root, uf', hReturns, hForest, _⟩ := find_returns ih id
    cases hReturns.eq_of_mono (fun _ _ => find_succ) hFind
    exact hForest
  | @union fuel left right uf uf' _ hUnion ih =>
    obtain ⟨uf'', hReturns, hForest, _⟩ := union_returns ih left right
    cases hReturns.eq_of_mono (fun _ _ => union_succ) hUnion
    exact hForest

end UnionFind

end Mempal.Clusters
