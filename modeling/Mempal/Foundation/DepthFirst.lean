import Mathlib.Data.Fintype.Card
import Mathlib.Data.List.Nodup
import Mathlib.Data.Set.Finite.Basic
import Mathlib.Logic.Relation

set_option autoImplicit false

/-! Each node has a list of children, and a walk calls itself on every child in order. -/

namespace Foundation

namespace DepthFirst

variable {ν : Type*}

/-- The walks of a list of children, the first of them at position `i`. -/
def walkAll (visit : ν → Option (List (List Nat × ν))) : Nat → List ν → Option (List (List Nat × ν))
  | _, [] => some []
  | i, c :: rest =>
    (visit c).bind fun here =>
      (walkAll visit (i + 1) rest).map fun later => here.map (fun met => (i :: met.1, met.2)) ++ later

/-- The nodes met from a node, each with its path; `none` when `fuel` calls are not enough. -/
def walk (children : ν → List ν) : Nat → ν → Option (List (List Nat × ν))
  | 0, _ => none
  | fuel + 1, v => (walkAll (walk children fuel) 0 (children v)).map (([], v) :: ·)

def Follows (children : ν → List ν) : List Nat → ν → ν → Prop
  | [], v, w => v = w
  | i :: path, v, w => ∃ c, (children v)[i]? = some c ∧ Follows children path c w

def Child (children : ν → List ν) (v c : ν) : Prop := c ∈ children v

abbrev Reaches (children : ν → List ν) : ν → ν → Prop := Relation.ReflTransGen (Child children)

variable {i fuel : Nat} {met : List (List Nat × ν)} {cs : List ν}

section WalkAll

variable {visit : ν → Option (List (List Nat × ν))}

theorem walkAll_cons {c : ν} {rest : List ν} :
    walkAll visit i (c :: rest) = some met ↔
      ∃ here later, visit c = some here ∧ walkAll visit (i + 1) rest = some later ∧
        here.map (fun m => (i :: m.1, m.2)) ++ later = met := by
  simp only [walkAll, Option.bind_eq_some_iff, Option.map_eq_some_iff]
  constructor
  · rintro ⟨here, hHere, later, hLater, rfl⟩
    exact ⟨here, later, hHere, hLater, rfl⟩
  · rintro ⟨here, later, hHere, hLater, rfl⟩
    exact ⟨here, hHere, later, hLater, rfl⟩

theorem walkAll_returns : (∃ met, walkAll visit i cs = some met) ↔ ∀ c ∈ cs, ∃ here, visit c = some here := by
  induction cs generalizing i with
  | nil => simp [walkAll]
  | cons c rest ih =>
    simp only [walkAll_cons, List.forall_mem_cons, ← ih (i := i + 1)]
    constructor
    · rintro ⟨_, here, later, hHere, hLater, rfl⟩
      exact ⟨⟨here, hHere⟩, later, hLater⟩
    · rintro ⟨⟨here, hHere⟩, later, hLater⟩
      exact ⟨_, here, later, hHere, hLater, rfl⟩

theorem mem_walkAll (h : walkAll visit i cs = some met) {path : List Nat} {w : ν} :
    (path, w) ∈ met ↔ ∃ k c here rest, cs[k]? = some c ∧ visit c = some here ∧ (rest, w) ∈ here ∧
      path = (i + k) :: rest := by
  induction cs generalizing i met with
  | nil =>
    obtain rfl := Option.some.inj h
    simp
  | cons c cs ih =>
    obtain ⟨here, later, hHere, hLater, rfl⟩ := walkAll_cons.mp h
    rw [List.mem_append, ih hLater]
    constructor
    · rintro (hMem | ⟨k, d, there, rest, hk, hThere, hMem, rfl⟩)
      · obtain ⟨⟨rest, w'⟩, hRest, hEq⟩ := List.mem_map.mp hMem
        obtain ⟨rfl, rfl⟩ := Prod.mk.inj hEq
        exact ⟨0, c, here, rest, rfl, hHere, hRest, rfl⟩
      · exact ⟨k + 1, d, there, rest, hk, hThere, hMem, by rw [Nat.add_assoc, Nat.add_comm 1 k]⟩
    · rintro ⟨k, d, there, rest, hk, hThere, hMem, rfl⟩
      cases k with
      | zero =>
        obtain rfl := Option.some.inj hk
        obtain rfl := Option.some.inj (hHere.symm.trans hThere)
        exact Or.inl (List.mem_map.mpr ⟨(rest, w), hMem, rfl⟩)
      | succ k => exact Or.inr ⟨k, d, there, rest, hk, hThere, hMem, by rw [Nat.add_assoc, Nat.add_comm 1 k]⟩

theorem walkAll_sorted (h : walkAll visit i cs = some met)
    (hVisit : ∀ c here, visit c = some here → here.Pairwise (fun m m' => m.1 < m'.1)) :
    met.Pairwise (fun m m' => m.1 < m'.1) := by
  induction cs generalizing i met with
  | nil =>
    obtain rfl := Option.some.inj h
    exact List.Pairwise.nil
  | cons c cs ih =>
    obtain ⟨here, later, hHere, hLater, rfl⟩ := walkAll_cons.mp h
    refine List.pairwise_append.mpr ⟨?_, ih hLater, ?_⟩
    · rw [List.pairwise_map]
      exact (hVisit c here hHere).imp fun hLt => List.cons_lt_cons_iff.mpr (Or.inr ⟨rfl, hLt⟩)
    · -- what a later child meets starts with a greater position
      rintro ⟨path, w⟩ hMem ⟨path', w'⟩ hMem'
      obtain ⟨m, _, hEq⟩ := List.mem_map.mp hMem
      obtain ⟨rfl, rfl⟩ := Prod.mk.inj hEq
      obtain ⟨k, _, _, rest, _, _, _, rfl⟩ := (mem_walkAll hLater).mp hMem'
      exact List.cons_lt_cons_iff.mpr (Or.inl (by omega))

theorem walkAll_mono {visit' : ν → Option (List (List Nat × ν))}
    (hVisit : ∀ c here, visit c = some here → visit' c = some here) (h : walkAll visit i cs = some met) :
    walkAll visit' i cs = some met := by
  induction cs generalizing i met with
  | nil => exact h
  | cons c cs ih =>
    obtain ⟨here, later, hHere, hLater, hMet⟩ := walkAll_cons.mp h
    exact walkAll_cons.mpr ⟨here, later, hVisit c here hHere, ih hLater, hMet⟩

end WalkAll

section Walk

variable {children : ν → List ν} {v : ν}

theorem walk_succ :
    walk children (fuel + 1) v = some met ↔
      ∃ below, walkAll (walk children fuel) 0 (children v) = some below ∧ ([], v) :: below = met :=
  Option.map_eq_some_iff

theorem walk_mono {fuel' : Nat} (hFuel : fuel ≤ fuel') (h : walk children fuel v = some met) :
    walk children fuel' v = some met := by
  induction fuel generalizing fuel' v met with
  | zero => cases h
  | succ fuel ih =>
    obtain ⟨below, hBelow, rfl⟩ := walk_succ.mp h
    obtain ⟨fuel', rfl⟩ : ∃ n, fuel' = n + 1 := ⟨fuel' - 1, by omega⟩
    exact walk_succ.mpr ⟨below, walkAll_mono (fun _ _ => ih (Nat.le_of_succ_le_succ hFuel)) hBelow, rfl⟩

theorem mem_walk {v w : ν} {path : List Nat} (h : walk children fuel v = some met) :
    (path, w) ∈ met ↔ Follows children path v w := by
  induction fuel generalizing v w path met with
  | zero => cases h
  | succ fuel ih =>
    obtain ⟨below, hBelow, rfl⟩ := walk_succ.mp h
    cases path with
    | nil =>
      have hNot : ([], w) ∉ below := by
        intro hMem
        obtain ⟨_, _, _, _, _, _, _, hEq⟩ := (mem_walkAll hBelow).mp hMem
        cases hEq
      simp [hNot, Follows, eq_comm]
    | cons i path =>
      rw [List.mem_cons, mem_walkAll hBelow, Follows]
      constructor
      · rintro (hEq | ⟨k, c, here, rest, hk, hHere, hMem, hEq⟩)
        · cases hEq
        · obtain ⟨rfl, rfl⟩ := List.cons.inj hEq
          exact ⟨c, by rwa [Nat.zero_add], (ih hHere).mp hMem⟩
      · rintro ⟨c, hc, hFollows⟩
        obtain ⟨here, hHere⟩ := walkAll_returns.mp ⟨below, hBelow⟩ c (List.mem_of_getElem? hc)
        exact Or.inr ⟨i, c, here, path, hc, hHere, (ih hHere).mpr hFollows, by rw [Nat.zero_add]⟩

theorem walk_sorted (h : walk children fuel v = some met) : met.Pairwise (fun m m' => m.1 < m'.1) := by
  induction fuel generalizing v met with
  | zero => cases h
  | succ fuel ih =>
    obtain ⟨below, hBelow, rfl⟩ := walk_succ.mp h
    refine List.pairwise_cons.mpr ⟨?_, walkAll_sorted hBelow fun _ _ => ih⟩
    rintro ⟨path, w⟩ hMem
    obtain ⟨_, _, _, _, _, _, _, rfl⟩ := (mem_walkAll hBelow).mp hMem
    exact List.nil_lt_cons _ _

theorem walk_paths_nodup (h : walk children fuel v = some met) : met.Nodup := by
  apply (walk_sorted h).imp
  rintro m m' hLt rfl
  exact List.lt_irrefl m.1 hLt

theorem walk_nodup_iff (h : walk children fuel v = some met) (kind : ν → Bool) :
    ((met.map Prod.snd).filter kind).Nodup ↔
      ∀ w path path', kind w = true → Follows children path v w → Follows children path' v w → path = path' := by
  rw [List.filter_map, List.nodup_map_iff_inj_on ((walk_paths_nodup h).filter _)]
  constructor
  · intro hInj w path path' hKind hPath hPath'
    have hMet : ∀ {p}, Follows children p v w → (p, w) ∈ met.filter (kind ∘ Prod.snd) := fun hp =>
      List.mem_filter.mpr ⟨(mem_walk h).mpr hp, hKind⟩
    exact congrArg Prod.fst (hInj _ (hMet hPath) _ (hMet hPath') rfl)
  · rintro hOne ⟨path, w⟩ hMem ⟨path', w'⟩ hMem' rfl
    obtain ⟨hMem, hKind⟩ := List.mem_filter.mp hMem
    rw [hOne w path path' hKind ((mem_walk h).mp hMem) ((mem_walk h).mp (List.mem_filter.mp hMem').1)]

theorem exists_fuel (h : ∀ c ∈ cs, ∃ fuel met, walk children fuel c = some met) :
    ∃ fuel, ∀ c ∈ cs, ∃ met, walk children fuel c = some met := by
  induction cs with
  | nil => exact ⟨0, fun _ hMem => absurd hMem List.not_mem_nil⟩
  | cons c cs ih =>
    obtain ⟨⟨fuel, met, hMet⟩, hRest⟩ := List.forall_mem_cons.mp h
    obtain ⟨fuel', hFuel'⟩ := ih hRest
    refine ⟨max fuel fuel', List.forall_mem_cons.mpr ⟨⟨met, walk_mono (Nat.le_max_left _ _) hMet⟩, ?_⟩⟩
    intro d hMem
    obtain ⟨met', hMet'⟩ := hFuel' d hMem
    exact ⟨met', walk_mono (Nat.le_max_right _ _) hMet'⟩

theorem walk_returns_iff_acc :
    (∃ fuel met, walk children fuel v = some met) ↔ Acc (fun c p => Child children p c) v := by
  constructor
  · rintro ⟨fuel, met, hMet⟩
    induction fuel generalizing v met with
    | zero => cases hMet
    | succ fuel ih =>
      obtain ⟨below, hBelow, _⟩ := walk_succ.mp hMet
      refine Acc.intro v fun c hChild => ?_
      obtain ⟨here, hHere⟩ := walkAll_returns.mp ⟨below, hBelow⟩ c hChild
      exact ih here hHere
  · intro hAcc
    induction hAcc with
    | intro v _ ih =>
      obtain ⟨fuel, hFuel⟩ := exists_fuel ih
      obtain ⟨below, hBelow⟩ := walkAll_returns (i := 0).mpr hFuel
      exact ⟨fuel + 1, _, walk_succ.mpr ⟨below, hBelow, rfl⟩⟩

theorem not_cycle_of_acc (h : Acc (fun c p => Child children p c) v) : ¬ Relation.TransGen (Child children) v v := by
  have hTrans := h.transGen
  induction hTrans with
  | intro v _ ih =>
    intro hCycle
    have hBelow : Relation.TransGen (fun c p => Child children p c) v v := Relation.transGen_swap.mp hCycle
    exact ih v hBelow (h.inv_of_transGen hBelow) hCycle

theorem acc_of_acyclic (hFinite : {w | Reaches children v w}.Finite)
    (hAcyclic : ∀ w, Reaches children v w → ¬ Relation.TransGen (Child children) w w) :
    Acc (fun c p => Child children p c) v := by
  let below : {w // Reaches children v w} → {w // Reaches children v w} → Prop :=
    fun c p => Relation.TransGen (Child children) p.1 c.1
  have : Finite {w // Reaches children v w} := hFinite
  have : IsTrans _ below := ⟨fun _ _ _ hab hbc => hbc.trans hab⟩
  have : Std.Irrefl below := ⟨fun w => hAcyclic w.1 w.2⟩
  have hBelow := Finite.wellFounded_of_trans_of_irrefl below
  have hAcc : ∀ w : {w // Reaches children v w}, Acc (fun c p => Child children p c) w.1 := by
    intro w
    induction w using hBelow.induction with
    | _ w ih => exact Acc.intro w.1 fun c hChild => ih ⟨c, w.2.tail hChild⟩ (.single hChild)
  exact hAcc ⟨v, .refl⟩

theorem walk_returns_iff (hFinite : {w | Reaches children v w}.Finite) :
    (∃ fuel met, walk children fuel v = some met) ↔
      ∀ w, Reaches children v w → ¬ Relation.TransGen (Child children) w w := by
  rw [walk_returns_iff_acc]
  constructor
  · intro hAcc w hReaches
    apply not_cycle_of_acc
    induction hReaches with
    | refl => exact hAcc
    | tail _ hChild ih => exact ih.inv hChild
  · exact acc_of_acyclic hFinite

end Walk

end DepthFirst

end Foundation
