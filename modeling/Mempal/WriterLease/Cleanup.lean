import Mempal.WriterLease.Basic

set_option autoImplicit false

/-! Both loops of the lease code walk over rows they selected and delete each by its four fencing columns. -/

namespace Mempal.WriterLease

open Foundation

def stale (env : Env) (preserveLiveHolders : Bool) (row : LeaseRow) : Bool :=
  expired env.now row && !(preserveLiveHolders && rowShouldRetain env.oracle row)

variable {row : LeaseRow}

theorem fences_iff {name owner sessionId : String} {generation : Int} :
    fences name owner sessionId generation row = true ↔
      row.name = name ∧ row.owner = owner ∧ row.sessionId = sessionId ∧ row.generation = generation := by
  simp [fences, and_assoc]

theorem fences_self (row : LeaseRow) : fences row.name row.owner row.sessionId row.generation row = true :=
  fences_iff.mpr ⟨rfl, rfl, rfl, rfl⟩

theorem sameLease_iff {lease : RuntimeWriterLease} :
    sameLease lease row = true ↔ row.name = lease.name ∧ row.owner = lease.owner ∧
      row.sessionId = lease.sessionId ∧ row.generation = asI64 lease.generation := fences_iff

theorem foldl_fenced_delete {selected : LeaseRow → Bool} (leases : Table LeaseRow.name) (keep : LeaseRow → Bool) :
    (leases.rows.filter selected).foldl
      (fun acc row =>
        if keep row then acc else acc.delete (fences row.name row.owner row.sessionId row.generation)) leases =
      leases.delete fun row => selected row && !keep row := by
  rw [Table.foldl_delete keep (fun row => fences row.name row.owner row.sessionId row.generation)]
  apply Table.delete_congr
  intro row hRow
  rw [Bool.eq_iff_iff, List.any_eq_true]
  constructor
  · rintro ⟨row', hRow', hFences⟩
    obtain ⟨hMem, hSelected⟩ := List.mem_filter.mp hRow'
    obtain ⟨hKeep, hFences⟩ := Bool.and_eq_true_iff.mp hFences
    have hEq : row = row' := Table.eq_of_key_eq hRow hMem (fences_iff.mp hFences).1
    rw [hEq, hSelected, hKeep]
    rfl
  · intro h
    obtain ⟨hSelected, hKeep⟩ := Bool.and_eq_true_iff.mp h
    exact ⟨row, List.mem_filter.mpr ⟨hRow, hSelected⟩, by rw [hKeep, fences_self]; rfl⟩

theorem cleanupExpiredTx_leases (env : Env) (preserveLiveHolders : Bool) (leases : Table LeaseRow.name) :
    (cleanupExpiredTx env preserveLiveHolders leases).1 = leases.delete (stale env preserveLiveHolders) := by
  have hLoop : ∀ (l : List LeaseRow) (acc : Table LeaseRow.name × Nat),
      (l.foldl (fun acc row =>
        if preserveLiveHolders && rowShouldRetain env.oracle row then acc
        else (acc.1.delete (fences row.name row.owner row.sessionId row.generation),
          acc.2 + acc.1.count (fences row.name row.owner row.sessionId row.generation))) acc).1 =
      l.foldl (fun acc row =>
        if preserveLiveHolders && rowShouldRetain env.oracle row then acc
        else acc.delete (fences row.name row.owner row.sessionId row.generation)) acc.1 := by
    intro l
    induction l with
    | nil => intro acc; rfl
    | cons row l ih =>
      intro acc
      rw [List.foldl_cons, List.foldl_cons, ih]
      split <;> rfl
  rw [cleanupExpiredTx, hLoop]
  exact foldl_fenced_delete leases fun row =>
    preserveLiveHolders && rowShouldRetain env.oracle row

theorem rebindDeadDaemon_leases (env : Env) (name : String) (leases : Table LeaseRow.name) :
    rebindDeadDaemon env name leases =
      leases.delete fun row => decide (row.name = name) && !rowShouldRetain env.oracle row := by
  rw [← foldl_fenced_delete leases (rowShouldRetain env.oracle), rebindDeadDaemon]
  apply List.foldl_ext
  intro acc row hRow
  have hName : row.name = name := by simpa using (List.mem_filter.mp hRow).2
  rw [hName]

theorem mem_cleanupExpiredTx {env : Env} {preserveLiveHolders : Bool} {leases : Table LeaseRow.name} :
    row ∈ (cleanupExpiredTx env preserveLiveHolders leases).1 ↔
      row ∈ leases ∧ stale env preserveLiveHolders row = false := by
  rw [cleanupExpiredTx_leases, Table.mem_delete]

theorem unexpired_iff_of_text {now : Nat} {text : String} (h : strftimeNow now = some text) (row : LeaseRow) :
    unexpired now row = true ↔ expired now row = false := by
  rw [unexpired, expired, h, Option.any_some, Option.any_some, decide_eq_true_iff, decide_eq_false_iff_not,
    String.not_lt]

end Mempal.WriterLease
