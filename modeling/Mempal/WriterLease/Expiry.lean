import Mempal.WriterLease.Restore

set_option autoImplicit false

/-! An expiry text has seconds precision and ends in `Z`, the clock text continues with a fraction. -/

namespace Mempal.WriterLease

open Foundation

variable {now : Nat} {row : LeaseRow} {env : Env} {db : LeaseDb} {lease : RuntimeWriterLease}

theorem exists_strftimeNow (h : now ≤ sqliteDateLimit) : ∃ text, strftimeNow now = some text :=
  Option.isSome_iff_exists.mp (strftimeNow_isSome_iff.mpr h)

variable {expiry : Nat} {db' : LeaseDb} {ttlSecs : UInt64}

theorem expired_formatRfc3339_iff (hNow : now ≤ sqliteDateLimit)
    (hFits : expiry ≤ sqliteDateLimit) (hRow : row.expiresAt = formatRfc3339 expiry) :
    expired now row = true ↔ expiry / 1000 < now / 1000 := by
  obtain ⟨text, hText⟩ := exists_strftimeNow hNow
  rw [expired, hText, Option.any_some, decide_eq_true_iff, hRow]
  exact formatRfc3339_lt_iff hText hFits

theorem unexpired_formatRfc3339_iff (hNow : now ≤ sqliteDateLimit)
    (hFits : expiry ≤ sqliteDateLimit) (hRow : row.expiresAt = formatRfc3339 expiry) :
    unexpired now row = true ↔ now / 1000 ≤ expiry / 1000 := by
  rw [unexpired_iff, ← Bool.not_eq_true, expired_formatRfc3339_iff hNow hFits hRow, not_lt]
  exact and_iff_right hNow

/-- What the statements decide, at any instant, about a row whose lease was granted for some seconds. -/
structure ExpiryExact (granted ttl : Nat) (row : LeaseRow) : Prop where
  active_iff : ∀ now ≤ sqliteDateLimit, unexpired now row = true ↔ now / 1000 ≤ (granted + ttl * 1000) / 1000
  complement : ∀ now ≤ sqliteDateLimit, expired now row = !unexpired now row
  during : ∀ now, granted ≤ now → now ≤ granted + ttl * 1000 → unexpired now row = true
  after : ∀ now ≤ sqliteDateLimit, granted + (ttl + 1) * 1000 ≤ now → unexpired now row = false

theorem ExpiryExact.of_text {granted ttl : Nat} (hFits : granted + ttl * 1000 ≤ sqliteDateLimit)
    (hRow : row.expiresAt = formatRfc3339 (granted + ttl * 1000)) : ExpiryExact granted ttl row := by
  constructor
  · intro now hNow
    exact unexpired_formatRfc3339_iff hNow hFits hRow
  · intro now hNow
    rw [Bool.eq_iff_iff, Bool.not_eq_true', ← Bool.not_eq_true, expired_formatRfc3339_iff hNow hFits hRow,
      unexpired_formatRfc3339_iff hNow hFits hRow, not_le]
  · intro now _ hLe
    exact (unexpired_formatRfc3339_iff (hLe.trans hFits) hFits hRow).mpr (Nat.div_le_div_right hLe)
  · intro now hNow hGe
    rw [← Bool.not_eq_true, unexpired_formatRfc3339_iff hNow hFits hRow, not_le]
    omega

theorem acquire_inserts {policy : AcquirePolicy} {args : AcquireArgs}
    (h : acquire env policy args db = .ok (db', some lease)) :
    ∃ expiry, addSecs env.now args.ttlSecs = some expiry ∧
      ∃ row ∈ db'.leases, sameLease lease row = true ∧ row.expiresAt = formatRfc3339 expiry := by
  unfold acquire at h
  extract_lets cleaned leases at h
  clear_value leases
  split at h
  · cases h
  · rename_i expiry hExpiry
    refine ⟨expiry, hExpiry, ?_⟩
    split at h
    · cases h
    · rename_i hFree
      split at h
      · cases h
      · cases h
        have hNone : leases.find? args.name = none := Table.contains_eq_false_iff.mp (by simpa using hFree)
        exact ⟨_, Table.mem_insertOrIgnore_of_fresh hNone, sameLease_iff.mpr ⟨rfl, rfl, rfl, rfl⟩, rfl⟩

theorem renew_extends (h : renew env lease ttlSecs db = .ok (db', true)) :
    ∃ expiry, addSecs env.now ttlSecs = some expiry ∧
      ∃ row ∈ db'.leases, sameLease lease row = true ∧ row.expiresAt = formatRfc3339 expiry := by
  unfold renew at h
  split at h
  · cases h
  · rename_i expiry hExpiry
    obtain ⟨hDb, hCount⟩ := Prod.mk.inj (Except.ok.inj h)
    obtain ⟨row, hRow, hSelects⟩ := Table.exists_of_count_pos (Nat.pos_of_ne_zero (bne_iff_ne.mp hCount))
    have hSame := sameLease_iff.mp (Bool.and_eq_true_iff.mp hSelects).1
    refine ⟨expiry, hExpiry, { row with expiresAt := formatRfc3339 expiry, heartbeatAt := formatRfc3339 env.now },
      ?_, sameLease_iff.mpr hSame, rfl⟩
    rw [← hDb]
    exact List.mem_map.mpr ⟨row, hRow, if_pos hSelects⟩

def GrantedExactly (env : Env) (lease : RuntimeWriterLease) (ttlSecs : UInt64) (db : LeaseDb) : Prop :=
  ∃ row ∈ db.leases, sameLease lease row = true ∧ ExpiryExact env.now ttlSecs.toNat row

theorem GrantedExactly.of_text (hFits : env.now + ttlSecs.toNat * 1000 ≤ sqliteDateLimit)
    (h : ∃ expiry, addSecs env.now ttlSecs = some expiry ∧
      ∃ row ∈ db.leases, sameLease lease row = true ∧ row.expiresAt = formatRfc3339 expiry) :
    GrantedExactly env lease ttlSecs db := by
  obtain ⟨expiry, hExpiry, row, hRow, hSame, hText⟩ := h
  rw [addSecs] at hExpiry
  split at hExpiry
  · cases hExpiry
    exact ⟨row, hRow, hSame, ExpiryExact.of_text hFits hText⟩
  · cases hExpiry

theorem lease_expiry_exact (env : Env) (ttlSecs : UInt64) (db : LeaseDb)
    (hFits : env.now + ttlSecs.toNat * 1000 ≤ sqliteDateLimit) :
    (∀ policy args db' lease, args.ttlSecs = ttlSecs → acquire env policy args db = .ok (db', some lease) →
      GrantedExactly env lease ttlSecs db') ∧
    (∀ lease db', renew env lease ttlSecs db = .ok (db', true) → GrantedExactly env lease ttlSecs db') := by
  constructor
  · rintro policy args db' lease rfl h
    exact GrantedExactly.of_text hFits (acquire_inserts h)
  · intro lease db' h
    exact GrantedExactly.of_text hFits (renew_extends h)

/-- The lease of a paused holder: granted at the start of a day for a minute. -/
theorem pausedHolder_expiry_exact :
    GrantedExactly atAcquire pausedLease 60 ((acquire atAcquire .standard pausedArgs ⟨.empty, .empty⟩).toOption.getD
      (⟨.empty, .empty⟩, none)).1 :=
  (lease_expiry_exact atAcquire 60 ⟨.empty, .empty⟩ (by decide)).1 .standard pausedArgs _ pausedLease (by decide)
    (by decide +kernel)

end Mempal.WriterLease
