import Mempal.Queue.System

set_option autoImplicit false

/-! An id is a label and three hexadecimal fields between dashes, so it determines the clock reading, the process and
the counter it was made from; the same goes for a claim token, whatever worker name stands in front of it. -/

namespace Mempal.Queue

open Foundation.Digits Foundation.Text

def idFields (tick : Tick) : List Char :=
  padded 16 16 tick.nowMs ++ '-' :: (padded 16 8 tick.pid ++ '-' :: padded 16 16 tick.counter)

theorem nextId_toList {label : String} {tick : Tick} :
    (nextId label tick).toList = label.toList ++ '-' :: idFields tick := by
  have hDash : "-".toList = ['-'] := by decide
  simp only [nextId, idFields, hexPadded, String.toList_append, String.toList_ofList, hDash, List.append_assoc,
    List.cons_append, List.nil_append]

theorem notMem_padded {c : Char} (hc : ∀ d < 16, Nat.digitChar d ≠ c) (width n : Nat) : c ∉ padded 16 width n := by
  intro hMem
  obtain ⟨d, hd, rfl⟩ := mem_padded (by decide) hMem
  exact hc d hd rfl

theorem dash_notMem_padded {width n : Nat} : '-' ∉ padded 16 width n := notMem_padded (by decide) width n

theorem idFields_injective : Function.Injective idFields := by
  intro tick tick' h
  obtain ⟨hTime, hRest⟩ := append_cons_inj (dash_notMem_padded) (dash_notMem_padded) h
  obtain ⟨hPid, hCounter⟩ := append_cons_inj (dash_notMem_padded) (dash_notMem_padded) hRest
  have hInj : ∀ width, Function.Injective (padded 16 width) := padded_injective (by decide) (by decide)
  cases tick
  cases tick'
  simp only at hTime hPid hCounter
  rw [hInj 16 hTime, hInj 8 hPid, hInj 16 hCounter]

theorem nextId_injective (label : String) : Function.Injective (nextId label) := by
  intro tick tick' h
  have hChars := congrArg String.toList h
  rw [nextId_toList, nextId_toList] at hChars
  exact idFields_injective (List.cons.inj (List.append_cancel_left hChars)).2

variable (tick : Tick)

theorem colon_notMem_idFields : ':' ∉ idFields tick := by
  have hHex := fun width n => notMem_padded (c := ':') (by decide) width n
  simp [idFields, hHex]

def claimFields (tick : Tick) : List Char := "claim".toList ++ '-' :: idFields tick

theorem claimToken_toList (workerId : String) (tick : Tick) :
    (claimToken workerId tick).toList = workerId.toList ++ ':' :: claimFields tick := by
  have hColon : ":".toList = [':'] := by decide
  simp only [claimToken, String.toList_append, nextId_toList, hColon, claimFields, List.append_assoc,
    List.cons_append, List.nil_append]

theorem colon_notMem_claimFields : ':' ∉ claimFields tick := by
  simp [claimFields, colon_notMem_idFields]

theorem claimToken_tick {workerId workerId' : String} {tick tick' : Tick}
    (h : claimToken workerId tick = claimToken workerId' tick') : tick = tick' := by
  have hChars := congrArg String.toList h
  rw [claimToken_toList, claimToken_toList] at hChars
  have hTail := append_cons_inj_last (colon_notMem_claimFields tick) (colon_notMem_claimFields tick') hChars
  exact idFields_injective (List.cons.inj (List.append_cancel_left hTail)).2

def IsDedupId (id : String) : Prop := ∃ hash, id = "msg-dedup-" ++ hash

/-- The first field of a fresh id is hexadecimal, and `dedup` is not. -/
theorem nextId_not_dedup : ¬ IsDedupId (nextId "msg" tick) := by
  rintro ⟨hash, h⟩
  have hChars := congrArg String.toList h
  have hMsg : "msg".toList = ['m', 's', 'g'] := by decide
  have hDedup : "msg-dedup-".toList = ['m', 's', 'g', '-', 'd', 'e', 'd', 'u', 'p', '-'] := by decide
  rw [nextId_toList, String.toList_append, hMsg, hDedup] at hChars
  simp only [idFields, List.cons_append, List.nil_append, List.cons.injEq, true_and] at hChars
  have hFirst := append_cons_inj (l := ['d', 'e', 'd', 'u', 'p']) (by decide) (dash_notMem_padded) hChars.symm
  have hU : 'u' ∈ padded 16 16 tick.nowMs := by
    rw [← hFirst.1]
    decide
  exact notMem_padded (by decide) _ _ hU

end Mempal.Queue
