import Mempal.Search.Basic

set_option autoImplicit false

/-! A room that several wings have is a tunnel between them. The wings of a room pass through one text, in which commas
divide them. -/

namespace Mempal.Search

open Foundation Drawers

theorem nodup_eraseDups {α : Type*} [BEq α] [LawfulBEq α] (l : List α) : l.eraseDups.Nodup := by
  induction hLength : l.length using Nat.strong_induction_on generalizing l with
  | _ length ih =>
    cases l with
    | nil => simp
    | cons a l =>
      rw [List.eraseDups_cons, List.nodup_cons]
      refine ⟨by simp [List.mem_eraseDups], ih _ ?_ _ rfl⟩
      rw [← hLength, List.length_cons]
      exact Nat.lt_succ_of_le (List.length_filter_le _ _)

def HasRoom (db : SearchDb) (wing room : String) : Prop :=
  ∃ row ∈ db.drawers.rows, row.isActive = true ∧ row.room = some room ∧ row.wing = wing

def IsTunnel (db : SearchDb) (room : String) : Prop :=
  ∃ wing wing', wing ≠ wing' ∧ HasRoom db wing room ∧ HasRoom db wing' room

variable (db : SearchDb) {room : String}

theorem mem_tunnelWings {wing room : String} : wing ∈ tunnelWings db room ↔ HasRoom db wing room := by
  simp [tunnelWings, HasRoom, List.mem_eraseDups, and_assoc]

theorem isTunnel_iff : IsTunnel db room ↔ 1 < (tunnelWings db room).length := by
  have hNodup : (tunnelWings db room).Nodup := nodup_eraseDups _
  simp only [IsTunnel, ← mem_tunnelWings]
  generalize tunnelWings db room = wings at hNodup
  match wings with
  | [] => simp
  | [wing] => simp
  | wing :: wing' :: wings =>
    rw [List.nodup_cons, List.mem_cons, not_or] at hNodup
    refine iff_of_true ⟨wing, wing', hNodup.1.1, by simp, by simp⟩ (by simp)

/-- The tunnels are the rooms of several wings, each with its wings as they are stored. -/
def NamesTheWings : Prop :=
  ∀ room, ((findTunnels db room).isSome = true ↔ IsTunnel db room) ∧
    ∀ wings, findTunnels db room = some wings → wings.Nodup ∧ ∀ wing, wing ∈ wings ↔ HasRoom db wing room

theorem findTunnels_of_plain (hRoom : room ≠ "") (hTunnel : IsTunnel db room)
    (hPlain : ∀ wing, HasRoom db wing room → ',' ∉ wing.toList) : findTunnels db room = some (tunnelWings db room) := by
  have hMany := (isTunnel_iff db).mp hTunnel
  have hSplit : (Fields.join [','] (tunnelWings db room)).splitOn ',' = (tunnelWings db room).map String.toList := by
    refine Fields.splitOn_join (fun hNil => ?_) fun wing hMem => hPlain wing ((mem_tunnelWings db).mp hMem)
    simp [hNil] at hMany
  rw [findTunnels, hSplit, List.map_map, if_pos (by simp [hRoom, hMany])]
  exact congrArg some ((List.map_congr_left fun wing _ => String.ofList_toList).trans (List.map_id _))

/-- The tunnels name the wings exactly if the room of a tunnel has a name and no wing of it has a comma. -/
theorem tunnels_name_wings_iff : NamesTheWings db ↔
    ∀ room, IsTunnel db room → room ≠ "" ∧ ∀ wing, HasRoom db wing room → ',' ∉ wing.toList := by
  constructor
  · intro h room hTunnel
    obtain ⟨wings, hWings⟩ := Option.isSome_iff_exists.mp ((h room).1.mpr hTunnel)
    have hMem := ((h room).2 wings hWings).2
    simp only [findTunnels, Option.ite_none_right_eq_some, Bool.and_eq_true, decide_eq_true_eq,
      Option.some.injEq] at hWings
    obtain ⟨⟨hRoom, _⟩, rfl⟩ := hWings
    refine ⟨hRoom, fun wing hWing => ?_⟩
    -- what comes out of the split has no comma
    obtain ⟨piece, hSplit, rfl⟩ := List.mem_map.mp ((hMem wing).mpr hWing)
    rw [String.toList_ofList]
    exact Fields.notMem_of_mem_splitOn hSplit
  · intro h room
    by_cases hTunnel : IsTunnel db room
    · obtain ⟨hRoom, hPlain⟩ := h room hTunnel
      rw [findTunnels_of_plain db hRoom hTunnel hPlain]
      refine ⟨iff_of_true rfl hTunnel, fun wings hWings => ?_⟩
      cases hWings
      exact ⟨nodup_eraseDups _, fun wing => mem_tunnelWings db⟩
    · have hNone : findTunnels db room = none := by
        rw [isTunnel_iff] at hTunnel
        simp [findTunnels, hTunnel]
      rw [hNone]
      exact ⟨iff_of_false (by simp) hTunnel, fun wings hWings => by cases hWings⟩

def commaWing : SearchDb where
  drawers := ⟨⟨[{ chunkRow 1 "d1" "text" "p" none with wing := "a,b", room := some "r" },
    { chunkRow 2 "d2" "text" "p" none with wing := "c", room := some "r" }], by decide⟩, by decide⟩
  index := []
  vectors := VectorTable.empty
  tunnels := []
  patterns := []

/-- The wing `a,b` comes back as two wings that are not there. -/
theorem comma_splits_wing : findTunnels commaWing "r" = some ["a", "b", "c"] ∧ ¬ HasRoom commaWing "a" "r" := by
  refine ⟨by decide +kernel, ?_⟩
  rw [← mem_tunnelWings]
  decide +kernel

end Mempal.Search
