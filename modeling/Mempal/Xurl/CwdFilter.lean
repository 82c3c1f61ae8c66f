import Mempal.Foundation.Like
import Mempal.Xurl.Basic

set_option autoImplicit false

/-! The filter by working directory is written three times: as a condition in SQL on the stored path, in the reconciler
and in the parser. Only the last two normalise the path. -/

namespace Mempal.Xurl

open Foundation.Text

/-- `substr` of SQLite, which counts from one. -/
def substr (text : String) (start length : Nat) : String :=
  String.ofList (((beforeNul text).drop (start - 1)).take length)

def sqlLength (text : String) : Nat := (beforeNul text).length

/-- `cwd_filter_condition` on a row; it does not hold of `NULL`. -/
def cwdFilterCondition (projectPath : Option String) (cwd : String) : Bool :=
  projectPath.any fun path =>
    if cwd = "/" then substr path 1 1 = cwd
    else path = cwd || (substr path 1 (sqlLength cwd) = cwd && substr path (sqlLength cwd + 1) 1 = "/") ||
      (substr cwd 1 (sqlLength path) = path && substr cwd (sqlLength path + 1) 1 = "/")

/-- The part of the `WHERE` clause that the working directory adds. -/
def selectsRow (projectPath cwdFilter : Option String) : Bool :=
  match (cwdFilter.map normalizeCwdFilter).filter (· ≠ "") with
  | none => true
  | some cwd => cwdFilterCondition projectPath cwd

def matchesCwdFilter (projectPath cwdFilter : Option String) : Bool := pathIsInScope projectPath cwdFilter

/-- For the functions of SQLite nothing lies below a path with a NUL. -/
def SqlBelow (path above : String) : Prop := '\x00' ∉ above.toList ∧ isBelow path above = true

/-- The SQL condition says of a stored path what the two other filters say. Under the root the path begins with one
slash and they ask for two; a path in normal form is treated alike but for a NUL in the upper one of the two; another
one must stand to the filter as its normal form does. -/
structure FiltersAlike (path cwd : String) : Prop where
  root : cwd = "/" → (['/'] <+: path.toList ↔
    normalizeCwdFilter path = "/" ∨ ['/', '/'] <+: (normalizeCwdFilter path).toList)
  normal : cwd ≠ "/" → path ≠ "" → normalizeCwdFilter path = path →
    (isBelow path cwd = true → '\x00' ∉ cwd.toList) ∧ (isBelow cwd path = true → '\x00' ∉ path.toList)
  other : cwd ≠ "/" → ¬ (path ≠ "" ∧ normalizeCwdFilter path = path) →
    ((path = cwd ∨ SqlBelow path cwd ∨ SqlBelow cwd path) ↔ normalizeCwdFilter path ≠ "" ∧
      (normalizeCwdFilter path = cwd ∨ isBelow (normalizeCwdFilter path) cwd = true ∨
        isBelow cwd (normalizeCwdFilter path) = true))

variable {path cwd : String}

theorem substr_iff :
    substr path 1 (sqlLength cwd) = cwd ∧ substr path (sqlLength cwd + 1) 1 = "/" ↔ SqlBelow path cwd := by
  rw [SqlBelow, isBelow, decide_eq_true_eq, ← String.toList_inj, ← String.toList_inj, substr, substr,
    String.toList_ofList, String.toList_ofList, sqlLength, show "/".toList = ['/'] from rfl]
  simp only [Nat.sub_self, List.drop_zero, Nat.add_sub_cancel]
  constructor
  · rintro ⟨hStart, hSlash⟩
    have hNul : '\x00' ∉ cwd.toList := by
      intro hMem
      rw [← hStart] at hMem
      simpa using List.mem_takeWhile_imp (List.mem_of_mem_take hMem)
    rw [beforeNul_eq_toList hNul] at hStart hSlash
    have hBelow : cwd.toList ++ ['/'] <+: beforeNul path := by
      refine ⟨(beforeNul path).drop (cwd.toList.length + 1), ?_⟩
      rw [← hSlash, ← List.drop_drop, List.append_assoc, List.take_append_drop]
      nth_rewrite 1 [← hStart]
      exact List.take_append_drop _ _
    exact ⟨hNul, hBelow.trans (List.takeWhile_prefix _)⟩
  · rintro ⟨hNul, rest, hRest⟩
    obtain rfl : path = cwd ++ String.ofList ('/' :: rest) := by
      rw [← String.toList_inj, ← hRest]
      simp
    have hSlash : beforeNul (String.ofList ('/' :: rest)) = '/' :: beforeNul (String.ofList rest) := by
      simp [beforeNul]
    rw [beforeNul_append hNul, beforeNul_eq_toList hNul, hSlash]
    simp

theorem cwdFilterCondition_iff (h : cwd ≠ "/") :
    cwdFilterCondition (some path) cwd = true ↔ path = cwd ∨ SqlBelow path cwd ∨ SqlBelow cwd path := by
  rw [cwdFilterCondition, Option.any_some, if_neg h]
  simp only [Bool.or_eq_true, Bool.and_eq_true, decide_eq_true_eq, substr_iff, or_assoc]

theorem cwdFilterCondition_root : cwdFilterCondition (some path) "/" = true ↔ ['/'] <+: path.toList := by
  rw [cwdFilterCondition, Option.any_some, if_pos rfl, decide_eq_true_eq, ← String.toList_inj, substr,
    String.toList_ofList, beforeNul]
  cases path.toList with
  | nil => simp
  | cons c rest => by_cases hc : c = '\x00' <;> simp [hc, eq_comm]

theorem length_lt_of_isBelow (h : isBelow path cwd = true) : cwd.length < path.length := by
  have hLength := (decide_eq_true_eq.mp h : _ <+: _).length_le
  rwa [List.length_append, String.length_toList, String.length_toList] at hLength

/-- What the path is, a path above it and one below it exclude each other. -/
theorem normal_iff : ((path = cwd ∨ SqlBelow path cwd ∨ SqlBelow cwd path) ↔
      (path = cwd ∨ isBelow path cwd = true ∨ isBelow cwd path = true)) ↔
    (isBelow path cwd = true → '\x00' ∉ cwd.toList) ∧ (isBelow cwd path = true → '\x00' ∉ path.toList) := by
  have hAbove := @length_lt_of_isBelow path cwd
  have hBelow := @length_lt_of_isBelow cwd path
  have hSame : path = cwd → path.length = cwd.length := congrArg String.length
  grind [SqlBelow]

theorem pathIsInScope_iff (h : normalizeCwdFilter cwd ≠ "") :
    pathIsInScope (some path) (some cwd) = true ↔ normalizeCwdFilter path ≠ "" ∧
      (normalizeCwdFilter path = normalizeCwdFilter cwd ∨
        isBelow (normalizeCwdFilter path) (normalizeCwdFilter cwd) = true ∨
        isBelow (normalizeCwdFilter cwd) (normalizeCwdFilter path) = true) := by
  by_cases hPath : normalizeCwdFilter path = ""
  · simp [pathIsInScope, Option.filter, h, hPath]
  · simp [pathIsInScope, Option.filter, h, hPath, or_assoc]

theorem inScope_root : (path ≠ "" ∧ (path = "/" ∨ isBelow path "/" = true ∨ isBelow "/" path = true)) ↔
    path = "/" ∨ ['/', '/'] <+: path.toList := by
  have hBelow : isBelow path "/" = true ↔ ['/', '/'] <+: path.toList := by
    rw [isBelow, decide_eq_true_eq]
    rfl
  rw [hBelow]
  constructor
  · rintro ⟨hPath, rfl | hTwo | hAbove⟩
    · exact .inl rfl
    · exact .inr hTwo
    · have hLength : path.length < 1 := length_lt_of_isBelow hAbove
      exact absurd (String.length_eq_zero_iff.mp (Nat.lt_one_iff.mp hLength)) hPath
  · rintro (rfl | hTwo)
    · exact ⟨by decide, .inl rfl⟩
    · refine ⟨?_, .inr (.inl hTwo)⟩
      rintro rfl
      simp at hTwo

theorem filtersAlike_iff (h : normalizeCwdFilter cwd ≠ "") :
    (selectsRow (some path) (some cwd) = true ↔ pathIsInScope (some path) (some cwd) = true) ↔
      FiltersAlike path (normalizeCwdFilter cwd) := by
  have hSelects : selectsRow (some path) (some cwd) = cwdFilterCondition (some path) (normalizeCwdFilter cwd) := by
    simp [selectsRow, Option.filter, h]
  rw [hSelects, pathIsInScope_iff h]
  by_cases hRoot : normalizeCwdFilter cwd = "/"
  · rw [hRoot, cwdFilterCondition_root, inScope_root]
    exact ⟨fun hAlike => ⟨fun _ => hAlike, fun hNe => absurd rfl hNe, fun hNe => absurd rfl hNe⟩,
      fun hAlike => hAlike.root rfl⟩
  · rw [cwdFilterCondition_iff hRoot]
    by_cases hNormal : path ≠ "" ∧ normalizeCwdFilter path = path
    · rw [hNormal.2, and_iff_right hNormal.1, normal_iff]
      exact ⟨fun hAlike => ⟨fun hEq => absurd hEq hRoot, fun _ _ _ => hAlike, fun _ hNot => absurd hNormal hNot⟩,
        fun hAlike => hAlike.normal hRoot hNormal.1 hNormal.2⟩
    · exact ⟨fun hAlike => ⟨fun hEq => absurd hEq hRoot, fun _ hPath hSelf => absurd ⟨hPath, hSelf⟩ hNormal,
        fun _ _ => hAlike⟩, fun hAlike => hAlike.other hRoot hNormal⟩

end Mempal.Xurl
