import Mempal.Foundation.Digits
import Mempal.Foundation.Lines
import Mempal.Foundation.Occurrence

set_option autoImplicit false

/-! A record is printed as fields with separators between them, at several levels. It can be read back when no field
holds a separator of its own level. -/

namespace Foundation

namespace Fields

open Occurrence

def join (sep : List Char) (items : List String) : List Char := sep.intercalate (items.map String.toList)

def splitField (sep : Char) (raw : List Char) : List String :=
  ((raw.splitOn sep).filter (· ≠ [])).map String.ofList

variable {α : Type*}

theorem mem_intercalate {sep : List α} {items : List (List α)} {c : α} (h : c ∈ sep.intercalate items) :
    c ∈ sep ∨ ∃ item ∈ items, c ∈ item := by
  induction items with
  | nil => exact absurd h List.not_mem_nil
  | cons item rest ih =>
    cases rest with
    | nil =>
      rw [List.intercalate_singleton] at h
      exact Or.inr ⟨item, List.mem_cons_self, h⟩
    | cons next rest =>
      rw [List.intercalate_cons_cons, List.mem_append, List.mem_append] at h
      rcases h with (hMem | hMem) | hMem
      · exact Or.inr ⟨item, List.mem_cons_self, hMem⟩
      · exact Or.inl hMem
      · rcases ih hMem with hSep | ⟨later, hLater, hMem⟩
        · exact Or.inl hSep
        · exact Or.inr ⟨later, List.mem_cons_of_mem _ hLater, hMem⟩

theorem mem_intercalate_of_mem (sep : List α) {items : List (List α)} {item : List α} {c : α} (hItem : item ∈ items)
    (hMem : c ∈ item) : c ∈ sep.intercalate items := by
  induction items with
  | nil => exact absurd hItem List.not_mem_nil
  | cons first rest ih =>
    cases rest with
    | nil =>
      rw [List.intercalate_singleton, ← List.mem_singleton.mp hItem]
      exact hMem
    | cons next rest =>
      rw [List.intercalate_cons_cons, List.mem_append, List.mem_append]
      rcases List.mem_cons.mp hItem with rfl | hLater
      · exact Or.inl (Or.inl hMem)
      · exact Or.inr (ih hLater)

variable {sep : List Char} {items : List String} {c : Char}

theorem notMem_join (hSep : c ∉ sep) (hItems : ∀ item ∈ items, c ∉ item.toList) : c ∉ join sep items := by
  intro hMem
  rcases mem_intercalate hMem with hMem | ⟨item, hItem, hMem⟩
  · exact hSep hMem
  · obtain ⟨text, hText, rfl⟩ := List.mem_map.mp hItem
    exact hItems text hText hMem

theorem splitOn_join {sep : Char} (hSome : items ≠ []) (hItems : ∀ item ∈ items, sep ∉ item.toList) :
    (join [sep] items).splitOn sep = items.map String.toList := by
  apply List.splitOn_intercalate
  · rintro part hPart
    obtain ⟨item, hItem, rfl⟩ := List.mem_map.mp hPart
    exact hItems item hItem
  · exact fun hNil => hSome (List.map_eq_nil_iff.mp hNil)

theorem splitField_join {sep : Char} (hSome : items ≠ [])
    (hItems : ∀ item ∈ items, item ≠ "" ∧ sep ∉ item.toList) : splitField sep (join [sep] items) = items := by
  have hFull : (items.map String.toList).filter (· ≠ []) = items.map String.toList := by
    rw [List.filter_eq_self]
    rintro part hPart
    obtain ⟨item, hItem, rfl⟩ := List.mem_map.mp hPart
    exact decide_eq_true fun hNil => (hItems item hItem).1 (String.toList_eq_nil_iff.mp hNil)
  rw [splitField, splitOn_join hSome fun item hItem => (hItems item hItem).2, hFull, List.map_map]
  exact (List.map_congr_left fun item _ => String.ofList_toList).trans (List.map_id _)

theorem mem_splitOnP {p : α → Bool} {text : List α} {c : α} :
    (∃ part ∈ text.splitOnP p, c ∈ part) ↔ c ∈ text ∧ p c = false := by
  induction text with
  | nil => simp
  | cons d text ih =>
    rw [List.splitOnP_cons_eq_if_modifyHead]
    cases hParts : text.splitOnP p with
    | nil => exact absurd hParts (List.splitOnP_ne_nil _ _)
    | cons first parts =>
      rw [hParts] at ih
      by_cases hd : p d = true
      · grind
      · rw [if_neg hd, List.modifyHead_cons, List.exists_mem_cons_iff]
        grind

theorem notMem_of_mem_splitOn [BEq α] [LawfulBEq α] {sep : α} {text part : List α} (h : part ∈ text.splitOn sep) :
    sep ∉ part := by
  intro hMem
  have hSep := (mem_splitOnP.mp ⟨part, h, hMem⟩).2
  simp at hSep

def splitOnce (sep : List Char) (text : List Char) : Option (List Char × List Char) :=
  (find sep text).map fun i => (text.take i, text.drop (i + sep.length))

theorem find_append [DecidableEq α] {c : α} {needle before : List α} (after : List α) (h : c ∉ before) :
    find (c :: needle) (before ++ (c :: needle ++ after)) = some before.length := by
  induction before with
  | nil => exact if_pos (List.prefix_append _ _)
  | cons d before ih =>
    have hHead : ¬ c :: needle <+: d :: (before ++ (c :: needle ++ after)) := by
      rintro ⟨rest, hRest⟩
      exact h ((List.cons.inj hRest).1 ▸ List.mem_cons_self)
    rw [List.cons_append, find, if_neg hHead, ih fun hMem => h (List.mem_cons_of_mem _ hMem)]
    rfl

theorem splitOnce_append {before : List Char} (after : List Char) (h : c ∉ before) :
    splitOnce (c :: sep) (before ++ (c :: sep ++ after)) = some (before, after) := by
  rw [splitOnce, find_append after h, Option.map_some, List.take_left, drop_append_append]

def splitTexts (sep : List Char) : Nat → List Char → List (List Char)
  | 0, text => [text]
  | fuel + 1, text =>
    match find sep text with
    | none => [text]
    | some i => text.take i :: splitTexts sep fuel (text.drop (i + sep.length))

def split (sep : List Char) (text : List Char) : List (List Char) := splitTexts sep text.length text

theorem find_of_notMem {text : List Char} (h : c ∉ text) : find (c :: sep) text = none := by
  cases hFind : find (c :: sep) text with
  | none => rfl
  | some i =>
    obtain ⟨before, after, rfl, _⟩ := find_eq_some hFind
    exact absurd (by simp) h

theorem splitTexts_intercalate {items : List (List Char)} {fuel : Nat}
    (hSome : items ≠ []) (hItems : ∀ item ∈ items, c ∉ item) (hFuel : items.length ≤ fuel + 1) :
    splitTexts (c :: sep) fuel ((c :: sep).intercalate items) = items := by
  induction fuel generalizing items with
  | zero =>
    obtain ⟨item, rfl⟩ : ∃ item, items = [item] := by
      cases items with
      | nil => exact absurd rfl hSome
      | cons item rest =>
        cases rest with
        | nil => exact ⟨item, rfl⟩
        | cons => simp at hFuel
    rw [List.intercalate_singleton, splitTexts]
  | succ fuel ih =>
    cases items with
    | nil => exact absurd rfl hSome
    | cons item rest =>
      obtain ⟨hItem, hRest⟩ := List.forall_mem_cons.mp hItems
      cases rest with
      | nil =>
        rw [List.intercalate_singleton, splitTexts, find_of_notMem hItem]
      | cons next rest =>
        rw [List.intercalate_cons_cons, List.append_assoc, splitTexts, find_append _ hItem]
        simp only [List.take_left, drop_append_append]
        rw [ih (List.cons_ne_nil _ _) hRest (by simpa using hFuel)]

theorem length_le_intercalate {items : List (List Char)} :
    items.length ≤ ((c :: sep).intercalate items).length + 1 := by
  induction items with
  | nil => exact Nat.zero_le _
  | cons item rest ih =>
    cases rest with
    | nil => simp
    | cons next rest =>
      rw [List.intercalate_cons_cons]
      simp only [List.length_append, List.length_cons] at ih ⊢
      omega

theorem split_join (hSome : items ≠ []) (hItems : ∀ item ∈ items, c ∉ item.toList) :
    split (c :: sep) (join (c :: sep) items) = items.map String.toList := by
  apply splitTexts_intercalate
  · exact fun hNil => hSome (List.map_eq_nil_iff.mp hNil)
  · rintro part hPart
    obtain ⟨item, hItem, rfl⟩ := List.mem_map.mp hPart
    exact hItems item hItem
  · exact length_le_intercalate

def parseNat (limit : Nat) (raw : List Char) : Option Nat :=
  let digits := if raw.head? = some '+' then raw.tail else raw
  if digits ≠ [] ∧ digits.all Char.isDigit ∧ Digits.value 10 digits < limit then some (Digits.value 10 digits)
  else none

theorem isDigit_of_mem_toDigits {n : Nat} (h : c ∈ Nat.toDigits 10 n) : c.isDigit = true := by
  obtain ⟨d, hd, rfl⟩ := Digits.mem_toDigits (by decide) h
  interval_cases d <;> rfl

theorem toDigits_ne_nil (n : Nat) : Nat.toDigits 10 n ≠ [] := by
  by_cases hn : n < 10
  · rw [Nat.toDigits_of_lt_base hn]
    exact List.cons_ne_nil _ _
  · rw [Nat.toDigits_of_base_le (by decide) (Nat.not_lt.mp hn)]
    exact List.append_ne_nil_of_right_ne_nil _ (List.cons_ne_nil _ _)

theorem parseNat_toDigits {limit n : Nat} (h : n < limit) : parseNat limit (Nat.toDigits 10 n) = some n := by
  have hPlus : (Nat.toDigits 10 n).head? ≠ some '+' := by
    intro hHead
    have hDigit := isDigit_of_mem_toDigits (List.mem_of_mem_head? hHead)
    exact absurd hDigit (by decide)
  have hValue := Digits.value_toDigits (by decide : 1 < 10) (by decide) n
  have hAll : (Nat.toDigits 10 n).all Char.isDigit = true :=
    List.all_eq_true.mpr fun c hMem => isDigit_of_mem_toDigits hMem
  rw [parseNat]
  simp only [if_neg hPlus, hValue]
  exact if_pos ⟨toDigits_ne_nil n, hAll, h⟩

end Fields

namespace Text

theorem linesFrom_append {line : List Char} (h : '\n' ∉ line) (acc rest : List Char) :
    linesFrom acc (line ++ rest) = linesFrom (acc ++ line) rest := by
  induction line generalizing acc with
  | nil => rw [List.nil_append, List.append_nil]
  | cons c line ih =>
    have hc : c ≠ '\n' := fun hEq => h (hEq ▸ List.mem_cons_self)
    rw [List.cons_append, linesFrom, if_neg hc, ih fun hMem => h (List.mem_cons_of_mem _ hMem),
      List.append_assoc, List.singleton_append]

theorem linesFrom_break {line : List Char} (h : '\n' ∉ line) (rest : List Char) :
    linesFrom [] (line ++ '\n' :: rest) = String.ofList (dropReturn line) :: linesFrom [] rest := by
  rw [linesFrom_append h, List.nil_append, linesFrom, if_pos rfl]

theorem linesFrom_intercalate {printed : List (List Char)} (hLines : ∀ line ∈ printed, line ≠ [] ∧ '\n' ∉ line)
    (hReturn : ∀ line ∈ printed, line.getLast? ≠ some '\r') :
    linesFrom [] (['\n'].intercalate printed) = printed.map String.ofList := by
  induction printed with
  | nil => rfl
  | cons line rest ih =>
    obtain ⟨⟨hSome, hBreak⟩, hRest⟩ := List.forall_mem_cons.mp hLines
    obtain ⟨hKept, hRestReturn⟩ := List.forall_mem_cons.mp hReturn
    cases rest with
    | nil =>
      rw [List.intercalate_singleton, ← List.append_nil line, linesFrom_append hBreak, List.nil_append, linesFrom,
        if_neg hSome, List.append_nil]
      rfl
    | cons next rest =>
      rw [List.intercalate_cons_cons, List.append_assoc, List.singleton_append, linesFrom_break hBreak,
        ih hRest hRestReturn, dropReturn, if_neg hKept]
      rfl

end Text

end Foundation
