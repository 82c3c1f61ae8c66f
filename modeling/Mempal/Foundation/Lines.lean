import Mathlib.Data.List.DropRight
import Mathlib.Data.List.TakeWhile
import Mempal.Foundation.Text

set_option autoImplicit false

/-! # Trimmed texts and lines -/

namespace Foundation

namespace Text

variable (text : String)

theorem toList_trim : (trim text).toList = (text.toList.dropWhile isWhitespace).rdropWhile isWhitespace := by
  rw [trim, String.toList_ofList, List.rdropWhile]

theorem trim_split : ∃ before after, text.toList = before ++ (trim text).toList ++ after ∧
    (∀ c ∈ before, isWhitespace c = true) ∧ ∀ c ∈ after, isWhitespace c = true := by
  have hBefore := List.takeWhile_append_dropWhile (p := isWhitespace) (l := text.toList)
  have hAfter := List.takeWhile_append_dropWhile (p := isWhitespace)
    (l := (text.toList.dropWhile isWhitespace).reverse)
  refine ⟨text.toList.takeWhile isWhitespace,
    ((text.toList.dropWhile isWhitespace).reverse.takeWhile isWhitespace).reverse, ?_,
    fun _ => List.mem_takeWhile_imp, fun _ hMem => List.mem_takeWhile_imp (List.mem_reverse.mp hMem)⟩
  rw [toList_trim, List.rdropWhile, List.append_assoc, ← List.reverse_append, hAfter, List.reverse_reverse,
    hBefore]

theorem trim_within : (trim text).toList <:+: text.toList := by
  obtain ⟨before, after, hText, _⟩ := trim_split text
  exact ⟨before, after, hText.symm⟩

theorem trim_trim : trim (trim text) = trim text := by
  apply String.toList_inj.mp
  rw [toList_trim (trim text)]
  have hHead : (trim text).toList.dropWhile isWhitespace = (trim text).toList := by
    rw [List.dropWhile_eq_self_iff]
    intro hPos
    have hPrefix := List.rdropWhile_prefix isWhitespace (l := text.toList.dropWhile isWhitespace)
    rw [← toList_trim] at hPrefix
    rw [hPrefix.getElem hPos]
    exact List.dropWhile_get_zero_not _ _ _
  rw [hHead, toList_trim, List.rdropWhile_idempotent]

theorem trim_eq_empty_iff : trim text = "" ↔ ∀ c ∈ text.toList, isWhitespace c = true := by
  obtain ⟨before, after, hText, hBefore, hAfter⟩ := trim_split text
  constructor
  · intro hEmpty c hMem
    rw [hText, hEmpty, List.mem_append, List.mem_append] at hMem
    rcases hMem with (hMem | hMem) | hMem
    · exact hBefore c hMem
    · exact absurd hMem List.not_mem_nil
    · exact hAfter c hMem
  · intro hBlank
    apply String.toList_inj.mp
    rw [toList_trim, List.dropWhile_eq_nil_iff.mpr hBlank]
    rfl

theorem mem_trim {text : String} {c : Char} (hc : isWhitespace c = false) :
    c ∈ (trim text).toList ↔ c ∈ text.toList := by
  obtain ⟨before, after, hText, hBefore, hAfter⟩ := trim_split text
  have hOutside : c ∉ before ∧ c ∉ after := by
    constructor
    · intro hMem
      rw [hBefore c hMem] at hc
      cases hc
    · intro hMem
      rw [hAfter c hMem] at hc
      cases hc
  rw [hText, List.mem_append, List.mem_append]
  simp [hOutside]

def dropReturn (line : List Char) : List Char :=
  if line.getLast? = some '\r' then line.dropLast else line

def linesFrom (line : List Char) : List Char → List String
  | [] => if line = [] then [] else [String.ofList line]
  | c :: text =>
    if c = '\n' then String.ofList (dropReturn line) :: linesFrom [] text else linesFrom (line ++ [c]) text

def lines (text : String) : List String := linesFrom [] text.toList

end Text

end Foundation
