import Mempal.Foundation.Occurrence
import Mempal.Foundation.Text

set_option autoImplicit false

/-! `strip_tag_blocks` of `xurl/parser/hermes.rs`: the loop copies the text before each opening tag and goes on behind
the closing tag. -/

namespace Mempal.Xurl

open Foundation Foundation.Occurrence

def openTag (tag : String) : List Char := '<' :: (tag.toList ++ ['>'])

def closeTag (tag : String) : List Char := '<' :: '/' :: (tag.toList ++ ['>'])

variable {tag input : String} {remaining : List Char} {start : Nat}

theorem rest_shorter (hStart : find (openTag tag) remaining = some start) (stop : Nat) :
    ((remaining.drop (start + (openTag tag).length)).drop stop).length < remaining.length := by
  obtain ⟨before, after, rfl, rfl, _⟩ := find_eq_some hStart
  simp only [openTag, List.length_drop, List.length_append, List.length_cons]
  omega

def stripLoop (tag : String) (result remaining : List Char) : List Char :=
  match _hStart : find (openTag tag) remaining with
  | none => result ++ remaining
  | some start =>
    let copied := result ++ remaining.take start
    let afterOpen := remaining.drop (start + (openTag tag).length)
    match find (closeTag tag) afterOpen with
    -- the loop breaks and the text before the tag is still part of `remaining`
    | none => copied ++ remaining
    | some stop => stripLoop tag copied (afterOpen.drop (stop + (closeTag tag).length))
termination_by remaining.length
decreasing_by exact rest_shorter _hStart _

def stripTagBlocks (input tag : String) : String :=
  String.ofList (stripLoop tag [] input.toList)

def sanitizeContent (input : String) : String :=
  Text.trim (stripTagBlocks (stripTagBlocks input "context") "system-reminder")

theorem stripLoop_none (hStart : find (openTag tag) remaining = none)
    (result : List Char) : stripLoop tag result remaining = result ++ remaining := by
  rw [stripLoop]
  split
  · rfl
  · rename_i start hSome
    rw [hSome] at hStart
    cases hStart

theorem stripLoop_open (hStart : find (openTag tag) remaining = some start) (result : List Char) :
    stripLoop tag result remaining =
      match find (closeTag tag) (remaining.drop (start + (openTag tag).length)) with
      | none => result ++ remaining.take start ++ remaining
      | some stop => stripLoop tag (result ++ remaining.take start)
          ((remaining.drop (start + (openTag tag).length)).drop (stop + (closeTag tag).length)) := by
  rw [stripLoop]
  split
  · rename_i hNone
    rw [hNone] at hStart
    cases hStart
  · rename_i start' hSome
    obtain rfl := Option.some.inj (hSome.symm.trans hStart)
    rfl

def repeated (tag : String) (tail : List Char) : List Char :=
  tail.take ((find (openTag tag) tail).getD 0)

theorem stripLoop_outside (tag : String) (result remaining : List Char) :
    ∃ kept tail, Outside (openTag tag) (closeTag tag) remaining kept tail ∧
      stripLoop tag result remaining = result ++ kept ++ repeated tag tail ++ tail := by
  induction hLength : remaining.length using Nat.strong_induction_on generalizing result remaining with
  | _ length ih =>
    cases hStart : find (openTag tag) remaining with
    | none =>
      refine ⟨[], remaining, .rest ?_, ?_⟩
      · rintro ⟨before, inside, after, hText⟩
        exact find_eq_none hStart ⟨before, inside ++ (closeTag tag ++ after), by rw [hText, List.append_assoc]⟩
      · rw [stripLoop_none hStart, repeated, hStart]
        simp
    | some start =>
      obtain ⟨before, afterOpen, hText, rfl, hFirst⟩ := find_eq_some hStart
      have hDrop : remaining.drop (before.length + (openTag tag).length) = afterOpen := by
        rw [hText, drop_append_append]
      have hTake : remaining.take before.length = before := by rw [hText, List.take_left]
      cases hStop : find (closeTag tag) afterOpen with
      | none =>
        refine ⟨[], remaining, .rest ?_, ?_⟩
        · rintro ⟨before', inside, after, hBlock⟩
          have hSuffix := hFirst.suffix (hText.symm.trans hBlock)
          exact find_eq_none hStop (List.IsInfix.trans ⟨inside, after, by rw [List.append_assoc]⟩ hSuffix.isInfix)
        · rw [stripLoop_open hStart, hDrop, hStop, repeated, hStart]
          simp
      | some stop =>
        obtain ⟨inside, after, hAfterOpen, rfl, hClose⟩ := find_eq_some hStop
        have hDropClose : afterOpen.drop (inside.length + (closeTag tag).length) = after := by
          rw [hAfterOpen, drop_append_append]
        have hShorter := rest_shorter hStart (inside.length + (closeTag tag).length)
        rw [hDrop, hDropClose, hLength] at hShorter
        obtain ⟨kept, tail, hOutside, hLoop⟩ := ih _ hShorter (result ++ before) after rfl
        refine ⟨before ++ kept, tail, .block (hAfterOpen ▸ hText) (hAfterOpen ▸ hFirst) hClose hOutside, ?_⟩
        rw [stripLoop_open hStart, hTake, hDrop, hStop]
        simp only [hDropClose, hLoop, List.append_assoc]

/-- The output is the input without its complete blocks. -/
structure DeletesBlocks (tag input output : String) : Prop where
  outside : ∃ kept tail, Outside (openTag tag) (closeTag tag) input.toList kept tail ∧
    output.toList = kept ++ tail
  subsequence : output.toList.Sublist input.toList
  shorter : output.length ≤ input.length
  untouched : ¬ HasBlock (openTag tag) (closeTag tag) input.toList → output = input

/-- Behind the last complete block stands no opening tag, or it stands there at once. -/
def NoTextBeforeUnclosed (tag input : String) : Prop :=
  ∀ kept tail, Outside (openTag tag) (closeTag tag) input.toList kept tail →
    openTag tag <:+: tail → openTag tag <+: tail

theorem repeated_eq_nil_iff {tail : List Char} (tag : String) :
    repeated tag tail = [] ↔ (openTag tag <:+: tail → openTag tag <+: tail) := by
  cases hStart : find (openTag tag) tail with
  | none => simp [repeated, hStart, find_eq_none hStart]
  | some start =>
    obtain ⟨before, after, rfl, rfl, hFirst⟩ := find_eq_some hStart
    simp only [repeated, hStart, Option.getD_some, List.take_left]
    constructor
    · rintro rfl _
      exact ⟨after, rfl⟩
    · intro hStarts
      obtain ⟨rest, hRest⟩ := hStarts ⟨before, after, by rw [List.append_assoc]⟩
      have hShort : before.length ≤ [].length := hFirst [] rest hRest.symm
      exact List.eq_nil_of_length_eq_zero (Nat.le_zero.mp hShort)

theorem deletesBlocks_of_outside {output : String} {kept tail : List Char}
    (h : Outside (openTag tag) (closeTag tag) input.toList kept tail)
    (hOutput : output.toList = kept ++ tail) : DeletesBlocks tag input output where
  outside := ⟨kept, tail, h, hOutput⟩
  subsequence := hOutput ▸ h.sublist
  shorter := by
    rw [← String.length_toList, ← String.length_toList, hOutput]
    exact h.sublist.length_le
  untouched := by
    intro hNone
    obtain ⟨rfl, rfl⟩ := h.unique (.rest hNone)
    exact String.toList_inj.mp hOutput

theorem stripTagBlocks_eq (input tag : String) :
    ∃ kept tail, Outside (openTag tag) (closeTag tag) input.toList kept tail ∧
      (stripTagBlocks input tag).toList = kept ++ repeated tag tail ++ tail := by
  obtain ⟨kept, tail, hOutside, hLoop⟩ := stripLoop_outside tag [] input.toList
  refine ⟨kept, tail, hOutside, ?_⟩
  rw [stripTagBlocks, String.toList_ofList, hLoop, List.nil_append]

theorem NoTextBeforeUnclosed.deletesBlocks (h : NoTextBeforeUnclosed tag input) :
    DeletesBlocks tag input (stripTagBlocks input tag) := by
  obtain ⟨kept, tail, hOutside, hOutput⟩ := stripTagBlocks_eq input tag
  have hNone := (repeated_eq_nil_iff tag).mpr (h kept tail hOutside)
  exact deletesBlocks_of_outside hOutside (by rw [hOutput, hNone, List.append_nil])

theorem stripTagBlocks_deletes_blocks_iff (input tag : String) :
    DeletesBlocks tag input (stripTagBlocks input tag) ↔ NoTextBeforeUnclosed tag input := by
  constructor
  · intro hDeletes kept tail hOutside
    obtain ⟨kept', tail', hOutside', hOutput⟩ := stripTagBlocks_eq input tag
    obtain ⟨rfl, rfl⟩ := hOutside.unique hOutside'
    obtain ⟨kept', tail', hOutside', hKept⟩ := hDeletes.outside
    obtain ⟨rfl, rfl⟩ := hOutside.unique hOutside'
    rw [hOutput, List.append_assoc, List.append_cancel_left_eq] at hKept
    exact (repeated_eq_nil_iff tag).mp (List.self_eq_append_left.mp hKept.symm)
  · exact NoTextBeforeUnclosed.deletesBlocks

/-- The text before an unclosed tag comes out twice. -/
theorem unclosed_context_repeats :
    ¬ DeletesBlocks "context" "abc<context>def" (stripTagBlocks "abc<context>def" "context") := by
  intro hDeletes
  have hStart : find (openTag "context") "abc<context>def".toList = some 3 := by decide
  have hShorter := hDeletes.shorter
  rw [stripTagBlocks, stripLoop_open hStart] at hShorter
  revert hShorter
  decide

end Mempal.Xurl
