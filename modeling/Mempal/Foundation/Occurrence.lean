import Mathlib.Data.List.Infix

set_option autoImplicit false

/-! A text is searched from the left. A block starts with an opening delimiter and ends with the first closing delimiter
after it; the blocks of a text are taken from the left and do not overlap. -/

namespace Foundation

namespace Occurrence

variable {α : Type*}

/-- The needle does not begin further left than after `before`. -/
def First (needle before after : List α) : Prop :=
  ∀ b a, before ++ (needle ++ after) = b ++ (needle ++ a) → before.length ≤ b.length

theorem First.unique {needle before after before' after' : List α} (h : First needle before after)
    (h' : First needle before' after') (hText : before ++ (needle ++ after) = before' ++ (needle ++ after')) :
    before = before' ∧ after = after' := by
  have hLength : before.length = before'.length :=
    Nat.le_antisymm (h before' after' hText) (h' before after hText.symm)
  obtain ⟨hBefore, hRest⟩ := List.append_inj hText hLength
  exact ⟨hBefore, List.append_cancel_left hRest⟩

theorem First.suffix {needle before after before' after' : List α} (h : First needle before after)
    (hText : before ++ (needle ++ after) = before' ++ (needle ++ after')) : after' <:+ after := by
  have hLength := h before' after' hText
  have hCount := congrArg List.length hText
  simp only [List.length_append] at hCount
  have hEnds : after <:+ before ++ (needle ++ after) := ⟨before ++ needle, by rw [List.append_assoc]⟩
  have hEnds' : after' <:+ before ++ (needle ++ after) :=
    hText ▸ ⟨before' ++ needle, by rw [List.append_assoc]⟩
  exact List.suffix_of_suffix_length_le hEnds' hEnds (by omega)

theorem drop_append_append (before needle after : List α) :
    (before ++ (needle ++ after)).drop (before.length + needle.length) = after := by
  rw [← List.append_assoc, ← List.length_append, List.drop_left]

theorem first_nil (needle after : List α) : First needle [] after :=
  fun _ _ _ => Nat.zero_le _

theorem first_cons {needle before after : List α} {c : α} (h : First needle before after)
    (hHead : ¬ needle <+: c :: (before ++ (needle ++ after))) : First needle (c :: before) after := by
  intro b a hText
  cases b with
  | nil => exact absurd ⟨a, hText.symm⟩ hHead
  | cons d b => exact Nat.succ_le_succ (h b a (List.cons.inj hText).2)

section Find

variable [DecidableEq α]

def find (needle : List α) : List α → Option Nat
  | [] => if needle = [] then some 0 else none
  | c :: text => if needle <+: c :: text then some 0 else (find needle text).map (· + 1)

theorem find_eq_some {needle text : List α} {i : Nat} (h : find needle text = some i) :
    ∃ before after, text = before ++ (needle ++ after) ∧ before.length = i ∧ First needle before after := by
  induction text generalizing i with
  | nil =>
    simp only [find, Option.ite_none_right_eq_some, Option.some.injEq] at h
    exact ⟨[], [], by rw [h.1]; rfl, h.2, first_nil _ _⟩
  | cons c text ih =>
    rw [find] at h
    split_ifs at h with hHead
    · obtain ⟨after, hAfter⟩ := hHead
      exact ⟨[], after, hAfter.symm, Option.some.inj h, first_nil _ _⟩
    · obtain ⟨k, hk, rfl⟩ := Option.map_eq_some_iff.mp h
      obtain ⟨before, after, rfl, hLength, hFirst⟩ := ih hk
      exact ⟨c :: before, after, rfl, congrArg (· + 1) hLength, first_cons hFirst hHead⟩

theorem find_eq_none {needle text : List α} (h : find needle text = none) : ¬ needle <:+: text := by
  induction text with
  | nil =>
    intro hInfix
    simp [find, List.infix_nil.mp hInfix] at h
  | cons c text ih =>
    rw [find] at h
    split_ifs at h with hHead
    intro hInfix
    rcases List.infix_cons_iff.mp hInfix with hStart | hLater
    · exact hHead hStart
    · exact ih (Option.map_eq_none_iff.mp h) hLater

end Find

section Blocks

variable (opening closing : List α)

def HasBlock (text : List α) : Prop :=
  ∃ before inside after, text = before ++ (opening ++ (inside ++ (closing ++ after)))

/-- `Outside text kept tail`: `tail` follows the last block of the text and `kept` is what stands between the blocks
before it. -/
inductive Outside : List α → List α → List α → Prop
  | rest {text} (hNone : ¬ HasBlock opening closing text) : Outside text [] text
  | block {text before inside after kept tail}
      (hText : text = before ++ (opening ++ (inside ++ (closing ++ after))))
      (hOpen : First opening before (inside ++ (closing ++ after))) (hClose : First closing inside after)
      (hAfter : Outside after kept tail) : Outside text (before ++ kept) tail

variable {opening closing}

theorem Outside.unique {text kept tail kept' tail' : List α} (h : Outside opening closing text kept tail)
    (h' : Outside opening closing text kept' tail') : kept = kept' ∧ tail = tail' := by
  induction h generalizing kept' tail' with
  | rest hNone =>
    cases h' with
    | rest => exact ⟨rfl, rfl⟩
    | block hText => exact absurd ⟨_, _, _, hText⟩ hNone
  | block hText hOpen hClose _ ih =>
    cases h' with
    | rest hNone => exact absurd ⟨_, _, _, hText⟩ hNone
    | block hText' hOpen' hClose' hAfter' =>
      obtain ⟨rfl, hRest⟩ := hOpen.unique hOpen' (hText.symm.trans hText')
      obtain ⟨rfl, rfl⟩ := hClose.unique hClose' hRest
      obtain ⟨rfl, rfl⟩ := ih hAfter'
      exact ⟨rfl, rfl⟩

theorem Outside.sublist {text kept tail : List α} (h : Outside opening closing text kept tail) :
    (kept ++ tail).Sublist text := by
  induction h with
  | rest => exact List.Sublist.refl _
  | block hText _ _ _ ih =>
    rw [hText, List.append_assoc]
    apply List.Sublist.append_left
    have hCut := ih.trans (List.sublist_append_right closing _)
    exact (hCut.trans (List.sublist_append_right _ _)).trans (List.sublist_append_right _ _)

end Blocks

end Occurrence

end Foundation
