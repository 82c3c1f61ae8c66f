import Mathlib.Data.List.Infix

set_option autoImplicit false

/-! The functions on text that queries and string code rely on: Unicode blanks, substrings, lower case for ASCII and
the `LIKE` operator. -/

namespace Foundation

namespace Text

/-- Unicode `White_Space`. -/
def isWhitespace (c : Char) : Bool :=
  let n := c.toNat
  (9 ≤ n && n ≤ 13) || n == 0x20 || n == 0x85 || n == 0xA0 || n == 0x1680 || (0x2000 ≤ n && n ≤ 0x200A) ||
    n == 0x2028 || n == 0x2029 || n == 0x202F || n == 0x205F || n == 0x3000

def isBlank (text : String) : Bool := text.toList.all isWhitespace

def trim (text : String) : String :=
  String.ofList ((text.toList.dropWhile isWhitespace).reverse.dropWhile isWhitespace).reverse

def trimEnd (text : String) : String := String.ofList (text.toList.reverse.dropWhile isWhitespace).reverse

def hasText (text needle : String) : Bool := decide (needle.toList <:+: text.toList)

/-- Every occurrence from the left is replaced; `fuel` bounds the length of the text. -/
def replaceChars (old new : List Char) : Nat → List Char → List Char
  | 0, text => text
  | _ + 1, [] => []
  | fuel + 1, c :: text =>
    if old <+: c :: text then new ++ replaceChars old new fuel ((c :: text).drop old.length)
    else c :: replaceChars old new fuel text

def replace (text old new : String) : String :=
  String.ofList (replaceChars old.toList new.toList text.toList.length text.toList)

def asciiLower (text : String) : String := String.ofList (text.toList.map Char.toLower)

/-- The `LIKE` operator: `%` is any text, `_` any character, and ASCII letters match in both cases. -/
def likeChars : List Char → List Char → Bool
  | [] => List.isEmpty
  | p :: pattern => fun text =>
    if p = '%' then text.tails.any (likeChars pattern)
    else
      match text with
      | [] => false
      | c :: text => (p = '_' || p.toLower = c.toLower) && likeChars pattern text

/-- What SQLite sees of a text in `LIKE`, `length` and `substr`. -/
def beforeNul (text : String) : List Char := text.toList.takeWhile (· ≠ '\x00')

def like (text pattern : String) : Bool := likeChars (beforeNul pattern) (beforeNul text)

/-- `SQLITE_MAX_LIKE_PATTERN_LENGTH`; SQLite refuses to evaluate `LIKE` with a longer pattern. -/
def maxLikePatternBytes : Nat := 50000

theorem trim_sublist (text : String) : (trim text).toList.Sublist text.toList := by
  rw [trim, String.toList_ofList]
  have hEnd := List.reverse_sublist.mpr
    (List.dropWhile_sublist (l := (text.toList.dropWhile isWhitespace).reverse) isWhitespace)
  rw [List.reverse_reverse] at hEnd
  exact hEnd.trans (List.dropWhile_sublist _)

variable {c : Char} {l l' s s' : List Char}

theorem append_cons_inj (hl : c ∉ l) (hl' : c ∉ l') (h : l ++ c :: s = l' ++ c :: s') : l = l' ∧ s = s' := by
  induction l generalizing l' with
  | nil =>
    cases l' with
    | nil => exact ⟨rfl, (List.cons.inj h).2⟩
    | cons a l' => exact absurd ((List.cons.inj h).1 ▸ List.mem_cons_self) hl'
  | cons a l ih =>
    cases l' with
    | nil => exact absurd ((List.cons.inj h).1 ▸ List.mem_cons_self) hl
    | cons a' l' =>
      obtain ⟨hHead, hTail⟩ := List.cons.inj h
      obtain ⟨hl, hs⟩ := ih (fun hMem => hl (List.mem_cons_of_mem _ hMem))
        (fun hMem => hl' (List.mem_cons_of_mem _ hMem)) hTail
      exact ⟨by rw [hHead, hl], hs⟩

theorem append_cons_cases {front back text rest : List Char} (hText : c ∉ text)
    (h : front ++ c :: back = text ++ c :: rest) : back = rest ∨ ∃ middle, middle ++ c :: back = rest := by
  rcases List.append_eq_append_iff.mp h with ⟨middle, rfl, hTail⟩ | ⟨middle, rfl, hTail⟩
  · cases middle with
    | nil => exact Or.inl (List.cons.inj hTail).2
    | cons d middle =>
      obtain ⟨rfl, _⟩ := List.cons.inj hTail
      exact absurd (List.mem_append_right front List.mem_cons_self) hText
  · cases middle with
    | nil => exact Or.inl (List.cons.inj hTail).2.symm
    | cons d middle => exact Or.inr ⟨middle, (List.cons.inj hTail).2.symm⟩

theorem append_cons_inj_last (hs : c ∉ s) (hs' : c ∉ s') (h : l ++ c :: s = l' ++ c :: s') : s = s' := by
  have hRev := congrArg List.reverse h
  simp only [List.reverse_append, List.reverse_cons, List.append_assoc, List.singleton_append] at hRev
  have hCut := append_cons_inj (fun hMem => hs (List.mem_reverse.mp hMem))
    (fun hMem => hs' (List.mem_reverse.mp hMem)) hRev
  exact List.reverse_injective hCut.1

end Text

end Foundation
