import Mempal.Foundation.Fallible
import Mempal.TimestampReading

set_option autoImplicit false

/-! The `since` arguments of the timeline, of priming and of the audit: a number of units before now, or an instant. The
unit is cut off one byte before the end of the text. -/

namespace Mempal.Since

open Foundation

def InI64 (n : Int) : Prop := -9223372036854775808 ≤ n ∧ n < 9223372036854775808

instance (n : Int) : Decidable (InI64 n) := inferInstanceAs (Decidable (_ ∧ _))

/-- `str::parse::<i64>`. -/
def parseI64 (text : List Char) : Option Int := (parseSigned text).filter fun n => InI64 n

def multiplier : Char → Option Int
  | 's' => some 1
  | 'm' => some 60
  | 'h' => some 3600
  | 'd' => some 86400
  | _ => none

def byteLength (text : List Char) : Nat := (text.map Char.utf8Size).sum

/-- The three copies of the parser, which differ in the shortest text they look at. -/
def durationSecs (shortest : Nat) (raw : String) : Except Fault (Option Int) :=
  if byteLength raw.toList < shortest then .ok none
  else
    match raw.toList.getLast? with
    | none => .ok none
    | some unit =>
      -- `split_at` panics inside of a character
      if unit.utf8Size ≠ 1 then .error .bounds
      else
        match parseI64 raw.toList.dropLast, multiplier unit with
        | some value, some factor => (i64 (value * factor)).map some
        | _, _ => .ok none

def parseRelativeDuration : String → Except Fault (Option Int) := durationSecs 2

def parseDurationSpec : String → Except Fault (Option Int) := durationSecs 1

def tryParseDurationSecs : String → Except Fault (Option Int) := durationSecs 1

inductive SinceError where
  | empty
  | invalid (value : String)
deriving DecidableEq, Repr

def parseAbsoluteTimestamp (raw : String) : Option Int := parseI64 raw.toList <|> parseRfc3339 raw

/-- `parse_since_cutoff` of the timeline. -/
def timelineCutoff (raw : String) (now : Int) : Except Fault (Except SinceError Int) :=
  parseRelativeDuration raw >>= fun
    | some seconds => (i64 (now - seconds)).map .ok
    | none => .ok ((parseAbsoluteTimestamp raw).elim (.error (.invalid raw)) .ok)

/-- `parse_since_cutoff` of priming; `all` gives no cutoff. -/
def primingCutoff (raw : String) (now : Int) : Except Fault (Except SinceError (Option Int)) :=
  if raw = "all" then .ok (.ok none)
  else
    parseDurationSpec raw >>= fun
      | some seconds => (i64 (now - seconds)).map fun cutoff => .ok (some cutoff)
      | none => .ok (.error (.invalid raw))

/-- `parse_since_str` of the audit. -/
def auditCutoff (raw : String) (now : Int) : Except Fault (Except SinceError Int) :=
  if raw = "" then .ok (.error .empty)
  else
    tryParseDurationSecs raw >>= fun
      | some seconds => (i64 (now - seconds)).map .ok
      | none => .ok ((parseRfc3339 raw).elim (.error (.invalid raw)) .ok)

/-- The last character is one byte long, and neither the seconds nor the cutoff leave the range. -/
def Safe (raw : String) (now : Int) : Prop :=
  (∀ unit ∈ raw.toList.getLast?, unit.utf8Size = 1) ∧
    ∀ value ∈ parseI64 raw.toList.dropLast, ∀ factor ∈ raw.toList.getLast?.bind multiplier,
      InI64 (value * factor) ∧ InI64 (now - value * factor)

variable {raw : String} {now : Int}

theorem exists_i64_iff {n : Int} : (∃ m, i64 n = .ok m) ↔ InI64 n := by
  unfold i64
  split
  · exact iff_of_true ⟨n, rfl⟩ ‹_›
  · exact iff_of_false (by rintro ⟨_, ⟨⟩⟩) ‹_›

theorem durationSecs_two (raw : String) : durationSecs 2 raw = durationSecs 1 raw := by
  unfold durationSecs
  rcases raw.toList.eq_nil_or_concat' with hNil | ⟨front, unit, hText⟩
  · rw [hNil]
    rfl
  · have hUnit := unit.utf8Size_pos
    rw [hText]
    cases front with
    | nil =>
      have hNone : parseI64 [] = none := by decide
      rcases Nat.lt_or_ge unit.utf8Size 2 with hShort | hLong
      · simp [byteLength, hNone, show unit.utf8Size = 1 by omega]
      · simp [byteLength, hLong.not_gt, show unit.utf8Size ≠ 0 by omega]
    | cons c front =>
      have hFirst := c.utf8Size_pos
      rw [if_neg, if_neg]
      · simp [byteLength]
        omega
      · simp [byteLength]
        omega

theorem exists_cutoff_iff {α : Type} (onward : Int → α) (otherwise : α) :
    (∃ a, (durationSecs 1 raw >>= fun
      | some seconds => (i64 (now - seconds)).map onward
      | none => .ok otherwise) = .ok a) ↔ Safe raw now := by
  have hMap (n : Int) : (∃ a, (i64 n).map onward = .ok a) ↔ InI64 n := by
    rw [← exists_i64_iff]
    cases i64 n <;> simp [Except.map]
  rw [durationSecs, Safe]
  rcases raw.toList.eq_nil_or_concat' with hNil | ⟨front, unit, hText⟩
  · simp [hNil, byteLength, ok_bind]
  · have hBytes : ¬ byteLength (front ++ [unit]) < 1 := by
      have hPos := unit.utf8Size_pos
      simp [byteLength]
      omega
    rw [hText, if_neg hBytes, List.getLast?_concat, List.dropLast_concat]
    simp only [Option.mem_some_iff, forall_eq', Option.bind_some]
    split
    · rename_i hWide
      exact iff_of_false (by rintro ⟨_, ⟨⟩⟩) fun hSafe => hWide hSafe.1
    · rename_i hByte
      rw [and_iff_right (not_not.mp hByte)]
      cases parseI64 front with
      | none => simp [ok_bind]
      | some value =>
        cases multiplier unit with
        | none => simp [ok_bind]
        | some factor =>
          simp only [Option.mem_some_iff, forall_eq']
          rcases Decidable.em (InI64 (value * factor)) with hIn | hOut
          · rw [show i64 (value * factor) = .ok (value * factor) from if_pos hIn, and_iff_right hIn, ← hMap]
            rfl
          · rw [show i64 (value * factor) = .error .overflow from if_neg hOut]
            exact iff_of_false (by rintro ⟨_, ⟨⟩⟩) fun hBoth => hOut hBoth.1

theorem isDigit_or_sign_of_parseUnsigned {text : List Char} (h : (parseUnsigned text).isSome) :
    ∀ c ∈ text, c.isDigit = true ∨ c = '+' := by
  unfold parseUnsigned at h
  split at h <;> split at h
  · rename_i hDigits
    intro c hc
    exact (List.mem_cons.mp hc).elim Or.inr fun hMem => Or.inl (List.all_eq_true.mp hDigits.2 c hMem)
  · cases h
  · rename_i hDigits
    exact fun c hc => Or.inl (List.all_eq_true.mp hDigits.2 c hc)
  · cases h

theorem isDigit_or_sign_of_parseSigned {text : List Char} (h : (parseSigned text).isSome) :
    ∀ c ∈ text, c.isDigit = true ∨ c = '+' ∨ c = '-' := by
  unfold parseSigned at h
  split at h
  · split at h
    · rename_i hDigits
      intro c hc
      exact (List.mem_cons.mp hc).elim (Or.inr ∘ Or.inr) fun hMem => Or.inl (List.all_eq_true.mp hDigits.2 c hMem)
    · cases h
  · rw [Option.isSome_map] at h
    exact fun c hc => (isDigit_or_sign_of_parseUnsigned h c hc).imp_right Or.inl

def DigitsWithUnit (raw : String) : Prop :=
  ∃ digits unit, raw.toList = digits ++ [unit] ∧ (∀ c ∈ digits, c.isDigit = true) ∧ (multiplier unit).isSome

theorem not_absolute (h : DigitsWithUnit raw) :
    parseI64 raw.toList = none ∧ parseRfc3339 raw = none ∧ raw ≠ "all" ∧ raw ≠ "" := by
  obtain ⟨digits, unit, hText, hDigits, hUnit⟩ := h
  have hLetter : unit.isDigit = false ∧ unit ≠ '+' ∧ unit ≠ '-' ∧ unit ≠ 'l' := by
    unfold multiplier at hUnit
    split at hUnit <;> first | decide | cases hUnit
  refine ⟨?_, ?_, ?_, ?_⟩
  · cases hRead : parseSigned raw.toList with
    | none => rw [parseI64, hRead]; rfl
    | some n =>
      have hChar := isDigit_or_sign_of_parseSigned (by rw [hRead]; rfl) unit (by rw [hText]; simp)
      simp [hLetter] at hChar
  · have hDash : raw.toList[4]? ≠ some '-' := by
      intro hAt
      have hMem := List.mem_of_getElem? hAt
      rw [hText, List.mem_append, List.mem_singleton] at hMem
      rcases hMem with hMem | hMem
      · exact absurd (hDigits _ hMem) (by decide)
      · exact hLetter.2.2.1 hMem.symm
    simp [parseRfc3339, hDash]
  · rintro rfl
    have hLast := congrArg List.getLast? hText
    rw [List.getLast?_concat] at hLast
    exact hLetter.2.2.2 (Option.some.inj hLast).symm
  · rintro rfl
    simp at hText

/-- The three commands take every `since` value without a fault, and agree on digits with a unit, exactly if the value
is safe. -/
theorem since_values_safe_iff (raw : String) (now : Int) :
    ((∃ a, timelineCutoff raw now = .ok a) ∧ (∃ b, primingCutoff raw now = .ok b) ∧ (∃ c, auditCutoff raw now = .ok c) ∧
      (DigitsWithUnit raw → ∀ cutoff, (timelineCutoff raw now = .ok (.ok cutoff) ↔ auditCutoff raw now = .ok (.ok cutoff)) ∧
        (timelineCutoff raw now = .ok (.ok cutoff) ↔ primingCutoff raw now = .ok (.ok (some cutoff))))) ↔
      Safe raw now := by
  have hTimeline : (∃ a, timelineCutoff raw now = .ok a) ↔ Safe raw now := by
    rw [timelineCutoff, parseRelativeDuration, durationSecs_two]
    exact exists_cutoff_iff _ _
  have hPriming : Safe raw now → ∃ b, primingCutoff raw now = .ok b := by
    intro hSafe
    unfold primingCutoff
    split
    · exact ⟨_, rfl⟩
    · exact (exists_cutoff_iff _ _).mpr hSafe
  have hAudit : Safe raw now → ∃ c, auditCutoff raw now = .ok c := by
    intro hSafe
    unfold auditCutoff
    split
    · exact ⟨_, rfl⟩
    · exact (exists_cutoff_iff _ _).mpr hSafe
  refine ⟨fun h => hTimeline.mp h.1, fun hSafe => ⟨hTimeline.mpr hSafe, hPriming hSafe, hAudit hSafe, ?_⟩⟩
  intro hDigits cutoff
  obtain ⟨hNumber, hText, hAll, hEmpty⟩ := not_absolute hDigits
  rw [timelineCutoff, parseRelativeDuration, durationSecs_two, primingCutoff, if_neg hAll, parseDurationSpec, auditCutoff,
    if_neg hEmpty, tryParseDurationSecs, parseAbsoluteTimestamp, hNumber, hText]
  cases durationSecs 1 raw with
  | error fault => simp [bind, Except.bind]
  | ok seconds =>
    cases seconds with
    | none => simp [ok_bind]
    | some seconds =>
      rw [ok_bind, ok_bind, ok_bind]
      cases hCheck : i64 (now - seconds) <;> simp [Except.map, hCheck]

/-- The last character of the first value has two bytes; the second one is too many seconds. -/
theorem since_values_fault :
    timelineCutoff "1é" 0 = .error .bounds ∧ auditCutoff "9223372036854775807d" 0 = .error .overflow := by
  decide +kernel

end Mempal.Since
