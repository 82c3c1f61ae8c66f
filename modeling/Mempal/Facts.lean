import Mathlib.Data.String.Basic
import Mempal.Foundation.Lines
import Mempal.Foundation.Table
import Mempal.Since

set_option autoImplicit false

/-! A query for active facts compares `valid_to` with the clock as text. The checks for stale facts read it as a number.
-/

namespace Mempal.Facts

open Foundation Foundation.Digits Foundation.Text

structure Triple where
  id : String
  subject : String
  predicate : String
  object : String
  validTo : Option String
  confidence : ℚ
  sourceDrawer : Option String
deriving DecidableEq, Repr

/-- `strftime('%s', 'now')`. -/
def strftimeSeconds (now : Nat) : Option String := if now * 1000 ≤ sqliteDateLimit then some now.repr else none

def Triple.isActive (now : Nat) (t : Triple) : Bool :=
  t.validTo.all fun text => (strftimeSeconds now).any fun clock => clock < text

def Triple.isAbout (subject predicate object : Option String) (t : Triple) : Bool :=
  subject.all (· == t.subject) && predicate.all (· == t.predicate) && object.all (· == t.object)

def queryTriples (triples : Table Triple.id) (subject predicate object : Option String) (activeOnly : Bool)
    (now : Nat) : List Triple :=
  (triples.rows.filter fun t => t.isAbout subject predicate object && (!activeOnly || t.isActive now)).mergeSort
    fun a b => b.confidence < a.confidence || a.confidence == b.confidence && decide (a.id ≤ b.id)

structure StaleFact where
  subject : String
  predicate : String
  object : String
  validTo : String
  tripleId : String
  sourceDrawer : Option String
deriving DecidableEq, Repr

def parseU64 (text : List Char) : Option Nat := (parseUnsigned text).filter fun n => n < 2 ^ 64

def detectStaleFacts (triples : Table Triple.id) (textTriples : List (String × String × String)) (now : Nat) :
    List StaleFact :=
  textTriples.flatMap fun (subject, predicate, object) =>
    (queryTriples triples (some subject) (some predicate) (some object) false now).filterMap fun kg => do
      let validTo ← kg.validTo
      let expirySecs ← parseU64 validTo.toList
      if expirySecs < now then some ⟨kg.subject, kg.predicate, kg.object, validTo, kg.id, kg.sourceDrawer⟩ else none

def parseTemporalTimestampSecs (value : String) : Option Int :=
  if trim value = "" then none else Since.parseI64 (trim value).toList <|> parseRfc3339 (trim value)

structure DrawerEvidence where
  projectId : Option String
deriving DecidableEq, Repr

structure StaleKgFactCandidate where
  tripleId : String
  sourceDrawerId : Option String
  source : Option DrawerEvidence
  validTo : String
  validToUnixSecs : Int
deriving DecidableEq, Repr

def findStaleKgFacts (triples : Table Triple.id) (drawerEvidenceById : String → Option DrawerEvidence)
    (projectId : Option String) (now limit : Nat) : Nat × List StaleKgFactCandidate :=
  let stale := (queryTriples triples none none none false now).filterMap fun triple => do
    let validTo ← triple.validTo
    let secs ← parseTemporalTimestampSecs validTo
    let source := triple.sourceDrawer.bind drawerEvidenceById
    if secs < min now 9223372036854775807 ∧ projectId.all fun p => source.any (·.projectId == some p) then
      some ⟨triple.id, triple.sourceDrawer, source, validTo, secs⟩
    else none
  (stale.length, stale.take limit)

def Triple.Dated (t : Triple) : Prop :=
  ∀ text ∈ t.validTo, text.toList ≠ [] ∧ ∀ c ∈ text.toList, c.isDigit = true

section
variable (triples : Table Triple.id) (drawerEvidenceById : String → Option DrawerEvidence) (now : Nat) (t : Triple)

def ReportedStale : Prop :=
  (∃ textTriples, ∃ issue ∈ detectStaleFacts triples textTriples now, issue.tripleId = t.id) ∨
    ∃ projectId limit, ∃ candidate ∈ (findStaleKgFacts triples drawerEvidenceById projectId now limit).2,
      candidate.tripleId = t.id

structure Complementary : Prop where
  active : ∀ subject predicate object, t.isAbout subject predicate object = true →
    (t ∈ queryTriples triples subject predicate object true now ↔ ∀ text ∈ t.validTo, now < value 10 text.toList)
  notBoth : t ∈ queryTriples triples none none none true now → ¬ReportedStale triples drawerEvidenceById now t
  neither : t ∉ queryTriples triples none none none true now → ¬ReportedStale triples drawerEvidenceById now t →
    t.validTo.map (value 10 ·.toList) = some now

end

/-- What a text that is longer than the clock's must be. Without a leading zero its number is greater, with one it sorts
before every clock but zero. -/
def LongerInOrder (now : Nat) (text : List Char) : Prop :=
  if text.head? = some '0' then if now = 0 then 0 < value 10 text else value 10 text ≤ now
  else Nat.toDigits 10 now < text

instance (now : Nat) (text : List Char) : Decidable (LongerInOrder now text) := by
  unfold LongerInOrder
  infer_instance

/-- The texts are in the order of the numbers; those of one length always are. -/
def OrderedAsText (now : Nat) (text : String) : Prop :=
  (now * 1000 ≤ sqliteDateLimit → text.length < now.repr.length → text ≤ now.repr) ∧
  (now * 1000 ≤ sqliteDateLimit → now.repr.length < text.length → LongerInOrder now text.toList) ∧
  (sqliteDateLimit < now * 1000 → value 10 text.toList ≤ now)

section Digits
variable {text : List Char} (hNonempty : text ≠ []) (hDigits : ∀ c ∈ text, c.isDigit = true)
include hNonempty hDigits

theorem parseUnsigned_digits : parseUnsigned text = some (value 10 text) := by
  have h := parseUnsigned_padded (List.length_pos_of_ne_nil hNonempty) (value_lt_pow hDigits)
  rwa [padded_value hNonempty hDigits] at h

theorem parseSigned_digits : parseSigned text = some (value 10 text : Int) := by
  have h := parseSigned_padded (List.length_pos_of_ne_nil hNonempty) (value_lt_pow hDigits)
  rwa [padded_value hNonempty hDigits] at h

theorem toDigits_lt_iff {now : Nat} (hLength : (Nat.toDigits 10 now).length = text.length) :
    Nat.toDigits 10 now < text ↔ now < value 10 text := by
  have hPos := List.length_pos_of_ne_nil hNonempty
  have hFits : now < 10 ^ text.length := (Nat.length_toDigits_le_iff (by decide) hPos).mp hLength.le
  have hNow : Nat.toDigits 10 now = padded 10 text.length now := by
    rw [padded, hLength, Nat.sub_self, List.replicate_zero, List.nil_append]
  have h := padded_append_lt_iff (s := []) (t := []) (show 1 < 10 by decide) (by decide) hPos hFits
    (value_lt_pow hDigits)
  rwa [List.append_nil, List.append_nil, padded_value hNonempty hDigits, ← hNow, or_iff_left (by simp)] at h

theorem value_lt_of_shorter {now : Nat} (hShort : text.length < (Nat.toDigits 10 now).length) :
    value 10 text < now := by
  have hPos := List.length_pos_of_ne_nil hNonempty
  have hLong : ¬now < 10 ^ text.length := fun h =>
    hShort.not_ge ((Nat.length_toDigits_le_iff (by decide) hPos).mpr h)
  exact (value_lt_pow hDigits).trans_le (not_lt.mp hLong)

end Digits

theorem value_cons (c : Char) (text : List Char) :
    value 10 (c :: text) = digitVal c * 10 ^ text.length + value 10 text := by
  induction text using List.reverseRecOn with
  | nil => simp [value]
  | append_singleton text x ih =>
    rw [← List.cons_append, value_append_singleton, value_append_singleton, ih, List.length_append,
      List.length_singleton, Nat.pow_succ, ← Nat.mul_assoc]
    omega

theorem isDigit_of_mem_toDigits {now : Nat} {c : Char} (h : c ∈ Nat.toDigits 10 now) : c.isDigit = true := by
  obtain ⟨d, hd, rfl⟩ := mem_toDigits (show 1 < 10 by decide) h
  clear h
  revert d
  decide

theorem zero_lt_of_isDigit {c : Char} (h : c.isDigit = true) (hNe : c ≠ '0') : '0' < c ∧ 0 < digitVal c := by
  rw [← digitChar_digitVal h] at hNe ⊢
  have hTen : digitVal c < 10 := by
    have hOne : ∀ x ∈ [c], x.isDigit = true := by simpa using h
    simpa [value] using value_lt_pow hOne
  generalize digitVal c = d at hNe hTen
  revert hNe
  revert d
  decide

theorem not_toDigits_lt_zero_cons {now : Nat} (hNow : now ≠ 0) (rest : List Char) :
    ¬ Nat.toDigits 10 now < '0' :: rest := by
  have hValue := value_toDigits (show 1 < 10 by decide) (by decide) now
  have hDigits : ∀ c ∈ Nat.toDigits 10 now, c.isDigit = true := fun _ => isDigit_of_mem_toDigits
  have hLength := fun k hk => Nat.length_toDigits_le_iff (b := 10) (n := now) (k := k) (by decide) hk
  cases hClock : Nat.toDigits 10 now with
  | nil =>
    rw [hClock] at hValue
    exact absurd hValue.symm hNow
  | cons d ds =>
    rw [hClock] at hValue hDigits hLength
    have hNe : d ≠ '0' := by
      rintro rfl
      rw [value_cons, show digitVal '0' = 0 by decide, Nat.zero_mul, Nat.zero_add] at hValue
      have hSmall := value_lt_pow fun c hc => hDigits c (List.mem_cons_of_mem _ hc)
      rcases Nat.eq_zero_or_pos ds.length with hNil | hPos
      · rw [List.eq_nil_of_length_eq_zero hNil] at hValue
        exact hNow hValue.symm
      · exact absurd ((hLength ds.length hPos).mpr (hValue ▸ hSmall)) (by simp)
    have hZero := (zero_lt_of_isDigit (hDigits d List.mem_cons_self) hNe).1
    rw [List.cons_lt_cons_iff]
    rintro (hLt | ⟨hEq, _⟩)
    · exact absurd (hLt.trans hZero) (lt_irrefl _)
    · exact hNe hEq

theorem longerInOrder_iff {now : Nat} {text : List Char} (hDigits : ∀ c ∈ text, c.isDigit = true)
    (hLong : (Nat.toDigits 10 now).length < text.length) :
    (Nat.toDigits 10 now < text ↔ now < value 10 text) ↔ LongerInOrder now text := by
  cases text with
  | nil => cases hLong
  | cons c rest =>
    unfold LongerInOrder
    rcases eq_or_ne c '0' with rfl | hNe
    · simp only [List.head?_cons, if_true]
      split
      · rename_i hNow
        subst hNow
        have hLt : Nat.toDigits 10 0 < '0' :: rest := by
          cases rest with
          | nil => cases hLong.false
          | cons => exact List.cons_lt_cons_iff.mpr (Or.inr ⟨rfl, by simp⟩)
        simp only [hLt, true_iff]
      · rename_i hNow
        simp only [not_toDigits_lt_zero_cons hNow rest, false_iff, not_lt]
    · have hDigit := (zero_lt_of_isDigit (hDigits c List.mem_cons_self) hNe).2
      have hPos : 0 < rest.length := by
        have hSome := Nat.length_toDigits_pos (b := 10) (n := now)
        simp only [List.length_cons] at hLong
        omega
      have hNow : now < 10 ^ rest.length :=
        (Nat.length_toDigits_le_iff (by decide) hPos).mp (Nat.le_of_lt_succ hLong)
      have hGreater : now < value 10 (c :: rest) := by
        rw [value_cons]
        exact hNow.trans_le ((Nat.le_mul_of_pos_left _ hDigit).trans (Nat.le_add_right _ _))
      simp [hNe, hGreater]

theorem parseTemporalTimestampSecs_digits {text : String} {secs : Int} (hNonempty : text.toList ≠ [])
    (hDigits : ∀ c ∈ text.toList, c.isDigit = true) (h : parseTemporalTimestampSecs text = some secs) :
    secs = value 10 text.toList := by
  have hPlain : ∀ c ∈ text.toList, isWhitespace c = false := by
    intro c hc
    rw [← digitChar_digitVal (hDigits c hc)]
    generalize hDigit : digitVal c = d
    have hTen : d < 10 := by
      have hOne : ∀ x ∈ [c], x.isDigit = true := by simpa using hDigits c hc
      simpa [value, hDigit] using value_lt_pow hOne
    clear hDigit
    revert d
    decide
  have hTrim : trim text = text := by
    have hKeep : ∀ l : List Char, (∀ c ∈ l, isWhitespace c = false) → l.dropWhile isWhitespace = l := by
      intro l hl
      cases l with
      | nil => rfl
      | cons c l => simp [hl c List.mem_cons_self]
    rw [trim, hKeep _ hPlain, hKeep _ (by simpa using hPlain), List.reverse_reverse, String.ofList_toList]
  have hNotRfc : parseRfc3339 text = none := by
    have hDash : text.toList[4]? ≠ some '-' := fun hAt => absurd (hDigits '-' (List.mem_of_getElem? hAt)) (by decide)
    simp [parseRfc3339, hDash]
  rw [parseTemporalTimestampSecs, hTrim, hNotRfc, Since.parseI64, parseSigned_digits hNonempty hDigits] at h
  split at h
  · cases h
  · rw [Option.orElse_eq_orElse, Option.orElse_eq_or, Option.or_none, Option.filter_eq_some_iff,
      Option.some.injEq] at h
    exact h.1.symm

section
variable {triples : Table Triple.id} {drawerEvidenceById : String → Option DrawerEvidence} {now : Nat} {t : Triple}

theorem mem_queryTriples {subject predicate object : Option String} {activeOnly : Bool} :
    t ∈ queryTriples triples subject predicate object activeOnly now ↔
      t ∈ triples ∧ t.isAbout subject predicate object = true ∧ (activeOnly = true → t.isActive now = true) := by
  cases activeOnly <;> simp [queryTriples, Table.mem_rows]

theorem reportedStale_iff (hNow : now < 2 ^ 64) (ht : t ∈ triples) (hDated : t.Dated) :
    ReportedStale triples drawerEvidenceById now t ↔ ∃ text ∈ t.validTo, value 10 text.toList < now := by
  constructor
  · rintro (⟨textTriples, issue, hIssue, hId⟩ | ⟨projectId, limit, candidate, hCandidate, hId⟩)
    · simp only [detectStaleFacts, List.mem_flatMap, List.mem_filterMap, Option.bind_eq_bind, Option.bind_eq_some_iff,
        Option.ite_none_right_eq_some, Option.some.injEq] at hIssue
      obtain ⟨_, _, kg, hKg, text, hText, secs, hSecs, hStale, rfl⟩ := hIssue
      cases triples.eq_of_key_eq (mem_queryTriples.mp hKg).1 ht hId
      rw [parseU64, parseUnsigned_digits (hDated text hText).1 (hDated text hText).2,
        Option.filter_eq_some_iff, Option.some.injEq] at hSecs
      exact ⟨text, hText, hSecs.1 ▸ hStale⟩
    · replace hCandidate := List.mem_of_mem_take hCandidate
      simp only [List.mem_filterMap, Option.bind_eq_bind, Option.bind_eq_some_iff, Option.ite_none_right_eq_some,
        Option.some.injEq] at hCandidate
      obtain ⟨triple, hTriple, text, hText, secs, hSecs, ⟨hStale, _⟩, rfl⟩ := hCandidate
      cases triples.eq_of_key_eq (mem_queryTriples.mp hTriple).1 ht hId
      have hValue := parseTemporalTimestampSecs_digits (hDated text hText).1 (hDated text hText).2 hSecs
      exact ⟨text, hText, by omega⟩
  · rintro ⟨text, hText, hStale⟩
    have hQuery : t ∈ queryTriples triples (some t.subject) (some t.predicate) (some t.object) false now :=
      mem_queryTriples.mpr ⟨ht, by simp [Triple.isAbout], by rintro ⟨⟩⟩
    have hSecs : parseU64 text.toList = some (value 10 text.toList) := by
      rw [parseU64, parseUnsigned_digits (hDated text hText).1 (hDated text hText).2]
      simp only [Option.filter_eq_some_iff, decide_eq_true_eq, true_and]
      omega
    refine Or.inl ⟨[(t.subject, t.predicate, t.object)], ⟨t.subject, t.predicate, t.object, text, t.id,
      t.sourceDrawer⟩, ?_, rfl⟩
    simp only [detectStaleFacts, List.flatMap_singleton, List.mem_filterMap]
    exact ⟨t, hQuery, by simp [show t.validTo = some text from hText, hSecs, hStale]⟩

theorem isActive_iff_iff (hDated : t.Dated) :
    (t.isActive now = true ↔ ∀ text ∈ t.validTo, now < value 10 text.toList) ↔
      ∀ text ∈ t.validTo, OrderedAsText now text := by
  cases hValid : t.validTo with
  | none => simp [Triple.isActive, hValid]
  | some text =>
    obtain ⟨hNonempty, hDigits⟩ := hDated text hValid
    simp only [Triple.isActive, hValid, Option.all_some, Option.mem_some_iff, forall_eq', strftimeSeconds,
      OrderedAsText]
    rcases le_or_gt (now * 1000) sqliteDateLimit with hDate | hDate
    · have hClock : now.repr < text ↔ Nat.toDigits 10 now < text.toList := by
        rw [String.lt_iff, Nat.toList_repr]
      have hLength : now.repr.length = (Nat.toDigits 10 now).length := by rw [← Nat.toList_repr, String.length_toList]
      rw [← String.length_toList, hLength]
      simp only [hDate, hDate.not_gt, true_implies, false_implies, and_true, ← not_lt]
      rcases lt_trichotomy text.toList.length (Nat.toDigits 10 now).length with hShort | hEq | hLong
      · have hValue := value_lt_of_shorter hNonempty hDigits hShort
        simp [hShort, hShort.not_gt, hValue.not_gt]
      · have hText := hClock.trans (toDigits_lt_iff hNonempty hDigits hEq.symm)
        simp only [Option.any_some, if_true, decide_eq_true_eq, hText, hEq, lt_irrefl, false_implies, and_self]
      · have hText := longerInOrder_iff hDigits hLong
        rw [← hClock] at hText
        simpa [hLong, hLong.not_gt] using hText
    · simp [hDate.not_ge, hDate]

/-- Active and stale facts are complementary exactly if the texts compared are in the order of the numbers. -/
theorem facts_complementary_iff (hNow : now < 2 ^ 64) (ht : t ∈ triples) (hDated : t.Dated) :
    Complementary triples drawerEvidenceById now t ↔ ∀ text ∈ t.validTo, OrderedAsText now text := by
  rw [← isActive_iff_iff hDated]
  have hAll : t ∈ queryTriples triples none none none true now ↔ t.isActive now = true := by
    simp [mem_queryTriples, ht, Triple.isAbout]
  constructor
  · intro h
    exact hAll.symm.trans (h.active none none none rfl)
  · intro hActive
    refine ⟨fun subject predicate object hAbout => ?_, fun h => ?_, fun h hFresh => ?_⟩
    · rw [← hActive]
      simp [mem_queryTriples, ht, hAbout]
    · rw [reportedStale_iff hNow ht hDated]
      rintro ⟨text, hText, hStale⟩
      exact hStale.not_gt (hActive.mp (hAll.mp h) text hText)
    · rw [reportedStale_iff hNow ht hDated] at hFresh
      rw [hAll, hActive] at h
      push Not at h hFresh
      obtain ⟨text, hText, hPast⟩ := h
      rw [show t.validTo = some text from hText, Option.map_some, (hPast.antisymm (hFresh text hText))]

end

def factUntil (validTo : String) : Triple := ⟨"t", "a", "b", "c", some validTo, 1, none⟩

def holding (t : Triple) : Table Triple.id := ⟨[t], List.nodup_singleton _⟩

theorem lasting_fact_complementary :
    Complementary (holding (factUntil "1700000001")) (fun _ => none) 1700000000 (factUntil "1700000001") := by
  refine (facts_complementary_iff (by decide) (List.mem_singleton.mpr rfl) ?_).mpr ?_
  · rintro text ⟨⟩
    exact ⟨by decide, List.all_eq_true.mp rfl⟩
  · rintro text ⟨⟩
    refine ⟨?_, ?_, ?_⟩ <;> decide +kernel

/-- An expiry of one digit sorts behind the clock of this century. -/
theorem long_expired_fact_active :
    factUntil "9" ∈ queryTriples (holding (factUntil "9")) none none none true 1700000000 ∧
      ReportedStale (holding (factUntil "9")) (fun _ => none) 1700000000 (factUntil "9") := by
  refine ⟨mem_queryTriples.mpr ⟨List.mem_singleton.mpr rfl, rfl, fun _ => by decide +kernel⟩, Or.inl
    ⟨[("a", "b", "c")], ⟨"a", "b", "c", "9", "t", none⟩, by decide +kernel, rfl⟩⟩

end Mempal.Facts
