import Mempal.Aaak.Codec
import Mempal.Aaak.WellFormed
import Mathlib.Data.List.SplitBy

set_option autoImplicit false

/-! The fields the encoder builds hold no separator, with two exceptions: the quote is the text itself and may hold
`|`, and the code of an alias is whatever the aliases say. -/

namespace Mempal.Aaak

open Foundation Foundation.Fields

variable {c : Char} {reader : SegmentReader} {code : String}

theorem mem_replaceQuotes {text : List Char} (h : c ∈ replaceQuotes text) : c ≠ '"' ∧ (c = '\'' ∨ c ∈ text) := by
  obtain ⟨d, hd, hEq⟩ := List.mem_map.mp h
  split_ifs at hEq with hQuote
  · exact ⟨by rw [← hEq]; decide, Or.inl hEq.symm⟩
  · exact ⟨hEq ▸ hQuote, Or.inr (hEq ▸ hd)⟩

theorem mem_normalizeWhitespace {text : String} (h : c ∈ (normalizeWhitespace text).toList) :
    c ≠ '"' ∧ (c = '\'' ∨ c = ' ' ∨ c ∈ text.toList ∧ Text.isWhitespace c = false) := by
  have hJoined := (Text.trim_sublist _).subset h
  rw [String.toList_ofList] at hJoined
  obtain ⟨hQuote, hFrom⟩ := mem_replaceQuotes hJoined
  refine ⟨hQuote, hFrom.imp_right fun hMem => ?_⟩
  rcases mem_intercalate hMem with hSpace | ⟨word, hWord, hMem⟩
  · exact Or.inl (List.mem_singleton.mp hSpace)
  · exact Or.inr (mem_splitOnP.mp ⟨word, (List.mem_filter.mp hWord).1, hMem⟩)

theorem separator_normalizeWhitespace (text : String) :
    '|' ∈ (normalizeWhitespace text).toList ↔ '|' ∈ text.toList := by
  constructor
  · intro h
    rcases (mem_normalizeWhitespace h).2 with hMark | hSpace | hText
    · exact absurd hMark (by decide)
    · exact absurd hSpace (by decide)
    · exact hText.1
  · intro h
    obtain ⟨word, hWord, hMem⟩ := mem_splitOnP.mpr ⟨h, (rfl : Text.isWhitespace '|' = false)⟩
    have hKept : word ∈ (text.toList.splitOnP Text.isWhitespace).filter (· ≠ []) :=
      List.mem_filter.mpr ⟨hWord, decide_eq_true (List.ne_nil_of_mem hMem)⟩
    rw [normalizeWhitespace, Text.mem_trim rfl, String.toList_ofList]
    exact List.mem_map.mpr ⟨'|', mem_intercalate_of_mem _ hKept hMem, rfl⟩

theorem quote_clean {text : String} (h : '|' ∉ text.toList) :
    ∀ c ∈ (normalizeWhitespace text).toList, c ≠ '|' ∧ c ≠ '"' ∧ c ≠ '\n' := by
  intro c hMem
  obtain ⟨hQuote, hFrom⟩ := mem_normalizeWhitespace hMem
  refine ⟨fun hEq => h ((separator_normalizeWhitespace text).mp (hEq ▸ hMem)), hQuote, ?_⟩
  rintro rfl
  rcases hFrom with hMark | hSpace | ⟨_, hBlank⟩
  · exact absurd hMark (by decide)
  · exact absurd hSpace (by decide)
  · exact absurd hBlank (by decide)

def sameKind (c d : Char) : Bool := kindOf c = kindOf d

/-- The segment a run of characters of one kind gives; separators give none. -/
def runSegment (run : List Char) : Option TextSegment :=
  (run.head?.bind kindOf).map fun kind => ⟨kind, String.ofList run⟩

def runSegments (text : List Char) : List TextSegment := (text.splitBy sameKind).filterMap runSegment

/-- A reader in the midst of a run, which it collects unless it is one of separators. -/
inductive SegmentReader.Within (segments : List TextSegment) : SegmentReader → List Char → Prop where
  | idle {run : List Char} (hKind : ∀ c ∈ run, kindOf c = none) : Within segments ⟨segments, [], none⟩ run
  | running {run : List Char} {kind : TextSegmentKind} (hKind : ∀ c ∈ run, kindOf c = some kind) (hSome : run ≠ []) :
    Within segments ⟨segments, run, some kind⟩ run

variable {run text : List Char} {kind : Option TextSegmentKind} {segments : List TextSegment}

theorem runSegment_eq (h : ∀ c ∈ run, kindOf c = kind) (hSome : run ≠ []) :
    runSegment run = kind.map fun kind => ⟨kind, String.ofList run⟩ := by
  obtain ⟨c, rest, rfl⟩ := List.exists_cons_of_ne_nil hSome
  rw [runSegment, List.head?_cons, Option.bind_some, h c List.mem_cons_self]

theorem runSegments_run (h : ∀ c ∈ run, kindOf c = kind) (hSome : run ≠ []) :
    runSegments run = (kind.map fun kind => ⟨kind, String.ofList run⟩).toList := by
  have hChain : run.IsChain fun c d => sameKind c d := by
    refine (List.pairwise_of_forall_mem_list fun c hc d hd => ?_).isChain
    exact decide_eq_true ((h c hc).trans (h d hd).symm)
  rw [runSegments, List.splitBy_of_isChain hSome hChain, List.filterMap_cons, List.filterMap_nil,
    runSegment_eq h hSome]
  cases kind <;> rfl

theorem runSegments_append {rest : List Char} (h : ∀ c ∈ run, kindOf c = kind) (hNext : kindOf c ≠ kind) :
    runSegments (run ++ c :: rest) = runSegments run ++ runSegments (c :: rest) := by
  have hEnds : ∀ d ∈ run.getLast?, ∀ e ∈ (c :: rest).head?, sameKind d e = false := by
    intro d hd e he
    obtain rfl := Option.some.inj he
    exact decide_eq_false fun hSame => hNext (hSame.symm.trans (h d (List.mem_of_getLast? hd)))
  rw [runSegments, List.splitBy_append hEnds, List.filterMap_append]
  rfl

theorem SegmentReader.Within.chars (h : Within segments reader run) : ∀ c ∈ run, kindOf c = reader.kind := by
  cases h with
  | idle hKind | running hKind => exact hKind

theorem SegmentReader.Within.finish (h : Within segments reader run) :
    reader.finish = segments ++ runSegments run := by
  cases h with
  | idle hKind =>
    cases run with
    | nil => exact (List.append_nil _).symm
    | cons c rest =>
      rw [runSegments_run hKind (List.cons_ne_nil c rest)]
      exact (List.append_nil _).symm
  | running hKind hSome =>
    rw [runSegments_run hKind hSome]
    exact if_pos hSome

theorem SegmentReader.Within.read_same (h : Within segments reader run) (hNext : kindOf c = reader.kind) :
    Within segments (reader.read c) (run ++ [c]) := by
  have hKind : ∀ d ∈ run ++ [c], kindOf d = reader.kind :=
    List.forall_mem_append.mpr ⟨h.chars, List.forall_mem_singleton.mpr hNext⟩
  rw [SegmentReader.read, hNext]
  cases h with
  | idle => exact .idle hKind
  | running =>
    simp only [if_true]
    exact .running hKind (by simp)

theorem SegmentReader.Within.read_other (h : Within segments reader run) (hNext : kindOf c ≠ reader.kind) :
    Within (segments ++ runSegments run) (reader.read c) [c] := by
  have hKind : ∀ d ∈ [c], kindOf d = kindOf c := List.forall_mem_singleton.mpr rfl
  rw [← h.finish, SegmentReader.read]
  cases h with
  | idle =>
    cases hc : kindOf c with
    | none => exact absurd hc hNext
    | some next => exact .running (hc ▸ hKind) (List.cons_ne_nil c [])
  | running _ hSome =>
    simp only [SegmentReader.finish]
    cases hc : kindOf c with
    | none =>
      simp only [if_pos hSome]
      exact .idle (hc ▸ hKind)
    | some next =>
      have hOther : ¬ _ = next := fun hEq => hNext (hc.trans (congrArg some hEq.symm))
      simp only [if_neg hOther, if_pos hSome]
      exact .running (hc ▸ hKind) (List.cons_ne_nil c [])

theorem SegmentReader.Within.foldl (rest : List Char) (h : Within segments reader run) :
    (rest.foldl SegmentReader.read reader).finish = segments ++ runSegments (run ++ rest) := by
  induction rest generalizing reader segments run with
  | nil =>
    rw [List.append_nil]
    exact h.finish
  | cons c rest ih =>
    by_cases hNext : kindOf c = reader.kind
    · have hRead := ih (h.read_same hNext)
      rw [List.append_assoc, List.singleton_append] at hRead
      exact hRead
    · have hRead := ih (h.read_other hNext)
      rw [List.append_assoc, List.singleton_append, ← runSegments_append h.chars hNext] at hRead
      exact hRead

theorem textSegments_eq (text : String) : textSegments text = runSegments text.toList :=
  (@SegmentReader.Within.idle [] [] (List.forall_mem_nil _)).foldl text.toList

theorem splitBy_run (h : run ∈ text.splitBy sameKind) :
    (∀ c ∈ run, kindOf c = none) ∧ runSegment run = none ∨
      ∃ kind, (∀ c ∈ run, kindOf c = some kind) ∧ runSegment run = some ⟨kind, String.ofList run⟩ := by
  have hChain : (run.map kindOf).IsChain (· = ·) :=
    List.isChain_map kindOf |>.mpr ((List.isChain_of_mem_splitBy h).imp fun _ _ => of_decide_eq_true)
  obtain ⟨c, rest, rfl⟩ := List.exists_cons_of_ne_nil (List.ne_nil_of_mem_splitBy h)
  have hKind : ∀ d ∈ c :: rest, kindOf d = kindOf c :=
    List.forall_mem_cons.mpr ⟨rfl, fun d hd =>
      (List.rel_of_pairwise_cons hChain.pairwise (List.mem_map_of_mem hd)).symm⟩
  have hSegment := runSegment_eq hKind (List.cons_ne_nil c rest)
  generalize kindOf c = kind at hKind hSegment
  cases kind with
  | none => exact Or.inl ⟨hKind, hSegment⟩
  | some kind => exact Or.inr ⟨kind, hKind, hSegment⟩

/-- The text falls into runs of separators and runs that are the segments, each as long as it can be. -/
theorem textSegments_partition (text : String) : ∃ runs : List (List Char),
    runs.flatten = text.toList ∧ textSegments text = runs.filterMap runSegment ∧
      (∀ run ∈ runs, run ≠ [] ∧ ((∀ c ∈ run, kindOf c = none) ∧ runSegment run = none ∨
        ∃ kind, (∀ c ∈ run, kindOf c = some kind) ∧ runSegment run = some ⟨kind, String.ofList run⟩)) ∧
      runs.IsChain fun run next => ∃ c ∈ run.getLast?, ∃ d ∈ next.head?, kindOf c ≠ kindOf d := by
  refine ⟨text.toList.splitBy sameKind, List.flatten_splitBy sameKind _, textSegments_eq text, ?_, ?_⟩
  · exact fun run hRun => ⟨List.ne_nil_of_mem_splitBy hRun, splitBy_run hRun⟩
  · refine (List.isChain_getLast_head_splitBy sameKind text.toList).imp ?_
    rintro run next ⟨hRun, hNext, hOther⟩
    exact ⟨_, List.getLast_mem_getLast? hRun, _, List.head_mem_head? hNext, of_decide_eq_false hOther⟩

structure TextSegment.Of (segment : TextSegment) (text : List Char) : Prop where
  nonempty : segment.text ≠ ""
  kind : ∀ c ∈ segment.text.toList, kindOf c = some segment.kind
  within : segment.text.toList <:+: text

theorem textSegments_of {text : String} : ∀ segment ∈ textSegments text, segment.Of text.toList := by
  intro segment hSegment
  rw [textSegments_eq] at hSegment
  obtain ⟨run, hRun, hSegment⟩ := List.mem_filterMap.mp hSegment
  have hWithin := List.infix_of_mem_flatten hRun
  rw [List.flatten_splitBy] at hWithin
  rcases splitBy_run hRun with ⟨_, hNone⟩ | ⟨kind, hKind, hSome⟩
  · exact absurd (hNone.symm.trans hSegment) (Option.some_ne_none _).symm
  · obtain rfl := Option.some.inj (hSome.symm.trans hSegment)
    constructor
    · exact fun hEmpty => List.ne_nil_of_mem_splitBy hRun (String.ofList_eq_empty_iff.mp hEmpty)
    · rwa [String.toList_ofList]
    · rwa [String.toList_ofList]

theorem toNat_lt_of_isAlphanum (h : c.isAlphanum = true) : c.toNat < 128 := by
  have hRanges : ((decide (c.val ≥ 'A'.val ∧ c.val ≤ 'Z'.val) ||
      (decide (c.val ≥ 'a'.val) && decide (c.val ≤ 'z'.val))) ||
      (decide (c.val ≥ '0'.val) && decide (c.val ≤ '9'.val))) = true := h
  simp only [Bool.or_eq_true, Bool.and_eq_true, decide_eq_true_eq, UInt32.le_iff_toNat_le] at hRanges
  have hVal : c.toNat = c.val.toNat := rfl
  rcases hRanges with (h | h) | h
  · exact hVal ▸ h.2.trans_lt (by decide)
  · exact hVal ▸ h.2.trans_lt (by decide)
  · exact hVal ▸ h.2.trans_lt (by decide)

theorem ascii_induction {P : Char → Prop} (h : ∀ n < 128, P (Char.ofNat n)) (hc : c.toNat < 128) : P c :=
  Char.ofNat_toNat c ▸ h c.toNat hc

theorem isAlphanum_toLower (h : c.isAlphanum = true) : c.toLower.isAlphanum = true :=
  ascii_induction (P := fun c => c.isAlphanum = true → c.toLower.isAlphanum = true) (by decide)
    (toNat_lt_of_isAlphanum h) h

theorem separator_kindOf (h : c = '_' ∨ c = '|' ∨ c = '\n') : kindOf c = none := by
  rcases h with rfl | rfl | rfl <;> decide

theorem kindOf_clean (h : kindOf c ≠ none) : c ≠ '_' ∧ c ≠ '|' ∧ c ≠ '\n' := by
  refine ⟨?_, ?_, ?_⟩ <;> rintro rfl <;> exact h (separator_kindOf (by simp))

def CleanTopic (topic : String) : Prop := topic ≠ "" ∧ ∀ c ∈ topic.toList, c ≠ '_' ∧ c ≠ '|' ∧ c ≠ '\n'

theorem mem_foldl_pushNew {α : Type} (f : α → String) {items : List α} {found : List String} :
    code ∈ items.foldl (fun found item => pushNew found (f item)) found ↔ code ∈ found ∨ ∃ item ∈ items, f item = code := by
  induction items generalizing found with
  | nil => simp
  | cons item items ih =>
    have hPush : code ∈ pushNew found (f item) ↔ code ∈ found ∨ f item = code := by
      rw [pushNew]
      split_ifs with hOld
      · exact ⟨Or.inl, fun h => h.elim id fun hEq => hEq ▸ hOld⟩
      · simp [eq_comm]
    rw [List.foldl_cons, ih, hPush, List.exists_mem_cons_iff, or_assoc]

theorem mem_foldl_pushNew_nil {α : Type} (f : α → String) {items : List α} :
    code ∈ items.foldl (fun found item => pushNew found (f item)) [] ↔ ∃ item ∈ items, f item = code := by
  rw [mem_foldl_pushNew]
  simp

section Topics

variable {language : Language}

theorem segmentTopics_clean {segment : TextSegment} {text : List Char} (h : segment.Of text) :
    ∀ topic ∈ segmentTopics language segment, CleanTopic topic := by
  intro topic hTopic
  rw [segmentTopics] at hTopic
  cases hKind : segment.kind with
  | asciiWord =>
    simp only [hKind] at hTopic
    split_ifs at hTopic with hSkipped
    · exact absurd hTopic List.not_mem_nil
    · obtain rfl := List.mem_singleton.mp hTopic
      have hAlphanum : ∀ c ∈ segment.text.toList, c.isAlphanum = true := by
        intro c hMem
        have hc := h.kind c hMem
        rw [hKind, kindOf] at hc
        split_ifs at hc with hAlphanum
        · exact hAlphanum
        · cases Option.some.inj hc
      have hLower := language.ascii segment.text fun c hMem => toNat_lt_of_isAlphanum (hAlphanum c hMem)
      refine ⟨(not_or.mp hSkipped).1, fun c hMem => ?_⟩
      rw [hLower, Text.asciiLower, String.toList_ofList] at hMem
      obtain ⟨d, hd, rfl⟩ := List.mem_map.mp hMem
      apply kindOf_clean
      rw [kindOf, if_pos (isAlphanum_toLower (hAlphanum d hd))]
      exact Option.some_ne_none _
  | cjk =>
    simp only [hKind] at hTopic
    obtain ⟨word, hWord, rfl⟩ := (mem_foldl_pushNew_nil Prod.fst).mp hTopic
    obtain ⟨hTagged, hKept⟩ := List.mem_filter.mp hWord
    simp only [Bool.and_eq_true, decide_eq_true_eq] at hKept
    refine ⟨?_, fun c hMem => ?_⟩
    · intro hEmpty
      rw [hEmpty] at hKept
      exact absurd hKept.1.2 (by decide)
    · apply kindOf_clean
      rw [h.kind c ((language.words _ word hTagged).subset hMem)]
      exact Option.some_ne_none _

variable {items : List String} {fallback lower : String} {signals : List (String × String)}

theorem mem_orElse {item : String} (h : item ∈ orElse items fallback) : item ∈ items ∨ item = fallback := by
  rw [orElse] at h
  split_ifs at h
  · exact Or.inr (List.mem_singleton.mp h)
  · exact Or.inl h

theorem orElse_ne_nil : orElse items fallback ≠ [] := by
  rw [orElse]
  split_ifs with hNone
  · exact List.cons_ne_nil _ _
  · exact hNone

theorem topics_clean (text : String) :
    ∀ topic ∈ orElse ((extractTopics language text).take defaultMaxTopics) "note", CleanTopic topic := by
  intro topic hTopic
  rcases mem_orElse hTopic with hFound | rfl
  · have hExtracted := (mem_foldl_pushNew_nil id).mp (List.mem_of_mem_take hFound)
    obtain ⟨_, hMem, rfl⟩ := hExtracted
    obtain ⟨segment, hSegment, hMem⟩ := List.mem_flatMap.mp hMem
    exact segmentTopics_clean (textSegments_of segment hSegment) _ hMem
  · have hNote : "note".toList.all (fun c => (kindOf c).isSome) = true := by decide
    refine ⟨by decide, fun c hMem => kindOf_clean ?_⟩
    exact Option.isSome_iff_ne_none.mp (List.all_eq_true.mp hNote c hMem)

theorem extractEntities_within {text entity : String} (h : entity ∈ extractEntities language text) :
    entity.toList <:+: text.toList := by
  obtain ⟨_, hMem, rfl⟩ := (mem_foldl_pushNew_nil id).mp h
  obtain ⟨segment, hSegment, hMem⟩ := List.mem_flatMap.mp hMem
  have hWithin := (textSegments_of segment hSegment).within
  rw [segmentEntities] at hMem
  cases hKind : segment.kind with
  | asciiWord =>
    simp only [hKind] at hMem
    split_ifs at hMem
    · rw [id, List.mem_singleton.mp hMem]
      exact hWithin
    · exact absurd hMem List.not_mem_nil
  | cjk =>
    simp only [hKind] at hMem
    obtain ⟨word, hWord, rfl⟩ := (mem_foldl_pushNew_nil Prod.fst).mp hMem
    exact (language.words _ word (List.mem_filter.mp hWord).1).trans hWithin

theorem isUpper_toUpper (h : c.isAlpha = true) : c.toUpper.isUpper = true := by
  have hAlphanum : c.isAlphanum = true := by rw [Char.isAlphanum, h, Bool.true_or]
  exact ascii_induction (P := fun c => c.isAlpha = true → c.toUpper.isUpper = true) (by decide)
    (toNat_lt_of_isAlphanum hAlphanum) h

theorem isUpper_hashLetter {i : Nat} (hash : Nat) : (hashLetter hash i).isUpper = true := by
  have hLetters : ∀ d < 26, (Char.ofNat (65 + d)).isUpper = true := by decide
  exact hLetters _ (Nat.mod_lt _ (by decide))

theorem isEntityCode_ofList {code : List Char} (hLength : code.length = 3) (hUpper : ∀ c ∈ code, c.isUpper = true) :
    isEntityCode (String.ofList code) = true := by
  rw [isEntityCode, ← String.length_toList, String.toList_ofList, Bool.and_eq_true, decide_eq_true_eq,
    List.all_eq_true]
  exact ⟨hLength, hUpper⟩

theorem isEntityCode_defaultEntityCode {entity : String} : isEntityCode (defaultEntityCode entity) = true := by
  simp only [defaultEntityCode]
  split_ifs with hAscii
  · apply isEntityCode_ofList
    · rw [List.length_map, List.length_take] at hAscii ⊢
      omega
    · intro c hMem
      obtain ⟨d, hd, rfl⟩ := List.mem_map.mp hMem
      exact isUpper_toUpper (List.mem_filter.mp (List.mem_of_mem_take hd)).2
  · exact isEntityCode_ofList rfl (by simp [isUpper_hashLetter])

variable {codec : AaakCodec}

theorem mem_entityCodes {text : String} :
    code ∈ codec.entityCodes language text ↔
      (∃ known ∈ codec.entityMap, Text.hasText text known.1 = true ∧ known.2 = code) ∨
        ∃ entity ∈ extractEntities language text, codec.entityCode entity = code := by
  rw [AaakCodec.entityCodes, mem_foldl_pushNew, mem_foldl_pushNew_nil Prod.snd]
  simp only [List.mem_filter, and_assoc]

theorem entities_codes {text : String}
    (h : ∀ known ∈ codec.entityMap, Text.hasText text known.1 = true → isEntityCode known.2 = true) :
    ∀ entity ∈ orElse (codec.entityCodes language text) unknownEntityCode, isEntityCode entity = true := by
  intro code hCode
  rcases mem_orElse hCode with hFound | rfl
  · rcases mem_entityCodes.mp hFound with ⟨known, hKnown, hText, rfl⟩ | ⟨entity, hEntity, rfl⟩
    · exact h known hKnown hText
    · rw [AaakCodec.entityCode]
      cases hLookup : codec.entityMap.lookup entity with
      | none => exact isEntityCode_defaultEntityCode
      | some code =>
        obtain ⟨before, after, hMap, _⟩ := List.lookup_eq_some_iff.mp hLookup
        exact h (entity, code) (by rw [hMap]; simp) (decide_eq_true (extractEntities_within hEntity))
  · decide

theorem mem_detect (h : code ∈ detect signals fallback lower) : code ∈ fallback :: signals.map Prod.snd := by
  rcases mem_orElse h with hFound | rfl
  · obtain ⟨signal, hSignal, rfl⟩ := (mem_foldl_pushNew_nil Prod.snd).mp hFound
    exact List.mem_cons_of_mem _ (List.mem_map_of_mem (List.mem_filter.mp hSignal).1)
  · exact List.mem_cons_self

theorem detect_ne_nil : detect signals fallback lower ≠ [] :=
  orElse_ne_nil

theorem detectEmotions_codes {text : String} : ∀ code ∈ detectEmotions language text, isEmotionCode code = true := by
  have hTable : ∀ code ∈ defaultEmotion :: emotionSignals.map Prod.snd, isEmotionCode code = true := by
    decide +kernel
  exact fun code hCode => hTable code (mem_detect hCode)

theorem detectFlags_allowed {text : String} : ∀ flag ∈ detectFlags language text, isAllowedFlag flag = true := by
  have hTable : ∀ flag ∈ "CORE" :: flagSignals.map Prod.snd, isAllowedFlag flag = true := by decide +kernel
  exact fun flag hFlag => hTable flag (mem_detect hFlag)

theorem inferWeight_bounds {flags : List String} : 1 ≤ inferWeight flags ∧ inferWeight flags ≤ 5 := by
  rw [inferWeight]
  split_ifs <;> decide

end Topics

/-- No field of the metadata holds a line break or the field separator. -/
def AaakMeta.Separated (info : AaakMeta) : Prop :=
  ∀ field ∈ [info.wing, info.room, info.date, info.source], '|' ∉ field.toList ∧ '\n' ∉ field.toList

structure Encodable (codec : AaakCodec) (text : String) (info : AaakMeta) : Prop where
  separator : '|' ∉ text.toList
  aliases : ∀ known ∈ codec.entityMap, Text.hasText (normalizeWhitespace text) known.1 = true →
    isEntityCode known.2 = true
  source : info.source.toList.getLast? ≠ some '\r'

section RoundTrip

variable {language : Language} {codec : AaakCodec} {text : String} {info : AaakMeta}

theorem zettel_entities : (codec.zettel language text).entities =
    orElse (codec.entityCodes language (normalizeWhitespace text)) unknownEntityCode := by
  simp only [AaakCodec.zettel]

theorem zettel_topics : (codec.zettel language text).topics =
    orElse ((extractTopics language (normalizeWhitespace text)).take defaultMaxTopics) "note" := by
  simp only [AaakCodec.zettel]

theorem Encodable.zettel_wellFormed (h : Encodable codec text info) : (codec.zettel language text).WellFormed := by
  constructor
  case id => exact Nat.two_pow_pos 64
  case someEntity =>
    rw [zettel_entities]
    exact orElse_ne_nil
  case entities =>
    rw [zettel_entities]
    exact entities_codes h.aliases
  case someTopic =>
    rw [zettel_topics]
    exact orElse_ne_nil
  case topics =>
    rw [zettel_topics]
    exact topics_clean _
  case quote =>
    exact quote_clean h.separator
  case weight =>
    exact inferWeight_bounds
  case someEmotion =>
    exact detect_ne_nil
  case emotions =>
    exact detectEmotions_codes
  case someFlag =>
    exact detect_ne_nil
  case flags =>
    exact detectFlags_allowed

theorem Encodable.wellFormed (h : Encodable codec text info) (hInfo : info.Separated) :
    (codec.encode language text info).WellFormed where
  header := ⟨(by decide : 1 < 2 ^ 8), hInfo, h.source⟩
  lines := by
    intro line hLine
    rw [List.mem_singleton.mp hLine]
    exact h.zettel_wellFormed
  zettels := rfl
  ids := by simp [AaakCodec.encode]
  tunnels := fun _ hNone => absurd hNone List.not_mem_nil

variable (hParse : parseDocument (codec.encode language text info).print = .ok (codec.encode language text info))
include hParse

theorem encodable_zettel : (∀ entity ∈ (codec.zettel language text).entities, isEntityCode entity = true) ∧
    '|' ∉ (normalizeWhitespace text).toList := by
  obtain ⟨line, hLine⟩ := parseDocument_accepted hParse (List.mem_singleton_self _)
  exact parseZettel_accepted hLine

theorem encodable_text : '|' ∉ text.toList := fun hMem =>
  (encodable_zettel hParse).2 ((separator_normalizeWhitespace text).mpr hMem)

theorem encodable_aliases : ∀ known ∈ codec.entityMap, Text.hasText (normalizeWhitespace text) known.1 = true →
    isEntityCode known.2 = true := by
  intro known hKnown hText
  have hCode : known.2 ∈ codec.entityCodes language (normalizeWhitespace text) :=
    mem_entityCodes.mpr (Or.inl ⟨known, hKnown, hText, rfl⟩)
  apply (encodable_zettel hParse).1
  rw [zettel_entities, orElse, if_neg (List.ne_nil_of_mem hCode)]
  exact hCode

theorem encodable_source (hInfo : info.Separated) : info.source.toList.getLast? ≠ some '\r' := by
  intro hReturn
  obtain ⟨source, hSource⟩ := List.getLast?_eq_some_iff.mp hReturn
  have hFields : ∀ field ∈ [info.wing, info.room, info.date, String.ofList source], '|' ∉ field.toList := by
    have hSeparated := fun field hField => (hInfo field hField).1
    simp only [List.forall_mem_cons, List.not_mem_nil, false_implies, implies_true, and_true, hSource,
      List.mem_append, not_or, String.toList_ofList] at hSeparated ⊢
    exact ⟨hSeparated.1, hSeparated.2.1, hSeparated.2.2.1, hSeparated.2.2.2.1⟩
  -- the first line lacks the carriage return, so the source comes back shorter
  have hShort := parseHeader_fields (by decide : 1 < 2 ^ 8) hFields
  have hLines := lines_header (codec.encode language text info)
    (header_noBreak fun field hField => (hInfo field hField).2)
  rw [dropReturn_header hSource] at hLines
  have hHeader := parseDocument_header hParse hLines (header_isBlank _)
  rw [String.toList_ofList] at hHeader
  have hSame := congrArg AaakHeader.source (Except.ok.inj (hShort.symm.trans hHeader))
  have hLength := congrArg (fun text => text.toList.length) hSame
  simp [AaakCodec.encode, hSource] at hLength

end RoundTrip

theorem encode_round_trip_iff (language : Language) (codec : AaakCodec) (text : String) (info : AaakMeta)
    (hInfo : info.Separated) :
    parseDocument (codec.encode language text info).print = .ok (codec.encode language text info) ↔
      Encodable codec text info := by
  constructor
  · intro hParse
    exact ⟨encodable_text hParse, encodable_aliases hParse, encodable_source hParse hInfo⟩
  · intro hEncodable
    exact (hEncodable.wellFormed hInfo).parse_print

/-- A language without CJK words, whose lower case is that of ASCII. -/
def plainLanguage : Language where
  tag := fun _ => []
  words := fun _ _ hNone => absurd hNone List.not_mem_nil
  toLowercase := Text.asciiLower
  ascii := fun _ _ => rfl

def exampleMeta : AaakMeta := ⟨"wing", "room", "2026-01-01", "notes.md"⟩

theorem exampleMeta_separated : exampleMeta.Separated := by
  unfold AaakMeta.Separated
  decide

theorem plain_note_round_trips :
    parseDocument (AaakCodec.default.encode plainLanguage "Alice chose Rust" exampleMeta).print =
      .ok (AaakCodec.default.encode plainLanguage "Alice chose Rust" exampleMeta) := by
  rw [encode_round_trip_iff plainLanguage AaakCodec.default _ exampleMeta exampleMeta_separated]
  exact ⟨by decide, fun _ hNone => absurd hNone List.not_mem_nil, by decide⟩

/-- The quote of the encoded text is cut in two by the separator. -/
theorem separator_in_text_fails :
    ¬ parseDocument (AaakCodec.default.encode plainLanguage "a|b" exampleMeta).print =
      .ok (AaakCodec.default.encode plainLanguage "a|b" exampleMeta) :=
  fun hParse => encodable_text hParse (by decide)

end Mempal.Aaak
