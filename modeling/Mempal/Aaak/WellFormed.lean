import Mempal.Aaak.Basic
import Mempal.Foundation.Fallible

set_option autoImplicit false

/-! A document is well formed when no field holds a separator of its level and every field passes the check the parser
makes. -/

namespace Mempal.Aaak

open Foundation Foundation.Fields

structure AaakHeader.WellFormed (header : AaakHeader) : Prop where
  version : header.version < 2 ^ 8
  fields : ∀ field ∈ [header.wing, header.room, header.date, header.source],
    '|' ∉ field.toList ∧ '\n' ∉ field.toList
  source : header.source.toList.getLast? ≠ some '\r'

structure Zettel.WellFormed (zettel : Zettel) : Prop where
  id : zettel.id < 2 ^ 64
  someEntity : zettel.entities ≠ []
  entities : ∀ entity ∈ zettel.entities, isEntityCode entity = true
  someTopic : zettel.topics ≠ []
  topics : ∀ topic ∈ zettel.topics, topic ≠ "" ∧ ∀ c ∈ topic.toList, c ≠ '_' ∧ c ≠ '|' ∧ c ≠ '\n'
  quote : ∀ c ∈ zettel.quote.toList, c ≠ '|' ∧ c ≠ '"' ∧ c ≠ '\n'
  weight : 1 ≤ zettel.weight ∧ zettel.weight ≤ 5
  someEmotion : zettel.emotions ≠ []
  emotions : ∀ emotion ∈ zettel.emotions, isEmotionCode emotion = true
  someFlag : zettel.flags ≠ []
  flags : ∀ flag ∈ zettel.flags, isAllowedFlag flag = true

structure Tunnel.WellFormed (tunnel : Tunnel) : Prop where
  left : tunnel.left < 2 ^ 64
  right : tunnel.right < 2 ^ 64
  label : Text.isBlank tunnel.label = false ∧ '\n' ∉ tunnel.label.toList
  ending : tunnel.label.toList.getLast? ≠ some '\r'

def AaakLine.WellFormed : AaakLine → Prop
  | .zettel z => z.WellFormed
  | .tunnel t => t.WellFormed
  | .arc emotions => emotions ≠ [] ∧ ∀ emotion ∈ emotions, isEmotionCode emotion = true

structure AaakDocument.WellFormed (document : AaakDocument) : Prop where
  header : document.header.WellFormed
  lines : ∀ line ∈ document.body, line.WellFormed
  zettels : document.zettels = document.body.filterMap AaakLine.zettel?
  ids : (document.zettels.map Zettel.id).Nodup
  tunnels : ∀ tunnel ∈ document.body.filterMap AaakLine.tunnel?, isDangling document.zettels tunnel = false

variable {raw : String} {text : List Char} {document : AaakDocument}

theorem isUpper_of_isEntityCode (h : isEntityCode raw = true) : ∀ c ∈ raw.toList, c.isUpper = true := by
  simp only [isEntityCode, Bool.and_eq_true, List.all_eq_true] at h
  exact h.2

theorem isLower_of_isEmotionCode (h : isEmotionCode raw = true) : ∀ c ∈ raw.toList, c.isLower = true := by
  simp only [isEmotionCode, Bool.and_eq_true, List.all_eq_true] at h
  exact h.2

theorem isUpper_of_isAllowedFlag (h : isAllowedFlag raw = true) : ∀ c ∈ raw.toList, c.isUpper = true := by
  have hAll : ∀ flag ∈ allowedFlags, flag.toList.all Char.isUpper = true := by decide
  exact List.all_eq_true.mp (hAll raw (of_decide_eq_true h))

variable {c : Char} {items : List String} {line : List Char} {header : AaakHeader}

theorem notMem_of_letters {letter : Char → Bool} (h : ∀ d ∈ text, letter d = true)
    (hc : letter c = false) : c ∉ text := by
  intro hMem
  rw [h c hMem] at hc
  cases hc

theorem ne_empty_of_length (h : 3 ≤ raw.length) : raw ≠ "" := by
  rintro rfl
  exact absurd h (by decide)

theorem ne_empty_of_isEntityCode (h : isEntityCode raw = true) : raw ≠ "" := by
  simp only [isEntityCode, Bool.and_eq_true, decide_eq_true_eq] at h
  exact ne_empty_of_length h.1.ge

theorem ne_empty_of_isEmotionCode (h : isEmotionCode raw = true) : raw ≠ "" := by
  simp only [isEmotionCode, Bool.and_eq_true, decide_eq_true_eq] at h
  exact ne_empty_of_length h.1.1

theorem ne_empty_of_isAllowedFlag (h : isAllowedFlag raw = true) : raw ≠ "" := by
  have hAll : ∀ flag ∈ allowedFlags, flag ≠ "" := by decide
  exact hAll raw (of_decide_eq_true h)

variable {sep : Char} {accepted : String → Bool} {reader : BodyReader} {input : String}

theorem checkedField_join (hSome : items ≠ []) (hAccepted : ∀ item ∈ items, accepted item = true)
    (hItems : ∀ item ∈ items, item ≠ "" ∧ sep ∉ item.toList) :
    checkedField sep accepted (join [sep] items) = some items := by
  simp only [checkedField, splitField_join hSome hItems]
  rw [if_neg]
  rw [not_or, not_not, List.all_eq_true]
  exact ⟨hSome, hAccepted⟩

theorem checkedField_eq_some {raw : List Char}
    (h : checkedField sep accepted raw = some items) : ∀ item ∈ items, accepted item = true := by
  simp only [checkedField, Option.ite_none_left_eq_some, not_or, not_not, List.all_eq_true,
    Option.some.injEq] at h
  obtain ⟨⟨_, hAccepted⟩, rfl⟩ := h
  exact hAccepted

theorem replaceQuotes_self (h : '"' ∉ text) : replaceQuotes text = text := by
  have hSame : ∀ c ∈ text, (if c = '"' then '\'' else c) = c := by
    intro c hMem
    rw [if_neg]
    rintro rfl
    exact h hMem
  exact (List.map_congr_left hSame).trans (List.map_id text)

theorem parseQuote_print (text : List Char) : parseQuote ('"' :: (text ++ ['"'])) = some (String.ofList text) := by
  rw [parseQuote, if_neg]
  · rw [List.tail_cons, List.dropLast_concat]
  · rw [← List.cons_append, List.getLast?_concat]
    simp

theorem parseWeight_print {weight : Nat} (h : 1 ≤ weight ∧ weight ≤ 5) :
    parseWeight (List.replicate (max weight 1) '★') = some weight := by
  rw [Nat.max_eq_left h.1, parseWeight, if_pos, List.length_replicate]
  refine ⟨?_, ?_, by rw [List.length_replicate]; exact h.2⟩
  · rw [Ne, List.replicate_eq_nil_iff]
    omega
  · rw [List.all_eq_true]
    intro c hMem
    exact decide_eq_true (List.eq_of_mem_replicate hMem)

theorem notMem_toDigits {n : Nat} (hc : c.isDigit = false) : c ∉ Nat.toDigits 10 n :=
  notMem_of_letters (fun _ => isDigit_of_mem_toDigits) hc

section Zettel

variable {zettel : Zettel} (h : zettel.WellFormed)
include h

theorem Zettel.WellFormed.notMem_fields (hc : c = '|' ∨ c = '\n') : ∀ field ∈ zettel.fields, c ∉ field := by
  have hUpper : c.isUpper = false := by rcases hc with rfl | rfl <;> rfl
  have hLower : c.isLower = false := by rcases hc with rfl | rfl <;> rfl
  have hQuote : c ∉ zettel.quote.toList := by
    intro hMem
    rcases hc with rfl | rfl
    · exact (h.quote _ hMem).1 rfl
    · exact (h.quote _ hMem).2.2 rfl
  have hTopics : ∀ topic ∈ zettel.topics, c ∉ topic.toList := by
    intro topic hTopic hMem
    rcases hc with rfl | rfl
    · exact ((h.topics topic hTopic).2 _ hMem).2.1 rfl
    · exact ((h.topics topic hTopic).2 _ hMem).2.2 rfl
  have hMarks : c ≠ '"' ∧ c ≠ '+' ∧ c ≠ '_' ∧ c ≠ '★' := by rcases hc with rfl | rfl <;> decide
  rw [Zettel.fields, replaceQuotes_self fun hMem => (h.quote _ hMem).2.1 rfl]
  simp only [List.forall_mem_cons, List.not_mem_nil, false_implies, implies_true, and_true]
  refine ⟨?_, ?_, ?_, ?_, ?_, ?_⟩
  · exact notMem_join (by simpa using hMarks.2.1)
      fun entity hEntity => notMem_of_letters (isUpper_of_isEntityCode (h.entities entity hEntity)) hUpper
  · exact notMem_join (by simpa using hMarks.2.2.1) hTopics
  · simp [hMarks.1, hQuote]
  · exact fun hMem => hMarks.2.2.2 (List.eq_of_mem_replicate hMem)
  · exact notMem_join (by simpa using hMarks.2.1)
      fun emotion hEmotion => notMem_of_letters (isLower_of_isEmotionCode (h.emotions emotion hEmotion)) hLower
  · exact notMem_join (by simpa using hMarks.2.1)
      fun flag hFlag => notMem_of_letters (isUpper_of_isAllowedFlag (h.flags flag hFlag)) hUpper

theorem Zettel.WellFormed.parseFields : parseFields zettel.id zettel.fields = some zettel := by
  have hEntities := checkedField_join h.someEntity h.entities fun entity hEntity =>
    ⟨ne_empty_of_isEntityCode (h.entities entity hEntity),
      notMem_of_letters (c := '+') (isUpper_of_isEntityCode (h.entities entity hEntity)) rfl⟩
  have hTopics : checkedField '_' (fun _ => true) (join ['_'] zettel.topics) = some zettel.topics :=
    checkedField_join h.someTopic (fun _ _ => rfl) fun topic hTopic =>
      ⟨(h.topics topic hTopic).1, fun hMem => ((h.topics topic hTopic).2 '_' hMem).1 rfl⟩
  have hEmotions := checkedField_join h.someEmotion h.emotions fun emotion hEmotion =>
    ⟨ne_empty_of_isEmotionCode (h.emotions emotion hEmotion),
      notMem_of_letters (c := '+') (isLower_of_isEmotionCode (h.emotions emotion hEmotion)) rfl⟩
  have hFlags := checkedField_join h.someFlag h.flags fun flag hFlag =>
    ⟨ne_empty_of_isAllowedFlag (h.flags flag hFlag),
      notMem_of_letters (c := '+') (isUpper_of_isAllowedFlag (h.flags flag hFlag)) rfl⟩
  have hQuote : replaceQuotes zettel.quote.toList = zettel.quote.toList :=
    replaceQuotes_self fun hMem => (h.quote _ hMem).2.1 rfl
  simp only [Aaak.parseFields, Zettel.fields, hEntities, hTopics, hQuote, parseQuote_print, parseWeight_print h.weight,
    hEmotions, hFlags, String.ofList_toList, Option.bind_eq_bind, Option.bind_some, Option.pure_def]

theorem Zettel.WellFormed.parse_print : parseZettel zettel.print = .ok zettel := by
  have hSplit : (['|'].intercalate zettel.fields).splitOn '|' = zettel.fields :=
    List.splitOn_intercalate '|' (h.notMem_fields (Or.inl rfl)) (List.cons_ne_nil _ _)
  rw [parseZettel, Zettel.print, splitOnce_append _ (notMem_toDigits rfl)]
  simp only [Option.bind_eq_bind, Option.bind_some, parseNat_toDigits h.id, hSplit, h.parseFields, orInvalid]

theorem Zettel.WellFormed.noBreak : '\n' ∉ zettel.print := by
  simp only [Zettel.print, List.mem_append, List.mem_singleton, not_or]
  refine ⟨notMem_toDigits rfl, by decide, fun hMem => ?_⟩
  rcases mem_intercalate hMem with hMem | ⟨field, hField, hMem⟩
  · exact absurd (List.mem_singleton.mp hMem) (by decide)
  · exact h.notMem_fields (Or.inr rfl) field hField hMem

end Zettel

theorem getLast?_ne_of_notMem (front : List Char) (hSome : text ≠ []) (hc : c ∉ text) :
    (front ++ text).getLast? ≠ some c := by
  intro hLast
  rw [List.getLast?_append, List.getLast?_eq_some_getLast hSome, Option.some_or, Option.some.injEq] at hLast
  exact hc (hLast ▸ List.getLast_mem hSome)

structure Printed (text : List Char) : Prop where
  start : ∃ c rest, text = c :: rest ∧ Text.isWhitespace c = false
  noBreak : '\n' ∉ text
  ending : text.getLast? ≠ some '\r'

theorem Printed.ne_nil (h : Printed text) : text ≠ [] := by
  obtain ⟨c, rest, rfl, _⟩ := h.start
  exact List.cons_ne_nil _ _

theorem Printed.isBlank (h : Printed text) : Text.isBlank (String.ofList text) = false := by
  obtain ⟨c, rest, rfl, hc⟩ := h.start
  rw [Text.isBlank, String.toList_ofList, List.all_cons, hc, Bool.false_and]

theorem toDigits_start (n : Nat) (rest : List Char) :
    ∃ c after, Nat.toDigits 10 n ++ rest = c :: after ∧ c.isDigit = true := by
  cases hDigits : Nat.toDigits 10 n with
  | nil => exact absurd hDigits (toDigits_ne_nil n)
  | cons c after => exact ⟨c, after ++ rest, rfl, isDigit_of_mem_toDigits (hDigits ▸ List.mem_cons_self)⟩

theorem isWhitespace_of_isDigit (h : c.isDigit = true) : Text.isWhitespace c = false := by
  simp only [Char.isDigit, Bool.and_eq_true, decide_eq_true_eq, ge_iff_le, UInt32.le_iff_toNat_le] at h
  have hLow : 48 ≤ c.toNat := h.1
  have hHigh : c.toNat ≤ 57 := h.2
  simp only [Text.isWhitespace, Bool.or_eq_false_iff, Bool.and_eq_false_iff, beq_eq_false_iff_ne,
    decide_eq_false_iff_not]
  omega

theorem join_ne_nil {sep : List Char} (hSome : items ≠ []) (hItems : ∀ item ∈ items, item ≠ "") :
    join sep items ≠ [] := by
  cases items with
  | nil => exact absurd rfl hSome
  | cons item rest =>
    have hItem : item.toList ≠ [] := fun hNil => hItems item List.mem_cons_self (String.toList_eq_nil_iff.mp hNil)
    rw [join, List.map_cons]
    cases rest with
    | nil =>
      rw [List.map_nil, List.intercalate_singleton]
      exact hItem
    | cons next rest =>
      exact List.append_ne_nil_of_left_ne_nil hItem _

theorem Zettel.WellFormed.printed {zettel : Zettel} (h : zettel.WellFormed) : Printed zettel.print where
  start := by
    obtain ⟨c, after, hText, hDigit⟩ := toDigits_start zettel.id ([':'] ++ ['|'].intercalate zettel.fields)
    exact ⟨c, after, hText, isWhitespace_of_isDigit hDigit⟩
  noBreak := h.noBreak
  ending := by
    have hFlags : ∃ front, zettel.print = front ++ join ['+'] zettel.flags := by
      simp only [Zettel.print, Zettel.fields, List.intercalate_cons_cons, List.intercalate_singleton,
        ← List.append_assoc]
      exact ⟨_, rfl⟩
    obtain ⟨front, hFront⟩ := hFlags
    rw [hFront]
    apply getLast?_ne_of_notMem front
    · exact join_ne_nil h.someFlag fun flag hFlag => ne_empty_of_isAllowedFlag (h.flags flag hFlag)
    · exact notMem_join (by decide) fun flag hFlag =>
        notMem_of_letters (isUpper_of_isAllowedFlag (h.flags flag hFlag)) rfl

section Tunnel

variable {tunnel : Tunnel} (h : tunnel.WellFormed)
include h

theorem Tunnel.WellFormed.parse_print : parseTunnel tunnel.print = .ok tunnel := by
  have hPair : '|' ∉ tunnel.pair := by
    simp [Tunnel.pair, notMem_toDigits]
  have hIds : splitOnce ['<', '-', '>'] tunnel.pair =
      some (Nat.toDigits 10 tunnel.left, Nat.toDigits 10 tunnel.right) :=
    splitOnce_append _ (notMem_toDigits rfl)
  simp only [parseTunnel, Tunnel.print, List.drop_succ_cons, List.drop_zero, splitOnce_append tunnel.label.toList hPair,
    Option.bind_eq_bind, Option.bind_some, String.ofList_toList, h.label.1, Bool.false_eq_true, if_false, hIds,
    parseNat_toDigits h.left, parseNat_toDigits h.right, Option.pure_def, orInvalid]

theorem Tunnel.WellFormed.printed : Printed tunnel.print where
  start := ⟨'T', _, rfl, rfl⟩
  noBreak := by
    simp [Tunnel.print, Tunnel.pair, notMem_toDigits, h.label.2]
  ending := by
    intro hLast
    have hLabel : ∃ c, tunnel.label.toList.getLast? = some c := by
      cases hText : tunnel.label.toList with
      | nil =>
        have hBlank := h.label.1
        rw [Text.isBlank, hText] at hBlank
        cases hBlank
      | cons c rest => exact ⟨_, List.getLast?_eq_some_getLast (List.cons_ne_nil c rest)⟩
    obtain ⟨c, hc⟩ := hLabel
    have hPrint : tunnel.print = ('T' :: ':' :: (tunnel.pair ++ ['|'])) ++ tunnel.label.toList := by
      simp [Tunnel.print]
    rw [hPrint, List.getLast?_append, hc, Option.some_or] at hLast
    exact h.ending (hc.trans hLast)

end Tunnel

section Arc

variable {emotions : List String} (hSome : emotions ≠ []) (h : ∀ emotion ∈ emotions, isEmotionCode emotion = true)
include hSome h

theorem parseArc_print : parseArc (AaakLine.arc emotions).print = .ok emotions := by
  have hSplit : split ['-', '>'] (join ['-', '>'] emotions) = emotions.map String.toList :=
    split_join hSome fun emotion hEmotion => notMem_of_letters (isLower_of_isEmotionCode (h emotion hEmotion)) rfl
  have hBack : (emotions.map String.toList).map String.ofList = emotions := by
    rw [List.map_map]
    exact (List.map_congr_left fun emotion _ => String.ofList_toList).trans (List.map_id _)
  have hRest : join ['-', '>'] emotions ≠ [] :=
    join_ne_nil hSome fun emotion hEmotion => ne_empty_of_isEmotionCode (h emotion hEmotion)
  simp only [parseArc, AaakLine.print, List.drop_succ_cons, List.drop_zero, hSplit, hBack]
  rw [if_neg]
  · rfl
  · rw [not_or, not_not, List.all_eq_true]
    exact ⟨hRest, h⟩

theorem arc_printed : Printed (AaakLine.arc emotions).print where
  start := ⟨'A', _, rfl, rfl⟩
  noBreak := by
    have hJoin : '\n' ∉ join ['-', '>'] emotions := notMem_join (by decide) fun emotion hEmotion =>
      notMem_of_letters (isLower_of_isEmotionCode (h emotion hEmotion)) rfl
    simp [AaakLine.print, hJoin]
  ending := by
    apply getLast?_ne_of_notMem ['A', 'R', 'C', ':']
    · exact join_ne_nil hSome fun emotion hEmotion => ne_empty_of_isEmotionCode (h emotion hEmotion)
    · exact notMem_join (by decide) fun emotion hEmotion =>
        notMem_of_letters (isLower_of_isEmotionCode (h emotion hEmotion)) rfl

end Arc

theorem AaakLine.WellFormed.printed {line : AaakLine} (h : line.WellFormed) : Printed line.print := by
  cases line with
  | zettel z => exact Zettel.WellFormed.printed h
  | tunnel t => exact Tunnel.WellFormed.printed h
  | arc emotions => exact arc_printed h.1 h.2

def BodyReader.push (reader : BodyReader) (line : AaakLine) : BodyReader :=
  ⟨reader.body ++ [line], reader.zettels ++ line.zettel?.toList⟩

theorem not_prefix_zettel (hc : c.isDigit = false) (rest : List Char) (zettel : Zettel) :
    ¬ c :: rest <+: zettel.print := by
  rintro ⟨after, hAfter⟩
  obtain ⟨d, tail, hText, hDigit⟩ := toDigits_start zettel.id ([':'] ++ ['|'].intercalate zettel.fields)
  rw [Zettel.print, hText] at hAfter
  rw [(List.cons.inj hAfter).1, hDigit] at hc
  cases hc

theorem BodyReader.read_print {line : AaakLine} (h : line.WellFormed)
    (hFresh : ∀ zettel ∈ line.zettel?, zettel.id ∉ reader.zettels.map Zettel.id) :
    reader.read line.print = .ok (reader.push line) := by
  cases line with
  | zettel z =>
    rw [BodyReader.read, AaakLine.print, if_neg (not_prefix_zettel rfl _ z), if_neg (not_prefix_zettel rfl _ z),
      Zettel.WellFormed.parse_print h]
    exact if_neg (hFresh z rfl)
  | tunnel t =>
    have hStart : ['T', ':'] <+: (AaakLine.tunnel t).print := ⟨_, rfl⟩
    rw [BodyReader.read, if_pos hStart, AaakLine.print, Tunnel.WellFormed.parse_print h]
    simp [Except.map, BodyReader.push, AaakLine.zettel?]
  | arc emotions =>
    have hTunnel : ¬ ['T', ':'] <+: (AaakLine.arc emotions).print := by
      rintro ⟨after, hAfter⟩
      exact absurd (List.cons.inj hAfter).1 (by decide)
    have hStart : ['A', 'R', 'C', ':'] <+: (AaakLine.arc emotions).print := ⟨_, rfl⟩
    rw [BodyReader.read, if_neg hTunnel, if_pos hStart, parseArc_print h.1 h.2]
    simp [Except.map, BodyReader.push, AaakLine.zettel?]

theorem BodyReader.foldlM_print {lines : List AaakLine} (reader : BodyReader) (h : ∀ line ∈ lines, line.WellFormed)
    (hIds : ((reader.zettels ++ lines.filterMap AaakLine.zettel?).map Zettel.id).Nodup) :
    (lines.map fun line => String.ofList line.print).foldlM (fun reader line => reader.read line.toList) reader =
      .ok ⟨reader.body ++ lines, reader.zettels ++ lines.filterMap AaakLine.zettel?⟩ := by
  induction lines generalizing reader with
  | nil => simp [pure, Except.pure]
  | cons line lines ih =>
    obtain ⟨hLine, hLines⟩ := List.forall_mem_cons.mp h
    have hSplit : (line :: lines).filterMap AaakLine.zettel? =
        line.zettel?.toList ++ lines.filterMap AaakLine.zettel? := by
      cases hZettel : line.zettel? <;> simp [hZettel]
    rw [hSplit, ← List.append_assoc] at hIds ⊢
    have hFresh : ∀ zettel ∈ line.zettel?, zettel.id ∉ reader.zettels.map Zettel.id := by
      intro zettel hZettel hMem
      rw [hZettel, List.append_assoc, List.map_append] at hIds
      exact (List.nodup_append.mp hIds).2.2 zettel.id hMem zettel.id (by simp) rfl
    rw [List.map_cons, List.foldlM_cons, String.toList_ofList, BodyReader.read_print hLine hFresh]
    refine (ih (reader.push line) hLines hIds).trans ?_
    simp [BodyReader.push]

theorem parseHeader_fields {version : Nat} {wing room date source : String} (hVersion : version < 2 ^ 8)
    (hFields : ∀ field ∈ [wing, room, date, source], '|' ∉ field.toList) :
    parseHeader (AaakHeader.print ⟨version, wing, room, date, source⟩) = .ok ⟨version, wing, room, date, source⟩ := by
  have hSplit : (AaakHeader.print ⟨version, wing, room, date, source⟩).splitOn '|' =
      ['V' :: Nat.toDigits 10 version, wing.toList, room.toList, date.toList, source.toList] := by
    apply List.splitOn_intercalate
    · simp only [List.forall_mem_cons, List.not_mem_nil, false_implies, implies_true, and_true] at hFields ⊢
      refine ⟨?_, hFields⟩
      rw [List.mem_cons, not_or]
      exact ⟨by decide, notMem_toDigits rfl⟩
    · exact List.cons_ne_nil _ _
  simp only [parseHeader, hSplit, parseNat_toDigits hVersion, String.ofList_toList]

theorem header_noBreak
    (h : ∀ field ∈ [header.wing, header.room, header.date, header.source], '\n' ∉ field.toList) :
    '\n' ∉ header.print := by
  simp [AaakHeader.print, notMem_toDigits, h]

theorem header_start (header : AaakHeader) : ∃ rest, header.print = 'V' :: rest := by
  exact ⟨_, rfl⟩

theorem header_isBlank (header : AaakHeader) : Text.isBlank (String.ofList header.print) = false := by
  obtain ⟨rest, hRest⟩ := header_start header
  rw [hRest, Text.isBlank, String.toList_ofList]
  rfl

theorem getLast?_header (header : AaakHeader) :
    header.print.getLast? = some (header.source.toList.getLast?.getD '|') := by
  simp [AaakHeader.print, List.getLast?_append, List.getLast?_cons]

theorem AaakHeader.WellFormed.printed (h : header.WellFormed) : Printed header.print where
  start := by
    obtain ⟨rest, hRest⟩ := header_start header
    exact ⟨'V', rest, hRest, rfl⟩
  noBreak := header_noBreak fun field hField => (h.fields field hField).2
  ending := by
    rw [getLast?_header]
    cases hLast : header.source.toList.getLast? with
    | none => decide
    | some c =>
      intro hReturn
      exact h.source (hLast.trans hReturn)

theorem lines_header (document : AaakDocument) (hHeader : '\n' ∉ document.header.print) :
    Text.lines document.print = String.ofList (Text.dropReturn document.header.print) ::
      Text.linesFrom [] (['\n'].intercalate (document.bodyLines.map AaakLine.print)) := by
  rw [Text.lines, AaakDocument.print, String.toList_ofList, Text.linesFrom_break hHeader]

theorem lines_print (hHeader : '\n' ∉ document.header.print)
    (hBody : ∀ line ∈ document.bodyLines, Printed line.print) :
    Text.lines document.print = String.ofList (Text.dropReturn document.header.print) ::
      document.bodyLines.map fun line => String.ofList line.print := by
  rw [lines_header document hHeader, Text.linesFrom_intercalate]
  · rw [List.map_map]
    rfl
  · rintro text hText
    obtain ⟨line, hLine, rfl⟩ := List.mem_map.mp hText
    exact ⟨(hBody line hLine).ne_nil, (hBody line hLine).noBreak⟩
  · rintro text hText
    obtain ⟨line, hLine, rfl⟩ := List.mem_map.mp hText
    exact (hBody line hLine).ending

theorem AaakDocument.WellFormed.bodyLines_eq (h : document.WellFormed) : document.bodyLines = document.body := by
  rw [AaakDocument.bodyLines]
  split_ifs with hBody
  · rfl
  · rw [not_not] at hBody
    rw [h.zettels, hBody]
    rfl

theorem filter_lines {header : List Char} {body : List AaakLine} (hHeader : Printed header)
    (hBody : ∀ line ∈ body, Printed line.print) :
    (String.ofList header :: body.map fun line => String.ofList line.print).filter (fun line => !Text.isBlank line) =
      String.ofList header :: body.map fun line => String.ofList line.print := by
  rw [List.filter_eq_self]
  intro text hText
  rcases List.mem_cons.mp hText with rfl | hText
  · rw [hHeader.isBlank]
    rfl
  · obtain ⟨line, hLine, rfl⟩ := List.mem_map.mp hText
    rw [(hBody line hLine).isBlank]
    rfl

theorem AaakDocument.WellFormed.parse_print (h : document.WellFormed) :
    parseDocument document.print = .ok document := by
  have hBody : ∀ line ∈ document.body, Printed line.print := fun line hLine => (h.lines line hLine).printed
  have hLines := lines_print h.header.printed.noBreak (h.bodyLines_eq ▸ hBody)
  rw [Text.dropReturn, if_neg h.header.printed.ending, h.bodyLines_eq] at hLines
  have hHeader : parseHeader document.header.print = .ok document.header :=
    parseHeader_fields h.header.version fun field hField => (h.header.fields field hField).1
  have hIds : (([] ++ document.body.filterMap AaakLine.zettel?).map Zettel.id).Nodup := by
    rw [List.nil_append, ← h.zettels]
    exact h.ids
  have hRead := BodyReader.foldlM_print (⟨[], []⟩ : BodyReader) h.lines hIds
  rw [List.nil_append, List.nil_append, ← h.zettels] at hRead
  have hTunnels : (⟨document.body, document.zettels⟩ : BodyReader).checkTunnels = .ok () := by
    rw [BodyReader.checkTunnels, List.find?_eq_none.mpr]
    intro tunnel hTunnel
    rw [h.tunnels tunnel hTunnel]
    exact Bool.false_ne_true
  rw [parseDocument, hLines, filter_lines h.header.printed hBody]
  simp only [String.toList_ofList, hHeader, hRead, hTunnels, bind, Except.bind, pure, Except.pure]

theorem BodyReader.read_accepted {reader' : BodyReader} (h : reader.read line = .ok reader') {zettel : Zettel}
    (hMem : .zettel zettel ∈ reader'.body) : .zettel zettel ∈ reader.body ∨ parseZettel line = .ok zettel := by
  rw [BodyReader.read] at h
  split_ifs at h
  · obtain ⟨tunnel, _, rfl⟩ := map_eq_ok_iff.mp h
    exact Or.inl (by simpa using hMem)
  · obtain ⟨emotions, _, rfl⟩ := map_eq_ok_iff.mp h
    exact Or.inl (by simpa using hMem)
  · obtain ⟨accepted, hAccepted, hRest⟩ := bind_eq_ok_iff.mp h
    rw [ite_error_eq_ok_iff] at hRest
    obtain ⟨_, hRest⟩ := hRest
    obtain rfl := Except.ok.inj hRest
    rcases List.mem_append.mp hMem with hMem | hMem
    · exact Or.inl hMem
    · obtain rfl := AaakLine.zettel.inj (List.mem_singleton.mp hMem)
      exact Or.inr hAccepted

theorem parseDocument_accepted (h : parseDocument input = .ok document)
    {zettel : Zettel} (hMem : .zettel zettel ∈ document.body) : ∃ line, parseZettel line = .ok zettel := by
  rw [parseDocument] at h
  split at h
  · cases h
  · obtain ⟨header, _, hBody⟩ := bind_eq_ok_iff.mp h
    obtain ⟨reader, hRead, hTunnels⟩ := bind_eq_ok_iff.mp hBody
    obtain ⟨_, _, hDocument⟩ := bind_eq_ok_iff.mp hTunnels
    obtain rfl := Except.ok.inj hDocument
    apply foldlM_invariant (P := fun reader : BodyReader =>
      ∀ zettel, AaakLine.zettel zettel ∈ reader.body → ∃ line, parseZettel line = .ok zettel) ?_ hRead ?_ zettel hMem
    · intro line _ reader reader' hStep hBefore zettel hZettel
      rcases BodyReader.read_accepted hStep hZettel with hOld | hNew
      · exact hBefore zettel hOld
      · exact ⟨_, hNew⟩
    · intro zettel hNone
      exact absurd hNone List.not_mem_nil

theorem parseDocument_header (h : parseDocument input = .ok document)
    {line : String} {rest : List String} (hLines : Text.lines input = line :: rest)
    (hLine : Text.isBlank line = false) : parseHeader line.toList = .ok document.header := by
  rw [parseDocument, hLines, List.filter_cons_of_pos (by rw [hLine]; rfl)] at h
  obtain ⟨header, hHeader, hBody⟩ := bind_eq_ok_iff.mp h
  obtain ⟨reader, _, hTunnels⟩ := bind_eq_ok_iff.mp hBody
  obtain ⟨_, _, hDocument⟩ := bind_eq_ok_iff.mp hTunnels
  obtain rfl := Except.ok.inj hDocument
  exact hHeader

theorem dropReturn_header {source : List Char} (h : header.source.toList = source ++ ['\r']) :
    Text.dropReturn header.print = AaakHeader.print { header with source := String.ofList source } := by
  rw [Text.dropReturn, if_pos]
  · simp only [AaakHeader.print, List.intercalate_cons_cons, List.intercalate_singleton, h, String.toList_ofList,
      ← List.append_assoc, List.dropLast_concat]
  · rw [getLast?_header, h, List.getLast?_concat]
    rfl

theorem parseQuote_sub {raw : List Char} {quote : String} (h : parseQuote raw = some quote) :
    ∀ c ∈ quote.toList, c ∈ raw := by
  rw [parseQuote] at h
  split_ifs at h
  obtain rfl := Option.some.inj h
  intro c hMem
  rw [String.toList_ofList] at hMem
  exact List.mem_of_mem_tail (List.mem_of_mem_dropLast hMem)

theorem parseFields_accepted {id : Nat} {parts : List (List Char)} {zettel : Zettel}
    (h : parseFields id parts = some zettel) :
    (∀ entity ∈ zettel.entities, isEntityCode entity = true) ∧
      ∃ part ∈ parts, ∀ c ∈ zettel.quote.toList, c ∈ part := by
  unfold parseFields at h
  split at h
  · simp only [Option.bind_eq_bind, Option.bind_eq_some_iff, Option.pure_def, Option.some.injEq] at h
    obtain ⟨entities, hEntities, _, _, _, hQuote, _, _, _, _, _, _, rfl⟩ := h
    exact ⟨checkedField_eq_some hEntities, _, by simp, parseQuote_sub hQuote⟩
  · cases h

theorem orInvalid_eq_ok_iff {α : Type} {result : Option α} {value : α} :
    orInvalid line result = .ok value ↔ result = some value := by
  cases result <;> simp [orInvalid]

theorem parseZettel_accepted {zettel : Zettel} (h : parseZettel line = .ok zettel) :
    (∀ entity ∈ zettel.entities, isEntityCode entity = true) ∧ '|' ∉ zettel.quote.toList := by
  simp only [parseZettel, orInvalid_eq_ok_iff, Option.bind_eq_bind, Option.bind_eq_some_iff] at h
  obtain ⟨⟨id, rest⟩, _, number, _, hFields⟩ := h
  obtain ⟨hEntities, part, hPart, hQuote⟩ := parseFields_accepted hFields
  exact ⟨hEntities, fun hMem => notMem_of_mem_splitOn hPart (hQuote '|' hMem)⟩

end Mempal.Aaak
