import Mempal.Aaak.Basic

set_option autoImplicit false

/-! `aaak/codec.rs`: a text becomes a document of one zettel. Its quote is the whole text with the white space
normalised; topics and entities come from runs of ASCII letters and digits and from the words a segmenter finds in
runs of CJK ideographs. -/

namespace Mempal.Aaak

open Foundation

structure AaakMeta where
  wing : String
  room : String
  date : String
  source : String

/-- The segmenter tags words of a text with their part of speech; lower case is that of the standard library. -/
structure Language where
  tag : String → List (String × String)
  words : ∀ segment, ∀ word ∈ tag segment, word.1.toList <:+: segment.toList
  toLowercase : String → String
  ascii : ∀ text : String, (∀ c ∈ text.toList, c.toNat < 128) → toLowercase text = Text.asciiLower text

/-- Aliases of entities in the order in which the map is iterated; names and codes are unique. -/
structure AaakCodec where
  entityMap : List (String × String)
  names : (entityMap.map Prod.fst).Nodup
  codes : (entityMap.map Prod.snd).Nodup

def AaakCodec.default : AaakCodec := ⟨[], List.nodup_nil, List.nodup_nil⟩

def defaultMaxTopics : Nat := 3

def defaultEmotion : String := "determ"

def unknownEntityCode : String := "UNK"

def emotionSignals : List (String × String) :=
  [("decided", "determ"), ("determined", "determ"), ("prefer", "convict"), ("confident", "convict"),
    ("worried", "anx"), ("anxious", "anx"), ("concern", "anx"), ("excited", "excite"), ("frustrated", "frust"),
    ("confused", "confuse"), ("love", "love"), ("hate", "rage"), ("hope", "hope"), ("fear", "fear"),
    ("trust", "trust"), ("happy", "joy"), ("joy", "joy"), ("sad", "grief"), ("grief", "grief"),
    ("surprised", "surpr"), ("grateful", "grat"), ("curious", "curious"), ("wonder", "wonder"),
    ("relieved", "relief"), ("satisf", "satis"), ("disappoint", "grief"), ("vulnerable", "vul"),
    ("tender", "tender"), ("honest", "raw"), ("doubt", "doubt"), ("exhaust", "exhaust"), ("warm", "warmth"),
    ("humor", "humor"), ("funny", "humor"), ("peace", "peace"), ("despair", "despair"), ("passion", "passion"),
    ("决定", "determ"), ("确定", "determ"), ("担心", "anx"), ("焦虑", "anx"), ("兴奋", "excite"), ("沮丧", "frust"),
    ("困惑", "confuse"), ("开心", "joy"), ("高兴", "joy"), ("悲伤", "grief"), ("惊讶", "surpr"), ("感恩", "grat"),
    ("感谢", "grat"), ("好奇", "curious"), ("信任", "trust"), ("希望", "hope"), ("恐惧", "fear"), ("害怕", "fear"),
    ("满意", "satis"), ("失望", "grief"), ("轻松", "relief"), ("放心", "relief"), ("爱", "love"), ("恨", "rage"),
    ("怖惧", "fear"), ("平静", "peace"), ("绝望", "despair"), ("热情", "passion"), ("怀疑", "doubt"), ("疲惫", "exhaust")]

def flagSignals : List (String × String) :=
  [("decid", "DECISION"), ("chose", "DECISION"), ("switch", "DECISION"), ("migrat", "DECISION"),
    ("replace", "DECISION"), ("recommend", "DECISION"), ("because", "DECISION"), ("found", "ORIGIN"),
    ("create", "ORIGIN"), ("start", "ORIGIN"), ("born", "ORIGIN"), ("launch", "ORIGIN"),
    ("first time", "ORIGIN"), ("core", "CORE"), ("fundamental", "CORE"), ("essential", "CORE"),
    ("principle", "CORE"), ("belief", "CORE"), ("always", "CORE"), ("turning point", "PIVOT"),
    ("changed everything", "PIVOT"), ("realized", "PIVOT"), ("breakthrough", "PIVOT"), ("epiphany", "PIVOT"),
    ("api", "TECHNICAL"), ("database", "TECHNICAL"), ("architecture", "TECHNICAL"), ("deploy", "TECHNICAL"),
    ("infrastructure", "TECHNICAL"), ("framework", "TECHNICAL"), ("server", "TECHNICAL"),
    ("config", "TECHNICAL"), ("auth", "TECHNICAL"), ("token", "SENSITIVE"), ("password", "SENSITIVE"),
    ("secret", "SENSITIVE"), ("credential", "SENSITIVE"), ("private", "SENSITIVE"), ("sensitive", "SENSITIVE"),
    ("pii", "SENSITIVE"), ("决定", "DECISION"), ("选择", "DECISION"), ("切换", "DECISION"), ("迁移", "DECISION"),
    ("替换", "DECISION"), ("推荐", "DECISION"), ("因为", "DECISION"), ("创建", "ORIGIN"), ("创立", "ORIGIN"),
    ("开始", "ORIGIN"), ("第一次", "ORIGIN"), ("核心", "CORE"), ("基本", "CORE"), ("原则", "CORE"), ("信念", "CORE"),
    ("转折", "PIVOT"), ("突破", "PIVOT"), ("顿悟", "PIVOT"), ("接口", "TECHNICAL"), ("数据库", "TECHNICAL"),
    ("架构", "TECHNICAL"), ("部署", "TECHNICAL"), ("框架", "TECHNICAL"), ("服务器", "TECHNICAL"), ("配置", "TECHNICAL"),
    ("认证", "TECHNICAL"), ("密码", "SENSITIVE"), ("密钥", "SENSITIVE"), ("凭证", "SENSITIVE"), ("隐私", "SENSITIVE")]

def normalizeWhitespace (text : String) : String :=
  let words := (text.toList.splitOnP Text.isWhitespace).filter (· ≠ [])
  Text.trim (String.ofList (replaceQuotes ([' '].intercalate words)))

inductive TextSegmentKind where
  | asciiWord
  | cjk
deriving DecidableEq

structure TextSegment where
  kind : TextSegmentKind
  text : String

def isCjkIdeograph (c : Char) : Bool :=
  let n := c.toNat
  (0x4E00 ≤ n && n ≤ 0x9FFF) || (0x3400 ≤ n && n ≤ 0x4DBF) || (0xF900 ≤ n && n ≤ 0xFAFF)

def kindOf (c : Char) : Option TextSegmentKind :=
  if c.isAlphanum then some .asciiWord else if isCjkIdeograph c then some .cjk else none

structure SegmentReader where
  segments : List TextSegment
  current : List Char
  kind : Option TextSegmentKind

def SegmentReader.close (reader : SegmentReader) (kind : TextSegmentKind) : List TextSegment :=
  reader.segments ++ [⟨kind, String.ofList reader.current⟩]

def SegmentReader.read (reader : SegmentReader) (c : Char) : SegmentReader :=
  match reader.kind, kindOf c with
  | some kind, some next =>
    if kind = next then { reader with current := reader.current ++ [c] }
    else ⟨reader.close kind, [c], some next⟩
  | some kind, none =>
    if reader.current ≠ [] then ⟨reader.close kind, [], none⟩ else { reader with kind := none }
  | none, some next => { reader with current := reader.current ++ [c], kind := some next }
  | none, none => reader

def SegmentReader.finish (reader : SegmentReader) : List TextSegment :=
  match reader.kind with
  | some kind => if reader.current ≠ [] then reader.close kind else reader.segments
  | none => reader.segments

def textSegments (text : String) : List TextSegment :=
  (text.toList.foldl SegmentReader.read ⟨[], [], none⟩).finish

def pushNew (items : List String) (item : String) : List String := if item ∈ items then items else items ++ [item]

def orElse (items : List String) (fallback : String) : List String := if items = [] then [fallback] else items

def isProperNoun (tag : String) : Bool :=
  "nr".toList <+: tag.toList || tag = "ns" || tag = "nt" || tag = "nz"

def isCjkFunctionWord (word : String) : Bool :=
  word ∈ ["我们", "你们", "他们", "她们", "它们", "这个", "那个", "这些",
    "那些", "为什么", "怎么", "什么", "因为", "所以", "但是"]

section Extract

variable (language : Language)

def extractCjkEntitiesFromSegment (segment : String) : List String :=
  ((language.tag segment).filter fun (word, tag) => isProperNoun tag && 2 ≤ word.length).foldl
    (fun entities word => pushNew entities word.1) []

def isContentTag (tag : String) : Bool :=
  !isProperNoun tag && match tag.toList.head? with
    | some c => c = 'n' || c = 'v' || c = 'a'
    | none => false

def extractCjkTopicsFromSegment (segment : String) : List String :=
  ((language.tag segment).filter fun (word, tag) =>
    isContentTag tag && 2 ≤ word.length && !isCjkFunctionWord word).foldl (fun topics word => pushNew topics word.1) []

def stopWords : List String :=
  ["the", "and", "for", "with", "over", "based", "this", "that", "was", "use", "why"]

def looksLikeAsciiEntity (token : String) : Bool :=
  2 ≤ token.length && match token.toList.head? with
    | some first => first.isUpper
    | none => false

def segmentTopics (segment : TextSegment) : List String :=
  match segment.kind with
  | .asciiWord =>
    let token := language.toLowercase segment.text
    if token = "" ∨ token ∈ stopWords then [] else [token]
  | .cjk => extractCjkTopicsFromSegment language segment.text

def extractTopics (text : String) : List String :=
  ((textSegments text).flatMap (segmentTopics language)).foldl pushNew []

def segmentEntities (segment : TextSegment) : List String :=
  match segment.kind with
  | .asciiWord => if looksLikeAsciiEntity segment.text then [segment.text] else []
  | .cjk => extractCjkEntitiesFromSegment language segment.text

def extractEntities (text : String) : List String :=
  ((textSegments text).flatMap (segmentEntities language)).foldl pushNew []

def detect (signals : List (String × String)) (fallback : String) (lower : String) : List String :=
  orElse ((signals.filter fun signal => Text.hasText lower signal.1).foldl
    (fun found signal => pushNew found signal.2) []) fallback

def detectFlags (text : String) : List String := detect flagSignals "CORE" (language.toLowercase text)

def detectEmotions (text : String) : List String := detect emotionSignals defaultEmotion (language.toLowercase text)

def inferWeight (flags : List String) : Nat :=
  if flags.any fun flag => flag = "DECISION" || flag = "PIVOT" then 4
  else if flags.contains "TECHNICAL" then 3
  else 2

/-- `wrapping_mul` and `wrapping_add` over the bytes of the text. -/
def stableHash (text : String) : Nat :=
  text.toUTF8.data.toList.foldl (fun hash byte => (hash * 31 + byte.toNat) % 2 ^ 64) 0

def hashLetter (hash i : Nat) : Char := Char.ofNat (65 + hash / 2 ^ (5 * i) % 32 % 26)

def defaultEntityCode (entity : String) : String :=
  let ascii := ((entity.toList.filter Char.isAlpha).take 3).map Char.toUpper
  if 3 ≤ ascii.length then String.ofList ascii
  else
    let hash := stableHash entity
    String.ofList [hashLetter hash 0, hashLetter hash 1, hashLetter hash 2]

variable (codec : AaakCodec)

def AaakCodec.entityCode (entity : String) : String :=
  (codec.entityMap.lookup entity).getD (defaultEntityCode entity)

def AaakCodec.entityCodes (normalized : String) : List String :=
  let known := (codec.entityMap.filter fun (name, _) => Text.hasText normalized name).foldl
    (fun codes known => pushNew codes known.2) []
  (extractEntities language normalized).foldl (fun codes entity => pushNew codes (codec.entityCode entity)) known

def AaakCodec.zettel (text : String) : Zettel :=
  let normalized := normalizeWhitespace text
  let flags := detectFlags language normalized
  { id := 0
    entities := orElse (codec.entityCodes language normalized) unknownEntityCode
    topics := orElse ((extractTopics language normalized).take defaultMaxTopics) "note"
    quote := normalized
    weight := inferWeight flags
    emotions := detectEmotions language normalized
    flags := flags }

/-- The document of the output of `encode`. -/
def AaakCodec.encode (text : String) (info : AaakMeta) : AaakDocument :=
  let zettel := codec.zettel language text
  ⟨⟨1, info.wing, info.room, info.date, info.source⟩, [.zettel zettel], [zettel]⟩

end Extract

end Mempal.Aaak
