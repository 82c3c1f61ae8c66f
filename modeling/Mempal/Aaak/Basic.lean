import Mempal.Foundation.Fields

set_option autoImplicit false

/-! `aaak/model.rs` and `aaak/parse.rs`: the printed form of a document and its parser. -/

namespace Mempal.Aaak

open Foundation Foundation.Fields

structure AaakHeader where
  version : Nat
  wing : String
  room : String
  date : String
  source : String
deriving DecidableEq

structure Zettel where
  id : Nat
  entities : List String
  topics : List String
  quote : String
  weight : Nat
  emotions : List String
  flags : List String
deriving DecidableEq

structure Tunnel where
  left : Nat
  right : Nat
  label : String
deriving DecidableEq

inductive AaakLine where
  | zettel (z : Zettel)
  | tunnel (t : Tunnel)
  | arc (emotions : List String)
deriving DecidableEq

def AaakLine.zettel? : AaakLine → Option Zettel
  | .zettel z => some z
  | _ => none

def AaakLine.tunnel? : AaakLine → Option Tunnel
  | .tunnel t => some t
  | _ => none

structure AaakDocument where
  header : AaakHeader
  body : List AaakLine
  zettels : List Zettel
deriving DecidableEq

inductive ParseError where
  | missingHeader
  | invalidHeader
  | invalidVersion
  | invalidZettel (line : String)
deriving DecidableEq

def AaakHeader.print (header : AaakHeader) : List Char :=
  ['|'].intercalate ['V' :: Nat.toDigits 10 header.version, header.wing.toList, header.room.toList,
    header.date.toList, header.source.toList]

def replaceQuotes (text : List Char) : List Char := text.map fun c => if c = '"' then '\'' else c

def Zettel.fields (zettel : Zettel) : List (List Char) :=
  [join ['+'] zettel.entities, join ['_'] zettel.topics, '"' :: (replaceQuotes zettel.quote.toList ++ ['"']),
    List.replicate (max zettel.weight 1) '★', join ['+'] zettel.emotions, join ['+'] zettel.flags]

def Zettel.print (zettel : Zettel) : List Char :=
  Nat.toDigits 10 zettel.id ++ ([':'] ++ ['|'].intercalate zettel.fields)

def Tunnel.pair (tunnel : Tunnel) : List Char :=
  Nat.toDigits 10 tunnel.left ++ (['<', '-', '>'] ++ Nat.toDigits 10 tunnel.right)

def Tunnel.print (tunnel : Tunnel) : List Char := 'T' :: ':' :: (tunnel.pair ++ (['|'] ++ tunnel.label.toList))

def AaakLine.print : AaakLine → List Char
  | .zettel z => z.print
  | .tunnel t => t.print
  | .arc emotions => 'A' :: 'R' :: 'C' :: ':' :: join ['-', '>'] emotions

def AaakDocument.bodyLines (document : AaakDocument) : List AaakLine :=
  if document.body ≠ [] then document.body else document.zettels.map AaakLine.zettel

def AaakDocument.print (document : AaakDocument) : String :=
  String.ofList (document.header.print ++ '\n' :: ['\n'].intercalate (document.bodyLines.map AaakLine.print))

def allowedFlags : List String := ["DECISION", "ORIGIN", "CORE", "PIVOT", "TECHNICAL", "SENSITIVE"]

def isEntityCode (raw : String) : Bool := raw.length = 3 && raw.toList.all Char.isUpper

def isEmotionCode (raw : String) : Bool := 3 ≤ raw.length && raw.length ≤ 7 && raw.toList.all Char.isLower

def isAllowedFlag (raw : String) : Bool := raw ∈ allowedFlags

def parseQuote (raw : List Char) : Option String :=
  if raw.length < 2 ∨ raw.head? ≠ some '"' ∨ raw.getLast? ≠ some '"' then none
  else some (String.ofList raw.tail.dropLast)

def parseWeight (raw : List Char) : Option Nat :=
  if raw ≠ [] ∧ raw.all (· = '★') ∧ raw.length ≤ 5 then some raw.length else none

def parseHeader (line : List Char) : Except ParseError AaakHeader :=
  match line.splitOn '|' with
  | [version, wing, room, date, source] =>
    match version with
    | 'V' :: version =>
      match parseNat (2 ^ 8) version with
      | none => .error .invalidVersion
      | some version =>
        .ok ⟨version, String.ofList wing, String.ofList room, String.ofList date, String.ofList source⟩
    | _ => .error .invalidVersion
  | _ => .error .invalidHeader

section Lines

variable (line : List Char)

def orInvalid {α : Type} : Option α → Except ParseError α
  | none => .error (.invalidZettel (String.ofList line))
  | some value => .ok value

def checkedField (sep : Char) (accepted : String → Bool) (raw : List Char) : Option (List String) :=
  let items := splitField sep raw
  if items = [] ∨ ¬ items.all accepted then none else some items

def parseFields (id : Nat) (parts : List (List Char)) : Option Zettel :=
  match parts with
  | [entities, topics, quote, weight, emotions, flags] => do
    let entities ← checkedField '+' isEntityCode entities
    let topics ← checkedField '_' (fun _ => true) topics
    let quote ← parseQuote quote
    let weight ← parseWeight weight
    let emotions ← checkedField '+' isEmotionCode emotions
    let flags ← checkedField '+' isAllowedFlag flags
    return ⟨id, entities, topics, quote, weight, emotions, flags⟩
  | _ => none

def parseZettel : Except ParseError Zettel :=
  orInvalid line do
    let (id, rest) ← splitOnce [':'] line
    let id ← parseNat (2 ^ 64) id
    parseFields id (rest.splitOn '|')

def parseTunnel : Except ParseError Tunnel :=
  orInvalid line do
    let (pair, label) ← splitOnce ['|'] (line.drop 2)
    if Text.isBlank (String.ofList label) then none
    else
      let (left, right) ← splitOnce ['<', '-', '>'] pair
      let left ← parseNat (2 ^ 64) left
      let right ← parseNat (2 ^ 64) right
      return ⟨left, right, String.ofList label⟩

def parseArc : Except ParseError (List String) :=
  orInvalid line <|
    let rest := line.drop 4
    let emotions := (split ['-', '>'] rest).map String.ofList
    if rest = [] ∨ ¬ emotions.all isEmotionCode then none else some emotions

end Lines

/-- The body read so far; the ids seen are those of the zettels. -/
structure BodyReader where
  body : List AaakLine
  zettels : List Zettel

def BodyReader.read (reader : BodyReader) (line : List Char) : Except ParseError BodyReader :=
  if ['T', ':'] <+: line then
    (parseTunnel line).map fun tunnel => { reader with body := reader.body ++ [.tunnel tunnel] }
  else if ['A', 'R', 'C', ':'] <+: line then
    (parseArc line).map fun emotions => { reader with body := reader.body ++ [.arc emotions] }
  else do
    let zettel ← parseZettel line
    if zettel.id ∈ reader.zettels.map Zettel.id then .error (.invalidZettel (String.ofList line))
    else .ok ⟨reader.body ++ [.zettel zettel], reader.zettels ++ [zettel]⟩

def isDangling (zettels : List Zettel) (tunnel : Tunnel) : Bool :=
  tunnel.left ∉ zettels.map Zettel.id || tunnel.right ∉ zettels.map Zettel.id

def BodyReader.checkTunnels (reader : BodyReader) : Except ParseError Unit :=
  match (reader.body.filterMap AaakLine.tunnel?).find? (isDangling reader.zettels) with
  | none => .ok ()
  | some tunnel => .error (.invalidZettel (String.ofList tunnel.print))

def parseDocument (input : String) : Except ParseError AaakDocument :=
  match (Text.lines input).filter fun line => !Text.isBlank line with
  | [] => .error .missingHeader
  | header :: lines => do
    let header ← parseHeader header.toList
    let reader ← lines.foldlM (fun reader line => reader.read line.toList) (⟨[], []⟩ : BodyReader)
    reader.checkTunnels
    return ⟨header, reader.body, reader.zettels⟩

end Mempal.Aaak
