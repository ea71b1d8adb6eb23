import Voiceover.Yaml.Token.Stream

/-! YAML documents as trees. An alias stays in the tree as the number of its anchor, since a node
may hold an alias of itself; the nodes with anchors are kept beside the tree. The number of an
anchor is how many names were anchors before it. A name that is given again gets the number that the
next new name gets too, and an alias stands for the last node of its number in the whole
document. -/

namespace Voiceover.Yaml

inductive Node
  | scalar (tag : Option (List UInt8)) (style : ScalarStyle) (text : String)
  | sequence (items : List Node)
  | mapping (pairs : List (Node × Node))
  | alias (number : Nat)

namespace Node

def empty : Node := .scalar none .plain ""

end Node

structure Document where
  root : Node
  /-- The number of each anchor and its place among all anchors, last anchor first. -/
  places : List (Nat × Nat)
  /-- The node at each place. -/
  anchored : List (Nat × Node)

namespace Document

def blank : Document := ⟨.empty, [], []⟩

def resolve (document : Document) : Node → Node
  | .alias number =>
      ((document.places.lookup number).bind fun place => document.anchored.lookup place).getD .empty
  | node => node

end Document

def standardTag (kind : String) : List UInt8 := ("tag:yaml.org,2002:" ++ kind).toUTF8.toList

def standardHandles : List (String × List UInt8) :=
  [("!", "!".toUTF8.toList), ("!!", standardTag "")]

structure Parsing where
  tokens : List Token
  handles : List (String × List UInt8)
  /-- The number of each name, and each name once. -/
  anchors : List (String × Nat)
  places : List (Nat × Nat)
  anchored : List (Nat × Node)

abbrev Parser := StateT Parsing (Except Problem)

namespace Parser

def peek : Parser (Option Token) := do
  return (← get).tokens.head?

def advance : Parser Unit :=
  modify fun parsing => { parsing with tokens := parsing.tokens.drop 1 }

def accept (token : Token) : Parser Bool := do
  if (← peek) = some token then
    advance
    return true
  else return false

def expect (token : Token) : Parser Unit := do
  if !(← accept token) then throw .unexpectedToken

def nextIs (among : List Token) : Parser Bool := do
  return (← peek).any among.contains

def fullTag (tag : Tag) : Parser (List UInt8) := do
  if tag.handle = "" then return tag.suffix
  match (← get).handles.lookup tag.handle with
  | some meaning => return meaning ++ tag.suffix
  | none => throw .badTag

def anchorBefore : Parser (Option String) := do
  match ← peek with
  | some (.anchor name) => advance; return some name
  | _ => return none

def tagBefore : Parser (Option Tag) := do
  match ← peek with
  | some (.tag tag) => advance; return some tag
  | _ => return none

def properties : Parser (Option String × Option Tag) := do
  match ← anchorBefore with
  | some name => return (some name, ← tagBefore)
  | none =>
      let tag ← tagBefore
      if tag.isSome then return (← anchorBefore, tag) else return (none, none)

def placeAnchor (name : String) : Parser Nat := do
  let parsing ← get
  let number := parsing.anchors.length
  let place := parsing.places.length
  set { parsing with
    anchors := (name, number) :: parsing.anchors.filter (·.1 ≠ name)
    places := (number, place) :: parsing.places }
  return place

def keep (place : Nat) (node : Node) : Parser Unit :=
  modify fun parsing => { parsing with anchored := (place, node) :: parsing.anchored }

def unwritten (marked : Bool) (tag : Option (List UInt8)) : Parser Node :=
  if marked then return .scalar tag .plain "" else throw .unexpectedToken

mutual

/-- Reads a node. `block` lets it be a block collection, and `dashes` a sequence whose dashes stand
in the column of the keys around it. -/
def node : (fuel : Nat) → (block dashes : Bool) → Parser Node
  | 0, _, _ => throw .unexpectedToken
  | fuel + 1, block, dashes => do
      match ← peek with
      | some (.alias name) =>
          advance
          match (← get).anchors.lookup name with
          | some number => return .alias number
          | none => throw .unknownAnchor
      | _ =>
          let (name, tag) ← properties
          let place ← name.mapM placeAnchor
          let tag ← tag.mapM fullTag
          let node ← content fuel block dashes (name.isSome || tag.isSome) tag
          if let some place := place then keep place node
          return node

def content :
    (fuel : Nat) → (block dashes marked : Bool) → (tag : Option (List UInt8)) → Parser Node
  | 0, _, _, _, _ => throw .unexpectedToken
  | fuel + 1, block, dashes, marked, tag => do
      match ← peek with
      | some (.scalar style text) => advance; return .scalar tag style text
      | some .flowSequenceStart => advance; return .sequence (← flowItems fuel true)
      | some .flowMappingStart => advance; return .mapping (← flowPairs fuel true)
      | some .blockEntry =>
          if dashes then return .sequence (← dashedItems fuel)
          else unwritten marked tag
      | some .blockSequenceStart =>
          if block then advance; return .sequence (← blockItems fuel)
          else unwritten marked tag
      | some .blockMappingStart =>
          if block then advance; return .mapping (← blockPairs fuel)
          else unwritten marked tag
      | _ => unwritten marked tag

def nodeUnless : (fuel : Nat) → (block dashes : Bool) → (among : List Token) → Parser Node
  | 0, _, _, _ => throw .unexpectedToken
  | fuel + 1, block, dashes, among => do
      if ← nextIs among then return .empty else node fuel block dashes

def blockItems : (fuel : Nat) → Parser (List Node)
  | 0 => throw .unexpectedToken
  | fuel + 1 => do
      if ← accept .blockEntry then
        let item ← nodeUnless fuel true false [.blockEntry, .blockEnd]
        return item :: (← blockItems fuel)
      else
        expect .blockEnd
        return []

def dashedItems : (fuel : Nat) → Parser (List Node)
  | 0 => throw .unexpectedToken
  | fuel + 1 => do
      if ← accept .blockEntry then
        let item ← nodeUnless fuel true false [.blockEntry, .key, .value, .blockEnd]
        return item :: (← dashedItems fuel)
      else return []

def blockPairs : (fuel : Nat) → Parser (List (Node × Node))
  | 0 => throw .unexpectedToken
  | fuel + 1 => do
      if ← accept .key then
        let key ← nodeUnless fuel true true [.key, .value, .blockEnd]
        let value ←
          if ← accept .value then nodeUnless fuel true true [.key, .value, .blockEnd]
          else pure .empty
        return (key, value) :: (← blockPairs fuel)
      else
        expect .blockEnd
        return []

def flowItems : (fuel : Nat) → (first : Bool) → Parser (List Node)
  | 0, _ => throw .unexpectedToken
  | fuel + 1, first => do
      if ← accept .flowSequenceEnd then return []
      if !first then expect .flowEntry
      if ← accept .flowSequenceEnd then return []
      let item ← if ← accept .key then flowItemPair fuel else node fuel false false
      return item :: (← flowItems fuel false)

/-- Reads a pair in a flow sequence behind the start of its key. Where the key is empty the token
after it is passed over. -/
def flowItemPair : (fuel : Nat) → Parser Node
  | 0 => throw .unexpectedToken
  | fuel + 1 => do
      let key ←
        if ← nextIs [.value, .flowEntry, .flowSequenceEnd] then advance; pure .empty
        else node fuel false false
      let value ←
        if ← accept .value then nodeUnless fuel false false [.flowEntry, .flowSequenceEnd]
        else pure .empty
      return .mapping [(key, value)]

def flowPairs : (fuel : Nat) → (first : Bool) → Parser (List (Node × Node))
  | 0, _ => throw .unexpectedToken
  | fuel + 1, first => do
      if ← accept .flowMappingEnd then return []
      if !first then expect .flowEntry
      if ← accept .flowMappingEnd then return []
      if ← accept .key then
        let key ← nodeUnless fuel false false [.value, .flowEntry, .flowMappingEnd]
        let value ←
          if ← accept .value then nodeUnless fuel false false [.flowEntry, .flowMappingEnd]
          else pure .empty
        return (key, value) :: (← flowPairs fuel false)
      else
        let key ← node fuel false false
        return (key, .empty) :: (← flowPairs fuel false)

end

def directives : (fuel : Nat) → (versioned : Bool) → (handles : List (String × List UInt8)) →
    Parser (List (String × List UInt8))
  | 0, _, _ => throw .unexpectedToken
  | fuel + 1, versioned, handles => do
      match ← peek with
      | some (.version major minor) =>
          advance
          if versioned || major ≠ 1 || (minor ≠ 1 && minor ≠ 2) then throw .badDirective
          directives fuel true handles
      | some (.tagHandle handle meaning) =>
          advance
          if (handles.lookup handle).isSome then throw .badDirective
          directives fuel versioned ((handle, meaning) :: handles)
      | _ => return handles

def isDirective : Token → Bool
  | .version .. | .tagHandle .. => true
  | _ => false

def document : Parser Document := do
  let fuel := 4 * (← get).tokens.length + 8
  match ← peek with
  | none => return .blank
  | some token =>
      let root ←
        if isDirective token || token = .documentStart then do
          let handles ← directives fuel false []
          modify fun parsing => { parsing with handles := handles ++ standardHandles }
          expect .documentStart
          match ← peek with
          | none | some .documentStart | some .documentEnd => pure .empty
          | some token => if isDirective token then pure .empty else node fuel true false
        else node fuel true false
      passEnds fuel
      if (← peek).isSome then throw .severalDocuments
      return ⟨root, (← get).places, (← get).anchored⟩
where
  passEnds : (fuel : Nat) → Parser Unit
    | 0 => return ()
    | fuel + 1 => do if ← accept .documentEnd then passEnds fuel

end Parser

namespace Document

def read (stream : String) : Except Problem Document := do
  let (document, _) ← Parser.document.run ⟨← tokens stream, standardHandles, [], [], []⟩
  return document

end Document

end Voiceover.Yaml
