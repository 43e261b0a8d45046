import Inquiry.Yaml.Token

/-!
YAML documents as trees.

A document that is malformed somewhere is still a tree up to there: a node that could not be read
is `cut`. What is read off the tree before a cut is reached counts before the malformation does.
-/
namespace Inquiry.Yaml

inductive Node where
  | scalar (tag : Option String) (style : Style) (text : String)
  | sequence (tag : Option String) (items : List Node)
  | mapping (tag : Option String) (entries : List (Node × Node))
  /-- What another node is, by the slot that its anchor got. -/
  | alias (slot : Nat)
  | nothing
  /-- The rest of a text that is malformed here. -/
  | cut

instance : Inhabited Node := ⟨.cut⟩

def Node.absent : Node := .scalar none .plain ""

/-- A node that an anchor names, with the slot of the anchor and the order of its start. -/
structure Anchored where
  slot : Nat
  order : Nat
  node : Node

structure Growth where
  tokens : List Token
  broken : Bool
  /-- The slots of the names of anchors, the last one first. -/
  slots : List (String × Nat)
  started : Nat
  anchored : List Anchored
  /-- The number of nodes, counted once for a scalar and twice for a collection. -/
  size : Nat
  handles : List (String × String)

/-- Growing a tree takes tokens. -/
abbrev Grow := StateM Growth

def peek : Grow (Option Token) := do
  let g ← get
  if g.broken then return none
  match g.tokens with
  | token :: _ => return some token
  | [] => do
    set { g with broken := true }
    return none

def skip : Grow Unit := modify fun g => { g with tokens := g.tokens.drop 1 }

def breakOff : Grow Node := do
  modify fun g => { g with broken := true }
  return .cut

def count (n : Nat) : Grow Unit := modify fun g => { g with size := g.size + n }

/-- Give a node's anchor its slot: the number of names so far. A name that is used again gets a
new slot, which the next new name shares with it. -/
def startAnchor (name : String) : Grow (Nat × Nat) := do
  let g ← get
  let names := g.slots.filter (·.1 != name)
  let slot := g.slots.length
  set { g with slots := (name, slot) :: names, started := g.started + 1 }
  return (slot, g.started)

def withAnchor (anchor : Option String) (grow : Grow Node) : Grow Node := do
  match anchor with
  | none => grow
  | some name => do
    let (slot, order) ← startAnchor name
    let node ← grow
    modify fun g => { g with anchored := ⟨slot, order, node⟩ :: g.anchored }
    return node

def wholeTag? (handles : List (String × String)) (handle suffix : String) : Option String :=
  if handle.isEmpty then some suffix
  else (handles.find? (·.1 == handle)).map fun entry => entry.2 ++ suffix

structure Properties where
  anchor : Option String
  tag : Option (String × String)

def readAnchor? : Grow (Option String) := do
  match (← peek) with
  | some (.anchor name) => do
    skip
    return some name
  | _ => return none

def readTag? : Grow (Option (String × String)) := do
  match (← peek) with
  | some (.tag handle suffix) => do
    skip
    return some (handle, suffix)
  | _ => return none

def readProperties : Grow Properties := do
  match (← readAnchor?) with
  | some anchor => return ⟨some anchor, ← readTag?⟩
  | none =>
    match (← readTag?) with
    | some tag => return ⟨← readAnchor?, some tag⟩
    | none => return ⟨none, none⟩

/-- Where a node stands: in flow, in a block, or as the content of a key or value in a block, where
the entries of a sequence need not be indented. -/
inductive Place where
  | flow
  | block
  | blockPair
deriving DecidableEq

/-- A scalar; the tag of a lone exclamation mark says no more than that it has one. -/
def growScalar (tag : Option String) (style : Style) (text : String) : Grow Node := do
  skip
  count 1
  return .scalar (tag.filter (· != "!")) style text

def growAbsent : Grow Node := do
  count 1
  return .absent

mutual

/-- The node that starts here, in at most `fuel` steps. -/
def growNode : Nat → Place → Grow Node
  | 0, _ => breakOff
  | fuel + 1, place => do
    match (← peek) with
    | none => return .cut
    | some (.alias name) => do
      match (← get).slots.find? (·.1 == name) with
      | some (_, slot) => do
        skip
        count 1
        return .alias slot
      | none => breakOff
    | some _ => do
      let properties ← readProperties
      let handles := (← get).handles
      match properties.tag.map fun (handle, suffix) => wholeTag? handles handle suffix with
      | some none => breakOff
      | tag => growContent fuel place properties.anchor tag.join

def growContent : Nat → Place → Option String → Option String → Grow Node
  | 0, _, _, _ => breakOff
  | fuel + 1, place, anchor, tag => do
    let collection (open_ : Grow Unit) (grow : Grow Node) : Grow Node :=
      withAnchor anchor do
        open_
        count 2
        grow
    match (← peek) with
    | none => return .cut
    | some (.scalar style text) => withAnchor anchor (growScalar tag style text)
    | some .flowSequenceStart =>
      collection skip do return .sequence tag (← growFlowItems fuel true [])
    | some .flowMappingStart =>
      collection skip do return .mapping tag (← growFlowEntries fuel true [])
    | some token =>
      if token == .blockEntry && place == .blockPair then
        collection (pure ()) do return .sequence tag (← growLooseItems fuel [])
      else if token == .blockSequenceStart && place != .flow then
        collection skip do return .sequence tag (← growBlockItems fuel [])
      else if token == .blockMappingStart && place != .flow then
        collection skip do return .mapping tag (← growBlockEntries fuel [])
      else if anchor.isSome || tag.isSome then
        withAnchor anchor do
          count 1
          return .scalar tag .plain ""
      else breakOff

/-- A node in a block, or an absent one if one of some tokens comes first. -/
def growUnless : Nat → (ends : List Token) → Place → Grow Node
  | 0, _, _ => breakOff
  | fuel + 1, ends, place => do
    match (← peek) with
    | none => return .cut
    | some token => if ends.contains token then growAbsent else growNode fuel place

def growBlockItems : Nat → List Node → Grow (List Node)
  | 0, done => return done ++ [← breakOff]
  | fuel + 1, done => do
    match (← peek) with
    | some .blockEntry => do
      skip
      let item ← growUnless fuel [.blockEntry, .blockEnd] .block
      growBlockItems fuel (done ++ [item])
    | some .blockEnd => do
      skip
      return done
    | _ => return done ++ [← breakOff]

/-- The items of a sequence that is not indented, from the next on. -/
def growLooseItems : Nat → List Node → Grow (List Node)
  | 0, done => return done ++ [← breakOff]
  | fuel + 1, done => do
    match (← peek) with
    | some .blockEntry => do
      skip
      let item ← growUnless fuel [.blockEntry, .key, .value, .blockEnd] .block
      growLooseItems fuel (done ++ [item])
    | some _ => return done
    | none => return done ++ [.cut]

def growBlockEntries : Nat → List (Node × Node) → Grow (List (Node × Node))
  | 0, done => return done ++ [(← breakOff, .cut)]
  | fuel + 1, done => do
    match (← peek) with
    | some .key => do
      skip
      let key ← growUnless fuel [.key, .value, .blockEnd] .blockPair
      let value ← match (← peek) with
        | some .value => do
          skip
          growUnless fuel [.key, .value, .blockEnd] .blockPair
        | some _ => growAbsent
        | none => pure .cut
      growBlockEntries fuel (done ++ [(key, value)])
    | some .blockEnd => do
      skip
      return done
    | _ => return done ++ [(← breakOff, .cut)]

/-- The items of a sequence in flow from the next on. A key makes a mapping of one entry. -/
def growFlowItems : Nat → (first : Bool) → List Node → Grow (List Node)
  | 0, _, done => return done ++ [← breakOff]
  | fuel + 1, first, done => do
    match (← peek) with
    | none => return done ++ [.cut]
    | some .flowSequenceEnd => do
      skip
      return done
    | some token => do
      if !first then
        if token == .flowEntry then skip
        else return done ++ [← breakOff]
      match (← peek) with
      | none => return done ++ [.cut]
      | some .flowSequenceEnd => do
        skip
        return done
      | some .key => do
        skip
        count 2
        let entry ← growPair fuel
        growFlowItems fuel false (done ++ [.mapping none entry])
      | some _ => do
        let item ← growNode fuel .flow
        growFlowItems fuel false (done ++ [item])

/-- The one entry that a key makes in a sequence. A token that stands in the place of the key is
passed over. -/
def growPair : Nat → Grow (List (Node × Node))
  | 0 => return [(← breakOff, .cut)]
  | fuel + 1 => do
    let key ← match (← peek) with
      | none => pure .cut
      | some token =>
        if [Token.value, .flowEntry, .flowSequenceEnd].contains token then do
          skip
          growAbsent
        else growNode fuel .flow
    let value ← match (← peek) with
      | none => pure .cut
      | some .value => do
        skip
        growUnless fuel [.flowEntry, .flowSequenceEnd] .flow
      | some _ => growAbsent
    match (← peek) with
    | none => return [(key, value), (.cut, .cut)]
    | some _ => return [(key, value)]

def growFlowEntries : Nat → (first : Bool) → List (Node × Node) → Grow (List (Node × Node))
  | 0, _, done => return done ++ [(← breakOff, .cut)]
  | fuel + 1, first, done => do
    match (← peek) with
    | none => return done ++ [(.cut, .cut)]
    | some .flowMappingEnd => do
      skip
      return done
    | some token => do
      if !first then
        if token == .flowEntry then skip
        else return done ++ [(← breakOff, .cut)]
      match (← peek) with
      | none => return done ++ [(.cut, .cut)]
      | some .flowMappingEnd => do
        skip
        return done
      | some .key => do
        skip
        let key ← growUnless fuel [.value, .flowEntry, .flowMappingEnd] .flow
        let value ← match (← peek) with
          | none => pure .cut
          | some .value => do
            skip
            growUnless fuel [.flowEntry, .flowMappingEnd] .flow
          | some _ => growAbsent
        growFlowEntries fuel false (done ++ [(key, value)])
      | some _ => do
        let key ← growNode fuel .flow
        let value ← match (← peek) with
          | none => pure .cut
          | some _ => growAbsent
        growFlowEntries fuel false (done ++ [(key, value)])

end

structure Document where
  root : Node
  anchored : List Anchored
  size : Nat
  /-- Whether the text is well formed and holds no other document. -/
  sound : Bool

namespace Document

def standardHandles : List (String × String) := [("!", "!"), ("!!", "tag:yaml.org,2002:")]

/-- Read the directives before a document, in at most `fuel` steps, and tell whether there are any.
There is one version at most, 1.1 or 1.2, and one prefix for each handle. -/
def readDirectives : Nat → (versioned : Bool) → (handles : List (String × String)) →
    Grow (Option Bool)
  | 0, _, _ => return none
  | fuel + 1, versioned, handles => do
    match (← peek) with
    | some (.version major minor) =>
      if versioned || major != 1 || !(minor == 1 || minor == 2) then return none
      else do
        skip
        readDirectives fuel true handles
    | some (.tagDirective handle lead) =>
      if handles.any (·.1 == handle) then return none
      else do
        skip
        readDirectives fuel versioned (handles ++ [(handle, lead)])
    | some _ => do
      modify fun g => { g with handles := handles ++ standardHandles }
      return some (versioned || !handles.isEmpty)
    | none => return none

def growDocument (fuel : Nat) : Grow Node := do
  match (← peek) with
  | some (.version ..) | some (.tagDirective ..) | some .documentStart | some .documentEnd
  | some .streamEnd => growAbsent
  | _ => growNode fuel .block

/-- The root of the first document. One that has directives has to start with a mark. -/
def growRoot (fuel : Nat) : Grow Node := do
  match (← readDirectives fuel false []) with
  | none => breakOff
  | some directed =>
    match (← peek) with
    | some .documentStart => do
      skip
      growDocument fuel
    | none => return .cut
    | some token =>
      if directed then breakOff
      else if token == .streamEnd then return .nothing
      else growNode fuel .block

def atEnd (tokens : List Token) : Bool :=
  tokens.dropWhile (· == .documentEnd) == [.streamEnd]

def ofText (text : String) : Document :=
  let tokens := Token.ofText text
  let (root, g) := (growRoot (4 * tokens.length + 4)).run ⟨tokens, false, [], 0, [], 0, []⟩
  ⟨root, g.anchored, g.size, !g.broken && atEnd g.tokens⟩

/-- The node of a slot: of those that share it, the one that started last. -/
def node? (d : Document) (slot : Nat) : Option Node :=
  ((d.anchored.filter (·.slot == slot)).foldl
    (fun last a => match last with
      | some b => if b.order < a.order then some a else last
      | none => some a)
    (none : Option Anchored)).map (·.node)

end Document

end Inquiry.Yaml
