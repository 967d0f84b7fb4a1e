import UniversalQuery.Yaml.Token

set_option autoImplicit false

/-! The tree of a YAML text. Aliases stand for the nodes of their anchors. -/

namespace UniversalQuery.Yaml

/-- A node. A scalar knows whether it is plain, since only plain ones can be empty values. -/
inductive Node where
  | scalar (text : String) (plain : Bool)
  | sequence (items : List Node)
  | mapping (members : List (Node × Node))
deriving Inhabited

/-- The tokens still to be read, and the nodes that have anchors, the last first. -/
structure Remaining where
  tokens : List Token
  anchored : List (String × Node)

namespace Remaining

def rest (remaining : Remaining) : Remaining :=
  { remaining with tokens := remaining.tokens.tail }

def first? (remaining : Remaining) : Option Token :=
  remaining.tokens.head?

def isAt (remaining : Remaining) (tokens : List Token) : Bool :=
  tokens.any (remaining.first? == some ·)

def anchor (remaining : Remaining) (name : Option String) (node : Node) : Remaining :=
  match name with
  | none => remaining
  | some name => { remaining with anchored := (name, node) :: remaining.anchored }

/-- Reads the anchor and the tag of a node, in either order. The second part says whether there is
one of the two. -/
def readProperties (remaining : Remaining) : Option String × Bool × Remaining :=
  match remaining.tokens with
  | .anchor name :: .tag :: tokens => (some name, true, { remaining with tokens })
  | .tag :: .anchor name :: tokens => (some name, true, { remaining with tokens })
  | .anchor name :: tokens => (some name, true, { remaining with tokens })
  | .tag :: tokens => (none, true, { remaining with tokens })
  | _ => (none, false, remaining)

end Remaining

namespace Node

def empty : Node := .scalar "" true

mutual

/-- Reads a node. In a block mapping the items of a list may stand at the column of the key. -/
def read (block sameColumn : Bool) : Nat → Remaining → Option (Node × Remaining)
  | 0, _ => none
  | budget + 1, remaining =>
    match remaining.first? with
    | some (.alias name) => (remaining.anchored.lookup name).map (·, remaining.rest)
    | _ => do
      let (name, marked, remaining) := remaining.readProperties
      let (node, remaining) ←
        if sameColumn && remaining.isAt [.blockEntry] then
          readItemsAtColumn budget remaining
        else match remaining.first? with
          | some (.scalar text plain) => some (.scalar text plain, remaining.rest)
          | some .flowSequenceStart => readFlowItems true budget remaining.rest
          | some .flowMappingStart => readFlowMembers true budget remaining.rest
          | some .blockSequenceStart =>
            if block then readBlockItems budget remaining.rest else none
          | some .blockMappingStart =>
            if block then readBlockMembers budget remaining.rest else none
          | _ => if marked then some (empty, remaining) else none
      some (node, remaining.anchor name node)

/-- Reads a node, or none at all where one of the given tokens follows. -/
def readUnless (ends : List Token) (block sameColumn : Bool) :
    Nat → Remaining → Option (Node × Remaining)
  | 0, _ => none
  | budget + 1, remaining =>
    if remaining.isAt ends then some (empty, remaining)
    else read block sameColumn budget remaining

/-- Reads the value after a key, or none at all where there is no colon. -/
def readValue (ends : List Token) (block : Bool) :
    Nat → Remaining → Option (Node × Remaining)
  | 0, _ => none
  | budget + 1, remaining =>
    if remaining.isAt [.value] then readUnless ends block block budget remaining.rest
    else some (empty, remaining)

def readBlockItems : Nat → Remaining → Option (Node × Remaining)
  | 0, _ => none
  | budget + 1, remaining =>
    match remaining.first? with
    | some .blockEntry => do
      let (item, remaining) ←
        readUnless [.blockEntry, .blockEnd] true false budget remaining.rest
      let (others, remaining) ← readBlockItems budget remaining
      match others with
      | .sequence items => some (.sequence (item :: items), remaining)
      | _ => none
    | some .blockEnd => some (.sequence [], remaining.rest)
    | _ => none

def readItemsAtColumn : Nat → Remaining → Option (Node × Remaining)
  | 0, _ => none
  | budget + 1, remaining =>
    match remaining.first? with
    | some .blockEntry => do
      let (item, remaining) ←
        readUnless [.blockEntry, .key, .value, .blockEnd] true false budget remaining.rest
      let (others, remaining) ← readItemsAtColumn budget remaining
      match others with
      | .sequence items => some (.sequence (item :: items), remaining)
      | _ => none
    | _ => some (.sequence [], remaining)

def readBlockMembers : Nat → Remaining → Option (Node × Remaining)
  | 0, _ => none
  | budget + 1, remaining =>
    match remaining.first? with
    | some .key => do
      let ends := [.key, .value, .blockEnd]
      let (key, remaining) ← readUnless ends true true budget remaining.rest
      let (value, remaining) ← readValue ends true budget remaining
      let (others, remaining) ← readBlockMembers budget remaining
      match others with
      | .mapping members => some (.mapping ((key, value) :: members), remaining)
      | _ => none
    | some .blockEnd => some (.mapping [], remaining.rest)
    | _ => none

/-- Reads the items of a list in brackets and the closing bracket. A comma may stand before it. An
item may be a mapping of one member. -/
def readFlowItems (isFirst : Bool) : Nat → Remaining → Option (Node × Remaining)
  | 0, _ => none
  | budget + 1, remaining =>
    if remaining.isAt [.flowSequenceEnd] then some (.sequence [], remaining.rest)
    else if !isFirst && !remaining.isAt [.flowEntry] then none
    else
      let remaining := if isFirst then remaining else remaining.rest
      if remaining.isAt [.flowSequenceEnd] then some (.sequence [], remaining.rest)
      else do
        let (item, remaining) ←
          if remaining.isAt [.key] then readFlowPair budget remaining.rest
          else read false false budget remaining
        let (others, remaining) ← readFlowItems false budget remaining
        match others with
        | .sequence items => some (.sequence (item :: items), remaining)
        | _ => none

/-- Reads the one member of a mapping that is an item of a list in brackets. -/
def readFlowPair : Nat → Remaining → Option (Node × Remaining)
  | 0, _ => none
  | budget + 1, remaining => do
    let (key, remaining) ←
      readUnless [.value, .flowEntry, .flowSequenceEnd] false false budget remaining
    let (value, remaining) ← readValue [.flowEntry, .flowSequenceEnd] false budget remaining
    some (.mapping [(key, value)], remaining)

/-- Reads the members of a mapping in brackets and the closing bracket. A comma may stand before
it. A member may have no value. -/
def readFlowMembers (isFirst : Bool) : Nat → Remaining → Option (Node × Remaining)
  | 0, _ => none
  | budget + 1, remaining =>
    if remaining.isAt [.flowMappingEnd] then some (.mapping [], remaining.rest)
    else if !isFirst && !remaining.isAt [.flowEntry] then none
    else
      let remaining := if isFirst then remaining else remaining.rest
      if remaining.isAt [.flowMappingEnd] then some (.mapping [], remaining.rest)
      else do
        let ((key, value), remaining) ←
          if remaining.isAt [.key] then do
            let (key, remaining) ←
              readUnless [.value, .flowEntry, .flowMappingEnd] false false budget remaining.rest
            let (value, remaining) ← readValue [.flowEntry, .flowMappingEnd] false budget remaining
            some ((key, value), remaining)
          else do
            let (key, remaining) ← read false false budget remaining
            some ((key, empty), remaining)
        let (others, remaining) ← readFlowMembers false budget remaining
        match others with
        | .mapping members => some (.mapping ((key, value) :: members), remaining)
        | _ => none

end

/-- Drops the directives in front of a document. The second part says whether there were any. -/
def skipDirectives : List Token → List Token × Bool
  | .directive :: rest => ((skipDirectives rest).1, true)
  | tokens => (tokens, false)

def isDocumentEdge (token : Token) : Bool :=
  token == .documentStart || token == .documentEnd || token == .directive

def ofTokens? (tokens : List Token) : Option Node := do
  let (tokens, directed) := skipDirectives tokens
  let (started, tokens) := match tokens with
    | .documentStart :: rest => (true, rest)
    | tokens => (false, tokens)
  if (directed ∧ !started) ∨ (!started ∧ tokens = []) then none
  else
    let (node, remaining) ←
      if tokens = [] ∨ tokens.head?.any isDocumentEdge then some (empty, ⟨tokens, []⟩)
      else read true false (4 * tokens.length + 4) ⟨tokens, []⟩
    if remaining.tokens.all (· == .documentEnd) then some node else none

def ofText? (text : String) : Option Node := do
  let tokens ← Token.ofText? text
  ofTokens? tokens

end Node

end UniversalQuery.Yaml
