import BindingNames.Document.Plain
import BindingNames.Document.Token

/-!
The nodes of a document, as its tokens spell them. A node has a tag and is a scalar with its text,
a list, or a mapping in which any node may be a key. Nodes refer to each other by number: a name
that an anchor gives stands for the same node wherever an alias has it, even inside that node.
There is at most one document in a text, and its nodes are only so deep inside each other.
-/

namespace BindingNames.Document

/-- What a node is, with the numbers of its members. -/
inductive Content where
  | scalar (text : Text)
  | list (items : List Nat)
  | map (pairs : List (Nat × Nat))
  deriving DecidableEq, Repr, Inhabited

structure Node where
  tag : Tag
  content : Content
  deriving DecidableEq, Repr, Inhabited

/-- A document: its nodes by number, its root if it is not empty, and whether some node comes
again. -/
structure Graph where
  nodes : Array Node
  root : Option Nat
  hasAlias : Bool
  deriving Repr, Inhabited

namespace Node

def called (n : Node) : Text :=
  match n.content with
  | .scalar _ => "scalar"
  | .list _ => "sequence"
  | .map _ => "mapping"

/-- The tokens that are left, the fault behind them, the nodes so far, those that have a name, what
handles of tags stand for, how deep the current node is, and whether a node has come again. -/
structure Reader where
  tokens : List Token
  fault : DocumentFault
  nodes : Array Node
  anchors : List (Text × Nat)
  handles : List (Text × Text)
  depth : Nat
  hasAlias : Bool
  deriving Repr

abbrev Parse := StateT Reader (Except DocumentFault)

/-- The handles that need no directive. -/
def usualHandles : List (Text × Text) :=
  [("!", "!"), ("!!", Tag.common)]

namespace Parse

def peek : Parse Token := fun r =>
  match r.tokens with
  | [] => throw r.fault
  | t :: _ => return (t, r)

def take : Parse Unit := fun r =>
  return ((), { r with tokens := r.tokens.drop 1 })

def fail (heading : Text) : Parse α := fun _ =>
  throw ⟨.parsing, heading, 0⟩

def failComposing (heading : Text) : Parse α := fun _ =>
  throw ⟨.composing, heading, 0⟩

def add (n : Node) : Parse Nat := fun r =>
  return (r.nodes.size, { r with nodes := r.nodes.push n })

def setContent (i : Nat) (n : Node) : Parse Unit :=
  modify fun r => { r with nodes := r.nodes.setIfInBounds i n }

def named (name : Text) : Parse Nat := do
  match (← get).anchors.lookup name with
  | some n =>
    modify fun r => { r with hasAlias := true }
    return n
  | none => failComposing ("found undefined alias " ++ Text.quoted name)

/-- The anchor and the tag in front of a node, in either order. -/
def properties : Parse (Option Text × Option TagText) := do
  match ← peek with
  | .anchor name =>
    take
    match ← peek with
    | .tag t => do take; return (some name, some t)
    | _ => return (some name, none)
  | .tag t =>
    take
    match ← peek with
    | .anchor name => do take; return (some name, some t)
    | _ => return (none, some t)
  | _ => return (none, none)

def tagName : Option TagText → Parse (Option Text)
  | none => return none
  | some t => do
    match t.handle with
    | none => return some t.rest
    | some handle =>
      match (← get).handles.lookup handle with
      | some beginning => return some (beginning ++ t.rest)
      | none => fail "while parsing a node"

/-- The mark that stands for a tag and says that there is none. -/
def noTag : Text := "!"

/-- The tag of a scalar. What is not plain is text, unless a mark says to look at it. -/
def scalarTag (text : Text) (plain : Bool) : Option Text → Tag
  | some name => if name == noTag then Plain.kindOfLine text else Tag.ofName name
  | none => if plain then Plain.kind text else .text

def collectionTag (usual : Tag) : Option Text → Tag
  | some name => if name == noTag then usual else Tag.ofName name
  | none => usual

def checkName (name : Option Text) : Parse Unit := do
  match name with
  | some s =>
    if ((← get).anchors.lookup s).isSome then
      failComposing ("found duplicate anchor " ++ Text.quoted s ++ "; first occurrence")
  | none => return ()

def giveName (name : Option Text) (i : Nat) : Parse Unit :=
  match name with
  | some s => modify fun r => { r with anchors := (s, i) :: r.anchors }
  | none => return ()

def bareNode (tag : Option Text) : Parse Nat :=
  add ⟨scalarTag [] true tag, .scalar []⟩

def absent : Parse Nat :=
  bareNode none

def missing (block : Bool) : Parse α :=
  fail (if block then "while parsing a block node" else "while parsing a flow node")

/-- Reads a node unless one of the tokens that cannot begin it comes next. -/
def orAbsent (ends : Token → Bool) (read : Parse Nat) : Parse Nat := do
  if ends (← peek) then absent else read

def among (ts : List Token) (t : Token) : Bool :=
  ts.contains t

def deepest : Nat := 490

/-- Reads the members of a node, one step deeper than the node. -/
def deeper (read : Parse α) : Parse α := do
  let depth := (← get).depth
  if deepest ≤ depth then throw ⟨.tooDeep, "maximum recursion depth exceeded", 0⟩
  modify fun r => { r with depth := depth + 1 }
  let x ← read
  modify fun r => { r with depth := depth }
  return x

/-- A list, whose name stands for it already while its items are read. -/
def listNode (name tag : Option Text) (read : Parse (List Nat)) : Parse Nat := do
  let tag := collectionTag .list tag
  let i ← add ⟨tag, .list []⟩
  giveName name i
  setContent i ⟨tag, .list (← deeper read)⟩
  return i

/-- A mapping, whose name stands for it already while its pairs are read. -/
def mapNode (name tag : Option Text) (read : Parse (List (Nat × Nat))) : Parse Nat := do
  let tag := collectionTag .map tag
  let i ← add ⟨tag, .map []⟩
  giveName name i
  setContent i ⟨tag, .map (← deeper read)⟩
  return i

/-- Whether a document may end or begin with a token. -/
def parts (t : Token) : Bool :=
  t matches .directive _ | .documentStart | .documentEnd | .finish

mutual

/-- A node. A block may only come where one is asked for, and a list of items without an
indentation of its own only behind a key. -/
def node (block bareItems : Bool) : Nat → Parse Nat
  | 0 => missing block
  | fuel + 1 => do
    match ← peek with
    | .alias name => do take; named name
    | _ =>
      let (name, written) ← properties
      let tag ← tagName written
      let t ← peek
      let begins := t matches .scalar _ _ | .flowListStart | .flowMapStart
      let beginsBlock := block && t matches .listStart | .mapStart
      let beginsBare := bareItems && t == .item
      if !begins && !beginsBlock && !beginsBare && name.isNone && tag.isNone then missing block
      checkName name
      let i ←
        if begins || beginsBlock || beginsBare then content name tag fuel else bareNode tag
      giveName name i
      return i

def content (name tag : Option Text) : Nat → Parse Nat
  | 0 => missing true
  | fuel + 1 => do
    match ← peek with
    | .scalar text plain => do
      take
      add ⟨scalarTag text plain tag, .scalar text⟩
    | .flowListStart => do take; listNode name tag (flowItems true fuel)
    | .flowMapStart => do take; mapNode name tag (flowPairs true fuel)
    | .listStart => do take; listNode name tag (items fuel)
    | .mapStart => do take; mapNode name tag (pairs fuel)
    | _ => listNode name tag (bareItems fuel)

def items : Nat → Parse (List Nat)
  | 0 => missing true
  | fuel + 1 => do
    match ← peek with
    | .item =>
      take
      let n ← orAbsent (among [.item, .blockEnd]) (node true false fuel)
      return n :: (← items fuel)
    | .blockEnd => do take; return []
    | _ => fail "while parsing a block collection"

def bareItems : Nat → Parse (List Nat)
  | 0 => missing true
  | fuel + 1 => do
    match ← peek with
    | .item =>
      take
      let n ← orAbsent (among [.item, .key, .value, .blockEnd]) (node true false fuel)
      return n :: (← bareItems fuel)
    | _ => return []

def pairs : Nat → Parse (List (Nat × Nat))
  | 0 => missing true
  | fuel + 1 => do
    match ← peek with
    | .key =>
      take
      let k ← orAbsent (among [.key, .value, .blockEnd]) (node true true fuel)
      let v ← blockValue fuel
      return (k, v) :: (← pairs fuel)
    | .blockEnd => do take; return []
    | _ => fail "while parsing a block mapping"

/-- What a key of a block maps to. -/
def blockValue : Nat → Parse Nat
  | 0 => missing true
  | fuel + 1 => do
    match ← peek with
    | .value => do take; orAbsent (among [.key, .value, .blockEnd]) (node true true fuel)
    | _ => absent

/-- The items in brackets. A key among them begins a mapping of one pair. -/
def flowItems (first : Bool) : Nat → Parse (List Nat)
  | 0 => missing false
  | fuel + 1 => do
    if (← peek) == .flowListEnd then do take; return []
    else
      if !first then
        if (← peek) == .comma then take else fail "while parsing a flow sequence"
      match ← peek with
      | .key =>
        take
        let i ← mapNode none none do
          let k ← orAbsent (among [.value, .comma, .flowListEnd]) (node false false fuel)
          return [(k, ← flowValue [.comma, .flowListEnd] fuel)]
        return i :: (← flowItems false fuel)
      | .flowListEnd => do take; return []
      | _ =>
        let n ← node false false fuel
        return n :: (← flowItems false fuel)

/-- The pairs in braces. An entry without a colon maps to nothing. -/
def flowPairs (first : Bool) : Nat → Parse (List (Nat × Nat))
  | 0 => missing false
  | fuel + 1 => do
    if (← peek) == .flowMapEnd then do take; return []
    else
      if !first then
        if (← peek) == .comma then take else fail "while parsing a flow mapping"
      match ← peek with
      | .key =>
        take
        let k ← orAbsent (among [.value, .comma, .flowMapEnd]) (node false false fuel)
        let v ← flowValue [.comma, .flowMapEnd] fuel
        return (k, v) :: (← flowPairs false fuel)
      | .flowMapEnd => do take; return []
      | _ =>
        let k ← node false false fuel
        return (k, ← absent) :: (← flowPairs false fuel)

/-- What a key in brackets or braces maps to. -/
def flowValue (ends : List Token) : Nat → Parse Nat
  | 0 => missing false
  | fuel + 1 => do
    match ← peek with
    | .value => do take; orAbsent (among ends) (node false false fuel)
    | _ => absent

end

def skipTokens (t : Token) : Nat → Parse Unit
  | 0 => return ()
  | fuel + 1 => do
    if (← peek) == t then
      take
      skipTokens t fuel

/-- The directives in front of a document: at most one version, which has to be 1, and at most
one meaning of each handle. -/
def directives (versioned : Bool) (handles : List (Text × Text)) : Nat → Parse Unit
  | 0 => return ()
  | fuel + 1 => do
    match ← peek with
    | .directive body =>
      take
      match body with
      | .version major =>
        if versioned then fail "found duplicate YAML directive"
        else if major != 1 then
          fail "found incompatible YAML document (version 1.* is required)"
        else directives true handles fuel
      | .handle handle beginning =>
        if (handles.lookup handle).isSome then
          fail ("duplicate tag handle " ++ Text.quoted handle)
        else directives versioned ((handle, beginning) :: handles) fuel
      | .unknown => directives versioned handles fuel
    | _ => modify fun r => { r with handles := handles ++ usualHandles }

/-- The line that begins a document, unless the text ends; says whether there is a document. -/
def documentStart (fuel : Nat) : Parse Bool := do
  skipTokens .documentEnd fuel
  if (← peek) == .finish then return false
  else
    directives false [] fuel
    let t ← peek
    if t == .documentStart then do take; return true
    else
      fail ("expected '<document start>', but found " ++ Text.quoted t.called)

/-- What follows a document; there must not be a second one. -/
def documentEnd (fuel : Nat) : Parse Unit := do
  if ← documentStart fuel then failComposing "expected a single document in the stream"

def root (fuel : Nat) : Parse (Option Nat) := do
  let t ← peek
  if t matches .directive _ | .documentStart | .finish then
    if ← documentStart fuel then
      let i ← orAbsent parts (node true false fuel)
      documentEnd fuel
      return some i
    else return none
  else
    let i ← node true false fuel
    documentEnd fuel
    return some i

end Parse

def noFault : DocumentFault := ⟨.parsing, "", 0⟩

end Node

/-- The document that a text holds, which may have an edge. -/
def Graph.ofText (cs : Text) (edge : Option (Nat × DocumentFault)) :
    Except DocumentFault Graph := do
  let (ts, fault) := tokens cs edge
  let reader : Node.Reader := ⟨ts, fault.getD Node.noFault, #[], [], Node.usualHandles, 0, false⟩
  let (root, r) ← (Node.Parse.root (4 * ts.length + 4)).run reader
  return ⟨r.nodes, root, r.hasAlias⟩

end BindingNames.Document
