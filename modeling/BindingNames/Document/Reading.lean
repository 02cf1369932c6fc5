import BindingNames.Document.Merging
import BindingNames.SetOrder
import BindingNames.Value

/-!
The value of a document. Keys have to be scalars; of equal keys the last one decides and the
first one gives the place. Text without a document reads as no value. If a node comes again,
everything but plain scalars gets the number of its node as a label, and each tuple of an ordered
mapping or a list of pairs gets a number of its own.

The nodes are made into parts of the value level by level: the members of a list or mapping are
looked at after everything beside it. So of several faults the one counts that is nearest to the
root, and merge marks are followed in that order.
-/

namespace BindingNames.Document

def isAllowed (c : Code) : Bool :=
  let n := c.toNat
  n == 9 || n == 10 || n == 13 || (0x20 ≤ n && n ≤ 0x7E) || n == 0x85 ||
    (0xA0 ≤ n && n ≤ 0xD7FF) || (0xE000 ≤ n && n ≤ 0xFFFD) || 0x10000 ≤ n

def codeDigits (n : Nat) : Text :=
  Text.hexDigits (max 4 (Nat.toDigits 16 n).length) n

def badCharacter (c : Code) (index : Nat) : DocumentFault :=
  ⟨.reading, "unacceptable character #x" ++ codeDigits c.toNat ++
    ": special characters are not allowed", index⟩

/-- The lengths of the parts in which a text is taken in: the first one and all others. -/
def firstPart : Nat := 8192
def furtherPart : Nat := 4096

def partStart (index : Nat) : Nat :=
  if index < firstPart then 0
  else firstPart + (index - firstPart) / furtherPart * furtherPart

/-- A text up to the part with the first character that is not allowed, and the fault there. -/
def checkedText (cs : Text) : Text × Option (Nat × DocumentFault) :=
  match cs.findIdx? (!isAllowed ·) with
  | some i =>
    let edge := partStart i
    (cs.take edge, some (edge, badCharacter (cs.getD i endMark) i))
  | none => (cs, none)

def expectedFault (what : Text) (n : Node) : DocumentFault :=
  textFault .constructing ("expected a " ++ what ++ " node, but found " ++ n.called)

/-- What is made of a node: a scalar, or a collection of other nodes by number. The items of an
ordered mapping are tuples with labels. -/
inductive Part where
  | scalar (s : Scalar)
  | list (items : List Nat)
  | tuples (items : List (Nat × Nat × Nat))
  | map (fields : List (Scalar × Nat))
  | set (members : List Scalar)
  deriving Repr, Inhabited

namespace Part

/-- The collection with a tag before its members are known. -/
def empty? : Tag → Option Part
  | .list => some (.list [])
  | .map => some (.map [])
  | .set => some (.set [])
  | .orderedMap => some (.tuples [])
  | .pairs => some (.tuples [])
  | _ => none

def shape : Part → Shape
  | .map _ => .map
  | _ => .list

end Part

/-- The nodes of a document, what is made of them so far, the collections whose members are still
to be made, the last one first, and the next label of a tuple. -/
structure Making where
  nodes : Array Node
  parts : Array (Option Part)
  pending : List Nat
  nextLabel : Nat
  labelled : Bool
  deriving Repr

abbrev Make := StateT Making (Except DocumentFault)

namespace Make

def node (i : Nat) : Make Node :=
  return (← get).nodes.getD i ⟨.text, .scalar []⟩

def setPart (i : Nat) (p : Part) : Make Unit :=
  modify fun x => { x with parts := x.parts.setIfInBounds i (some p) }

/-- The text of a node that is taken for a scalar. That of a mapping is the text behind the mark
for a default value. -/
def scalarText (nodes : Array Node) : Nat → Nat → Except DocumentFault Text
  | 0, _ => throw (textFault .tooDeep "maximum recursion depth exceeded")
  | fuel + 1, i =>
    let n := nodes.getD i ⟨.text, .scalar []⟩
    match n.content with
    | .scalar text => return text
    | .map pairs =>
      match pairs.find? (Merging.tagOf nodes ·.1 == .default) with
      | some (_, v) => scalarText nodes fuel v
      | none => throw (expectedFault "scalar" n)
    | .list _ => throw (expectedFault "scalar" n)

def labelledScalar (label : Option Nat) : Scalar → Scalar
  | .day d _ => .day d label
  | .moment m _ => .moment m label
  | s => s

def scalar (i : Nat) : Make Scalar := do
  let x ← get
  let n ← node i
  if !hasScalars n.tag then throw (unknownTag n.tag)
  else
    let text ← scalarText x.nodes (x.nodes.size + 1) i
    if n.tag == .moment && n.content != .scalar text then
      throw (textFault .notText "expected string or bytes-like object, got 'list'")
    else
      return labelledScalar (if x.labelled then some i else none) (← scalarOf n.tag text)

/-- What is made of a node. A scalar is made at once, and the members of a collection are made
later. -/
def part (i : Nat) : Make Part := do
  match ((← get).parts[i]?).join with
  | some p => return p
  | none =>
    let p ←
      match Part.empty? (← node i).tag with
      | some p => do
        modify fun x => { x with pending := i :: x.pending }
        pure p
      | none => do pure (.scalar (← scalar i))
    setPart i p
    return p

def key (i : Nat) : Make Scalar := do
  match ← part i with
  | .scalar s => return s
  | _ => throw mapFault

def fields : PairNumbers → Make (List (Scalar × Nat))
  | [] => return []
  | (k, v) :: rest => do
    let k ← key k
    let _ ← part v
    return (k, v) :: (← fields rest)

def newLabel : Make Nat :=
  modifyGet fun x => (x.nextLabel, { x with nextLabel := x.nextLabel + 1 })

/-- The tuple of a member of an ordered mapping, which has to be a mapping of one pair. -/
def tuple (heading : Text) (i : Nat) : Make (Nat × Nat × Nat) := do
  match (← node i).content with
  | .map [(k, v)] =>
    let _ ← part k
    let _ ← part v
    return (← newLabel, k, v)
  | _ => throw (textFault .constructing heading)

/-- What is said of a member that is no pair. -/
def tuplesHeading (t : Tag) : Text :=
  if t = .orderedMap then "while constructing an ordered map" else "while constructing pairs"

def mapFields (i : Nat) : Make (List (Scalar × Nat)) := do
  let n ← node i
  match n.content with
  | .map _ =>
    let ((), nodes) ← (Merging.flatten i).run (← get).nodes
    modify fun x => { x with nodes := nodes }
    let all ← fields ((← (Merging.pairs i).run nodes).1)
    return Value.ofPairs all
  | _ => throw (expectedFault "mapping" n)

def members (i : Nat) : Make Unit := do
  let n ← node i
  match n.tag, n.content with
  | .list, .list items =>
    items.forM fun m => do let _ ← part m
    setPart i (.list items)
  | .list, _ => throw (expectedFault "sequence" n)
  | .set, _ => do setPart i (.set (inSetOrder ((← mapFields i).map (·.1))))
  | .map, _ => do setPart i (.map (← mapFields i))
  | t, .list items => do setPart i (.tuples (← items.mapM (tuple (tuplesHeading t))))
  | t, _ => throw (textFault .constructing (tuplesHeading t))

/-- Makes the members of all collections that are pending, level by level. -/
def levels : Nat → Make Unit
  | 0 => return ()
  | fuel + 1 => do
    let level := (← get).pending.reverse
    if level.isEmpty then return ()
    else
      modify fun x => { x with pending := [] }
      level.forM members
      levels fuel

end Make

/-- The values that are known by number, because nothing in them is inside another value. -/
abbrev Known := Array (Option Value)

/-- A value, and the labels in it of values around it. -/
abbrev Open := Value × List Nat

namespace Part

def labelledValue (labelled : Bool) (label : Nat) (v : Value) : Value :=
  if labelled then .shared label v else v

/-- A part as the value it is, with its members made into values by `value`. -/
def toValue (labelled : Bool) (value : Nat → StateM Known Open) : Part → StateM Known Open
  | .scalar s => return (.scalar s, [])
  | .set members => return (.set members, [])
  | .list items => do
    let vs ← items.mapM value
    return (.list (vs.map (·.1)), vs.flatMap (·.2))
  | .map fields => do
    let vs ← fields.mapM fun (k, i) => do
      let v ← value i
      pure ((k, v.1), v.2)
    return (.map (vs.map (·.1)), vs.flatMap (·.2))
  | .tuples items => do
    let vs ← items.mapM fun (label, k, i) => do
      let k ← value k
      let v ← value i
      pure (labelledValue labelled label (.tuple [k.1, v.1]), k.2 ++ v.2)
    return (.list (vs.map (·.1)), vs.flatMap (·.2))

def isScalar : Part → Bool
  | .scalar _ => true
  | _ => false

end Part

/-- The value of a node, inside the values of some others. As many steps are needed as there are
nodes, since none is inside itself. -/
def valueIn (parts : Array (Option Part)) (labelled : Bool) :
    Nat → List Nat → Nat → StateM Known Open
  | 0, _, _ => return (.null, [])
  | fuel + 1, inside, i => do
    let part := ((parts[i]?).join).getD (.scalar .null)
    if inside.contains i then return (.again i part.shape, [i])
    else
      match ((← get)[i]?).join with
      | some v => return (v, [])
      | none =>
        let (v, around) ← part.toValue labelled (valueIn parts labelled fuel (i :: inside))
        let v := if part.isScalar then v else Part.labelledValue labelled i v
        let around := around.filter (· != i)
        if around.isEmpty then modify (·.setIfInBounds i (some v))
        return (v, around)

def Graph.value (g : Graph) : Except DocumentFault Value := do
  match g.root with
  | none => return .null
  | some root =>
    let count := g.nodes.size
    let start : Making := ⟨g.nodes, Array.replicate count none, [], count, g.hasAlias⟩
    let made : Make Unit := do
      let _ ← Make.part root
      Make.levels (count + 1)
    let ((), x) ← made.run start
    return ((valueIn x.parts g.hasAlias (count + 1) [] root).run (Array.replicate count none)).1.1

def read (s : Text) : Except DocumentFault Value := do
  let (cs, edge) := checkedText s
  (← Graph.ofText cs edge).value

end BindingNames.Document
