import BindingNames.Document.Conversion
import BindingNames.Document.Node

/-!
Merge marks. A pair whose key is a merge mark stands for the pairs of the mappings it points to.
Before a mapping is made into a value it is flattened: such pairs are taken out, and the pairs that
they stand for are put in front of all others, those of the first mapping of a list last. Keys
that are marks for a default value become ordinary text. Flattening changes the nodes, so it shows
wherever a node comes again; a mapping that is being flattened lends what it has at that time.
-/

namespace BindingNames.Document

/-- Pairs of a mapping by the numbers of keys and values. -/
abbrev PairNumbers := List (Nat × Nat)

def mapFault : DocumentFault :=
  textFault .constructing "while constructing a mapping"

namespace Merging

abbrev Step := StateT (Array Node) (Except DocumentFault)

def content (i : Nat) : Step Content :=
  return ((← get)[i]?.map (·.content)).getD (.scalar [])

/-- The pairs of a mapping; any other node has none. -/
def pairs (i : Nat) : Step PairNumbers := do
  match ← content i with
  | .map pairs => return pairs
  | _ => return []

def setPairs (i : Nat) (pairs : PairNumbers) : Step Unit :=
  modify fun nodes => nodes.modify i fun n => { n with content := .map pairs }

def setTag (i : Nat) (tag : Tag) : Step Unit :=
  modify fun nodes => nodes.modify i fun n => { n with tag := tag }

def tagOf (nodes : Array Node) (i : Nat) : Tag :=
  (nodes[i]?.map (·.tag)).getD .text

/-- How many of some pairs come before the next merge mark, if there is one. The marks for a
default value among them become text. -/
def nextMark : PairNumbers → Step (Option Nat)
  | [] => return none
  | (k, _) :: rest => do
    let tag := tagOf (← get) k
    if tag = .merge then return some 0
    else
      if tag = .default then setTag k .text
      return (← nextMark rest).map (· + 1)

/-- Flattens a mapping from an index on, with the pairs that its earlier merge marks stand for. -/
def flattenFrom : Nat → Nat → Nat → PairNumbers → Step Unit
  | 0, _, _, _ => return ()
  | fuel + 1, i, index, merged => do
    let own ← pairs i
    match ← nextMark (own.drop index) with
    | none => setPairs i (merged ++ own)
    | some count =>
      let index := index + count
      setPairs i (own.eraseIdx index)
      let flattened (m : Nat) : Step PairNumbers := do
        match ← content m with
        | .map _ =>
          flattenFrom fuel m 0 []
          pairs m
        | _ => throw mapFault
      let target := (own.getD index (0, 0)).2
      let here ←
        match ← content target with
        | .list items => do pure (← items.mapM flattened).reverse.flatten
        | _ => flattened target
      flattenFrom fuel i index (merged ++ here)

def isMark (nodes : Array Node) (p : Nat × Nat) : Bool :=
  tagOf nodes p.1 == .merge

def markCount (nodes : Array Node) (n : Node) : Nat :=
  match n.content with
  | .map pairs => pairs.countP (isMark nodes)
  | _ => 0

/-- Flattens a mapping. Every step takes out one of the pairs with a merge mark. -/
def flatten (i : Nat) : Step Unit := do
  let nodes ← get
  flattenFrom ((nodes.toList.map (markCount nodes)).foldl (· + ·) 0 + 1) i 0 []

end Merging

end BindingNames.Document
