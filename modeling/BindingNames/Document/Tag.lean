import BindingNames.Text.Code

/-!
Tags of the nodes of a document. A tag says what kind of value a node stands for. The known kinds
have names that begin alike, any other name is kept as it is. Text without quotes gets its tag
from how it looks, unless the document states one.
-/

namespace BindingNames.Document

inductive Tag where
  | text
  | absent
  | truth
  | whole
  | broken
  | merge
  | default
  | moment
  | bytes
  | list
  | map
  | set
  | orderedMap
  | pairs
  | other (name : Text)
  deriving DecidableEq, Repr, Inhabited

namespace Tag

def common : Text := "tag:yaml.org,2002:"

def shortNames : List (Text × Tag) :=
  [("str", .text), ("null", .absent), ("bool", .truth), ("int", .whole), ("float", .broken),
   ("merge", .merge), ("value", .default), ("timestamp", .moment), ("binary", .bytes),
   ("seq", .list), ("map", .map), ("set", .set), ("omap", .orderedMap), ("pairs", .pairs)]

def ofName (name : Text) : Tag :=
  ((shortNames.find? (common ++ ·.1 == name)).map (·.2)).getD (.other name)

def name : Tag → Text
  | .other s => s
  | t => common ++ ((shortNames.find? (·.2 == t)).map (·.1)).getD []

end Tag

end BindingNames.Document
