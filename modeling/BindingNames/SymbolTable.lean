import BindingNames.Symbol
import BindingNames.Text.Encoding

/-!
The symbol table: one entry for each symbol, sorted by the name in the library. An entry holds
that name, the prototype of the declaration and the name of the binding. The file form is an
array of objects in JSON with two spaces of indentation and a line feed at the end.
-/

namespace BindingNames

structure TableEntry where
  mangle : Text
  prototype : Text
  binding : Text
  deriving DecidableEq, Repr, Inhabited

namespace SymbolTable

/-- The name of a binding: a method carries its owner, in the form of a pointer on demand. -/
def bindingName (pointer : Bool) (s : ResolvedSymbol) : Text :=
  match s.scope with
  | .functions => s.finalName
  | .methods owner =>
    if pointer then "(*" ++ owner ++ ")." ++ s.finalName else owner ++ "." ++ s.finalName

def entry (pointer : Bool) (s : ResolvedSymbol) : TableEntry :=
  ⟨s.symbolName, s.decl.prototype, bindingName pointer s⟩

/-- The order of the table: by name in the library, code point by code point. -/
def precedes (a b : TableEntry) : Bool :=
  decide (a.mangle ≤ b.mangle)

/-- The entries of the symbols in order. Entries with the same name keep the order of the
symbols. -/
def build (pointer : Bool) (symbols : List ResolvedSymbol) : List TableEntry :=
  (symbols.map (entry pointer)).mergeSort precedes

theorem build_perm (pointer : Bool) (symbols : List ResolvedSymbol) :
    (build pointer symbols).Perm (symbols.map (entry pointer)) :=
  List.mergeSort_perm _ _

def jsonChar (c : Code) : Text :=
  if c == '"' || c == '\\' then ['\\', c]
  else if c == '\n' then ['\\', 'n']
  else if c == '\r' then ['\\', 'r']
  else if c == '\t' then ['\\', 't']
  else if c.toNat == 8 then ['\\', 'b']
  else if c.toNat == 12 then ['\\', 'f']
  else if c.toNat < 32 then '\\' :: 'u' :: Text.hexDigits 4 c.toNat
  else [c]

def jsonText (s : Text) : Text :=
  "\"" ++ s.flatMap jsonChar ++ "\""

def fieldPieces (key value : Text) : List Text :=
  ["    " ++ jsonText key ++ ": ", jsonText value]

def entryPieces (e : TableEntry) : List Text :=
  let separator : List Text := [",\n"]
  Text.ofString "  \x7b\n" :: fieldPieces "mangle" e.mangle ++ separator ++
    fieldPieces "c++" e.prototype ++ separator ++ fieldPieces "go" e.binding ++
    [Text.ofString "\n  \x7d"]

/-- The text of a file with the entries, in the pieces that are written one by one. -/
def pieces (entries : List TableEntry) : List Text :=
  if entries.isEmpty then ["[]\n"]
  else
    let between := List.intercalate [Text.ofString ",\n"] (entries.map entryPieces)
    Text.ofString "[\n" :: between ++ [Text.ofString "\n]\n"]

def render (entries : List TableEntry) : Text :=
  List.flatten (pieces entries)

/-- What gets written of the entries, and the first piece that holds half a character and so
cannot be written. -/
def written (entries : List TableEntry) : Text × Option Text :=
  let whole := (pieces entries).takeWhile Text.Encoding.utf8.covers
  (List.flatten whole, (pieces entries)[whole.length]?)

end SymbolTable

end BindingNames
