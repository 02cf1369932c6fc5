import BindingNames.Header.Analyzer
import BindingNames.Identifier
import BindingNames.Library.Exports

/-!
Extraction of declarations from trees of cursors. What a tree mentions is listed in the order of
the text: types, functions and the public member functions of records, as far as they stand in a
wanted file, at the top or in nested blocks. Of the mentions of one type the first one stays, and
its fields are known once one mention defines them. Of functions with one symbol name and one
type only the first stays.
-/

namespace BindingNames

/-- What a tree mentions. A function comes with the spelling of its type. -/
inductive Mention where
  | type (name : Text) (defined : Bool) (location : Option Location)
  | function (decl : FunctionDecl) (typeName : Text)
  | staticMember (record name : Text)
  deriving DecidableEq, Repr, Inhabited

/-- What extraction depends on besides the trees. -/
structure Extractor where
  platform : Text
  cplusplus : Bool
  deriving DecidableEq, Repr, Inhabited

namespace Extractor

def lengthEndings : List Text := ["length", "len", "size", "count"]

/-- Whether an argument gives the length of the one before it. -/
def isLength (a : Argument) : Bool :=
  lengthEndings.any (Text.endsWith (Text.lower a.name)) && a.isCount

/-- The name of the argument that gives the length of a pointer. -/
def sizeHint (a : Argument) (following : Option Argument) : Option Text :=
  if a.isPointer then (following.filter isLength).map (·.name) else none

def parameters : List Argument → List Parameter
  | [] => []
  | a :: rest =>
    ⟨a.typeName, nonempty? (some a.name), sizeHint a rest.head?⟩ :: parameters rest

/-- The name in the library, which only C++ needs. -/
def mangledName (x : Extractor) (i : CursorInfo) : Option Text :=
  if x.cplusplus then
    (nonempty? (some i.mangledName)).map (Library.normalSymbol x.platform)
  else none

def functionOf (x : Extractor) (i : CursorInfo) (memberOf : Option Text)
    (memberKind : Option MemberKind) : FunctionDecl :=
  { rawName := i.spelling
    parameters := parameters i.arguments
    returnType := some i.resultType
    candidateOwner := none
    location := i.place.map CursorPlace.toLocation
    mangledName := x.mangledName i
    memberOf
    memberKind }

def memberMention (x : Extractor) (record : Text) (i : CursorInfo) : Option Mention :=
  match i.kind.memberKind? with
  | none => none
  | some kind =>
    if !i.isPublic then none
    else if kind = .method ∧ i.isStatic then some (.staticMember record i.spelling)
    else some (.function (x.functionOf i (some record) (some kind)) i.typeName)

def typeMention (i : CursorInfo) (defined : Bool) : Mention :=
  .type i.spelling defined (i.place.map CursorPlace.toLocation)

def isWanted (wanted : Text → Bool) (i : CursorInfo) : Bool :=
  i.place.any fun p => wanted p.file

/-- What a record mentions: itself, if it has a name, and its members, if it is defined. -/
def recordMentions (x : Extractor) (i : CursorInfo) (children : List Cursor) : List Mention :=
  if !Identifier.accepts i.spelling then []
  else
    typeMention i i.isDefinition ::
      if i.isDefinition then children.filterMap fun c => x.memberMention i.spelling c.info else []

mutual

def mentions (x : Extractor) (wanted : Text → Bool) : Cursor → List Mention
  | .node i children =>
    if !isWanted wanted i then []
    else
      match i.kind with
      | .block => mentionsOfAll x wanted children
      | .record => x.recordMentions i children
      | .typedef => (i.record.map (typeMention i)).toList
      | .function => [.function (x.functionOf i none none) i.typeName]
      | _ => []

def mentionsOfAll (x : Extractor) (wanted : Text → Bool) : List Cursor → List Mention
  | [] => []
  | c :: rest => mentions x wanted c ++ mentionsOfAll x wanted rest

end

end Extractor

namespace Mention

def addType (name : Text) (defined : Bool) (location : Option Location) :
    List TypeDecl → List TypeDecl
  | [] => [⟨name, defined, location⟩]
  | t :: rest =>
    if t.name == name then { t with fieldsKnown := t.fieldsKnown || defined } :: rest
    else t :: addType name defined location rest

def addTypeOf (types : List TypeDecl) : Mention → List TypeDecl
  | .type name defined location => addType name defined location types
  | _ => types

/-- The types that are mentioned, in the order of their first mentions. -/
def types (ms : List Mention) : List TypeDecl :=
  ms.foldl addTypeOf []

/-- What tells functions apart. -/
abbrev FunctionKey := Text × Text

/-- The functions that are mentioned, without those whose key came before. -/
def functionsAfter (seen : List FunctionKey) : List Mention → List FunctionDecl
  | [] => []
  | .function decl typeName :: rest =>
    let key := (decl.symbolName, typeName)
    if seen.contains key then functionsAfter seen rest
    else decl :: functionsAfter (key :: seen) rest
  | _ :: rest => functionsAfter seen rest

def functions (ms : List Mention) : List FunctionDecl :=
  functionsAfter [] ms

def logger : Text := "symmap.analyzer.declaration_extractor"

/-- The entries about member functions that are left out. -/
def skipped (ms : List Mention) : List Entry :=
  ms.filterMap fun m =>
    match m with
    | .staticMember record name =>
      some ⟨logger, Level.debug, "Skipping static member " ++ record ++ "::" ++ name⟩
    | _ => none

end Mention

structure Declarations where
  types : List TypeDecl
  functions : List FunctionDecl
  deriving DecidableEq, Repr, Inhabited

def Declarations.ofMentions (ms : List Mention) : Declarations :=
  ⟨Mention.types ms, Mention.functions ms⟩

namespace Extractor

/-- Whether a file is one of some headers, by its name or its absolute path. -/
def isHeader (a : Analyzer) (headers : List Text) (file : Text) : Bool :=
  headers.contains file || headers.contains (a.absolutePath file)

def mentionsOfFiles (parser : Parser) (x : Extractor) (wanted : Text → Bool) (a : Analyzer) :
    List Text → Analyzer × Logged (List Mention)
  | [] => (a, pure [])
  | h :: rest =>
    let (b, unit) := a.unitOf parser h false
    match unit.result with
    | .error e => (b, ⟨unit.log, .error e⟩)
    | .ok u =>
      let ms := x.mentionsOfAll wanted u.content.cursors
      let (c, others) := mentionsOfFiles parser x wanted b rest
      (c, do
        Logged.write (unit.log ++ Mention.skipped ms)
        return ms ++ (← others))

/-- The declarations of some headers, which are all wanted. -/
def extract (parser : Parser) (x : Extractor) (a : Analyzer) (headers : List Text) :
    Analyzer × Logged Declarations :=
  let wanted := isHeader a (headers.map a.absolutePath)
  let (b, ms) := mentionsOfFiles parser x wanted a headers
  (b, do
    let ds := Declarations.ofMentions (← ms)
    Logged.tell Mention.logger Level.info
      ("Extracted " ++ Text.ofNat ds.types.length ++ " types and " ++
        Text.ofNat ds.functions.length ++ " functions from " ++ Text.ofNat headers.length ++
        " headers")
    return ds)

def extractText (parser : Parser) (x : Extractor) (a : Analyzer) (source file : Text) :
    Analyzer × Logged Declarations :=
  let wanted := isHeader a [file]
  let (b, unit) := a.unitOfText parser source file
  (b, do
    let ms := x.mentionsOfAll wanted (← unit).content.cursors
    Logged.write (Mention.skipped ms)
    return Declarations.ofMentions ms)

end Extractor

end BindingNames
