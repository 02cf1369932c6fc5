import BindingNames.Rule
import BindingNames.Text.Encoding

/-!
Everything that can go wrong, by cause. A failure keeps the values that its message shows, and
the message is derived from it in one place. The causes fall into those of the naming rules, of
the configuration, of the libraries, of the parsed units and of the files and documents that
are read.
-/

namespace BindingNames

/-- What is wrong with the pattern of a rule, or with what the rule adds to it. -/
inductive PatternFault where
  | empty
  | notIdentifier
  | noTarget
  | badNewName (name : Option Text)
  deriving DecidableEq, Repr

def PatternFault.message : PatternFault → Text
  | .empty => "pattern is empty"
  | .notIdentifier => "pattern must be a C identifier or identifier prefix"
  | .noTarget => "keep_method requires a target type"
  | .badNewName name =>
    let shown :=
      match name with
      | some s => Text.quoted s
      | none => Scalar.null.shown
    "rename target " ++ shown ++ " is not an identifier"

inductive Unfit where
  | notMapping
  | missing
  | notText
  | brokenText
  | unknownDirective
  | unreadableTruth
  | notTruth
  deriving DecidableEq, Repr

def Unfit.name : Unfit → Text
  | .notMapping => "model_type"
  | .missing => "missing"
  | .notText => "string_type"
  | .brokenText => "string_unicode"
  | .unknownDirective => "enum"
  | .unreadableTruth => "bool_parsing"
  | .notTruth => "bool_type"

/-- An unfit field of a rule entry; without a field it is the entry itself that is unfit. -/
structure EntryFault where
  field : Option Text
  reason : Unfit
  deriving DecidableEq, Repr

inductive KindFault where
  | notIterable (v : Value)
  | noOperation (v : Value) (operation : Text)
  | notPath (v : Value)
  | notMatchable (v : Value)
  | notBeginning (v : Value)
  | notChoice (v : Value)
  | notName (v : Value)
  | bytesBeginning
  | notSequence (index : Nat)
  | notPair (index length : Nat)
  | notKey (v : Value)
  | notLabel (v : Value)
  | notPosition (v : Value)
  | notLevel
  | unordered (relation : Text) (v w : Value)
  deriving Repr

def KindFault.message : KindFault → Text
  | .notIterable v => "'" ++ v.kindName ++ "' object is not iterable"
  | .noOperation v op => "'" ++ v.kindName ++ "' object has no attribute '" ++ op ++ "'"
  | .notPath (.scalar (.bytes _)) =>
    "argument should be a str object or an os.PathLike object returning str, not <class 'bytes'>"
  | .notPath v => "expected str, bytes or os.PathLike object, not " ++ v.shortKindName
  | .notMatchable (.scalar (.bytes _)) => "cannot use a string pattern on a bytes-like object"
  | .notMatchable v => "expected string or bytes-like object, got '" ++ v.kindName ++ "'"
  | .notBeginning v => "startswith first arg must be str or a tuple of str, not " ++ v.kindName
  | .notChoice v => "tuple for startswith must only contain str, not " ++ v.kindName
  | .notName v => "attribute name must be string, not '" ++ v.kindName ++ "'"
  | .bytesBeginning => "startswith first arg must be bytes or a tuple of bytes, not str"
  | .notSequence i =>
    "cannot convert dictionary update sequence element #" ++ Text.ofNat i ++ " to a sequence"
  | .notPair i n =>
    "dictionary update sequence element #" ++ Text.ofNat i ++ " has length " ++ Text.ofNat n ++
      "; 2 is required"
  | .notKey v => "unhashable type: '" ++ v.kindName ++ "'"
  | .notLabel v =>
    "Passing a " ++ v.kindName ++ " as an indexer is not supported. Use a list instead."
  | .notPosition v => "list indices must be integers or slices, not " ++ v.kindName
  | .notLevel => "Level not an integer or a valid string"
  | .unordered relation v w =>
    "'" ++ relation ++ "' not supported between instances of '" ++ v.kindName ++ "' and '" ++
      w.kindName ++ "'"

inductive FileFault where
  | missing (path : Text)
  | present (path : Text)
  | notDirectory (path : Text)
  | isDirectory (path : Text)
  | undecodable
  | tooLong (path : Text)
  | zeroByte
  | unwritable (encoding : Text.Encoding) (text : Text)
  deriving DecidableEq, Repr

def FileFault.message : FileFault → Text
  | .missing p => "[Errno 2] No such file or directory: " ++ Text.quoted p
  | .present p => "[Errno 17] File exists: " ++ Text.quoted p
  | .notDirectory p => "[Errno 20] Not a directory: " ++ Text.quoted p
  | .isDirectory p => "[Errno 21] Is a directory: " ++ Text.quoted p
  | .undecodable => "'utf-8' codec can't decode byte"
  | .tooLong p => "[Errno 36] File name too long: " ++ Text.quoted p
  | .zeroByte => "embedded null byte"
  | .unwritable encoding text => encoding.complaint text

inductive TableFault where
  | noColumns
  | tooManyFields (expected line saw : Nat)
  | unclosedQuote (row : Nat)
  | noSheet (name : Text)
  | noSheetAt (index : Scalar) (count : Nat)
  | ambiguous
  | notWorkbook
  | brokenWorkbook
  deriving DecidableEq, Repr

def TableFault.message : TableFault → Text
  | .noColumns => "No columns to parse from file"
  | .tooManyFields expected line saw =>
    "Error tokenizing data. C error: Expected " ++ Text.ofNat expected ++ " fields in line " ++
      Text.ofNat line ++ ", saw " ++ Text.ofNat saw
  | .unclosedQuote row =>
    "Error tokenizing data. C error: EOF inside string starting at row " ++ Text.ofNat row
  | .noSheet name => "Worksheet named '" ++ name ++ "' not found"
  | .noSheetAt index count =>
    "Worksheet index " ++ index.shown ++ " is invalid, " ++ Text.ofNat count ++ " worksheets found"
  | .ambiguous =>
    "The truth value of a Series is ambiguous. " ++
      "Use a.empty, a.bool(), a.item(), a.any() or a.all()."
  | .notWorkbook => "File is not a zip file"
  | .brokenWorkbook => "reference to invalid character number"

/-- The stage at which a document turns out to be malformed. The last stage makes values from
texts; it has a few faults of its own apart from those of numbers. -/
inductive DocumentStage where
  | reading
  | scanning
  | parsing
  | composing
  | constructing
  | converting
  | unknownWord
  | noDigits
  | noMoment
  | notText
  | tooLarge
  | tooDeep
  deriving DecidableEq, Repr

/-- A malformed document, with the first line of what is wrong and how many characters precede
the place where it shows. -/
structure DocumentFault where
  stage : DocumentStage
  heading : Text
  index : Nat
  deriving DecidableEq, Repr

inductive WordsFault where
  | noClosingQuote
  | noEscapedCharacter
  deriving DecidableEq, Repr

def WordsFault.message : WordsFault → Text
  | .noClosingQuote => "No closing quotation"
  | .noEscapedCharacter => "No escaped character"

inductive Failure where
  | unknownStyle (style : Value)
  | badPattern (pattern : Scalar) (fault : PatternFault)
  | duplicateSymbol (name : Text) (first second : FunctionDecl)
  | badEntry (number : Nat) (entry : Value) (faults : List EntryFault)
  | noRulesPath
  | rulesMissing (path : Text)
  | rulesShape (path : Text)
  | rulesKind (kind : Scalar)
  | configurationShape (path : Text)
  | expansion (command cause : Text)
  | noLibraries (libs : Value)
  | noLister
  | lister (command : List Text) (complaint : Text)
  | emptyCommand
  | noParser (reason : Text)
  | unitUnread (path reason : Text)
  | sourceUnread (reason : Text)
  | illegalCell (text : Text)
  | unknownLevel (name : Text)
  | badFormat (format : Text)
  | longNumber
  | kind (fault : KindFault)
  | file (fault : FileFault)
  | table (fault : TableFault)
  | document (fault : DocumentFault)
  | words (fault : WordsFault)
  deriving Repr

def placeText : Option Location → Text
  | some l => l.toText
  | none => "<unknown>"

namespace Failure

def entryHead (number : Nat) (entry : Value) : Text :=
  "Invalid rule entry #" ++ Text.ofNat number ++ " " ++ entry.shown

def message : Failure → Text
  | .unknownStyle style => "Unknown name style: " ++ style.plain
  | .badPattern pattern fault =>
    "Invalid rule pattern " ++ pattern.shown ++ ": " ++ fault.message
  | .duplicateSymbol name first second =>
    "Duplicate symbol '" ++ name ++ "': declared at " ++ placeText first.location ++ " and " ++
      placeText second.location
  | .badEntry number entry faults =>
    entryHead number entry ++ ": " ++ Text.ofNat faults.length ++ " validation error" ++
      (if faults.length == 1 then "" else "s") ++ " for RuleEntry"
  | .noRulesPath => "No rules source path specified"
  | .rulesMissing path => "Rules file not found: " ++ path
  | .rulesShape path => "Unexpected rules format in " ++ path
  | .rulesKind k => "Unsupported rules source type: " ++ k.plain
  | .configurationShape path => "Configuration root must be a mapping: " ++ path
  | .expansion command cause => "Failed to expand '$(" ++ command ++ ")': " ++ cause
  | .noLibraries libs => "No library files found for libs: " ++ libs.plain
  | .noLister => "nm not found; install binutils or LLVM"
  | .lister command complaint => Text.joinWith " " command ++ ": " ++ complaint
  | .emptyCommand => "list index out of range"
  | .noParser reason =>
    "Failed to load libclang: " ++ reason ++
      ". Please install libclang with 'pip install libclang' or install LLVM."
  | .unitUnread path reason => "Failed to parse " ++ path ++ ": " ++ reason
  | .sourceUnread reason => "Failed to parse source string: " ++ reason
  | .illegalCell text => text ++ " cannot be used in worksheets."
  | .unknownLevel name => "Unknown level: " ++ Text.quoted name
  | .badFormat format => "Invalid format '" ++ format ++ "' for '%' style"
  | .longNumber => Text.Numeral.tooLongNumber
  | .kind fault => fault.message
  | .file fault => fault.message
  | .table fault => fault.message
  | .document fault => fault.heading
  | .words fault => fault.message

/-- Whether the failure is one that symbol mapping foresees; the rest are accidents of the
input that only the outermost layer knows how to report. -/
def isForeseen : Failure → Bool
  | .badPattern _ _ | .duplicateSymbol _ _ _ | .badEntry _ _ _ | .noRulesPath
  | .rulesMissing _ | .rulesShape _ | .rulesKind _ | .expansion _ _ | .noLibraries _
  | .noLister | .lister _ _ | .noParser _ | .unitUnread _ _ | .sourceUnread _ => true
  | _ => false

end Failure

end BindingNames
