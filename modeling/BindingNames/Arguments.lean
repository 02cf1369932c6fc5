import BindingNames.Text.Digit
import BindingNames.Text.Piece

/-!
Arguments of the command line. An option has a long name, which may be shortened as long as only
one option begins so, and perhaps a letter. A value stands behind its option as the next word, or
in the same word, after an equals sign if the option is long. Letters without a value may share a
word. Words that belong to no option are refused, and so are all words behind two hyphens. Two
hyphens in the word of an option are no value: the option is left without one.
-/

namespace BindingNames

inductive CommandOption where
  | help
  | config
  | output
  | report
  | verbose
  | dumpConfig
  deriving DecidableEq, Repr, Inhabited

namespace CommandOption

def takesValue : CommandOption → Bool
  | .help => false
  | .verbose => false
  | _ => true

def spellings : List (Text × CommandOption) :=
  [("-h", .help), ("--help", .help), ("-c", .config), ("--config", .config), ("-o", .output),
   ("--output", .output), ("--report", .report), ("-v", .verbose), ("--verbose", .verbose),
   ("--dump-config", .dumpConfig)]

def ofSpelling? (s : Text) : Option CommandOption :=
  spellings.lookup s

end CommandOption

/-- The arguments of a run. The configuration is absent if its option is left without a value. -/
structure Arguments where
  config : Option Text
  output : Option Text
  report : Option Text
  verbose : Bool
  dumpConfig : Option Text
  deriving DecidableEq, Repr, Inhabited

/-- A word of the command line: an option, an option that is not known, two hyphens, or a word that
may be a value. Text that stands behind an option in its word is attached to it; behind a single
letter it may hold more letters. -/
inductive CommandWord where
  | option (o : CommandOption) (shares : Bool) (attached : Option Text)
  | unknown
  | separator
  | value (s : Text)
  deriving DecidableEq, Repr, Inhabited

/-- What the arguments come to: a run, or an exit with a code. -/
inductive ArgumentResult where
  | run (x : Arguments)
  | exit (code : Nat)
  deriving DecidableEq, Repr, Inhabited

namespace Arguments

def usual : Arguments := ⟨some "llcppg.cfg", none, none, false, none⟩

/-- The code of an exit because of arguments that cannot be used. -/
def misuse : ArgumentResult := .exit 2

namespace Words

def isLong (s : Text) : Bool :=
  Text.beginsWith s "--"

def splitEquals (s : Text) : Text × Option Text :=
  let front := s.takeWhile (· != Code.char '=')
  match s.drop front.length with
  | [] => (s, none)
  | _ :: back => (front, some back)

def candidates (s : Text) : List CommandWord :=
  if isLong s then
    let (front, value) := splitEquals s
    (CommandOption.spellings.filter fun p => Text.beginsWith p.1 front).map fun p =>
      .option p.2 false value
  else
    let letter := s.take 2
    (CommandOption.spellings.filter fun p => p.1 == letter).map fun p =>
      .option p.2 true (some (s.drop 2))

def isNegativeNumber (s : Text) : Bool :=
  match s with
  | .char '-' :: cs =>
    let cs := if cs.getLast? == some (.char '\n') then cs.dropLast else cs
    let front := cs.takeWhile Text.isDecimal
    match cs.drop front.length with
    | [] => !front.isEmpty
    | .char '.' :: back => !back.isEmpty && back.all Text.isDecimal
    | _ => false
  | _ => false

/-- The kind of a word before two hyphens, unless it could be several options. -/
def classify (s : Text) : Option CommandWord :=
  match s with
  | .char '-' :: _ :: _ =>
    match CommandOption.ofSpelling? s with
    | some o => some (.option o false none)
    | none =>
      let (front, value) := splitEquals s
      match value.bind fun _ => CommandOption.ofSpelling? front with
      | some o => some (.option o (!isLong s) value)
      | none =>
        match candidates s with
        | [w] => some w
        | _ :: _ :: _ => none
        | [] =>
          if isNegativeNumber s || s.contains ' ' then some (.value s) else some .unknown
  | _ => some (.value s)

def classifyAll : List Text → Option (List CommandWord)
  | [] => some []
  | s :: rest =>
    if s == "--" then some (.separator :: rest.map .value)
    else do
      let w ← classify s
      return w :: (← classifyAll rest)

end Words

def withValue (x : Arguments) (o : CommandOption) (s : Option Text) : Arguments :=
  match o with
  | .config => { x with config := s }
  | .output => { x with output := s }
  | .report => { x with report := s }
  | .dumpConfig => { x with dumpConfig := s }
  | _ => x

/-- The options of one word: those without a value that come first, and the last one with what
stands behind it in the word. -/
structure Cluster where
  flags : List CommandOption
  last : CommandOption
  attached : Option Text
  deriving DecidableEq, Repr, Inhabited

namespace Cluster

def withFlag (o : CommandOption) (x : Cluster) : Cluster :=
  { x with flags := o :: x.flags }

/-- The options of a word whose first one has the given text behind it, if they can be told. Only
behind a letter without a value may there be more letters. -/
def unfold (o : CommandOption) (shares : Bool) : Text → Option Cluster
  | [] => if o.takesValue then some ⟨[], o, some ""⟩ else none
  | c :: cs =>
    if o.takesValue then some ⟨[], o, some (c :: cs)⟩
    else if !shares then none
    else
      match CommandOption.ofSpelling? ['-', c] with
      | none => none
      | some next =>
        match cs with
        | [] => some ⟨[o], next, none⟩
        | c :: rest => (unfold next true (c :: rest)).map (withFlag o)

def ofWord (o : CommandOption) (shares : Bool) : Option Text → Option Cluster
  | none => some ⟨[], o, none⟩
  | some s => unfold o shares s

end Cluster

def attachedValue (s : Text) : Option Text :=
  if s == "--" then none else some s

def withFlag (x : Arguments) : CommandOption → Except ArgumentResult Arguments
  | .verbose => return { x with verbose := true }
  | .help => throw (.exit 0)
  | _ => return x

def withFlags (x : Arguments) : List CommandOption → Except ArgumentResult Arguments
  | [] => return x
  | o :: os => do withFlags (← x.withFlag o) os

/-- Goes through the words. `refused` says whether some word belongs to no option. -/
def consume (x : Arguments) (refused : Bool) : List CommandWord → ArgumentResult
  | [] => if refused then misuse else .run x
  | .value _ :: rest => consume x true rest
  | .separator :: rest => consume x true rest
  | .unknown :: rest => consume x true rest
  | .option o shares attached :: rest =>
    match Cluster.ofWord o shares attached with
    | none => misuse
    | some ⟨flags, last, some s⟩ =>
      match x.withFlags flags with
      | .error e => e
      | .ok x => consume (x.withValue last (attachedValue s)) refused rest
    | some ⟨flags, last, none⟩ =>
      if !last.takesValue then
        match x.withFlags (flags ++ [last]) with
        | .error e => e
        | .ok x => consume x refused rest
      else
        match rest with
        | .value s :: rest =>
          match x.withFlags flags with
          | .error e => e
          | .ok x => consume (x.withValue last (some s)) refused rest
        | _ => misuse

def parse (words : List Text) : ArgumentResult :=
  match Words.classifyAll words with
  | some ws => consume usual false ws
  | none => misuse

end Arguments

end BindingNames
