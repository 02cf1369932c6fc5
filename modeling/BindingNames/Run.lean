import BindingNames.Header.Extraction
import BindingNames.Library.Reader
import BindingNames.Mapper
import BindingNames.Report
import BindingNames.SymbolTable

/-!
A whole run: the declarations of the headers are extracted and mapped, the symbols that the
libraries do not export are left out, and the symbol table and the report are written. The table
comes before the report, so it is there even when the report fails, and the part of it that can be
written is there even when the rest cannot.
-/

namespace BindingNames

/-- What a run needs from outside: the parser, the places of its library, the commands, and the
time to put on a report. -/
structure Tools where
  parser : Parser
  places : ParserPlaces
  surroundings : Library.Surroundings
  stamp : Text

/-- The state of a run: the mapper with its statistics, the disk, and how many entries of the log
were noted on the disk. -/
structure RunState where
  mapper : Mapper
  disk : Disk
  noted : Nat
  deriving Repr, Inhabited

namespace Mapper

def extract (t : Tools) (d : Disk) (c : Configuration) : Logged Declarations := do
  let includes ← Logged.lift c.includeDirectories
  let _ ← t.places.choose c.parserPath
  let a ← Analyzer.start d.cwdPath (includes.map fun p => .text p.toText) c.compilerArgs
    c.cplusplus.holds
  let headers ← c.headerFiles d
  let x : Extractor := ⟨t.surroundings.platform, c.cplusplus.holds⟩
  (x.extract t.parser a (headers.map Path.toText)).2

def exported (t : Tools) (d : Disk) (c : Configuration) : Logged (Option (List Text)) := do
  if !c.libs.holds then return none
  else
    let base ← Logged.lift (Configuration.pathOf c.baseDir)
    return some (← Library.read t.surroundings d c.libs base)

/-- Writes the symbol table, or as much of it as can be written. -/
def writeTable (d : Disk) (symbols : List ResolvedSymbol) (output : Value) :
    Disk × Logged Unit :=
  let (text, broken) := SymbolTable.written (SymbolTable.build true symbols)
  let placed : Except Failure Disk := do
    (d.placeFile (← Configuration.pathOf output) (.text text)).mapError Failure.file
  match placed, broken with
  | .error e, _ => (d, Logged.fail e)
  | .ok d, some piece => (d, Logged.fail (.file (.unwritable .utf8 piece)))
  | .ok d, none =>
    (d, Logged.tell "symmap.io.symbol_table_writer" Level.info
      ("Symbol table written to " ++ output.plain ++ " (" ++ Text.ofNat symbols.length ++
        " symbols)"))

def writeReport (stamp : Text) (d : Disk) (symbols : List ResolvedSymbol)
    (warnings : List Warning) (report : Value) : Logged Disk := do
  if !report.holds then return d
  else
    let p ← Logged.lift (Configuration.pathOf report)
    let w ← Logged.lift (Report.checked stamp symbols warnings)
    let d ← Logged.lift ((d.placeFile p (.workbook w)).mapError Failure.file)
    Logged.tell Report.logger Level.info ("Report written to " ++ p.toText)
    return d

def ruler : Text := Text.repeated 50 '='

def statisticsEntries (m : Mapper) : List Entry :=
  let s := m.statistics
  let notExported := "  Not exported by libs: " ++ Text.ofNat s.notExported
  let lines :=
    [ruler, "Resolution Statistics:", "  Types: " ++ Text.ofNat s.types,
     "  Functions: " ++ Text.ofNat s.functions, "  Ignored: " ++ Text.ofNat s.ignored,
     "  Methods: " ++ Text.ofNat s.methods,
     "  Methods emitted as functions: " ++ Text.ofNat s.methodsAsFunctions,
     "  Suffixed names: " ++ Text.ofNat s.suffixed, "  Warnings: " ++ Text.ofNat s.warnings] ++
      (if m.config.libs.holds then [notExported] else []) ++ [ruler]
  lines.map fun line => ⟨logger, Level.info, line⟩

def selected (m : Mapper) (symbols : List ResolvedSymbol) :
    Option (List Text) → Mapper × List Entry × List ResolvedSymbol
  | some names => m.filterExported symbols names
  | none => (m, [], symbols)

/-- Another value in place of one that does not hold. -/
def orElse (chosen : Option Text) (setting : Value) : Value :=
  match nonempty? chosen with
  | some s => .text s
  | none => setting

def writeOutputs (t : Tools) (m : Mapper) (d : Disk) (x : Mapped) (symbols : List ResolvedSymbol)
    (output report : Option Text) : Disk × Logged Unit :=
  let (d, table) := writeTable d symbols (orElse output m.config.output)
  match table.result with
  | .error e => (d, ⟨table.log, .error e⟩)
  | .ok () =>
    let written := writeReport t.stamp d symbols x.warnings (orElse report m.config.report)
    match written.result with
    | .error e => (d, ⟨table.log ++ written.log, .error e⟩)
    | .ok d => (d, ⟨table.log ++ written.log ++ m.statisticsEntries, .ok ()⟩)

def stopped (m : Mapper) (note : Disk → List Entry → Disk) (d : Disk) (log : List Entry)
    (e : Failure) : RunState × Logged Unit :=
  (⟨m, note d log, log.length⟩, ⟨log, .error e⟩)

/-- A run. The outputs go where the settings say unless told otherwise. What is logged before them
is noted on the disk first, for they may take the place of the log. -/
def run (t : Tools) (m : Mapper) (note : Disk → List Entry → Disk) (d : Disk)
    (output report : Option Text) : RunState × Logged Unit :=
  let declared := extract t d m.config
  match declared.result with
  | .error e => stopped m note d declared.log e
  | .ok ds =>
    let (m, mapped) := m.resolve ds.types ds.functions
    match mapped.result with
    | .error e => stopped m note d (declared.log ++ mapped.log) e
    | .ok x =>
      let names := exported t d m.config
      let log := declared.log ++ mapped.log ++ names.log
      match names.result with
      | .error e => stopped m note d log e
      | .ok names =>
        let (m, entries, symbols) := m.selected x.symbols names
        let log := log ++ entries
        let (d, written) := writeOutputs t m (note d log) x symbols output report
        (⟨m, d, log.length⟩, ⟨log ++ written.log, written.result⟩)

end Mapper

end BindingNames
