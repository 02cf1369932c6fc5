import BindingNames.Configuration.Places
import BindingNames.Disambiguation
import BindingNames.Progress
import BindingNames.Resolver
import BindingNames.Rules.Source

/-!
Mapping of the symbols of a package. A mapper has the rules of a configuration, from its source
of rules, its entries and its symbol map, in this order. It leaves out the ignored symbols,
resolves the others and makes their names unique. Its statistics are about the last run; a run
that fails keeps what was set before the failure.
-/

namespace BindingNames

structure Statistics where
  types : Nat
  functions : Nat
  ignored : Nat
  methods : Nat
  methodsAsFunctions : Nat
  suffixed : Nat
  warnings : Nat
  notExported : Nat
  deriving DecidableEq, Repr, Inhabited

def Statistics.zero : Statistics := ⟨0, 0, 0, 0, 0, 0, 0, 0⟩

structure Mapped where
  symbols : List ResolvedSymbol
  warnings : List Warning
  deriving DecidableEq, Repr, Inhabited

structure Mapper where
  config : Configuration
  table : RuleTable
  rules : RuleSet
  statistics : Statistics
  deriving Repr, Inhabited

namespace Mapper

def logger : Text := "symmap.main"

def loadRules (d : Disk) (c : Configuration) : Logged RuleSet := do
  let source ← Logged.lift c.placedSource
  let fromSource ← if source.isEmpty then pure RuleSet.empty else RuleSource.load d source
  let fromEntries ←
    if c.rules.holds then Logged.lift (RuleSet.ofEntries c.rules) else pure RuleSet.empty
  let fromMap ←
    if c.symMap.isEmpty then pure RuleSet.empty else RuleSet.ofSymbolMap (.map c.symMap)
  return (fromSource.append fromEntries).append fromMap

def start (d : Disk) (c : Configuration) : Logged Mapper := do
  let rules ← loadRules d c
  let table ← Logged.lift (RuleTable.ofDrafts rules.drafts)
  Logged.write [table.builtEntry]
  Logged.tell logger Level.info
    (Text.ofNat table.size ++ " naming rules loaded, " ++ Text.ofNat rules.ignored.length ++
      " symbols ignored")
  return ⟨c, table, rules, .zero⟩

def resolver (m : Mapper) (types : List TypeDecl) : Except Failure Resolver := do
  let style ← NameStyle.ofSetting m.config.nameStyle
  let trimming ← Trimming.ofValue m.config.trimPrefixes
  return ⟨types, m.table, trimming, style, m.config.receiverCheck.holds⟩

def resolveEach (r : Resolver) (p : Progress) : List FunctionDecl → Logged (List Resolution)
  | [] => return []
  | d :: rest => do
    let x ← Logged.lift (r.resolve? d)
    let (p, entries) := p.update none
    Logged.write (x.log ++ entries)
    return x :: (← resolveEach r p rest)

/-- The declarations whose symbols are not ignored. -/
def kept (m : Mapper) (ds : List FunctionDecl) : List FunctionDecl :=
  ds.filter fun d => !m.rules.ignores d.symbolName

/-- The statistics that are known before declarations are resolved. -/
def counted (m : Mapper) (types : List TypeDecl) (ds : List FunctionDecl) : Mapper :=
  let targets := (m.kept ds).length
  { m with
    statistics :=
      { m.statistics with
        types := types.length, functions := targets, ignored := ds.length - targets } }

def concluded (m : Mapper) (x : Mapped) : Mapper :=
  { m with
    statistics :=
      { m.statistics with
        methods := x.symbols.countP (·.emittedAsMethod)
        methodsAsFunctions := x.symbols.countP fun s => s.role.isMethod && s.emitAsFunction
        suffixed := x.symbols.countP (·.isSuffixed)
        warnings := x.warnings.length } }

def mappedOf (xs : List Resolution) : Mapped :=
  ⟨disambiguate (xs.map (·.symbol)), xs.filterMap (·.warning)⟩

def resolve (m : Mapper) (types : List TypeDecl) (ds : List FunctionDecl) :
    Mapper × Logged Mapped :=
  match m.resolver types, Resolver.checkDuplicates ds with
  | .error e, _ => (m, Logged.fail e)
  | .ok _, .error e => (m, Logged.fail e)
  | .ok r, .ok _ =>
    let targets := m.kept ds
    let m := m.counted types ds
    let p := Progress.start logger targets.length Progress.usualInterval
    let xs := resolveEach r p targets
    match xs.result with
    | .error e => (m, ⟨xs.log, .error e⟩)
    | .ok resolutions =>
      let x := mappedOf resolutions
      (m.concluded x,
        ⟨xs.log ++ p.complete Progress.usualEnd :: renamedEntries x.symbols, .ok x⟩)

def isExported (exported : List Text) (s : ResolvedSymbol) : Bool :=
  exported.contains s.symbolName

/-- Keeps the symbols that the libraries export. Names stay as they are. -/
def filterExported (m : Mapper) (symbols : List ResolvedSymbol) (exported : List Text) :
    Mapper × List Entry × List ResolvedSymbol :=
  let kept := symbols.filter (isExported exported)
  let dropped := symbols.filter fun s => !isExported exported s
  let entries := dropped.map fun s =>
    ⟨logger, Level.debug, s.symbolName ++ " is not exported by libs, skipping"⟩
  ({ m with
      statistics := { m.statistics with notExported := symbols.length - kept.length } },
    entries, kept)

theorem kept_append (m : Mapper) (ds es : List FunctionDecl) :
    m.kept (ds ++ es) = m.kept ds ++ m.kept es := by
  simp [kept]

theorem length_kept_le (m : Mapper) (ds : List FunctionDecl) : (m.kept ds).length ≤ ds.length :=
  List.length_filter_le _ _

end Mapper

end BindingNames
