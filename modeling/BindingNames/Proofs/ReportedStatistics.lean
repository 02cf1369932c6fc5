import BindingNames.Proofs.CellText
import BindingNames.Proofs.MapperHistory
import BindingNames.Proofs.Outcomes
import BindingNames.Run

/-!
A report against the statistics of the run that it is about. The mapper counts methods and methods
that are emitted as functions, and what is left of its functions are functions. A report asks each
symbol for the way in which it is emitted and counts the answers. Both come to the same, so a
summary can be told from the statistics, with the warnings behind them, and beside it stands one
row for each symbol.
-/

namespace BindingNames

open Text

def Sheet.values (s : Sheet) : List (List Scalar) :=
  s.rows.map fun cells => cells.map (·.value)

namespace Report

/-- A text as a cell keeps it. -/
def kept (s : Text) : Scalar :=
  (Cell.ofText s).value

/-- A row tells a symbol: its names, its role and owner, the way in which it is emitted and its
place. The final name is in bold where it differs from the base name, and nothing else is. -/
structure Describes (s : ResolvedSymbol) (cells : List Cell) : Prop where
  values : cells.map (·.value) =
    [kept s.rawName, kept s.finalName, kept s.baseName, kept s.role.kindName,
      kept (s.role.owner?.getD ""), kept (Emission.ofSymbol s).name,
      kept ((s.decl.location.map Location.toText).getD "")]
  bold : cells.map (·.bold) =
    [false, decide (s.finalName ≠ s.baseName), false, false, false, false, false]

/-- A sheet has a heading, and below it one row for each symbol, in order. -/
structure Lists (sheet : Sheet) (symbols : List ResolvedSymbol) : Prop where
  heading : sheet.values.head? = some (headings.map kept)
  rows : List.Forall₂ Describes symbols sheet.rows.tail

/-- The values of a summary as the statistics tell them, and the warnings behind them. -/
def summaryOf (stamp : Text) (s : Statistics) (warnings : List Warning) : List (List Scalar) :=
  [[kept "名前解決サマリー", .null, .null], [kept ("生成日時: " ++ stamp), .null, .null],
    [.null, .null, .null], [kept "出力形態", kept "件数", .null],
    [kept "method", .int s.methods, .null],
    [kept "function", .int (s.functions - s.methods - s.methodsAsFunctions : Nat), .null],
    [kept "method as function", .int s.methodsAsFunctions, .null],
    [kept "接尾辞付与", .int s.suffixed, .null], [kept "合計", .int s.functions, .null],
    [.null, .null, .null],
    [kept ("警告 (" ++ Text.ofNat s.warnings ++ ")"), .null, .null]] ++
    warnings.map fun w => [kept w.kind, kept w.rawName, kept w.message]

/-! ### Counts -/

theorem ofSymbol_eq_method_iff {s : ResolvedSymbol} :
    Emission.ofSymbol s = .method ↔ s.scope ≠ .functions := by
  obtain ⟨decl, base, final, role, emit⟩ := s
  cases role <;> cases emit <;>
    simp [Emission.ofSymbol, ResolvedSymbol.emittedAsMethod, ResolvedSymbol.scope, Role.isMethod]

theorem ofSymbol_eq_function_iff {s : ResolvedSymbol} :
    Emission.ofSymbol s = .function ↔ s.role = .function := by
  obtain ⟨decl, base, final, role, emit⟩ := s
  cases role <;> cases emit <;>
    simp [Emission.ofSymbol, ResolvedSymbol.emittedAsMethod, Role.isMethod]

/-- Every symbol is emitted in one of the three ways. -/
theorem count_add_count_add_count (symbols : List ResolvedSymbol) :
    count symbols .method + count symbols .function + count symbols .methodAsFunction =
      symbols.length := by
  induction symbols with
  | nil => rfl
  | cons s rest ih =>
      simp only [count, List.countP_cons, List.length_cons] at ih ⊢
      cases Emission.ofSymbol s <;> simp <;> omega

variable {after before : Statistics} {types : List TypeDecl} {ds : List FunctionDecl} {x : Mapped}

theorem count_method (h : after.Records before types ds x) :
    count x.symbols .method = after.methods := by
  rw [h.methods]
  refine List.countP_congr fun s _ => ?_
  rw [beq_iff_eq, ofSymbol_eq_method_iff, decide_eq_true_iff]

theorem count_function (h : after.Records before types ds x) :
    count x.symbols .function = after.functions - after.methods - after.methodsAsFunctions := by
  have hcount : count x.symbols .function = x.symbols.countP fun s => s.role = .function := by
    refine List.countP_congr fun s _ => ?_
    rw [beq_iff_eq, ofSymbol_eq_function_iff, decide_eq_true_iff]
  have hkinds := h.kinds
  omega

theorem count_methodAsFunction (h : after.Records before types ds x) :
    count x.symbols .methodAsFunction = after.methodsAsFunctions := by
  have htotal := count_add_count_add_count x.symbols
  have hmethod := count_method h
  have hfunction := count_function h
  have hkinds := h.kinds
  have hfunctions := h.functions
  omega

theorem suffixed_eq (h : after.Records before types ds x) :
    suffixed x.symbols = after.suffixed := by
  rw [h.suffixed]
  refine List.countP_congr fun s _ => ?_
  simp [ResolvedSymbol.isSuffixed]

/-! ### Sheets -/

theorem describes_symbolRow (s : ResolvedSymbol) : Describes s (symbolRow s) := by
  have hsuffixed : s.isSuffixed = decide (s.finalName ≠ s.baseName) :=
    Bool.eq_iff_iff.mpr (by simp [ResolvedSymbol.isSuffixed])
  constructor
  · simp only [symbolRow]
    cases s.isSuffixed <;> rfl
  · rw [← hsuffixed]
    simp only [symbolRow]
    cases s.isSuffixed <;> rfl

theorem lists_symbolSheet (symbols : List ResolvedSymbol) :
    Lists (symbolSheet symbols) symbols where
  heading := rfl
  rows := by
    change List.Forall₂ Describes symbols (symbols.map symbolRow)
    rw [List.forall₂_map_right_iff, List.forall₂_same]
    exact fun s _ => describes_symbolRow s

theorem values_summarySheet (h : after.Records before types ds x) (stamp : Text) :
    (summarySheet stamp x.symbols x.warnings).values = summaryOf stamp after x.warnings := by
  have hwarnings : (x.warnings.map warningRow).map (fun cells => cells.map (·.value)) =
      x.warnings.map fun w => [kept w.kind, kept w.rawName, kept w.message] :=
    List.map_map
  simp only [Sheet.values, summarySheet, summaryRows, Emission.all, List.map_append, hwarnings,
    summaryOf, List.map_cons, List.map_nil, count_method h, count_function h,
    count_methodAsFunction h, suffixed_eq h, ← h.functions, ← h.warnings]
  rfl

/-! ### The report of a run -/

variable {stamp : Text} {symbols : List ResolvedSymbol} {warnings : List Warning}

theorem sheet_illegalText?_eq_none_iff {sheet : Sheet} :
    sheet.illegalText? = none ↔ ∀ cells ∈ sheet.rows, ∀ c ∈ cells, c.illegalText? = none := by
  simp [Sheet.illegalText?, List.findSome?_eq_none_iff]

theorem illegalText?_symbolRow {s : ResolvedSymbol} (h : s.FitsCells) :
    ∀ c ∈ symbolRow s, c.illegalText? = none := by
  have hfinal : (if s.isSuffixed then (Cell.ofText s.finalName).emphasized
      else Cell.ofText s.finalName).illegalText? = none := by
    split <;> exact Cell.illegalText?_ofText h.finalName
  have hkind : Cell.CanHold s.role.kindName := by
    cases s.role with
    | function => decide
    | method owner => exact (by decide : Cell.CanHold "method")
  have howner : Cell.CanHold (s.role.owner?.getD "") := by
    cases hrole : s.role with
    | function => decide
    | method owner => exact h.owner owner hrole
  have hemission : Cell.CanHold (Emission.ofSymbol s).name := by
    cases Emission.ofSymbol s <;> decide
  have hlocation : Cell.CanHold ((s.decl.location.map Location.toText).getD "") := by
    cases hplace : s.decl.location with
    | none => decide
    | some l => exact canHold_locationText (h.decl.file l hplace)
  simp only [symbolRow, List.forall_mem_cons]
  exact ⟨Cell.illegalText?_ofText h.decl.rawName, hfinal, Cell.illegalText?_ofText h.baseName,
    Cell.illegalText?_ofText hkind, Cell.illegalText?_ofText howner,
    Cell.illegalText?_ofText hemission, Cell.illegalText?_ofText hlocation,
    List.forall_mem_nil _⟩

theorem illegalText?_symbolSheet (h : ∀ s ∈ symbols, s.FitsCells) :
    (symbolSheet symbols).illegalText? = none := by
  have hheadings : ∀ c ∈ headings.map headingCell, c.illegalText? = none := by decide
  rw [sheet_illegalText?_eq_none_iff]
  intro cells hcells
  rcases List.mem_cons.mp hcells with rfl | hcells
  · exact hheadings
  · obtain ⟨s, hs, rfl⟩ := List.mem_map.mp hcells
    exact illegalText?_symbolRow (h s hs)

theorem illegalText?_row {a b c : Cell} (ha : a.illegalText? = none) (hb : b.illegalText? = none)
    (hc : c.illegalText? = none) : ∀ cell ∈ row a b c, cell.illegalText? = none := by
  simp only [row, List.forall_mem_cons]
  exact ⟨ha, hb, hc, List.forall_mem_nil _⟩

theorem illegalText?_warningRow {w : Warning} (h : w.FitsCells) :
    ∀ c ∈ warningRow w, c.illegalText? = none :=
  illegalText?_row (Cell.illegalText?_ofText h.kind) (Cell.illegalText?_ofText h.rawName)
    (Cell.illegalText?_ofText h.message)

theorem illegalText?_countRow {s : Text} (h : Cell.CanHold s) (n : Nat) :
    ∀ c ∈ countRow s n, c.illegalText? = none :=
  illegalText?_row (Cell.illegalText?_ofText h) rfl rfl

theorem illegalText?_summarySheet (hstamp : Cell.CanHold stamp)
    (h : ∀ w ∈ warnings, w.FitsCells) :
    (summarySheet stamp symbols warnings).illegalText? = none := by
  have hstamped : Cell.CanHold ("生成日時: " ++ stamp) :=
    Cell.canHold_append.mpr ⟨by decide, hstamp⟩
  have hheading : Cell.CanHold ("警告 (" ++ Text.ofNat warnings.length ++ ")") :=
    Cell.canHold_append.mpr
      ⟨Cell.canHold_append.mpr ⟨by decide, Cell.canHold_ofNat _⟩, by decide⟩
  have hemission : ∀ e : Emission, Cell.CanHold e.name := by
    intro e
    cases e <;> decide
  have hblank : ∀ c ∈ blankRow, c.illegalText? = none := illegalText?_row rfl rfl rfl
  rw [sheet_illegalText?_eq_none_iff]
  simp only [summarySheet, summaryRows, List.forall_mem_append, List.forall_mem_cons,
    List.forall_mem_map]
  refine ⟨⟨⟨⟨?title, ?stamp, hblank, ?columns, List.forall_mem_nil _⟩, ?kinds⟩,
    ?suffixed, ?total, hblank, ?warnings, List.forall_mem_nil _⟩, ?rows⟩
  case title => exact illegalText?_row (by decide) rfl rfl
  case stamp => exact illegalText?_row (Cell.illegalText?_ofText hstamped) rfl rfl
  case columns => exact illegalText?_row (by decide) (by decide) rfl
  case kinds => exact fun e _ => illegalText?_countRow (hemission e) _
  case suffixed => exact illegalText?_countRow (by decide) _
  case total => exact illegalText?_row (by decide) rfl rfl
  case warnings => exact illegalText?_row (Cell.illegalText?_ofText hheading) rfl rfl
  case rows => exact fun w hw => illegalText?_warningRow (h w hw)

theorem checked_eq_ok (hstamp : Cell.CanHold stamp) (hsymbols : ∀ s ∈ symbols, s.FitsCells)
    (hwarnings : ∀ w ∈ warnings, w.FitsCells) :
    checked stamp symbols warnings =
      .ok ⟨[symbolSheet symbols, summarySheet stamp symbols warnings]⟩ := by
  have hnone : (build stamp symbols warnings).illegalText? = none := by
    simp [build, Workbook.illegalText?, illegalText?_symbolSheet hsymbols,
      illegalText?_summarySheet hstamp hwarnings]
  simp only [checked, hnone]
  rfl

end Report

namespace Mapper

variable {m : Mapper} {types : List TypeDecl} {ds : List FunctionDecl} {x : Mapped}

/-- What a run finds can be reported. -/
theorem fitsCells_of_result (hx : (m.resolve types ds).2.result = .ok x)
    (hrules : ∀ rule ∈ m.table.rules, rule.FitsCells) (htypes : ∀ t ∈ types, Cell.CanHold t.name)
    (hds : ∀ d ∈ ds, d.FitsCells) :
    (∀ s ∈ x.symbols, s.FitsCells) ∧ ∀ w ∈ x.warnings, w.FitsCells := by
  obtain ⟨r, hr, -, rfl⟩ := result_resolve_eq_ok hx
  obtain ⟨rfl, htable⟩ := resolver_eq_fields hr
  rw [← htable] at hrules
  have hkept : ∀ d ∈ m.kept ds, d.FitsCells := fun d hd => hds d (m.kept_subset ds hd)
  exact ⟨fun s => fitsCells_of_mem_symbols hrules htypes hkept,
    fun w => fitsCells_of_mem_warnings hrules htypes hkept⟩

theorem result_writeReport {stamp : Text} {d : Disk} {symbols : List ResolvedSymbol}
    {warnings : List Warning} {report : Value} {p : Path} {w : Workbook} (hreport : report.holds)
    (hp : Configuration.pathOf report = .ok p)
    (hw : Report.checked stamp symbols warnings = .ok w) :
    (writeReport stamp d symbols warnings report).result =
      (d.placeFile p (.workbook w)).mapError Failure.file := by
  simp only [writeReport, hreport, Bool.not_true, Bool.false_eq_true, if_false, Logged.result_bind,
    Logged.result_lift, hp, hw, ok_bind]
  cases (d.placeFile p (.workbook w)).mapError Failure.file <;> rfl

/-- A run that succeeds, with texts that can stand in cells, has a report, which is written wherever
a file can be. It agrees with the statistics: it has one row for each symbol, it counts methods,
functions and methods that are emitted as functions, which are all symbols together, as well as the
names that had to change, and it lists the warnings. -/
theorem report_agrees_with_statistics (hx : (m.resolve types ds).2.result = .ok x)
    (hrules : ∀ rule ∈ m.table.rules, rule.FitsCells) (htypes : ∀ t ∈ types, Cell.CanHold t.name)
    (hds : ∀ d ∈ ds, d.FitsCells) {stamp : Text} (hstamp : Cell.CanHold stamp) :
    let s := (m.resolve types ds).1.statistics
    ∃ symbols summary : Sheet,
      Report.checked stamp x.symbols x.warnings = .ok ⟨[symbols, summary]⟩ ∧
      (∀ (d : Disk) (report : Value) (p : Path), report.holds →
        Configuration.pathOf report = .ok p →
        (writeReport stamp d x.symbols x.warnings report).result =
          (d.placeFile p (.workbook ⟨[symbols, summary]⟩)).mapError Failure.file) ∧
      symbols.title = "Symbols" ∧ summary.title = "Summary" ∧
      Report.Lists symbols x.symbols ∧ summary.values = Report.summaryOf stamp s x.warnings ∧
      s.methods + (s.functions - s.methods - s.methodsAsFunctions) + s.methodsAsFunctions =
        s.functions ∧
      x.symbols.length = s.functions ∧ x.warnings.length = s.warnings := by
  intro s
  have hrecords : s.Records m.statistics types ds x := records_resolve hx
  obtain ⟨hsymbols, hwarnings⟩ := fitsCells_of_result hx hrules htypes hds
  have hchecked := Report.checked_eq_ok hstamp hsymbols hwarnings
  have hkinds := hrecords.kinds
  refine ⟨_, _, hchecked, fun d report p hreport hp => result_writeReport hreport hp hchecked,
    rfl, rfl, Report.lists_symbolSheet x.symbols, Report.values_summarySheet hrecords stamp, ?_,
    hrecords.functions.symm, hrecords.warnings.symm⟩
  omega

/-- A method, a method that a rule emits as a function, a function whose rule names no known type
and two functions whose names collide. -/
theorem report_agrees_with_statistics_mixed :
    let c : Configuration := { Configuration.unset with trimPrefixes := .list [.text "lib_"] }
    let rules : List NamingRule :=
      [⟨⟨.keepMethod, .exact, some "Foo", none, true⟩, "sync"⟩,
        ⟨⟨.keepMethod, .exact, some "Bar", none, false⟩, "stray"⟩]
    let m : Mapper := ⟨c, ⟨rules⟩, .empty, .zero⟩
    let types : List TypeDecl := [⟨"Foo", true, none⟩]
    let ds : List FunctionDecl := [.ofName "lib_open", .ofName "Foo_read", .ofName "sync",
      .ofName "stray", { FunctionDecl.ofName "open" with location := some ⟨"a.h", 3, some 1⟩ }]
    let stamp : Text := "2024-05-01 10:00:00"
    ∃ x symbols summary, (m.resolve types ds).2.result = .ok x ∧
      (∀ rule ∈ m.table.rules, rule.FitsCells) ∧ (∀ t ∈ types, Cell.CanHold t.name) ∧
      (∀ d ∈ ds, d.FitsCells) ∧ Cell.CanHold stamp ∧
      Report.checked stamp x.symbols x.warnings = .ok ⟨[symbols, summary]⟩ ∧
      Report.Lists symbols x.symbols ∧
      summary.values =
        Report.summaryOf stamp ⟨1, 5, 0, 1, 1, 1, 1, 0⟩ x.warnings := by
  intro c rules m types ds stamp
  have hresolve : ∃ x, (m.resolve types ds).2.result = .ok x := ⟨_, rfl⟩
  obtain ⟨x, hx⟩ := hresolve
  have hrules : ∀ rule ∈ m.table.rules, rule.FitsCells := by decide
  have htypes : ∀ t ∈ types, Cell.CanHold t.name := by decide
  have hds : ∀ d ∈ ds, d.FitsCells := by decide
  have hstamp : Cell.CanHold stamp := by decide
  have hstatistics : (m.resolve types ds).1.statistics = ⟨1, 5, 0, 1, 1, 1, 1, 0⟩ := rfl
  obtain ⟨symbols, summary, hchecked, -, -, -, hlists, hsummary, -⟩ :=
    report_agrees_with_statistics hx hrules htypes hds hstamp
  rw [hstatistics] at hsummary
  exact ⟨x, symbols, summary, hx, hrules, htypes, hds, hstamp, hchecked, hlists, hsummary⟩

end Mapper

end BindingNames
