import BindingNames.Proofs.Mapping
import BindingNames.Proofs.ResolvedRoles
import BindingNames.Report

/-!
Texts that can stand in cells. A cell takes no control characters but tab and line ends. Resolving a
declaration brings none into its names and its warning: names are cut, joined and numbered, letters
move to upper case, where no control character is, and a type that is not known is quoted. So what a
run finds can be reported if its rules, types and functions have texts that can.
-/

namespace BindingNames

open Text

/-! ### Characters -/

namespace Cell

/-- Whether a text can stand in a cell. -/
def CanHold (s : Text) : Prop :=
  ∀ c ∈ s, isIllegal c = false

instance (s : Text) : Decidable (CanHold s) :=
  inferInstanceAs (Decidable (∀ c ∈ s, isIllegal c = false))

theorem isIllegal_of_le {c : Code} (h : 32 ≤ c.toNat) : isIllegal c = false := by
  simp only [isIllegal, Bool.or_eq_false_iff, Bool.and_eq_false_iff, decide_eq_false_iff_not,
    beq_eq_false_iff_ne]
  omega

theorem isIllegal_of_isWordChar {c : Code} (h : Identifier.isWordChar c) : isIllegal c = false := by
  have hascii : ∀ n < 128, Identifier.isWordChar (.char (Char.ofNat n)) →
      isIllegal (.char (Char.ofNat n)) = false := by
    decide +kernel
  exact forall_of_lt (P := fun c => Identifier.isWordChar c → isIllegal c = false) hascii
    (toNat_lt_of_isWordChar h) h

theorem CanHold.of_subset {s t : Text} (ht : CanHold t) (h : s ⊆ t) : CanHold s :=
  fun c hc => ht c (h hc)

theorem canHold_of_isWord {s : Text} (h : IsWord s) : CanHold s :=
  fun c hc => isIllegal_of_isWordChar (h c hc)

theorem canHold_cons {c : Code} {s : Text} :
    CanHold (c :: s) ↔ isIllegal c = false ∧ CanHold s :=
  List.forall_mem_cons

theorem canHold_append {s t : Text} : CanHold (s ++ t) ↔ CanHold s ∧ CanHold t :=
  List.forall_mem_append

theorem canHold_ofNat (n : Nat) : CanHold (Text.ofNat n) :=
  canHold_of_isWord (isWord_ofNat n)

theorem canHold_ofInt (i : Int) : CanHold (Text.ofInt i) := by
  cases i with
  | ofNat n => exact canHold_ofNat n
  | negSucc n => exact canHold_cons.mpr ⟨by decide, canHold_ofNat (n + 1)⟩

/-! ### Upper case -/

theorem isIllegal_ofNat {n : Nat} (h : 32 ≤ n) (hlt : n < 0x110000) :
    isIllegal (Code.ofNat n) = false :=
  isIllegal_of_le (by rwa [Code.toNat_ofNat hlt])

/-- Letters move within what is beyond the control characters. -/
theorem moveBy_upperRuns {n : Nat} (h : 32 ≤ n) (hlt : n < 0x110000) :
    32 ≤ moveBy upperRuns n ∧ moveBy upperRuns n < 0x110000 := by
  have hruns : ∀ r ∈ upperRuns, 32 ≤ r.first + r.shift ∧ r.last + r.shift < 0x110000 := by
    decide +kernel
  simp only [moveBy]
  split
  · rename_i r hr
    have hrun := hruns r (List.mem_of_find?_eq_some hr)
    have hcovers := List.find?_some hr
    simp only [Run.covers, Bool.and_eq_true, decide_eq_true_eq] at hcovers
    simp only [Run.move]
    omega
  · exact ⟨h, hlt⟩

theorem canHold_upperOf {c : Code} (h : isIllegal c = false) : CanHold (upperOf c) := by
  intro d hd
  simp only [upperOf] at hd
  split at hd
  · rename_i hlt
    have hascii : ∀ n < 128, isIllegal (.char (Char.ofNat n)) = false →
        isIllegal (Code.toUpper (.char (Char.ofNat n))) = false := by
      decide +kernel
    rw [List.mem_singleton.mp hd]
    exact forall_of_lt (P := fun c => isIllegal c = false → isIllegal c.toUpper = false) hascii
      hlt h
  · rename_i hle
    have hlarge : 32 ≤ c.toNat := by omega
    split at hd
    · rename_i ns hns
      have hspecials : ∀ p ∈ upperSpecials, ∀ n ∈ p.2, 32 ≤ n ∧ n < 0x110000 := by
        decide +kernel
      obtain ⟨n, hn, rfl⟩ := List.mem_map.mp hd
      have hmem : (c.toNat, ns) ∈ upperSpecials := by
        obtain ⟨front, back, heq, -⟩ := List.lookup_eq_some_iff.mp hns
        rw [heq]
        exact List.mem_append_right _ List.mem_cons_self
      obtain ⟨hn, hlt⟩ := hspecials _ hmem n hn
      exact isIllegal_ofNat hn hlt
    · rw [List.mem_singleton.mp hd]
      obtain ⟨hmoved, hlt⟩ := moveBy_upperRuns hlarge c.toNat_lt
      exact isIllegal_ofNat hmoved hlt

theorem CanHold.apply {s : Text} (h : CanHold s) (style : NameStyle) :
    CanHold (style.apply s) := by
  intro c hc
  rcases NameStyle.isFrom_of_mem_apply hc with rfl | hc | ⟨d, hd, hc⟩
  · decide
  · exact h c hc
  · exact canHold_upperOf (h d hd) c hc

/-! ### Quoted texts -/

theorem canHold_hexDigits (width n : Nat) : CanHold (hexDigits width n) := by
  have hdigits : ∀ i < 16, isIllegal (hexDigit i) = false := by decide
  induction width generalizing n with
  | zero => exact List.forall_mem_nil _
  | succ width ih =>
      have hlast : isIllegal (hexDigit n) = false := by
        have hdigit := hdigits (n % 16) (Nat.mod_lt n (by omega))
        rwa [hexDigit, Nat.mod_mod] at hdigit
      exact canHold_append.mpr ⟨ih _, canHold_cons.mpr ⟨hlast, List.forall_mem_nil _⟩⟩

theorem canHold_codeEscape (c : Code) : CanHold (codeEscape c) := by
  have hmarks : isIllegal (.char '\\') = false ∧ isIllegal (.char 'x') = false ∧
      isIllegal (.char 'u') = false ∧ isIllegal (.char 'U') = false := by
    decide
  obtain ⟨hslash, hx, hu, hU⟩ := hmarks
  simp only [codeEscape]
  split
  · exact canHold_cons.mpr ⟨hslash, canHold_cons.mpr ⟨hx, canHold_hexDigits _ _⟩⟩
  · split
    · exact canHold_cons.mpr ⟨hslash, canHold_cons.mpr ⟨hu, canHold_hexDigits _ _⟩⟩
    · exact canHold_cons.mpr ⟨hslash, canHold_cons.mpr ⟨hU, canHold_hexDigits _ _⟩⟩

theorem CanHold.quotedChar {c : Code} (h : isIllegal c = false) (q : Code) :
    CanHold (quotedChar q c) := by
  have hslash : isIllegal (.char '\\') = false := by decide
  simp only [Text.quotedChar, quotedBy]
  split_ifs
  · exact canHold_cons.mpr ⟨hslash, canHold_cons.mpr ⟨h, List.forall_mem_nil _⟩⟩
  · decide
  · decide
  · decide
  · exact canHold_cons.mpr ⟨h, List.forall_mem_nil _⟩
  · exact canHold_codeEscape c

theorem CanHold.quoted {s : Text} (h : CanHold s) : CanHold (quoted s) := by
  have hquote : isIllegal (quoteFor s) = false := by
    simp only [quoteFor]
    split <;> decide
  refine canHold_append.mpr ⟨canHold_cons.mpr ⟨hquote, fun c hc => ?_⟩,
    canHold_cons.mpr ⟨hquote, List.forall_mem_nil _⟩⟩
  obtain ⟨d, hd, hc⟩ := List.mem_flatMap.mp hc
  exact CanHold.quotedChar (h d hd) _ c hc

/-! ### Cells -/

theorem mem_unifyLineEnds {s : Text} {c : Code} (h : c ∈ unifyLineEnds s) :
    c = .char '\n' ∨ c ∈ s := by
  fun_induction unifyLineEnds s with
  | case1 => contradiction
  | case2 cs ih =>
      rcases List.mem_cons.mp h with h | h
      · exact .inl h
      · exact (ih h).imp_right fun h => List.mem_cons_of_mem _ (List.mem_cons_of_mem _ h)
  | case3 cs _ ih =>
      rcases List.mem_cons.mp h with h | h
      · exact .inl h
      · exact (ih h).imp_right (List.mem_cons_of_mem _)
  | case4 d cs _ _ ih =>
      rcases List.mem_cons.mp h with rfl | h
      · exact .inr List.mem_cons_self
      · exact (ih h).imp_right (List.mem_cons_of_mem d)

theorem CanHold.keptText {s : Text} (h : CanHold s) : CanHold (keptText s) := by
  intro c hc
  rcases mem_unifyLineEnds hc with rfl | hc
  · decide
  · exact h c (List.mem_of_mem_take hc)

theorem illegalText?_ofText {s : Text} (h : CanHold s) : (ofText s).illegalText? = none := by
  have hkept : (Cell.keptText s).any isIllegal = false :=
    List.any_eq_false.mpr fun c hc => by simp [h.keptText c hc]
  by_cases hs : s.isEmpty
  · simp [ofText, illegalText?, hs]
  · simp [ofText, illegalText?, hs, hkept]

end Cell

/-! ### Texts of rules, declarations and symbols -/

structure NamingRule.FitsCells (rule : NamingRule) : Prop where
  pattern : Cell.CanHold rule.pattern
  target : ∀ s ∈ rule.target, Cell.CanHold s
  newName : ∀ s ∈ rule.newName, Cell.CanHold s

instance (rule : NamingRule) : Decidable rule.FitsCells :=
  decidable_of_iff (Cell.CanHold rule.pattern ∧ (∀ s ∈ rule.target, Cell.CanHold s) ∧
      ∀ s ∈ rule.newName, Cell.CanHold s)
    ⟨fun ⟨pattern, target, newName⟩ => ⟨pattern, target, newName⟩,
      fun h => ⟨h.pattern, h.target, h.newName⟩⟩

/-- The texts of a declaration that may be reported can stand in cells. -/
structure FunctionDecl.FitsCells (d : FunctionDecl) : Prop where
  rawName : Cell.CanHold d.rawName
  owner : ∀ t ∈ d.candidateOwner, Cell.CanHold t.name
  memberOf : ∀ owner ∈ d.memberOf, Cell.CanHold owner
  file : ∀ l ∈ d.location, Cell.CanHold l.file

instance (d : FunctionDecl) : Decidable d.FitsCells :=
  decidable_of_iff (Cell.CanHold d.rawName ∧ (∀ t ∈ d.candidateOwner, Cell.CanHold t.name) ∧
      (∀ owner ∈ d.memberOf, Cell.CanHold owner) ∧ ∀ l ∈ d.location, Cell.CanHold l.file)
    ⟨fun ⟨rawName, owner, memberOf, file⟩ => ⟨rawName, owner, memberOf, file⟩,
      fun h => ⟨h.rawName, h.owner, h.memberOf, h.file⟩⟩

structure ResolvedSymbol.FitsCells (s : ResolvedSymbol) : Prop where
  decl : s.decl.FitsCells
  baseName : Cell.CanHold s.baseName
  finalName : Cell.CanHold s.finalName
  owner : ∀ owner, s.role = .method owner → Cell.CanHold owner

structure Warning.FitsCells (w : Warning) : Prop where
  kind : Cell.CanHold w.kind
  rawName : Cell.CanHold w.rawName
  message : Cell.CanHold w.message

open Cell

theorem canHold_locationText {l : Location} (h : CanHold l.file) : CanHold l.toText := by
  have hcolon : CanHold ":" := by decide
  have hplace : CanHold (l.file ++ ":" ++ Text.ofInt l.line) :=
    canHold_append.mpr ⟨canHold_append.mpr ⟨h, hcolon⟩, canHold_ofInt l.line⟩
  simp only [Location.toText]
  split
  · exact hplace
  · split
    · exact hplace
    · exact canHold_append.mpr ⟨canHold_append.mpr ⟨hplace, hcolon⟩, canHold_ofInt _⟩

theorem canHold_directive (d : Directive) : CanHold d.name := by
  cases d <;> decide

theorem NamingRule.FitsCells.detail {rule : NamingRule} (h : rule.FitsCells) {detail : Text}
    (hdetail : (nonempty? rule.target).or (nonempty? rule.newName) = some detail) :
    CanHold detail := by
  rcases Option.or_eq_some_iff.mp hdetail with hdetail | ⟨-, hdetail⟩
  · exact h.target detail (nonempty?_eq_some.mp hdetail).1
  · exact h.newName detail (nonempty?_eq_some.mp hdetail).1

theorem NamingRule.FitsCells.toText {rule : NamingRule} (h : rule.FitsCells) :
    CanHold rule.toText := by
  have hstarred : CanHold (rule.pattern ++ "*") := canHold_append.mpr ⟨h.pattern, by decide⟩
  have haction : ∀ pattern, CanHold pattern →
      CanHold (pattern ++ " -> " ++ rule.directive.name) := fun pattern hpattern =>
    canHold_append.mpr ⟨canHold_append.mpr ⟨hpattern, by decide⟩, canHold_directive rule.directive⟩
  simp only [NamingRule.toText]
  split
  · rename_i detail hdetail
    refine canHold_append.mpr ⟨canHold_append.mpr ⟨canHold_append.mpr ⟨haction _ ?_, by decide⟩,
      h.detail hdetail⟩, by decide⟩
    split
    · exact h.pattern
    · exact hstarred
  · refine haction _ ?_
    split
    · exact h.pattern
    · exact hstarred

namespace Resolver

variable {r : Resolver} {d : FunctionDecl}

/-! ### Resolving -/

theorem canHold_newName (hrules : ∀ rule ∈ r.table.rules, rule.FitsCells) {key name : Text}
    (h : r.newName key = some name) : CanHold name := by
  obtain ⟨rule, hrule, hname⟩ := Option.bind_eq_some_iff.mp h
  exact (hrules rule (RuleTable.lookup_mem hrule).1).newName name hname

theorem Resolves.canHold_baseName (hrules : ∀ rule ∈ r.table.rules, rule.FitsCells)
    (hd : d.FitsCells) {x : Resolution} (hx : r.Resolves d x) : CanHold x.symbol.baseName := by
  cases hx with
  | member =>
      cases hnew : r.newName d.symbolName with
      | some name => exact canHold_newName hrules hnew
      | none =>
          simp only [ResolvedSymbol.initial, Option.getD_none, memberName]
          split
          · decide
          · decide
          · exact hd.rawName.apply r.style
  | demoted => exact hd.rawName
  | @placed p _ hplaces =>
      cases hnew : r.newName d.rawName with
      | some name => exact canHold_newName hrules hnew
      | none =>
          have hbase : CanHold p.base := hd.rawName.of_subset hplaces.base_subset
          simp only [ResolvedSymbol.initial, Option.getD_none]
          split
          · exact hbase
          · exact hbase.apply r.style

theorem Resolves.canHold_owner (htypes : ∀ t ∈ r.types, CanHold t.name) (hd : d.FitsCells)
    {x : Resolution} (hx : r.Resolves d x) {owner : Text}
    (howner : x.symbol.role = .method owner) : CanHold owner := by
  rcases hx.soundRole.owner owner howner with hmember | ⟨-, ⟨t, ht, rfl⟩ | ⟨⟨t, ht, rfl⟩, -⟩⟩
  · exact hd.memberOf owner hmember
  · exact htypes t ht
  · exact hd.owner t ht

theorem fitsCells_unknownTargetWarning {name : Text} {rule : NamingRule} {target : Option Text}
    (hname : CanHold name) (hrule : rule.FitsCells) (htarget : ∀ t ∈ target, CanHold t) :
    (unknownTargetWarning name rule target).FitsCells := by
  have hkind : CanHold unknownTarget := by decide
  refine ⟨hkind, hname, ?_⟩
  simp only [unknownTargetWarning, canHold_append]
  refine ⟨⟨⟨⟨by decide, hrule.toText⟩, by decide⟩, ?_⟩, by decide⟩
  cases target with
  | some t => exact (htarget t rfl).quoted
  | none => decide

theorem AsksForUnknown.canHold_target {rule : NamingRule} {target : Option Text}
    (h : r.AsksForUnknown d rule target) (hrule : rule.FitsCells)
    (htypes : ∀ t ∈ r.types, CanHold t.name) (hd : d.FitsCells) :
    ∀ t ∈ target, CanHold t := by
  cases h with
  | keepMethod => exact hrule.target
  | stripOwner _ howner =>
      intro t ht
      rw [howner, Option.mem_def, Option.or_assoc] at ht
      rcases Option.or_eq_some_iff.mp ht with ht | ⟨-, ht⟩
      · exact hrule.target t (nonempty?_eq_some.mp ht).1
      · rcases ownerOf_eq_some ht with ⟨u, hu, rfl⟩ | ⟨u, hu, rfl⟩
        · exact hd.owner u hu
        · exact htypes u hu

theorem Resolves.fitsCells_warning (hrules : ∀ rule ∈ r.table.rules, rule.FitsCells)
    (htypes : ∀ t ∈ r.types, CanHold t.name) (hd : d.FitsCells) {x : Resolution}
    (hx : r.Resolves d x) {w : Warning} (hw : x.warning = some w) : w.FitsCells := by
  obtain ⟨-, hrule, hasks⟩ := hx.warning_eq_some_iff.mp hw
  rename_i rule target
  have hfits := hrules rule (RuleTable.lookup_mem hrule).1
  exact fitsCells_unknownTargetWarning hd.rawName hfits (hasks.canHold_target hfits htypes hd)

end Resolver

/-! ### What a run finds -/

theorem GreedyName.canHold {earlier : List Text} {base name : Text}
    (h : GreedyName earlier base name) (hbase : CanHold base) : CanHold name := by
  cases h with
  | kept free => exact hbase
  | numbered taken least =>
      exact canHold_append.mpr ⟨canHold_append.mpr ⟨hbase, by decide⟩, canHold_ofNat _⟩

namespace Mapper

variable {r : Resolver} {ds : List FunctionDecl}

theorem fitsCells_of_mem_symbols (hrules : ∀ rule ∈ r.table.rules, rule.FitsCells)
    (htypes : ∀ t ∈ r.types, CanHold t.name) (hds : ∀ d ∈ ds, d.FitsCells) {s : ResolvedSymbol}
    (hs : s ∈ (mappedOf (ds.map r.resolve)).symbols) : s.FitsCells := by
  obtain ⟨hdecl, heq⟩ := eq_withFinalName_of_mem hs
  have hd := hds s.decl hdecl
  have hresolves := r.resolves_resolve s.decl
  have hbase : CanHold s.baseName := by
    rw [heq]
    exact hresolves.canHold_baseName hrules hd
  have hfinal : CanHold s.finalName := by
    have hnamed := namedGreedily_disambiguate ((ds.map r.resolve).map (·.symbol))
    obtain ⟨i, hi, rfl⟩ := List.getElem_of_mem hs
    exact (hnamed.greedy i hi).canHold hbase
  refine ⟨hd, hbase, hfinal, fun owner howner => ?_⟩
  rw [heq] at howner
  exact hresolves.canHold_owner htypes hd howner

theorem fitsCells_of_mem_warnings (hrules : ∀ rule ∈ r.table.rules, rule.FitsCells)
    (htypes : ∀ t ∈ r.types, CanHold t.name) (hds : ∀ d ∈ ds, d.FitsCells) {w : Warning}
    (hw : w ∈ (mappedOf (ds.map r.resolve)).warnings) : w.FitsCells := by
  obtain ⟨x, hx, hwarning⟩ := List.mem_filterMap.mp hw
  obtain ⟨d, hd, rfl⟩ := List.mem_map.mp hx
  exact (r.resolves_resolve d).fitsCells_warning hrules htypes (hds d hd) hwarning

end Mapper

end BindingNames
