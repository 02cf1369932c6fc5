import BindingNames.Proofs.BindingTable
import BindingNames.Proofs.DistinctNames
import BindingNames.Proofs.NameOrigin
import BindingNames.Proofs.ResolverHistory
import BindingNames.Proofs.StyledNames

/-!
Names that are identifiers. A function whose raw name is an identifier need not get one as its
name. What is cut off in front may leave a digit there, before which a style puts an X but the
absence of a style nothing; and a new name may end with a line feed. These are the only two ways,
and a number behind a name makes no difference. No name is empty.
-/

namespace BindingNames

open Text

/-! ### Identifiers among words -/

namespace Identifier

/-- A word character that is no digit is a letter or an underscore. -/
theorem isLetter_eq {c : Code} (h : isWordChar c) : isLetter c = !isDigit c := by
  have hascii : ∀ n < 128, isWordChar (.char (Char.ofNat n)) →
      isLetter (.char (Char.ofNat n)) = !isDigit (.char (Char.ofNat n)) := by
    decide +kernel
  exact forall_of_lt (P := fun c => isWordChar c → isLetter c = !isDigit c) hascii
    (toNat_lt_of_isWordChar h) h

theorem isLetter_of_isUpper {c : Code} (h : c.isUpper) : isLetter c := by
  cases c with
  | half i => contradiction
  | char c =>
      have halpha : c.isAlpha = (c.isUpper || c.isLower) := rfl
      have hupper : c.isUpper = true := h
      simp [isLetter, Code.isAlpha, halpha, hupper]

theorem isIdentifier_cons_iff {c : Code} {cs : Text} :
    isIdentifier (c :: cs) ↔ isLetter c ∧ IsWord cs := by
  simp [isIdentifier, IsWord, List.all_eq_true]

/-- A word is an identifier unless it is empty or begins with a digit. -/
theorem isIdentifier_iff_of_isWord {s : Text} (h : IsWord s) (hne : s ≠ []) :
    isIdentifier s ↔ NameStyle.beginsWithDigit s = false := by
  cases s with
  | nil => contradiction
  | cons c cs =>
      obtain ⟨hc, hcs⟩ := isWord_cons.mp h
      rw [isIdentifier_cons_iff, isLetter_eq hc, NameStyle.beginsWithDigit]
      simp [hcs]

/-- An accepted name is an identifier unless it ends with a line feed. -/
theorem isIdentifier_iff_of_accepts {s : Text} (h : accepts s) :
    isIdentifier s ↔ s.getLast? ≠ some (.char '\n') := by
  constructor
  · intro hs hlast
    have hfeed := isWord_of_isIdentifier hs _ (List.mem_of_getLast? hlast)
    exact absurd hfeed (by decide)
  · intro hlast
    rwa [accepts_eq hlast] at h

theorem ne_nil_of_isIdentifier {s : Text} (h : isIdentifier s) : s ≠ [] := by
  rintro rfl
  contradiction

theorem ne_nil_of_accepts {s : Text} (h : accepts s) : s ≠ [] := by
  rintro rfl
  contradiction

/-- What is put behind a name neither makes it an identifier nor prevents it from being one. -/
theorem isIdentifier_append_iff {s t : Text} (hs : s ≠ []) (ht : IsWord t) :
    isIdentifier (s ++ t) ↔ isIdentifier s := by
  cases s with
  | nil => contradiction
  | cons c cs =>
      rw [List.cons_append, isIdentifier_cons_iff, isIdentifier_cons_iff, isWord_append]
      simp [ht]

end Identifier

open Identifier

/-! ### Styles -/

namespace NameStyle

/-- A style makes an identifier of every word that is not empty. -/
theorem isIdentifier_apply {style : NameStyle} (hstyle : style ≠ .none) {s : Text} (h : IsWord s)
    (hne : s ≠ []) : isIdentifier (style.apply s) := by
  obtain ⟨c, rest, hname, hupper, hrest⟩ := isExported_apply hstyle h hne
  rw [hname]
  exact isIdentifier_cons_iff.mpr ⟨isLetter_of_isUpper hupper, hrest⟩

end NameStyle

/-! ### Base names -/

namespace Resolver

/-- The two ways in which a function with an identifier as its raw name gets a name that is none. A
method that goes back among the functions for want of a receiver keeps its raw name. -/
inductive LosesForm (r : Resolver) (d : FunctionDecl) : Prop where
  /-- The new name that a rule gives ends with a line feed. -/
  | lineFeed {name : Text} (hdemoted : (r.resolve d).demoted = false)
      (hname : r.newName d.rawName = some name) (hlast : name.getLast? = some (.char '\n'))
  /-- A digit stands in front of what is left of the raw name, and no style changes it. -/
  | digit (hdemoted : (r.resolve d).demoted = false) (hname : r.newName d.rawName = none)
      (hstyle : r.style = .none) (hdigit : NameStyle.beginsWithDigit (r.place d).base)

variable {r : Resolver} {d : FunctionDecl}

theorem stripOwner_ne_nil {name : Text} (h : name ≠ []) (owner : Text) :
    stripOwner name owner ≠ [] := by
  by_cases hbelongs : belongsTo name owner
  · exact (stripOwner_of_belongsTo hbelongs).1
  · rwa [stripOwner, if_neg hbelongs]

theorem trim_ne_nil (r : Resolver) {name : Text} (h : name ≠ []) : r.trim name ≠ [] := by
  simp only [trim]
  split
  · exact h
  · rename_i hcut
    simpa using hcut

theorem Places.base_ne_nil {p : Placement} (hp : r.Places d p) (h : d.rawName ≠ []) :
    p.base ≠ [] := by
  cases hp with
  | owned => exact stripOwner_ne_nil h _
  | plain => exact trim_ne_nil r h
  | kept => exact h
  | unknown => exact h
  | forced => exact h
  | ruled => exact stripOwner_ne_nil h _

theorem Places.base_of_verbatim {p : Placement} (hp : r.Places d p) (h : p.verbatim) :
    p.base = d.rawName := by
  cases hp with
  | kept => rfl
  | unknown => rfl
  | forced => rfl
  | _ => contradiction

/-- A derived name is an identifier unless no style takes care of a digit in front. -/
theorem Places.isIdentifier_styled_iff {p : Placement} (hp : r.Places d p)
    (hraw : isIdentifier d.rawName) :
    isIdentifier (if p.verbatim then p.base else r.style.apply p.base) ↔
      ¬ (r.style = .none ∧ NameStyle.beginsWithDigit p.base) := by
  have hword := (isWord_of_isIdentifier hraw).of_subset hp.base_subset
  have hne := hp.base_ne_nil (ne_nil_of_isIdentifier hraw)
  have hbase := isIdentifier_iff_of_isWord hword hne
  split
  · rename_i hverbatim
    have hidentifier : isIdentifier p.base := hp.base_of_verbatim hverbatim ▸ hraw
    simp [hidentifier, hbase.mp hidentifier]
  · by_cases hstyle : r.style = .none
    · rw [hstyle, NameStyle.apply_none, hbase]
      simp
    · simp [hstyle, NameStyle.isIdentifier_apply hstyle hword hne]

theorem Places.styled_ne_nil {p : Placement} (hp : r.Places d p) (hraw : isIdentifier d.rawName) :
    (if p.verbatim then p.base else r.style.apply p.base) ≠ [] := by
  have hword := (isWord_of_isIdentifier hraw).of_subset hp.base_subset
  have hne := hp.base_ne_nil (ne_nil_of_isIdentifier hraw)
  split
  · exact hne
  · by_cases hstyle : r.style = .none
    · rwa [hstyle, NameStyle.apply_none]
    · exact ne_nil_of_isIdentifier (NameStyle.isIdentifier_apply hstyle hword hne)

/-- New names come from rules that the table has accepted. -/
theorem accepts_of_newName {drafts : List RuleDraft}
    (htable : RuleTable.ofDrafts drafts = .ok r.table) {key name : Text}
    (h : r.newName key = some name) : accepts name := by
  obtain ⟨rule, hrule, hname⟩ := Option.bind_eq_some_iff.mp h
  obtain ⟨s, hs, haccepts⟩ := RuleTable.exists_newName htable hrule
  cases hname.symm.trans hs
  exact haccepts

/-- The base name is an identifier unless it loses its form in one of the two ways, and it is never
empty. -/
theorem baseName_ne_nil_and_isIdentifier_iff {drafts : List RuleDraft}
    (htable : RuleTable.ofDrafts drafts = .ok r.table) (hmember : d.memberOf = none)
    (hraw : isIdentifier d.rawName) :
    (r.resolve d).symbol.baseName ≠ [] ∧
      (isIdentifier (r.resolve d).symbol.baseName ↔ ¬ r.LosesForm d) := by
  cases hdemoted : (r.resolve d).demoted with
  | true =>
      have hkept : ¬ r.LosesForm d := by
        rintro (⟨hplaced, -, -⟩ | ⟨hplaced, -, -, -⟩) <;>
          · rw [hdemoted] at hplaced
            contradiction
      rw [baseName_of_demotes (demoted_iff.mp hdemoted)]
      exact ⟨ne_nil_of_isIdentifier hraw, by simp [hraw, hkept]⟩
  | false =>
      have hstays : ¬ r.Demotes d := by
        rw [← demoted_iff, hdemoted]
        exact Bool.false_ne_true
      rw [baseName_of_not_demotes hstays, ruleKey_of_memberOf_eq_none hmember,
        derivedName_of_memberOf_eq_none hmember]
      have hplaces := r.places_place d
      cases hname : r.newName d.rawName with
      | some name =>
          have haccepts := accepts_of_newName htable hname
          refine ⟨ne_nil_of_accepts haccepts, ?_⟩
          rw [Option.getD_some, isIdentifier_iff_of_accepts haccepts]
          refine not_congr ⟨fun hlast => .lineFeed hdemoted hname hlast, ?_⟩
          rintro (⟨-, hname', hlast⟩ | ⟨-, hnone, -, -⟩)
          · cases hname.symm.trans hname'
            exact hlast
          · rw [hname] at hnone
            contradiction
      | none =>
          refine ⟨hplaces.styled_ne_nil hraw, ?_⟩
          rw [Option.getD_none, hplaces.isIdentifier_styled_iff hraw]
          refine not_congr ⟨fun h => .digit hdemoted hname h.1 h.2, ?_⟩
          rintro (⟨-, hsome, -⟩ | ⟨-, -, hstyle, hdigit⟩)
          · rw [hname] at hsome
            contradiction
          · exact ⟨hstyle, hdigit⟩

end Resolver

/-! ### Final names -/

/-- A number behind a base name makes no difference to its form. -/
theorem GreedyName.isIdentifier_iff {earlier : List Text} {base name : Text}
    (h : GreedyName earlier base name) (hne : base ≠ []) :
    isIdentifier name ↔ isIdentifier base := by
  cases h with
  | kept free => exact Iff.rfl
  | @numbered n taken least =>
      have hsuffix : IsWord (ofString "__" ++ ofNat n) :=
        isWord_append.mpr ⟨by decide, isWord_ofNat n⟩
      rw [GivenNames.suffixed, List.append_assoc]
      exact isIdentifier_append_iff hne hsuffix

theorem GreedyName.ne_nil {earlier : List Text} {base name : Text}
    (h : GreedyName earlier base name) (hne : base ≠ []) : name ≠ [] := by
  cases h with
  | kept free => exact hne
  | numbered taken least => simp [GivenNames.suffixed, hne]

theorem forall₂_disambiguate {symbols : List ResolvedSymbol}
    (hne : ∀ s ∈ symbols, s.baseName ≠ []) :
    List.Forall₂ (fun s t => t.decl = s.decl ∧ t.finalName ≠ [] ∧
      (isIdentifier t.finalName ↔ isIdentifier s.baseName)) symbols (disambiguate symbols) := by
  have hnamed := namedGreedily_disambiguate symbols
  refine List.forall₂_iff_get.mpr ⟨hnamed.length_eq.symm, fun i hs hn => ?_⟩
  have hframe := hnamed.frame i hs hn
  have hgreedy := hnamed.greedy i hn
  simp only [List.get_eq_getElem]
  refine ⟨by rw [hframe]; rfl, ?_⟩
  have hbase : (disambiguate symbols)[i].baseName = symbols[i].baseName := by
    rw [hframe]
    rfl
  rw [hbase] at hgreedy
  have hbase := hne _ (List.getElem_mem hs)
  exact ⟨hgreedy.ne_nil hbase, hgreedy.isIdentifier_iff hbase⟩

namespace ResolverSession

/-- The symbols of a batch are those of its declarations, one by one. -/
theorem eq_map_of_resolveAll {s : ResolverSession} {ds : List FunctionDecl}
    {symbols : List ResolvedSymbol} (h : (s.resolveAll ds).2 = .ok symbols) :
    symbols = ds.map fun d => (s.resolver.resolve d).symbol := by
  have hall : List.Forall₂ (fun d x => (s.resolver.resolve d).symbol = x) ds symbols := by
    refine (forall₂_of_resolveAll h).imp fun d x hx => ?_
    rw [snd_resolve, start, Resolver.resolve?] at hx
    split at hx
    · contradiction
    · exact Except.ok.inj hx
  rw [← List.forall₂_map_left_iff (R := Eq), List.forall₂_eq_eq_eq] at hall
  exact hall.symm

/-- Functions whose raw names are identifiers get base names and final names that are not empty.
Those that lose their form get no identifiers, and all others do. -/
theorem isIdentifier_names_iff (s : ResolverSession) {drafts : List RuleDraft}
    (htable : RuleTable.ofDrafts drafts = .ok s.resolver.table) {ds : List FunctionDecl}
    (hds : ∀ d ∈ ds, d.memberOf = none ∧ isIdentifier d.rawName) {symbols : List ResolvedSymbol}
    (hresolve : (s.resolveAll ds).2 = .ok symbols) :
    List.Forall₂ (fun d x => x.decl = d ∧ x.baseName ≠ [] ∧
        (isIdentifier x.baseName ↔ ¬ s.resolver.LosesForm d)) ds symbols ∧
      List.Forall₂ (fun d x => x.decl = d ∧ x.finalName ≠ [] ∧
        (isIdentifier x.finalName ↔ ¬ s.resolver.LosesForm d)) ds (disambiguate symbols) := by
  have hform : ∀ d ∈ ds, (s.resolver.resolve d).symbol.baseName ≠ [] ∧
      (isIdentifier (s.resolver.resolve d).symbol.baseName ↔ ¬ s.resolver.LosesForm d) :=
    fun d hd => Resolver.baseName_ne_nil_and_isIdentifier_iff htable (hds d hd).1 (hds d hd).2
  obtain rfl := eq_map_of_resolveAll hresolve
  have hne : ∀ x ∈ ds.map fun d => (s.resolver.resolve d).symbol, x.baseName ≠ [] :=
    List.forall_mem_map.mpr fun d hd => (hform d hd).1
  have hfinal := forall₂_disambiguate hne
  rw [List.forall₂_map_left_iff] at hfinal
  constructor
  · rw [List.forall₂_map_right_iff, List.forall₂_same]
    exact fun d hd => ⟨s.resolver.resolve_decl d, hform d hd⟩
  · refine ((List.forall₂_and_left ds _).mpr ⟨hform, hfinal⟩).imp ?_
    rintro d x ⟨⟨-, hbase⟩, hdecl, hname, hiff⟩
    exact ⟨hdecl.trans (s.resolver.resolve_decl d), hname, hiff.trans hbase⟩

/-- There is a digit behind the owner of one function and behind the beginning that is trimmed from
another, a new name ends with a line feed, and only the last function keeps an identifier. -/
theorem isIdentifier_names_iff_digit :
    let rules : List RuleDraft := [.rename (.text "Foo_open") .exact (some "Start\n")]
    let ds : List FunctionDecl :=
      [.ofName "Foo_2d", .ofName "lib2d", .ofName "Foo_open", .ofName "Foo_close"]
    ∃ t, RuleTable.ofDrafts rules = .ok t ∧
      let s : ResolverSession :=
        ⟨⟨[⟨"Foo", true, none⟩], t, ⟨[.text "lib"], none⟩, .none, false⟩, []⟩
      (∀ d ∈ ds, d.memberOf = none ∧ isIdentifier d.rawName) ∧
        ∃ symbols, (s.resolveAll ds).2 = .ok symbols ∧
          (disambiguate symbols).map (fun x => isIdentifier x.finalName) =
            [false, false, false, true] := by
  intro rules ds
  obtain ⟨t, ht⟩ : ∃ t, RuleTable.ofDrafts rules = .ok t := ⟨_, rfl⟩
  refine ⟨t, ht, ?_⟩
  intro s
  have hds : ∀ d ∈ ds, d.memberOf = none ∧ isIdentifier d.rawName := by decide
  obtain ⟨symbols, hsymbols⟩ : ∃ symbols, (s.resolveAll ds).2 = .ok symbols := by
    cases ht
    exact ⟨_, rfl⟩
  obtain ⟨-, hfinal⟩ := isIdentifier_names_iff s ht hds hsymbols
  refine ⟨hds, symbols, hsymbols, ?_⟩
  cases ht
  have hmethod : s.resolver.LosesForm (.ofName "Foo_2d") :=
    .digit (by decide) (by decide) rfl (by decide)
  have htrimmed : s.resolver.LosesForm (.ofName "lib2d") :=
    .digit (by decide) (by decide) rfl (by decide)
  have hrenamed : s.resolver.LosesForm (.ofName "Foo_open") := .lineFeed (by decide) rfl (by decide)
  have hkept : ¬ s.resolver.LosesForm (.ofName "Foo_close") := by
    rintro (⟨-, hname, -⟩ | ⟨-, -, -, hdigit⟩)
    · contradiction
    · exact absurd hdigit (by decide)
  have hfails : ∀ {x : ResolvedSymbol} {d : FunctionDecl}, s.resolver.LosesForm d →
      (isIdentifier x.finalName ↔ ¬ s.resolver.LosesForm d) → isIdentifier x.finalName = false :=
    fun hloses hiff => Bool.eq_false_iff.mpr fun hname => hiff.mp hname hloses
  simp only [ds, List.forall₂_cons_left_iff, List.forall₂_nil_left_iff] at hfinal
  obtain ⟨a, _, ⟨-, -, ha⟩, ⟨b, _, ⟨-, -, hb⟩, ⟨c, _, ⟨-, -, hc⟩, ⟨e, _, ⟨-, -, he⟩, rfl, rfl⟩,
    rfl⟩, rfl⟩, hnamed⟩ := hfinal
  rw [hnamed]
  simp only [List.map_cons, List.map_nil, hfails hmethod ha, hfails htrimmed hb,
    hfails hrenamed hc, he.mpr hkept]

end ResolverSession

end BindingNames
