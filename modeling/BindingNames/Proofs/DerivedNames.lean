import BindingNames.Proofs.Mapping
import BindingNames.Proofs.Renaming

/-!
What a style and the beginnings to trim change. A name that is given stays as it is: the new name of
a rule, the raw name of a function that is kept, forced or made of a method, and the names of
constructors and destructors. Every other name is derived, and has the style. Beginnings are cut off
plain functions alone, at most one of them, and never the whole name. The role, the form of output
and the warning depend on neither.
-/

namespace BindingNames

/-- What is left of a name when the first of some texts that it begins with is cut off. An empty
text is passed over. -/
inductive CutsFirst (prefixes : List Text) (name : Text) : Text → Prop where
  | kept (hnone : ∀ p ∈ prefixes, p ≠ [] → ¬ p <+: name) : CutsFirst prefixes name name
  | cut {front back : List Text} {p rest : Text} (hprefixes : prefixes = front ++ p :: back)
      (hfront : ∀ q ∈ front, q ≠ [] → ¬ q <+: name) (hp : p ≠ []) (hname : name = p ++ rest) :
      CutsFirst prefixes name rest

namespace Resolver

/-- The name of a declaration comes from the header, from a rule that renames or from its kind. -/
inductive HasGivenName (r : Resolver) (d : FunctionDecl) : Prop where
  | renamed {rule : NamingRule} (hrule : r.table.renameRule (ruleKey d) = some rule)
  | kept (hkeeps : r.KeepsName d)
  | demoted (hdemotes : r.Demotes d)
  | construction {owner : Text} (hmember : d.memberOf = some owner)
      (hkind : d.memberKind = some .construction)
  | destruction {owner : Text} (hmember : d.memberOf = some owner)
      (hkind : d.memberKind = some .destruction)

/-- A function of no class, for which there is neither a rule for its role nor an owner. -/
structure IsUnplaced (r : Resolver) (d : FunctionDecl) : Prop where
  memberOf : d.memberOf = none
  roleRule : r.table.roleRule d.rawName = none
  ownerOf : r.ownerOf d = none

end Resolver

/-! ### Texts that are cut off -/

namespace CutsFirst

variable {prefixes : List Text} {p name rest : Text}

theorem nil_iff : CutsFirst [] name rest ↔ rest = name := by
  constructor
  · rintro (hnone | ⟨hprefixes, -, -, -⟩)
    · rfl
    · simp at hprefixes
  · rintro rfl
    exact .kept (by simp)

theorem cons_iff :
    CutsFirst (p :: prefixes) name rest ↔
      (p ≠ [] ∧ name = p ++ rest) ∨ ((p ≠ [] → ¬ p <+: name) ∧ CutsFirst prefixes name rest) := by
  constructor
  · rintro (hnone | ⟨hprefixes, hfront, hp, hname⟩)
    · obtain ⟨hfirst, hnone⟩ := List.forall_mem_cons.mp hnone
      exact .inr ⟨hfirst, .kept hnone⟩
    · rename_i front back q
      cases front with
      | nil =>
          cases hprefixes
          exact .inl ⟨hp, hname⟩
      | cons first front =>
          cases hprefixes
          obtain ⟨hfirst, hfront⟩ := List.forall_mem_cons.mp hfront
          exact .inr ⟨hfirst, .cut rfl hfront hp hname⟩
  · rintro (⟨hp, hname⟩ | ⟨hfirst, hnone | ⟨rfl, hfront, hq, hname⟩⟩)
    · exact .cut (List.nil_append _).symm (by simp) hp hname
    · exact .kept (List.forall_mem_cons.mpr ⟨hfirst, hnone⟩)
    · exact .cut (List.cons_append ..).symm (List.forall_mem_cons.mpr ⟨hfirst, hfront⟩) hq hname

end CutsFirst

/-- The texts of a list are tried in turn. -/
theorem Trimming.cut_ofMembers_eq_iff {prefixes : List Text} {name rest : Text} :
    (Trimming.ofMembers (prefixes.map Value.text)).cut name = rest ↔
      CutsFirst prefixes name rest := by
  induction prefixes with
  | nil =>
      rw [CutsFirst.nil_iff]
      exact eq_comm
  | cons p prefixes ih =>
      rw [CutsFirst.cons_iff, ← ih]
      cases p with
      | nil =>
          -- an empty text is no beginning, so the setting leaves it out
          constructor
          · exact fun h => .inr ⟨fun hne => absurd rfl hne, h⟩
          · exact fun h => (h.resolve_left fun hfirst => hfirst.1 rfl).2
      | cons c cs =>
          have hcut : (Trimming.ofMembers (((c :: cs) :: prefixes).map Value.text)).cut name =
              if Text.beginsWith name (c :: cs) then name.drop (c :: cs).length
              else (Trimming.ofMembers (prefixes.map Value.text)).cut name := rfl
          rw [hcut]
          by_cases hbegins : Text.beginsWith name (c :: cs)
          · rw [if_pos hbegins]
            have happend := Text.append_drop_of_beginsWith hbegins
            constructor
            · rintro rfl
              exact .inl ⟨List.cons_ne_nil c cs, happend.symm⟩
            · rintro (⟨-, hname⟩ | ⟨hnot, -⟩)
              · exact List.append_cancel_left (happend.trans hname)
              · exact absurd (Text.beginsWith_iff.mp hbegins) (hnot (List.cons_ne_nil c cs))
          · rw [if_neg hbegins]
            have hnot : ¬ (c :: cs) <+: name := mt Text.beginsWith_iff.mpr hbegins
            constructor
            · exact fun h => .inr ⟨fun _ => hnot, h⟩
            · rintro (⟨-, rfl⟩ | ⟨-, h⟩)
              · exact absurd (List.prefix_append ..) hnot
              · exact h

namespace Resolver

variable {r : Resolver} {d : FunctionDecl}

/-! ### Given names -/

/-- A given name is the same under every style, with any beginnings to trim. -/
theorem symbol_withNaming {drafts : List RuleDraft}
    (htable : RuleTable.ofDrafts drafts = .ok r.table) (h : r.HasGivenName d) (style : NameStyle)
    (trimming : Trimming) :
    ((r.withNaming style trimming).resolve d).symbol = (r.resolve d).symbol := by
  have halike := r.placesAlike_withNaming style trimming d
  cases h with
  | demoted hdemotes => exact halike.symbol_eq_of_name_eq (.inl hdemotes)
  | renamed hrule => exact symbol_withNaming_of_renamed htable hrule style trimming
  | kept hkeeps =>
      have hmember := hkeeps.memberOf_eq_none
      have hverbatim : (r.place d).verbatim := ((r.places_place d).verbatim_iff hmember).mpr hkeeps
      have hplace := place_withNaming (fun h => hkeeps.roleRule_ne_none h.1) style trimming
      refine halike.symbol_eq_of_name_eq (.inr ?_)
      simp only [derivedName_of_memberOf_eq_none hmember, hplace, if_pos hverbatim]
      rfl
  | construction hmember hkind =>
      refine halike.symbol_eq_of_name_eq (.inr ?_)
      simp only [derivedName, hmember, memberName, hkind]
      rfl
  | destruction hmember hkind =>
      refine halike.symbol_eq_of_name_eq (.inr ?_)
      simp only [derivedName, hmember, memberName, hkind]
      rfl

/-! ### Derived names -/

/-- A function of no class has no given name if no rule is found for it, and it is no method without
a receiver. -/
theorem not_hasGivenName (hmember : d.memberOf = none)
    (hrole : r.table.roleRule d.rawName = none)
    (hrename : r.table.renameRule (ruleKey d) = none) (hstays : ¬ r.Demotes d) :
    ¬ r.HasGivenName d := by
  rintro (hrenamed | hkeeps | hdemotes | ⟨howner, -⟩ | ⟨howner, -⟩)
  · simp [hrename] at hrenamed
  · exact hkeeps.roleRule_ne_none hrole
  · exact hstays hdemotes
  · simp [hmember] at howner
  · simp [hmember] at howner

theorem IsUnplaced.not_demotes (h : r.IsUnplaced d) : ¬ r.Demotes d := by
  rw [demotes_iff, place_of_plain h.roleRule h.ownerOf]
  rintro ⟨-, -, hlacks⟩
  exact Bool.false_ne_true hlacks

/-- What is not given is derived. -/
theorem baseName_of_not_hasGivenName (h : ¬ r.HasGivenName d) (style : NameStyle)
    (trimming : Trimming) :
    ((r.withNaming style trimming).resolve d).symbol.baseName =
      (r.withNaming style trimming).derivedName d := by
  have hstays : ¬ (r.withNaming style trimming).Demotes d :=
    (r.placesAlike_withNaming style trimming d).demotes_iff.not.mpr fun hd => h (.demoted hd)
  have hnone : (r.withNaming style trimming).newName (ruleKey d) = none := by
    cases hrule : r.table.renameRule (ruleKey d) with
    | none =>
        have hnone : r.newName (ruleKey d) = none := by rw [newName, hrule, Option.bind_none]
        exact hnone
    | some rule => exact absurd (.renamed hrule) h
  rw [baseName_of_not_demotes hstays, hnone, Option.getD_none]

/-- The derived name of a plain function has the style, and is cut before. -/
theorem IsUnplaced.derivedName_withNaming (h : r.IsUnplaced d) (style : NameStyle)
    (trimming : Trimming) :
    (r.withNaming style trimming).derivedName d =
      style.apply (if trimming.cut d.rawName = [] then d.rawName else trimming.cut d.rawName) := by
  have hplace := place_of_plain (r := r.withNaming style trimming) h.roleRule h.ownerOf
  simp only [derivedName_of_memberOf_eq_none h.memberOf, hplace, trim, List.isEmpty_iff]
  rfl

/-- The derived names of all other declarations have the style and are cut nowhere. -/
theorem derivedName_withNaming (hgiven : ¬ r.HasGivenName d) (hplaced : ¬ r.IsUnplaced d)
    (style : NameStyle) (trimming : Trimming) :
    (r.withNaming style trimming).derivedName d =
      style.apply ((r.withNaming .none .none).derivedName d) := by
  cases hmember : d.memberOf with
  | some owner =>
      simp only [derivedName, hmember, memberName]
      cases hkind : d.memberKind with
      | none => rfl
      | some kind =>
          cases kind with
          | method => rfl
          | construction => exact absurd (.construction hmember hkind) hgiven
          | destruction => exact absurd (.destruction hmember hkind) hgiven
  | none =>
      -- a name that a placement keeps would be given
      have hverbatim : ¬ (r.place d).verbatim := fun h =>
        hgiven (.kept (((r.places_place d).verbatim_iff hmember).mp h))
      have hplace := place_withNaming fun h => hplaced ⟨hmember, h.1, h.2⟩
      simp only [derivedName_of_memberOf_eq_none hmember, hplace, if_neg hverbatim]
      rfl

/-- A style and the beginnings to trim change derived names and nothing else. The result is compared
with that under no style and without beginnings to trim. The symbols differ in the base name at
most, and the warnings are equal. A given name is the same. That of a plain function has the style,
after the first of the texts that it begins with is cut off, unless nothing would be left. Every
other name is the one without a style in that style. -/
theorem naming_changes_derived_names_only (r : Resolver) (ws : List Warning)
    {drafts : List RuleDraft} (htable : RuleTable.ofDrafts drafts = .ok r.table)
    (style : NameStyle) (prefixes : List Text) (d : FunctionDecl) :
    let trimming := Trimming.ofMembers (prefixes.map Value.text)
    let styled := ResolverSession.resolve ⟨r.withNaming style trimming, ws⟩ d
    let plain := ResolverSession.resolve ⟨r.withNaming .none .none, ws⟩ d
    styled.1.warnings = plain.1.warnings ∧
    ∃ s s₀, styled.2 = .ok s ∧ plain.2 = .ok s₀ ∧ s = s₀.withBaseName s.baseName ∧
      (r.HasGivenName d → s = s₀) ∧
      (r.IsUnplaced d → r.table.renameRule (ruleKey d) = none →
        ∃ rest, CutsFirst prefixes d.rawName rest ∧
          s.baseName = style.apply (if rest = [] then d.rawName else rest)) ∧
      (¬ r.HasGivenName d → ¬ r.IsUnplaced d → s.baseName = style.apply s₀.baseName) := by
  intro trimming styled plain
  have halike : PlacesAlike (r.withNaming .none .none) (r.withNaming style trimming) d :=
    (r.withNaming .none .none).placesAlike_withNaming style trimming d
  have hstyled : styled.2 = .ok ((r.withNaming style trimming).resolve d).symbol := by
    simp only [styled, ResolverSession.snd_resolve]
    rw [resolve?_of_wrong_eq_none (Trimming.wrong_ofMembers_texts prefixes)]
    rfl
  have hplain : plain.2 = .ok ((r.withNaming .none .none).resolve d).symbol := by
    simp only [plain, ResolverSession.snd_resolve]
    rw [resolve?_of_wrong_eq_none rfl]
    rfl
  refine ⟨?_, _, _, hstyled, hplain, halike.symbol_eq, fun hgiven => ?_, fun hd hrule => ?_,
    fun hgiven hd => ?_⟩
  · simp only [styled, plain, ResolverSession.fst_resolve, halike.warning_eq]
  · rw [symbol_withNaming htable hgiven, symbol_withNaming htable hgiven]
  · have hderived := not_hasGivenName hd.memberOf hd.roleRule hrule hd.not_demotes
    refine ⟨_, Trimming.cut_ofMembers_eq_iff.mp rfl, ?_⟩
    rw [baseName_of_not_hasGivenName hderived, hd.derivedName_withNaming]
  · rw [baseName_of_not_hasGivenName hgiven, baseName_of_not_hasGivenName hgiven]
    exact derivedName_withNaming hgiven hd style trimming

/-- A plain function, one that a rule keeps and a method, in the camel style. The first one loses a
beginning, the second one neither that nor its style, and the third one has the style alone. -/
theorem naming_changes_derived_names_only_camel :
    let rules : List RuleDraft := [.keepFunction (.text "lib_raw") .exact]
    let prefixes : List Text := ["", "lib_", "li"]
    ∃ t, RuleTable.ofDrafts rules = .ok t ∧
      let r : Resolver := ⟨[⟨"Foo", true, none⟩], t, .none, .none, true⟩
      let styled := r.withNaming .camel (.ofMembers (prefixes.map Value.text))
      r.IsUnplaced (.ofName "lib_open") ∧ r.HasGivenName (.ofName "lib_raw") ∧
        ¬ r.HasGivenName (.ofName "Foo_lib_all") ∧ ¬ r.IsUnplaced (.ofName "Foo_lib_all") ∧
        (∃ s, (ResolverSession.resolve ⟨styled, []⟩ (.ofName "lib_open")).2 = .ok s ∧
          s.baseName = "Open") ∧
        (∃ s, (ResolverSession.resolve ⟨styled, []⟩ (.ofName "lib_raw")).2 = .ok s ∧
          (ResolverSession.resolve ⟨r, []⟩ (.ofName "lib_raw")).2 = .ok s) ∧
        ∃ s, (ResolverSession.resolve ⟨styled, []⟩ (.ofName "Foo_lib_all")).2 = .ok s ∧
          s.baseName = "LibAll" := by
  intro rules prefixes
  obtain ⟨t, ht⟩ : ∃ t, RuleTable.ofDrafts rules = .ok t := ⟨_, rfl⟩
  refine ⟨t, ht, ?_⟩
  intro r styled
  have hchanges := naming_changes_derived_names_only r [] ht .camel prefixes
  cases ht
  have hunplaced : r.IsUnplaced (.ofName "lib_open") := ⟨rfl, by decide, by decide⟩
  have hkept : r.HasGivenName (.ofName "lib_raw") := .kept (.keepFunction rfl rfl rfl)
  have hderived : ¬ r.HasGivenName (.ofName "Foo_lib_all") :=
    not_hasGivenName rfl (by decide) (by decide) fun h => absurd (demotes_iff.mp h).2.2 (by decide)
  have howned : ¬ r.IsUnplaced (.ofName "Foo_lib_all") := fun h => absurd h.ownerOf (by decide)
  refine ⟨hunplaced, hkept, hderived, howned, ?_, ?_, ?_⟩
  · obtain ⟨-, s, -, hs, -, -, -, hcut, -⟩ := hchanges (.ofName "lib_open")
    obtain ⟨rest, hrest, hname⟩ := hcut hunplaced (by decide)
    cases Trimming.cut_ofMembers_eq_iff.mpr hrest
    exact ⟨s, hs, hname.trans (by decide)⟩
  · obtain ⟨-, s, s₀, hs, hs₀, -, hsame, -⟩ := hchanges (.ofName "lib_raw")
    cases hsame hkept
    exact ⟨s, hs, hs₀⟩
  · obtain ⟨-, s, s₀, hs, hs₀, -, -, -, hstyled⟩ := hchanges (.ofName "Foo_lib_all")
    cases hs₀
    exact ⟨s, hs, (hstyled hderived howned).trans (by decide)⟩

end Resolver

end BindingNames
