import BindingNames.Proofs.ReceiverCheck
import BindingNames.Proofs.RuleAddressing

/-!
Where a base name comes from. The receiver check puts the raw name in place of all others. Without
it a rule that renames has its way, and only then does the derived name count, which the class of a
member function or the placement gives. The role, the form of output and the warning are those of
the placement. So two resolvers that place a declaration alike differ in its name at most, and they
have the same name for it if they derive the same one and rename it alike.
-/

namespace BindingNames

/-- The symbol under another base name, which is its final name too. -/
def ResolvedSymbol.withBaseName (s : ResolvedSymbol) (name : Text) : ResolvedSymbol :=
  { s with baseName := name, finalName := name }

theorem ResolvedSymbol.withBaseName_self {s : ResolvedSymbol} (h : s.finalName = s.baseName) :
    s.withBaseName s.baseName = s := by
  cases s with
  | mk decl base final role emit =>
      cases h
      rfl

namespace Resolver

/-- The rule for its role leaves a declaration the name that it has in the header. -/
inductive KeepsName (r : Resolver) (d : FunctionDecl) : Prop where
  | keepFunction {rule : NamingRule} (hmember : d.memberOf = none)
      (hrule : r.table.roleRule d.rawName = some rule) (hdirective : rule.directive = .keepFunction)
  | forced {rule : NamingRule} (hmember : d.memberOf = none)
      (hrule : r.table.roleRule d.rawName = some rule) (hdirective : rule.directive = .keepMethod)
      (hforce : rule.force)
  | unknownTarget {w : Warning} (hwarns : r.Warns d w)

/-- The receiver check is on, and makes a function of a method. -/
def Demotes (r : Resolver) (d : FunctionDecl) : Prop :=
  r.receiverCheck ∧ ¬ KeepsPlace d ((r.withReceiverCheck false).resolve d).symbol

/-- The name of a declaration that is neither renamed nor made a function. -/
def derivedName (r : Resolver) (d : FunctionDecl) : Text :=
  match d.memberOf with
  | some _ => r.memberName d
  | none => if (r.place d).verbatim then (r.place d).base else r.style.apply (r.place d).base

/-- The resolver with another style and other beginnings to trim. -/
def withNaming (r : Resolver) (style : NameStyle) (trimming : Trimming) : Resolver :=
  { r with style := style, trimming := trimming }

/-- Two resolvers place a declaration alike, but for its name. -/
structure PlacesAlike (r r' : Resolver) (d : FunctionDecl) : Prop where
  receiverCheck : r'.receiverCheck = r.receiverCheck
  role : (r'.place d).role = (r.place d).role
  emit : (r'.place d).emit = (r.place d).emit
  warning : (r'.place d).warning = (r.place d).warning

variable {r r' : Resolver} {d : FunctionDecl}

/-! ### Names that are kept -/

theorem KeepsName.roleRule_ne_none (h : r.KeepsName d) : r.table.roleRule d.rawName ≠ none := by
  rcases h with ⟨-, hrule, -⟩ | ⟨-, hrule, -, -⟩ | ⟨⟨-, hrule, -⟩⟩ <;> simp [hrule]

/-- The placements that keep the name are those that the three kinds of rules make. -/
theorem Places.verbatim_iff {p : Placement} (hp : r.Places d p) (hmember : d.memberOf = none) :
    p.verbatim ↔ r.KeepsName d := by
  cases hp with
  | owned hrule => exact iff_of_false Bool.false_ne_true fun h => h.roleRule_ne_none hrule
  | plain hrule => exact iff_of_false Bool.false_ne_true fun h => h.roleRule_ne_none hrule
  | kept hrule hdirective => exact iff_of_true rfl (.keepFunction hmember hrule hdirective)
  | unknown hrule hdirective htarget =>
      exact iff_of_true rfl
        (.unknownTarget ((Places.unknown hrule hdirective htarget).warns hmember rfl))
  | forced hrule hdirective hforce =>
      exact iff_of_true rfl (.forced hmember hrule hdirective hforce)
  | ruled hrule hdirective hforce htarget hknown =>
      refine iff_of_false Bool.false_ne_true ?_
      rintro (⟨-, hrule', hkeep⟩ | ⟨-, hrule', hmethod, hforce'⟩ | hwarns)
      · cases hrule.symm.trans hrule'
        exact hdirective hkeep
      · cases hrule.symm.trans hrule'
        exact hforce ⟨hmethod, hforce'⟩
      · have hkept := (Places.ruled hrule hdirective hforce htarget hknown).eq_keptFunction hwarns
        exact absurd (congrArg Placement.verbatim hkept) Bool.false_ne_true

/-- A name that is kept belongs to a function or to a method that is emitted as one. -/
theorem Places.lacksReceiver_of_verbatim {p : Placement} (hp : r.Places d p) (h : p.verbatim) :
    lacksReceiver d p = false := by
  cases hp with
  | kept => rfl
  | unknown => rfl
  | forced =>
      cases hparameters : d.parameters with
      | nil => simp [lacksReceiver, hparameters]
      | cons first rest => simp [lacksReceiver, hparameters]
  | _ => contradiction

/-! ### The receiver check -/

theorem demotes_iff :
    r.Demotes d ↔ r.receiverCheck ∧ d.memberOf = none ∧ lacksReceiver d (r.place d) := by
  rw [Demotes, keepsPlace_resolve_iff, Classical.not_imp, Bool.not_eq_false]

theorem demoted_iff : (r.resolve d).demoted ↔ r.Demotes d := by
  rw [demotes_iff]
  cases hmember : d.memberOf with
  | some owner => simp [resolve, hmember, resolveMember]
  | none =>
      simp only [resolve, hmember, resolveFree]
      by_cases hlacks : r.receiverCheck && lacksReceiver d (r.place d)
      · rw [if_pos hlacks]
        obtain ⟨hcheck, hlacks⟩ := Bool.and_eq_true_iff.mp hlacks
        exact iff_of_true rfl ⟨hcheck, trivial, hlacks⟩
      · rw [if_neg hlacks]
        refine iff_of_false Bool.false_ne_true fun h => ?_
        exact hlacks (Bool.and_eq_true_iff.mpr ⟨h.1, h.2.2⟩)

theorem KeepsName.memberOf_eq_none (h : r.KeepsName d) : d.memberOf = none := by
  rcases h with ⟨hmember, -, -⟩ | ⟨hmember, -, -, -⟩ | ⟨⟨hmember, -, -⟩⟩ <;> exact hmember

/-- Whatever keeps its name stays what it is. -/
theorem KeepsName.not_demotes (h : r.KeepsName d) : ¬ r.Demotes d := by
  have hplaces := r.places_place d
  have hverbatim : (r.place d).verbatim := (hplaces.verbatim_iff h.memberOf_eq_none).mpr h
  rw [demotes_iff, hplaces.lacksReceiver_of_verbatim hverbatim]
  simp

/-! ### Where base names come from -/

theorem derivedName_of_memberOf_eq_none (hmember : d.memberOf = none) :
    r.derivedName d =
      if (r.place d).verbatim then (r.place d).base else r.style.apply (r.place d).base := by
  simp only [derivedName, hmember]

theorem baseName_of_demotes (h : r.Demotes d) : (r.resolve d).symbol.baseName = d.rawName := by
  obtain ⟨hcheck, hmember, hlacks⟩ := demotes_iff.mp h
  simp only [resolve, hmember, resolveFree, hcheck, hlacks]
  rfl

theorem baseName_of_not_demotes (h : ¬ r.Demotes d) :
    (r.resolve d).symbol.baseName = (r.newName (ruleKey d)).getD (r.derivedName d) := by
  cases hmember : d.memberOf with
  | some owner =>
      simp only [resolve, hmember, resolveMember, ruleKey_of_memberOf_eq_some hmember, derivedName]
      rfl
  | none =>
      have hstays : (r.receiverCheck && lacksReceiver d (r.place d)) = false := by
        rw [← Bool.not_eq_true, Bool.and_eq_true]
        exact fun hdemoted => h (demotes_iff.mpr ⟨hdemoted.1, hmember, hdemoted.2⟩)
      simp only [resolve, hmember, resolveFree, hstays, ruleKey_of_memberOf_eq_none hmember,
        derivedName]
      rfl

/-! ### Two resolvers -/

namespace PlacesAlike

theorem lacksReceiver_eq (h : PlacesAlike r r' d) :
    lacksReceiver d (r'.place d) = lacksReceiver d (r.place d) := by
  simp only [lacksReceiver, h.role, h.emit]

theorem demotes_iff (h : PlacesAlike r r' d) : r'.Demotes d ↔ r.Demotes d := by
  rw [Resolver.demotes_iff, Resolver.demotes_iff, h.receiverCheck, h.lacksReceiver_eq]

/-- Where a declaration is placed alike, its symbols differ in the name at most. -/
theorem symbol_eq (h : PlacesAlike r r' d) :
    (r'.resolve d).symbol =
      (r.resolve d).symbol.withBaseName (r'.resolve d).symbol.baseName := by
  cases hmember : d.memberOf with
  | some owner =>
      simp only [resolve, hmember]
      rfl
  | none =>
      simp only [resolve, hmember, resolveFree, h.receiverCheck, h.lacksReceiver_eq, h.role, h.emit]
      split <;> rfl

/-- The name is the same too if both derive the same one and rename it alike; the receiver check
does not ask for it. -/
theorem symbol_eq_of_name_eq (h : PlacesAlike r r' d)
    (hname : r.Demotes d ∨ (r'.newName (ruleKey d)).getD (r'.derivedName d) =
      (r.newName (ruleKey d)).getD (r.derivedName d)) :
    (r'.resolve d).symbol = (r.resolve d).symbol := by
  have hbase : (r'.resolve d).symbol.baseName = (r.resolve d).symbol.baseName := by
    by_cases hdemotes : r.Demotes d
    · rw [baseName_of_demotes hdemotes, baseName_of_demotes (h.demotes_iff.mpr hdemotes)]
    · rw [baseName_of_not_demotes hdemotes,
        baseName_of_not_demotes (h.demotes_iff.not.mpr hdemotes)]
      exact hname.resolve_left hdemotes
  rw [h.symbol_eq, hbase, ResolvedSymbol.withBaseName_self (r.resolve_finalName d)]

theorem warning_eq (h : PlacesAlike r r' d) : (r'.resolve d).warning = (r.resolve d).warning := by
  cases hmember : d.memberOf with
  | some owner =>
      simp only [resolve, hmember]
      rfl
  | none =>
      simp only [resolve, hmember, resolveFree, h.receiverCheck, h.lacksReceiver_eq, h.warning]
      split <;> rfl

end PlacesAlike

/-! ### Styles and trimming -/

/-- Only the placement of a plain function looks at the beginnings to trim, and none does at the
style. -/
theorem place_withNaming (h : ¬ (r.table.roleRule d.rawName = none ∧ r.ownerOf d = none))
    (style : NameStyle) (trimming : Trimming) :
    (r.withNaming style trimming).place d = r.place d := by
  have howner : (r.withNaming style trimming).ownerOf d = r.ownerOf d := rfl
  have hrule : (r.withNaming style trimming).table.roleRule d.rawName =
      r.table.roleRule d.rawName := rfl
  simp only [place, howner, hrule]
  cases hrole : r.table.roleRule d.rawName with
  | some rule => rfl
  | none =>
      cases hnone : r.ownerOf d with
      | some owner => rfl
      | none => exact absurd ⟨hrole, hnone⟩ h

theorem placesAlike_withNaming (r : Resolver) (style : NameStyle) (trimming : Trimming)
    (d : FunctionDecl) : PlacesAlike r (r.withNaming style trimming) d := by
  by_cases h : r.table.roleRule d.rawName = none ∧ r.ownerOf d = none
  · have hplace := r.place_of_plain h.1 h.2
    have hplace' := (r.withNaming style trimming).place_of_plain (d := d) h.1 h.2
    refine ⟨rfl, ?_, ?_, ?_⟩ <;> rw [hplace, hplace']
  · have hplace := place_withNaming h style trimming
    refine ⟨rfl, ?_, ?_, ?_⟩ <;> rw [hplace]

end Resolver

namespace ResolverSession

/-! ### The answer of a session -/

variable {s : ResolverSession} {d : FunctionDecl}

theorem snd_resolve_eq_ok_iff {symbol : ResolvedSymbol} :
    (s.resolve d).2 = .ok symbol ↔
      s.resolver.fault? d = none ∧ (s.resolver.resolve d).symbol = symbol := by
  cases h : s.resolver.fault? d with
  | none => simp [snd_resolve, Resolver.resolve?, h, Except.map]
  | some e => simp [snd_resolve, Resolver.resolve?, h, Except.map]

theorem snd_resolve_eq_error_iff {e : Failure} :
    (s.resolve d).2 = .error e ↔ s.resolver.fault? d = some e := by
  cases h : s.resolver.fault? d with
  | none => simp [snd_resolve, Resolver.resolve?, h, Except.map]
  | some e => simp [snd_resolve, Resolver.resolve?, h, Except.map]

end ResolverSession

end BindingNames
