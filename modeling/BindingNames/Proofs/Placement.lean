import BindingNames.Resolver

/-!
The ways in which a declaration is placed and resolved. Without a role rule it becomes a method of
its owner, or a plain function if it has none. A rule keeps it as a function, or makes it a method
of a known type, emitted as a function on demand; a rule whose type is unknown leaves a function and
a warning. `Places` has one constructor for each way with all that is known there, so that a fact
about placements is a case analysis and never opens `place`; `Resolves` does the same for `resolve`.
-/

namespace BindingNames.Resolver

inductive Places (r : Resolver) (d : FunctionDecl) : Placement → Prop where
  /-- No rule and an owner. -/
  | owned {owner : Text} (hrule : r.table.roleRule d.rawName = none)
      (howner : r.ownerOf d = some owner) : Places r d (strippedMethod d.rawName owner)
  /-- Neither a rule nor an owner. -/
  | plain (hrule : r.table.roleRule d.rawName = none) (howner : r.ownerOf d = none) :
      Places r d ⟨r.trim d.rawName, .function, false, false, none⟩
  | kept {rule : NamingRule} (hrule : r.table.roleRule d.rawName = some rule)
      (hdirective : rule.directive = .keepFunction) :
      Places r d (keptFunction d.rawName none)
  | unknown {rule : NamingRule} (hrule : r.table.roleRule d.rawName = some rule)
      (hdirective : rule.directive ≠ .keepFunction)
      (htarget : ∀ t, targetOf (r.ownerOf d) rule = some t → r.knows t = false) :
      Places r d (keptFunction d.rawName
        (some (unknownTargetWarning d.rawName rule (targetOf (r.ownerOf d) rule))))
  | forced {rule : NamingRule} {target : Text}
      (hrule : r.table.roleRule d.rawName = some rule)
      (hdirective : rule.directive = .keepMethod) (hforce : rule.force)
      (htarget : targetOf (r.ownerOf d) rule = some target) (hknown : r.knows target) :
      Places r d ⟨d.rawName, .method target, true, true, none⟩
  | ruled {rule : NamingRule} {target : Text}
      (hrule : r.table.roleRule d.rawName = some rule)
      (hdirective : rule.directive ≠ .keepFunction)
      (hforce : ¬ (rule.directive = .keepMethod ∧ rule.force))
      (htarget : targetOf (r.ownerOf d) rule = some target) (hknown : r.knows target) :
      Places r d (strippedMethod d.rawName target)

inductive Resolves (r : Resolver) (d : FunctionDecl) : Resolution → Prop where
  | member {owner : Text} (hmember : d.memberOf = some owner) :
      Resolves r d
        ⟨.initial d ((r.newName d.symbolName).getD (r.memberName d)) (.method owner) false,
          none, false⟩
  /-- A method that gets no receiver is emitted as a function, and keeps its name. -/
  | demoted {p : Placement} {owner : Text} (hmember : d.memberOf = none) (hplaces : r.Places d p)
      (hrole : p.role = .method owner) :
      Resolves r d ⟨.initial d d.rawName (.method owner) true, p.warning, true⟩
  | placed {p : Placement} (hmember : d.memberOf = none) (hplaces : r.Places d p) :
      Resolves r d
        ⟨.initial d
            ((r.newName d.rawName).getD (if p.verbatim then p.base else r.style.apply p.base))
            p.role p.emit,
          p.warning, false⟩

theorem places_place (r : Resolver) (d : FunctionDecl) : r.Places d (r.place d) := by
  simp only [place]
  cases hrule : r.table.roleRule d.rawName with
  | none =>
      cases howner : r.ownerOf d with
      | none => exact .plain hrule howner
      | some owner => exact .owned hrule howner
  | some rule =>
      by_cases hkeep : rule.directive = .keepFunction
      · simp only [if_pos hkeep]
        exact .kept hrule hkeep
      · simp only [if_neg hkeep]
        cases htarget : (targetOf (r.ownerOf d) rule).filter r.knows with
        | none =>
            refine .unknown hrule hkeep fun t ht => ?_
            rw [ht] at htarget
            simpa using htarget
        | some target =>
            obtain ⟨htarget, hknown⟩ := Option.filter_eq_some_iff.mp htarget
            by_cases hforce : rule.directive = .keepMethod ∧ rule.force
            · simp only [if_pos hforce]
              exact .forced hrule hforce.1 hforce.2 htarget hknown
            · simp only [if_neg hforce]
              exact .ruled hrule hkeep hforce htarget hknown

theorem place_of_owned {r : Resolver} {d : FunctionDecl} {owner : Text}
    (hrule : r.table.roleRule d.rawName = none) (howner : r.ownerOf d = some owner) :
    r.place d = strippedMethod d.rawName owner := by
  simp only [place, hrule, howner]

theorem place_of_plain {r : Resolver} {d : FunctionDecl}
    (hrule : r.table.roleRule d.rawName = none) (howner : r.ownerOf d = none) :
    r.place d = ⟨r.trim d.rawName, .function, false, false, none⟩ := by
  simp only [place, hrule, howner]

/-- A rule that strips the owner, without a type of its own, makes a method of a known owner. -/
theorem place_of_stripOwner {r : Resolver} {d : FunctionDecl} {rule : NamingRule}
    (hrule : r.table.roleRule d.rawName = some rule) (hstrip : rule.directive = .stripOwner)
    (htarget : nonempty? rule.target = none) :
    r.place d =
      ((r.ownerOf d).filter r.knows).elim
        (keptFunction d.rawName (some (unknownTargetWarning d.rawName rule (r.ownerOf d))))
        (strippedMethod d.rawName) := by
  simp only [place, hrule, hstrip, targetOf, htarget, Option.none_or, reduceCtorEq, if_false,
    false_and]
  cases (r.ownerOf d).filter r.knows <;> rfl

theorem lacksReceiver_eq_true {d : FunctionDecl} {p : Placement} (h : lacksReceiver d p) :
    ∃ owner, p.role = .method owner := by
  cases hrole : p.role with
  | function => simp [lacksReceiver, hrole] at h
  | method owner => exact ⟨owner, rfl⟩

theorem resolves_resolve (r : Resolver) (d : FunctionDecl) : r.Resolves d (r.resolve d) := by
  cases hmember : d.memberOf with
  | some owner =>
      simp only [resolve, hmember, resolveMember]
      exact .member hmember
  | none =>
      simp only [resolve, hmember, resolveFree]
      split
      · rename_i hdemoted
        obtain ⟨owner, hrole⟩ := lacksReceiver_eq_true (Bool.and_eq_true_iff.mp hdemoted).2
        rw [hrole]
        exact .demoted hmember (r.places_place d) hrole
      · exact .placed hmember (r.places_place d)

theorem Places.rawName_of_warning {r : Resolver} {d : FunctionDecl} {p : Placement}
    (hp : r.Places d p) {w : Warning} (h : p.warning = some w) : w.rawName = d.rawName := by
  cases hp with
  | unknown hrule hdirective htarget =>
      cases h
      rfl
  | _ => contradiction

theorem Resolves.rawName_of_warning {r : Resolver} {d : FunctionDecl} {x : Resolution}
    (hx : r.Resolves d x) {w : Warning} (h : x.warning = some w) : w.rawName = d.rawName := by
  cases hx with
  | member => contradiction
  | demoted _ hplaces => exact hplaces.rawName_of_warning h
  | placed _ hplaces => exact hplaces.rawName_of_warning h

theorem longestOwner_mem {name : Text} {best : Option Text} {types : List TypeDecl}
    {owner : Text} (h : longestOwner name best types = some owner) :
    best = some owner ∨ ∃ t ∈ types, t.name = owner ∧ belongsTo name owner := by
  induction types generalizing best with
  | nil => exact .inl h
  | cons t rest ih =>
      have later : ∀ {b : Option Text}, longestOwner name b rest = some owner →
          (b = some owner → best = some owner ∨ (t.name = owner ∧ belongsTo name owner)) →
          best = some owner ∨ ∃ u ∈ t :: rest, u.name = owner ∧ belongsTo name owner := by
        intro b hb hbest
        rcases ih hb with hb | ⟨u, hu, hname⟩
        · exact (hbest hb).imp_right fun hname => ⟨t, List.mem_cons_self, hname⟩
        · exact .inr ⟨u, List.mem_cons_of_mem t hu, hname⟩
      simp only [longestOwner] at h
      split at h
      · rename_i hbelongs
        have htaken : some t.name = some owner → t.name = owner ∧ belongsTo name owner := by
          intro hname
          exact ⟨Option.some.inj hname, Option.some.inj hname ▸ hbelongs⟩
        split at h
        · exact later h fun hb => .inr (htaken hb)
        · split at h
          · exact later h fun hb => .inr (htaken hb)
          · exact later h .inl
      · exact later h .inl

/-- An inferred owner is a known type to which the name belongs. -/
theorem inferOwner_eq_some {r : Resolver} {name owner : Text}
    (h : r.inferOwner name = some owner) :
    ∃ t ∈ r.types, t.name = owner ∧ belongsTo name owner :=
  (longestOwner_mem h).resolve_left fun hnone => by contradiction

/-- The owner of a declaration is the one that it comes with or a known type. -/
theorem ownerOf_eq_some {r : Resolver} {d : FunctionDecl} {owner : Text}
    (h : r.ownerOf d = some owner) :
    (∃ t, d.candidateOwner = some t ∧ t.name = owner) ∨ ∃ t ∈ r.types, t.name = owner := by
  rcases Option.or_eq_some_iff.mp h with h | ⟨-, h⟩
  · exact .inl (Option.map_eq_some_iff.mp h)
  · obtain ⟨t, ht, hname, -⟩ := inferOwner_eq_some h
    exact .inr ⟨t, ht, hname⟩

theorem knows_iff {r : Resolver} {type : Text} :
    r.knows type ↔ ∃ t ∈ r.types, t.name = type := by
  simp [knows]

/-- The owner of a method comes with the declaration, where there is no rule, or is known. -/
theorem Places.owner {r : Resolver} {d : FunctionDecl} {p : Placement} (hp : r.Places d p)
    {type : Text} (hrole : p.role = .method type) :
    (∃ t ∈ r.types, t.name = type) ∨
      ((∃ t, d.candidateOwner = some t ∧ t.name = type) ∧
        r.table.roleRule d.rawName = none) := by
  cases hp with
  | owned hrule howner =>
      cases hrole
      exact (ownerOf_eq_some howner).symm.imp_right fun hcandidate => ⟨hcandidate, hrule⟩
  | plain => contradiction
  | kept => contradiction
  | unknown => contradiction
  | forced _ _ _ _ hknown =>
      cases hrole
      exact .inl (knows_iff.mp hknown)
  | ruled _ _ _ _ hknown =>
      cases hrole
      exact .inl (knows_iff.mp hknown)

/-! ### Names that are derived -/

theorem stripOwner_subset (name type : Text) : stripOwner name type ⊆ name := by
  simp only [stripOwner]
  split
  · exact List.drop_subset _ _
  · exact List.Subset.refl name

theorem trim_subset (r : Resolver) (name : Text) : r.trim name ⊆ name := by
  simp only [trim]
  split
  · exact List.Subset.refl name
  · exact (dropBeginning_suffix r.trimming.beginnings name).subset

/-- Placing a declaration takes characters off its name at most. -/
theorem Places.base_subset {r : Resolver} {d : FunctionDecl} {p : Placement} (hp : r.Places d p) :
    p.base ⊆ d.rawName := by
  cases hp with
  | owned => exact stripOwner_subset d.rawName _
  | plain => exact trim_subset r d.rawName
  | ruled => exact stripOwner_subset d.rawName _
  | _ => exact List.Subset.refl d.rawName

end BindingNames.Resolver
