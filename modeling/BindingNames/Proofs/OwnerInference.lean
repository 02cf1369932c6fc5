import BindingNames.Proofs.Mapping
import BindingNames.Proofs.Placement

/-!
Which type owns a name. A name belongs to the types whose names it begins with, an underscore and
something more behind them, and the longest of these owns it. Two of them that are equally long are
the same text, so it does not matter which type was declared first. All else that is asked about the
types is whether there is one with some name. So the order of the types does not show in what a
declaration is resolved to, nor in the run of a mapper.
-/

namespace BindingNames

/-- A name begins with the name of a type, and goes on behind an underscore. -/
def BelongsTo (name type : Text) : Prop :=
  ∃ rest : Text, rest ≠ [] ∧ name = type ++ .char '_' :: rest

theorem belongsTo_iff {name type : Text} : belongsTo name type ↔ BelongsTo name type := by
  have hbeginning : ownerBeginning type = type ++ [.char '_'] := rfl
  simp only [belongsTo, hbeginning, Bool.and_eq_true, decide_eq_true_eq, Text.beginsWith_iff]
  constructor
  · rintro ⟨hlength, rest, rfl⟩
    refine ⟨rest, ?_, by simp⟩
    rintro rfl
    simp at hlength
  · rintro ⟨rest, hne, rfl⟩
    refine ⟨?_, rest, by simp⟩
    have hlength := List.length_pos_iff.mpr hne
    simp
    omega

theorem stripOwner_of_eq {name type rest : Text} (hne : rest ≠ [])
    (h : name = type ++ .char '_' :: rest) : stripOwner name type = rest := by
  have hbelongs : belongsTo name type := belongsTo_iff.mpr ⟨rest, hne, h⟩
  have hbeginning : ownerBeginning type = type ++ [.char '_'] := rfl
  rw [stripOwner, if_pos hbelongs, h, hbeginning, List.append_cons type _ rest, List.drop_left]

/-- Types to which one name belongs are told apart by the lengths of their names. -/
theorem BelongsTo.eq_of_length_eq {name type type' : Text} (h : BelongsTo name type)
    (h' : BelongsTo name type') (hlength : type.length = type'.length) : type = type' := by
  obtain ⟨rest, -, rfl⟩ := h
  obtain ⟨rest', -, heq⟩ := h'
  exact (List.append_inj heq hlength).1

namespace Resolver

/-- The name of a type that owns a name: no name of a type to which it belongs is longer. -/
structure Owns (types : List TypeDecl) (name owner : Text) : Prop where
  known : ∃ t ∈ types, t.name = owner
  belongs : BelongsTo name owner
  longest : ∀ t ∈ types, BelongsTo name t.name → t.name.length ≤ owner.length

theorem Owns.unique {types : List TypeDecl} {name owner owner' : Text}
    (h : Owns types name owner) (h' : Owns types name owner') : owner = owner' := by
  obtain ⟨t, ht, rfl⟩ := h.known
  obtain ⟨t', ht', rfl⟩ := h'.known
  exact h.belongs.eq_of_length_eq h'.belongs
    (Nat.le_antisymm (h'.longest t ht h.belongs) (h.longest t' ht' h'.belongs))

/-- The type that owns a name, with all that its declaration says. Of several types with one name
the last one counts. -/
def ownerType (r : Resolver) (name : Text) : Option TypeDecl :=
  (r.inferOwner name).bind fun owner => r.types.reverse.find? (·.name == owner)

def withTypes (r : Resolver) (types : List TypeDecl) : Resolver :=
  { r with types := types }

/-! ### The longest owner -/

/-- Among some types and what there was before, nothing longer than what is found can own a name. -/
structure Exhausts (name : Text) (best : Option Text) (types : List TypeDecl)
    (found : Option Text) : Prop where
  nothing : found = none → best = none ∧ ∀ t ∈ types, belongsTo name t.name = false
  longest : ∀ owner, found = some owner →
    (∀ b, best = some b → b.length ≤ owner.length) ∧
      ∀ t ∈ types, belongsTo name t.name → t.name.length ≤ owner.length

namespace Exhausts

variable {name : Text} {best found : Option Text} {t : TypeDecl} {types : List TypeDecl}

/-- A type that comes first changes nothing if it cannot own the name. -/
theorem cons_of_not_belongsTo (h : Exhausts name best types found)
    (ht : belongsTo name t.name = false) : Exhausts name best (t :: types) found where
  nothing hfound := ⟨(h.nothing hfound).1, List.forall_mem_cons.mpr ⟨ht, (h.nothing hfound).2⟩⟩
  longest owner hfound := by
    obtain ⟨hbest, htypes⟩ := h.longest owner hfound
    refine ⟨hbest, List.forall_mem_cons.mpr ⟨fun hbelongs => ?_, htypes⟩⟩
    rw [ht] at hbelongs
    contradiction

/-- The search goes on with what it had or with the first type, whichever is longer. -/
theorem cons_of_le {b : Text} (h : Exhausts name (some b) types found)
    (hbest : ∀ c, best = some c → c.length ≤ b.length) (ht : t.name.length ≤ b.length) :
    Exhausts name best (t :: types) found where
  nothing hfound := absurd (h.nothing hfound).1 (by simp)
  longest owner hfound := by
    obtain ⟨hb, htypes⟩ := h.longest owner hfound
    have hb : b.length ≤ owner.length := hb b rfl
    refine ⟨fun c hc => (hbest c hc).trans hb, ?_⟩
    exact List.forall_mem_cons.mpr ⟨fun _ => ht.trans hb, htypes⟩

end Exhausts

theorem exhausts_longestOwner (name : Text) (best : Option Text) (types : List TypeDecl) :
    Exhausts name best types (longestOwner name best types) := by
  induction types generalizing best with
  | nil =>
      refine ⟨fun h => ⟨h, by simp⟩, fun owner h => ⟨fun b hb => ?_, by simp⟩⟩
      cases hb.symm.trans h
      exact Nat.le_refl _
  | cons t rest ih =>
      simp only [longestOwner]
      cases hbelongs : belongsTo name t.name with
      | false => exact (ih best).cons_of_not_belongsTo hbelongs
      | true =>
          simp only [if_true]
          cases best with
          | none => exact (ih (some t.name)).cons_of_le (by simp) (Nat.le_refl _)
          | some b =>
              by_cases hlonger : b.length < t.name.length
              · simp only [hlonger, if_true]
                exact (ih (some t.name)).cons_of_le (by simpa using hlonger.le) (Nat.le_refl _)
              · simp only [hlonger, if_false]
                exact (ih (some b)).cons_of_le (by simp) (Nat.le_of_not_lt hlonger)

variable {r : Resolver}

theorem inferOwner_eq_none_iff {name : Text} :
    r.inferOwner name = none ↔ ∀ t ∈ r.types, ¬ BelongsTo name t.name := by
  simp only [← belongsTo_iff, Bool.not_eq_true]
  constructor
  · intro h
    exact ((exhausts_longestOwner name none r.types).nothing h).2
  · intro h
    refine Option.eq_none_iff_forall_ne_some.mpr fun owner howner => ?_
    obtain ⟨t, ht, rfl, hbelongs⟩ := inferOwner_eq_some howner
    rw [h t ht] at hbelongs
    contradiction

theorem inferOwner_eq_some_iff {name owner : Text} :
    r.inferOwner name = some owner ↔ Owns r.types name owner := by
  have howns : ∀ {owner}, r.inferOwner name = some owner → Owns r.types name owner := by
    intro owner h
    obtain ⟨t, ht, hname, hbelongs⟩ := inferOwner_eq_some h
    refine ⟨⟨t, ht, hname⟩, belongsTo_iff.mp hbelongs, fun u hu hu' => ?_⟩
    exact ((exhausts_longestOwner name none r.types).longest owner h).2 u hu (belongsTo_iff.mpr hu')
  refine ⟨howns, fun h => ?_⟩
  cases hfound : r.inferOwner name with
  | some other => rw [(howns hfound).unique h]
  | none =>
      obtain ⟨t, ht, rfl⟩ := h.known
      exact absurd h.belongs (inferOwner_eq_none_iff.mp hfound t ht)

theorem map_name_ownerType (r : Resolver) (name : Text) :
    (r.ownerType name).map (·.name) = r.inferOwner name := by
  cases h : r.inferOwner name with
  | none => simp [ownerType, h]
  | some owner =>
      obtain ⟨t, ht, hname⟩ := (inferOwner_eq_some_iff.mp h).known
      have hfind : (r.types.reverse.find? (·.name == owner)).isSome :=
        List.find?_isSome.mpr ⟨t, by simpa using ht, by simpa using hname⟩
      obtain ⟨u, hu⟩ := Option.isSome_iff_exists.mp hfind
      have hname := List.find?_some hu
      simpa [ownerType, h, hu] using hname

theorem mem_of_ownerType {name : Text} {t : TypeDecl} (h : r.ownerType name = some t) :
    t ∈ r.types := by
  obtain ⟨owner, -, hfind⟩ := Option.bind_eq_some_iff.mp h
  simpa using List.mem_of_find?_eq_some hfind

/-! ### Types in another order -/

variable {types : List TypeDecl}

theorem Owns.perm (h : types.Perm r.types) {name owner : Text} :
    Owns types name owner ↔ Owns r.types name owner :=
  ⟨fun ⟨known, belongs, longest⟩ =>
      ⟨by simpa only [h.mem_iff] using known, belongs, by simpa only [h.mem_iff] using longest⟩,
    fun ⟨known, belongs, longest⟩ =>
      ⟨by simpa only [h.mem_iff] using known, belongs, by simpa only [h.mem_iff] using longest⟩⟩

theorem inferOwner_withTypes (h : types.Perm r.types) (name : Text) :
    (r.withTypes types).inferOwner name = r.inferOwner name := by
  refine Option.ext fun owner => ?_
  rw [inferOwner_eq_some_iff, inferOwner_eq_some_iff]
  exact Owns.perm h

theorem knows_withTypes (h : types.Perm r.types) : (r.withTypes types).knows = r.knows := by
  funext type
  rw [Bool.eq_iff_iff, knows_iff, knows_iff]
  simp only [withTypes, h.mem_iff]

/-- Types are looked at for the owner of a name and for whether there is a type. -/
theorem resolve?_withTypes (h : types.Perm r.types) (d : FunctionDecl) :
    (r.withTypes types).resolve? d = r.resolve? d := by
  have howner : (r.withTypes types).ownerOf d = r.ownerOf d := by
    rw [ownerOf, ownerOf, inferOwner_withTypes h]
  have hfault : (r.withTypes types).fault? d = r.fault? d := by
    simp only [fault?, trims, howner]
    rfl
  have hplace : (r.withTypes types).place d = r.place d := by
    simp only [place, howner, knows_withTypes h]
    rfl
  have hresolve : (r.withTypes types).resolve d = r.resolve d := by
    simp only [resolve, resolveFree, hplace]
    rfl
  rw [resolve?, resolve?, hfault, hresolve]

/-- Among types with different names, the one that owns a name is the one with the longest name. -/
theorem ownerType_eq_some_iff (hnodup : (r.types.map (·.name)).Nodup) {name : Text}
    {t : TypeDecl} : r.ownerType name = some t ↔ t ∈ r.types ∧ Owns r.types name t.name := by
  rw [← inferOwner_eq_some_iff, ← map_name_ownerType]
  constructor
  · intro h
    exact ⟨mem_of_ownerType h, by rw [h]; rfl⟩
  · rintro ⟨ht, hname⟩
    obtain ⟨u, hu, hname⟩ := Option.map_eq_some_iff.mp hname
    rw [hu, List.inj_on_of_nodup_map hnodup (mem_of_ownerType hu) ht hname]

theorem ownerType_withTypes (h : types.Perm r.types) (hnodup : (r.types.map (·.name)).Nodup)
    (name : Text) : (r.withTypes types).ownerType name = r.ownerType name := by
  have hnodup' : ((r.withTypes types).types.map (·.name)).Nodup := (h.map _).nodup_iff.mpr hnodup
  refine Option.ext fun t => ?_
  rw [ownerType_eq_some_iff hnodup, ownerType_eq_some_iff hnodup']
  exact and_congr h.mem_iff (Owns.perm h)

end Resolver

namespace Mapper

theorem resolver_withTypes (m : Mapper) (types types' : List TypeDecl) :
    m.resolver types' = (m.resolver types).map (·.withTypes types') :=
  resolver_eq_map rfl rfl fun _ _ => rfl

theorem snd_resolve_of_perm (m : Mapper) {types types' : List TypeDecl} (h : types'.Perm types)
    (ds : List FunctionDecl) : (m.resolve types' ds).2 = (m.resolve types ds).2 := by
  refine snd_resolve_congr (m.resolver_withTypes types types') (fun r hr d => ?_) rfl
  rw [← (resolver_eq_fields hr).1] at h
  exact Resolver.resolve?_withTypes h d

end Mapper

namespace Resolver

/-- A name has no owner exactly where it belongs to no type. Otherwise its owner is the longest of
the names of types to which it belongs, and something is left of the name without it. Types with
different names may be declared in any order: the owner of a name, what a declaration is resolved to
and what the run of a mapper gives stay the same. -/
theorem inferOwner_longest_of_perm (r : Resolver) (name : Text) :
    (r.inferOwner name = none ↔ ∀ t ∈ r.types, ¬ BelongsTo name t.name) ∧
    (∀ owner, r.inferOwner name = some owner ↔ Owns r.types name owner) ∧
    (∀ owner, r.inferOwner name = some owner →
      stripOwner name owner ≠ [] ∧ name = owner ++ .char '_' :: stripOwner name owner) ∧
    ((r.ownerType name).map (·.name) = r.inferOwner name ∧
      ∀ t, r.ownerType name = some t → t ∈ r.types) ∧
    (∀ types : List TypeDecl, types.Perm r.types → (r.types.map (·.name)).Nodup →
      (r.withTypes types).inferOwner name = r.inferOwner name ∧
      (r.withTypes types).ownerType name = r.ownerType name ∧
      (∀ d, (r.withTypes types).resolve? d = r.resolve? d) ∧
      ∀ (m : Mapper) (ds : List FunctionDecl),
        (m.resolve types ds).2 = (m.resolve r.types ds).2) := by
  refine ⟨inferOwner_eq_none_iff, fun owner => inferOwner_eq_some_iff, fun owner howner => ?_,
    ⟨r.map_name_ownerType name, fun t ht => mem_of_ownerType ht⟩, fun types h hnodup => ?_⟩
  · obtain ⟨rest, hne, hname⟩ := (inferOwner_eq_some_iff.mp howner).belongs
    rw [stripOwner_of_eq hne hname]
    exact ⟨hne, hname⟩
  · exact ⟨inferOwner_withTypes h name, ownerType_withTypes h hnodup name, resolve?_withTypes h,
      fun m ds => m.snd_resolve_of_perm h ds⟩

/-- A name that belongs to three types, each one with a longer name than the one before it, and the
same types the other way round. -/
theorem inferOwner_longest_of_perm_nested :
    let types : List TypeDecl :=
      [⟨"Foo", true, none⟩, ⟨"Foo_Node", false, none⟩, ⟨"Foo_Node_", true, none⟩]
    let r : Resolver := ⟨types, RuleTable.empty, ⟨[], none⟩, .camel, true⟩
    let name : Text := "Foo_Node__next"
    r.inferOwner name = some "Foo_Node_" ∧ Owns types name "Foo_Node_" ∧
      (r.withTypes types.reverse).ownerType name = some ⟨"Foo_Node_", true, none⟩ ∧
      ∀ (m : Mapper) (ds : List FunctionDecl),
        (m.resolve types.reverse ds).2 = (m.resolve types ds).2 := by
  intro types r name
  obtain ⟨-, howner, -, -, hperm⟩ := inferOwner_longest_of_perm r name
  have hfound : r.inferOwner name = some "Foo_Node_" := by decide
  obtain ⟨-, htype, -, hruns⟩ := hperm types.reverse (List.reverse_perm _) (by decide)
  refine ⟨hfound, (howner _).mp hfound, ?_, hruns⟩
  rw [htype]
  decide

end Resolver

end BindingNames
