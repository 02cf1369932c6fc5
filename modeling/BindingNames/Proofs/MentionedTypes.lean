import BindingNames.Proofs.Occurrences
import Mathlib.Data.List.Perm.Basic

/-!
Which types extraction finds. A record with a name mentions a type, and so does a definition of a
name for a record, where it stands in a wanted file below nothing but blocks in wanted files. The
mentions of one name are merged to one type. It stands where the first of them stands among those of
other names, has the location of the first one, and its fields are known if any of them defines it.
So it does not matter in which order forward declarations, definitions of names and definitions of
records come.
-/

namespace BindingNames

namespace Extractor

/-- The type that a cursor mentions at its place. -/
inductive MentionsType (wanted : Text → Bool) : Occurrence → TypeDecl → Prop where
  | record {above : List CursorInfo} {i : CursorInfo} (hkind : i.kind = .record)
      (hname : Identifier.accepts i.spelling) (hwanted : isWanted wanted i)
      (habove : AreBlocks wanted above) :
      MentionsType wanted ⟨above, i⟩
        ⟨i.spelling, i.isDefinition, i.place.map CursorPlace.toLocation⟩
  | typedef {above : List CursorInfo} {i : CursorInfo} {defined : Bool} (hkind : i.kind = .typedef)
      (hrecord : i.record = some defined) (hwanted : isWanted wanted i)
      (habove : AreBlocks wanted above) :
      MentionsType wanted ⟨above, i⟩ ⟨i.spelling, defined, i.place.map CursorPlace.toLocation⟩

def definesType? (i : CursorInfo) : Option Bool :=
  match i.kind with
  | .record => if Identifier.accepts i.spelling then some i.isDefinition else none
  | .typedef => i.record
  | _ => none

def mentionedType? (wanted : Text → Bool) (o : Occurrence) : Option TypeDecl :=
  if isWanted wanted o.info ∧ AreBlocks wanted o.above then
    (definesType? o.info).map fun defined =>
      ⟨o.info.spelling, defined, o.info.place.map CursorPlace.toLocation⟩
  else none

def typesMentionedIn (wanted : Text → Bool) (cs : List Cursor) : List TypeDecl :=
  (Cursor.occurrencesOfAll [] cs).filterMap (mentionedType? wanted)

end Extractor

def Mention.type? : Mention → Option TypeDecl
  | .type name defined location => some ⟨name, defined, location⟩
  | _ => none

/-- A type after one more mention of a type, which may be the same one. -/
def TypeDecl.after (m t : TypeDecl) : TypeDecl :=
  if t.name = m.name then { t with fieldsKnown := t.fieldsKnown || m.fieldsKnown } else t

/-- Types that are what mentions of them amount to. -/
structure MergedFrom (mentions types : List TypeDecl) : Prop where
  nodup : (types.map (·.name)).Nodup
  mem_names_iff : ∀ name, name ∈ types.map (·.name) ↔ name ∈ mentions.map (·.name)
  /-- The types are in the order of the first mentions of their names. -/
  ordered : types.Pairwise fun s t =>
    mentions.findIdx (·.name == s.name) < mentions.findIdx (·.name == t.name)
  /-- The location of a type is that of its first mention. -/
  location : ∀ t ∈ types, (mentions.find? (·.name == t.name)).map (·.location) = some t.location
  fieldsKnown_iff : ∀ t ∈ types, t.fieldsKnown ↔ ∃ m ∈ mentions, m.name = t.name ∧ m.fieldsKnown

/-! ### Places of mentions -/

namespace Extractor

variable {x : Extractor} {wanted : Text → Bool} {above : List CursorInfo} {i : CursorInfo}

theorem mentionedType?_eq_some {o : Occurrence} {t : TypeDecl} :
    mentionedType? wanted o = some t ↔ MentionsType wanted o t := by
  obtain ⟨above, i⟩ := o
  constructor
  · intro h
    simp only [mentionedType?, Option.ite_none_right_eq_some] at h
    obtain ⟨⟨hwanted, habove⟩, hmap⟩ := h
    obtain ⟨defined, hdefines, rfl⟩ := Option.map_eq_some_iff.mp hmap
    simp only [definesType?] at hdefines
    split at hdefines
    · rename_i hkind
      obtain ⟨hname, hdefined⟩ := (Option.ite_none_right_eq_some ..).mp hdefines
      cases hdefined
      exact .record hkind hname hwanted habove
    · rename_i hkind
      exact .typedef hkind hdefines hwanted habove
    · contradiction
  · intro h
    cases h with
    | record hkind hname hwanted habove =>
        simp [mentionedType?, definesType?, hkind, hname, hwanted, habove]
    | typedef hkind hrecord hwanted habove =>
        simp [mentionedType?, definesType?, hkind, hrecord, hwanted, habove]

theorem filterMap_mentionedType?_of_not_areBlocks (h : ¬ AreBlocks wanted above)
    (cs : List Cursor) :
    (Cursor.occurrencesOfAll above cs).filterMap (mentionedType? wanted) = [] := by
  rw [List.filterMap_eq_nil_iff]
  intro o ho
  refine if_neg fun hplace => h ?_
  exact hplace.2.of_suffix (Cursor.suffix_of_mem_occurrencesOfAll ho)

theorem type?_of_memberMention {record : Text} {m : Mention}
    (h : x.memberMention record i = some m) : m.type? = none := by
  simp only [memberMention] at h
  split at h
  · contradiction
  · split at h
    · contradiction
    · split at h <;> cases h <;> rfl

/-- A record mentions no type but itself. -/
theorem filterMap_type?_recordMentions (children : List Cursor) :
    (x.recordMentions i children).filterMap Mention.type? =
      if Identifier.accepts i.spelling then
        [⟨i.spelling, i.isDefinition, i.place.map CursorPlace.toLocation⟩]
      else [] := by
  have hmembers : (children.filterMap fun c => x.memberMention i.spelling c.info).filterMap
      Mention.type? = [] := by
    rw [List.filterMap_eq_nil_iff]
    intro m hm
    obtain ⟨c, -, hc⟩ := List.mem_filterMap.mp hm
    exact type?_of_memberMention hc
  by_cases hname : Identifier.accepts i.spelling
  · cases hdefined : i.isDefinition <;>
      simp [recordMentions, typeMention, Mention.type?, hname, hdefined, hmembers]
  · simp [recordMentions, hname]

mutual

/-- At a place below nothing but blocks, the types among the mentions are those mentioned there. -/
theorem filterMap_type?_mentions :
    ∀ (c : Cursor) {above : List CursorInfo}, AreBlocks wanted above →
      (c.occurrences above).filterMap (mentionedType? wanted) =
        (mentions x wanted c).filterMap Mention.type?
  | .node i children, above, habove => by
      -- only blocks let something be mentioned below them
      have hdead : ¬ (i.kind = .block ∧ isWanted wanted i) →
          (Cursor.occurrencesOfAll (i :: above) children).filterMap (mentionedType? wanted) = [] :=
        fun hblock => filterMap_mentionedType?_of_not_areBlocks
          (fun h => hblock (h i List.mem_cons_self)) children
      rw [Cursor.occurrences, List.filterMap_cons, mentions]
      by_cases hwanted : isWanted wanted i
      · cases hkind : i.kind with
        | block =>
            have hbelow := filterMap_type?_mentionsOfAll children (.cons hkind hwanted habove)
            simp [mentionedType?, definesType?, hkind, hwanted, hbelow]
        | record =>
            have hbelow := hdead (by simp [hkind])
            by_cases hname : Identifier.accepts i.spelling <;>
              simp [mentionedType?, definesType?, hkind, hwanted, habove, hbelow, hname,
                filterMap_type?_recordMentions]
        | typedef =>
            have hbelow := hdead (by simp [hkind])
            cases hrecord : i.record <;>
              simp [mentionedType?, definesType?, hkind, hwanted, habove, hbelow, hrecord,
                typeMention, Mention.type?]
        | _ =>
            have hbelow := hdead (by simp [hkind])
            simp [mentionedType?, definesType?, hkind, hwanted, hbelow, Mention.type?]
      · have hbelow := hdead fun h => hwanted h.2
        simp [mentionedType?, hwanted, hbelow]

theorem filterMap_type?_mentionsOfAll :
    ∀ (cs : List Cursor) {above : List CursorInfo}, AreBlocks wanted above →
      (Cursor.occurrencesOfAll above cs).filterMap (mentionedType? wanted) =
        (mentionsOfAll x wanted cs).filterMap Mention.type?
  | [], above, habove => by simp [Cursor.occurrencesOfAll, mentionsOfAll]
  | c :: rest, above, habove => by
      rw [Cursor.occurrencesOfAll, mentionsOfAll, List.filterMap_append, List.filterMap_append,
        filterMap_type?_mentions c habove, filterMap_type?_mentionsOfAll rest habove]

end

end Extractor

/-! ### Merged mentions -/

namespace TypeDecl

theorem after_of_eq {m t : TypeDecl} (h : t.name = m.name) :
    m.after t = { t with fieldsKnown := t.fieldsKnown || m.fieldsKnown } :=
  if_pos h

theorem after_of_ne {m t : TypeDecl} (h : t.name ≠ m.name) : m.after t = t :=
  if_neg h

theorem name_after (m t : TypeDecl) : (m.after t).name = t.name := by
  rw [after]
  split <;> rfl

theorem location_after (m t : TypeDecl) : (m.after t).location = t.location := by
  rw [after]
  split <;> rfl

theorem fieldsKnown_after (m t : TypeDecl) :
    (m.after t).fieldsKnown ↔ t.fieldsKnown ∨ m.name = t.name ∧ m.fieldsKnown := by
  rw [after]
  split
  · rename_i hname
    simp [hname]
  · rename_i hname
    simp [Ne.symm hname]

end TypeDecl

namespace MergedFrom

variable {mentions types : List TypeDecl}

theorem find?_append_of_mem {name : Text} (h : name ∈ mentions.map (·.name))
    (more : List TypeDecl) :
    (mentions ++ more).find? (·.name == name) = mentions.find? (·.name == name) := by
  obtain ⟨m, hm, hname⟩ := List.mem_map.mp h
  obtain ⟨found, hfound⟩ : ∃ found, mentions.find? (·.name == name) = some found := by
    rw [← Option.isSome_iff_exists, List.find?_isSome]
    exact ⟨m, hm, beq_iff_eq.mpr hname⟩
  rw [List.find?_append, hfound, Option.some_or]

theorem findIdx_lt_length {name : Text} (h : name ∈ mentions.map (·.name)) :
    mentions.findIdx (·.name == name) < mentions.length := by
  obtain ⟨m, hm, hname⟩ := List.mem_map.mp h
  exact List.findIdx_lt_length_of_exists ⟨m, hm, beq_iff_eq.mpr hname⟩

theorem findIdx_append_of_mem {name : Text} (h : name ∈ mentions.map (·.name))
    (more : List TypeDecl) :
    (mentions ++ more).findIdx (·.name == name) = mentions.findIdx (·.name == name) := by
  rw [List.findIdx_append, if_pos (findIdx_lt_length h)]

theorem length_le_findIdx_append {name : Text} (h : name ∉ mentions.map (·.name))
    (more : List TypeDecl) :
    mentions.length ≤ (mentions ++ more).findIdx (·.name == name) := by
  have hnone : ∀ s ∈ mentions, (s.name == name) = false := by
    intro s hs
    refine beq_eq_false_iff_ne.mpr fun hname => h ?_
    exact hname ▸ List.mem_map_of_mem hs
  rw [List.findIdx_append, List.findIdx_eq_length_of_false hnone, if_neg (Nat.lt_irrefl _)]
  omega

theorem mem_mentions (h : MergedFrom mentions types) {t : TypeDecl} (ht : t ∈ types) :
    t.name ∈ mentions.map (·.name) :=
  (h.mem_names_iff t.name).mp (List.mem_map_of_mem ht)

/-- One more mention of a name that came before leaves all as it is, but may make fields known. -/
theorem map_after (h : MergedFrom mentions types) {m : TypeDecl}
    (hm : m.name ∈ mentions.map (·.name)) : MergedFrom (mentions ++ [m]) (types.map m.after) := by
  have hnames : (types.map m.after).map (·.name) = types.map (·.name) := by
    rw [List.map_map]
    exact List.map_congr_left fun t _ => TypeDecl.name_after m t
  refine ⟨hnames ▸ h.nodup, fun name => ?_, ?_, ?_, ?_⟩
  · rw [hnames, h.mem_names_iff, List.map_append, List.mem_append]
    refine ⟨.inl, fun hname => hname.elim id fun hself => ?_⟩
    rw [List.mem_singleton.mp hself]
    exact hm
  · rw [List.pairwise_map]
    refine h.ordered.imp_of_mem fun hs ht hlt => ?_
    rw [TypeDecl.name_after, TypeDecl.name_after, findIdx_append_of_mem (h.mem_mentions hs),
      findIdx_append_of_mem (h.mem_mentions ht)]
    exact hlt
  · intro t' ht'
    obtain ⟨t, ht, rfl⟩ := List.mem_map.mp ht'
    rw [TypeDecl.name_after, TypeDecl.location_after, find?_append_of_mem (h.mem_mentions ht)]
    exact h.location t ht
  · intro t' ht'
    obtain ⟨t, ht, rfl⟩ := List.mem_map.mp ht'
    rw [TypeDecl.fieldsKnown_after, TypeDecl.name_after, h.fieldsKnown_iff t ht]
    simp only [List.mem_append, List.mem_singleton, or_and_right, exists_or, exists_eq_left]

/-- The first mention of a name gives one more type. -/
theorem append_singleton (h : MergedFrom mentions types) {m : TypeDecl}
    (hm : m.name ∉ mentions.map (·.name)) : MergedFrom (mentions ++ [m]) (types ++ [m]) := by
  have hnew : ∀ s ∈ mentions, s.name ≠ m.name := fun s hs hname =>
    hm (hname ▸ List.mem_map_of_mem hs)
  refine ⟨?_, fun name => ?_, ?_, ?_, ?_⟩
  · rw [List.map_append, List.nodup_append]
    refine ⟨h.nodup, by simp, fun a ha b hb heq => hm ?_⟩
    have hb : b = m.name := List.mem_singleton.mp hb
    rw [← hb, ← heq]
    exact (h.mem_names_iff a).mp ha
  · rw [List.map_append, List.map_append, List.mem_append, List.mem_append, h.mem_names_iff]
  · rw [List.pairwise_append]
    refine ⟨h.ordered.imp_of_mem fun hs ht hlt => ?_, by simp, fun s hs t ht => ?_⟩
    · rw [findIdx_append_of_mem (h.mem_mentions hs), findIdx_append_of_mem (h.mem_mentions ht)]
      exact hlt
    · rw [List.mem_singleton.mp ht, findIdx_append_of_mem (h.mem_mentions hs)]
      exact Nat.lt_of_lt_of_le (findIdx_lt_length (h.mem_mentions hs))
        (length_le_findIdx_append hm [m])
  · intro t ht
    rcases List.mem_append.mp ht with ht | ht
    · rw [find?_append_of_mem (h.mem_mentions ht)]
      exact h.location t ht
    · rw [List.mem_singleton.mp ht, List.find?_append,
        List.find?_eq_none.mpr fun s hs => by simpa using hnew s hs]
      simp
  · intro t ht
    rcases List.mem_append.mp ht with ht | ht
    · have hne : m.name ≠ t.name := fun hname => hm (hname ▸ h.mem_mentions ht)
      rw [h.fieldsKnown_iff t ht]
      simp [or_and_right, exists_or, hne]
    · rw [List.mem_singleton.mp ht]
      simp only [List.mem_append, List.mem_singleton, or_and_right, exists_or, exists_eq_left,
        true_and]
      refine ⟨.inr, fun hknown => hknown.elim ?_ id⟩
      rintro ⟨s, hs, hname, -⟩
      exact absurd hname (hnew s hs)

end MergedFrom

namespace Mention

theorem addType_of_not_mem {name : Text} {types : List TypeDecl}
    (h : name ∉ types.map (·.name)) (defined : Bool) (location : Option Location) :
    addType name defined location types = types ++ [⟨name, defined, location⟩] := by
  induction types with
  | nil => rfl
  | cons t rest ih =>
      rw [List.map_cons, List.mem_cons, not_or] at h
      rw [addType, if_neg (by simpa using Ne.symm h.1), ih h.2]
      rfl

theorem addType_of_mem {name : Text} {types : List TypeDecl} (hnodup : (types.map (·.name)).Nodup)
    (h : name ∈ types.map (·.name)) (defined : Bool) (location : Option Location) :
    addType name defined location types =
      types.map (TypeDecl.after ⟨name, defined, location⟩) := by
  induction types with
  | nil => contradiction
  | cons t rest ih =>
      rw [List.map_cons, List.nodup_cons] at hnodup
      rw [addType, List.map_cons]
      by_cases ht : t.name = name
      · have hrest : ∀ s ∈ rest, s.name ≠ name := by
          intro s hs hname
          exact hnodup.1 (ht.trans hname.symm ▸ List.mem_map_of_mem hs)
        rw [if_pos (by simpa using ht), TypeDecl.after_of_eq (m := ⟨name, defined, location⟩) ht]
        refine congrArg _ ((List.map_congr_left fun s hs => ?_).trans (List.map_id rest)).symm
        exact TypeDecl.after_of_ne (hrest s hs)
      · rw [if_neg (by simpa using ht), TypeDecl.after_of_ne (m := ⟨name, defined, location⟩) ht,
          ih hnodup.2 ?_]
        exact (List.mem_cons.mp h).resolve_left (Ne.symm ht)

end Mention

theorem MergedFrom.addType {mentions types : List TypeDecl} (h : MergedFrom mentions types)
    (name : Text) (defined : Bool) (location : Option Location) :
    MergedFrom (mentions ++ [⟨name, defined, location⟩])
      (Mention.addType name defined location types) := by
  by_cases hname : name ∈ types.map (·.name)
  · rw [Mention.addType_of_mem h.nodup hname]
    exact h.map_after ((h.mem_names_iff name).mp hname)
  · rw [Mention.addType_of_not_mem hname]
    exact h.append_singleton fun hmem => hname ((h.mem_names_iff name).mpr hmem)

theorem MergedFrom.foldl_addTypeOf {mentions types : List TypeDecl} (h : MergedFrom mentions types)
    (ms : List Mention) :
    MergedFrom (mentions ++ ms.filterMap Mention.type?) (ms.foldl Mention.addTypeOf types) := by
  induction ms generalizing mentions types with
  | nil => simpa using h
  | cons m rest ih =>
      cases m with
      | type name defined location =>
          have hrest := ih (h.addType name defined location)
          rw [List.append_assoc] at hrest
          exact hrest
      | function decl typeName => exact ih h
      | staticMember record name => exact ih h

theorem Mention.mergedFrom_types (ms : List Mention) :
    MergedFrom (ms.filterMap Mention.type?) (Mention.types ms) := by
  have hstart : MergedFrom [] [] := ⟨by simp, by simp, by simp, by simp, by simp⟩
  exact hstart.foldl_addTypeOf ms

/-! ### Determined types -/

namespace MergedFrom

variable {mentions types types' : List TypeDecl}

theorem pairwise_names (h : MergedFrom mentions types) :
    (types.map (·.name)).Pairwise fun m n =>
      mentions.findIdx (·.name == m) < mentions.findIdx (·.name == n) :=
  List.pairwise_map.mpr h.ordered

theorem names_eq (h : MergedFrom mentions types) (h' : MergedFrom mentions types') :
    types.map (·.name) = types'.map (·.name) := by
  have hperm : (types.map (·.name)).Perm (types'.map (·.name)) := by
    rw [List.perm_ext_iff_of_nodup h.nodup h'.nodup]
    intro name
    rw [h.mem_names_iff, h'.mem_names_iff]
  refine hperm.eq_of_pairwise (fun m n _ _ hlt hgt => ?_) h.pairwise_names h'.pairwise_names
  exact absurd (Nat.lt_trans hlt hgt) (Nat.lt_irrefl _)

theorem eq_of_name_eq (h : MergedFrom mentions types) (h' : MergedFrom mentions types')
    {t t' : TypeDecl} (ht : t ∈ types) (ht' : t' ∈ types') (hname : t.name = t'.name) : t = t' := by
  have hlocation : some t.location = some t'.location := by
    rw [← h.location t ht, ← h'.location t' ht', hname]
  have hknown : t.fieldsKnown = t'.fieldsKnown := by
    rw [Bool.eq_iff_iff, h.fieldsKnown_iff t ht, h'.fieldsKnown_iff t' ht', hname]
  cases t
  cases t'
  cases hname
  cases hknown
  cases hlocation
  rfl

/-- Mentions amount to one list of types only. -/
theorem unique (h : MergedFrom mentions types) (h' : MergedFrom mentions types') :
    types = types' := by
  have hnames := h.names_eq h'
  refine List.ext_getElem (by simpa using congrArg List.length hnames) fun k hk hk' => ?_
  refine h.eq_of_name_eq h' (List.getElem_mem hk) (List.getElem_mem hk') ?_
  have hat : (types.map (·.name))[k]? = (types'.map (·.name))[k]? := by rw [hnames]
  simpa [hk, hk'] using hat

end MergedFrom

end BindingNames
