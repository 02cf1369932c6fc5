import BindingNames.Proofs.SavedSettings

/-!
Configurations that are saved in another place. What is saved has relative paths as they were given,
and the file that holds it decides what they are seen from. So the configuration that is read from a
file next to the first one finds the same headers, include directories and rules, and one from
elsewhere finds the same only where paths are absolute.
-/

namespace BindingNames

open Value (Like RelatedFields)

namespace Value

/-- Related fields have related values for each text. -/
theorem get?_related {R : Value → Value → Prop} {fs gs : Fields} {key : Text}
    (h : List.Forall₂ (RelatedFields R) fs gs) :
    Option.Rel R (get? (.text key) fs) (get? (.text key) gs) := by
  induction h with
  | nil => exact .none
  | @cons f g fs gs hfg _ ih =>
      obtain ⟨k, v⟩ := f
      obtain ⟨l, w⟩ := g
      have hkeys : k.sameKey (.text key) = l.sameKey (.text key) := by
        rw [Bool.eq_iff_iff, Scalar.sameKey_text_iff, Scalar.sameKey_text_iff,
          ← Scalar.unlabelled_eq_text_iff, hfg.1, Scalar.unlabelled_eq_text_iff]
      rw [get?, get?, hkeys]
      split
      · exact .some hfg.2
      · exact ih

theorem get?_eq_text {fs gs : Fields} {key s : Text} (h : List.Forall₂ (RelatedFields Like) fs gs)
    (hget : get? (.text key) gs = some (.text s)) : get? (.text key) fs = some (.text s) := by
  have hrel : Option.Rel Like (get? (.text key) fs) (get? (.text key) gs) := get?_related h
  rw [hget] at hrel
  cases hv : get? (.text key) fs with
  | none =>
      rw [hv] at hrel
      contradiction
  | some v =>
      rw [hv] at hrel
      cases hrel with
      | some hlike => rw [Like.text_iff.mp hlike]

theorem eq_texts_of_lookLike {vs : List Value} {ss : List Text}
    (h : lookLike vs (ss.map text)) : vs = ss.map text := by
  have hlooks := List.forall₂_map_right_iff.mp (forall₂_of_lookLike _ _ h)
  rw [← List.forall₂_eq_eq_eq, List.forall₂_map_right_iff]
  exact hlooks.imp fun v s h => Like.text_iff.mp (like_of_looksLike h)

theorem holds_of_get? {v w : Value} {fields : Fields} {key : Scalar} (hbare : v.bare = .map fields)
    (hget : get? key fields = some w) : v.holds := by
  rw [← holds_bare, hbare]
  cases fields with
  | nil => contradiction
  | cons f fields => rfl

end Value

/-! ### Computations side by side -/

/-- Two computations both fail or give related values. -/
inductive Agree {ε α β : Type} (R : α → β → Prop) : Except ε α → Except ε β → Prop where
  | ok {a : α} {b : β} (h : R a b) : Agree R (.ok a) (.ok b)
  | error (e e' : ε) : Agree R (.error e) (.error e')

namespace Agree

variable {ε α β α' β' : Type} {R : α → β → Prop} {S : α' → β' → Prop}

theorem refl (x : Except ε α) : Agree Eq x x := by
  cases x with
  | error e => exact .error e e
  | ok a => exact .ok rfl

theorem bind {x : Except ε α} {y : Except ε β} {f : α → Except ε α'} {g : β → Except ε β'}
    (h : Agree R x y) (hfg : ∀ a b, R a b → Agree S (f a) (g b)) :
    Agree S (x >>= f) (y >>= g) := by
  cases h with
  | ok h => exact hfg _ _ h
  | error e e' => exact .error e e'

end Agree

namespace Configuration

variable {c c' : Configuration} {base base' : Text}

def directoryOf (d : Disk) (name : Text) : Path :=
  .ofText (d.absolute (.ofText name)).parent.toText

def sourcePath (c : Configuration) : Except Failure (Option Value) :=
  return Value.get? (.text "path") (← c.placedSource)

/-- The source of rules holds nothing, or it is a mapping. -/
def HasMappedSource (c : Configuration) : Prop :=
  c.rulesSource.holds → ∃ fields, c.rulesSource.bare = .map fields

/-- Two configurations find the same headers on every disk, and have the same include directories
and the same path for their rules. -/
structure FindsSame (c' c : Configuration) : Prop where
  headers : ∀ (d : Disk) (header : Value),
    Agree Eq (c'.findHeader d header) (c.findHeader d header)
  includes : Agree Eq c'.includeDirectories c.includeDirectories
  rules : c.HasMappedSource → Agree (Option.Rel Like) c'.sourcePath c.sourcePath

/-! ### Paths -/

def SameText (v' v : Value) : Prop :=
  ∀ s : Text, v' = .text s ↔ v = .text s

theorem SameText.refl (v : Value) : SameText v v := fun _ => Iff.rfl

theorem text_mem_of_forall₂ {vs' vs : List Value} {s : Text} (h : List.Forall₂ SameText vs' vs)
    (hmem : .text s ∈ vs') : .text s ∈ vs := by
  induction h with
  | nil => contradiction
  | cons hv _ ih =>
      rcases List.mem_cons.mp hmem with heq | hmem
      · rw [(hv s).mp heq.symm]
        exact List.mem_cons_self
      · exact List.mem_cons_of_mem _ (ih hmem)

theorem SameText.of_like {v' v : Value} (h : Like v' v) : SameText v' v := by
  intro s
  constructor
  · rintro rfl
    exact h.eq_text
  · rintro rfl
    exact Like.text_iff.mp h

/-- A path is seen as the same from two places if they are the same or it is absolute. -/
theorem seen_eq_seen_iff (hbase' : c'.baseDir = .text base') (hbase : c.baseDir = .text base)
    (s : Text) : c'.seen s = c.seen s ↔
      Path.ofText base' = Path.ofText base ∨ (Path.ofText s).isAbsolute := by
  rw [seen_eq hbase', seen_eq hbase]
  cases habsolute : (Path.ofText s).isAbsolute with
  | true => simp [habsolute]
  | false =>
      rw [Path.join_relative _ _ habsolute, Path.join_relative _ _ habsolute, Path.mk.injEq,
        List.append_cancel_right_eq, ← Path.mk.injEq]
      exact (or_iff_left Bool.false_ne_true).symm

/-- What a value is placed at: the path of a text, and nothing otherwise. -/
theorem placed_cases (hbase : c.baseDir = .text base) (v : Value) :
    (∃ s, v = .text s ∧ c.placed v = .ok (c.seen s)) ∨
      (∀ s, v ≠ .text s) ∧ ∃ e, c.placed v = .error e := by
  cases hplaced : c.placed v with
  | ok p =>
      obtain ⟨s, rfl⟩ := exists_text_of_placed (isOk_iff.mpr ⟨p, hplaced⟩)
      exact .inl ⟨s, rfl, by rw [← placed_text hbase s, hplaced]⟩
  | error e =>
      refine .inr ⟨?_, e, rfl⟩
      rintro s rfl
      rw [placed_text hbase] at hplaced
      contradiction

theorem pathOf_cases (v : Value) :
    (∃ s, v = .text s ∧ pathOf v = .ok (.ofText s)) ∨
      (∀ s, v ≠ .text s) ∧ ∃ e, pathOf v = .error e := by
  cases hpath : pathOf v with
  | ok p =>
      obtain ⟨s, rfl⟩ := isOk_pathOf_iff.mp (isOk_iff.mpr ⟨p, hpath⟩)
      exact .inl ⟨s, rfl, hpath.symm⟩
  | error e =>
      refine .inr ⟨?_, e, rfl⟩
      rintro s rfl
      contradiction

theorem agree_placed {R : Path → Path → Prop} (hbase' : c'.baseDir = .text base')
    (hbase : c.baseDir = .text base) {v' v : Value} (htext : SameText v' v)
    (hseen : ∀ s, v = .text s → R (c'.seen s) (c.seen s)) :
    Agree R (c'.placed v') (c.placed v) := by
  rcases placed_cases hbase v with ⟨s, hv, hplaced⟩ | ⟨hv, e, hplaced⟩
  · rw [(htext s).mpr hv, placed_text hbase', hplaced]
    exact .ok (hseen s hv)
  · rcases placed_cases hbase' v' with ⟨s, hv', -⟩ | ⟨-, e', hplaced'⟩
    · exact absurd ((htext s).mp hv') (hv s)
    · rw [hplaced', hplaced]
      exact .error e' e

/-! ### Headers -/

/-- Include paths that are the same texts lead to the same headers where these are seen as the same
from them. -/
theorem agree_findIncluded {d : Disk} {header : Value} (hbase' : c'.baseDir = .text base')
    (hbase : c.baseDir = .text base)
    (hjoin : ∀ h, header = .text h →
      ∀ s, (c'.seen s).join (.ofText h) = (c.seen s).join (.ofText h))
    {vs' vs : List Value} (hvs : List.Forall₂ SameText vs' vs) :
    Agree Eq (findIncluded d c' header vs') (findIncluded d c header vs) := by
  induction hvs with
  | nil => exact .refl _
  | @cons v' v vs' vs hv _ ih =>
      have hplaced : Agree (fun q' q => ∀ h, header = .text h →
          q'.join (.ofText h) = q.join (.ofText h)) (c'.placed v') (c.placed v) :=
        agree_placed hbase' hbase hv fun s _ h hheader => hjoin h hheader s
      rw [findIncluded, findIncluded]
      refine hplaced.bind fun q' q hq => ?_
      rcases pathOf_cases header with ⟨h, hheader, hpath⟩ | ⟨-, e, hpath⟩
      · simp only [hpath, ok_bind, hq h hheader]
        refine (Agree.refl _).bind fun there _ hthere => ?_
        rw [← hthere]
        cases there with
        | true => exact .refl _
        | false => exact ih
      · rw [hpath]
        exact .error e e

/-- A header is found at the same place by configurations that see it as the same path. -/
theorem agree_findHeader {d : Disk} {header : Value} (hbase' : c'.baseDir = .text base')
    (hbase : c.baseDir = .text base) (hseen : ∀ h, header = .text h → c'.seen h = c.seen h)
    (hincludes : List.Forall₂ SameText c'.includePaths c.includePaths) :
    Agree Eq (c'.findHeader d header) (c.findHeader d header) := by
  have hjoin : ∀ h, header = .text h →
      ∀ s, (c'.seen s).join (.ofText h) = (c.seen s).join (.ofText h) := by
    intro h hheader s
    rcases (seen_eq_seen_iff hbase' hbase h).mp (hseen h hheader) with hsame | habsolute
    · rw [(seen_eq_seen_iff hbase' hbase s).mpr (.inl hsame)]
    · rw [Path.join_absolute _ _ habsolute, Path.join_absolute _ _ habsolute]
  refine (agree_placed hbase' hbase (.refl header) hseen).bind fun p' p hp => ?_
  rw [hp]
  refine (Agree.refl _).bind fun there _ hthere => ?_
  rw [← hthere]
  cases there with
  | true => exact .refl _
  | false => exact agree_findIncluded hbase' hbase hjoin hincludes

/-- What is found along include paths is in one of them. -/
theorem exists_of_findIncluded {d : Disk} {header : Text} {vs : List Value} {p : Path}
    (hbase : c.baseDir = .text base) (h : findIncluded d c (.text header) vs = .ok (some p)) :
    ∃ i, .text i ∈ vs ∧ p = (c.seen i).join (.ofText header) := by
  induction vs with
  | nil => cases Except.ok.inj h
  | cons v vs ih =>
      rw [findIncluded] at h
      obtain ⟨q, hq, h⟩ := bind_eq_ok_iff.mp h
      obtain ⟨i, rfl⟩ := exists_text_of_placed (isOk_iff.mpr ⟨q, hq⟩)
      rw [placed_text hbase] at hq
      obtain rfl := Except.ok.inj hq
      simp only [pathOf_text, ok_bind] at h
      obtain ⟨there, -, h⟩ := bind_eq_ok_iff.mp h
      cases there with
      | true => exact ⟨i, List.mem_cons_self, (Option.some.inj (Except.ok.inj h)).symm⟩
      | false =>
          obtain ⟨j, hj, hp⟩ := ih h
          exact ⟨j, List.mem_cons_of_mem _ hj, hp⟩

/-- A header that is not where its path leads is in an include path. -/
theorem seen_or_exists_of_findHeader {d : Disk} {header : Text} {p : Path}
    (hbase : c.baseDir = .text base) (h : c.findHeader d (.text header) = .ok (some p)) :
    p = c.seen header ∨ ∃ i, .text i ∈ c.includePaths ∧ p = (c.seen i).join (.ofText header) := by
  rw [findHeader, placed_text hbase, ok_bind] at h
  obtain ⟨there, -, h⟩ := bind_eq_ok_iff.mp h
  cases there with
  | true => exact .inl (Option.some.inj (Except.ok.inj h)).symm
  | false => exact .inr (exists_of_findIncluded hbase h)

/-! ### Include directories -/

theorem agree_mapM_placed (hbase' : c'.baseDir = .text base') (hbase : c.baseDir = .text base)
    (hseen : ∀ s, c'.seen s = c.seen s) {vs' vs : List Value} (hvs : List.Forall₂ SameText vs' vs) :
    Agree Eq (vs'.mapM c'.placed) (vs.mapM c.placed) := by
  induction hvs with
  | nil => exact .refl _
  | cons hv _ ih =>
      rw [List.mapM_cons, List.mapM_cons]
      refine (agree_placed hbase' hbase hv fun s _ => hseen s).bind fun p' p hp => ?_
      refine ih.bind fun ps' ps hps => ?_
      rw [hp, hps]
      exact .ok rfl

/-- The include directories are the same if all include paths are seen as the same. -/
theorem mapM_placed_eq_iff (hbase' : c'.baseDir = .text base') (hbase : c.baseDir = .text base)
    {vs' vs : List Value} (hvs : List.Forall₂ SameText vs' vs) {ps : List Path}
    (h : vs.mapM c.placed = .ok ps) :
    vs'.mapM c'.placed = .ok ps ↔ ∀ s : Text, .text s ∈ vs → c'.seen s = c.seen s := by
  induction hvs generalizing ps with
  | nil => simpa using h
  | @cons v' v vs' vs hv _ ih =>
      rw [List.mapM_cons] at h ⊢
      obtain ⟨p, hp, h⟩ := bind_eq_ok_iff.mp h
      obtain ⟨ps', hps', h⟩ := bind_eq_ok_iff.mp h
      obtain ⟨s, rfl⟩ := exists_text_of_placed (isOk_iff.mpr ⟨p, hp⟩)
      rw [placed_text hbase] at hp
      obtain rfl := Except.ok.inj hp
      obtain rfl := Except.ok.inj h
      rw [(hv s).mpr rfl, placed_text hbase', ok_bind, bind_eq_ok_iff]
      constructor
      · rintro ⟨qs, hqs, heq⟩
        obtain ⟨hseen, rfl⟩ := List.cons.inj (Except.ok.inj heq)
        intro t ht
        rcases List.mem_cons.mp ht with htext | ht
        · obtain rfl : t = s := Scalar.text.inj (Value.scalar.inj htext)
          exact hseen
        · exact (ih hps').mp hqs t ht
      · intro hseen
        refine ⟨ps', (ih hps').mpr fun t ht => hseen t (List.mem_cons_of_mem _ ht), ?_⟩
        rw [hseen s List.mem_cons_self]
        rfl

/-! ### Sources of rules -/

theorem sourcePath_of_not_holds (h : c.rulesSource.holds = false) : c.sourcePath = .ok none := by
  simp [sourcePath, placedSource, h]

/-- The path in a source, as the setting has it, is seen from the base directory. -/
theorem sourcePath_of_bare {fields : Fields} (hholds : c.rulesSource.holds)
    (hbare : c.rulesSource.bare = .map fields) :
    c.sourcePath =
      match Value.get? (.text "path") fields with
      | none => .ok none
      | some v =>
        if v.holds then c.placed v >>= fun p => .ok (some (.text p.toText)) else .ok (some v) := by
  rw [sourcePath, placedSource_of_bare hholds hbare]
  cases hpath : Value.get? (.text "path") fields with
  | none => simp [hpath]
  | some v =>
      cases hv : v.holds with
      | false => simp [hpath, hv]
      | true => cases hplaced : c.placed v <;> simp [hplaced, hv, Value.get?_put_self]

theorem sourcePath_of_text {fields : Fields} {s : Text} (hbase : c.baseDir = .text base)
    (hbare : c.rulesSource.bare = .map fields)
    (hpath : Value.get? (.text "path") fields = some (.text s)) (hs : s ≠ []) :
    c.sourcePath = .ok (some (.text (c.seen s).toText)) := by
  simp [sourcePath_of_bare (Value.holds_of_get? hbare hpath) hbare, hpath, holds_text_iff.mpr hs,
    placed_text hbase]

/-- Sources that are like each other have the same path if it is seen as the same. -/
theorem agree_sourcePath (hbase' : c'.baseDir = .text base') (hbase : c.baseDir = .text base)
    (hseen : ∀ s, c'.seen s = c.seen s) (hholds : c'.rulesSource.holds = c.rulesSource.holds)
    (hlike : c.rulesSource.holds → Like c'.rulesSource c.rulesSource)
    (hmapped : c.HasMappedSource) : Agree (Option.Rel Like) c'.sourcePath c.sourcePath := by
  cases hsource : c.rulesSource.holds with
  | false =>
      rw [sourcePath_of_not_holds hsource, sourcePath_of_not_holds (hholds.trans hsource)]
      exact .ok .none
  | true =>
      obtain ⟨fields, hbare⟩ := hmapped hsource
      obtain ⟨fields', hbare', hfields⟩ := (hlike hsource).exists_map hbare
      rw [sourcePath_of_bare hsource hbare, sourcePath_of_bare (hholds.trans hsource) hbare']
      have hpath : Option.Rel Like (Value.get? (.text "path") fields')
          (Value.get? (.text "path") fields) := Value.get?_related hfields
      revert hpath
      generalize Value.get? (.text "path") fields' = path'
      generalize Value.get? (.text "path") fields = path
      rintro (@⟨v', v, hv⟩ | -)
      · simp only [hv.holds_eq]
        split
        · refine (agree_placed hbase' hbase (.of_like hv) fun s _ => hseen s).bind fun p' p hp => ?_
          rw [hp]
          exact .ok (.some (Like.text_iff.mpr rfl))
        · exact .ok (.some hv)
      · exact .ok .none

/-! ### Saved configurations -/

theorem exists_of_ofFile {d : Disk} {source : Text} (h : ofFile d source = .ok c) :
    c.headers.asText? = none ∧
      c.baseDir = .text (d.absolute (.ofText source)).parent.toText := by
  simp only [ofFile, bind_eq_ok_iff, mapError_eq_ok_iff] at h
  obtain ⟨text, -, v, -, h⟩ := h
  split at h
  · obtain ⟨c₀, hc₀, h⟩ := bind_eq_ok_iff.mp h
    obtain rfl := Except.ok.inj h
    refine ⟨?_, rfl⟩
    show c₀.headers.asText? = none
    rw [(value_of_ofFields hc₀).1]
    exact asText?_headersOf _
  · contradiction

theorem forall₂_includePaths (h : Like (c'.value .includePaths) (c.kept .includePaths)) :
    List.Forall₂ SameText c'.includePaths c.includePaths := by
  have hpaths : (c.kept .includePaths).bare = .list c.includePaths := rfl
  obtain ⟨vs, hvs, hlike⟩ := h.exists_list hpaths
  obtain rfl : c'.includePaths = vs := Value.list.inj hvs
  exact hlike.imp fun _ _ => SameText.of_like

theorem kept_rulesSource (c : Configuration) :
    (c.kept .rulesSource).holds = c.rulesSource.holds ∧
      (c.rulesSource.holds → c.kept .rulesSource = c.rulesSource) := by
  cases hsaved : c.isSaved .rulesSource with
  | true =>
    have hkept : c.kept .rulesSource = c.rulesSource := by rw [kept, if_pos hsaved, value]
    exact ⟨congrArg Value.holds hkept, fun _ => hkept⟩
  | false =>
    have hnull : c.rulesSource = .null := by
      rw [← isNull_iff]
      simpa [isSaved, value] using hsaved
    have hkept : c.kept .rulesSource = .map [] := by simp [kept, hsaved, Setting.absent]
    rw [hkept, hnull]
    exact ⟨rfl, fun hholds => absurd hholds (by simp [holds_null])⟩

/-- The configuration that is read from a saved file sees paths from the directory of that file. It
finds what the saved one finds if that was read from the same directory. Otherwise it has the same
include directories and the same path for its rules only where these paths are absolute, and a
header beside the first file only by an include path that leads there. -/
theorem ofFile_save_finds {d : Disk} {source path name : Text} (h : ofFile d source = .ok c)
    (hsaved : (c.save d path).2.result.isOk) (hread : c.ReadsBack)
    (hpath : Path.ofText name = Path.ofText path) (hname : Disk.namesDirectory name = false) :
    ∃ c', ofFile (c.save d path).1 name = .ok c' ∧
      (∀ s, c.seen s = (directoryOf d source).join (.ofText s)) ∧
      (∀ s, c'.seen s = (directoryOf d path).join (.ofText s)) ∧
      (directoryOf d path = directoryOf d source → FindsSame c' c) ∧
      (∀ (e : Disk) (s : Text), (Path.ofText s).isAbsolute →
        Agree Eq (c'.findHeader e (.text s)) (c.findHeader e (.text s))) ∧
      (∀ (e : Disk) (s : Text), isThere e (c.seen s) = .ok true →
        c.findHeader e (.text s) = .ok (some (c.seen s)) ∧
        (c'.findHeader e (.text s) = .ok (some (c.seen s)) →
          c'.seen s = c.seen s ∨
            ∃ i, .text i ∈ c.includePaths ∧ (c'.seen i).join (.ofText s) = c.seen s)) ∧
      (∀ ps, c.includeDirectories = .ok ps → (c'.includeDirectories = .ok ps ↔
        ∀ s : Text, .text s ∈ c.includePaths →
          directoryOf d path = directoryOf d source ∨ (Path.ofText s).isAbsolute)) ∧
      (∀ fields s, c.rulesSource.bare = .map fields →
        Value.get? (.text "path") fields = some (.text s) → s ≠ [] →
        (c'.sourcePath = c.sourcePath ↔
          directoryOf d path = directoryOf d source ∨ (Path.ofText s).isAbsolute)) := by
  obtain ⟨hheaders, hbase⟩ := exists_of_ofFile h
  obtain ⟨c', hc', hbase', hsettings⟩ := exists_ofFile_of_save hheaders hsaved hread hpath hname
  have hincludes := forall₂_includePaths (hsettings .includePaths nofun)
  have hiff : ∀ s, c'.seen s = c.seen s ↔
      directoryOf d path = directoryOf d source ∨ (Path.ofText s).isAbsolute :=
    seen_eq_seen_iff hbase' hbase
  have hsource : Like c'.rulesSource (c.kept .rulesSource) := hsettings .rulesSource nofun
  obtain ⟨hholds, hkept⟩ := kept_rulesSource c
  refine ⟨c', hc', seen_eq hbase, seen_eq hbase', ?same, ?absolute, ?beside, ?includes, ?rules⟩
  case same =>
    intro hsame
    have hseen : ∀ s, c'.seen s = c.seen s := fun s => (hiff s).mpr (.inl hsame)
    exact {
      headers := fun e header => agree_findHeader hbase' hbase (fun s _ => hseen s) hincludes
      includes := agree_mapM_placed hbase' hbase hseen hincludes
      rules := agree_sourcePath hbase' hbase hseen (hsource.holds_eq.trans hholds)
        fun hsource' => hkept hsource' ▸ hsource }
  case absolute =>
    intro e s habsolute
    refine agree_findHeader hbase' hbase (fun t ht => ?_) hincludes
    obtain rfl : s = t := Scalar.text.inj (Value.scalar.inj ht)
    exact (hiff s).mpr (.inr habsolute)
  case beside =>
    intro e s hthere
    refine ⟨by simp [findHeader, placed_text hbase, hthere], fun hfound => ?_⟩
    rcases seen_or_exists_of_findHeader hbase' hfound with hseen | ⟨i, hi, hseen⟩
    · exact .inl hseen.symm
    · exact .inr ⟨i, text_mem_of_forall₂ hincludes hi, hseen.symm⟩
  case includes =>
    intro ps hps
    rw [includeDirectories, mapM_placed_eq_iff hbase' hbase hincludes hps]
    exact forall_congr' fun s => imp_congr_right fun _ => hiff s
  case rules =>
    intro fields s hbare hget hs
    rw [hkept (Value.holds_of_get? hbare hget)] at hsource
    obtain ⟨fields', hbare', hfields⟩ := hsource.exists_map hbare
    have hget' : Value.get? (.text "path") fields' = some (.text s) :=
      Value.get?_eq_text hfields hget
    rw [sourcePath_of_text hbase hbare hget hs, sourcePath_of_text hbase' hbare' hget' hs, ← hiff,
      ← Path.toText_inj (isProper_seen hbase' s) (isProper_seen hbase s)]
    simp only [Except.ok.injEq, Option.some.injEq, Value.text, Value.scalar.injEq,
      Scalar.text.injEq]

/-- What is found beside the file is not found any more once the configuration is saved elsewhere,
though an absolute include path is still the same. -/
theorem ofFile_save_finds_elsewhere :
    let text : Text := "{headers: [a.h], cflags: -Iinc -I/sys, rulesSource: {path: r.csv}}"
    let d : Disk := ⟨["w"], [(["w"], .directory), (["w", "p"], .directory),
      (["w", "q"], .directory), (["w", "p", "c.yaml"], .text text), (["w", "p", "a.h"], .text "")]⟩
    let c : Configuration := ((ofFile d "p/c.yaml").toOption).getD default
    let e : Disk := (c.save d "q/d.yaml").1
    ofFile d "p/c.yaml" = .ok c ∧ (c.save d "q/d.yaml").2.result.isOk ∧ c.ReadsBack ∧
      ∃ c', ofFile e "q/d.yaml" = .ok c' ∧
        c.findHeader e (.text "a.h") = .ok (some (.ofText "/w/p/a.h")) ∧
        c'.findHeader e (.text "a.h") ≠ .ok (some (.ofText "/w/p/a.h")) ∧
        c'.includeDirectories ≠ .ok [.ofText "/w/p/inc", .ofText "/sys"] ∧
        c'.sourcePath ≠ c.sourcePath := by
  intro text d c e
  have hc : ofFile d "p/c.yaml" = .ok c := by
    obtain ⟨c₀, hc₀⟩ := isOk_iff.mp (show (ofFile d "p/c.yaml").isOk by decide +kernel)
    simp only [c, hc₀]
    rfl
  have hread : c.ReadsBack := readsBack_of_looksLike (by decide +kernel)
  -- one evaluation for all, since each reads the file
  obtain ⟨hsaved, hthere, hseen, hpaths, hdirectories, hsource⟩ :
      (c.save d "q/d.yaml").2.result.isOk ∧ (isThere e (c.seen "a.h")).toOption = some true ∧
        c.seen "a.h" = .ofText "/w/p/a.h" ∧
        Value.lookLike c.includePaths ((["inc", "/sys"] : List Text).map Value.text) ∧
        c.includeDirectories.toOption = some [.ofText "/w/p/inc", .ofText "/sys"] ∧
        c.rulesSource.looksLike (.map [(.text "path", .text "r.csv")]) := by decide +kernel
  obtain ⟨c', hc', -, hseen', -, -, hbeside, hincludes, hrules⟩ :=
    ofFile_save_finds hc hsaved hread (show Path.ofText "q/d.yaml" = _ from rfl) (by decide +kernel)
  obtain ⟨fields, hbare, hfields⟩ := (Value.like_of_looksLike hsource).exists_map rfl
  have hmoved : directoryOf d "q/d.yaml" ≠ directoryOf d "p/c.yaml" := by decide +kernel
  obtain ⟨hfound, hlost⟩ := hbeside e "a.h" (eq_ok_of_toOption hthere)
  rw [hseen] at hfound hlost
  refine ⟨hc, hsaved, hread, c', hc', hfound, fun h => ?_, fun h => ?_, fun h => ?_⟩
  · rcases hlost h with h | ⟨i, hi, h⟩
    · rw [hseen'] at h
      exact absurd h (by decide +kernel)
    · rw [hseen'] at h
      rw [Value.eq_texts_of_lookLike hpaths] at hi
      obtain ⟨t, ht, htext⟩ := List.mem_map.mp hi
      obtain rfl : t = i := Scalar.text.inj (Value.scalar.inj htext)
      simp only [List.mem_cons, List.not_mem_nil, or_false] at ht
      rcases ht with rfl | rfl
      all_goals exact absurd h (by decide +kernel)
  · have hinc : .text "inc" ∈ c.includePaths := by
      rw [Value.eq_texts_of_lookLike hpaths]
      exact List.mem_cons_self
    exact ((hincludes _ (eq_ok_of_toOption hdirectories)).mp h "inc" hinc).elim hmoved (by decide)
  · have hget : Value.get? (.text "path") fields = some (.text "r.csv") :=
      Value.get?_eq_text hfields rfl
    exact ((hrules fields "r.csv" hbare hget nofun).mp h).elim hmoved (by decide)

end Configuration

end BindingNames
