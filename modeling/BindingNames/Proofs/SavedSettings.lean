import BindingNames.Proofs.GivenSettings
import BindingNames.Proofs.LikeValues
import BindingNames.Proofs.ProgramCodes
import BindingNames.Proofs.WrittenFiles

/-!
What comes back of a configuration that is saved. The fields that are saved have one key for each
setting and values in the form that settings have once they are read: parted headers, lists of paths
and arguments without flags beside them, a mapping of symbols. Reading such fields again leaves them
as they are. Only null is lost, since it is not saved, and the base directory is that of the file.
A document gives back its values with other labels, so settings come back from a file up to these.
-/

namespace BindingNames

open Value (Like RelatedFields)

namespace Configuration

variable {c c' : Configuration} {fields : Fields} {R : Value → Value → Prop}

def isSaved (c : Configuration) (s : Setting) : Bool :=
  s != .baseDir && !isNull (c.value s)

/-- The value with which a setting comes back: that for its absence if it is not saved. -/
def kept (c : Configuration) (s : Setting) : Value :=
  if c.isSaved s then c.value s else s.absent

/-- No key of a setting has null as its value, unless that stands for the absence of the setting
anyway. -/
def NullsAreAbsences (fields : Fields) : Prop :=
  ∀ f ∈ fields, ∀ s, Setting.ofKey? f.1 = some s → f.2 = .null → s.absent = .null

/-- The document of a configuration, as it is read from a file, has the values that were written. -/
def ReadsBack (c : Configuration) : Prop :=
  ∃ v, Document.read (Text.unifyLineEnds c.savedText) = .ok v ∧ Like v (.map c.savedFields)

/-! ### Settings -/

theorem isNull_iff {v : Value} : isNull v ↔ v = .null := by
  constructor
  · intro h
    unfold isNull at h
    split at h
    · rfl
    · contradiction
  · rintro rfl
    rfl

theorem mem_saved_iff {s : Setting} : s ∈ Setting.saved ↔ s ≠ .baseDir := by
  simp [Setting.saved, Setting.mem_all]

theorem nodup_all : Setting.all.Nodup := by
  decide

/-- A configuration is what its settings are. -/
theorem eq_withBaseDir (hvalue : ∀ s, s ≠ .baseDir → c'.value s = c.value s) :
    c' = { c with baseDir := c'.baseDir } := by
  cases c
  cases c'
  rw [mk.injEq]
  exact ⟨hvalue .name nofun, hvalue .headers nofun, Value.list.inj (hvalue .includePaths nofun),
    Value.list.inj (hvalue .compilerArgs nofun), hvalue .cplusplus nofun, hvalue .parserPath nofun,
    hvalue .libs nofun, hvalue .trimPrefixes nofun, Value.map.inj (hvalue .symMap nofun),
    hvalue .rulesSource nofun, hvalue .rules nofun, hvalue .nameStyle nofun,
    hvalue .receiverCheck nofun, hvalue .output nofun, hvalue .report nofun, hvalue .logLevel nofun,
    hvalue .logFile nofun, rfl⟩

theorem toFields_withBaseDir (c : Configuration) (base : Value) :
    toFields { c with baseDir := base } = c.toFields := by
  refine List.map_congr_left fun s hs => ?_
  rw [mem_saved_iff] at hs
  cases s <;> first | rfl | contradiction

/-! ### Fields that are saved -/

theorem savedFields_eq (c : Configuration) :
    c.savedFields = (Setting.all.filter c.isSaved).map fun s => (.text s.key, c.value s) := by
  have hsaved : c.isSaved = fun s => !isNull (c.value s) && (s != .baseDir) :=
    funext fun s => Bool.and_comm _ _
  rw [savedFields, toFields, List.filter_map, Setting.saved, hsaved, ← List.filter_filter]
  rfl

theorem exists_key_of_mem_savedFields {f : Scalar × Value} (h : f ∈ c.savedFields) :
    ∃ s : Setting, f.1 = .text s.key := by
  rw [savedFields_eq] at h
  obtain ⟨s, -, rfl⟩ := List.mem_map.mp h
  exact ⟨s, rfl⟩

/-- There is one field for each setting that is saved. -/
theorem valuesOf_savedFields (s : Setting) :
    valuesOf (.setting s) c.savedFields = if c.isSaved s then [c.value s] else [] := by
  have hkey : ((fun f : Scalar × Value => subject? f.1 == some (.setting s)) ∘
      fun t : Setting => (Scalar.text t.key, c.value t)) = fun t => t == s := by
    funext t
    have hsubject : subject? (.text t.key) = some (.setting t) :=
      subject?_eq_setting_iff.mpr (Setting.ofKey?_key t)
    rw [Function.comp_apply, hsubject, Bool.eq_iff_iff]
    simp
  have hnodup : (Setting.all.filter c.isSaved).Nodup := nodup_all.filter _
  rw [valuesOf, savedFields_eq, List.filter_map, hkey, List.filter_beq, hnodup.count]
  cases hsaved : c.isSaved s with
  | true => simp [hsaved, Setting.mem_all]
  | false => simp [hsaved]

theorem savedFields_ne_nil (c : Configuration) : c.savedFields ≠ [] := by
  refine List.ne_nil_of_mem (a := (.text Setting.includePaths.key, .list c.includePaths)) ?_
  rw [savedFields_eq]
  exact List.mem_map.mpr ⟨.includePaths, List.mem_filter.mpr ⟨Setting.mem_all _, rfl⟩, rfl⟩

theorem valuesOf_flags_savedFields : valuesOf .flags c.savedFields = [] := by
  rw [valuesOf, List.map_eq_nil_iff, List.filter_eq_nil_iff]
  intro f hf
  obtain ⟨s, hs⟩ := exists_key_of_mem_savedFields hf
  rw [hs, subject?_eq_setting_iff.mpr (Setting.ofKey?_key s)]
  simp

/-! ### Fields that are read -/

/-- What a way to relate values has to keep of lists, mappings and texts, so that settings are read
alike. -/
structure KeepsSettings (R : Value → Value → Prop) : Prop where
  absent : ∀ s : Setting, R s.absent s.absent
  list : ∀ {v : Value} {xs : List Value}, R v (.list xs) →
    ∃ ys, membersOrNone v = .ok ys ∧ R (.list ys) (.list xs)
  map : ∀ {v : Value} {fs : Fields}, R v (.map fs) →
    ∃ gs, v.toFieldsOrNone = .ok gs ∧ R (.map gs) (.map fs)
  text : ∀ {s : Text} {w : Value}, R (.text s) w → w = .text s

theorem membersOrNone_list (xs : List Value) : membersOrNone (.list xs) = .ok xs := by
  cases xs <;> rfl

theorem keepsSettings_eq : KeepsSettings Eq where
  absent _ := rfl
  list := by
    rintro _ xs rfl
    exact ⟨xs, membersOrNone_list xs, rfl⟩
  map := by
    rintro _ fs rfl
    exact ⟨fs, Value.toFieldsOrNone_map fs, rfl⟩
  text := Eq.symm

theorem membersOrNone_of_bare {v : Value} {xs : List Value} (h : v.bare = .list xs) :
    membersOrNone v = .ok xs := by
  rw [← membersOrNone_list xs, membersOrNone, membersOrNone, Value.members?, Value.members?,
    ← Value.holds_bare v, h]
  rfl

theorem toFieldsOrNone_of_bare {v : Value} {fs : Fields} (h : v.bare = .map fs) :
    v.toFieldsOrNone = .ok fs := by
  rw [← Value.toFieldsOrNone_map fs, Value.toFieldsOrNone, Value.toFieldsOrNone, Value.toFields,
    Value.toFields, ← Value.holds_bare v, h]
  rfl

theorem keepsSettings_like : KeepsSettings Like where
  absent s := by
    refine Value.like_of_looksLike ?_
    cases s <;> decide
  list h := by
    obtain ⟨ys, hbare, hys⟩ := h.exists_list rfl
    exact ⟨ys, membersOrNone_of_bare hbare, Value.like_of_outside (.list rfl rfl hys)⟩
  map h := by
    obtain ⟨gs, hbare, hgs⟩ := h.exists_map rfl
    exact ⟨gs, toFieldsOrNone_of_bare hbare, Value.like_of_outside (.map rfl rfl hgs)⟩
  text := Like.eq_text

theorem subject?_unlabelled (k : Scalar) : subject? k.unlabelled = subject? k := by
  cases k <;> rfl

theorem isShown_unlabelled (k : Scalar) : k.unlabelled.isShown = k.isShown := by
  induction k with
  | pair a b label iha ihb => rw [Scalar.unlabelled, Scalar.isShown, Scalar.isShown, iha, ihb]
  | _ => rfl

/-- Related fields have related values for each subject. -/
theorem valuesOf_related {others : Fields} (h : List.Forall₂ (RelatedFields R) fields others)
    (x : Subject) : List.Forall₂ R (valuesOf x fields) (valuesOf x others) := by
  refine List.rel_map (R := RelatedFields R) (fun _ _ hf => hf.2) (List.rel_filter ?_ h)
  intro f g hf
  have hsubject : subject? f.1 = subject? g.1 := by
    rw [← subject?_unlabelled f.1, hf.1, subject?_unlabelled]
  simp only [hsubject]

theorem any_related {others : Fields} (h : List.Forall₂ (RelatedFields R) fields others) :
    (fields.any fun f => !f.1.isShown) = others.any fun f => !f.1.isShown := by
  induction h with
  | nil => rfl
  | cons hf _ ih =>
      rw [List.any_cons, List.any_cons, ih, ← isShown_unlabelled, hf.1, isShown_unlabelled]

/-- A setting that is read from the fields of a saved configuration has the value that is kept. -/
theorem related_kept (hR : KeepsSettings R)
    (h : List.Forall₂ (RelatedFields R) fields c.savedFields) (s : Setting) :
    R (s.ofFields fields) (c.kept s) := by
  have hvalues := valuesOf_related h (.setting s)
  rw [valuesOf_savedFields] at hvalues
  rw [Setting.ofFields, given?_eq, kept]
  cases hsaved : c.isSaved s with
  | true =>
      rw [hsaved, if_pos rfl] at hvalues
      obtain ⟨v, vs, hv, hvs, heq⟩ := List.forall₂_cons_right_iff.mp hvalues
      rw [heq, List.forall₂_nil_right_iff.mp hvs]
      exact hv
  | false =>
      rw [hsaved, if_neg Bool.false_ne_true] at hvalues
      rw [List.forall₂_nil_right_iff.mp hvalues]
      exact hR.absent s

theorem splitOf_related (h : List.Forall₂ (RelatedFields R) fields c.savedFields) :
    splitOf fields = .ok ⟨[], []⟩ := by
  have hvalues := valuesOf_related h .flags
  rw [valuesOf_flags_savedFields, List.forall₂_nil_right_iff] at hvalues
  rw [splitOf, get?_flagsKey_eq, hvalues]
  rfl

theorem any_savedFields (c : Configuration) :
    (c.savedFields.any fun f => !f.1.isShown) = false := by
  rw [List.any_eq_false]
  intro f hf
  obtain ⟨s, hs⟩ := exists_key_of_mem_savedFields hf
  simp [hs, Scalar.isShown]

/-- Headers stay as they are, unless they are one text. -/
theorem headersOf_of_asText? {v : Value} (h : v.asText? = none) : headersOf v = v := by
  unfold headersOf
  split
  · contradiction
  · rfl

theorem asText?_headersOf (v : Value) : (headersOf v).asText? = none := by
  unfold headersOf
  split
  · rfl
  · rename_i h
    rw [Option.eq_none_iff_forall_ne_some]
    exact fun s hs => h s (Value.asText?_eq_some_iff.mp hs)

theorem asText?_kept_headers (hheaders : c.headers.asText? = none) :
    (c.kept .headers).asText? = none := by
  rw [kept]
  split
  · exact hheaders
  · rfl

/-- Fields like those that are saved give a configuration with the settings that are kept. -/
theorem exists_ofFields_of_related (hR : KeepsSettings R) (hheaders : c.headers.asText? = none)
    (h : List.Forall₂ (RelatedFields R) fields c.savedFields) :
    ∃ c', ofFields fields = .ok c' ∧ ∀ s, R (c'.value s) (c.kept s) := by
  have hrelated : ∀ s : Setting, R (s.ofFields fields) (c.kept s) := related_kept hR h
  obtain ⟨includePaths, hincludePaths, hrelatedPaths⟩ := hR.list (hrelated .includePaths)
  obtain ⟨compilerArgs, hcompilerArgs, hrelatedArgs⟩ := hR.list (hrelated .compilerArgs)
  obtain ⟨symMap, hsymMap, hrelatedMap⟩ := hR.map (hrelated .symMap)
  have hheadersOf :
      headersOf (Setting.headers.ofFields fields) = Setting.headers.ofFields fields := by
    refine headersOf_of_asText? ?_
    rw [Option.eq_none_iff_forall_ne_some]
    intro s hs
    have hkept := asText?_kept_headers hheaders
    have hv := hrelated .headers
    rw [Value.asText?_eq_some_iff.mp hs] at hv
    rw [hR.text hv] at hkept
    contradiction
  have hany : (fields.any fun f => !f.1.isShown) = false :=
    (any_related h).trans (any_savedFields c)
  simp only [ofFields, hany, if_neg Bool.false_ne_true, hincludePaths, hcompilerArgs,
    splitOf_related h, hsymMap, hheadersOf, mapError_ok, ok_bind]
  refine ⟨_, rfl, fun s => ?_⟩
  cases s with
  | includePaths =>
      simp only [value, List.append_nil]
      exact hrelatedPaths
  | compilerArgs =>
      simp only [value, List.append_nil]
      exact hrelatedArgs
  | symMap => exact hrelatedMap
  | _ => exact hrelated _

/-! ### Configurations that were read -/

theorem value_of_ofFields (h : ofFields fields = .ok c) :
    c.headers = headersOf (Setting.headers.ofFields fields) ∧
      ∀ s, c.value s = .null → s.ofFields fields = .null := by
  rw [ofFields] at h
  split at h
  · contradiction
  · simp only [pure_eq_ok, bind_eq_ok_iff] at h
    obtain ⟨includePaths, -, compilerArgs, -, split, -, symMap, -, hc⟩ := h
    rw [← Except.ok.inj hc]
    refine ⟨rfl, fun s hs => ?_⟩
    cases s with
    | headers =>
        simp only [value, headersOf] at hs
        split at hs
        · contradiction
        · exact hs
    | includePaths | compilerArgs | symMap => contradiction
    | _ => exact hs

theorem exists_mem_of_given? {s : Setting} {v : Value} (h : s.given? fields = some v) :
    ∃ f ∈ fields, Setting.ofKey? f.1 = some s ∧ f.2 = v := by
  rw [Setting.given?, Option.map_eq_some_iff] at h
  obtain ⟨f, hf, rfl⟩ := h
  obtain ⟨hmem, hkey⟩ := List.mem_filter.mp (List.mem_of_getLast? hf)
  exact ⟨f, hmem, eq_of_beq hkey, rfl⟩

/-- Without nulls that stand for something else, every setting that can be saved is kept. -/
theorem kept_eq_value (h : ofFields fields = .ok c) (hnulls : NullsAreAbsences fields)
    {s : Setting} (hs : s ≠ .baseDir) : c.kept s = c.value s := by
  cases hnull : isNull (c.value s) with
  | false => simp [kept, isSaved, hnull, hs]
  | true =>
      have hvalue := isNull_iff.mp hnull
      have hgiven := (value_of_ofFields h).2 s hvalue
      have hkept : c.kept s = s.absent := by simp [kept, isSaved, hnull]
      rw [hkept, hvalue]
      rw [Setting.ofFields] at hgiven
      cases hv : s.given? fields with
      | none => rwa [hv] at hgiven
      | some v =>
          rw [hv] at hgiven
          obtain ⟨f, hf, hkey, hfv⟩ := exists_mem_of_given? hv
          exact hnulls f hf s hkey (hfv.trans hgiven)

/-! ### Files -/

/-- A look at what is read shows whether it has the values that were written. -/
theorem readsBack_of_looksLike
    (h : (Document.read (Text.unifyLineEnds c.savedText)).toOption.any
      fun v => v.looksLike (.map c.savedFields)) : c.ReadsBack := by
  obtain ⟨v, hv, hlooks⟩ := (Option.any_eq_true _ _).mp h
  exact ⟨v, eq_ok_of_toOption hv, Value.like_of_looksLike hlooks⟩

theorem placeFile_of_save {d : Disk} {path : Text} (h : (c.save d path).2.result.isOk) :
    d.placeFile (.ofText path) (.text c.savedText) = .ok (c.save d path).1 := by
  obtain ⟨hfault, hplaced⟩ := isOk_save_iff.mp h
  obtain ⟨d', hd'⟩ := isOk_iff.mp hplaced
  simp [save, hfault, hd']

/-- The configuration that a saved file gives sees paths from where the file is. -/
theorem exists_ofFile_of_save {d : Disk} {path name : Text} (hheaders : c.headers.asText? = none)
    (hsaved : (c.save d path).2.result.isOk) (hread : c.ReadsBack)
    (hpath : Path.ofText name = Path.ofText path) (hname : Disk.namesDirectory name = false) :
    ∃ c', ofFile (c.save d path).1 name = .ok c' ∧
      c'.baseDir = .text (d.absolute (.ofText path)).parent.toText ∧
      ∀ s, s ≠ .baseDir → Like (c'.value s) (c.kept s) := by
  obtain ⟨v, hv, hlike⟩ := hread
  obtain ⟨fields, hbare, hfields⟩ := hlike.exists_map rfl
  obtain ⟨c₁, hc₁, hsettings⟩ := exists_ofFields_of_related keepsSettings_like hheaders hfields
  have hplaced := placeFile_of_save hsaved
  rw [← hpath] at hplaced ⊢
  have hcwd := Disk.cwd_placeFile hplaced
  have hholds : v.holds := by
    rw [hlike.holds_eq]
    simpa [Value.holds] using c.savedFields_ne_nil
  have habsolute : (c.save d path).1.absolute (.ofText name) = d.absolute (.ofText name) := by
    rw [Disk.absolute, Disk.absolute, Disk.cwdPath, Disk.cwdPath, hcwd]
  refine ⟨{ c₁ with baseDir := .text (d.absolute (.ofText name)).parent.toText }, ?_, rfl, ?_⟩
  · simp only [ofFile, Disk.readNamed_of_placeFile hplaced hname, mapError_ok, ok_bind, hv, hholds,
      if_true, hbare, hc₁, habsolute]
    rfl
  · intro s hs
    have hvalue := hsettings s
    cases s with
    | baseDir => contradiction
    | _ => exact hvalue

/-- The fields that are saved give the configuration again, but for its base directory, unless they
were given null in place of something; and so, up to labels, does a file with them, as far as
documents give back what is written into them. -/
theorem savedFields_restore (h : ofFields fields = .ok c) (hnulls : NullsAreAbsences fields) :
    (∃ c', ofFields c.savedFields = .ok c' ∧ c' = { c with baseDir := Setting.baseDir.absent } ∧
      c'.toFields = c.toFields) ∧
    ∀ (d : Disk) (path name : Text), (c.save d path).2.result.isOk → c.ReadsBack →
      Path.ofText name = Path.ofText path → Disk.namesDirectory name = false →
        ∃ c', ofFile (c.save d path).1 name = .ok c' ∧
          ∀ s ∈ Setting.saved, Like (c'.value s) (c.value s) := by
  have hheaders : c.headers.asText? = none := by
    rw [(value_of_ofFields h).1]
    exact asText?_headersOf _
  constructor
  · have hself : List.Forall₂ (RelatedFields Eq) c.savedFields c.savedFields :=
      List.forall₂_same.mpr fun f _ => ⟨rfl, rfl⟩
    obtain ⟨c', hc', hvalues⟩ := exists_ofFields_of_related keepsSettings_eq hheaders hself
    have hbase : c'.baseDir = Setting.baseDir.absent := hvalues .baseDir
    have heq : c' = { c with baseDir := Setting.baseDir.absent } := by
      rw [← hbase]
      exact eq_withBaseDir fun s hs => (hvalues s).trans (kept_eq_value h hnulls hs)
    exact ⟨c', hc', heq, by rw [heq, toFields_withBaseDir]⟩
  · intro d path name hsaved hread hpath hname
    obtain ⟨c', hc', -, hsettings⟩ := exists_ofFile_of_save hheaders hsaved hread hpath hname
    refine ⟨c', hc', fun s hs => ?_⟩
    rw [mem_saved_iff] at hs
    rw [← kept_eq_value h hnulls hs]
    exact hsettings s hs

/-- Two settings share a list, one is null, and flags and headers are parted. The file is read by
another name of its path. -/
theorem savedFields_restore_shared :
    let prefixes : Value := .shared 3 (.list [.text "x_", .text "-"])
    let fields : Fields :=
      [(.text "include", .text "x.h y.h"), (.text "cflags", .text "-I inc -O2"),
        (.text "symMap", .list [.list [.text "x_free", .text ".Free"]]), (.text "report", .null),
        (.text "trimPrefixes", prefixes), (.text "libs", prefixes)]
    let c : Configuration := ((ofFields fields).toOption).getD default
    let d : Disk := ⟨["w"], [(["w"], .directory)]⟩
    ofFields fields = .ok c ∧ NullsAreAbsences fields ∧ c.ReadsBack ∧
      ofFields c.savedFields = .ok { c with baseDir := .text "." } ∧
      ∃ c', ofFile (c.save d "out/c.yaml").1 "out/./c.yaml" = .ok c' ∧
        Like c'.headers (.list [.text "x.h", .text "y.h"]) ∧
        Like (.list c'.includePaths) (.list [.text "inc"]) ∧ Like c'.libs prefixes ∧
        Like (.map c'.symMap) (.map [(.text "x_free", .text ".Free")]) := by
  intro prefixes fields c d
  have hc : ofFields fields = .ok c := by
    obtain ⟨c₀, hc₀⟩ := isOk_iff.mp (show (ofFields fields).isOk by decide +kernel)
    simp only [c, hc₀]
    rfl
  have hnulls : NullsAreAbsences fields := by
    intro f hf s hkey hnull
    simp only [fields, List.mem_cons, List.not_mem_nil, or_false] at hf
    obtain rfl : f = (.text "report", .null) := by
      rcases hf with rfl | rfl | rfl | rfl | rfl | rfl <;> cases hnull
      rfl
    cases (Setting.ofKey?_key .report).symm.trans hkey
    rfl
  have hread : c.ReadsBack := readsBack_of_looksLike (by decide +kernel)
  obtain ⟨⟨c₁, hc₁, rfl, -⟩, hfile⟩ := savedFields_restore hc hnulls
  obtain ⟨c', hc', hlike⟩ := hfile d "out/c.yaml" "out/./c.yaml" (by decide +kernel) hread
    (by decide +kernel) (by decide +kernel)
  exact ⟨hc, hnulls, hread, hc₁, c', hc', hlike .headers (by decide),
    hlike .includePaths (by decide), hlike .libs (by decide), hlike .symMap (by decide)⟩

end Configuration

end BindingNames
