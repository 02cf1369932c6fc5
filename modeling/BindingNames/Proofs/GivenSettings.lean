import BindingNames.Proofs.CompilerFlags
import BindingNames.Proofs.SymbolMap
import Mathlib.Data.List.Forall2
import Mathlib.Data.List.Nodup

/-!
What a configuration depends on. Every key is about a setting, about the compiler flags or about
nothing, and a configuration is given by the values for each of these and by nothing else. If no two
keys are about the same, there is at most one value for each, and neither the order of the fields
nor the choice between two keys of a setting makes a difference. Compiler flags add to what the
other fields give: the include paths and the arguments of the items that they are read as.
-/

namespace BindingNames

namespace Configuration

inductive Subject where
  | setting (s : Setting)
  | flags
  deriving DecidableEq

def subject? (k : Scalar) : Option Subject :=
  if k = flagsKey then some .flags else (Setting.ofKey? k).map .setting

/-- No two keys are about the same. -/
def NamesOnce (fields : Fields) : Prop :=
  (fields.filterMap fun f => subject? f.1).Nodup

/-- The same field, perhaps with another key of its setting. -/
inductive Respelled : Scalar × Value → Scalar × Value → Prop where
  | kept (f : Scalar × Value) : Respelled f f
  | renamed {s : Setting} {k l : Text} (hk : s.hasKey k) (hl : s.hasKey l) (v : Value) :
      Respelled (.text k, v) (.text l, v)

/-- The same fields in any order, perhaps with other keys of their settings. -/
def Rewritten (fields others : Fields) : Prop :=
  ∃ ordered, fields.Perm ordered ∧ List.Forall₂ Respelled ordered others

def withoutFlags (fields : Fields) : Fields :=
  fields.filter fun f => f.1 != flagsKey

def add (c : Configuration) (split : FlagSplit) : Configuration :=
  { c with
    includePaths := c.includePaths ++ split.includes
    compilerArgs := c.compilerArgs ++ split.others }

/-- The values of some fields, apart from their flags, are such that they give a configuration. -/
structure Readable (fields : Fields) : Prop where
  /-- A key that denotes nothing is shown, and a number can have too many digits for that. -/
  keys : ∀ f ∈ fields, f.1.isShown
  includePaths : (membersOrNone (Setting.includePaths.ofFields fields)).isOk
  compilerArgs : (membersOrNone (Setting.compilerArgs.ofFields fields)).isOk
  symMap : (Setting.symMap.ofFields fields).toFieldsOrNone.isOk

/-! ### Keys -/

theorem ofKey?_of_hasKey {s : Setting} {k : Text} (h : s.hasKey k) :
    Setting.ofKey? (.text k) = some s := by
  rw [Setting.hasKey, Bool.or_eq_true, beq_iff_eq, beq_iff_eq] at h
  rcases h with rfl | h
  · exact Setting.ofKey?_key s
  · exact Setting.ofKey?_alias h

theorem ofKey?_flagsKey : Setting.ofKey? flagsKey = none := by
  decide +kernel

theorem subject?_eq_flags_iff {k : Scalar} : subject? k = some .flags ↔ k = flagsKey := by
  rw [subject?]
  split <;> simp_all

theorem subject?_eq_setting_iff {k : Scalar} {s : Setting} :
    subject? k = some (.setting s) ↔ Setting.ofKey? k = some s := by
  rw [subject?]
  split
  · simp_all [ofKey?_flagsKey]
  · simp

theorem Respelled.subject?_eq {f g : Scalar × Value} (h : Respelled f g) :
    subject? g.1 = subject? f.1 := by
  cases h with
  | kept => rfl
  | renamed hk hl v =>
      rw [subject?_eq_setting_iff.mpr (ofKey?_of_hasKey hk),
        subject?_eq_setting_iff.mpr (ofKey?_of_hasKey hl)]

theorem Respelled.isShown_eq {f g : Scalar × Value} (h : Respelled f g) :
    g.1.isShown = f.1.isShown := by
  cases h <;> rfl

theorem Respelled.value_eq {f g : Scalar × Value} (h : Respelled f g) : g.2 = f.2 := by
  cases h <;> rfl

/-! ### Values -/

/-- The values that some fields have for a subject, in order. -/
def valuesOf (x : Subject) (fields : Fields) : List Value :=
  (fields.filter fun f => subject? f.1 == some x).map (·.2)

theorem given?_eq (s : Setting) (fields : Fields) :
    s.given? fields = (valuesOf (.setting s) fields).getLast? := by
  have hkeys : ∀ f : Scalar × Value,
      (Setting.ofKey? f.1 == some s) = (subject? f.1 == some (.setting s)) := by
    intro f
    rw [Bool.eq_iff_iff, beq_iff_eq, beq_iff_eq, subject?_eq_setting_iff]
  rw [Setting.given?, valuesOf, List.getLast?_map]
  simp only [hkeys]

theorem get?_flagsKey_eq (fields : Fields) :
    Value.get? flagsKey fields = (valuesOf .flags fields).head? := by
  induction fields with
  | nil => rfl
  | cons f rest ih =>
      obtain ⟨k, v⟩ := f
      by_cases hk : k = flagsKey
      · subst hk
        rfl
      · have hsame : k.sameKey flagsKey = false := Scalar.sameKey_text_of_ne hk
        have hsubject : subject? k ≠ some .flags := fun h => hk (subject?_eq_flags_iff.mp h)
        rw [Value.get?, hsame, if_neg Bool.false_ne_true, ih, valuesOf, valuesOf,
          List.filter_cons_of_neg (by simpa using hsubject)]

theorem NamesOnce.length_valuesOf_le {fields : Fields} (h : NamesOnce fields) (x : Subject) :
    (valuesOf x fields).length ≤ 1 := by
  have hcount := List.nodup_iff_count_le_one.mp h x
  rw [List.count_filterMap, List.countP_eq_length_filter] at hcount
  rwa [valuesOf, List.length_map]

theorem eq_of_perm_of_length_le_one {vs ws : List Value} (h : vs.Perm ws)
    (hlength : vs.length ≤ 1) : ws = vs := by
  cases vs with
  | nil => exact h.nil_eq.symm
  | cons v rest =>
      have hrest : rest = [] := by
        rw [List.length_cons] at hlength
        exact List.eq_nil_of_length_eq_zero (by omega)
      rw [hrest] at h ⊢
      exact List.perm_singleton.mp h.symm

theorem valuesOf_eq_of_respelled {fields others : Fields}
    (h : List.Forall₂ Respelled fields others) (x : Subject) :
    valuesOf x others = valuesOf x fields := by
  induction h with
  | nil => rfl
  | @cons f g fields others hfield _ ih =>
      rw [valuesOf, valuesOf] at ih ⊢
      rw [List.filter_cons, List.filter_cons, hfield.subject?_eq]
      split
      · rw [List.map_cons, List.map_cons, ih, hfield.value_eq]
      · exact ih

theorem Rewritten.valuesOf_eq {fields others : Fields} (h : Rewritten fields others)
    (honce : NamesOnce fields) (x : Subject) : valuesOf x others = valuesOf x fields := by
  obtain ⟨ordered, hperm, hrespelled⟩ := h
  have hvalues : (valuesOf x fields).Perm (valuesOf x ordered) := (hperm.filter _).map _
  rw [valuesOf_eq_of_respelled hrespelled,
    eq_of_perm_of_length_le_one hvalues (honce.length_valuesOf_le x)]

theorem any_eq_of_respelled {fields others : Fields} (h : List.Forall₂ Respelled fields others) :
    (others.any fun f => !f.1.isShown) = fields.any fun f => !f.1.isShown := by
  induction h with
  | nil => rfl
  | cons hfield _ ih => rw [List.any_cons, List.any_cons, hfield.isShown_eq, ih]

theorem Rewritten.any_eq {fields others : Fields} (h : Rewritten fields others) :
    (others.any fun f => !f.1.isShown) = fields.any fun f => !f.1.isShown := by
  obtain ⟨ordered, hperm, hrespelled⟩ := h
  rw [any_eq_of_respelled hrespelled, hperm.any_eq]

theorem valuesOf_withoutFlags (s : Setting) (fields : Fields) :
    valuesOf (.setting s) (withoutFlags fields) = valuesOf (.setting s) fields := by
  have hkey : ∀ k, subject? k = some (.setting s) → k ≠ flagsKey := by
    rintro k h rfl
    rw [subject?_eq_setting_iff, ofKey?_flagsKey] at h
    contradiction
  rw [valuesOf, valuesOf, withoutFlags, List.filter_filter]
  congr 1
  refine List.filter_congr fun f _ => ?_
  rw [Bool.eq_iff_iff, Bool.and_eq_true, beq_iff_eq, bne_iff_ne]
  exact and_iff_left_of_imp (hkey f.1)

theorem valuesOf_flags_withoutFlags (fields : Fields) :
    valuesOf .flags (withoutFlags fields) = [] := by
  rw [valuesOf, withoutFlags, List.filter_filter, List.map_eq_nil_iff, List.filter_eq_nil_iff]
  rintro f - h
  rw [Bool.and_eq_true, beq_iff_eq, subject?_eq_flags_iff] at h
  simp [h.1] at h

@[simp] theorem setting_withoutFlags (s : Setting) (fields : Fields) :
    s.ofFields (withoutFlags fields) = s.ofFields fields := by
  rw [Setting.ofFields, Setting.ofFields, given?_eq, given?_eq, valuesOf_withoutFlags]

@[simp] theorem splitOf_withoutFlags (fields : Fields) :
    splitOf (withoutFlags fields) = .ok ⟨[], []⟩ := by
  rw [splitOf, get?_flagsKey_eq, valuesOf_flags_withoutFlags]
  rfl

@[simp] theorem any_withoutFlags (fields : Fields) :
    ((withoutFlags fields).any fun f => !f.1.isShown) = fields.any fun f => !f.1.isShown := by
  rw [withoutFlags, List.any_filter]
  congr 1
  funext f
  by_cases hk : f.1 = flagsKey
  · rw [hk]
    rfl
  · rw [bne_iff_ne.mpr hk, Bool.true_and]

/-! ### Configurations -/

/-- Nothing else about some fields counts. -/
theorem ofFields_congr {fields others : Fields}
    (hshown : (others.any fun f => !f.1.isShown) = fields.any fun f => !f.1.isShown)
    (hvalues : ∀ x, valuesOf x others = valuesOf x fields) : ofFields others = ofFields fields := by
  have hgiven : ∀ s : Setting, s.ofFields others = s.ofFields fields := by
    intro s
    rw [Setting.ofFields, Setting.ofFields, given?_eq, given?_eq, hvalues]
  have hsplit : splitOf others = splitOf fields := by
    rw [splitOf, splitOf, get?_flagsKey_eq, get?_flagsKey_eq, hvalues]
  rw [ofFields, ofFields, hshown, hsplit]
  simp only [hgiven]

theorem ofFields_eq_ok_iff {fields : Fields} {c : Configuration} :
    ofFields fields = .ok c ↔
      ∃ plain split, ofFields (withoutFlags fields) = .ok plain ∧ splitOf fields = .ok split ∧
        c = plain.add split := by
  simp only [ofFields, any_withoutFlags, splitOf_withoutFlags, setting_withoutFlags]
  split
  · simp
  · simp only [pure_eq_ok, ok_bind, bind_eq_ok_iff]
    constructor
    · rintro ⟨includePaths, hincludePaths, compilerArgs, hcompilerArgs, split, hsplit, symMap,
        hsymMap, hc⟩
      refine ⟨_, split, ⟨includePaths, hincludePaths, compilerArgs, hcompilerArgs, symMap, hsymMap,
        rfl⟩, hsplit, ?_⟩
      rw [← Except.ok.inj hc, add, List.append_nil, List.append_nil]
    · rintro ⟨plain, split, ⟨includePaths, hincludePaths, compilerArgs, hcompilerArgs, symMap,
        hsymMap, hplain⟩, hsplit, rfl⟩
      refine ⟨includePaths, hincludePaths, compilerArgs, hcompilerArgs, split, hsplit, symMap,
        hsymMap, ?_⟩
      rw [← Except.ok.inj hplain, add, List.append_nil, List.append_nil]

theorem isOk_ofFields_withoutFlags_iff {fields : Fields} :
    (ofFields (withoutFlags fields)).isOk ↔ Readable fields := by
  have hkeys : (fields.any fun f => !f.1.isShown) = false ↔ ∀ f ∈ fields, f.1.isShown := by simp
  simp only [ofFields, any_withoutFlags, splitOf_withoutFlags, setting_withoutFlags]
  cases hany : fields.any fun f => !f.1.isShown with
  | true =>
      constructor
      · intro h
        contradiction
      · intro h
        rw [hkeys.mpr h.keys] at hany
        contradiction
  | false =>
      simp only [if_neg Bool.false_ne_true, pure_eq_ok, ok_bind]
      rw [isOk_bind_and fun _ _ => isOk_bind_and
        (P := (Setting.symMap.ofFields fields).toFieldsOrNone.isOk) fun _ _ => by simp]
      constructor
      · rintro ⟨hincludePaths, hcompilerArgs, hsymMap⟩
        exact ⟨hkeys.mp hany, hincludePaths, hcompilerArgs, hsymMap⟩
      · rintro ⟨-, hincludePaths, hcompilerArgs, hsymMap⟩
        exact ⟨hincludePaths, hcompilerArgs, hsymMap⟩

theorem splitOf_eq_ok_iff {fields : Fields} {v : Value} (h : Value.get? flagsKey fields = some v)
    {split : FlagSplit} :
    splitOf fields = .ok split ↔ ∃ tokens items,
      flagsOf v = .ok tokens ∧ FlagItem.Reads tokens items ∧ split = FlagSplit.ofItems items := by
  simp only [splitOf, h, bind_eq_ok_iff, FlagSplit.ofFlags_eq_ok_iff, exists_and_left]

theorem members_of_ofFields_eq_ok {fields : Fields} {c : Configuration}
    (h : ofFields fields = .ok c) :
    ∃ includePaths compilerArgs split,
      membersOrNone (Setting.includePaths.ofFields fields) = .ok includePaths ∧
      membersOrNone (Setting.compilerArgs.ofFields fields) = .ok compilerArgs ∧
      splitOf fields = .ok split ∧ c.includePaths = includePaths ++ split.includes ∧
      c.compilerArgs = compilerArgs ++ split.others := by
  rw [ofFields] at h
  split at h
  · contradiction
  · simp only [pure_eq_ok, bind_eq_ok_iff] at h
    obtain ⟨includePaths, hincludePaths, compilerArgs, hcompilerArgs, split, hsplit, symMap, -,
      hc⟩ := h
    rw [← Except.ok.inj hc]
    exact ⟨includePaths, compilerArgs, split, hincludePaths, hcompilerArgs, hsplit, rfl, rfl⟩

/-- What the fields without flags give for paths and arguments is what all fields have for them. -/
theorem members_of_ofFields_withoutFlags {fields : Fields} {plain : Configuration}
    (h : ofFields (withoutFlags fields) = .ok plain) :
    membersOrNone (Setting.includePaths.ofFields fields) = .ok plain.includePaths ∧
      membersOrNone (Setting.compilerArgs.ofFields fields) = .ok plain.compilerArgs := by
  obtain ⟨includePaths, compilerArgs, split, hincludePaths, hcompilerArgs, hsplit, hpaths, hargs⟩ :=
    members_of_ofFields_eq_ok h
  rw [splitOf_withoutFlags] at hsplit
  cases hsplit
  rw [setting_withoutFlags] at hincludePaths hcompilerArgs
  rw [hpaths, hargs, List.append_nil, List.append_nil]
  exact ⟨hincludePaths, hcompilerArgs⟩

/-- Fields of which no two are about the same give the same configuration in any order and with any
keys of their settings. Flags give one if the other fields do and the tokens can be read as items,
which is so for all texts; then the include paths and the arguments of the items stand behind those
of the other fields, and every token is used once. -/
theorem ofFields_rewritten (fields : Fields) :
    (NamesOnce fields → ∀ others, Rewritten fields others → ofFields others = ofFields fields) ∧
    (∀ v, Value.get? flagsKey fields = some v → ∀ c, ofFields fields = .ok c ↔
      ∃ plain tokens items, ofFields (withoutFlags fields) = .ok plain ∧ flagsOf v = .ok tokens ∧
        FlagItem.Reads tokens items ∧ c = plain.add (FlagSplit.ofItems items)) ∧
    ((ofFields (withoutFlags fields)).isOk ↔ Readable fields) ∧
    (∀ plain, ofFields (withoutFlags fields) = .ok plain →
      membersOrNone (Setting.includePaths.ofFields fields) = .ok plain.includePaths ∧
        membersOrNone (Setting.compilerArgs.ofFields fields) = .ok plain.compilerArgs) ∧
    (∀ tokens items, FlagItem.Reads tokens items → tokens = items.flatMap FlagItem.tokens) ∧
    ∀ words : List Text, ∃! items, FlagItem.Reads (words.map Value.text) items := by
  refine ⟨fun honce others h => ofFields_congr h.any_eq (h.valuesOf_eq honce), fun v hv c => ?_,
    isOk_ofFields_withoutFlags_iff, fun plain => members_of_ofFields_withoutFlags,
    fun tokens items h => h.tokens_eq, FlagSplit.existsUnique_reads⟩
  rw [ofFields_eq_ok_iff]
  constructor
  · rintro ⟨plain, split, hplain, hsplit, rfl⟩
    obtain ⟨tokens, items, htokens, hreads, rfl⟩ := (splitOf_eq_ok_iff hv).mp hsplit
    exact ⟨plain, tokens, items, hplain, htokens, hreads, rfl⟩
  · rintro ⟨plain, tokens, items, hplain, htokens, hreads, rfl⟩
    exact ⟨plain, _, hplain, (splitOf_eq_ok_iff hv).mpr ⟨tokens, items, htokens, hreads, rfl⟩, rfl⟩

theorem ofFields_rewritten_flags :
    let fields : Fields :=
      [(.text "cflags", .text "-I a -O2 -Ib -I"), (.text "include", .text "x.h y.h"),
        (.text "include_paths", .list [.text "inc"]), (.text "deps", .list [])]
    let others : Fields :=
      [(.text "deps", .list []), (.text "include_paths", .list [.text "inc"]),
        (.text "headers", .text "x.h y.h"), (.text "cflags", .text "-I a -O2 -Ib -I")]
    NamesOnce fields ∧ Rewritten fields others ∧
    ∃ c, ofFields fields = .ok c ∧ ofFields others = .ok c ∧
      c.headers = .list [.text "x.h", .text "y.h"] ∧
      c.includePaths = [.text "inc", .text "a", .text "b", .text ""] ∧
      c.compilerArgs = [.text "-O2"] := by
  intro fields others
  have honce : NamesOnce fields := by
    unfold NamesOnce
    decide +kernel
  have hrewritten : Rewritten fields others :=
    ⟨fields.reverse, (List.reverse_perm _).symm, .cons (.kept _) <| .cons (.kept _) <|
      .cons (.renamed (s := .headers) (by decide +kernel) (by decide +kernel) _) <|
      .cons (.kept _) .nil⟩
  obtain ⟨hsame, hflags, -⟩ := ofFields_rewritten fields
  have hplain : ofFields (withoutFlags fields) = .ok _ := rfl
  have hreads : FlagItem.Reads [.text "-I", .text "a", .text "-O2", .text "-Ib", .text "-I"]
      [.apart (.text "a"), .argument "-O2", .attached "b", .attached ""] :=
    .cons (i := .apart (.text "a")) trivial <| .cons (i := .argument "-O2") rfl <|
      .cons (i := .attached "b") (fun h => absurd h (by decide)) <|
        .cons (i := .attached "") (fun _ => rfl) .nil
  have hc := (hflags _ rfl _).mpr ⟨_, _, _, hplain, rfl, hreads, rfl⟩
  exact ⟨honce, hrewritten, _, hc, (hsame honce others hrewritten).trans hc, rfl, rfl, rfl⟩

end Configuration

end BindingNames
