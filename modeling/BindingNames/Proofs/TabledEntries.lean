import BindingNames.Proofs.SeparatedLines
import BindingNames.Proofs.TableRows
import BindingNames.Proofs.TextPieces
import BindingNames.Rules.Source
import Mathlib.Data.List.Perm.Basic

/-!
Rule entries in a table. Each entry is a row with one cell for each of its fields, empty where a
field is absent. Cells lose blanks around them and, when they hold one of the words for a missing
value, all they hold. So the rules of the table are those of the entries exactly if no text that a
rule is made from is such a word.
-/

namespace BindingNames

namespace Frame

/-! ### Cells -/

def fieldNames : List Text :=
  ["match", "prefix", "directive", "target", "name", "force_function_output"]

theorem defaultColumns_eq : defaultColumns = fieldNames.map fun s => (.text s, .text s) := rfl

/-- The cell of an entry for a field: its text, or nothing if it is absent. -/
def cellOf (fields : Fields) (name : Text) : Text :=
  ((Value.get? (.text name) fields).bind Value.asText?).getD ""

/-- The values of the fields that a table has columns for are texts, not empty and without blanks
around them. -/
def HasPlainCells (fields : Fields) : Prop :=
  ∀ name ∈ fieldNames, ∀ v, Value.get? (.text name) fields = some v →
    ∃ s, v = .text s ∧ s ≠ [] ∧ Text.trim s = s

/-- What is left of an entry in a table. -/
def tabled (fields : Fields) : Fields :=
  fieldNames.filterMap fun name =>
    (present? (cellOf fields name)).map fun s => (.text name, .text s)

variable {names : List Text} {fields : Fields} {name : Text}

/-- A look at all values shows whether those that have columns are such texts. -/
theorem hasPlainCells_of_all
    (h : fields.all fun f => f.2.asText?.any fun s => s ≠ [] ∧ Text.trim s = s) :
    HasPlainCells fields := by
  intro name _ v hv
  induction fields with
  | nil => contradiction
  | cons f fields ih =>
      rw [List.all_cons, Bool.and_eq_true] at h
      rw [Value.get?] at hv
      split at hv
      · obtain ⟨s, hs, hplain⟩ := (Option.any_eq_true _ _).mp h.1
        rw [Option.some.inj hv] at hs
        exact ⟨s, Value.asText?_eq_some_iff.mp hs, of_decide_eq_true hplain⟩
      · exact ih h.2 hv

theorem cellOf_of_get? {s : Text} (h : Value.get? (.text name) fields = some (.text s)) :
    cellOf fields name = s := by
  rw [cellOf, h]
  rfl

theorem cellOf_of_get?_none (h : Value.get? (.text name) fields = none) :
    cellOf fields name = [] := by
  rw [cellOf, h]
  rfl

/-- A plain cell holds its text or nothing. -/
theorem trim_cellOf (h : HasPlainCells fields) (hname : name ∈ fieldNames) :
    Text.trim (cellOf fields name) = cellOf fields name := by
  cases hget : Value.get? (.text name) fields with
  | none => rw [cellOf_of_get?_none hget, Text.trim_nil]
  | some v =>
      obtain ⟨s, rfl, -, htrim⟩ := h name hname v hget
      rw [cellOf_of_get? hget, htrim]

/-- The row of an entry gives what is left of it. -/
theorem entryFields_eq_tabled (hnames : ∀ name ∈ fieldNames, name ∈ names)
    (h : HasPlainCells fields) :
    entryFields (names.map .text) (names.map fun name => present? (cellOf fields name))
      defaultColumns = .ok (tabled fields) := by
  rw [defaultColumns_eq, entryFields_map hnames, tabled]
  refine congrArg Except.ok (List.filterMap_congr fun name hname => ?_)
  cases hpresent : present? (cellOf fields name) with
  | none => rfl
  | some s =>
      obtain ⟨rfl, hs⟩ := present?_eq_some_iff.mp hpresent
      have hne : cellOf fields name ≠ [] := by
        intro hnil
        rw [hnil] at hs
        exact hs (by decide)
      simp [trim_cellOf h hname, hne]

theorem get?_filterMap (g : Text → Option Text) (wanted : List Text) (name : Text) :
    Value.get? (.text name) (wanted.filterMap fun s => (g s).map fun t => (.text s, Value.text t)) =
      if name ∈ wanted then (g name).map Value.text else none := by
  induction wanted with
  | nil => rfl
  | cons s wanted ih =>
      rw [List.filterMap_cons]
      by_cases hs : s = name
      · subst hs
        rw [if_pos List.mem_cons_self]
        cases hg : g s with
        | none =>
            rw [hg] at ih
            simpa using ih
        | some t => simp [Value.get?, Scalar.sameKey_refl]
      · have hmem : name ∈ s :: wanted ↔ name ∈ wanted := by simp [Ne.symm hs]
        have hkey : (Scalar.text s).sameKey (.text name) = false :=
          Scalar.sameKey_text_of_ne fun h => hs (Scalar.text.inj h)
        simp only [hmem, ← ih]
        cases g s with
        | none => rfl
        | some t => simp [Value.get?, hkey]

theorem get?_tabled (hname : name ∈ fieldNames) :
    Value.get? (.text name) (tabled fields) = (present? (cellOf fields name)).map Value.text := by
  rw [tabled, get?_filterMap, if_pos hname]

/-! ### Drafts -/

/-- Names of the fields, besides the truth values, that a directive makes a rule from. -/
def usedNames : Directive → List Text
  | .stripOwner => ["match", "target"]
  | .keepFunction => ["match"]
  | .keepMethod => ["match", "target"]
  | .rename => ["match", "name"]

/-- No text that the rule of an entry is made from stands for a missing value. -/
def Survives (fields : Fields) : Prop :=
  ∀ r, RuleEntry.read (.map fields) = .ok r → ∀ name ∈ usedNames r.directive, ∀ s : Text,
    Value.get? (.text name) fields = some (.text s) → s ∉ missingWords

/-- What the fields of an entry are read as. -/
structure Reads (fields : Fields) (pattern : Text) (leading : Bool) (directive : Directive)
    (target name : Option Text) (force : Bool) : Prop where
  pattern : RuleEntry.required fields "match" RuleEntry.readText = .ok pattern
  leading : RuleEntry.optional fields "prefix" false RuleEntry.readTruth = .ok leading
  directive : RuleEntry.required fields "directive" RuleEntry.readDirective = .ok directive
  target : RuleEntry.optional fields "target" none RuleEntry.readOptionalText = .ok target
  name : RuleEntry.optional fields "name" none RuleEntry.readOptionalText = .ok name
  force : RuleEntry.optional fields "force_function_output" false RuleEntry.readTruth = .ok force

theorem read_eq_ok_iff {r : RuleDraft} : RuleEntry.read (.map fields) = .ok r ↔
    ∃ pattern leading directive target name force,
      Reads fields pattern leading directive target name force ∧
        r = RuleEntry.draft pattern leading directive target name force := by
  rw [RuleEntry.read, Value.bare_map]
  simp only
  split
  · rename_i pattern leading directive target name force hpattern hleading hdirective htarget hname
      hforce
    constructor
    · intro h
      exact ⟨_, _, _, _, _, _, ⟨hpattern, hleading, hdirective, htarget, hname, hforce⟩,
        (Except.ok.inj h).symm⟩
    · rintro ⟨_, _, _, _, _, _, ⟨hp, hl, hd, ht, hn, hf⟩, rfl⟩
      cases hp.symm.trans hpattern
      cases hl.symm.trans hleading
      cases hd.symm.trans hdirective
      cases ht.symm.trans htarget
      cases hn.symm.trans hname
      cases hf.symm.trans hforce
      rfl
  · rename_i hnone
    constructor
    · intro h
      cases h
    · rintro ⟨_, _, _, _, _, _, ⟨hp, hl, hd, ht, hn, hf⟩, rfl⟩
      exact absurd hf (hnone _ _ _ _ _ _ hp hl hd ht hn)

/-! ### What is left of an entry -/

theorem get?_tabled_of_none (hname : name ∈ fieldNames)
    (h : Value.get? (.text name) fields = none) :
    Value.get? (.text name) (tabled fields) = none := by
  rw [get?_tabled hname, cellOf_of_get?_none h]
  rfl

theorem get?_tabled_of_text {s : Text} (hname : name ∈ fieldNames)
    (h : Value.get? (.text name) fields = some (.text s)) :
    Value.get? (.text name) (tabled fields) = (present? s).map Value.text := by
  rw [get?_tabled hname, cellOf_of_get? h]

/-- A field with a value that only other words are read as is left as it is. -/
theorem get?_tabled_of_read {α : Type} {read : Value → Except Unfit α}
    (hplain : HasPlainCells fields) (hname : name ∈ fieldNames)
    (hread : ∀ s ∈ missingWords, (read (.text s)).isOk = false)
    (h : ∀ v, Value.get? (.text name) fields = some v → (read v).isOk) :
    Value.get? (.text name) (tabled fields) = Value.get? (.text name) fields := by
  cases hget : Value.get? (.text name) fields with
  | none => exact get?_tabled_of_none hname hget
  | some v =>
      obtain ⟨s, rfl, -⟩ := hplain name hname v hget
      have hs : s ∉ missingWords := fun hs => by simpa [hread s hs] using h _ hget
      rw [get?_tabled_of_text hname hget, present?_eq_some_iff.mpr ⟨rfl, hs⟩]
      rfl

theorem optional_tabled {α : Type} {read : Value → Except Unfit α} {absent a : α}
    (hplain : HasPlainCells fields) (hname : name ∈ fieldNames)
    (hread : ∀ s ∈ missingWords, (read (.text s)).isOk = false)
    (h : RuleEntry.optional fields name absent read = .ok a) :
    RuleEntry.optional (tabled fields) name absent read = .ok a := by
  have hget : Value.get? (.text name) (tabled fields) = Value.get? (.text name) fields := by
    refine get?_tabled_of_read hplain hname hread fun v hv => ?_
    rw [RuleEntry.optional, hv] at h
    exact isOk_iff.mpr ⟨a, h⟩
  rw [RuleEntry.optional, hget]
  exact h

theorem required_tabled {α : Type} {read : Value → Except Unfit α} {a : α}
    (hplain : HasPlainCells fields) (hname : name ∈ fieldNames)
    (hread : ∀ s ∈ missingWords, (read (.text s)).isOk = false)
    (h : RuleEntry.required fields name read = .ok a) :
    RuleEntry.required (tabled fields) name read = .ok a := by
  have hget : Value.get? (.text name) (tabled fields) = Value.get? (.text name) fields := by
    refine get?_tabled_of_read hplain hname hread fun v hv => ?_
    rw [RuleEntry.required, hv] at h
    exact isOk_iff.mpr ⟨a, h⟩
  rw [RuleEntry.required, hget]
  exact h

/-- A text that may be absent is so if it stands for a missing value. -/
theorem optionalText_tabled {t : Option Text} (hplain : HasPlainCells fields)
    (hname : name ∈ fieldNames)
    (h : RuleEntry.optional fields name none RuleEntry.readOptionalText = .ok t) :
    RuleEntry.optional (tabled fields) name none RuleEntry.readOptionalText =
      .ok (t.bind present?) := by
  rw [RuleEntry.optional] at h ⊢
  cases hget : Value.get? (.text name) fields with
  | none =>
      rw [hget] at h
      rw [get?_tabled_of_none hname hget, ← Except.ok.inj h]
      rfl
  | some v =>
      obtain ⟨s, rfl, -⟩ := hplain name hname v hget
      rw [hget] at h
      obtain rfl : some s = t := Except.ok.inj h
      rw [get?_tabled_of_text hname hget]
      show _ = Except.ok (present? s)
      cases present? s <;> rfl

variable {pattern : Text} {leading force : Bool} {directive : Directive}
  {target newName : Option Text}

theorem Reads.get?_pattern (h : Reads fields pattern leading directive target newName force)
    (hplain : HasPlainCells fields) :
    pattern ≠ [] ∧ Value.get? (.text "match") fields = some (.text pattern) := by
  have hpattern := h.pattern
  rw [RuleEntry.required] at hpattern
  cases hget : Value.get? (.text "match") fields with
  | none =>
      rw [hget] at hpattern
      contradiction
  | some v =>
      obtain ⟨s, rfl, hs, -⟩ := hplain "match" (by decide) v hget
      rw [hget] at hpattern
      obtain rfl : s = pattern := Except.ok.inj hpattern
      exact ⟨hs, rfl⟩

/-- A row has a pattern unless the pattern stands for a missing value. -/
theorem hasPattern_tabled_iff (h : Reads fields pattern leading directive target newName force)
    (hplain : HasPlainCells fields) : hasPattern (tabled fields) ↔ pattern ∉ missingWords := by
  obtain ⟨hne, hget⟩ := h.get?_pattern hplain
  rw [hasPattern, get?_tabled_of_text (by decide) hget]
  cases hpresent : present? pattern with
  | none =>
      have hmissing : pattern ∈ missingWords := by
        by_contra hmissing
        rw [present?_eq_some_iff.mpr ⟨rfl, hmissing⟩] at hpresent
        contradiction
      simp [hmissing]
  | some s =>
      obtain ⟨rfl, hmissing⟩ := present?_eq_some_iff.mp hpresent
      simp [hmissing, Value.holds, Value.text, Scalar.holds, hne]

/-- What is left of an entry with a pattern is read, with the texts that are left. -/
theorem Reads.tabled (h : Reads fields pattern leading directive target newName force)
    (hplain : HasPlainCells fields) (hpattern : pattern ∉ missingWords) :
    Reads (tabled fields) pattern leading directive (target.bind present?) (newName.bind present?)
      force where
  pattern := by
    rw [RuleEntry.required, get?_tabled_of_text (by decide) (h.get?_pattern hplain).2,
      present?_eq_some_iff.mpr ⟨rfl, hpattern⟩]
    rfl
  leading := optional_tabled hplain (by decide) (by decide) h.leading
  directive := required_tabled hplain (by decide) (by decide) h.directive
  target := optionalText_tabled hplain (by decide) h.target
  name := optionalText_tabled hplain (by decide) h.name
  force := optional_tabled hplain (by decide) (by decide) h.force

theorem bind_present?_eq_self_iff {t : Option Text} :
    t.bind present? = t ↔ ∀ s, t = some s → s ∉ missingWords := by
  cases t with
  | none => simp
  | some s => simp [present?_eq_some_iff]

theorem get?_eq_text_iff_of_optional {t : Option Text} (hplain : HasPlainCells fields)
    (hname : name ∈ fieldNames)
    (h : RuleEntry.optional fields name none RuleEntry.readOptionalText = .ok t) (s : Text) :
    Value.get? (.text name) fields = some (.text s) ↔ t = some s := by
  rw [RuleEntry.optional] at h
  cases hget : Value.get? (.text name) fields with
  | none =>
      rw [hget] at h
      rw [← Except.ok.inj h]
      simp
  | some v =>
      obtain ⟨s', rfl, -⟩ := hplain name hname v hget
      rw [hget] at h
      rw [← Except.ok.inj h]
      simp [Value.text]

/-- A text that may be absent is left as it is unless it stands for a missing value. -/
theorem forall_not_missing_iff_of_optional {t : Option Text} (hplain : HasPlainCells fields)
    (hname : name ∈ fieldNames)
    (h : RuleEntry.optional fields name none RuleEntry.readOptionalText = .ok t) :
    (∀ s : Text, Value.get? (.text name) fields = some (.text s) → s ∉ missingWords) ↔
      t.bind present? = t := by
  simp only [get?_eq_text_iff_of_optional hplain hname h, bind_present?_eq_self_iff]

theorem directive_draft :
    (RuleEntry.draft pattern leading directive target newName force).directive = directive := by
  cases directive <;> rfl

theorem Reads.survives_iff_forall
    (h : Reads fields pattern leading directive target newName force) :
    Survives fields ↔ ∀ name ∈ usedNames directive, ∀ s : Text,
      Value.get? (.text name) fields = some (.text s) → s ∉ missingWords := by
  have hread : RuleEntry.read (.map fields) =
      .ok (RuleEntry.draft pattern leading directive target newName force) :=
    read_eq_ok_iff.mpr ⟨_, _, _, _, _, _, h, rfl⟩
  rw [Survives, hread]
  simp [directive_draft]

/-- The rule of an entry outlives a table exactly if its row does and gives the same rule. -/
theorem survives_iff (h : Reads fields pattern leading directive target newName force)
    (hplain : HasPlainCells fields) :
    Survives fields ↔ pattern ∉ missingWords ∧
      RuleEntry.draft pattern leading directive (target.bind present?) (newName.bind present?)
          force =
        RuleEntry.draft pattern leading directive target newName force := by
  have hpattern : (∀ s : Text, Value.get? (.text "match") fields = some (.text s) →
      s ∉ missingWords) ↔ pattern ∉ missingWords := by
    rw [(h.get?_pattern hplain).2]
    simp [Value.text]
  have htarget := forall_not_missing_iff_of_optional hplain (by decide) h.target
  have hname := forall_not_missing_iff_of_optional hplain (by decide) h.name
  rw [h.survives_iff_forall]
  cases directive with
  | stripOwner =>
      simp only [usedNames, List.forall_mem_cons, hpattern, htarget]
      simp [RuleEntry.draft, RuleDraft.stripOwner]
  | keepFunction =>
      simp only [usedNames, List.forall_mem_cons, hpattern]
      simp [RuleEntry.draft]
  | keepMethod =>
      simp only [usedNames, List.forall_mem_cons, hpattern, htarget]
      simp [RuleEntry.draft, RuleDraft.keepMethod]
  | rename =>
      simp only [usedNames, List.forall_mem_cons, hpattern, hname]
      simp [RuleEntry.draft, RuleDraft.rename]

/-! ### Lists of entries -/

/-- The rule of an entry that can be read. -/
def draftOf (fields : Fields) : RuleDraft :=
  ((RuleEntry.read (.map fields)).toOption).getD default

/-- The rule of an entry in a table, unless its row gives none. -/
def tabledDraft? (fields : Fields) : Option RuleDraft :=
  if hasPattern (tabled fields) then some (draftOf (tabled fields)) else none

theorem draftOf_eq {r : RuleDraft} (h : RuleEntry.read (.map fields) = .ok r) :
    draftOf fields = r := by
  rw [draftOf, h]
  rfl

theorem readAll_eq {entries : List Fields} {number : Nat}
    (h : ∀ fields ∈ entries, ∃ r, RuleEntry.read (.map fields) = .ok r) :
    RuleEntry.readAll number (entries.map Value.map) = .ok (entries.map draftOf) := by
  induction entries generalizing number with
  | nil => rfl
  | cons fields entries ih =>
      obtain ⟨⟨r, hr⟩, hentries⟩ := List.forall_mem_cons.mp h
      rw [List.map_cons, RuleEntry.readAll, hr, ih hentries, List.map_cons, draftOf_eq hr]
      rfl

theorem ofEntries_eq {entries : List Fields}
    (h : ∀ fields ∈ entries, ∃ r, RuleEntry.read (.map fields) = .ok r) :
    RuleSet.ofEntries (.list (entries.map Value.map)) = .ok ⟨entries.map draftOf, []⟩ := by
  have hmembers :
      (Value.list (entries.map Value.map)).members? = some (entries.map Value.map) := rfl
  simp only [RuleSet.ofEntries, hmembers, readAll_eq h, ok_bind, pure_eq_ok]

/-- A row with a pattern gives a rule if its entry does. -/
theorem exists_read_tabled {r : RuleDraft} (h : RuleEntry.read (.map fields) = .ok r)
    (hplain : HasPlainCells fields) (hpattern : hasPattern (tabled fields)) :
    ∃ r', RuleEntry.read (.map (tabled fields)) = .ok r' := by
  obtain ⟨pattern, leading, directive, target, newName, force, hreads, -⟩ := read_eq_ok_iff.mp h
  exact ⟨_, read_eq_ok_iff.mpr ⟨_, _, _, _, _, _,
    hreads.tabled hplain ((hasPattern_tabled_iff hreads hplain).mp hpattern), rfl⟩⟩

theorem tabledDraft?_eq_iff {r : RuleDraft} (h : RuleEntry.read (.map fields) = .ok r)
    (hplain : HasPlainCells fields) :
    tabledDraft? fields = some (draftOf fields) ↔ Survives fields := by
  obtain ⟨pattern, leading, directive, target, newName, force, hreads, rfl⟩ := read_eq_ok_iff.mp h
  rw [survives_iff hreads hplain, ← hasPattern_tabled_iff hreads hplain, draftOf_eq h, tabledDraft?]
  split
  · rename_i hpattern
    have htabled := hreads.tabled hplain ((hasPattern_tabled_iff hreads hplain).mp hpattern)
    rw [draftOf_eq (read_eq_ok_iff.mpr ⟨_, _, _, _, _, _, htabled, rfl⟩)]
    simp [hpattern]
  · rename_i hpattern
    simp [hpattern]

theorem map_draftOf_filter (entries : List Fields) :
    ((entries.map tabled).filter hasPattern).map draftOf = entries.filterMap tabledDraft? := by
  induction entries with
  | nil => rfl
  | cons fields entries ih =>
      rw [List.map_cons, List.filter_cons, List.filterMap_cons, tabledDraft?, ← ih]
      split <;> rfl

/-- Leaving out members of a list gives all of their images only if none is left out. -/
theorem filterMap_eq_map_iff {α β : Type} {f : α → Option β} {g : α → β} {xs : List α} :
    xs.filterMap f = xs.map g ↔ ∀ x ∈ xs, f x = some (g x) := by
  induction xs with
  | nil => simp
  | cons x xs ih =>
      rw [List.forall_mem_cons, List.map_cons]
      cases hx : f x with
      | none =>
          rw [List.filterMap_cons_none hx]
          constructor
          · intro h
            have hlength := List.length_filterMap_le f xs
            rw [h, List.length_cons, List.length_map] at hlength
            exact absurd hlength (Nat.not_succ_le_self _)
          · rintro ⟨h, -⟩
            contradiction
      | some y =>
          rw [List.filterMap_cons_some hx, List.cons_eq_cons, ih, Option.some.injEq]

/-! ### Written tables -/

/-- A text without blanks around it does not begin with one. -/
theorem isPlainBlank_of_trim_eq {s : Text} (h : Text.trim s = s) {c : Code}
    (hhead : s.head? = some c) : Separated.isPlainBlank c = false := by
  cases s with
  | nil => contradiction
  | cons c' cs =>
      obtain rfl : c' = c := Option.some.inj hhead
      rw [Bool.eq_false_iff]
      intro hplain
      have hblank : Text.isBlank c' := by
        rcases Bool.or_eq_true_iff.mp hplain with h | h <;> rw [eq_of_beq h] <;> decide
      have hlength := Text.length_trim_le cs
      rw [← Text.trim_cons_of_isBlank hblank, h] at hlength
      exact absurd hlength (Nat.not_succ_le_self _)

variable {entries : List Fields} {text : Text} {d : Disk} {p : Path} {columns : Value}

/-- The lines of a table: the names of its columns and a row for each entry. -/
def tableLines (names : List Text) (entries : List Fields) : List (List Text) :=
  names :: entries.map fun fields => names.map (cellOf fields)

/-- The table as it is read, before words for missing values are left out of the entries. -/
def tableFrame (names : List Text) (entries : List Fields) : Frame :=
  ⟨names.map .text, entries.map fun fields => names.map fun name => present? (cellOf fields name)⟩

theorem length_of_mem_tableLines {line : List Text} (h : line ∈ tableLines names entries) :
    line.length = names.length := by
  rcases List.mem_cons.mp h with rfl | h
  · rfl
  · obtain ⟨fields, -, rfl⟩ := List.mem_map.mp h
    exact List.length_map _

theorem head_of_mem_fieldNames : ∀ name ∈ fieldNames, ∀ c, name.head? = some c →
    Separated.isPlainBlank c = false ∧ c.toNat ≠ 0xFEFF := by
  intro name hname c hc
  have hall : ∀ name ∈ fieldNames,
      name.head?.all fun c => !Separated.isPlainBlank c && c.toNat != 0xFEFF := by decide
  simpa [hc] using hall name hname

theorem isSolid_of_mem_tableLines (hnames : names.Perm fieldNames)
    (hplain : ∀ fields ∈ entries, HasPlainCells fields) {line : List Text}
    (h : line ∈ tableLines names entries) : Separated.IsSolid line := by
  have hlength : names.length = 6 := hnames.length_eq
  refine ⟨by rw [length_of_mem_tableLines h, hlength]; decide, fun c hc => ?_⟩
  cases hcases : names with
  | nil => simp [hcases] at hlength
  | cons name rest =>
      have hname : name ∈ fieldNames := hnames.subset (hcases ▸ List.mem_cons_self)
      rw [tableLines, hcases] at h
      rcases List.mem_cons.mp h with rfl | h
      · exact (head_of_mem_fieldNames name hname c hc).1
      · obtain ⟨fields, hfields, rfl⟩ := List.mem_map.mp h
        exact isPlainBlank_of_trim_eq (trim_cellOf (hplain fields hfields) hname) hc

theorem dropMark_of_writes (hnames : names.Perm fieldNames)
    (htext : Separated.Writes (tableLines names entries) text) :
    Separated.dropMark text = text := by
  cases htext with
  | cons h hend hrest =>
      have hwidth : 2 ≤ names.length := by rw [hnames.length_eq]; decide
      obtain ⟨c, cs, rfl, hc⟩ := Separated.exists_cons_of_writesLine h hwidth
      have hmark : c.toNat ≠ 0xFEFF := by
        rcases hc with rfl | rfl | ⟨-, hhead⟩
        · decide
        · decide
        · cases names with
          | nil => contradiction
          | cons name names =>
              exact (head_of_mem_fieldNames name (hnames.subset List.mem_cons_self) c hhead).2
      rw [List.cons_append, Separated.dropMark, if_neg (by simpa using hmark)]

theorem read_tableLines (hnames : names.Perm fieldNames)
    (hplain : ∀ fields ∈ entries, HasPlainCells fields)
    (htext : Separated.Writes (tableLines names entries) text) :
    Separated.read text = .ok (tableLines names entries) :=
  Separated.read_of_writes htext (fun _ => length_of_mem_tableLines)
    (fun _ => isSolid_of_mem_tableLines hnames hplain) (dropMark_of_writes hnames htext)

theorem ofLines_tableLines (hnames : names.Perm fieldNames) :
    ofLines (tableLines names entries) = .ok (tableFrame names entries) := by
  have hlabels : columnNames (names.map .text) = names.map .text := by
    refine columnNames_eq (hnames.nodup_iff.mpr (by decide)) fun s hs => ?_
    exact (by decide : ∀ s ∈ fieldNames, s ≠ []) s (hnames.subset hs)
  have hwidth : ∀ row ∈ entries.map fun fields => names.map (cellOf fields),
      row.length = names.length :=
    fun row hrow => length_of_mem_tableLines (List.mem_cons_of_mem _ hrow)
  rw [tableLines, ofLines_eq hwidth, hlabels, List.map_map]
  simp [tableFrame, Function.comp_def]

theorem entries_tableFrame (hnames : names.Perm fieldNames)
    (hplain : ∀ fields ∈ entries, HasPlainCells fields) :
    (tableFrame names entries).entries defaultColumns =
      .ok (((entries.map tabled).filter hasPattern).map .map) := by
  have hrows : (entries.map fun fields => names.map fun name => present? (cellOf fields name)).mapM
      (fun row => entryFields (names.map .text) row defaultColumns) = .ok (entries.map tabled) := by
    induction entries with
    | nil => rfl
    | cons fields entries ih =>
        obtain ⟨hfields, hentries⟩ := List.forall_mem_cons.mp hplain
        rw [List.map_cons, List.mapM_cons,
          entryFields_eq_tabled (fun _ h => hnames.symm.subset h) hfields, ih hentries]
        rfl
  rw [Frame.entries, tableFrame, hrows]
  rfl

/-- A table gives the rules of what is left of its entries. -/
theorem loadTable_tableLines (hnames : names.Perm fieldNames) (hcolumns : columns.holds = false)
    (hplain : ∀ fields ∈ entries, HasPlainCells fields)
    (htext : Separated.Writes (tableLines names entries) text) (hread : d.readRaw p = .ok text) :
    (RuleSource.loadTable d p columns).result =
      RuleSet.ofEntries (.list (((entries.map tabled).filter hasPattern).map .map)) := by
  have htable : RuleSource.readTable d p = .ok (tableFrame names entries) := by
    simp only [RuleSource.readTable, hread, mapError_ok, ok_bind,
      read_tableLines hnames hplain htext, ofLines_tableLines hnames]
  have hframe : RuleSource.ofFrame (tableFrame names entries) columns =
      RuleSet.ofEntries (.list (((entries.map tabled).filter hasPattern).map .map)) := by
    have hnone : columns.toFieldsOrNone = .ok [] := by simp [Value.toFieldsOrNone, hcolumns]
    rw [RuleSource.ofFrame, hnone]
    show (tableFrame names entries).entries defaultColumns >>= _ = _
    rw [entries_tableFrame hnames hplain]
    rfl
  simp only [RuleSource.loadTable, Logged.result_bind, Logged.result_lift, htable, hframe, ok_bind]
  cases RuleSet.ofEntries (.list (((entries.map tabled).filter hasPattern).map .map)) <;> rfl

/-- A table of valid entries is loaded, and its rules are those of the entries exactly if all of
these survive. -/
theorem loadTable_eq_ofEntries_iff (hnames : names.Perm fieldNames)
    (hvalid : ∀ fields ∈ entries, ∃ r, RuleEntry.read (.map fields) = .ok r)
    (hplain : ∀ fields ∈ entries, HasPlainCells fields)
    (htext : Separated.Writes (tableLines names entries) text) (hread : d.readRaw p = .ok text)
    (hcolumns : columns.holds = false) :
    (RuleSource.loadTable d p columns).result =
        RuleSet.ofEntries (.list (((entries.map tabled).filter hasPattern).map .map)) ∧
      (RuleSource.loadTable d p columns).result.isOk ∧
      ((RuleSource.loadTable d p columns).result = RuleSet.ofEntries (.list (entries.map .map)) ↔
        ∀ fields ∈ entries, Survives fields) := by
  have htabled := loadTable_tableLines hnames hcolumns hplain htext hread
  have hleft : ∀ fields ∈ (entries.map tabled).filter hasPattern,
      ∃ r, RuleEntry.read (.map fields) = .ok r := by
    intro left hleft
    obtain ⟨hmem, hpattern⟩ := List.mem_filter.mp hleft
    obtain ⟨fields, hfields, rfl⟩ := List.mem_map.mp hmem
    obtain ⟨r, hr⟩ := hvalid fields hfields
    exact exists_read_tabled hr (hplain fields hfields) hpattern
  refine ⟨htabled, by rw [htabled, ofEntries_eq hleft]; rfl, ?_⟩
  rw [htabled, ofEntries_eq hleft, ofEntries_eq hvalid, map_draftOf_filter, Except.ok.injEq,
    RuleSet.mk.injEq, filterMap_eq_map_iff, and_iff_left rfl]
  refine forall₂_congr fun fields hfields => ?_
  obtain ⟨r, hr⟩ := hvalid fields hfields
  exact tabledDraft?_eq_iff hr (hplain fields hfields)

/-- A rule for a function that is called as a word for a missing value is lost without an error. The
columns stand in another order, and a cell has a quote and a comma in it. -/
theorem loadTable_eq_ofEntries_iff_nan :
    let entries : List Fields :=
      [[(.text "match", .text "nan"), (.text "directive", .text "rename"),
          (.text "name", .text "NotANumber")],
        [(.text "match", .text "foo_"), (.text "prefix", .text "yes"),
          (.text "directive", .text "strip_prefix"), (.text "target", .text "A \"b\", c")]]
    let names : List Text :=
      ["directive", "target", "match", "name", "prefix", "force_function_output"]
    let d : Disk := ⟨[], [(["r.csv"], .text (Separated.render (tableLines names entries)))]⟩
    (RuleSource.loadTable d (.ofText "/r.csv") .null).result.isOk ∧
      (RuleSource.loadTable d (.ofText "/r.csv") .null).result ≠
        RuleSet.ofEntries (.list (entries.map .map)) := by
  intro entries names d
  have hreads : ∀ fields ∈ entries, (RuleEntry.read (.map fields)).isOk := by decide
  have hplain : ∀ fields ∈ entries, HasPlainCells fields :=
    List.forall_mem_cons.mpr ⟨hasPlainCells_of_all (by decide),
      List.forall_mem_singleton.mpr (hasPlainCells_of_all (by decide))⟩
  have htext : Separated.Writes (tableLines names entries)
      (Separated.render (tableLines names entries)) := by
    refine Separated.writes_render fun line hline => ?_
    rintro rfl
    cases length_of_mem_tableLines hline
  obtain ⟨-, hok, hsame⟩ := loadTable_eq_ofEntries_iff (d := d) (p := .ofText "/r.csv")
    (by decide : names.Perm fieldNames) (fun fields h => isOk_iff.mp (hreads fields h)) hplain htext
    rfl (rfl : Value.null.holds = false)
  refine ⟨hok, fun heq => ?_⟩
  obtain ⟨r, hr⟩ := isOk_iff.mp (hreads _ List.mem_cons_self)
  have hused : ("match" : Text) ∈ usedNames r.directive := by
    cases r.directive <;> decide
  exact hsame.mp heq _ List.mem_cons_self r hr "match" hused "nan" rfl (by decide)

end Frame

end BindingNames
