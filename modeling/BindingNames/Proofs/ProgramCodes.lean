import BindingNames.Proofs.ConfigurationCheck
import BindingNames.Proofs.ProgramStages

/-!
Exit codes of the program. A configuration that is missing or cannot be read, complaints about its
settings and failures of the mapping all lead to a code. The set up of the log, the saving of the
configuration and its check are not guarded, so a setting of the wrong kind makes a failure get out
of them. What has to hold for a code is stated in terms of the settings and the disk.
-/

namespace BindingNames

open Text

/-! ### The log -/

namespace LogOutput

/-- A level that a log can be set to. Two words name something else. -/
def IsLevel (level : Value) : Prop :=
  ∃ s, level = .text s ∧ Text.upper s ≠ "BASIC_FORMAT" ∧ Text.upper s ≠ "_STYLES"

/-- A log with these settings can be set up: without a file the disk stays as it is, and otherwise
the directories of the file can be made and the file opened. -/
inductive Opens (d : Disk) (level file : Value) : Disk → Prop where
  | console (hlevel : IsLevel level) (hfile : ¬ file.holds) : Opens d level file d
  | file {name : Text} {d₁ d₂ : Disk} (hlevel : IsLevel level) (hfile : file = .text name)
      (hname : name ≠ []) (hmade : d.makeDirectories (Path.ofText name).parent = .ok d₁)
      (hopened : d₁.appendText (.ofText name) "" = .ok d₂) : Opens d level file d₂

theorem levelText_eq_ok_iff {level : Value} {s : Text} :
    levelText level = .ok s ↔ level = .text s := by
  constructor
  · intro h
    unfold levelText at h
    split at h
    · rw [← Except.ok.inj h]
      rfl
    · contradiction
    · contradiction
  · rintro rfl
    rfl

theorem isOk_ofSetting_iff {s : Text} :
    (Level.ofSetting s).isOk ↔ Text.upper s ≠ "BASIC_FORMAT" ∧ Text.upper s ≠ "_STYLES" := by
  simp only [Level.ofSetting, beq_iff_eq]
  split
  · simp [*]
  · split <;> simp [*]

theorem fileOf_eq_none_iff {file : Value} : fileOf file = .ok none ↔ ¬ file.holds := by
  unfold fileOf
  cases file.holds with
  | false => simp
  | true =>
      simp only [Bool.not_true, Bool.false_eq_true, if_false, not_true, iff_false]
      split <;> simp

theorem fileOf_eq_some_iff {file : Value} {p : Path} :
    fileOf file = .ok (some p) ↔ ∃ name, file = .text name ∧ name ≠ [] ∧ p = .ofText name := by
  constructor
  · intro h
    unfold fileOf at h
    cases hholds : file.holds with
    | false => simp [hholds] at h
    | true =>
        simp only [hholds, Bool.not_true, Bool.false_eq_true, if_false] at h
        split at h
        · rename_i name
          refine ⟨name, rfl, ?_, ?_⟩
          · rintro rfl
            contradiction
          · exact (Option.some.inj (Except.ok.inj h)).symm
        · contradiction
  · rintro ⟨name, rfl, hname, rfl⟩
    have hholds : (Value.text name).holds := by
      simpa [Value.text, Value.holds, Scalar.holds] using hname
    unfold fileOf
    rw [hholds]
    rfl

theorem isOk_formatOf_usual : (formatOf "").isOk := by
  decide +kernel

/-- The set up of a log succeeds exactly with settings that open it. -/
theorem exists_setUp_iff {d d' : Disk} {level file : Value} :
    (∃ settings, setUp d level file "" = .ok (settings, d')) ↔ Opens d level file d' := by
  obtain ⟨parts, hparts⟩ := isOk_iff.mp isOk_formatOf_usual
  simp only [setUp, bind_eq_ok_iff, levelText_eq_ok_iff, hparts, Except.ok.injEq, exists_eq_left']
  constructor
  · rintro ⟨settings, s, rfl, n, hn, found, hfound, h⟩
    have hlevel : IsLevel (.text s) := ⟨s, rfl, isOk_ofSetting_iff.mp (isOk_iff.mpr ⟨n, hn⟩)⟩
    cases found with
    | none =>
        cases h
        exact .console hlevel (fileOf_eq_none_iff.mp hfound)
    | some p =>
        obtain ⟨name, rfl, hname, rfl⟩ := fileOf_eq_some_iff.mp hfound
        simp only [bind_eq_ok_iff, mapError_eq_ok_iff] at h
        obtain ⟨d₁, hmade, d₂, hopened, h⟩ := h
        cases h
        exact .file hlevel rfl hname hmade hopened
  · intro h
    cases h with
    | console hlevel hfile =>
        obtain ⟨s, rfl, hs⟩ := hlevel
        obtain ⟨n, hn⟩ := isOk_iff.mp (isOk_ofSetting_iff.mpr hs)
        exact ⟨_, s, rfl, n, hn, none, fileOf_eq_none_iff.mpr hfile, rfl⟩
    | @file name d₁ d₂ hlevel hfile hname hmade hopened =>
        obtain ⟨s, rfl, hs⟩ := hlevel
        obtain ⟨n, hn⟩ := isOk_iff.mp (isOk_ofSetting_iff.mpr hs)
        refine ⟨⟨n, parts, some (.ofText name)⟩, s, rfl, n, hn, some (.ofText name),
          fileOf_eq_some_iff.mpr ⟨name, hfile, hname, rfl⟩, ?_⟩
        simp only [bind_eq_ok_iff, mapError_eq_ok_iff]
        exact ⟨d₁, hmade, d', hopened, rfl⟩

end LogOutput

/-! ### The saving -/

namespace Configuration

/-- A configuration can be saved: all its settings can be written, and the disk takes the file. -/
def CanSave (d : Disk) (c : Configuration) (path : Text) : Prop :=
  Document.writingFault? c.savedFields = none ∧
    (d.placeFile (.ofText path) (.text c.savedText)).isOk

theorem isOk_save_iff {d : Disk} {c : Configuration} {path : Text} :
    (c.save d path).2.result.isOk ↔ CanSave d c path := by
  unfold CanSave
  cases hfault : Document.writingFault? c.savedFields with
  | none =>
      cases hplaced : d.placeFile (.ofText path) (.text c.savedText) <;>
        simp [save, hfault, hplaced, Logged.fail, Logged.tell]
  | some fault =>
      cases hplaced : d.placeFile (.ofText path) (.text []) <;>
        simp [save, hfault, hplaced, Logged.fail]

/-- A configuration that is read sees its paths from the directory of its file. -/
theorem baseDir_of_ofFile {d : Disk} {path : Text} {c : Configuration}
    (h : ofFile d path = .ok c) : ∃ base, c.baseDir = .text base := by
  unfold ofFile at h
  obtain ⟨text, -, h⟩ := bind_eq_ok_iff.mp h
  obtain ⟨v, -, h⟩ := bind_eq_ok_iff.mp h
  split at h
  · obtain ⟨c', -, h⟩ := bind_eq_ok_iff.mp h
    cases h
    exact ⟨_, rfl⟩
  · contradiction

end Configuration

/-! ### Ends -/

namespace ProgramEnd

/-- Under a condition the program ends with the code 0 or 1, and otherwise a failure gets out. -/
structure CodedIff (r : ProgramEnd) (p : Prop) : Prop where
  coded : r.code? = some 0 ∨ r.code? = some 1 ↔ p
  crashes : ¬ p → ∃ e, r = .crash e

variable {r : ProgramEnd} {p q : Prop}

theorem CodedIff.congr (h : r.CodedIff p) (hpq : p ↔ q) : r.CodedIff q :=
  ⟨h.coded.trans hpq, fun hq => h.crashes fun hp => hq (hpq.mp hp)⟩

theorem codedIff_of_code (hr : r.code? = some 0 ∨ r.code? = some 1) (hp : p) : r.CodedIff p :=
  ⟨iff_of_true hr hp, fun h => absurd hp h⟩

theorem codedIff_crash {e : Failure} (hp : ¬ p) : (crash e).CodedIff p :=
  ⟨iff_of_false (by simp [code?]) hp, fun _ => ⟨e, rfl⟩⟩

end ProgramEnd

namespace Program

open ProgramEnd (codedIff_of_code codedIff_crash)

variable {t : Tools} {d : Disk} {x : Arguments} {c : Configuration}

theorem save_codedIff (settings : LogOutput.Settings) (path : Text) :
    (save t d c settings path).2.CodedIff (c.CanSave d path) := by
  rw [← Configuration.isOk_save_iff]
  cases hsaved : (c.save d path).2.result with
  | error e =>
      simp only [save, hsaved]
      exact codedIff_crash (by simp)
  | ok _ =>
      simp only [save, hsaved]
      exact codedIff_of_code (.inl rfl) rfl

theorem code_map (settings : LogOutput.Settings) :
    (map t d c settings x).2.1 = 0 ∨ (map t d c settings x).2.1 = 1 := by
  unfold map
  simp only
  split
  · exact .inr rfl
  · rename_i mapper _
    cases (mapper.run t (note t settings) (note t settings d (Mapper.start d c).log) x.output
      x.report).2.result with
    | error e => exact .inr rfl
    | ok _ => exact .inl rfl

theorem checkAndMap_codedIff {base : Text} (hbase : c.baseDir = .text base)
    (settings : LogOutput.Settings) :
    (checkAndMap t d c settings x).2.CodedIff (c.Checkable d) := by
  rw [← Configuration.isOk_validate_iff hbase]
  cases hchecked : (c.validate d).result with
  | error e =>
      simp only [checkAndMap, hchecked]
      exact codedIff_crash (by simp)
  | ok complaints =>
      cases complaints with
      | nil =>
          rw [checkAndMap_of_valid hchecked]
          exact codedIff_of_code ((code_map settings).imp (congrArg some) (congrArg some)) rfl
      | cons s rest =>
          simp only [checkAndMap, hchecked]
          exact codedIff_of_code (.inr rfl) rfl

/-- The configuration can be saved, or checked, as the arguments ask. -/
def CanServe (d : Disk) (x : Arguments) (c : Configuration) : Prop :=
  match nonempty? x.dumpConfig with
  | some path => c.CanSave d path
  | none => c.Checkable d

theorem withLog_codedIff {base : Text} (hbase : c.baseDir = .text base)
    (settings : LogOutput.Settings) :
    (withLog t d c settings x).2.CodedIff (CanServe d x c) := by
  unfold CanServe
  cases hdump : nonempty? x.dumpConfig with
  | some path =>
      rw [withLog_of_save hdump]
      exact save_codedIff settings path
  | none =>
      rw [withLog_of_check hdump]
      exact checkAndMap_codedIff hbase settings

theorem baseDir_of_loaded (h : loaded? d x = some c) : ∃ base, c.baseDir = .text base := by
  obtain ⟨name, -, c', -, hfile, rfl⟩ := loaded?_eq_some_iff.mp h
  obtain ⟨base, hbase⟩ := Configuration.baseDir_of_ofFile hfile
  refine ⟨base, ?_⟩
  unfold effective
  split <;> exact hbase

/-- What has to hold for a code: the configuration is not there, or cannot be read, or its log can
be set up and it can be saved or checked. -/
inductive Survives (d : Disk) (x : Arguments) : Prop where
  | missing {name : Text} (named : x.config = some name)
      (absent : d.has (.ofText name) = .ok false)
  | unreadable {name : Text} {e : Failure} (named : x.config = some name)
      (present : d.has (.ofText name) = .ok true)
      (broken : Configuration.ofFile d (Path.ofText name).toText = .error e)
  | served {c : Configuration} {d₁ : Disk} (loaded : loaded? d x = some c)
      (opens : LogOutput.Opens d c.logLevel c.logFile d₁) (can : CanServe d₁ x c)

theorem survives_iff_of_loaded (hc : loaded? d x = some c) :
    Survives d x ↔ ∃ d₁, LogOutput.Opens d c.logLevel c.logFile d₁ ∧ CanServe d₁ x c := by
  obtain ⟨name, hname, c', hpresent, hfile, -⟩ := loaded?_eq_some_iff.mp hc
  constructor
  · intro h
    cases h with
    | missing named absent =>
        obtain rfl := Option.some.inj (hname.symm.trans named)
        simp [hpresent] at absent
    | unreadable named present broken =>
        obtain rfl := Option.some.inj (hname.symm.trans named)
        simp [hfile] at broken
    | served loaded opens can =>
        obtain rfl := Option.some.inj (hc.symm.trans loaded)
        exact ⟨_, opens, can⟩
  · rintro ⟨d₁, opens, can⟩
    exact .served hc opens can

theorem withArguments_codedIff_of_loaded (hc : loaded? d x = some c) :
    (withArguments t d x).2.CodedIff (Survives d x) := by
  rw [withArguments_of_loaded hc, survives_iff_of_loaded hc]
  cases hlog : LogOutput.setUp d c.logLevel c.logFile "" with
  | error e =>
      refine codedIff_crash ?_
      rintro ⟨d₁, opens, -⟩
      obtain ⟨settings, hok⟩ := LogOutput.exists_setUp_iff.mpr opens
      simp [hlog] at hok
  | ok log =>
      obtain ⟨settings, d₁⟩ := log
      obtain ⟨base, hbase⟩ := baseDir_of_loaded hc
      refine (withLog_codedIff hbase settings).congr ⟨fun can => ?_, ?_⟩
      · exact ⟨d₁, LogOutput.exists_setUp_iff.mp ⟨settings, hlog⟩, can⟩
      · rintro ⟨d₂, opens, can⟩
        obtain ⟨settings', hok⟩ := LogOutput.exists_setUp_iff.mpr opens
        have hsame : d₁ = d₂ := by simpa using (Prod.mk.inj (Except.ok.inj (hlog.symm.trans hok))).2
        exact hsame ▸ can

/-- Nothing is served unless the disk can tell whether the configuration is there. -/
theorem Survives.exists_has (h : Survives d x) :
    ∃ name there, x.config = some name ∧ d.has (.ofText name) = .ok there := by
  cases h with
  | missing named absent => exact ⟨_, _, named, absent⟩
  | unreadable named present broken => exact ⟨_, _, named, present⟩
  | served loaded opens can =>
      obtain ⟨name, hname, c', hpresent, -⟩ := loaded?_eq_some_iff.mp loaded
      exact ⟨_, _, hname, hpresent⟩

theorem withArguments_codedIff (t : Tools) (d : Disk) (x : Arguments) :
    (withArguments t d x).2.CodedIff (Survives d x) := by
  cases hname : x.config with
  | none =>
      simp only [withArguments, hname]
      refine codedIff_crash fun h => ?_
      obtain ⟨name, there, hsome, -⟩ := h.exists_has
      simp [hname] at hsome
  | some name =>
      cases hhas : d.has (.ofText name) with
      | error fault =>
          simp only [withArguments, withConfigurationFile, hname, hhas]
          refine codedIff_crash fun h => ?_
          obtain ⟨name', there, hsome, hok⟩ := h.exists_has
          obtain rfl := Option.some.inj (hname.symm.trans hsome)
          simp [hhas] at hok
      | ok there =>
          cases there with
          | false =>
              simp only [withArguments, withConfigurationFile, hname, hhas]
              exact codedIff_of_code (.inr rfl) (.missing hname hhas)
          | true =>
              cases hfile : Configuration.ofFile d (Path.ofText name).toText with
              | error e =>
                  simp only [withArguments, withConfigurationFile, hname, hhas, hfile]
                  exact codedIff_of_code (.inr rfl) (.unreadable hname hhas hfile)
              | ok c =>
                  exact withArguments_codedIff_of_loaded
                    (loaded?_eq_some_iff.mpr ⟨name, hname, c, hhas, hfile, rfl⟩)

/-- With arguments that are accepted, the program ends with the code 0 or 1 exactly if the settings
that its log, the saving and the check look at can be used there. Otherwise a failure gets out. -/
theorem code_run_iff_survives (t : Tools) (d : Disk) {words : List Text} {x : Arguments}
    (h : Arguments.parse words = .run x) :
    ((run t d words).2.code? = some 0 ∨ (run t d words).2.code? = some 1 ↔ Survives d x) ∧
      (¬ Survives d x → ∃ e, (run t d words).2 = .crash e) := by
  rw [run_of_parse h]
  exact ⟨(withArguments_codedIff t d x).coded, (withArguments_codedIff t d x).crashes⟩

/-- The level of the log is given as null. -/
theorem code_run_iff_survives_nullLevel :
    let t : Tools := ⟨fun _ _ => .nothing, ⟨none, []⟩, ⟨"linux", [], true⟩, ""⟩
    let d : Disk :=
      ⟨["w"], [(["w"], .directory),
        (["w", "llcppg.cfg"], .text (ofString "\x7b\"log_level\": null\x7d"))]⟩
    Arguments.parse [] = .run .usual ∧ ¬ Survives d .usual ∧
      ∃ e, (run t d []).2 = .crash e := by
  intro t d
  have hparse : Arguments.parse [] = .run .usual := by decide +kernel
  have hcode : (run t d []).2.code? = none := by decide +kernel
  obtain ⟨hiff, hcrash⟩ := code_run_iff_survives t d hparse
  have hnot : ¬ Survives d .usual := by
    rw [← hiff, hcode]
    simp
  exact ⟨hparse, hnot, hcrash hnot⟩

end Program

end BindingNames
