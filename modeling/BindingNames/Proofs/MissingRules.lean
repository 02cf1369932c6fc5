import BindingNames.Proofs.Outcomes
import BindingNames.Rules.Source

/-!
When rules are missing. Reading a source can fail in many ways, but only the look at its path says
that there is no file: what goes wrong in a file that is there is about what it holds.
-/

namespace BindingNames

namespace FailsOnly

variable {ε α β : Type} {P : ε → Prop}

theorem mapM {f : α → Except ε β} (h : ∀ a, FailsOnly P (f a)) (xs : List α) :
    FailsOnly P (xs.mapM f) := by
  induction xs with
  | nil => exact .ok []
  | cons x xs ih =>
      rw [List.mapM_cons]
      exact (h x).bind fun b _ => ih.bind fun bs _ => .ok (b :: bs)

theorem foldlM {f : β → α → Except ε β} (h : ∀ b a, FailsOnly P (f b a)) (xs : List α) (b : β) :
    FailsOnly P (xs.foldlM f b) := by
  induction xs generalizing b with
  | nil => exact .ok b
  | cons x xs ih =>
      rw [List.foldlM_cons]
      exact (h b x).bind fun b' _ => ih b'

theorem lift {P : Failure → Prop} {x : Except Failure α} (h : FailsOnly P x) :
    FailsOnly P (Logged.lift x).result := h

/-- The result of one computation with a log after another. -/
theorem result_bind {P : Failure → Prop} {x : Logged α} {f : α → Logged β}
    (hx : FailsOnly P x.result) (hf : ∀ a, FailsOnly P (f a).result) :
    FailsOnly P (x >>= f).result := by
  rw [Logged.result_bind]
  exact hx.bind fun a _ => hf a

end FailsOnly

namespace Failure

/-- Whether a failure says that there is no file of rules. -/
def saysMissing : Failure → Bool
  | .rulesMissing _ => true
  | _ => false

/-- A failure that says something else than that there is no file. -/
def IsAboutContent (e : Failure) : Prop :=
  e.saysMissing = false

theorem isAboutContent_file (fault : FileFault) : IsAboutContent (.file fault) := rfl

theorem isAboutContent_table (fault : TableFault) : IsAboutContent (.table fault) := rfl

theorem isAboutContent_kind (fault : KindFault) : IsAboutContent (.kind fault) := rfl

theorem isAboutContent_document (fault : DocumentFault) : IsAboutContent (.document fault) := rfl

end Failure

open Failure

/-! ### Entries and symbol maps -/

theorem failsOnly_readAll (number : Nat) (entries : List Value) :
    FailsOnly IsAboutContent (RuleEntry.readAll number entries) := by
  induction entries generalizing number with
  | nil => exact .ok []
  | cons v rest ih =>
      rw [RuleEntry.readAll]
      split
      · split <;> exact .error rfl
      · exact (ih (number + 1)).bind fun ds _ => .ok _

theorem failsOnly_ofEntries (v : Value) : FailsOnly IsAboutContent (RuleSet.ofEntries v) := by
  unfold RuleSet.ofEntries
  split
  · exact .error rfl
  · exact (failsOnly_readAll 1 _).bind fun ds _ => .ok _

theorem failsOnly_addMapped (s : RuleSet) (field : Scalar × Value) :
    FailsOnly IsAboutContent (s.addMapped field) := by
  have htarget : FailsOnly IsAboutContent (RuleSet.targetText field.2) := by
    unfold RuleSet.targetText
    split
    · exact .ok _
    · split
      · exact .ok _
      · exact .error rfl
      · exact .error rfl
  refine htarget.bind fun target _ => ?_
  split <;> exact .ok _

theorem failsOnly_ofSymbolMap (v : Value) :
    FailsOnly IsAboutContent (RuleSet.ofSymbolMap v).result := by
  unfold RuleSet.ofSymbolMap
  extract_lets convert
  have hconvert (fields : Fields) : FailsOnly IsAboutContent (convert fields).result := by
    refine .result_bind (.lift (.foldlM failsOnly_addMapped fields _)) fun s => ?_
    exact .result_bind (.ok _) fun _ => .ok _
  split
  · exact .result_bind (.ok _) hconvert
  · split
    · exact .result_bind (.ok _) hconvert
    · exact .error rfl

/-! ### Documents -/

theorem failsOnly_ofDocument (path : Text) (v : Value) :
    FailsOnly IsAboutContent (RuleSource.ofDocument path v).result := by
  unfold RuleSource.ofDocument
  split
  · exact .lift (failsOnly_ofEntries _)
  · refine .result_bind (.lift (failsOnly_ofEntries _)) fun s => ?_
    exact .result_bind (failsOnly_ofSymbolMap _) fun t => .ok _
  · exact .error rfl

theorem failsOnly_loadDocument (d : Disk) (p : Path) :
    FailsOnly IsAboutContent (RuleSource.loadDocument d p).result := by
  have hread : FailsOnly IsAboutContent (RuleSource.readDocument d p) :=
    FailsOnly.bind (.mapError isAboutContent_file _) fun text _ =>
      .mapError isAboutContent_document _
  refine .result_bind hread fun v => .result_bind (failsOnly_ofDocument _ _) fun s => ?_
  exact .result_bind (.ok _) fun _ => .ok _

/-! ### Tables -/

theorem failsOnly_ofSeveral (columns : List Scalar) (items : List Value) :
    FailsOnly IsAboutContent (Frame.ofSeveral columns items) := by
  unfold Frame.ofSeveral
  split
  · split
    · exact .error rfl
    · exact .ok _
  · split
    · exact .ok _
    · exact .error rfl
    · exact .ok _

theorem failsOnly_cell? (columns : List Scalar) (row : List (Option Text)) (column : Value) :
    FailsOnly IsAboutContent (Frame.cell? columns row column) := by
  unfold Frame.cell?
  split
  · exact .ok _
  · exact failsOnly_ofSeveral _ _
  · exact .error rfl
  · exact .error rfl
  · exact .ok _

theorem failsOnly_entryFields (columns : List Scalar) (row : List (Option Text))
    (mapping : Fields) : FailsOnly IsAboutContent (Frame.entryFields columns row mapping) := by
  induction mapping with
  | nil => exact .ok []
  | cons f mapping ih =>
      exact (failsOnly_cell? columns row f.2).bind fun found _ => ih.bind fun others _ => .ok _

theorem failsOnly_ofFrame (f : Frame) (columns : Value) :
    FailsOnly IsAboutContent (RuleSource.ofFrame f columns) := by
  refine FailsOnly.bind (.mapError isAboutContent_kind _) fun fields _ => ?_
  refine FailsOnly.bind ?_ fun entries _ => failsOnly_ofEntries _
  exact (FailsOnly.mapM (fun row => failsOnly_entryFields _ row _) _).bind fun rows _ => .ok _

theorem failsOnly_loadTable (d : Disk) (p : Path) (columns : Value) :
    FailsOnly IsAboutContent (RuleSource.loadTable d p columns).result := by
  have hread : FailsOnly IsAboutContent (RuleSource.readTable d p) :=
    FailsOnly.bind (.mapError isAboutContent_file _) fun text _ =>
      FailsOnly.bind (.mapError isAboutContent_table _) fun lines _ =>
        .mapError isAboutContent_table _
  refine .result_bind hread fun f => .result_bind (failsOnly_ofFrame _ _) fun s => ?_
  exact .result_bind (.ok _) fun _ => .ok _

/-! ### Workbooks -/

theorem failsOnly_sheetAt (w : Workbook) (label : Scalar) (i : Int) :
    FailsOnly IsAboutContent (RuleSource.sheetAt w label i) := by
  simp only [RuleSource.sheetAt]
  generalize (if i < 0 then i + (w.sheets.length : Int) else i) = place
  split
  · split
    · exact .error rfl
    · exact .ok _
  · exact .error rfl

theorem failsOnly_sheetLabelled (w : Workbook) (label : Scalar) :
    FailsOnly IsAboutContent (RuleSource.sheetLabelled w label) := by
  cases label with
  | text title =>
      rw [RuleSource.sheetLabelled]
      split
      · exact .ok _
      · exact .error rfl
  | int i => exact failsOnly_sheetAt _ _ _
  | bool b => exact failsOnly_sheetAt _ _ _
  | float x =>
      rw [RuleSource.sheetLabelled]
      split <;> exact .error rfl
  | _ => exact .error rfl

theorem failsOnly_sheetLabel (v : Value) : FailsOnly IsAboutContent (RuleSource.sheetLabel v) := by
  unfold RuleSource.sheetLabel
  split
  · exact .ok _
  · exact .error rfl
  · exact .error rfl

theorem failsOnly_sheetFor (w : Workbook) (setting : Value) :
    FailsOnly IsAboutContent (RuleSource.sheetFor w setting) := by
  unfold RuleSource.sheetFor
  split
  · exact failsOnly_sheetAt _ _ _
  · split
    · refine (FailsOnly.mapM failsOnly_sheetLabel _).bind fun labels _ => ?_
      exact (FailsOnly.mapM (failsOnly_sheetLabelled w) labels).bind fun _ _ => .error rfl
    · exact (failsOnly_sheetLabel _).bind fun label _ => failsOnly_sheetLabelled w label

theorem failsOnly_loadWorkbook (d : Disk) (p : Path) (sheet columns : Value) :
    FailsOnly IsAboutContent (RuleSource.loadWorkbook d p sheet columns).result := by
  have hread : FailsOnly IsAboutContent (RuleSource.readWorkbook d p) := by
    refine FailsOnly.bind (.mapError isAboutContent_file _) fun node _ => ?_
    split
    · exact .mapError isAboutContent_table _
    · exact .error rfl
  refine .result_bind hread fun w => .result_bind (failsOnly_sheetFor _ _) fun s => ?_
  refine .result_bind (failsOnly_ofFrame _ _) fun rules => ?_
  exact .result_bind (.ok _) fun _ => .ok _

/-! ### Sources -/

theorem failsOnly_typeOf (v : Value) : FailsOnly IsAboutContent (RuleSource.typeOf v) := by
  unfold RuleSource.typeOf
  split
  · exact .ok _
  · exact .ok _
  · exact .error rfl

theorem failsOnly_loadPresent (d : Disk) (p : Path) (type : Scalar) (sheet columns : Value) :
    FailsOnly IsAboutContent
      (if type == .text "excel" then RuleSource.loadWorkbook d p sheet columns
        else if type == .text "csv" then RuleSource.loadTable d p columns
        else if type == .text "yaml" then RuleSource.loadDocument d p
        else Logged.fail (.rulesKind type)).result := by
  split
  · exact failsOnly_loadWorkbook _ _ _ _
  · split
    · exact failsOnly_loadTable _ _ _
    · split
      · exact failsOnly_loadDocument _ _
      · exact .error rfl

/-- Rules are missing if nothing is where the path of the source leads, and for no other reason. -/
theorem has_of_load_eq_rulesMissing {d : Disk} {source : Fields} {missing : Text}
    (h : (RuleSource.load d source).result = .error (.rulesMissing missing)) :
    ∃ s : Text, RuleSource.field source "path" .null = .text s ∧ s ≠ [] ∧
      d.has (.ofText s) = .ok false ∧ missing = (Path.ofText s).toText := by
  rw [RuleSource.load, Logged.result_bind, Logged.result_lift] at h
  cases htype : RuleSource.typeOf (RuleSource.field source "type" (.text "yaml")) with
  | error e =>
      rw [htype] at h
      cases h
      exact absurd (failsOnly_typeOf _ _ htype) nofun
  | ok type =>
      simp only [htype, ok_bind] at h
      split at h
      · cases h
      · rename_i hholds
        split at h
        · rename_i s hpath
          have hs : s ≠ [] := by
            rintro rfl
            rw [hpath] at hholds
            exact hholds rfl
          rw [Logged.result_bind, Logged.result_lift] at h
          cases hthere : d.has (.ofText s) with
          | error fault =>
              rw [hthere] at h
              cases h
          | ok there =>
              rw [hthere, mapError_ok, ok_bind] at h
              cases there with
              | false =>
                  refine ⟨s, hpath, hs, hthere, ?_⟩
                  cases h
                  rfl
              | true => exact absurd (failsOnly_loadPresent _ _ _ _ _ _ h) nofun
        · cases h

end BindingNames
