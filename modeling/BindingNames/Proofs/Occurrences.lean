import BindingNames.Header.Extraction

/-!
Which functions extraction finds. Each cursor of a forest occurs once in the order of the text,
below the cursors above it. A function is declared where it stands in a wanted file below nothing
but blocks in wanted files. A public member is declared if it stands directly in a defined record
with a name at such a place, unless it is a static method. Extraction finds what is declared in
the headers, and nothing else, and of the functions with one symbol name and one type it keeps the
first.
-/

namespace BindingNames

open Text (ofString)

/-- A cursor in a forest, with the cursors above it, the nearest one first. -/
structure Occurrence where
  above : List CursorInfo
  info : CursorInfo
  deriving DecidableEq, Repr, Inhabited

mutual

/-- A cursor and all that is below it, in the order of the text. -/
def Cursor.occurrences (above : List CursorInfo) : Cursor → List Occurrence
  | .node i children => ⟨above, i⟩ :: Cursor.occurrencesOfAll (i :: above) children

def Cursor.occurrencesOfAll (above : List CursorInfo) : List Cursor → List Occurrence
  | [] => []
  | c :: rest => Cursor.occurrences above c ++ Cursor.occurrencesOfAll above rest

end

namespace Extractor

/-- Whether there is nothing but blocks in wanted files above some place. -/
def AreBlocks (wanted : Text → Bool) (above : List CursorInfo) : Prop :=
  ∀ i ∈ above, i.kind = .block ∧ isWanted wanted i

/-- Whether a cursor is a defined record with a name, in a wanted file. -/
def HasMembers (wanted : Text → Bool) (record : CursorInfo) : Prop :=
  record.kind = .record ∧ record.isDefinition ∧ Identifier.accepts record.spelling ∧
    isWanted wanted record

instance (wanted : Text → Bool) (above : List CursorInfo) : Decidable (AreBlocks wanted above) :=
  inferInstanceAs (Decidable (∀ i ∈ above, i.kind = .block ∧ isWanted wanted i))

instance (wanted : Text → Bool) (record : CursorInfo) : Decidable (HasMembers wanted record) :=
  inferInstanceAs (Decidable (_ ∧ _ ∧ _ ∧ _))

/-- The function that a cursor declares at its place. -/
inductive Declares (x : Extractor) (wanted : Text → Bool) : Occurrence → FunctionDecl → Prop where
  | function {above : List CursorInfo} {i : CursorInfo} (hkind : i.kind = .function)
      (hwanted : isWanted wanted i) (habove : AreBlocks wanted above) :
      Declares x wanted ⟨above, i⟩ (x.functionOf i none none)
  | member {above : List CursorInfo} {record i : CursorInfo} {kind : MemberKind}
      (hkind : i.kind.memberKind? = some kind) (hpublic : i.isPublic)
      (hstatic : kind = .method → i.isStatic = false) (hrecord : HasMembers wanted record)
      (habove : AreBlocks wanted above) :
      Declares x wanted ⟨record :: above, i⟩ (x.functionOf i (some record.spelling) (some kind))

/-- The function that a cursor declares at its place, if any, with the spelling of its type. -/
def declared? (x : Extractor) (wanted : Text → Bool) (o : Occurrence) :
    Option (FunctionDecl × Text) :=
  match o.info.kind.memberKind?, o.above with
  | none, above =>
    if o.info.kind = .function ∧ isWanted wanted o.info ∧ AreBlocks wanted above then
      some (x.functionOf o.info none none, o.info.typeName)
    else none
  | some _, [] => none
  | some kind, record :: above =>
    if HasMembers wanted record ∧ AreBlocks wanted above ∧ o.info.isPublic ∧
        (kind = .method → o.info.isStatic = false) then
      some (x.functionOf o.info (some record.spelling) (some kind), o.info.typeName)
    else none

/-- The functions that are declared in a forest, in the order of the text. -/
def declaredIn (x : Extractor) (wanted : Text → Bool) (cs : List Cursor) :
    List (FunctionDecl × Text) :=
  (Cursor.occurrencesOfAll [] cs).filterMap (x.declared? wanted)

def functionKey (f : FunctionDecl × Text) : Mention.FunctionKey :=
  (f.1.symbolName, f.2)

/-- Functions with their types, without those whose key came before. -/
def firstOfEach (fs : List (FunctionDecl × Text)) : List (FunctionDecl × Text) :=
  fs.eraseDupsBy fun f g => functionKey f == functionKey g

end Extractor

def Analyzer.unitsOf (parser : Parser) (a : Analyzer) : List Text → Except Failure (List HeaderUnit)
  | [] => return []
  | h :: rest => do
    let u ← (a.unitOf parser h false).2.result
    return u.content :: (← Analyzer.unitsOf parser (a.unitOf parser h false).1 rest)

/-! ### Places -/

mutual

theorem Cursor.suffix_of_mem_occurrences {above : List CursorInfo} {o : Occurrence} :
    ∀ {c : Cursor}, o ∈ c.occurrences above → above <:+ o.above
  | .node i children, h => by
      rw [Cursor.occurrences, List.mem_cons] at h
      rcases h with rfl | h
      · exact List.suffix_refl above
      · exact (List.suffix_cons i above).trans (Cursor.suffix_of_mem_occurrencesOfAll h)

theorem Cursor.suffix_of_mem_occurrencesOfAll {above : List CursorInfo} {o : Occurrence} :
    ∀ {cs : List Cursor}, o ∈ Cursor.occurrencesOfAll above cs → above <:+ o.above
  | [], h => by
      rw [Cursor.occurrencesOfAll] at h
      contradiction
  | c :: rest, h => by
      rw [Cursor.occurrencesOfAll, List.mem_append] at h
      rcases h with h | h
      · exact Cursor.suffix_of_mem_occurrences h
      · exact Cursor.suffix_of_mem_occurrencesOfAll h

end

namespace Extractor

variable {x : Extractor} {wanted : Text → Bool} {above : List CursorInfo} {i : CursorInfo}

theorem AreBlocks.cons (hkind : i.kind = .block) (hwanted : isWanted wanted i)
    (h : AreBlocks wanted above) : AreBlocks wanted (i :: above) :=
  List.forall_mem_cons.mpr ⟨⟨hkind, hwanted⟩, h⟩

theorem AreBlocks.of_suffix {above' : List CursorInfo} (hsuffix : above' <:+ above)
    (h : AreBlocks wanted above) : AreBlocks wanted above' :=
  fun i hi => h i (hsuffix.subset hi)

theorem declared?_eq_some {o : Occurrence} {d : FunctionDecl} {typeName : Text} :
    x.declared? wanted o = some (d, typeName) ↔
      x.Declares wanted o d ∧ typeName = o.info.typeName := by
  obtain ⟨above, i⟩ := o
  constructor
  · intro h
    cases hkind : i.kind.memberKind? with
    | none =>
        simp only [declared?, hkind, Option.ite_none_right_eq_some, Option.some.injEq,
          Prod.mk.injEq] at h
        obtain ⟨⟨hfunction, hwanted, habove⟩, rfl, rfl⟩ := h
        exact ⟨.function hfunction hwanted habove, rfl⟩
    | some kind =>
        cases above with
        | nil => simp [declared?, hkind] at h
        | cons record above =>
            simp only [declared?, hkind, Option.ite_none_right_eq_some, Option.some.injEq,
              Prod.mk.injEq] at h
            obtain ⟨⟨hrecord, habove, hpublic, hstatic⟩, rfl, rfl⟩ := h
            exact ⟨.member hkind hpublic hstatic hrecord habove, rfl⟩
  · rintro ⟨h, rfl⟩
    cases h with
    | function hkind hwanted habove =>
        have hnone : i.kind.memberKind? = none := by rw [hkind]; rfl
        simp only [declared?, hnone]
        rw [if_pos ⟨hkind, hwanted, habove⟩]
    | member hkind hpublic hstatic hrecord habove =>
        simp only [declared?, hkind]
        rw [if_pos ⟨hrecord, habove, hpublic, hstatic⟩]

/-- Whether something can be declared at a place, or further below. -/
def CanDeclare (wanted : Text → Bool) (above : List CursorInfo) : Prop :=
  AreBlocks wanted above ∨
    ∃ record above', above = record :: above' ∧ HasMembers wanted record ∧ AreBlocks wanted above'

theorem Declares.canDeclare {o : Occurrence} {d : FunctionDecl} (h : x.Declares wanted o d) :
    CanDeclare wanted o.above := by
  cases h with
  | function hkind hwanted habove => exact .inl habove
  | member hkind hpublic hstatic hrecord habove => exact .inr ⟨_, _, rfl, hrecord, habove⟩

theorem canDeclare_cons_iff :
    CanDeclare wanted (i :: above) ↔
      AreBlocks wanted above ∧ ((i.kind = .block ∧ isWanted wanted i) ∨ HasMembers wanted i) := by
  constructor
  · rintro (h | ⟨record, above', heq, hrecord, habove⟩)
    · obtain ⟨hi, habove⟩ := List.forall_mem_cons.mp h
      exact ⟨habove, .inl hi⟩
    · cases heq
      exact ⟨habove, .inr hrecord⟩
  · rintro ⟨habove, ⟨hkind, hwanted⟩ | hrecord⟩
    · exact .inl (.cons hkind hwanted habove)
    · exact .inr ⟨i, above, rfl, hrecord, habove⟩

theorem CanDeclare.of_suffix {above' : List CursorInfo} (hsuffix : above' <:+ above)
    (h : CanDeclare wanted above) : CanDeclare wanted above' := by
  cases above with
  | nil =>
      rw [List.suffix_nil.mp hsuffix]
      exact h
  | cons i above =>
      rcases List.suffix_cons_iff.mp hsuffix with rfl | hsuffix
      · exact h
      · exact .inl ((canDeclare_cons_iff.mp h).1.of_suffix hsuffix)

/-! ### Traversals -/

theorem filterMap_occurrencesOfAll_of_not_canDeclare (h : ¬ CanDeclare wanted above)
    (cs : List Cursor) :
    (Cursor.occurrencesOfAll above cs).filterMap (x.declared? wanted) = [] := by
  rw [List.filterMap_eq_nil_iff]
  intro o ho
  cases hdeclared : x.declared? wanted o with
  | none => rfl
  | some f =>
      have hdeclares := (declared?_eq_some.mp hdeclared).1
      exact absurd (hdeclares.canDeclare.of_suffix (Cursor.suffix_of_mem_occurrencesOfAll ho)) h

end Extractor

def Mention.function? : Mention → Option (FunctionDecl × Text)
  | .function decl typeName => some (decl, typeName)
  | _ => none

namespace Extractor

variable {x : Extractor} {wanted : Text → Bool} {above : List CursorInfo} {i : CursorInfo}

theorem declared?_of_areBlocks (habove : AreBlocks wanted above) :
    x.declared? wanted ⟨above, i⟩ =
      if i.kind = .function ∧ isWanted wanted i then
        some (x.functionOf i none none, i.typeName)
      else none := by
  cases hkind : i.kind.memberKind? with
  | none => simp [declared?, hkind, habove]
  | some kind =>
      have hfunction : i.kind ≠ .function := by
        intro heq
        rw [heq] at hkind
        contradiction
      cases above with
      | nil => simp [declared?, hkind, hfunction]
      | cons record above =>
          have hrecord : ¬ HasMembers wanted record := by
            intro hrecord
            have hblock := (habove record List.mem_cons_self).1
            rw [hrecord.1] at hblock
            contradiction
          simp [declared?, hkind, hfunction, hrecord]

theorem declared?_of_hasMembers {record : CursorInfo} (hrecord : HasMembers wanted record)
    (habove : AreBlocks wanted above) :
    x.declared? wanted ⟨record :: above, i⟩ =
      (x.memberMention record.spelling i).bind Mention.function? := by
  simp only [declared?, memberMention]
  cases hkind : i.kind.memberKind? with
  | none =>
      refine if_neg ?_
      rintro ⟨-, -, hblocks⟩
      have hblock := (hblocks record List.mem_cons_self).1
      rw [hrecord.1] at hblock
      contradiction
  | some kind =>
      by_cases hpublic : i.isPublic
      · by_cases hstatic : kind = .method ∧ i.isStatic
        · simp [hpublic, hstatic, Mention.function?]
        · simp [hrecord, habove, hpublic, hstatic, Mention.function?]
      · simp [hpublic]

theorem filterMap_occurrencesOfAll_of_hasMembers {record : CursorInfo}
    (hrecord : HasMembers wanted record) (habove : AreBlocks wanted above) (cs : List Cursor) :
    (Cursor.occurrencesOfAll (record :: above) cs).filterMap (x.declared? wanted) =
      (cs.filterMap fun c => x.memberMention record.spelling c.info).filterMap
        Mention.function? := by
  rw [List.filterMap_filterMap]
  induction cs with
  | nil => simp [Cursor.occurrencesOfAll]
  | cons c rest ih =>
      obtain ⟨i, children⟩ := c
      -- what is below a member has the record above it, which is no block
      have hbelow : ¬ CanDeclare wanted (i :: record :: above) := by
        intro h
        have hblock := ((canDeclare_cons_iff.mp h).1 record List.mem_cons_self).1
        rw [hrecord.1] at hblock
        contradiction
      rw [Cursor.occurrencesOfAll, List.filterMap_append, ih, Cursor.occurrences,
        List.filterMap_cons, List.filterMap_cons, declared?_of_hasMembers hrecord habove,
        filterMap_occurrencesOfAll_of_not_canDeclare hbelow, Cursor.info_node]
      cases (x.memberMention record.spelling i).bind Mention.function? <;> rfl

theorem filterMap_occurrencesOfAll_cons_eq_nil (hblock : ¬ (i.kind = .block ∧ isWanted wanted i))
    (hrecord : ¬ HasMembers wanted i) (cs : List Cursor) :
    (Cursor.occurrencesOfAll (i :: above) cs).filterMap (x.declared? wanted) = [] := by
  refine filterMap_occurrencesOfAll_of_not_canDeclare (fun h => ?_) cs
  exact (canDeclare_cons_iff.mp h).2.elim hblock hrecord

theorem filterMap_occurrencesOfAll_record (hkind : i.kind = .record) (hwanted : isWanted wanted i)
    (habove : AreBlocks wanted above) (cs : List Cursor) :
    (Cursor.occurrencesOfAll (i :: above) cs).filterMap (x.declared? wanted) =
      (x.recordMentions i cs).filterMap Mention.function? := by
  by_cases hrecord : HasMembers wanted i
  · have ⟨_, hdefined, hname, _⟩ := hrecord
    rw [filterMap_occurrencesOfAll_of_hasMembers hrecord habove]
    simp only [recordMentions, hname, hdefined, Bool.not_true, Bool.false_eq_true, if_false,
      if_true]
    exact (List.filterMap_cons_none (f := Mention.function?) rfl).symm
  · rw [filterMap_occurrencesOfAll_cons_eq_nil (by simp [hkind]) hrecord]
    simp only [recordMentions]
    split
    · rfl
    · rename_i hname
      have hdefined : ¬ i.isDefinition := fun h => hrecord ⟨hkind, h, by simpa using hname, hwanted⟩
      rw [if_neg hdefined]
      rfl

mutual

/-- At a place below nothing but blocks, the functions among the mentions are those declared. -/
theorem filterMap_occurrences :
    ∀ (c : Cursor) {above : List CursorInfo}, AreBlocks wanted above →
      (c.occurrences above).filterMap (x.declared? wanted) =
        (mentions x wanted c).filterMap Mention.function?
  | .node i children, above, habove => by
      -- only blocks and defined records let something be declared below them
      have hdead : ¬ (i.kind = .block ∧ isWanted wanted i) → ¬ HasMembers wanted i →
          (Cursor.occurrencesOfAll (i :: above) children).filterMap (x.declared? wanted) = [] :=
        fun hblock hrecord => filterMap_occurrencesOfAll_cons_eq_nil hblock hrecord children
      rw [Cursor.occurrences, List.filterMap_cons, declared?_of_areBlocks habove, mentions]
      by_cases hwanted : isWanted wanted i
      · cases hkind : i.kind with
        | block =>
            have hbelow := filterMap_occurrencesOfAll children (.cons hkind hwanted habove)
            simp [hwanted, hbelow]
        | record =>
            have hbelow := filterMap_occurrencesOfAll_record (x := x) hkind hwanted habove children
            simp [hwanted, hbelow]
        | function =>
            have hbelow := hdead (by simp [hkind]) fun h => by simp [h.1] at hkind
            simp [hwanted, hbelow, Mention.function?]
        | typedef =>
            have hbelow := hdead (by simp [hkind]) fun h => by simp [h.1] at hkind
            cases i.record <;> simp [hwanted, hbelow, typeMention, Mention.function?]
        | _ =>
            have hbelow := hdead (by simp [hkind]) fun h => by simp [h.1] at hkind
            simp [hwanted, hbelow]
      · have hbelow := hdead (fun h => hwanted h.2) fun h => hwanted h.2.2.2
        simp [hwanted, hbelow]

theorem filterMap_occurrencesOfAll :
    ∀ (cs : List Cursor) {above : List CursorInfo}, AreBlocks wanted above →
      (Cursor.occurrencesOfAll above cs).filterMap (x.declared? wanted) =
        (mentionsOfAll x wanted cs).filterMap Mention.function?
  | [], above, habove => by simp [Cursor.occurrencesOfAll, mentionsOfAll]
  | c :: rest, above, habove => by
      rw [Cursor.occurrencesOfAll, mentionsOfAll, List.filterMap_append, List.filterMap_append,
        filterMap_occurrences c habove, filterMap_occurrencesOfAll rest habove]

end

/-! ### Repeated functions -/

theorem firstOfEach_cons (f : FunctionDecl × Text) (fs : List (FunctionDecl × Text)) :
    firstOfEach (f :: fs) =
      f :: firstOfEach (fs.filter fun g => !(functionKey g == functionKey f)) := by
  rw [firstOfEach, List.eraseDupsBy_cons]
  simp only [firstOfEach, Bool.decide_eq_false]

end Extractor

open Extractor (functionKey firstOfEach firstOfEach_cons) in
theorem Mention.functionsAfter_eq (seen : List FunctionKey) (ms : List Mention) :
    functionsAfter seen ms =
      (firstOfEach ((ms.filterMap function?).filter fun f => !seen.contains (functionKey f))).map
        (·.1) := by
  -- a function that stays makes its key one more that came before
  induction ms generalizing seen with
  | nil => rfl
  | cons m rest ih =>
      cases m with
      | type name defined location =>
          rw [List.filterMap_cons_none (f := function?) rfl]
          exact ih seen
      | staticMember record name =>
          rw [List.filterMap_cons_none (f := function?) rfl]
          exact ih seen
      | function decl typeName =>
          rw [List.filterMap_cons_some (f := function?) rfl, functionsAfter]
          by_cases hseen : functionKey (decl, typeName) ∈ seen
          · have hkey : seen.contains (decl.symbolName, typeName) = true :=
              List.contains_iff_mem.mpr hseen
            rw [List.filter_cons_of_neg (by simpa using hseen)]
            simp only [hkey, if_true]
            exact ih seen
          · have hkey : seen.contains (decl.symbolName, typeName) = false := by
              simpa [functionKey] using hseen
            rw [List.filter_cons_of_pos (by simpa using hseen), firstOfEach_cons, List.map_cons,
              List.filter_filter]
            simp only [hkey, Bool.false_eq_true, if_false, ih, List.contains_cons, Bool.not_or]
            rfl

namespace Extractor

theorem functions_eq (ms : List Mention) :
    Mention.functions ms = (firstOfEach (ms.filterMap Mention.function?)).map (·.1) := by
  rw [Mention.functions, Mention.functionsAfter_eq, List.filter_eq_self.mpr (by simp)]

end Extractor

/-! ### Units -/

namespace Analyzer

theorem unitOf_of_forest {parser : Parser} {forest : Text → HeaderUnit}
    (hparser : ∀ n r, parser n r = .parsed (forest r.path)) {a : Analyzer}
    (hkept : ∀ u ∈ a.kept, u.2.content = forest u.1) (path : Text) :
    ∃ number, (a.unitOf parser path false).2.result =
        .ok ⟨number, forest (a.absolutePath path)⟩ ∧
      (a.unitOf parser path false).1.cwd = a.cwd ∧
      ∀ u ∈ (a.unitOf parser path false).1.kept, u.2.content = forest u.1 := by
  cases hlookup : a.kept.lookup (a.absolutePath path) with
  | some u =>
      rw [unitOf_kept parser hlookup]
      obtain ⟨front, back, hsplit, -⟩ := List.lookup_eq_some_iff.mp hlookup
      have hmem : (a.absolutePath path, u) ∈ a.kept := by simp [hsplit]
      exact ⟨u.number, by rw [← hkept _ hmem]; rfl, rfl, hkept⟩
  | none =>
      simp only [unitOf, hlookup, parseFile, hparser]
      refine ⟨_, rfl, rfl, fun u hu => ?_⟩
      rcases List.mem_cons.mp hu with rfl | hu
      · rfl
      · exact hkept u (List.mem_filter.mp hu).1

/-- Where a parser answers by the path alone, the units are those of the files. -/
theorem unitsOf_of_forest {parser : Parser} (forest : Text → HeaderUnit)
    (hparser : ∀ n r, parser n r = .parsed (forest r.path)) {a : Analyzer}
    (hkept : ∀ u ∈ a.kept, u.2.content = forest u.1) (paths : List Text) :
    a.unitsOf parser paths = .ok (paths.map fun path => forest (a.absolutePath path)) := by
  induction paths generalizing a with
  | nil => rfl
  | cons path rest ih =>
      obtain ⟨number, hresult, hcwd, hkept'⟩ := unitOf_of_forest hparser hkept path
      have habsolute : ∀ p, (a.unitOf parser path false).1.absolutePath p = a.absolutePath p :=
        fun p => by rw [absolutePath, hcwd]; rfl
      simp only [unitsOf, hresult, ih hkept', habsolute]
      rfl

end Analyzer

namespace Extractor

theorem result_mentionsOfFiles (parser : Parser) (x : Extractor) (wanted : Text → Bool)
    (a : Analyzer) (headers : List Text) :
    (mentionsOfFiles parser x wanted a headers).2.result =
      (a.unitsOf parser headers).map fun units =>
        units.flatMap fun u => x.mentionsOfAll wanted u.cursors := by
  induction headers generalizing a with
  | nil => rfl
  | cons h rest ih =>
      simp only [mentionsOfFiles, Analyzer.unitsOf]
      cases hunit : (a.unitOf parser h false).2.result with
      | error e => rfl
      | ok u =>
          simp only [Logged.result_bind, Logged.result_write, Logged.result_pure, ih]
          cases hrest : (a.unitOf parser h false).1.unitsOf parser rest <;> rfl

/-- Where the units of headers can be read, the declarations are those that the units mention. -/
theorem result_extract_eq (parser : Parser) (x : Extractor) (a : Analyzer) (headers : List Text) :
    (x.extract parser a headers).2.result =
      (a.unitsOf parser headers).map fun units =>
        .ofMentions (units.flatMap fun u =>
          x.mentionsOfAll (isHeader a (headers.map a.absolutePath)) u.cursors) := by
  simp only [extract, Logged.tell, Logged.result_bind, Logged.result_write, Logged.result_pure,
    result_mentionsOfFiles]
  cases a.unitsOf parser headers <;> rfl

/-- Where the units of headers can be read, the functions are the first ones of those declared. -/
theorem result_extract (parser : Parser) (x : Extractor) (a : Analyzer) (headers : List Text) :
    (x.extract parser a headers).2.result.map (·.functions) =
      (a.unitsOf parser headers).map fun units =>
        (firstOfEach (units.flatMap fun u =>
          x.declaredIn (isHeader a (headers.map a.absolutePath)) u.cursors)).map (·.1) := by
  have hfunctions : ∀ (wanted : Text → Bool) (units : List HeaderUnit),
      Mention.functions (units.flatMap fun u => x.mentionsOfAll wanted u.cursors) =
        (firstOfEach (units.flatMap fun u => x.declaredIn wanted u.cursors)).map (·.1) := by
    intro wanted units
    have hunit : ∀ u : HeaderUnit, x.declaredIn wanted u.cursors =
        (x.mentionsOfAll wanted u.cursors).filterMap Mention.function? :=
      fun u => filterMap_occurrencesOfAll u.cursors (by simp [AreBlocks])
    simp only [functions_eq, hunit, List.filterMap_flatMap]
  rw [result_extract_eq]
  cases a.unitsOf parser headers with
  | error e => rfl
  | ok units => exact congrArg Except.ok (hfunctions _ units)

theorem exists_extract (parser : Parser) (x : Extractor) {a : Analyzer} {headers : List Text}
    {units : List HeaderUnit} (hunits : a.unitsOf parser headers = .ok units) :
    ∃ ds, (x.extract parser a headers).2.result = .ok ds ∧
      ds.functions = (firstOfEach (units.flatMap fun u =>
        x.declaredIn (isHeader a (headers.map a.absolutePath)) u.cursors)).map (·.1) := by
  have hresult := result_extract parser x a headers
  rw [hunits] at hresult
  cases hds : (x.extract parser a headers).2.result with
  | error e => rw [hds] at hresult; contradiction
  | ok ds =>
      rw [hds] at hresult
      exact ⟨ds, rfl, Except.ok.inj hresult⟩

end Extractor

end BindingNames
