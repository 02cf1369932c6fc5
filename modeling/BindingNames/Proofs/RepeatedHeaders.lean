import BindingNames.Proofs.MentionedTypes
import Mathlib.Data.Nat.Init

/-!
Headers that are listed again. The unit of a header that was read is kept, so it is not read again
and mentions nothing new: a function whose key came before is left out, and a type that is mentioned
as it was mentioned before stays as it is. What is read later does not depend on it either. So the
types and the functions of some headers, which are what their mentions amount to, do not change when
one of them is listed once more, anywhere behind its first place.
-/

namespace BindingNames

open Text (ofString)

/-! ### Repeated mentions -/

theorem MergedFrom.addType_of_mem {mentions types : List TypeDecl} (h : MergedFrom mentions types)
    {m : TypeDecl} (hm : m ∈ mentions) :
    Mention.addType m.name m.fieldsKnown m.location types = types := by
  have hname : m.name ∈ types.map (·.name) :=
    (h.mem_names_iff m.name).mpr (List.mem_map_of_mem hm)
  rw [Mention.addType_of_mem h.nodup hname]
  refine (List.map_congr_left fun t ht => ?_).trans (List.map_id types)
  by_cases htm : t.name = m.name
  · have hknown : (t.fieldsKnown || m.fieldsKnown) = t.fieldsKnown := by
      cases hdefined : m.fieldsKnown with
      | false => rw [Bool.or_false]
      | true => rw [(h.fieldsKnown_iff t ht).mpr ⟨m, hm, htm.symm, hdefined⟩, Bool.or_true]
    rw [TypeDecl.after_of_eq htm, hknown]
    rfl
  · exact TypeDecl.after_of_ne htm

theorem MergedFrom.foldl_addTypeOf_of_subset {mentions types : List TypeDecl}
    (h : MergedFrom mentions types) {ms : List Mention}
    (hms : ∀ m ∈ ms, ∀ t, m.type? = some t → t ∈ mentions) :
    ms.foldl Mention.addTypeOf types = types := by
  induction ms with
  | nil => rfl
  | cons m rest ih =>
      obtain ⟨hm, hrest⟩ := List.forall_mem_cons.mp hms
      have hstep : Mention.addTypeOf types m = types := by
        cases m with
        | type name defined location => exact h.addType_of_mem (hm _ rfl)
        | function decl typeName => rfl
        | staticMember record name => rfl
      rw [List.foldl_cons, hstep]
      exact ih hrest

theorem Mention.types_insert {front again : List Mention} (h : again ⊆ front)
    (back : List Mention) :
    Mention.types (front ++ again ++ back) = Mention.types (front ++ back) := by
  have hagain : again.foldl addTypeOf (front.foldl addTypeOf []) = front.foldl addTypeOf [] := by
    refine (mergedFrom_types front).foldl_addTypeOf_of_subset fun m hm t ht => ?_
    exact List.mem_filterMap.mpr ⟨m, h hm, ht⟩
  rw [types, types, List.foldl_append, List.foldl_append, List.foldl_append, hagain]

namespace Extractor

/-- Functions whose keys came before do not matter. -/
theorem firstOfEach_insert {front again : List (FunctionDecl × Text)}
    (h : ∀ g ∈ again, ∃ f ∈ front, functionKey f = functionKey g)
    (back : List (FunctionDecl × Text)) :
    firstOfEach (front ++ again ++ back) = firstOfEach (front ++ back) := by
  -- what is left once a key is taken out is shorter, but no tail of the list
  induction hn : front.length using Nat.strong_induction_on generalizing front again back with
  | _ n ih =>
      cases front with
      | nil =>
          cases again with
          | nil => rfl
          | cons g again =>
              obtain ⟨f, hf, -⟩ := h g List.mem_cons_self
              contradiction
      | cons f front =>
          have hlength : (front.filter fun g => !(functionKey g == functionKey f)).length < n := by
            have := List.length_filter_le (fun g => !(functionKey g == functionKey f)) front
            rw [List.length_cons] at hn
            omega
          rw [List.cons_append, List.cons_append, List.cons_append, firstOfEach_cons,
            firstOfEach_cons, List.filter_append, List.filter_append, List.filter_append]
          refine congrArg _ (ih _ hlength (fun g hg => ?_) _ rfl)
          obtain ⟨hg, hkey⟩ := List.mem_filter.mp hg
          obtain ⟨k, hk, hsame⟩ := h g hg
          refine ⟨k, List.mem_filter.mpr ⟨?_, hsame ▸ hkey⟩, hsame⟩
          refine (List.mem_cons.mp hk).resolve_left fun heq => ?_
          rw [← hsame, heq] at hkey
          simp at hkey

end Extractor

theorem Mention.functions_insert {front again : List Mention} (h : again ⊆ front)
    (back : List Mention) :
    Mention.functions (front ++ again ++ back) = Mention.functions (front ++ back) := by
  rw [Extractor.functions_eq, Extractor.functions_eq, List.filterMap_append, List.filterMap_append,
    List.filterMap_append, Extractor.firstOfEach_insert]
  intro g hg
  obtain ⟨m, hm, hg⟩ := List.mem_filterMap.mp hg
  exact ⟨g, List.mem_filterMap.mpr ⟨m, h hm, hg⟩, rfl⟩

/-- Mentions that came before change no declarations. -/
theorem Declarations.ofMentions_insert {front again : List Mention} (h : again ⊆ front)
    (back : List Mention) :
    Declarations.ofMentions (front ++ again ++ back) = Declarations.ofMentions (front ++ back) := by
  rw [ofMentions, Mention.types_insert h, Mention.functions_insert h, ofMentions]

/-! ### Kept units -/

namespace Analyzer

variable {parser : Parser} {a b : Analyzer} {path : Text} {force : Bool}

/-- What a request for the unit of a file leads to: the analyzer after it, and its result. -/
inductive Answers (parser : Parser) (a : Analyzer) (path : Text) (force : Bool) :
    Analyzer → Except Failure NumberedUnit → Prop where
  | kept {u : NumberedUnit} (hforce : force = false)
      (hkept : a.kept.lookup (a.absolutePath path) = some u) :
      Answers parser a path force a (.ok u)
  | read {content : HeaderUnit}
      (hneeded : force = true ∨ a.kept.lookup (a.absolutePath path) = none)
      (hparsed : parser a.requests.length (a.fileRequest (a.absolutePath path)) =
        .parsed content) :
      Answers parser a path force
        ((a.noted (a.fileRequest (a.absolutePath path))).keep (a.absolutePath path)
          ⟨a.requests.length + 1, content⟩)
        (.ok ⟨a.requests.length + 1, content⟩)
  | unread {reason : Text}
      (hneeded : force = true ∨ a.kept.lookup (a.absolutePath path) = none)
      (hparsed : ∀ content,
        parser a.requests.length (a.fileRequest (a.absolutePath path)) ≠ .parsed content) :
      Answers parser a path force (a.noted (a.fileRequest (a.absolutePath path)))
        (.error (.unitUnread (a.absolutePath path) reason))

theorem answers_unitOf (parser : Parser) (a : Analyzer) (path : Text) (force : Bool) :
    Answers parser a path force (a.unitOf parser path force).1
      (a.unitOf parser path force).2.result := by
  have hparse : (force = true ∨ a.kept.lookup (a.absolutePath path) = none) →
      Answers parser a path force (a.parseFile parser (a.absolutePath path)).1
        (a.parseFile parser (a.absolutePath path)).2.result := by
    intro hneeded
    cases hparsed : parser a.requests.length (a.fileRequest (a.absolutePath path)) with
    | parsed content =>
        simpa [parseFile, hparsed, noted] using Answers.read hneeded hparsed
    | nothing =>
        simpa [parseFile, hparsed, Logged.fail] using Answers.unread hneeded (by simp [hparsed])
    | failed reason =>
        simpa [parseFile, hparsed, Logged.fail] using Answers.unread hneeded (by simp [hparsed])
  cases hkept : a.kept.lookup (a.absolutePath path) with
  | none => simpa [unitOf, hkept] using hparse (.inr hkept)
  | some u =>
      cases force with
      | true => simpa [unitOf, hkept] using hparse (.inl rfl)
      | false =>
          rw [unitOf_kept parser hkept]
          exact .kept rfl hkept

theorem lookup_keep_self (a : Analyzer) (path : Text) (u : NumberedUnit) :
    (a.keep path u).kept.lookup path = some u := by
  rw [keep, List.lookup_cons, beq_self_eq_true]

theorem lookup_keep_of_ne {other : Text} (h : other ≠ path) (a : Analyzer) (u : NumberedUnit) :
    (a.keep path u).kept.lookup other = a.kept.lookup other := by
  rw [keep, List.lookup_cons, beq_eq_false_iff_ne.mpr h]
  show (a.kept.filter (·.1 != path)).lookup other = a.kept.lookup other
  induction a.kept with
  | nil => rfl
  | cons e rest ih =>
      by_cases he : e.1 = path
      · have hother : (other == e.1) = false := beq_eq_false_iff_ne.mpr (he ▸ h)
        rw [List.filter_cons_of_neg (by simpa using he), List.lookup_cons, hother, ih]
      · rw [List.filter_cons_of_pos (by simpa using he), List.lookup_cons, List.lookup_cons, ih]

namespace Answers

variable {result : Except Failure NumberedUnit} {u : NumberedUnit}

theorem absolutePath_eq (h : Answers parser a path force b result) (p : Text) :
    b.absolutePath p = a.absolutePath p := by
  cases h <;> rfl

/-- A unit that was kept stays unless parsing is forced. -/
theorem lookup_of_kept (h : Answers parser a path false b result) {p : Text}
    (hkept : a.kept.lookup p = some u) : b.kept.lookup p = some u := by
  cases h with
  | kept hforce hsame => exact hkept
  | read hneeded hparsed =>
      have hne : p ≠ a.absolutePath path := by
        rintro rfl
        simp [hkept] at hneeded
      rw [lookup_keep_of_ne hne]
      exact hkept
  | unread hneeded hparsed => exact hkept

/-- A unit that is given is kept. -/
theorem lookup_self (h : Answers parser a path force b (.ok u)) :
    b.kept.lookup (a.absolutePath path) = some u := by
  cases h with
  | kept hforce hkept => exact hkept
  | read hneeded hparsed => exact lookup_keep_self _ _ _

end Answers

/-- Units with one more among them, which is known or comes before, unless reading fails. -/
inductive GainsKnown (known : List HeaderUnit) :
    Except Failure (List HeaderUnit) → Except Failure (List HeaderUnit) → Prop where
  | failed {e : Failure} : GainsKnown known (.error e) (.error e)
  | read {us vs : List HeaderUnit} {u : HeaderUnit} (h : u ∈ known ++ us) :
      GainsKnown known (.ok (us ++ vs)) (.ok (us ++ u :: vs))

theorem GainsKnown.cons {known : List HeaderUnit} {w : HeaderUnit}
    {shorter longer : Except Failure (List HeaderUnit)}
    (h : GainsKnown (known ++ [w]) shorter longer) :
    GainsKnown known (shorter.map (w :: ·)) (longer.map (w :: ·)) := by
  cases h with
  | failed => exact .failed
  | @read us vs u hu =>
      rw [List.append_assoc] at hu
      exact .read hu

theorem unitsOf_cons_of_error {e : Failure}
    (h : (a.unitOf parser path false).2.result = .error e) (rest : List Text) :
    a.unitsOf parser (path :: rest) = .error e := by
  rw [unitsOf, h]
  rfl

theorem unitsOf_cons_of_ok {u : NumberedUnit}
    (h : (a.unitOf parser path false).2.result = .ok u) (rest : List Text) :
    a.unitsOf parser (path :: rest) =
      ((a.unitOf parser path false).1.unitsOf parser rest).map (u.content :: ·) := by
  rw [unitsOf, h]
  cases (a.unitOf parser path false).1.unitsOf parser rest <;> rfl

/-- A file that is asked for again, or whose unit is kept, adds a unit that is known. -/
theorem gainsKnown_insert {known : List HeaderUnit} {front : List Text} {again : Text}
    (h : (∃ u, a.kept.lookup (a.absolutePath again) = some u ∧ u.content ∈ known) ∨
      ∃ p ∈ front, a.absolutePath again = a.absolutePath p) (back : List Text) :
    GainsKnown known (a.unitsOf parser (front ++ back))
      (a.unitsOf parser (front ++ again :: back)) := by
  -- a unit that is given becomes known, and it is kept from then on
  induction front generalizing a known with
  | nil =>
      obtain ⟨u, hkept, hu⟩ := h.resolve_right (by simp)
      have hunit := unitOf_kept parser hkept
      have hresult : (a.unitOf parser again false).2.result = .ok u := by
        rw [hunit]
        rfl
      rw [List.nil_append, List.nil_append, unitsOf_cons_of_ok hresult, hunit]
      cases a.unitsOf parser back with
      | error e => exact .failed
      | ok vs =>
          have hknown : u.content ∈ known ++ [] := List.mem_append_left _ hu
          exact .read hknown
  | cons p front ih =>
      rw [List.cons_append, List.cons_append]
      have hanswers := answers_unitOf parser a p false
      cases hresult : (a.unitOf parser p false).2.result with
      | error e =>
          rw [unitsOf_cons_of_error hresult, unitsOf_cons_of_error hresult]
          exact .failed
      | ok w =>
          rw [unitsOf_cons_of_ok hresult, unitsOf_cons_of_ok hresult]
          rw [hresult] at hanswers
          have hagain : (∃ u,
              (a.unitOf parser p false).1.kept.lookup (a.absolutePath again) = some u ∧
                u.content ∈ known ++ [w.content]) ∨
              ∃ q ∈ front, a.absolutePath again = a.absolutePath q := by
            rcases h with ⟨u, hkept, hu⟩ | ⟨q, hq, hsame⟩
            · exact .inl ⟨u, hanswers.lookup_of_kept hkept, List.mem_append_left _ hu⟩
            · rcases List.mem_cons.mp hq with rfl | hq
              · exact .inl ⟨w, hsame ▸ hanswers.lookup_self, by simp⟩
              · exact .inr ⟨q, hq, hsame⟩
          simp only [← hanswers.absolutePath_eq] at hagain
          exact (ih hagain).cons

end Analyzer

/-! ### Repeated headers -/

namespace Extractor

theorem isHeader_insert {front back : List Text} {again : Text} (h : again ∈ front)
    (a : Analyzer) : isHeader a (front ++ again :: back) = isHeader a (front ++ back) := by
  have hmem : ∀ p, (front ++ again :: back).contains p = (front ++ back).contains p := by
    intro p
    by_cases hp : p = again <;> simp [hp, h]
  funext file
  rw [isHeader, isHeader, hmem, hmem]

/-- A header that is listed again, spelled as before or otherwise, changes nothing. -/
theorem result_extract_insert {parser : Parser} {x : Extractor} {a : Analyzer} {front : List Text}
    {again h : Text} (hmem : h ∈ front) (hsame : a.absolutePath again = a.absolutePath h)
    (back : List Text) :
    (x.extract parser a (front ++ again :: back)).2.result =
      (x.extract parser a (front ++ back)).2.result := by
  have hheaders : isHeader a ((front ++ again :: back).map a.absolutePath) =
      isHeader a ((front ++ back).map a.absolutePath) := by
    rw [List.map_append, List.map_cons, List.map_append]
    exact isHeader_insert (hsame ▸ List.mem_map_of_mem hmem) a
  have hunits : Analyzer.GainsKnown [] (a.unitsOf parser (front ++ back))
      (a.unitsOf parser (front ++ again :: back)) :=
    Analyzer.gainsKnown_insert (.inr ⟨h, hmem, hsame⟩) back
  rw [result_extract_eq, result_extract_eq, hheaders]
  generalize a.unitsOf parser (front ++ back) = shorter at hunits ⊢
  generalize a.unitsOf parser (front ++ again :: back) = longer at hunits ⊢
  cases hunits with
  | failed => rfl
  | @read us vs u hu =>
      refine congrArg Except.ok ?_
      show Declarations.ofMentions _ = Declarations.ofMentions _
      rw [List.flatMap_append, List.flatMap_cons, ← List.append_assoc, List.flatMap_append]
      exact Declarations.ofMentions_insert (fun m hm => List.mem_flatMap.mpr ⟨u, hu, hm⟩) _

/-! ### Types of headers -/

/-- Where the units of headers can be read, the types are what the types mentioned in them amount
to. -/
theorem mergedFrom_extract (parser : Parser) (x : Extractor) {a : Analyzer} {headers : List Text}
    {units : List HeaderUnit} (hunits : a.unitsOf parser headers = .ok units) :
    ∃ ds, (x.extract parser a headers).2.result = .ok ds ∧
      MergedFrom (units.flatMap fun u =>
        typesMentionedIn (isHeader a (headers.map a.absolutePath)) u.cursors) ds.types := by
  have hresult := result_extract_eq parser x a headers
  rw [hunits] at hresult
  refine ⟨_, hresult, ?_⟩
  have hmerged := Mention.mergedFrom_types (units.flatMap fun u =>
    x.mentionsOfAll (isHeader a (headers.map a.absolutePath)) u.cursors)
  have hunit : ∀ u : HeaderUnit,
      (x.mentionsOfAll (isHeader a (headers.map a.absolutePath)) u.cursors).filterMap
        Mention.type? = typesMentionedIn (isHeader a (headers.map a.absolutePath)) u.cursors :=
    fun u => (filterMap_type?_mentionsOfAll u.cursors (by simp [AreBlocks])).symm
  simp only [List.filterMap_flatMap, hunit] at hmerged
  exact hmerged

/-- Extraction fails where reading fails, and in the same way. Otherwise its types are what the
mentions of types in the forests of the headers amount to, where the mentions are those of records
and of names for records at their places. A header that is listed once more, behind its first
place, changes neither types nor functions, nor a failure. A parser that answers by the path alone
lets any forests be read, and of the names that do not end in a line feed exactly the identifiers
are accepted. -/
theorem types_extract (parser : Parser) (x : Extractor) (a : Analyzer) (headers : List Text) :
    (∀ units, a.unitsOf parser headers = .ok units →
        ∃ ds, (x.extract parser a headers).2.result = .ok ds ∧
          MergedFrom (units.flatMap fun u =>
            typesMentionedIn (isHeader a (headers.map a.absolutePath)) u.cursors) ds.types) ∧
      (∀ e, a.unitsOf parser headers = .error e →
        (x.extract parser a headers).2.result = .error e) ∧
      (∀ wanted o t, mentionedType? wanted o = some t ↔ MentionsType wanted o t) ∧
      (∀ front back again h, headers = front ++ back → h ∈ front →
        a.absolutePath again = a.absolutePath h →
          (x.extract parser a (front ++ again :: back)).2.result =
            (x.extract parser a headers).2.result) ∧
      (∀ forest : Text → HeaderUnit, (∀ n r, parser n r = .parsed (forest r.path)) →
        (∀ u ∈ a.kept, u.2.content = forest u.1) →
          a.unitsOf parser headers = .ok (headers.map fun h => forest (a.absolutePath h))) ∧
      ∀ spelling : Text, spelling.getLast? ≠ some (.char '\n') →
        (Identifier.accepts spelling ↔ Identifier.isIdentifier spelling) := by
  refine ⟨fun units hunits => mergedFrom_extract parser x hunits, ?_,
    fun wanted o t => mentionedType?_eq_some, ?_, ?_, ?_⟩
  · intro e he
    rw [result_extract_eq, he]
    rfl
  · rintro front back again h rfl hmem hsame
    exact result_extract_insert hmem hsame back
  · exact fun forest hparser hkept => Analyzer.unitsOf_of_forest forest hparser hkept headers
  · intro spelling hlast
    rw [Identifier.accepts_eq hlast]

/-- Two types of which both headers know a part, in both orders. -/
theorem types_extract_listed_again :
    let info : Text → Text → Int → Bool → Option Bool → CursorKind → CursorInfo :=
      fun spelling file line defined record kind =>
        ⟨kind, spelling, some ⟨file, line, none⟩, defined, "", "", [], "", true, false, record⟩
    let declaring : HeaderUnit :=
      ⟨[.node (info "" "a.h" 1 false none .block)
          [.node (info "File" "a.h" 2 false none .record) []],
        .node (info "Handle" "a.h" 4 true (some false) .typedef) [],
        .node (info "(unnamed)" "a.h" 5 true none .record) []], []⟩
    let defining : HeaderUnit :=
      ⟨[.node (info "Handle" "/src/b.h" 1 true none .record) [],
        .node (info "File" "/src/b.h" 3 true (some true) .typedef) [],
        .node (info "Hidden" "c.h" 1 true none .record) []], []⟩
    let forest : Text → HeaderUnit := fun path => if path = "/src/a.h" then declaring else defining
    let parser : Parser := fun _ r => .parsed (forest r.path)
    let x : Extractor := ⟨"linux", true⟩
    let a : Analyzer := ⟨.ofText "/src", [], [], true, [], []⟩
    ∃ ds, (x.extract parser a ["a.h", "/src/a.h", "b.h"]).2.result = .ok ds ∧
      ds.types = [⟨"File", true, some (.at "a.h" 2 none)⟩,
        ⟨"Handle", true, some (.at "a.h" 4 none)⟩] := by
  intro info declaring defining forest parser x a
  obtain ⟨hread, -, -, hagain, hforest, -⟩ := types_extract parser x a ["a.h", "b.h"]
  obtain ⟨ds, hds, hmerged⟩ := hread _ (hforest forest (fun _ _ => rfl) (by simp [a]))
  have hsame := hagain ["a.h"] ["b.h"] "/src/a.h" "a.h" rfl (by simp) (by decide +kernel)
  refine ⟨ds, hsame.trans hds, hmerged.unique ?_⟩
  have hmentions : (([ofString "a.h", "b.h"].map fun h => forest (a.absolutePath h)).flatMap
      fun u => typesMentionedIn (isHeader a ([ofString "a.h", "b.h"].map a.absolutePath))
        u.cursors) =
      [⟨"File", false, some (.at "a.h" 2 none)⟩, ⟨"Handle", false, some (.at "a.h" 4 none)⟩,
        ⟨"Handle", true, some (.at "/src/b.h" 1 none)⟩,
        ⟨"File", true, some (.at "/src/b.h" 3 none)⟩] := by
    decide +kernel
  rw [hmentions]
  refine ⟨by decide, fun name => ?_, by decide, by decide, by decide⟩
  simp only [List.map_cons, List.map_nil, List.mem_cons, List.not_mem_nil, or_false]
  grind

end Extractor

end BindingNames
