import BindingNames.Proofs.RepeatedHeaders

/-!
The units that an analyzer keeps. Whatever it was asked before, it keeps for each absolute path the
unit of the last request for that file which the parser answered with one, and nothing else. So the
parser is asked exactly if that is forced or no earlier call gave a unit of the path, a call that
succeeds gives the last unit of the path, and one that fails takes nothing away. Texts that are
parsed under the name of a file have no influence.
-/

namespace BindingNames.Analyzer

variable {parser : Parser} {requests : List ParseRequest} {r r' : ParseRequest}
  {a b : Analyzer} {path p : Text} {force : Bool} {u v : NumberedUnit}

inductive Call where
  | file (path : Text) (force : Bool)
  | text (source file : Text)

/-- The analyzer after a call, and what the call gives. -/
def call (parser : Parser) (a : Analyzer) : Call → Analyzer × Except Failure NumberedUnit
  | .file path force => ((a.unitOf parser path force).1, (a.unitOf parser path force).2.result)
  | .text source file =>
    ((a.unitOfText parser source file).1, (a.unitOfText parser source file).2.result)

def after (parser : Parser) (a : Analyzer) (calls : List Call) : Analyzer :=
  calls.foldl (fun a c => (a.call parser c).1) a

/-- Whether one of some calls gives a unit of the file at an absolute path. -/
inductive GivesUnit (parser : Parser) (p : Text) : Analyzer → List Call → Prop where
  | here {a : Analyzer} {path : Text} {force : Bool} {rest : List Call} {u : NumberedUnit}
      (hpath : a.absolutePath path = p) (hgiven : (a.call parser (.file path force)).2 = .ok u) :
      GivesUnit parser p a (.file path force :: rest)
  | later {a : Analyzer} {c : Call} {rest : List Call}
      (h : GivesUnit parser p (a.call parser c).1 rest) : GivesUnit parser p a (c :: rest)

/-- Whether a unit is the answer of the parser to one of some requests. -/
def IsParsed (parser : Parser) (requests : List ParseRequest) (r : ParseRequest)
    (u : NumberedUnit) : Prop :=
  ∃ n, requests[n]? = some r ∧ parser n r = .parsed u.content ∧ u.number = n + 1

/-- The last unit that the parser gave for a request. -/
structure IsLastParsed (parser : Parser) (requests : List ParseRequest) (r : ParseRequest)
    (u : NumberedUnit) : Prop where
  parsed : IsParsed parser requests r u
  last : ∀ v, IsParsed parser requests r v → v.number ≤ u.number

/-! ### Answers of the parser -/

theorem isParsed_append_singleton :
    IsParsed parser (requests ++ [r']) r u ↔
      IsParsed parser requests r u ∨
        r' = r ∧ parser requests.length r = .parsed u.content ∧
          u.number = requests.length + 1 := by
  constructor
  · rintro ⟨n, hn, hparsed, hnumber⟩
    rcases Nat.lt_trichotomy n requests.length with hlt | rfl | hgt
    · rw [List.getElem?_append_left hlt] at hn
      exact .inl ⟨n, hn, hparsed, hnumber⟩
    · rw [List.getElem?_concat_length] at hn
      exact .inr ⟨Option.some.inj hn, hparsed, hnumber⟩
    · have hlt := (List.getElem?_eq_some_iff.mp hn).1
      rw [List.length_append, List.length_singleton] at hlt
      omega
  · rintro (⟨n, hn, hparsed, hnumber⟩ | ⟨rfl, hparsed, hnumber⟩)
    · have hlt := (List.getElem?_eq_some_iff.mp hn).1
      exact ⟨n, (List.getElem?_append_left hlt).trans hn, hparsed, hnumber⟩
    · exact ⟨requests.length, List.getElem?_concat_length, hparsed, hnumber⟩

theorem IsParsed.number_le (h : IsParsed parser requests r u) : u.number ≤ requests.length := by
  obtain ⟨n, hn, -, hnumber⟩ := h
  have hlt := (List.getElem?_eq_some_iff.mp hn).1
  omega

theorem IsParsed.eq_of_number_eq (h : IsParsed parser requests r u)
    (k : IsParsed parser requests r v) (hnumber : u.number = v.number) : u = v := by
  obtain ⟨n, -, hu, hn⟩ := h
  obtain ⟨m, -, hv, hm⟩ := k
  have hnm : n = m := by omega
  rw [hnm, hv] at hu
  cases u
  cases v
  cases hu
  cases hnumber
  rfl

theorem IsLastParsed.unique (h : IsLastParsed parser requests r u)
    (k : IsLastParsed parser requests r v) : u = v :=
  h.parsed.eq_of_number_eq k.parsed (Nat.le_antisymm (k.last u h.parsed) (h.last v k.parsed))

/-- A further request that is another one, or that is not answered with a unit, changes nothing. -/
theorem isLastParsed_append_of_not
    (h : ∀ content, r' = r → parser requests.length r ≠ .parsed content) :
    IsLastParsed parser (requests ++ [r']) r u ↔ IsLastParsed parser requests r u := by
  have hparsed : ∀ v, IsParsed parser (requests ++ [r']) r v ↔ IsParsed parser requests r v := by
    intro v
    rw [isParsed_append_singleton, or_iff_left]
    rintro ⟨hr, hv, -⟩
    exact h v.content hr hv
  constructor
  · rintro ⟨hu, hlast⟩
    exact ⟨(hparsed u).mp hu, fun v hv => hlast v ((hparsed v).mpr hv)⟩
  · rintro ⟨hu, hlast⟩
    exact ⟨(hparsed u).mpr hu, fun v hv => hlast v ((hparsed v).mp hv)⟩

theorem isLastParsed_append_of_parsed {content : HeaderUnit}
    (h : parser requests.length r = .parsed content) :
    IsLastParsed parser (requests ++ [r]) r u ↔ u = ⟨requests.length + 1, content⟩ := by
  have hnew : IsLastParsed parser (requests ++ [r]) r ⟨requests.length + 1, content⟩ := by
    refine ⟨isParsed_append_singleton.mpr (.inr ⟨rfl, h, rfl⟩), fun v hv => ?_⟩
    have hle := hv.number_le
    rwa [List.length_append, List.length_singleton] at hle
  constructor
  · exact fun hu => hu.unique hnew
  · rintro rfl
    exact hnew

/-! ### One call -/

/-- What is kept for each path is the last unit of the path. -/
def KeepsLast (parser : Parser) (a : Analyzer) : Prop :=
  ∀ p u, a.kept.lookup p = some u ↔ IsLastParsed parser a.requests (a.fileRequest p) u

theorem fileRequest_ne_of_ne {p q : Text} (h : p ≠ q) (a : Analyzer) :
    a.fileRequest p ≠ a.fileRequest q := by
  intro heq
  exact h (congrArg ParseRequest.path heq)

theorem textRequest_ne_fileRequest (a : Analyzer) (source file p : Text) :
    a.textRequest source file ≠ a.fileRequest p := by
  intro heq
  exact List.cons_ne_nil _ _ (congrArg ParseRequest.unsaved heq)

theorem KeepsLast.of_answers {result : Except Failure NumberedUnit} (hkeeps : a.KeepsLast parser)
    (h : Answers parser a path force b result) : b.KeepsLast parser := by
  intro p u
  cases h with
  | kept => exact hkeeps p u
  | read hneeded hparsed =>
      by_cases hp : p = a.absolutePath path
      · subst hp
        rw [lookup_keep_self, Option.some_inj, eq_comm]
        exact (isLastParsed_append_of_parsed hparsed).symm
      · rw [lookup_keep_of_ne hp]
        refine (hkeeps p u).trans (isLastParsed_append_of_not fun content heq => ?_).symm
        exact absurd heq.symm (a.fileRequest_ne_of_ne hp)
  | unread hneeded hparsed =>
      refine (hkeeps p u).trans (isLastParsed_append_of_not fun content heq => ?_).symm
      rw [← heq]
      exact hparsed content

theorem fst_unitOfText (parser : Parser) (a : Analyzer) (source file : Text) :
    (a.unitOfText parser source file).1 = a.noted (a.textRequest source file) := by
  simp only [unitOfText]
  split <;> rfl

theorem KeepsLast.call (hkeeps : a.KeepsLast parser) (c : Call) :
    (a.call parser c).1.KeepsLast parser := by
  cases c with
  | file path force => exact hkeeps.of_answers (answers_unitOf parser a path force)
  | text source file =>
      intro p u
      rw [Analyzer.call, fst_unitOfText]
      refine (hkeeps p u).trans (isLastParsed_append_of_not fun content heq => ?_).symm
      exact absurd heq (a.textRequest_ne_fileRequest source file p)

/-- A call changes nothing but what is kept and what was asked. -/
theorem call_eq (parser : Parser) (a : Analyzer) (c : Call) :
    (a.call parser c).1 =
      { a with kept := (a.call parser c).1.kept, requests := (a.call parser c).1.requests } := by
  cases c with
  | file path force =>
      have hanswers := answers_unitOf parser a path force
      rw [call]
      generalize (a.unitOf parser path force).1 = b,
        (a.unitOf parser path force).2.result = result at hanswers ⊢
      cases hanswers <;> rfl
  | text source file =>
      rw [call, fst_unitOfText]
      rfl

/-- A unit is kept behind a call if it was before, or the call gives one. -/
theorem Answers.exists_lookup_iff {result : Except Failure NumberedUnit}
    (h : Answers parser a path force b result) (p : Text) :
    (∃ u, b.kept.lookup p = some u) ↔
      (∃ u, a.kept.lookup p = some u) ∨ a.absolutePath path = p ∧ ∃ u, result = .ok u := by
  cases h with
  | @kept u hforce hkept =>
      refine ⟨.inl, ?_⟩
      rintro (hp | ⟨rfl, -⟩)
      · exact hp
      · exact ⟨u, hkept⟩
  | read hneeded hparsed =>
      by_cases hp : p = a.absolutePath path
      · subst hp
        exact ⟨fun _ => .inr ⟨rfl, _, rfl⟩, fun _ => ⟨_, lookup_keep_self _ _ _⟩⟩
      · rw [lookup_keep_of_ne hp]
        exact ⟨.inl, fun hor => hor.resolve_right fun hpath => hp hpath.1.symm⟩
  | unread hneeded hparsed =>
      refine ⟨.inl, fun hor => hor.resolve_right ?_⟩
      rintro ⟨-, u, hu⟩
      contradiction

/-! ### Any number of calls -/

theorem after_eq (parser : Parser) (a : Analyzer) (calls : List Call) :
    a.after parser calls =
      { a with
        kept := (a.after parser calls).kept, requests := (a.after parser calls).requests } := by
  induction calls generalizing a with
  | nil => rfl
  | cons c rest ih =>
      change (a.call parser c).1.after parser rest =
        { a with
          kept := ((a.call parser c).1.after parser rest).kept
          requests := ((a.call parser c).1.after parser rest).requests }
      rw [ih, call_eq]

theorem KeepsLast.after (hkeeps : a.KeepsLast parser) (calls : List Call) :
    (a.after parser calls).KeepsLast parser := by
  induction calls generalizing a with
  | nil => exact hkeeps
  | cons c rest ih => exact ih (hkeeps.call c)

theorem givesUnit_cons_file_iff {rest : List Call} :
    GivesUnit parser p a (.file path force :: rest) ↔
      (a.absolutePath path = p ∧ ∃ u, (a.call parser (.file path force)).2 = .ok u) ∨
        GivesUnit parser p (a.call parser (.file path force)).1 rest := by
  constructor
  · rintro (⟨hpath, hgiven⟩ | h)
    · exact .inl ⟨hpath, _, hgiven⟩
    · exact .inr h
  · rintro (⟨hpath, u, hgiven⟩ | h)
    · exact .here hpath hgiven
    · exact .later h

theorem givesUnit_cons_text_iff {source file : Text} {rest : List Call} :
    GivesUnit parser p a (.text source file :: rest) ↔
      GivesUnit parser p (a.call parser (.text source file)).1 rest := by
  constructor
  · rintro ⟨⟩
    assumption
  · exact .later

/-- A unit of a path is kept after some calls if one was before, or if a call gave one. -/
theorem exists_lookup_after_iff (a : Analyzer) (calls : List Call) :
    (∃ u, (a.after parser calls).kept.lookup p = some u) ↔
      (∃ u, a.kept.lookup p = some u) ∨ GivesUnit parser p a calls := by
  induction calls generalizing a with
  | nil =>
      refine ⟨.inl, fun h => h.resolve_right ?_⟩
      rintro ⟨⟩
  | cons c rest ih =>
      refine (ih (a.call parser c).1).trans ?_
      cases c with
      | file path force =>
          rw [givesUnit_cons_file_iff, ← or_assoc]
          exact or_congr_left ((answers_unitOf parser a path force).exists_lookup_iff p)
      | text source file =>
          rw [givesUnit_cons_text_iff, call, fst_unitOfText]
          rfl

/-! ### A call behind any others -/

theorem unitOf_of_needed (h : force = true ∨ a.kept.lookup (a.absolutePath path) = none) :
    a.unitOf parser path force = a.parseFile parser (a.absolutePath path) := by
  rw [unitOf]
  cases hkept : a.kept.lookup (a.absolutePath path) with
  | none => rfl
  | some u => rw [h.resolve_right (by simp [hkept])]; rfl

theorem requests_parseFile (parser : Parser) (a : Analyzer) (p : Text) :
    (a.parseFile parser p).1.requests = a.requests ++ [a.fileRequest p] := by
  simp only [parseFile]
  split <;> rfl

theorem requests_unitOf_of_needed (parser : Parser)
    (h : force = true ∨ a.kept.lookup (a.absolutePath path) = none) :
    (a.unitOf parser path force).1.requests =
      a.requests ++ [a.fileRequest (a.absolutePath path)] := by
  rw [unitOf_of_needed h, requests_parseFile]

theorem requests_unitOf_iff (parser : Parser) (a : Analyzer) (path : Text) (force : Bool) :
    (a.unitOf parser path force).1.requests = a.requests ++ [a.fileRequest (a.absolutePath path)] ↔
      force = true ∨ a.kept.lookup (a.absolutePath path) = none := by
  refine ⟨fun h => ?_, requests_unitOf_of_needed parser⟩
  cases force with
  | true => exact .inl rfl
  | false =>
      cases hkept : a.kept.lookup (a.absolutePath path) with
      | none => exact .inr rfl
      | some u =>
          -- an analyzer that did not change has asked nothing more
          rw [unitOf_kept parser hkept] at h
          simp at h

/-- What the outcome of a parse makes of a call: a unit is given, under the number of the request,
or the call fails, and what was kept before stays. -/
def Settles (a b : Analyzer) (p : Text) (result : Except Failure NumberedUnit) :
    ParseOutcome → Prop
  | .parsed content => result = .ok ⟨a.requests.length + 1, content⟩
  | .nothing => result = .error (.unitUnread p "returned None") ∧ b.kept = a.kept
  | .failed reason => result = .error (.unitUnread p reason) ∧ b.kept = a.kept

theorem settles_parseFile (parser : Parser) (a : Analyzer) (p : Text) :
    Settles a (a.parseFile parser p).1 p (a.parseFile parser p).2.result
      (parser a.requests.length (a.fileRequest p)) := by
  cases h : parser a.requests.length (a.fileRequest p) with
  | parsed content => simp [Settles, parseFile, h, noted]
  | nothing => simp [Settles, parseFile, h, noted, Logged.fail]
  | failed reason => simp [Settles, parseFile, h, noted, Logged.fail]

theorem settles_unitOf_of_needed (parser : Parser)
    (h : force = true ∨ a.kept.lookup (a.absolutePath path) = none) :
    Settles a (a.unitOf parser path force).1 (a.absolutePath path)
      (a.unitOf parser path force).2.result
      (parser a.requests.length (a.fileRequest (a.absolutePath path))) := by
  rw [unitOf_of_needed h]
  exact settles_parseFile parser a _

theorem Answers.kept_of_error {e : Failure} (h : Answers parser a path force b (.error e)) :
    b.kept = a.kept := by
  cases h
  rfl

theorem Answers.fileRequest_eq {result : Except Failure NumberedUnit}
    (h : Answers parser a path force b result) (p : Text) :
    b.fileRequest p = a.fileRequest p := by
  cases h <;> rfl

theorem KeepsLast.isLastParsed_of_answers (hkeeps : a.KeepsLast parser)
    (h : Answers parser a path force b (.ok u)) :
    IsLastParsed parser b.requests (a.fileRequest (a.absolutePath path)) u := by
  rw [← h.fileRequest_eq]
  exact (hkeeps.of_answers h _ _).mp h.lookup_self

/-- A call that fails takes no unit away, and without one the parser is asked again. -/
theorem KeepsLast.unitOf_of_error {e : Failure} (hkeeps : a.KeepsLast parser)
    (h : Answers parser a path force b (.error e)) (again : Text) :
    (∀ u, IsLastParsed parser a.requests (a.fileRequest (a.absolutePath again)) u →
      b.unitOf parser again false = (b, pure u)) ∧
    (a.kept.lookup (a.absolutePath again) = none →
      (b.unitOf parser again false).1.requests =
        b.requests ++ [a.fileRequest (a.absolutePath again)]) := by
  have hkept : b.kept.lookup (b.absolutePath again) = a.kept.lookup (a.absolutePath again) := by
    rw [h.absolutePath_eq, h.kept_of_error]
  constructor
  · intro u hu
    exact unitOf_kept parser (hkept.trans ((hkeeps _ u).mpr hu))
  · intro hnone
    rw [requests_unitOf_of_needed parser (.inr (hkept.trans hnone)), h.absolutePath_eq,
      h.fileRequest_eq]

/-- What a new analyzer keeps after some calls. -/
theorem keepsLast_after_start {cwd : Path} {includePaths additionalArgs : List Value}
    {cplusplus : Bool} {fresh : Analyzer}
    (hfresh : (start cwd includePaths additionalArgs cplusplus).result = .ok fresh)
    (parser : Parser) (calls : List Call) :
    (fresh.after parser calls).KeepsLast parser ∧
      ∀ p, (∃ u, (fresh.after parser calls).kept.lookup p = some u) ↔
        GivesUnit parser p fresh calls := by
  obtain rfl := Except.ok.inj hfresh
  constructor
  · refine KeepsLast.after (fun p u => ⟨fun h => ?_, fun h => ?_⟩) calls
    · contradiction
    · obtain ⟨n, hn, -⟩ := h.parsed
      contradiction
  · intro p
    rw [exists_lookup_after_iff, or_iff_right]
    rintro ⟨u, hu⟩
    contradiction

/-- The parser is asked for the unit of a file exactly if that is forced or no earlier call gave a
unit of the absolute path; otherwise the call has no effect and still gives a unit. A call that
gives a unit gives the last one of the path. If the parser answers with none, the call fails, and a
call behind it that is not forced gives the last unit before it, or asks again if there is none. -/
theorem unitOf_after {cwd : Path} {includePaths additionalArgs : List Value} {cplusplus : Bool}
    {fresh : Analyzer}
    (hfresh : (start cwd includePaths additionalArgs cplusplus).result = .ok fresh)
    (parser : Parser) (calls : List Call) (path : Text) (force : Bool) :
    let a := fresh.after parser calls
    let p := fresh.absolutePath path
    let r := fresh.fileRequest p
    let b := (a.unitOf parser path force).1
    let result := (a.unitOf parser path force).2.result
    (b.requests = a.requests ++ [r] ↔ force = true ∨ ¬ GivesUnit parser p fresh calls) ∧
    (force = false → GivesUnit parser p fresh calls → b = a ∧ ∃ u, result = .ok u) ∧
    (force = true ∨ ¬ GivesUnit parser p fresh calls →
      Settles a b p result (parser a.requests.length r)) ∧
    (∀ u, result = .ok u → IsLastParsed parser b.requests r u) ∧
    (∀ e, result = .error e → ∀ again, fresh.absolutePath again = p →
      (∀ u, IsLastParsed parser a.requests r u → b.unitOf parser again false = (b, pure u)) ∧
      (¬ GivesUnit parser p fresh calls →
        (b.unitOf parser again false).1.requests = b.requests ++ [r])) := by
  intro a p r b result
  obtain ⟨hkeeps, hgives⟩ := keepsLast_after_start hfresh parser calls
  have hafter : a = { fresh with kept := a.kept, requests := a.requests } :=
    after_eq parser fresh calls
  have hpath : ∀ q, a.absolutePath q = fresh.absolutePath q := by
    intro q
    rw [hafter]
    rfl
  have hrequest : ∀ q, a.fileRequest q = fresh.fileRequest q := by
    intro q
    rw [hafter]
    rfl
  have hnone : ¬ GivesUnit parser p fresh calls ↔ a.kept.lookup p = none := by
    rw [← hgives p, Option.eq_none_iff_forall_ne_some, not_exists]
  have hanswers : Answers parser a path force b result := answers_unitOf parser a path force
  refine ⟨?_, ?_, fun h => ?_, ?_, ?_⟩
  · have hasked := requests_unitOf_iff parser a path force
    rwa [hpath, hrequest, ← hnone] at hasked
  · rintro rfl hp
    obtain ⟨u, hu⟩ := (hgives p).mpr hp
    have hkept : a.kept.lookup (a.absolutePath path) = some u := by rwa [hpath]
    have hunit := unitOf_kept parser hkept
    exact ⟨congrArg Prod.fst hunit, u, congrArg (fun x => x.2.result) hunit⟩
  · have hneeded : force = true ∨ a.kept.lookup (a.absolutePath path) = none := by
      rwa [hpath, ← hnone]
    have hsettles := settles_unitOf_of_needed parser hneeded
    rwa [hpath, hrequest] at hsettles
  · intro u hu
    rw [hu] at hanswers
    have hlast := hkeeps.isLastParsed_of_answers hanswers
    rwa [hpath, hrequest] at hlast
  · intro e he again hagain
    rw [he] at hanswers
    have herror := hkeeps.unitOf_of_error hanswers again
    rwa [hpath, hagain, hrequest, ← hnone] at herror

/-- The first parse of a file fails and the last one, which is forced, gives nothing; the unit in
between is still kept, under any spelling of the path. -/
theorem unitOf_after_failures :
    let content : HeaderUnit := ⟨[], [⟨3, "unknown type"⟩]⟩
    let parser : Parser := fun n _ =>
      if n = 0 then .failed "no file" else if n = 2 then .nothing else .parsed content
    let calls : List Call := [.file "a.h" false, .file "sub/../a.h" false, .file "/src/a.h" true]
    let fresh : Analyzer := ⟨.ofText "/src", [], [], false, [], []⟩
    let a := fresh.after parser calls
    (start (.ofText "/src") [] [] false).result = .ok fresh ∧ a.requests.length = 3 ∧
      (a.unitOf parser "./a.h" false).1 = a ∧
        (a.unitOf parser "./a.h" false).2.result = .ok ⟨2, content⟩ := by
  intro content parser calls fresh
  dsimp only
  have hfresh : (start (.ofText "/src") [] [] false).result = .ok fresh := rfl
  obtain ⟨-, hsame, -, hlast, -⟩ := unitOf_after hfresh parser calls "./a.h" false
  have hgives : GivesUnit parser (fresh.absolutePath "./a.h") fresh calls := .later (.here rfl rfl)
  obtain ⟨hb, u, hu⟩ := hsame rfl hgives
  refine ⟨hfresh, by decide +kernel, hb, hu.trans (congrArg _ ?_)⟩
  have hlast := hlast u hu
  rw [hb] at hlast
  have hsecond : IsLastParsed parser (fresh.after parser calls).requests
      (fresh.fileRequest (fresh.absolutePath "./a.h")) ⟨2, content⟩ := by
    refine ⟨⟨1, rfl, rfl, rfl⟩, ?_⟩
    rintro v ⟨n, hn, hparsed, hnumber⟩
    have hlt : n < 3 := (List.getElem?_eq_some_iff.mp hn).1
    have hne : n ≠ 2 := by
      rintro rfl
      simp [parser] at hparsed
    show v.number ≤ 2
    omega
  exact hlast.unique hsecond

end BindingNames.Analyzer
