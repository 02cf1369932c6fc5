import BindingNames.Proofs.Outcomes
import BindingNames.Rules.Separated

/-!
Tables of separated values as they are written. A field is written in quotes, where a quote is
doubled, or as it is if it has nothing in it that means something else. Lines of one width that are
written so, each of them ended but perhaps the last, are read as they are, unless one of them could
be taken for a line with nothing in it.
-/

namespace BindingNames.Separated

/-! ### Writing -/

/-- Whether a character can stand in a field without quotes. -/
def isBare (c : Code) : Bool :=
  c != ',' && c != '"' && c != '\n' && c != '\r'

/-- A field and how it may be written. -/
inductive WritesField : Text → Text → Prop where
  | bare {s : Text} (h : ∀ c ∈ s, isBare c) : WritesField s s
  | quoted (s : Text) : WritesField s (quotedField s)

/-- The fields of a line, with commas between them. -/
inductive WritesLine : List Text → Text → Prop where
  | last {s w : Text} (h : WritesField s w) : WritesLine [s] w
  | cons {s w line : Text} {fields : List Text} (h : WritesField s w)
      (hrest : WritesLine fields line) : WritesLine (s :: fields) (w ++ .char ',' :: line)

/-- What stands behind the fields of a line, and what of it is left for the next ones. -/
inductive EndsLine : Text → Text → Prop where
  | feed (rest : Text) : EndsLine (.char '\n' :: rest) rest
  | returnFeed (rest : Text) : EndsLine (.char '\r' :: .char '\n' :: rest) rest
  | nothing : EndsLine [] []

inductive Writes : List (List Text) → Text → Prop where
  | nil : Writes [] []
  | cons {fields : List Text} {lines : List (List Text)} {line behind text : Text}
      (h : WritesLine fields line) (hend : EndsLine behind text) (hrest : Writes lines text) :
      Writes (fields :: lines) (line ++ behind)

/-- The line cannot be taken for one with nothing in it: it has a comma, and no blank before. -/
def IsSolid (fields : List Text) : Prop :=
  2 ≤ fields.length ∧ ∀ c, (fields.headD []).head? = some c → isPlainBlank c = false

/-! ### Fields -/

def between (fields : List Text) (lines : List (List Text)) (line : Nat) : State :=
  ⟨.fieldStart, [], fields, lines, line⟩

/-- Where the reader can stand behind a field. -/
def IsFieldEnd (p : Position) : Prop :=
  p ≠ .inQuotes ∧ p ≠ .afterReturn

variable {s : State} {v w rest line : Text} {fields : List Text} {lines : List (List Text)}
  {n : Nat}

theorem readLine_cons_of_isBare {c : Code} (hc : isBare c) (hs : IsFieldEnd s.position) :
    readLine s (c :: rest) = readLine { s.push c with position := .plain } rest := by
  simp only [isBare, Bool.and_eq_true, bne_iff_ne, ne_eq] at hc
  obtain ⟨⟨⟨hcomma, hquote⟩, hfeed⟩, hreturn⟩ := hc
  simp [readLine, hs.1, hs.2, hcomma, hquote, hfeed, hreturn]

theorem readLine_comma (hs : IsFieldEnd s.position) :
    readLine s (.char ',' :: rest) = readLine s.endField rest := by
  simp [readLine, hs.1, hs.2]

/-- A field without quotes is read character by character. -/
theorem readLine_bare (hv : ∀ c ∈ v, isBare c) (hs : IsFieldEnd s.position) (rest : Text) :
    ∃ p, IsFieldEnd p ∧ readLine s (v ++ rest) =
      readLine { s with position := p, field := v.reverse ++ s.field } rest := by
  induction v generalizing s with
  | nil => exact ⟨s.position, hs, rfl⟩
  | cons c v ih =>
      obtain ⟨hc, hv⟩ := List.forall_mem_cons.mp hv
      have hplain : IsFieldEnd .plain := ⟨nofun, nofun⟩
      obtain ⟨p, hp, hread⟩ := ih (s := { s.push c with position := .plain }) hv hplain
      refine ⟨p, hp, ?_⟩
      rw [List.cons_append, readLine_cons_of_isBare hc hs, hread, List.reverse_cons,
        List.append_assoc]
      rfl

def escaped (c : Code) : Text :=
  if c == '"' then "\"\"" else [c]

theorem quotedField_eq (v : Text) :
    quotedField v = .char '"' :: (v.flatMap escaped ++ [.char '"']) := rfl

theorem readLine_escaped (c : Code) (hs : s.position = .inQuotes) :
    readLine s (escaped c ++ rest) = readLine (s.push c) rest := by
  by_cases hc : c = .char '"'
  · subst hc
    have htwo : escaped (.char '"') = [.char '"', .char '"'] := rfl
    simp [htwo, readLine, hs, State.push]
  · simp [escaped, hc, readLine, hs]

/-- In quotes every character belongs to the field. -/
theorem readLine_flatMap_escaped (hs : s.position = .inQuotes) :
    readLine s (v.flatMap escaped ++ .char '"' :: rest) =
      readLine { s with position := .afterQuote, field := v.reverse ++ s.field } rest := by
  induction v generalizing s with
  | nil => simp [readLine, hs]
  | cons c v ih =>
      have hpushed : (s.push c).position = .inQuotes := hs
      rw [List.flatMap_cons, List.append_assoc, readLine_escaped c hs, ih hpushed,
        List.reverse_cons, List.append_assoc]
      rfl

/-- A field is read whichever way it is written. -/
theorem readLine_field (hw : WritesField v w) (fields : List Text) (lines : List (List Text))
    (n : Nat) (rest : Text) :
    ∃ p, IsFieldEnd p ∧ readLine (between fields lines n) (w ++ rest) =
      readLine ⟨p, v.reverse, fields, lines, n⟩ rest := by
  have hstart : IsFieldEnd (between fields lines n).position := ⟨nofun, nofun⟩
  cases hw with
  | bare h =>
      obtain ⟨p, hp, hread⟩ := readLine_bare h hstart rest
      refine ⟨p, hp, hread.trans ?_⟩
      rw [between, List.append_nil]
  | quoted =>
      have hopen (tail : Text) : readLine (between fields lines n) (.char '"' :: tail) =
          readLine ⟨.inQuotes, [], fields, lines, n⟩ tail := by
        simp [readLine, between]
      refine ⟨.afterQuote, ⟨nofun, nofun⟩, ?_⟩
      rw [quotedField_eq, List.cons_append, List.append_assoc, List.singleton_append, hopen,
        readLine_flatMap_escaped rfl, List.append_nil]

/-! ### Lines -/

theorem endField_eq (p : Position) :
    State.endField ⟨p, v.reverse, fields, lines, n⟩ = between (v :: fields) lines n := by
  simp [State.endField, between]

theorem readLine_ending {p : Position} (hp : IsFieldEnd p) {behind after : Text}
    (h : EndsLine behind after) : readLine ⟨p, v.reverse, fields, lines, n⟩ behind =
      (do return (← (between (v :: fields) lines n).endLine, after)) := by
  cases h with
  | feed => simp [readLine, hp.1, hp.2, endField_eq]
  | returnFeed =>
      -- the line ends at the same state, whether the reader stands behind the return or not
      have hend : State.endLine ⟨.afterReturn, [], v :: fields, lines, n⟩ =
          (between (v :: fields) lines n).endLine := rfl
      rw [← hend]
      simp [readLine, hp.1, hp.2, endField_eq, between]
  | nothing =>
      have hclose : State.close ⟨p, v.reverse, fields, lines, n⟩ =
          (between (v :: fields) lines n).endLine := by
        rw [← endField_eq p]
        cases p with
        | inQuotes => exact absurd rfl hp.1
        | afterReturn => exact absurd rfl hp.2
        | _ => rfl
      rw [readLine, hclose]

/-- The fields of a line are read one after the other. -/
theorem readLine_line {done : List Text} (h : WritesLine fields line) {behind after : Text}
    (hend : EndsLine behind after) : readLine (between done lines n) (line ++ behind) =
      (do return (← (between (fields.reverse ++ done) lines n).endLine, after)) := by
  induction h generalizing done with
  | last hw =>
      obtain ⟨p, hp, hread⟩ := readLine_field hw done lines n behind
      rw [hread, readLine_ending hp hend]
      rfl
  | @cons s w line fields hw _ ih =>
      rw [List.append_assoc, List.cons_append]
      obtain ⟨p, hp, hread⟩ := readLine_field hw done lines n (.char ',' :: (line ++ behind))
      rw [hread, readLine_comma hp, endField_eq, ih, List.reverse_cons, List.append_assoc]
      rfl

/-- A line as wide as those before it is taken as it is. -/
theorem endLine_between {width : Nat} (hfields : fields.length = width)
    (hlines : ∀ l ∈ lines, l.length = width) :
    (between fields.reverse lines n).endLine = .ok (between [] (fields :: lines) (n + 1)) := by
  have hleast : (between fields.reverse lines n).leastWidth -
      (between fields.reverse lines n).fields.length = 0 := by
    cases lines with
    | nil => simp [State.leastWidth, between]
    | cons l lines => simp [State.leastWidth, between, hfields, hlines l List.mem_cons_self]
  have hfinish : (between fields.reverse lines n).finishLine =
      between [] (fields :: lines) (n + 1) := by
    show between [] ((fields.reverse.reverse ++ List.replicate _ []) :: lines) (n + 1) = _
    rw [hleast, List.reverse_reverse, List.replicate_zero, List.append_nil]
  rw [State.endLine, hfinish]
  split
  · rename_i limit hlimit
    have hwidth : limit = width := by
      match lines, hlines, hlimit with
      | l :: _ :: _, hlines, hlimit =>
          rw [← hlines l List.mem_cons_self]
          exact (Option.some.inj hlimit).symm
    rw [if_neg]
    · rfl
    · show ¬ limit < fields.reverse.length
      simp [hwidth, hfields]
  · rfl

/-! ### Tables -/

/-- A line begins with a quote, with a comma or as its first field. -/
theorem exists_cons_of_writesLine (h : WritesLine fields line) (hwidth : 2 ≤ fields.length) :
    ∃ c cs, line = c :: cs ∧
      (c = .char '"' ∨ c = .char ',' ∨ isBare c ∧ (fields.headD []).head? = some c) := by
  cases h with
  | last h => exact absurd hwidth (by simp)
  | @cons s w line fields h hrest =>
      cases h with
      | bare hs =>
          cases s with
          | nil => exact ⟨_, _, rfl, .inr (.inl rfl)⟩
          | cons c s => exact ⟨c, _, rfl, .inr (.inr ⟨hs c List.mem_cons_self, rfl⟩)⟩
      | quoted => exact ⟨_, _, rfl, .inl rfl⟩

theorem nextLine_of_isSolid (h : WritesLine fields line) (hsolid : IsSolid fields) (behind : Text) :
    ∃ c cs, line ++ behind = c :: cs ∧
      nextLine (c :: cs) n .lineEnd (c :: cs) = (n, some (c :: cs)) := by
  obtain ⟨c, cs, rfl, hc⟩ := exists_cons_of_writesLine h hsolid.1
  refine ⟨c, cs ++ behind, rfl, ?_⟩
  rcases hc with rfl | rfl | ⟨hbare, hhead⟩
  · simp [nextLine, isPlainBlank]
  · simp [nextLine, isPlainBlank]
  · simp only [isBare, Bool.and_eq_true, bne_iff_ne, ne_eq] at hbare
    simp [nextLine, hbare, hsolid.2 c hhead]

/-- The lines of a table are read one after the other. -/
theorem readLines_of_writes {width fuel : Nat} {text : Text} {done : List (List Text)}
    (h : Writes lines text) (hfuel : lines.length < fuel) (hlines : ∀ l ∈ lines, l.length = width)
    (hsolid : ∀ l ∈ lines, IsSolid l) (hdone : ∀ l ∈ done, l.length = width) :
    ∃ m, readLines fuel (between [] done n) text = .ok (between [] (lines.reverse ++ done) m) := by
  induction h generalizing fuel done n with
  | nil =>
      refine ⟨n, ?_⟩
      cases fuel with
      | zero => contradiction
      | succ fuel => rfl
  | @cons fields lines line behind text h hend hrest ih =>
      obtain ⟨hfields, hlines⟩ := List.forall_mem_cons.mp hlines
      obtain ⟨hsolidLine, hsolid⟩ := List.forall_mem_cons.mp hsolid
      cases fuel with
      | zero => contradiction
      | succ fuel =>
          obtain ⟨c, cs, htext, hnext⟩ := nextLine_of_isSolid (n := n) h hsolidLine behind
          have hread : readLine (between [] done n) (line ++ behind) =
              .ok (between [] (fields :: done) (n + 1), text) := by
            rw [readLine_line h hend, List.append_nil, endLine_between hfields hdone]
            rfl
          obtain ⟨m, hm⟩ := ih (n := n + 1) (Nat.lt_of_succ_lt_succ hfuel) hlines hsolid
            (List.forall_mem_cons.mpr ⟨hfields, hdone⟩)
          refine ⟨m, ?_⟩
          rw [htext] at hread ⊢
          have hstep : readLines (fuel + 1) (between [] done n) (c :: cs) =
              readLine (between [] done n) (c :: cs) >>= fun r => readLines fuel r.1 r.2 := by
            rw [readLines, show (between [] done n).line = n from rfl, hnext]
            rfl
          rw [hstep, hread, ok_bind, hm, List.reverse_cons, List.append_assoc]
          rfl

/-- A table has no more lines than characters. -/
theorem length_le_of_writes {text : Text} (h : Writes lines text)
    (hsolid : ∀ l ∈ lines, IsSolid l) : lines.length ≤ text.length := by
  induction h with
  | nil => exact Nat.le_refl 0
  | @cons fields lines line behind text h hend _ ih =>
      obtain ⟨hsolidLine, hsolid⟩ := List.forall_mem_cons.mp hsolid
      obtain ⟨c, cs, rfl, -⟩ := exists_cons_of_writesLine h hsolidLine.1
      have hbehind : text.length ≤ behind.length := by
        cases hend with
        | feed => exact Nat.le_succ _
        | returnFeed => exact Nat.le_add_right _ 2
        | nothing => exact Nat.le_refl 0
      have hrest := ih hsolid
      simp only [List.length_cons, List.length_append]
      omega

/-- The table with every field in quotes is one of the ways to write it. -/
theorem writes_render (h : ∀ l ∈ lines, l ≠ []) : Writes lines (render lines) := by
  have hline {fields : List Text} (hfields : fields ≠ []) :
      WritesLine fields (Text.joinWith "," (fields.map quotedField)) := by
    induction fields with
    | nil => contradiction
    | cons s fields ih =>
        cases fields with
        | nil => exact .last (.quoted s)
        | cons t fields =>
            show WritesLine _ (quotedField s ++ [.char ','] ++ Text.joinWith "," _)
            rw [List.append_assoc]
            exact .cons (.quoted s) (ih (by simp))
  induction lines with
  | nil => exact .nil
  | cons fields lines ih =>
      obtain ⟨hfields, hlines⟩ := List.forall_mem_cons.mp h
      show Writes _ ((Text.joinWith "," (fields.map quotedField) ++ [.char '\n']) ++ render lines)
      rw [List.append_assoc]
      exact .cons (hline hfields) (.feed _) (ih hlines)

/-- A table is read as it is written. -/
theorem read_of_writes {width : Nat} {text : Text} (h : Writes lines text)
    (hlines : ∀ l ∈ lines, l.length = width) (hsolid : ∀ l ∈ lines, IsSolid l)
    (hmark : dropMark text = text) : read text = .ok lines := by
  have hfuel : lines.length < text.length + 1 := Nat.lt_succ_of_le (length_le_of_writes h hsolid)
  obtain ⟨m, hm⟩ := readLines_of_writes (n := 1) h hfuel hlines hsolid (List.forall_mem_nil _)
  simp only [read, hmark]
  rw [show State.start = between [] [] 1 from rfl, hm, List.append_nil]
  exact congrArg Except.ok (List.reverse_reverse lines)

end BindingNames.Separated
