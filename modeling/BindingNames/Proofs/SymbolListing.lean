import BindingNames.Library.Exports
import BindingNames.Proofs.TextOrder
import BindingNames.Proofs.TextPieces
import Mathlib.Data.List.Forall2

/-!
How a listing of the symbols of a library is read. Its lines are blank, head a part of an archive,
mention a symbol that is undefined, or show a symbol with its address and a code of one character.
There may be blanks around what a line says. From such lines exactly the symbols are read that have
a line with the code of an exported symbol, in strict order. It does not matter in which order the
lines come and how often each of them does.
-/

namespace BindingNames.Library

open Text

structure Column where
  text : Text
  ne_nil : text ≠ []
  solid : ∀ c ∈ text, isBlank c = false

structure Gap where
  text : Text
  ne_nil : text ≠ []
  blank : ∀ c ∈ text, isBlank c
  inLine : ∀ c ∈ text, isLineEnd c = false

/-- A text is columns with gaps between them. -/
inductive Columns : List Column → Text → Prop where
  | last (column : Column) : Columns [column] column.text
  | cons (column : Column) (gap : Gap) {columns : List Column} {text : Text}
      (h : Columns columns text) : Columns (column :: columns) (column.text ++ gap.text ++ text)

/-- A symbol with its address and its code. If the symbol ended in a colon, the line would be a
heading. -/
structure SymbolRow where
  address : Column
  code : Code
  symbol : Column
  isAscii : code.toNat < 128
  solid : isBlank code = false
  noHeading : symbol.text.getLast? ≠ some (.char ':')

/-- What a line of a listing says. A heading is a name with a colon behind it. -/
inductive Row where
  | blank
  | heading (name : Text) (inLine : ∀ c ∈ name, isLineEnd c = false)
  | undefined (address : Option Column) (symbol : Column)
  | symbol (row : SymbolRow)

def Column.single (c : Code) (h : isBlank c = false) : Column :=
  ⟨[c], List.cons_ne_nil c [], by simpa using h⟩

def undefinedColumn : Column :=
  .single undefinedCode (by decide)

namespace SymbolRow

def codeColumn (r : SymbolRow) : Column :=
  .single r.code r.solid

def IsExported (r : SymbolRow) : Prop :=
  r.code.isUpper ∧ r.code ≠ undefinedCode ∨ r.code = uniqueCode

instance (r : SymbolRow) : Decidable r.IsExported :=
  inferInstanceAs (Decidable (_ ∧ _ ∨ _))

end SymbolRow

namespace Row

/-- The symbol that a line shows as exported, if any. -/
def exported? : Row → Option Text
  | .symbol row => if row.IsExported then some row.symbol.text else none
  | _ => none

/-- The text of a line without the blanks around it. -/
inductive HasContent : Row → Text → Prop where
  | blank : HasContent .blank []
  | heading {name : Text} (inLine : ∀ c ∈ name, isLineEnd c = false) :
      HasContent (.heading name inLine) (name ++ ":")
  | undefined {address : Option Column} {symbol : Column} {text : Text}
      (h : Columns (address.toList ++ [undefinedColumn, symbol]) text) :
      HasContent (.undefined address symbol) text
  | symbol {row : SymbolRow} {text : Text}
      (h : Columns [row.address, row.codeColumn, row.symbol] text) : HasContent (.symbol row) text

/-- The text of a line, whatever blanks are around it. -/
inductive Written (row : Row) : Text → Prop where
  | surrounded {front content back : Text} (hfront : ∀ c ∈ front, isBlank c)
      (h : row.HasContent content) (hback : ∀ c ∈ back, isBlank c) :
      Written row (front ++ content ++ back)

end Row

/-! ### Columns -/

namespace Columns

variable {columns : List Column} {text : Text}

theorem words_eq (h : Columns columns text) : words text = columns.map (·.text) := by
  induction h with
  | last column => exact words_eq_singleton column.ne_nil column.solid
  | cons column gap h ih =>
      obtain ⟨b, blanks, hgap⟩ := List.exists_cons_of_ne_nil gap.ne_nil
      have hblank := gap.blank
      rw [hgap] at hblank ⊢
      obtain ⟨hb, hblanks⟩ := List.forall_mem_cons.mp hblank
      rw [List.append_assoc, List.cons_append, words_append_cons hb,
        words_append_of_isBlank hblanks, words_eq_singleton column.ne_nil column.solid, ih]
      rfl

theorem not_isLineEnd (h : Columns columns text) : ∀ c ∈ text, isLineEnd c = false := by
  have hsolid : ∀ (column : Column), ∀ c ∈ column.text, isLineEnd c = false := by
    intro column c hc
    refine Bool.eq_false_iff.mpr fun hend => ?_
    exact absurd (isBlank_of_isLineEnd hend) (by simp [column.solid c hc])
  induction h with
  | last column => exact hsolid column
  | cons column gap h ih =>
      intro c hc
      rcases List.mem_append.mp hc with hc | hc
      · rcases List.mem_append.mp hc with hc | hc
        · exact hsolid column c hc
        · exact gap.inLine c hc
      · exact ih c hc

theorem not_isBlank_head (h : Columns columns text) :
    ∀ c, text.head? = some c → isBlank c = false := by
  have hfirst : ∀ (column : Column) (rest : Text) (c : Code),
      (column.text ++ rest).head? = some c → isBlank c = false := by
    intro column rest c hc
    rw [List.head?_append_of_ne_nil _ column.ne_nil] at hc
    exact column.solid c (List.mem_of_mem_head? hc)
  cases h with
  | last column => simpa using hfirst column []
  | cons column gap h =>
      rw [List.append_assoc]
      exact hfirst column _

theorem exists_last (h : Columns columns text) : ∃ column, columns.getLast? = some column := by
  cases h with
  | last column => exact ⟨column, rfl⟩
  | cons column gap h => exact ⟨_, List.getLast?_cons⟩

theorem suffix_of_getLast? (h : Columns columns text) {column : Column}
    (hlast : columns.getLast? = some column) : column.text <:+ text := by
  induction h with
  | last only =>
      cases hlast
      exact List.suffix_refl _
  | @cons first gap columns text h ih =>
      refine (ih ?_).trans (List.suffix_append _ _)
      obtain ⟨other, hother⟩ := h.exists_last
      rw [List.getLast?_cons, hother] at hlast
      exact hother.trans hlast

theorem getLast?_eq (h : Columns columns text) {column : Column}
    (hlast : columns.getLast? = some column) : text.getLast? = column.text.getLast? := by
  obtain ⟨before, rfl⟩ := h.suffix_of_getLast? hlast
  exact List.getLast?_append_of_ne_nil _ column.ne_nil

theorem trim_eq (h : Columns columns text) : trim text = text := by
  have hlast : ∀ c, text.getLast? = some c → isBlank c = false := by
    intro c hc
    obtain ⟨column, hlast⟩ := h.exists_last
    rw [h.getLast?_eq hlast] at hc
    exact column.solid c (List.mem_of_getLast? hc)
  rw [trim, trimFront, dropWhile_isBlank_eq_self h.not_isBlank_head, trimBack_eq_self hlast]

/-- The last two columns decide what a line shows. -/
theorem exportOf_eq (front : List Column) {code symbol : Column}
    (h : Columns (front ++ [code, symbol]) text) :
    exportOf text =
      if isHeading symbol.text then none
      else if isExportCode code.text then some symbol.text else none := by
  have hheading : isHeading text = isHeading symbol.text := by
    have hlast : (front ++ [code, symbol]).getLast? = some symbol := by simp
    rw [isHeading, isHeading, h.getLast?_eq hlast]
  have hwords : (words text).reverse =
      symbol.text :: code.text :: (front.map (·.text)).reverse := by
    rw [h.words_eq]
    simp
  simp only [exportOf, h.trim_eq, hheading, hwords]

end Columns

/-! ### Order -/

def consDistinct (s : Text) (rest : List Text) : List Text :=
  if rest.head? = some s then rest else s :: rest

theorem consDistinct_pairwise {s : Text} {rest : List Text} (h : rest.Pairwise (· < ·))
    (hle : ∀ t ∈ rest, s ≤ t) : (consDistinct s rest).Pairwise (· < ·) := by
  rw [consDistinct]
  split
  · exact h
  · rename_i hhead
    refine List.pairwise_cons.mpr ⟨fun t ht => ?_, h⟩
    refine lt_of_le_of_ne (hle t ht) ?_
    rintro rfl
    cases rest with
    | nil => contradiction
    | cons r rest =>
        rcases List.mem_cons.mp ht with rfl | ht
        · exact hhead rfl
        · exact hle r List.mem_cons_self ((List.pairwise_cons.mp h).1 s ht)

theorem mem_consDistinct {s t : Text} {rest : List Text} :
    t ∈ consDistinct s rest ↔ t = s ∨ t ∈ rest := by
  rw [consDistinct]
  split
  · rename_i hhead
    have hs : s ∈ rest := List.mem_of_mem_head? hhead
    grind
  · exact List.mem_cons

theorem sortedDistinct_eq (names : List Text) :
    sortedDistinct names = (names.mergeSort fun a b => decide (a ≤ b)).foldr consDistinct [] :=
  rfl

theorem foldr_consDistinct {names : List Text} (h : names.Pairwise (· ≤ ·)) :
    (names.foldr consDistinct []).Pairwise (· < ·) ∧
      ∀ s, s ∈ names.foldr consDistinct [] ↔ s ∈ names := by
  induction names with
  | nil => simp
  | cons s rest ih =>
      obtain ⟨hle, hrest⟩ := List.pairwise_cons.mp h
      obtain ⟨hlt, hmem⟩ := ih hrest
      rw [List.foldr_cons]
      refine ⟨consDistinct_pairwise hlt fun t ht => hle t ((hmem t).mp ht), fun t => ?_⟩
      rw [mem_consDistinct, hmem, List.mem_cons]

theorem sortedDistinct_pairwise (names : List Text) : (sortedDistinct names).Pairwise (· < ·) := by
  rw [sortedDistinct_eq]
  exact (foldr_consDistinct (pairwise_mergeSort names)).1

theorem mem_sortedDistinct {names : List Text} {s : Text} :
    s ∈ sortedDistinct names ↔ s ∈ names := by
  rw [sortedDistinct_eq, (foldr_consDistinct (pairwise_mergeSort names)).2,
    (List.mergeSort_perm _ _).mem_iff]

/-! ### Parts of a listing -/

/-- The symbols that the parts of a text between line ends show as exported. -/
def exportedIn (text : Text) : List Text :=
  (pieces isLineEnd text).filterMap exportOf

theorem exports_eq_sortedDistinct (listing : Text) :
    exports listing = sortedDistinct (exportedIn listing) := by
  have hfilter : ∀ texts : List Text,
      texts.filterMap exportOf = (nonempties texts).filterMap exportOf := by
    intro texts
    rw [nonempties, List.filterMap_filter]
    refine List.filterMap_congr fun text _ => ?_
    cases text <;> rfl
  rw [exports, exportedIn, hfilter, nonempties_lines, ← hfilter]

theorem exportedIn_append_cons {c : Code} (hc : isLineEnd c) (s t : Text) :
    exportedIn (s ++ c :: t) = exportedIn s ++ exportedIn t := by
  rw [exportedIn, pieces_append_cons hc, List.filterMap_append]
  rfl

theorem exportedIn_joinWith (texts : List Text) :
    exportedIn (joinWith "\n" texts) = texts.flatMap exportedIn := by
  have hfeed : isLineEnd (.char '\n') := by decide
  induction texts with
  | nil => rfl
  | cons s rest ih =>
      cases rest with
      | nil => simp [joinWith]
      | cons t rest =>
          rw [List.flatMap_cons, ← ih, ← exportedIn_append_cons hfeed, joinWith, List.append_assoc]
          rfl

theorem exportedIn_of_line {text : Text} (h : ∀ c ∈ text, isLineEnd c = false) :
    exportedIn text = (exportOf text).toList := by
  rw [exportedIn, pieces_of_forall_not h, List.filterMap_cons]
  cases exportOf text <;> rfl

theorem exportedIn_append_of_isBlank_left {blanks : Text} (h : ∀ c ∈ blanks, isBlank c)
    (text : Text) : exportedIn (blanks ++ text) = exportedIn text := by
  induction blanks with
  | nil => rfl
  | cons b blanks ih =>
      obtain ⟨hb, hrest⟩ := List.forall_mem_cons.mp h
      rw [← ih hrest, List.cons_append]
      by_cases hend : isLineEnd b
      · exact exportedIn_append_cons hend [] (blanks ++ text)
      -- a blank that ends no line is one more in front of the first part
      · cases hpieces : pieces isLineEnd (blanks ++ text) with
        | nil => exact absurd hpieces (pieces_ne_nil _ _)
        | cons w ws =>
            have htrim : exportOf (b :: w) = exportOf w := by
              rw [exportOf, trim_cons_of_isBlank hb]
              rfl
            have hfirst : pieces isLineEnd (b :: (blanks ++ text)) = (b :: w) :: ws := by
              rw [pieces, if_neg (by simpa using hend), hpieces]
            rw [exportedIn, exportedIn, hfirst, hpieces, List.filterMap_cons, htrim,
              List.filterMap_cons]

/-- The blanks around what a line says do not matter, line ends among them included. -/
theorem exportedIn_surrounded {front content back : Text} (hfront : ∀ c ∈ front, isBlank c)
    (hcontent : ∀ c ∈ content, isLineEnd c = false) (hback : ∀ c ∈ back, isBlank c) :
    exportedIn (front ++ content ++ back) = (exportOf content).toList := by
  have htrim : ∀ blanks : Text, (∀ c ∈ blanks, isBlank c) →
      exportOf (content ++ blanks) = exportOf content := by
    intro blanks hblanks
    rw [exportOf, trim_append_of_isBlank hblanks]
    rfl
  rw [List.append_assoc, exportedIn_append_of_isBlank_left hfront]
  -- if a blank behind the content ends the line, only blanks come after it
  rcases forall_not_or_exists_first isLineEnd back with hline | ⟨near, c, far, rfl, hc, hnear⟩
  · rw [exportedIn_of_line, htrim back hback]
    exact List.forall_mem_append.mpr ⟨hcontent, hline⟩
  · obtain ⟨hnearBlank, hrest⟩ := List.forall_mem_append.mp hback
    have hfar : exportedIn far = [] := by
      have hblank := exportedIn_append_of_isBlank_left (List.forall_mem_cons.mp hrest).2 []
      rw [List.append_nil] at hblank
      exact hblank
    rw [← List.append_assoc, exportedIn_append_cons hc, hfar, List.append_nil, exportedIn_of_line,
      htrim near hnearBlank]
    exact List.forall_mem_append.mpr ⟨hcontent, hnear⟩

/-! ### Rows -/

theorem SymbolRow.isExportCode_iff (r : SymbolRow) :
    isExportCode r.codeColumn.text ↔ r.IsExported := by
  have hcode : r.codeColumn.text = [r.code] := rfl
  have hunique : uniqueCode ≠ undefinedCode := by decide
  rw [hcode, isExportCode, isCapital_of_lt r.isAscii, IsExported, Bool.and_eq_true, bne_iff_ne,
    Bool.or_eq_true, beq_iff_eq]
  grind

namespace Row

variable {row : Row} {text : Text}

theorem HasContent.not_isLineEnd (h : row.HasContent text) :
    ∀ c ∈ text, isLineEnd c = false := by
  cases h with
  | blank => simp
  | heading inLine => exact List.forall_mem_append.mpr ⟨inLine, by decide⟩
  | undefined h => exact h.not_isLineEnd
  | symbol h => exact h.not_isLineEnd

theorem exportOf_heading (name : Text) : exportOf (name ++ ":") = none := by
  have hlast : ∀ before : Text, (before ++ ofString ":").getLast? = some (.char ':') := by
    intro before
    simp [ofString]
  obtain ⟨before, hbefore⟩ : ∃ before, trimFront (name ++ ":") = before ++ ":" := by
    rw [trimFront, List.dropWhile_append]
    split
    · exact ⟨[], rfl⟩
    · exact ⟨_, rfl⟩
  have htrim : trim (name ++ ":") = before ++ ":" := by
    rw [trim, hbefore, trimBack_eq_self]
    intro c hc
    rw [hlast] at hc
    cases hc
    decide
  have hheading : isHeading (before ++ ":") := by rw [isHeading, hlast, beq_self_eq_true]
  simp only [exportOf, htrim, hheading, if_true]

theorem HasContent.exportOf_eq (h : row.HasContent text) : exportOf text = row.exported? := by
  cases h with
  | blank => rfl
  | heading inLine => exact exportOf_heading _
  | undefined h =>
      have hcode : isExportCode undefinedColumn.text = false := isExportCode_undefined
      rw [h.exportOf_eq _, hcode]
      split <;> rfl
  | @symbol r _ h =>
      have hsymbol : isHeading r.symbol.text = false := by simpa [isHeading] using r.noHeading
      rw [Columns.exportOf_eq [r.address] h, hsymbol]
      simp [exported?, r.isExportCode_iff]

theorem HasContent.written (h : row.HasContent text) : row.Written text := by
  have hwritten : row.Written ([] ++ text ++ []) := .surrounded (by simp) h (by simp)
  simpa using hwritten

theorem Written.exportedIn_eq (h : row.Written text) : exportedIn text = row.exported?.toList := by
  cases h with
  | surrounded hfront h hback =>
      rw [exportedIn_surrounded hfront h.not_isLineEnd hback, h.exportOf_eq]

end Row

/-! ### Listings -/

theorem mem_exportedIn_joinWith {rows : List Row} {texts : List Text}
    (h : List.Forall₂ Row.Written rows texts) (s : Text) :
    s ∈ exportedIn (joinWith "\n" texts) ↔ ∃ row ∈ rows, row.exported? = some s := by
  rw [exportedIn_joinWith]
  induction h with
  | nil => simp
  | cons hrow hrest ih =>
      rw [List.flatMap_cons, List.mem_append, ih, hrow.exportedIn_eq]
      simp [eq_comm]

/-- The symbols that are read from a listing are in strict order, and they are those that a line
shows as exported. Other lists of the same lines give the same symbols. A listing that ends with a
line end has a blank line last. -/
theorem exports_of_written {rows : List Row} {texts : List Text}
    (h : List.Forall₂ Row.Written rows texts) :
    (exports (joinWith "\n" texts)).Pairwise (· < ·) ∧
      (∀ s, s ∈ exports (joinWith "\n" texts) ↔ ∃ row ∈ rows, row.exported? = some s) ∧
      ∀ texts', (∀ text, text ∈ texts' ↔ text ∈ texts) →
        exports (joinWith "\n" texts') = exports (joinWith "\n" texts) := by
  refine ⟨?_, fun s => ?_, fun texts' hsame => ?_⟩
  · rw [exports_eq_sortedDistinct]
    exact sortedDistinct_pairwise _
  · rw [exports_eq_sortedDistinct, mem_sortedDistinct, mem_exportedIn_joinWith h]
  · rw [exports_eq_sortedDistinct, exports_eq_sortedDistinct]
    refine eq_of_pairwise_lt (sortedDistinct_pairwise _) (sortedDistinct_pairwise _) fun s => ?_
    rw [mem_sortedDistinct, mem_sortedDistinct, exportedIn_joinWith, exportedIn_joinWith,
      List.mem_flatMap, List.mem_flatMap]
    simp only [hsame]

/-- An archive with two parts: what one part exports, the other one lacks or has again. -/
theorem exports_of_written_archive :
    let address : Column := ⟨"0000", by decide, by decide⟩
    let opening : Column := ⟨"file_open", by decide, by decide⟩
    let closing : Column := ⟨"file_close", by decide, by decide⟩
    let rows : List Row := [.heading "a.o" (by decide),
      .symbol ⟨address, 'T', opening, by decide, by decide, by decide⟩,
      .symbol ⟨address, 't', address, by decide, by decide, by decide⟩, .blank,
      .heading "b.o" (by decide), .undefined none opening,
      .symbol ⟨address, 'u', closing, by decide, by decide, by decide⟩,
      .symbol ⟨address, 'W', opening, by decide, by decide, by decide⟩]
    let texts : List Text := ["a.o:", "0000 T file_open", "0000 t 0000", "", "b.o:",
      "     U file_open", "0000 u file_close", "0000 W file_open"]
    List.Forall₂ Row.Written rows texts ∧
      exports (joinWith "\n" texts) = [ofString "file_close", "file_open"] := by
  intro address opening closing rows texts
  let space : Gap := ⟨" ", by decide, by decide, by decide⟩
  have hsymbol : ∀ r : SymbolRow, Row.Written (.symbol r)
      (r.address.text ++ space.text ++ ([r.code] ++ space.text ++ r.symbol.text)) :=
    fun r => (Row.HasContent.symbol (.cons _ space (.cons _ space (.last _)))).written
  have hcontent : Row.HasContent (.undefined none opening)
      (undefinedColumn.text ++ space.text ++ opening.text) :=
    .undefined (.cons _ space (.last _))
  have hblanks : ∀ c ∈ ofString "     ", isBlank c := by decide
  have hundefined : Row.Written (.undefined none opening) "     U file_open" :=
    .surrounded hblanks hcontent (List.forall_mem_nil _)
  have hwritten : List.Forall₂ Row.Written rows texts := by
    refine .cons (Row.HasContent.heading _).written (.cons (hsymbol _) (.cons (hsymbol _) ?_))
    refine .cons Row.HasContent.blank.written (.cons (Row.HasContent.heading _).written ?_)
    exact .cons hundefined (.cons (hsymbol _) (.cons (hsymbol _) .nil))
  obtain ⟨hsorted, hmem, -⟩ := exports_of_written hwritten
  refine ⟨hwritten, eq_of_pairwise_lt hsorted (by decide) fun s => ?_⟩
  have hexported : rows.filterMap Row.exported? =
      [opening.text, closing.text, opening.text] := by decide
  rw [hmem, ← List.mem_filterMap, hexported]
  simp only [List.mem_cons, List.not_mem_nil, or_false]
  grind

end BindingNames.Library
