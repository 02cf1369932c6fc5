import BindingNames.Proofs.WordText
import Mathlib.Data.List.DropRight
import Mathlib.Data.List.TakeWhile

/-!
What the styles make of a word. Both make an identifier of it that begins with a capital letter. The
camel style takes out the underscores between its parts; those behind it stay, and those in front of
it stay behind an X, which stands in front of a digit as well. Nothing else is lost: without
underscores and in lower case the styled name reads like the name, but for the X.
-/

namespace BindingNames

open Text

namespace Text

/-! ### Case within words -/

theorem upperOf_of_isWordChar {c : Code} (h : Identifier.isWordChar c) : upperOf c = [c.toUpper] :=
  upperOf_of_lt (toNat_lt_of_isWordChar h)

theorem toLower_toUpper {c : Code} (h : Identifier.isWordChar c) :
    c.toUpper.toLower = c.toLower := by
  have hascii : ∀ n < 128,
      (Code.char (Char.ofNat n)).toUpper.toLower = (Code.char (Char.ofNat n)).toLower := by
    decide +kernel
  exact forall_of_lt (P := fun c => c.toUpper.toLower = c.toLower) hascii (toNat_lt_of_isWordChar h)

theorem lowerAfter_of_isWord (before : Text) {s : Text} (h : IsWord s) :
    lowerAfter before s = s.map Code.toLower := by
  induction s generalizing before with
  | nil => rfl
  | cons c cs ih =>
      obtain ⟨hc, hcs⟩ := isWord_cons.mp h
      have hlt := toNat_lt_of_isWordChar hc
      have hsigma : (c.toNat == 0x3A3) = false := by
        rw [beq_eq_false_iff_ne]
        omega
      simp only [lowerAfter, hsigma, Bool.false_eq_true, if_false, lowerOf_of_lt hlt, ih _ hcs]
      rfl

theorem lower_of_isWord {s : Text} (h : IsWord s) : lower s = s.map Code.toLower :=
  lowerAfter_of_isWord [] h

/-- Nothing but the separators is lost between the pieces of a text. -/
theorem flatten_pieces (p : Code → Bool) (s : Text) :
    (pieces p s).flatten = s.filter fun c => !p c := by
  induction s with
  | nil => rfl
  | cons c cs ih =>
      simp only [pieces]
      split
      · rename_i hc
        simpa [hc] using ih
      · rename_i hc
        cases hp : pieces p cs with
        | nil => exact absurd hp (pieces_ne_nil p cs)
        | cons w ws =>
            rw [hp] at ih
            simpa [hc] using ih

end Text

namespace NameStyle

/-- An identifier that begins with a capital letter. -/
def IsExported (s : Text) : Prop :=
  ∃ c rest, s = c :: rest ∧ c.isUpper ∧ IsWord rest

/-- Whether a name begins with an underscore or a digit, which a letter has to be put before. -/
def needsLetter (s : Text) : Bool :=
  s.head?.any isUnderscore || beginsWithDigit s

/-- The letters and digits of a name, in lower case. -/
def letters (s : Text) : Text :=
  lower (s.filter fun c => !isUnderscore c)

/-- A text in three parts: underscores, a part that neither begins nor ends with one, and
underscores. -/
structure Parted (s front middle back : Text) : Prop where
  eq : s = front ++ middle ++ back
  front : ∀ c ∈ front, isUnderscore c
  back : ∀ c ∈ back, isUnderscore c
  ne_nil : middle ≠ []
  head : ∀ c, middle.head? = some c → isUnderscore c = false
  last : ∀ c, middle.getLast? = some c → isUnderscore c = false

theorem eq_underscore {c : Code} (h : isUnderscore c) : c = .char '_' :=
  eq_of_beq h

/-- Underscores read the same from behind. -/
theorem reverse_underscores {s : Text} (h : ∀ c ∈ s, isUnderscore c) : s.reverse = s := by
  have hs : s = List.replicate s.length (.char '_') :=
    List.eq_replicate_of_mem fun c hc => eq_underscore (h c hc)
  rw [hs, List.reverse_replicate]

/-! ### The parts of a name -/

theorem span_append {α : Type} {p : α → Bool} {front rest : List α} (hfront : ∀ c ∈ front, p c)
    (hrest : ∀ c, rest.head? = some c → p c = false) :
    (front ++ rest).takeWhile p = front ∧ (front ++ rest).dropWhile p = rest := by
  rw [List.takeWhile_append_of_pos hfront, List.dropWhile_append_of_pos hfront]
  cases rest with
  | nil => simp
  | cons c cs => simp [hrest c rfl]

theorem forall_isUnderscore_or_parted (s : Text) :
    (∀ c ∈ s, isUnderscore c) ∨ ∃ front middle back, Parted s front middle back := by
  by_cases hrest : s.dropWhile isUnderscore = []
  · exact .inl (List.dropWhile_eq_nil_iff.mp hrest)
  have hhead := List.head?_dropWhile_not isUnderscore s
  generalize hr : s.dropWhile isUnderscore = rest at hrest hhead
  have hne : rest.rdropWhile isUnderscore ≠ [] := by
    intro hnil
    cases rest with
    | nil => contradiction
    | cons c cs =>
        have hc := List.rdropWhile_eq_nil_iff.mp hnil c List.mem_cons_self
        simp [hc] at hhead
  refine .inr ⟨s.takeWhile isUnderscore, rest.rdropWhile isUnderscore,
    rest.rtakeWhile isUnderscore, ?_, fun c hc => List.mem_takeWhile_imp hc,
    fun c hc => List.mem_rtakeWhile_imp hc, hne, fun c hc => ?_, fun c hc => ?_⟩
  · rw [List.append_assoc, List.rdropWhile_append_rtakeWhile, ← hr, List.takeWhile_append_dropWhile]
  · obtain ⟨tail, htail⟩ := List.rdropWhile_prefix isUnderscore rest
    rw [← htail, List.head?_append, hc] at hhead
    simpa using hhead
  · have hlast := List.rdropWhile_last_not isUnderscore rest hne
    rw [List.getLast?_eq_some_getLast hne] at hc
    cases hc
    simpa using hlast

namespace Parted

variable {s front middle back : Text}

theorem head_append (h : Parted s front middle back) (c : Code)
    (hc : (middle ++ back).head? = some c) : isUnderscore c = false := by
  rw [List.head?_append_of_ne_nil _ h.ne_nil] at hc
  exact h.head c hc

theorem takeWhile_eq (h : Parted s front middle back) : s.takeWhile isUnderscore = front := by
  rw [h.eq, List.append_assoc]
  exact (span_append h.front h.head_append).1

theorem dropWhile_eq (h : Parted s front middle back) :
    s.dropWhile isUnderscore = middle ++ back := by
  rw [h.eq, List.append_assoc]
  exact (span_append h.front h.head_append).2

/-- The parts of a text that is read from behind. -/
theorem reverse (h : Parted s front middle back) : Parted s.reverse back middle.reverse front where
  eq := by
    rw [h.eq, List.reverse_append, List.reverse_append, reverse_underscores h.front,
      reverse_underscores h.back, List.append_assoc]
  front := h.back
  back := h.front
  ne_nil := by simpa using h.ne_nil
  head c hc := h.last c (by rwa [List.head?_reverse] at hc)
  last c hc := h.head c (by rwa [List.getLast?_reverse] at hc)

theorem rtakeWhile_eq (h : Parted s front middle back) : s.rtakeWhile isUnderscore = back := by
  rw [List.rtakeWhile, h.reverse.takeWhile_eq, reverse_underscores h.back]

theorem backUnderscores_eq (h : Parted s front middle back) : backUnderscores s = back :=
  h.reverse.takeWhile_eq

theorem core_eq (h : Parted s front middle back) : core s = middle := by
  have hrest : Parted (middle ++ back) [] middle back :=
    ⟨rfl, by simp, h.back, h.ne_nil, h.head, h.last⟩
  rw [core, h.dropWhile_eq, hrest.reverse.dropWhile_eq, List.append_nil, List.reverse_reverse]

theorem needsLetter_eq (h : Parted s front middle back) :
    needsLetter s = (!front.isEmpty || beginsWithDigit middle) := by
  have hs := h.eq
  cases front with
  | nil =>
      cases hm : middle with
      | nil => exact absurd hm h.ne_nil
      | cons c cs =>
          have hc := h.head c (by rw [hm]; rfl)
          rw [hs, hm]
          simp [needsLetter, beginsWithDigit, hc]
  | cons c cs =>
      have hc := h.front c List.mem_cons_self
      rw [hs]
      simp [needsLetter, hc]

/-- The camel style joins the middle part. -/
theorem camelName_eq (h : Parted s front middle back) :
    camelName s =
      (if needsLetter s then .char 'X' :: front else []) ++ joinParts (!needsLetter s) middle ++
        back := by
  have hs : s ≠ [] := by
    rw [h.eq]
    simp [h.ne_nil]
  have hmark := h.needsLetter_eq
  have hfront : frontUnderscores s = front := h.takeWhile_eq
  simp only [camelName, List.isEmpty_eq_false_iff.mpr hs, h.core_eq,
    List.isEmpty_eq_false_iff.mpr h.ne_nil, hfront, h.backUnderscores_eq, Bool.false_eq_true,
    if_false, ← hmark]
  cases needsLetter s <;> rfl

end Parted

/-! ### Letters and digits -/

theorem filter_underscores {s : Text} (h : ∀ c ∈ s, isUnderscore c) :
    s.filter (fun c => !isUnderscore c) = [] :=
  List.filter_eq_nil_iff.mpr fun c hc => by simp [h c hc]

theorem Parted.letters_eq {s front middle back : Text} (h : Parted s front middle back) :
    letters s = letters middle := by
  rw [letters, letters, h.eq, List.filter_append, List.filter_append, filter_underscores h.front,
    filter_underscores h.back, List.nil_append, List.append_nil]

theorem letters_of_isWord {s : Text} (h : IsWord s) :
    letters s = (s.filter fun c => !isUnderscore c).map Code.toLower :=
  lower_of_isWord (h.of_subset List.filter_sublist.subset)

theorem isUnderscore_toLower {c : Code} (h : Identifier.isWordChar c) :
    isUnderscore c.toLower = isUnderscore c := by
  have hascii : ∀ n < 128, isUnderscore (Code.char (Char.ofNat n)).toLower =
      isUnderscore (Code.char (Char.ofNat n)) := by
    decide +kernel
  exact forall_of_lt (P := fun c => isUnderscore c.toLower = isUnderscore c) hascii
    (toNat_lt_of_isWordChar h)

theorem map_toLower_capitalized {s : Text} (h : IsWord s) :
    (capitalized s).map Code.toLower = s.map Code.toLower := by
  cases s with
  | nil => rfl
  | cons c cs =>
      have hc := (isWord_cons.mp h).1
      simp [capitalized, upperOf_of_isWordChar hc, toLower_toUpper hc]

/-- Joining the parts of a word takes out its underscores and changes nothing but case. -/
theorem map_toLower_joinParts (raiseFirst : Bool) {s : Text} (h : IsWord s) :
    (joinParts raiseFirst s).map Code.toLower = letters s := by
  have hpieces : ∀ w ∈ pieces isUnderscore s, IsWord w := fun w hw c hc =>
    h c (mem_of_mem_pieces hw hc)
  rw [letters_of_isWord h, ← flatten_pieces, joinParts]
  cases hp : pieces isUnderscore s with
  | nil => rfl
  | cons w ws =>
      rw [hp] at hpieces
      obtain ⟨hw, hws⟩ := List.forall_mem_cons.mp hpieces
      have hfirst : (if raiseFirst then capitalized w else w).map Code.toLower =
          w.map Code.toLower := by
        cases raiseFirst with
        | false => rfl
        | true => exact map_toLower_capitalized hw
      have hrest : (ws.flatMap capitalized).map Code.toLower = ws.flatten.map Code.toLower := by
        rw [List.map_flatMap, List.map_flatten, ← List.flatMap_def]
        exact List.flatMap_congr fun v hv => map_toLower_capitalized (hws v hv)
      rw [List.map_append, hfirst, hrest, List.flatten_cons, List.map_append]

theorem not_mem_joinParts (raiseFirst : Bool) {s : Text} (h : IsWord s) :
    .char '_' ∉ joinParts raiseFirst s := by
  intro hmem
  have hlower := List.mem_map_of_mem (f := Code.toLower) hmem
  rw [map_toLower_joinParts raiseFirst h, letters_of_isWord h] at hlower
  obtain ⟨d, hd, heq⟩ := List.mem_map.mp hlower
  obtain ⟨hd, hplain⟩ := List.mem_filter.mp hd
  rw [← isUnderscore_toLower (h d hd), heq] at hplain
  exact absurd hplain (by decide)

/-- What the camel style makes of a word with more in it than underscores. -/
theorem Parted.exists_camelName {s front middle back : Text} (h : Parted s front middle back)
    (hword : IsWord s) :
    ∃ inner : Text, inner ≠ [] ∧ .char '_' ∉ inner ∧ inner.map Code.toLower = letters s ∧
      camelName s = (if needsLetter s then .char 'X' :: front else []) ++ inner ++ back := by
  have hmiddle : IsWord middle := hword.of_subset (by rw [h.eq]; simp)
  refine ⟨joinParts (!needsLetter s) middle, ?_, not_mem_joinParts _ hmiddle,
    (map_toLower_joinParts _ hmiddle).trans h.letters_eq.symm, h.camelName_eq⟩
  intro hnil
  have hjoined := map_toLower_joinParts (!needsLetter s) hmiddle
  rw [hnil, letters_of_isWord hmiddle] at hjoined
  have hnone := List.filter_eq_nil_iff.mp (List.map_eq_nil_iff.mp hjoined.symm)
  cases hm : middle with
  | nil => exact h.ne_nil hm
  | cons c cs =>
      have hc := h.head c (by rw [hm]; rfl)
      exact hnone c (by rw [hm]; exact List.mem_cons_self) (by simp [hc])

theorem letters_of_not_mem {s : Text} (h : IsWord s) (hnone : .char '_' ∉ s) :
    letters s = s.map Code.toLower := by
  have hall : s.filter (fun c => !isUnderscore c) = s := by
    refine List.filter_eq_self.mpr fun c hc => ?_
    rw [Bool.not_eq_true', isUnderscore, beq_eq_false_iff_ne]
    exact fun heq => hnone (heq ▸ hc)
  rw [letters_of_isWord h, hall]

/-- An X in front adds a letter, and underscores behind it do not. -/
theorem letters_marked {front inner : Text} (hfront : ∀ c ∈ front, isUnderscore c)
    (hword : IsWord inner) :
    letters (.char 'X' :: front ++ inner) = .char 'x' :: letters inner := by
  have hX : Identifier.isWordChar (.char 'X') := by decide
  have hunderscores : IsWord front := fun c hc => by
    rw [eq_underscore (hfront c hc)]
    decide
  have hmarked : IsWord (.char 'X' :: front ++ inner) :=
    isWord_cons.mpr ⟨hX, isWord_append.mpr ⟨hunderscores, hword⟩⟩
  have hplain : isUnderscore (.char 'X') = false := by decide
  rw [letters_of_isWord hmarked, letters_of_isWord hword, List.cons_append,
    List.filter_cons_of_pos (by simp [hplain]), List.filter_append, filter_underscores hfront]
  rfl

/-! ### Exported identifiers -/

theorem isUpper_toUpper {c : Code} (h : Identifier.isWordChar c)
    (hunderscore : isUnderscore c = false) (hdigit : isDigit c = false) : c.toUpper.isUpper := by
  have hascii : ∀ n < 128, Identifier.isWordChar (.char (Char.ofNat n)) →
      isUnderscore (.char (Char.ofNat n)) = false → isDigit (.char (Char.ofNat n)) = false →
        (Code.char (Char.ofNat n)).toUpper.isUpper := by
    decide +kernel
  exact forall_of_lt (P := fun c => Identifier.isWordChar c → isUnderscore c = false →
    isDigit c = false → c.toUpper.isUpper) hascii (toNat_lt_of_isWordChar h) h hunderscore hdigit

theorem camelName_of_underscores {s : Text} (hne : s ≠ []) (h : ∀ c ∈ s, isUnderscore c) :
    camelName s = .char 'X' :: s := by
  have hcore : core s = [] := by
    rw [core, List.dropWhile_eq_nil_iff.mpr h]
    rfl
  simp [camelName, hcore, hne]

theorem exists_joinParts_cons {c : Code} (cs : Text) (h : isUnderscore c = false) :
    ∃ rest, joinParts true (c :: cs) = upperOf c ++ rest := by
  cases hp : pieces isUnderscore cs with
  | nil => exact absurd hp (pieces_ne_nil isUnderscore cs)
  | cons w ws =>
      exact ⟨w ++ ws.flatMap capitalized, by simp [joinParts, pieces, h, hp, capitalized]⟩

/-- The camel style of a word begins with a capital letter. -/
theorem exists_camelName_cons {s : Text} (h : IsWord s) (hne : s ≠ []) :
    ∃ c rest, camelName s = c :: rest ∧ c.isUpper := by
  rcases forall_isUnderscore_or_parted s with hall | ⟨front, middle, back, hparts⟩
  · exact ⟨.char 'X', s, camelName_of_underscores hne hall, by decide⟩
  · rw [hparts.camelName_eq]
    cases hmark : needsLetter s with
    | true => exact ⟨.char 'X', _, rfl, by decide⟩
    | false =>
        have hdigit := hmark
        rw [hparts.needsLetter_eq, Bool.or_eq_false_iff] at hdigit
        cases hm : middle with
        | nil => exact absurd hm hparts.ne_nil
        | cons c cs =>
            have hc : Identifier.isWordChar c := h c (by rw [hparts.eq, hm]; simp)
            have hunderscore := hparts.head c (by rw [hm]; rfl)
            rw [hm] at hdigit
            obtain ⟨rest, hrest⟩ := exists_joinParts_cons cs hunderscore
            rw [Bool.not_false, hrest, upperOf_of_isWordChar hc]
            exact ⟨c.toUpper, rest ++ back, rfl, isUpper_toUpper hc hunderscore hdigit.2⟩

theorem exists_exportedName_cons {s : Text} (h : IsWord s) (hne : s ≠ []) :
    ∃ c rest, exportedName s = c :: rest ∧ c.isUpper := by
  cases s with
  | nil => contradiction
  | cons c cs =>
      have hword := (isWord_cons.mp h).1
      simp only [exportedName]
      split
      · exact ⟨.char 'X', _, rfl, by decide⟩
      · rename_i hfront
        rw [Bool.not_eq_true, Bool.or_eq_false_iff] at hfront
        rw [upperOf_of_isWordChar hword]
        exact ⟨c.toUpper, cs, rfl, isUpper_toUpper hword hfront.1 hfront.2⟩

/-- A style makes an exported identifier of every word that is not empty. -/
theorem isExported_apply {style : NameStyle} (hstyle : style ≠ .none) {s : Text} (h : IsWord s)
    (hne : s ≠ []) : IsExported (style.apply s) := by
  have hfront : ∃ c rest, style.apply s = c :: rest ∧ c.isUpper := by
    cases style with
    | none => contradiction
    | camel => exact exists_camelName_cons h hne
    | exported => exact exists_exportedName_cons h hne
  obtain ⟨c, rest, hname, hupper⟩ := hfront
  have hword := isWord_apply style h
  rw [hname] at hword
  exact ⟨c, rest, hname, hupper, (isWord_cons.mp hword).2⟩

/-! ### What a styled name keeps -/

/-- Unless a name is nothing but underscores, its styled form ends as the name does, behind an inner
part without underscores. -/
theorem Parted.exists_parted_camelName {s front middle back : Text}
    (h : Parted s front middle back) (hword : IsWord s) :
    ∃ inner : Text, inner ≠ [] ∧ .char '_' ∉ inner ∧ inner.map Code.toLower = letters s ∧
      Parted (camelName s) [] ((if needsLetter s then .char 'X' :: front else []) ++ inner)
        back := by
  obtain ⟨inner, hinner, hnone, hletters, hname⟩ := h.exists_camelName hword
  have hplain : ∀ c ∈ inner, isUnderscore c = false := fun c hc =>
    beq_eq_false_iff_ne.mpr fun heq => hnone (heq ▸ hc)
  refine ⟨inner, hinner, hnone, hletters, hname, by simp, h.back, by simp [hinner],
    fun c hc => ?_, fun c hc => ?_⟩
  · cases hmark : needsLetter s with
    | true =>
        rw [hmark] at hc
        cases hc
        rfl
    | false =>
        rw [hmark] at hc
        exact hplain c (List.mem_of_head? hc)
  · rw [List.getLast?_append_of_ne_nil _ hinner] at hc
    exact hplain c (List.mem_of_getLast? hc)

theorem rtakeWhile_camelName {s : Text} (hword : IsWord s) (hne : s ≠ []) :
    (camelName s).rtakeWhile isUnderscore = s.rtakeWhile isUnderscore := by
  rcases forall_isUnderscore_or_parted s with hall | ⟨front, middle, back, hparts⟩
  · have hnamed : Parted (.char 'X' :: s) [] [.char 'X'] s :=
      ⟨rfl, by simp, hall, by simp, by simp [isUnderscore], by simp [isUnderscore]⟩
    rw [camelName_of_underscores hne hall, hnamed.rtakeWhile_eq,
      List.rtakeWhile_eq_self_iff.mpr hall]
  · obtain ⟨inner, -, -, -, hnamed⟩ := hparts.exists_parted_camelName hword
    rw [hnamed.rtakeWhile_eq, hparts.rtakeWhile_eq]

theorem letters_camelName {s : Text} (hword : IsWord s) (hne : s ≠ []) :
    letters (camelName s) = if needsLetter s then .char 'x' :: letters s else letters s := by
  rcases forall_isUnderscore_or_parted s with hall | ⟨front, middle, back, hparts⟩
  · have hmark : needsLetter s := by
      cases s with
      | nil => contradiction
      | cons c cs => simp [needsLetter, hall c List.mem_cons_self]
    have hmarked := letters_marked hall isWord_nil
    rw [List.append_nil] at hmarked
    rw [camelName_of_underscores hne hall, if_pos hmark, hmarked, letters, letters,
      filter_underscores hall]
    rfl
  · obtain ⟨inner, hinner, hnone, hletters, hnamed⟩ := hparts.exists_parted_camelName hword
    have hwordInner : IsWord inner :=
      (isWord_apply .camel hword).of_subset (by rw [apply, hnamed.eq]; simp)
    rw [hnamed.letters_eq, ← hletters, ← letters_of_not_mem hwordInner hnone]
    cases needsLetter s with
    | true => exact letters_marked hparts.front hwordInner
    | false => rfl

/-- Both styles make an exported identifier of a word. The camel style keeps the underscores behind
it. Unless there is nothing else, the only underscores before these are those that the word begins
with, and they stand behind an X, which is also put before a digit. The letters and digits are kept
up to case, with an x in front exactly where the word begins with an underscore or a digit. -/
theorem camelName_keeps_letters {s : Text} (hword : IsWord s) (hne : s ≠ []) :
    IsExported (camelName s) ∧ IsExported (exportedName s) ∧
      (camelName s).rtakeWhile isUnderscore = s.rtakeWhile isUnderscore ∧
      ((∃ c ∈ s, c ≠ .char '_') → ∃ inner : Text, inner ≠ [] ∧ .char '_' ∉ inner ∧
        camelName s =
          (if needsLetter s then .char 'X' :: s.takeWhile isUnderscore else []) ++ inner ++
            s.rtakeWhile isUnderscore) ∧
      letters (camelName s) = if needsLetter s then .char 'x' :: letters s else letters s := by
  have hcamel : NameStyle.camel ≠ .none := by decide
  have hexported : NameStyle.exported ≠ .none := by decide
  refine ⟨isExported_apply hcamel hword hne, isExported_apply hexported hword hne,
    rtakeWhile_camelName hword hne, fun ⟨c, hc, hother⟩ => ?_, letters_camelName hword hne⟩
  rcases forall_isUnderscore_or_parted s with hall | ⟨front, middle, back, hparts⟩
  · exact absurd (eq_underscore (hall c hc)) hother
  · obtain ⟨inner, hinner, hnone, -, hnamed⟩ := hparts.exists_parted_camelName hword
    rw [hparts.takeWhile_eq, hparts.rtakeWhile_eq]
    exact ⟨inner, hinner, hnone, hnamed.eq⟩

/-- Several underscores come before a digit, others are in a row, and one is at the end. -/
theorem camelName_keeps_letters_underscores :
    let s : Text := "__2nd__list_item_"
    IsWord s ∧ s ≠ [] ∧ camelName s = "X__2ndListItem_" ∧ exportedName s = "X__2nd__list_item_" ∧
      IsExported (camelName s) ∧ IsExported (exportedName s) ∧
      (camelName s).rtakeWhile isUnderscore = "_" ∧
      (∃ inner : Text, .char '_' ∉ inner ∧ camelName s = "X__" ++ inner ++ "_") ∧
      letters (camelName s) = .char 'x' :: letters s := by
  intro s
  have hword : IsWord s := by decide
  have hne : s ≠ [] := by decide
  obtain ⟨hcamel, hexported, hback, hinner, hletters⟩ := camelName_keeps_letters hword hne
  obtain ⟨inner, -, hnone, hname⟩ := hinner ⟨.char '2', by decide, by decide⟩
  exact ⟨hword, hne, by decide, by decide, hcamel, hexported, hback, ⟨inner, hnone, hname⟩,
    hletters⟩

end NameStyle

end BindingNames
