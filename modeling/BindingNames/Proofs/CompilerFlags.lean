import BindingNames.Configuration.Reading
import BindingNames.Proofs.Outcomes
import Mathlib.Data.List.Basic

/-!
Compiler flags as a sequence of items. An include path stands behind its mark, either apart from it
or attached to it, and every other flag is an argument. A mark with nothing behind it has an empty
path attached. Tokens are flags if and only if they can be read as items; this uses every token
once, there is one way to do it, and the items say what the flags give, each kind in order. Texts
can always be read. Of other tokens only paths that stand apart can.
-/

namespace BindingNames

open FlagSplit (includeMark)

inductive FlagItem where
  | apart (path : Value)
  | attached (path : Text)
  | argument (flag : Text)

namespace FlagItem

def tokens : FlagItem → List Value
  | .apart path => [.text includeMark, path]
  | .attached path => [.text (includeMark ++ path)]
  | .argument flag => [.text flag]

def include? : FlagItem → Option Value
  | .apart path => some path
  | .attached path => some (.text path)
  | .argument _ => none

def argument? : FlagItem → Option Value
  | .argument flag => some (.text flag)
  | _ => none

/-- Whether an item may stand before some tokens. A mark alone would take the next one for its
path. -/
def StandsBefore (rest : List Value) : FlagItem → Prop
  | .apart _ => True
  | .attached path => path = [] → rest = []
  | .argument flag => Text.beginsWith flag includeMark = false

/-- What some tokens are read as. -/
inductive Reads : List Value → List FlagItem → Prop where
  | nil : Reads [] []
  | cons {i : FlagItem} {rest : List Value} {items : List FlagItem} (hi : i.StandsBefore rest)
      (hrest : Reads rest items) : Reads (i.tokens ++ rest) (i :: items)

theorem tokens_append_ne {i : FlagItem} (hi : i.argument? = none) {flag : Text}
    (hflag : Text.beginsWith flag includeMark = false) (rest rest' : List Value) :
    i.tokens ++ rest ≠ .text flag :: rest' := by
  have hne : ∀ path : Text, .text (includeMark ++ path) ≠ Value.text flag := by
    intro path heq
    have hflag' : includeMark ++ path = flag := by simpa [Value.text] using heq
    rw [← hflag', Text.beginsWith_append] at hflag
    contradiction
  cases i with
  | apart path => exact fun h => hne [] (List.cons.inj h).1
  | attached path => exact fun h => hne path (List.cons.inj h).1
  | argument flag => contradiction

/-- Where an item ends can be told from the tokens. -/
theorem eq_of_tokens_append_eq {i j : FlagItem} {rest rest' : List Value}
    (hi : i.StandsBefore rest) (hj : j.StandsBefore rest')
    (h : i.tokens ++ rest = j.tokens ++ rest') : i = j ∧ rest = rest' := by
  cases i with
  | apart path =>
      cases j with
      | apart path' => simpa [tokens] using h
      | attached path' => simp_all [tokens, StandsBefore, Value.text]
      | argument flag' => exact (tokens_append_ne rfl hj _ _ h).elim
  | attached path =>
      cases j with
      | apart path' => simp_all [tokens, StandsBefore, Value.text]
      | attached path' => simpa [tokens, Value.text] using h
      | argument flag' => exact (tokens_append_ne rfl hj _ _ h).elim
  | argument flag =>
      cases j with
      | argument flag' => simpa [tokens, Value.text] using h
      | _ => exact (tokens_append_ne rfl hi _ _ h.symm).elim

namespace Reads

/-- Every token is used once. -/
theorem tokens_eq {tokens : List Value} {items : List FlagItem} (h : Reads tokens items) :
    tokens = items.flatMap FlagItem.tokens := by
  induction h with
  | nil => rfl
  | @cons i rest items hi hrest ih => rw [List.flatMap_cons, ih]

theorem unique {tokens : List Value} {items others : List FlagItem} (h : Reads tokens items)
    (h' : Reads tokens others) : items = others := by
  induction h generalizing others with
  | nil =>
      generalize htokens : ([] : List Value) = tokens at h'
      cases h' with
      | nil => rfl
      | @cons i rest items hi hrest => cases i <;> contradiction
  | @cons i rest items hi hrest ih =>
      generalize htokens : i.tokens ++ rest = tokens at h'
      cases h' with
      | nil => cases i <;> contradiction
      | @cons j rest' others hj hrest' =>
          obtain ⟨rfl, rfl⟩ := eq_of_tokens_append_eq hi hj htokens
          rw [ih hrest']

end Reads

end FlagItem

namespace FlagSplit

open FlagItem (Reads)

def ofItems (items : List FlagItem) : FlagSplit :=
  ⟨items.filterMap FlagItem.include?, items.filterMap FlagItem.argument?⟩

theorem append_ofItems (i : FlagItem) (items : List FlagItem) :
    append (ofItems [i]) (ofItems items) = ofItems (i :: items) := by
  cases i <;> rfl

theorem ofFlags_cons {flag : Value} {rest : List Value} (h : isIncludeMark flag → rest = []) :
    ofFlags (flag :: rest) = do return append (← ofFlag flag) (← ofFlags rest) := by
  cases rest with
  | nil =>
      cases hflag : ofFlag flag with
      | error e => simp [ofFlags, hflag]
      | ok split => simp [ofFlags, hflag, append]
  | cons next rest =>
      have hmark : ¬isIncludeMark flag := fun hmark => List.cons_ne_nil _ _ (h hmark)
      rw [ofFlags, if_neg hmark]

theorem isIncludeMark_text {s : Text} : isIncludeMark (.text s) ↔ s = includeMark := by
  simp [isIncludeMark]

theorem eq_of_isIncludeMark {v : Value} (h : isIncludeMark v) : v = .text includeMark := by
  have htext : v.asText? = some includeMark := eq_of_beq h
  unfold Value.asText? at htext
  split at htext
  · rw [Option.some.inj htext, Value.text]
  · contradiction

theorem ofFlag_of_beginsWith {flag : Text} (h : Text.beginsWith flag includeMark) :
    ofFlag (.text flag) = .ok ⟨[.text (flag.drop includeMark.length)], []⟩ := by
  rw [Value.text, ofFlag, if_pos h]
  rfl

theorem ofFlag_of_not_beginsWith {flag : Text} (h : Text.beginsWith flag includeMark = false) :
    ofFlag (.text flag) = .ok ⟨[], [.text flag]⟩ := by
  rw [Value.text, ofFlag, h, if_neg Bool.false_ne_true]
  rfl

theorem ofFlags_tokens_append {i : FlagItem} {rest : List Value} (h : i.StandsBefore rest) :
    ofFlags (i.tokens ++ rest) = do return append (ofItems [i]) (← ofFlags rest) := by
  cases i with
  | apart path => rfl
  | attached path =>
      have hrest : isIncludeMark (.text (includeMark ++ path)) → rest = [] := by
        intro hmark
        exact h (by simpa using isIncludeMark_text.mp hmark)
      show ofFlags (.text (includeMark ++ path) :: rest) = _
      rw [ofFlags_cons hrest, ofFlag_of_beginsWith (Text.beginsWith_append _ path),
        List.drop_left]
      rfl
  | argument flag =>
      have hflag : Text.beginsWith flag includeMark = false := h
      have hrest : isIncludeMark (.text flag) → rest = [] := by
        intro hmark
        rw [isIncludeMark_text.mp hmark] at hflag
        contradiction
      show ofFlags (.text flag :: rest) = _
      rw [ofFlags_cons hrest, ofFlag_of_not_beginsWith hflag]
      rfl

theorem ofFlags_of_reads {tokens : List Value} {items : List FlagItem} (h : Reads tokens items) :
    ofFlags tokens = .ok (ofItems items) := by
  induction h with
  | nil => rfl
  | @cons i rest items hi hrest ih =>
      rw [ofFlags_tokens_append hi, ih, ok_bind, append_ofItems]
      rfl

/-- A token that gives something is an item by itself, unless it is a mark for a token behind
it. -/
theorem exists_item {flag : Value} (hflag : (ofFlag flag).isOk) {rest : List Value}
    (hrest : isIncludeMark flag → rest = []) :
    ∃ i : FlagItem, i.StandsBefore rest ∧ i.tokens = [flag] := by
  obtain ⟨s, rfl⟩ : ∃ s, flag = .text s := by
    cases flag with
    | scalar k =>
        cases k with
        | text s => exact ⟨s, rfl⟩
        | _ => contradiction
    | _ => contradiction
  cases h : Text.beginsWith s includeMark with
  | false => exact ⟨.argument s, h, rfl⟩
  | true =>
      have hs := Text.append_drop_of_beginsWith h
      refine ⟨.attached (s.drop includeMark.length), fun hnil => hrest ?_, ?_⟩
      · rw [hnil, List.append_nil] at hs
        exact isIncludeMark_text.mpr hs.symm
      · rw [FlagItem.tokens, hs]

theorem isOk_ofFlags_apart (path : Value) (rest : List Value) :
    (ofFlags (.text includeMark :: path :: rest)).isOk = (ofFlags rest).isOk :=
  isOk_bind_ok _ _

theorem isOk_ofFlags_cons {flag : Value} {rest : List Value} (h : isIncludeMark flag → rest = []) :
    (ofFlags (flag :: rest)).isOk ↔ (ofFlag flag).isOk ∧ (ofFlags rest).isOk := by
  rw [ofFlags_cons h]
  cases ofFlag flag <;> simp

theorem exists_reads {tokens : List Value} (h : (ofFlags tokens).isOk) :
    ∃ items, Reads tokens items := by
  have hcons : ∀ {flag : Value} {rest : List Value}, (ofFlag flag).isOk →
      (isIncludeMark flag → rest = []) → (∃ items, Reads rest items) →
        ∃ items, Reads (flag :: rest) items := by
    rintro flag rest hflag hmark ⟨items, hrest⟩
    obtain ⟨i, hi, htokens⟩ := exists_item hflag hmark
    have hreads := Reads.cons hi hrest
    rw [htokens] at hreads
    exact ⟨_, hreads⟩
  induction tokens using ofFlags.induct with
  | case1 => exact ⟨[], .nil⟩
  | case2 flag => exact hcons h (fun _ => rfl) ⟨[], .nil⟩
  | case3 flag next rest hflag ih =>
      rw [eq_of_isIncludeMark hflag] at h ⊢
      rw [isOk_ofFlags_apart] at h
      obtain ⟨items, hreads⟩ := ih h
      exact ⟨_, .cons (i := .apart next) trivial hreads⟩
  | case4 flag next rest hflag ih =>
      have hmark : isIncludeMark flag → next :: rest = [] := fun hmark => absurd hmark hflag
      obtain ⟨hfirst, hrest⟩ := (isOk_ofFlags_cons hmark).mp h
      exact hcons hfirst hmark (ih hrest)

/-- Tokens are flags if and only if they can be read. -/
theorem ofFlags_eq_ok_iff {tokens : List Value} {split : FlagSplit} :
    ofFlags tokens = .ok split ↔ ∃ items, Reads tokens items ∧ split = ofItems items := by
  constructor
  · intro h
    obtain ⟨items, hreads⟩ := exists_reads (isOk_iff.mpr ⟨split, h⟩)
    exact ⟨items, hreads, Except.ok.inj (h.symm.trans (ofFlags_of_reads hreads))⟩
  · rintro ⟨items, hreads, rfl⟩
    exact ofFlags_of_reads hreads

theorem isOk_ofFlag_text (s : Text) : (ofFlag (.text s)).isOk := by
  cases h : Text.beginsWith s includeMark with
  | true => rw [ofFlag_of_beginsWith h, isOk_ok]
  | false => rw [ofFlag_of_not_beginsWith h, isOk_ok]

theorem isOk_ofFlags_texts {tokens : List Value} (h : ∀ v ∈ tokens, ∃ s, v = .text s) :
    (ofFlags tokens).isOk := by
  induction tokens using ofFlags.induct with
  | case1 => rfl
  | case2 flag =>
      obtain ⟨s, rfl⟩ := h flag (List.mem_singleton_self _)
      exact isOk_ofFlag_text s
  | case3 flag next rest hflag ih =>
      rw [eq_of_isIncludeMark hflag, isOk_ofFlags_apart]
      exact ih fun v hv => h v (by simp [hv])
  | case4 flag next rest hflag ih =>
      obtain ⟨⟨s, rfl⟩, hrest⟩ := List.forall_mem_cons.mp h
      exact (isOk_ofFlags_cons fun hmark => absurd hmark hflag).mpr
        ⟨isOk_ofFlag_text s, ih hrest⟩

/-- There is one way to read texts. -/
theorem existsUnique_reads (words : List Text) : ∃! items, Reads (words.map Value.text) items := by
  have htexts : ∀ v ∈ words.map Value.text, ∃ s, v = .text s := by
    intro v hv
    obtain ⟨s, -, rfl⟩ := List.mem_map.mp hv
    exact ⟨s, rfl⟩
  obtain ⟨items, hreads⟩ := exists_reads (isOk_ofFlags_texts htexts)
  exact ⟨items, hreads, fun others hothers => hothers.unique hreads⟩

end FlagSplit

end BindingNames
