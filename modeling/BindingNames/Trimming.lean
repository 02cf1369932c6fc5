import BindingNames.Failure

/-!
Beginnings that are trimmed from names. The first beginning that a name has is cut off. A pair of
texts counts as either of them, and takes as many characters off as it has members. A setting
that lists beginnings may hold values that are none; what comes before the first of these still
counts, and only a name that has none of it is out of luck.
-/

namespace BindingNames

/-- What a name may begin with: a text, or one of several with the same number of characters to
take off. -/
inductive Beginning where
  | text (s : Text)
  | choice (texts : List Text) (width : Nat)
  deriving DecidableEq, Repr, Inhabited

namespace Beginning

/-- Whether a name has the beginning; an empty text is no beginning. -/
def begins : Beginning → Text → Bool
  | .text s, name => !s.isEmpty && Text.beginsWith name s
  | .choice texts _, name => texts.any (Text.beginsWith name)

def width : Beginning → Nat
  | .text s => s.length
  | .choice _ width => width

end Beginning

/-- The name without the first of some beginnings that it has. -/
def dropBeginning : List Beginning → Text → Text
  | [], name => name
  | b :: bs, name => if b.begins name then name.drop b.width else dropBeginning bs name

/-- Trimming leaves the end of a name. -/
theorem dropBeginning_suffix (bs : List Beginning) (name : Text) :
    dropBeginning bs name <:+ name := by
  induction bs with
  | nil => exact List.suffix_refl name
  | cons b bs ih =>
    simp only [dropBeginning]
    split
    · exact List.drop_suffix b.width name
    · exact ih

/-- Beginnings as a setting gives them, up to a value that is none. -/
structure Trimming where
  beginnings : List Beginning
  wrong : Option KindFault
  deriving Repr, Inhabited

namespace Trimming

def none : Trimming := ⟨[], .none⟩

/-- The texts that come first among some values, and the value behind them that is no text. -/
def splitTexts : List Value → List Text × Option Value
  | [] => ([], .none)
  | .scalar (.text s) :: rest => (s :: (splitTexts rest).1, (splitTexts rest).2)
  | v :: _ => ([], some v)

/-- The beginnings among some values; those that do not hold are left out. -/
def ofMembers : List Value → Trimming
  | [] => none
  | v :: rest =>
    if !v.holds then ofMembers rest
    else
      match v.bare with
      | .scalar (.text s) =>
        { ofMembers rest with beginnings := .text s :: (ofMembers rest).beginnings }
      | .tuple items =>
        let (texts, wrong) := splitTexts items
        let b := Beginning.choice texts items.length
        match wrong with
        | .none => { ofMembers rest with beginnings := b :: (ofMembers rest).beginnings }
        | some w => ⟨[b], some (.notChoice w)⟩
      | other => ⟨[], some (.notBeginning other)⟩

def ofValue (v : Value) : Except Failure Trimming :=
  match v.members? with
  | some members => return ofMembers members
  | .none => throw (.kind (.notIterable v))

def cut (t : Trimming) (name : Text) : Text :=
  dropBeginning t.beginnings name

/-- What goes wrong when a name is trimmed: it has no beginning before the value that is none. -/
def fault? (t : Trimming) (name : Text) : Option Failure :=
  if t.beginnings.any (·.begins name) then .none else t.wrong.map Failure.kind

@[simp] theorem cut_none (name : Text) : none.cut name = name := rfl

theorem fault?_of_wrong_eq_none {t : Trimming} (h : t.wrong = .none) (name : Text) :
    t.fault? name = .none := by
  simp [fault?, h]

end Trimming

end BindingNames
