import BindingNames.Binary64
import BindingNames.Calendar
import BindingNames.Text.Numeral
import BindingNames.Text.Piece
import BindingNames.Text.Quoted

/-!
Values of a configuration or rule document: scalars, lists, and mappings whose keys are scalars
and keep the order in which they were first written; also tuples and sets, which only documents
with such tags have. A tuple of two scalars may be a key as well, and then is a scalar itself.
Numbers of any kind that are equal are one key, and true and false count as one and zero there.
Putting a key that is present keeps its place and replaces what it maps to.

A document may have the same value in several places, even inside itself. Such a value has a
label, and where it comes again inside itself only the label is left. Labels matter for what is
shown and saved; everything else looks at the bare value.
-/

namespace BindingNames

inductive Scalar where
  | null
  | bool (b : Bool)
  | int (i : Int)
  | float (x : Binary64)
  | text (s : Text)
  | bytes (b : List UInt8)
  | day (d : Day) (label : Option Nat)
  | moment (m : Moment) (label : Option Nat)
  | pair (first second : Scalar) (label : Option Nat)
  deriving DecidableEq, Repr, Inhabited

/-- What a value that comes again inside itself looks like from outside. -/
inductive Shape where
  | list
  | map
  | tuple
  deriving DecidableEq, Repr, Inhabited

inductive Value where
  | scalar (s : Scalar)
  | list (items : List Value)
  | map (fields : List (Scalar × Value))
  | tuple (items : List Value)
  | set (members : List Scalar)
  | shared (label : Nat) (v : Value)
  | again (label : Nat) (shape : Shape)
  deriving Repr, Inhabited

abbrev Fields := List (Scalar × Value)

namespace Scalar

/-- What a number is as a key: its whole value when it has one. -/
inductive Number where
  | whole (i : Int)
  | broken (x : Binary64)
  deriving DecidableEq

def number? : Scalar → Option Number
  | .bool b => some (.whole (if b then 1 else 0))
  | .int i => some (.whole i)
  | .float x =>
    match x.toInt? with
    | some i => some (.whole i)
    | none => some (.broken x)
  | _ => none

/-- Whether two scalars that are neither numbers nor pairs are the same key. -/
def sameOther : Scalar → Scalar → Bool
  | .moment m _, .moment n _ => m.isSame n
  | .day d _, .day e _ => d == e
  | a, b => a == b

/-- Whether two scalars that are no pairs are the same key. -/
def sameSingle (a b : Scalar) : Bool :=
  match a.number?, b.number? with
  | some x, some y => x == y
  | none, none => a.sameOther b
  | _, _ => false

def sameKey : Scalar → Scalar → Bool
  | .pair a b _, .pair c d _ => sameKey a c && sameKey b d
  | a, b => a.sameSingle b

theorem sameOther_refl (a : Scalar) : sameOther a a := by
  cases a <;> simp [sameOther, Moment.isSame_refl]

theorem sameSingle_refl (a : Scalar) : sameSingle a a := by
  simp only [sameSingle]
  cases h : a.number? with
  | none => simp [sameOther_refl]
  | some x => simp

theorem sameKey_refl (a : Scalar) : sameKey a a := by
  induction a with
  | pair a b label iha ihb => simp [sameKey, iha, ihb]
  | _ => exact sameSingle_refl _

def Number.rounded : Number → Binary64
  | .whole i => .ofInt i
  | .broken x => x

def Number.atMost : Number → Number → Bool
  | .whole i, .whole j => i ≤ j
  | x, y => !y.rounded.isLess x.rounded

/-- Whether a scalar that is no pair comes before another one or is the same. -/
def singleAtMost? (a b : Scalar) : Option Bool :=
  match a.number?, b.number? with
  | some x, some y => some (x.atMost y)
  | none, none =>
    match a, b with
    | .text s, .text t => some (s ≤ t)
    | .bytes x, .bytes y => some (!List.lex (y.map UInt8.toNat) (x.map UInt8.toNat) Nat.blt)
    | .day d _, .day e _ => some (d.number ≤ e.number)
    | .moment m _, .moment n _ =>
      match m.universal?, n.universal? with
      | some x, some y => some (x ≤ y)
      | none, none => some (m.readTime ≤ n.readTime)
      | _, _ => none
    | _, _ => none
  | _, _ => none

/-- Whether a scalar comes before another one or is the same. Only scalars of one kind have an
order: numbers, texts, bytes, days, moments that both have a distance from universal time or
both have none, and pairs, of which the first members that differ decide. -/
def atMost? : Scalar → Scalar → Option Bool
  | .pair a b _, .pair c d _ => if a.sameKey c then atMost? b d else atMost? a c
  | a, b => a.singleAtMost? b

/-- Whether the scalar is neither absent, nor false, nor zero, nor empty. -/
def holds : Scalar → Bool
  | .null => false
  | .bool b => b
  | .int i => i != 0
  | .float x => !x.isZero
  | .text s => !s.isEmpty
  | .bytes b => !b.isEmpty
  | .day _ _ => true
  | .moment _ _ => true
  | .pair _ _ _ => true

/-- The label of a scalar that may be told from an equal one. -/
def label? : Scalar → Option Nat
  | .day _ label => label
  | .moment _ label => label
  | .pair _ _ label => label
  | _ => none

def kindName : Scalar → Text
  | .null => "NoneType"
  | .bool _ => "bool"
  | .int _ => "int"
  | .float _ => "float"
  | .text _ => "str"
  | .bytes _ => "bytes"
  | .day _ _ => "datetime.date"
  | .moment _ _ => "datetime.datetime"
  | .pair _ _ _ => "tuple"

def shown : Scalar → Text
  | .null => "None"
  | .bool true => "True"
  | .bool false => "False"
  | .int i => Text.ofInt i
  | .float x => x.toText
  | .text s => Text.quoted s
  | .bytes b => Text.quotedBytes b
  | .day d _ => d.shown
  | .moment m _ => m.shown
  | .pair a b _ => "(" ++ a.shown ++ ", " ++ b.shown ++ ")"

/-- Whether a scalar can be shown, as far as its numbers go. -/
def isShown : Scalar → Bool
  | .int i => Text.Numeral.isShown i
  | .pair a b _ => a.isShown && b.isShown
  | _ => true

/-- A scalar as messages include it: text, days and moments stand for themselves. -/
def plain : Scalar → Text
  | .text s => s
  | .day d _ => d.toText
  | .moment m _ => m.toText
  | s => s.shown

end Scalar

/-- The value that a key is: a pair is a tuple. -/
def Scalar.toValue : Scalar → Value
  | .pair a b none => .tuple [a.toValue, b.toValue]
  | .pair a b (some label) => .shared label (.tuple [a.toValue, b.toValue])
  | s => .scalar s

namespace Value

def null : Value := .scalar .null

def text (s : Text) : Value := .scalar (.text s)

def int (i : Int) : Value := .scalar (.int i)

def bool (b : Bool) : Value := .scalar (.bool b)

def get? (key : Scalar) : List (Scalar × α) → Option α
  | [] => none
  | (k, v) :: rest => if k.sameKey key then some v else get? key rest

def put (key : Scalar) (value : α) : List (Scalar × α) → List (Scalar × α)
  | [] => [(key, value)]
  | (k, v) :: rest => if k.sameKey key then (k, value) :: rest else (k, v) :: put key value rest

/-- The fields that result from putting the pairs of a list in turn. -/
def ofPairs (pairs : List (Scalar × α)) : List (Scalar × α) :=
  pairs.foldl (fun fields p => put p.1 p.2 fields) []

theorem get?_put_self (key : Scalar) (value : α) (fields : List (Scalar × α)) :
    get? key (put key value fields) = some value := by
  induction fields with
  | nil => simp [put, get?, Scalar.sameKey_refl]
  | cons p rest ih =>
    simp only [put]
    split
    · simp [get?, *]
    · simp [get?, *]

@[simp] theorem get?_nil (key : Scalar) : get? key ([] : List (Scalar × α)) = none := rfl

mutual

/-- The value with another one in place of a label that comes again. -/
def unrolled (label : Nat) (whole : Value) : Value → Value
  | .list items => .list (unrolledList label whole items)
  | .map fields => .map (unrolledFields label whole fields)
  | .tuple items => .tuple (unrolledList label whole items)
  | .shared l v => .shared l (unrolled label whole v)
  | .again l shape => if l = label then whole else .again l shape
  | .scalar s => .scalar s
  | .set members => .set members

def unrolledList (label : Nat) (whole : Value) : List Value → List Value
  | [] => []
  | v :: rest => unrolled label whole v :: unrolledList label whole rest

def unrolledFields (label : Nat) (whole : Value) : Fields → Fields
  | [] => []
  | (k, v) :: rest => (k, unrolled label whole v) :: unrolledFields label whole rest

end

def bare : Value → Value
  | .shared label v => unrolled label (.shared label v) v
  | v => v

@[simp] theorem bare_scalar (s : Scalar) : bare (.scalar s) = .scalar s := rfl

@[simp] theorem bare_map (fields : Fields) : bare (.map fields) = .map fields := rfl

def holds : Value → Bool
  | .scalar s => s.holds
  | .list items => !items.isEmpty
  | .map fields => !fields.isEmpty
  | .tuple items => !items.isEmpty
  | .set members => !members.isEmpty
  | .shared _ v => v.holds
  | .again _ _ => true

def kindName : Value → Text
  | .scalar s => s.kindName
  | .list _ => "list"
  | .map _ => "dict"
  | .tuple _ => "tuple"
  | .set _ => "set"
  | .shared _ v => v.kindName
  | .again _ .list => "list"
  | .again _ .map => "dict"
  | .again _ .tuple => "tuple"

def shortKindName (v : Value) : Text :=
  (v.kindName.reverse.takeWhile (· != Code.char '.')).reverse

def between (left : Text) (parts : List Text) (right : Text) : Text :=
  left ++ Text.joinWith ", " parts ++ right

/-- What is shown of a value inside itself. -/
def shownAgain : Shape → Text
  | .list => "[...]"
  | .map => "\x7b...\x7d"
  | .tuple => "(...)"

def shape : Value → Shape
  | .map _ => .map
  | .tuple _ => .tuple
  | .shared _ v => v.shape
  | .again _ shape => shape
  | _ => .list

mutual

/-- A value as messages quote it, inside some labelled ones. -/
def shownIn (inside : List Nat) : Value → Text
  | .scalar s => s.shown
  | .list items => between "[" (shownList inside items) "]"
  | .map fields => between "\x7b" (shownFields inside fields) "\x7d"
  | .tuple [v] => "(" ++ shownIn inside v ++ ",)"
  | .tuple items => between "(" (shownList inside items) ")"
  | .set [] => "set()"
  | .set members => between "\x7b" (members.map Scalar.shown) "\x7d"
  | .shared label v =>
    if inside.contains label then shownAgain v.shape else shownIn (label :: inside) v
  | .again _ shape => shownAgain shape

def shownList (inside : List Nat) : List Value → List Text
  | [] => []
  | v :: rest => shownIn inside v :: shownList inside rest

def shownFields (inside : List Nat) : Fields → List Text
  | [] => []
  | (k, v) :: rest => (k.shown ++ ": " ++ shownIn inside v) :: shownFields inside rest

end

def shown (v : Value) : Text :=
  shownIn [] v

mutual

def isShown : Value → Bool
  | .scalar s => s.isShown
  | .list items => isShownList items
  | .tuple items => isShownList items
  | .map fields => isShownFields fields
  | .set members => members.all Scalar.isShown
  | .shared _ v => isShown v
  | .again _ _ => true

def isShownList : List Value → Bool
  | [] => true
  | v :: rest => isShown v && isShownList rest

def isShownFields : Fields → Bool
  | [] => true
  | (k, v) :: rest => k.isShown && isShown v && isShownFields rest

end

/-- A value as messages include it: a scalar as it does, anything else in quotes. -/
def plain : Value → Text
  | .scalar s => s.plain
  | v => v.shown

def asText? : Value → Option Text
  | .scalar (.text s) => some s
  | _ => none

mutual

/-- The key that a value is; an error is the value, in it or itself, that can be no key. -/
def toKey : Value → Except Value Scalar
  | .scalar s => return s
  | .tuple items => keyOfItems none items
  | .shared label (.tuple items) => keyOfItems (some label) items
  | v => throw v

def keyOfItems (label : Option Nat) : List Value → Except Value Scalar
  | [v, w] => return .pair (← toKey v) (← toKey w) label
  | items => throw (.tuple items)

end

@[simp] theorem asText?_text (s : Text) : asText? (text s) = some s := rfl

theorem asText?_eq_some_iff {v : Value} {s : Text} : v.asText? = some s ↔ v = text s := by
  constructor
  · intro h
    unfold asText? at h
    split at h
    · rw [← Option.some.inj h]
      rfl
    · contradiction
  · rintro rfl
    rfl

/-- What going through a value yields: items, characters, bytes or keys. Other scalars have
none. -/
def members? (v : Value) : Option (List Value) :=
  match v.bare with
  | .list items => some items
  | .map fields => some (fields.map (·.1.toValue))
  | .tuple items => some items
  | .set members => some (members.map Scalar.toValue)
  | .scalar (.text s) => some (s.map fun c => text [c])
  | .scalar (.bytes b) => some (b.map fun n => int n.toNat)
  | _ => none

end Value

end BindingNames
