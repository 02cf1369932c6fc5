/-!
Text, which is a list of codes. A code is a character or a half of one: a character beyond the
first plane is written as two units of sixteen bits, and a document may escape one of them alone.
Codes and texts are in the order of code points, where the halves have the place between the two
parts of the range of characters. A string of characters stands for the text of them.
-/

namespace BindingNames

/-- The first unit that is a half, and the first that is none. -/
def firstHalf : Nat := 0xD800
def endHalf : Nat := 0xE000

inductive Code where
  | char (c : Char)
  | half (i : Fin 2048)
  deriving DecidableEq, Repr, Inhabited

abbrev Text := List Code

namespace Code

instance : Coe Char Code := ⟨.char⟩

def toNat : Code → Nat
  | .char c => c.toNat
  | .half i => firstHalf + i

def ofNat (n : Nat) : Code :=
  if h : firstHalf ≤ n ∧ n < endHalf then
    .half ⟨n - firstHalf, by simp only [firstHalf, endHalf] at h ⊢; omega⟩
  else .char (Char.ofNat n)

def char? : Code → Option Char
  | .char c => some c
  | .half _ => none

def isHalf : Code → Bool
  | .char _ => false
  | .half _ => true

theorem toNat_lt (c : Code) : c.toNat < 0x110000 := by
  cases c with
  | char c =>
    have h := c.valid
    simp only [UInt32.isValidChar, Nat.isValidChar] at h
    show c.val.toNat < _
    omega
  | half i =>
    simp only [toNat, firstHalf]
    omega

theorem toNat_char_lt_or (c : Char) : c.toNat < firstHalf ∨ endHalf ≤ c.toNat := by
  have h := c.valid
  simp only [UInt32.isValidChar, Nat.isValidChar] at h
  simp only [firstHalf, endHalf]
  show c.val.toNat < _ ∨ _ ≤ c.val.toNat
  omega

@[simp] theorem ofNat_toNat (c : Code) : ofNat c.toNat = c := by
  cases c with
  | char c =>
    have h := toNat_char_lt_or c
    rw [ofNat, dif_neg]
    · simp [toNat]
    · simp only [toNat]
      omega
  | half i =>
    have h : firstHalf ≤ firstHalf + i.val ∧ firstHalf + i.val < endHalf := by
      simp only [firstHalf, endHalf]
      omega
    simp [ofNat, toNat, h]

theorem toNat_inj {a b : Code} : a.toNat = b.toNat ↔ a = b := by
  constructor
  · intro h
    rw [← ofNat_toNat a, ← ofNat_toNat b, h]
  · exact congrArg toNat

theorem toNat_ofNat_of_isValidChar {n : Nat} (h : n.isValidChar) : (ofNat n).toNat = n := by
  have hn : ¬(firstHalf ≤ n ∧ n < endHalf) := by
    simp only [Nat.isValidChar] at h
    simp only [firstHalf, endHalf]
    omega
  rw [ofNat, dif_neg hn, toNat, Char.ofNat, dif_pos h]
  rfl

theorem toNat_ofNat {n : Nat} (h : n < 0x110000) : (ofNat n).toNat = n := by
  by_cases hn : firstHalf ≤ n ∧ n < endHalf
  · rw [ofNat, dif_pos hn]
    simp only [toNat]
    omega
  · refine toNat_ofNat_of_isValidChar ?_
    simp only [firstHalf, endHalf] at hn
    simp only [Nat.isValidChar]
    omega

instance : LT Code := ⟨fun a b => a.toNat < b.toNat⟩

instance : LE Code := ⟨fun a b => a.toNat ≤ b.toNat⟩

instance : DecidableLT Code := fun a b => inferInstanceAs (Decidable (a.toNat < b.toNat))

instance : DecidableLE Code := fun a b => inferInstanceAs (Decidable (a.toNat ≤ b.toNat))

instance : Std.Irrefl (fun a b : Code => a < b) := ⟨fun a => Nat.lt_irrefl a.toNat⟩

instance : Std.Asymm (fun a b : Code => a < b) := ⟨fun _ _ => Nat.lt_asymm⟩

instance : Std.Antisymm (fun a b : Code => ¬a < b) :=
  ⟨fun _ _ h k => toNat_inj.1 (Nat.le_antisymm (Nat.not_lt.1 k) (Nat.not_lt.1 h))⟩

instance : Trans (fun a b : Code => a < b) (fun a b : Code => a < b) (fun a b : Code => a < b) :=
  ⟨Nat.lt_trans⟩

/-- Whether the code is a digit of ASCII; what follows tells its letters. -/
def isDigit : Code → Bool
  | .char c => c.isDigit
  | .half _ => false

def isUpper : Code → Bool
  | .char c => c.isUpper
  | .half _ => false

def isAlpha : Code → Bool
  | .char c => c.isAlpha
  | .half _ => false

def isAlphanum : Code → Bool
  | .char c => c.isAlphanum
  | .half _ => false

theorem isAlphanum_of_isAlpha {c : Code} (h : c.isAlpha) : c.isAlphanum := by
  cases c with
  | char c => simp_all [isAlpha, isAlphanum, Char.isAlphanum]
  | half i => simp [isAlpha] at h

/-- The code with a letter of ASCII in the other case. -/
def toUpper : Code → Code
  | .char c => .char c.toUpper
  | .half i => .half i

def toLower : Code → Code
  | .char c => .char c.toLower
  | .half i => .half i

@[simp] theorem toNat_char (c : Char) : (char c).toNat = c.toNat := rfl

end Code

namespace Text

def ofString (s : String) : Text :=
  s.toList.map .char

instance : Coe String Text := ⟨ofString⟩

/-- The string of the characters of a text, its halves left out. -/
def toChars (t : Text) : String :=
  String.ofList (t.filterMap Code.char?)

def contains (t : Text) (c : Code) : Bool :=
  t.any (· == c)

def repeated (n : Nat) (c : Code) : Text :=
  List.replicate n c

def ofUtf8? (b : List UInt8) : Option Text :=
  (String.fromUTF8? ⟨b.toArray⟩).map ofString

/-- How many bytes a text takes in its usual code, a half as many as a character of its place. -/
def utf8Size (t : Text) : Nat :=
  (t.map fun c => if c.toNat < 0x80 then 1 else if c.toNat < 0x800 then 2
    else if c.toNat < 0x10000 then 3 else 4).foldl (· + ·) 0

def ofNat (n : Nat) : Text :=
  (Nat.toDigits 10 n).map .char

def ofInt : Int → Text
  | .ofNat n => ofNat n
  | .negSucc n => .char '-' :: ofNat (n + 1)

end Text

end BindingNames
