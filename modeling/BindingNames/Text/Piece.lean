import BindingNames.Text.Code

/-!
Parts of texts: what begins a text, what ends it, and what is left once a beginning is cut off.
-/

namespace BindingNames.Text

def beginsWith (s p : Text) : Bool :=
  p.isPrefixOf s

def endsWith (s p : Text) : Bool :=
  p.isSuffixOf s

theorem beginsWith_iff {s p : Text} : beginsWith s p ↔ p <+: s := by
  simp [beginsWith]

@[simp] theorem beginsWith_append (p s : Text) : beginsWith (p ++ s) p :=
  beginsWith_iff.mpr (List.prefix_append p s)

theorem append_drop_of_beginsWith {s p : Text} (h : beginsWith s p) : p ++ s.drop p.length = s := by
  rw [beginsWith_iff, List.prefix_iff_eq_append] at h
  exact h

def exchange (a b : Code) (s : Text) : Text :=
  s.map fun c => if c == a then b else c

def joinWith (separator : Text) : List Text → Text
  | [] => []
  | [s] => s
  | s :: t :: rest => s ++ separator ++ joinWith separator (t :: rest)

end BindingNames.Text
