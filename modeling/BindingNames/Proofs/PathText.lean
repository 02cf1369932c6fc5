import BindingNames.Path
import BindingNames.Proofs.TextPieces

/-!
Paths and their texts. A path that was read from a text, or put together from such paths, is given
back by its own text, so its text tells it from all other ones.
-/

namespace BindingNames.Path

/-- The root and the parts are such as texts have. -/
structure IsProper (p : Path) : Prop where
  root : p.root = "" ∨ p.root = "/" ∨ p.root = "//"
  parts : ∀ s ∈ p.parts, isPart s ∧ Code.char '/' ∉ s

variable {p q : Path}

/-! ### Segments -/

theorem segments_eq_pieces (s : Text) : segments s = Text.pieces (· == .char '/') s :=
  (Text.pieces_eq_splitOnP _ _).symm

theorem segments_append_cons (s t : Text) :
    segments (s ++ .char '/' :: t) = segments s ++ segments t := by
  rw [segments_eq_pieces, segments_eq_pieces, segments_eq_pieces]
  exact Text.pieces_append_cons (p := (· == .char '/')) (beq_self_eq_true _) s t

theorem segments_of_not_mem {s : Text} (h : Code.char '/' ∉ s) : segments s = [s] := by
  rw [segments_eq_pieces]
  exact Text.pieces_of_forall_not fun c hc => beq_eq_false_iff_ne.mpr fun heq => h (heq ▸ hc)

theorem not_mem_of_mem_segments {s t : Text} (h : t ∈ segments s) : Code.char '/' ∉ t := by
  rw [segments_eq_pieces] at h
  intro hmem
  exact absurd (Text.not_of_mem_pieces h hmem) (by simp)

theorem segments_joinWith {parts : List Text} (hparts : parts ≠ [])
    (h : ∀ s ∈ parts, Code.char '/' ∉ s) : segments (Text.joinWith "/" parts) = parts := by
  induction parts with
  | nil => contradiction
  | cons s rest ih =>
      obtain ⟨hs, hrest⟩ := List.forall_mem_cons.mp h
      cases rest with
      | nil => exact segments_of_not_mem hs
      | cons t rest =>
          show segments (s ++ [Code.char '/'] ++ Text.joinWith "/" (t :: rest)) = _
          rw [List.append_assoc, List.singleton_append, segments_append_cons,
            segments_of_not_mem hs, ih (by simp) hrest]
          rfl

/-! ### Proper paths -/

theorem rootOf_cases (s : Text) : rootOf s = "" ∨ rootOf s = "/" ∨ rootOf s = "//" := by
  unfold rootOf
  split <;> simp

theorem isProper_ofText (s : Text) : (ofText s).IsProper where
  root := rootOf_cases s
  parts t ht := by
    obtain ⟨hmem, hpart⟩ := List.mem_filter.mp ht
    exact ⟨hpart, not_mem_of_mem_segments hmem⟩

theorem IsProper.join (hp : p.IsProper) (hq : q.IsProper) : (p.join q).IsProper := by
  rw [Path.join]
  split
  · exact hq
  · exact ⟨hp.root, List.forall_mem_append.mpr ⟨hp.parts, hq.parts⟩⟩

/-- The parts of a proper path do not begin like a root. -/
theorem head?_joinWith_ne {parts : List Text}
    (h : ∀ s ∈ parts, isPart s ∧ Code.char '/' ∉ s) :
    (Text.joinWith "/" parts).head? ≠ some (.char '/') := by
  cases parts with
  | nil => nofun
  | cons s rest =>
      obtain ⟨hpart, hs⟩ := h s List.mem_cons_self
      cases s with
      | nil => contradiction
      | cons c cs =>
          have hc : c ≠ .char '/' := fun hc => hs (hc ▸ List.mem_cons_self)
          cases rest <;> simpa [Text.joinWith] using hc

theorem rootOf_append {root body : Text} (hroot : root = "" ∨ root = "/" ∨ root = "//")
    (hbody : body.head? ≠ some (.char '/')) : rootOf (root ++ body) = root := by
  cases body with
  | nil => rcases hroot with rfl | rfl | rfl <;> decide
  | cons c cs =>
      have hc : c ≠ .char '/' := by simpa using hbody
      rcases hroot with rfl | rfl | rfl
      · show rootOf (c :: cs) = _
        unfold rootOf
        split <;> simp_all
      · show rootOf (.char '/' :: c :: cs) = _
        unfold rootOf
        split <;> simp_all
      · show rootOf (.char '/' :: .char '/' :: c :: cs) = _
        unfold rootOf
        split <;> grind

theorem segments_append {root body : Text} (hroot : root = "" ∨ root = "/" ∨ root = "//") :
    (segments (root ++ body)).filter isPart = (segments body).filter isPart := by
  have hnil : segments [] = [[]] := rfl
  rcases hroot with rfl | rfl | rfl
  · rfl
  · show (segments ([] ++ .char '/' :: body)).filter isPart = _
    rw [segments_append_cons, hnil]
    rfl
  · show (segments ([.char '/'] ++ .char '/' :: body)).filter isPart = _
    rw [segments_append_cons, show segments [.char '/'] = [[], []] from rfl]
    rfl

/-- A proper path is the one that its text is read as. -/
theorem ofText_toText (h : p.IsProper) : ofText p.toText = p := by
  obtain ⟨root, parts⟩ := p
  obtain ⟨hroot, hparts⟩ := h
  cases parts with
  | nil => rcases hroot with h | h | h <;> obtain rfl : root = _ := h <;> decide
  | cons s rest =>
      have htext : toText ⟨root, s :: rest⟩ = root ++ Text.joinWith "/" (s :: rest) := by
        simp [toText]
      have hfilter : (s :: rest).filter isPart = s :: rest :=
        List.filter_eq_self.mpr fun t ht => (hparts t ht).1
      rw [htext, ofText, rootOf_append hroot (head?_joinWith_ne hparts), segments_append hroot,
        segments_joinWith (by simp) fun t ht => (hparts t ht).2, hfilter]

theorem toText_inj (hp : p.IsProper) (hq : q.IsProper) : p.toText = q.toText ↔ p = q := by
  constructor
  · intro h
    rw [← ofText_toText hp, h, ofText_toText hq]
  · rintro rfl
    rfl

end BindingNames.Path
