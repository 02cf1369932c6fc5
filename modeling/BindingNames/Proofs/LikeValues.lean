import BindingNames.Value
import Mathlib.Data.List.Forall2

/-!
Values apart from their labels. A document that is written and read again gives its values other
labels, so what comes back is not the same value but one that cannot be told from it without
looking at labels: from outside both are of one kind, and their members are like each other again,
however deep one goes. A value that comes again inside itself can be entered without end, so
likeness is the largest relation of this kind.
-/

namespace BindingNames

namespace Scalar

def unlabelled : Scalar → Scalar
  | .day d _ => .day d none
  | .moment m _ => .moment m none
  | .pair a b _ => .pair a.unlabelled b.unlabelled none
  | s => s

theorem unlabelled_eq_text_iff {s : Scalar} {t : Text} : s.unlabelled = .text t ↔ s = .text t := by
  cases s <;> simp [unlabelled]

theorem holds_unlabelled (s : Scalar) : s.unlabelled.holds = s.holds := by
  cases s <;> rfl

end Scalar

namespace Value

variable {R S : Value → Value → Prop} {v w : Value} {xs ys : List Value} {fs gs : Fields}

/-! ### What is inside a label -/

@[simp] theorem isEmpty_unrolledList (label : Nat) (whole : Value) (items : List Value) :
    (unrolledList label whole items).isEmpty = items.isEmpty := by
  cases items <;> rfl

@[simp] theorem isEmpty_unrolledFields (label : Nat) (whole : Value) (fields : Fields) :
    (unrolledFields label whole fields).isEmpty = fields.isEmpty := by
  cases fields <;> rfl

theorem holds_unrolled (label : Nat) {whole : Value} :
    ∀ v : Value, whole.holds = v.holds → (unrolled label whole v).holds = v.holds
  | .scalar _, _ => rfl
  | .list items, _ => by simp [unrolled, holds]
  | .map fields, _ => by simp [unrolled, holds]
  | .tuple items, _ => by simp [unrolled, holds]
  | .set _, _ => rfl
  | .shared _ v, h => holds_unrolled label v h
  | .again l shape, h => by
      rw [unrolled]
      split
      · exact h
      · rfl

@[simp] theorem holds_bare (v : Value) : v.bare.holds = v.holds := by
  cases v with
  | shared label u => exact holds_unrolled label u rfl
  | _ => rfl

theorem holds_of_bare (h : v.bare = w) : v.holds = w.holds := by
  rw [← h, holds_bare]

/-- A collection holds exactly if it is not empty, so only its length counts. -/
theorem isEmpty_eq_of_length_eq {α β : Type} {as : List α} {bs : List β}
    (h : as.length = bs.length) : as.isEmpty = bs.isEmpty := by
  cases as <;> cases bs <;> simp_all

/-! ### Likeness -/

/-- Fields with keys that are the same apart from labels, and related values. -/
def RelatedFields (R : Value → Value → Prop) (f g : Scalar × Value) : Prop :=
  f.1.unlabelled = g.1.unlabelled ∧ R f.2 g.2

/-- Values of one kind with related members. -/
inductive LikeOutside (R : Value → Value → Prop) : Value → Value → Prop where
  | scalar {s t : Scalar} (h : s.unlabelled = t.unlabelled) : LikeOutside R (.scalar s) (.scalar t)
  | list {v w : Value} {xs ys : List Value} (hv : v.bare = .list xs) (hw : w.bare = .list ys)
      (h : List.Forall₂ R xs ys) : LikeOutside R v w
  | tuple {v w : Value} {xs ys : List Value} (hv : v.bare = .tuple xs) (hw : w.bare = .tuple ys)
      (h : List.Forall₂ R xs ys) : LikeOutside R v w
  | map {v w : Value} {fs gs : Fields} (hv : v.bare = .map fs) (hw : w.bare = .map gs)
      (h : List.Forall₂ (RelatedFields R) fs gs) : LikeOutside R v w
  | set {v w : Value} {ms ns : List Scalar} (hv : v.bare = .set ms) (hw : w.bare = .set ns)
      (h : ms.map Scalar.unlabelled = ns.map Scalar.unlabelled) : LikeOutside R v w

/-- Two values are like each other if they are so from outside, and so are all that can be reached
in them. -/
def Like (v w : Value) : Prop :=
  ∃ R : Value → Value → Prop, (∀ v w, R v w → LikeOutside R v w) ∧ R v w

theorem RelatedFields.mono (hRS : ∀ v w, R v w → S v w) {f g : Scalar × Value}
    (h : RelatedFields R f g) : RelatedFields S f g :=
  ⟨h.1, hRS _ _ h.2⟩

theorem LikeOutside.mono (hRS : ∀ v w, R v w → S v w) (h : LikeOutside R v w) :
    LikeOutside S v w := by
  cases h with
  | scalar h => exact .scalar h
  | list hv hw h => exact .list hv hw (h.imp hRS)
  | tuple hv hw h => exact .tuple hv hw (h.imp hRS)
  | map hv hw h => exact .map hv hw (h.imp fun _ _ => RelatedFields.mono hRS)
  | set hv hw h => exact .set hv hw h

theorem Like.outside (h : Like v w) : LikeOutside Like v w := by
  obtain ⟨R, hR, h⟩ := h
  exact (hR v w h).mono fun v w h => ⟨R, hR, h⟩

/-- Whatever is like from outside, with members that are like each other, is like. -/
theorem like_of_outside (h : LikeOutside Like v w) : Like v w := by
  refine ⟨fun v w => Like v w ∨ LikeOutside Like v w, ?_, .inr h⟩
  rintro v w (h | h)
  · exact h.outside.mono fun _ _ => .inl
  · exact h.mono fun _ _ => .inl

namespace Like

theorem text_iff {s : Text} : Like v (text s) ↔ v = text s := by
  constructor
  · intro h
    cases h.outside with
    | scalar h => rw [Scalar.unlabelled_eq_text_iff.mp h]; rfl
    | list _ hw _ | tuple _ hw _ | map _ hw _ | set _ hw _ => exact absurd hw (by simp [text])
  · rintro rfl
    exact like_of_outside (.scalar rfl)

theorem eq_text {s : Text} (h : Like (text s) w) : w = text s := by
  cases h.outside with
  | scalar heq => rw [Scalar.unlabelled_eq_text_iff.mp heq.symm]; rfl
  | list hv _ _ | tuple hv _ _ | map hv _ _ | set hv _ _ => exact absurd hv (by simp [text])

theorem exists_list (h : Like v w) (hys : w.bare = .list ys) :
    ∃ xs, v.bare = .list xs ∧ List.Forall₂ Like xs ys := by
  cases h.outside with
  | scalar _ => cases hys
  | list hv hw h =>
      cases hys.symm.trans hw
      exact ⟨_, hv, h⟩
  | tuple _ hw _ | map _ hw _ | set _ hw _ => cases hys.symm.trans hw

theorem exists_map (h : Like v w) (hgs : w.bare = .map gs) :
    ∃ fs, v.bare = .map fs ∧ List.Forall₂ (RelatedFields Like) fs gs := by
  cases h.outside with
  | scalar _ => cases hgs
  | map hv hw h =>
      cases hgs.symm.trans hw
      exact ⟨_, hv, h⟩
  | list _ hw _ | tuple _ hw _ | set _ hw _ => cases hgs.symm.trans hw

theorem holds_eq (h : Like v w) : v.holds = w.holds := by
  cases h.outside with
  | @scalar s t heq =>
      show s.holds = t.holds
      rw [← s.holds_unlabelled, heq, t.holds_unlabelled]
  | list hv hw h | tuple hv hw h | map hv hw h =>
      rw [holds_of_bare hv, holds_of_bare hw]
      exact congrArg not (isEmpty_eq_of_length_eq h.length_eq)
  | set hv hw h =>
      rw [holds_of_bare hv, holds_of_bare hw]
      exact congrArg not (isEmpty_eq_of_length_eq (by simpa using congrArg List.length h))

end Like

/-! ### Likeness by a look -/

def opened : Value → Value
  | .shared _ v => v
  | v => v

def isCollection : Value → Bool
  | .list _ | .map _ | .tuple _ | .set _ => true
  | _ => false

mutual

/-- Whether two values, neither of which comes again inside itself, are like each other. -/
def looksLike : Value → Value → Bool
  | .scalar s, w =>
    match w with
    | .scalar t => s.unlabelled == t.unlabelled
    | _ => false
  | .list xs, w =>
    match w.opened with
    | .list ys => lookLike xs ys
    | _ => false
  | .tuple xs, w =>
    match w.opened with
    | .tuple ys => lookLike xs ys
    | _ => false
  | .map fs, w =>
    match w.opened with
    | .map gs => fieldsLookLike fs gs
    | _ => false
  | .set ms, w =>
    match w.opened with
    | .set ns => ms.map Scalar.unlabelled == ns.map Scalar.unlabelled
    | _ => false
  | .shared _ v, w => v.isCollection && looksLike v w
  | .again _ _, _ => false

def lookLike : List Value → List Value → Bool
  | [], ys => ys.isEmpty
  | x :: xs, ys =>
    match ys with
    | y :: ys => looksLike x y && lookLike xs ys
    | [] => false

def fieldsLookLike : Fields → Fields → Bool
  | [], gs => gs.isEmpty
  | (k, v) :: fs, gs =>
    match gs with
    | (l, w) :: gs => k.unlabelled == l.unlabelled && looksLike v w && fieldsLookLike fs gs
    | [] => false

end

theorem looksLike_list_iff :
    looksLike (.list xs) w ↔ ∃ ys, w.opened = .list ys ∧ lookLike xs ys := by
  rw [looksLike]
  split <;> simp_all

theorem looksLike_tuple_iff :
    looksLike (.tuple xs) w ↔ ∃ ys, w.opened = .tuple ys ∧ lookLike xs ys := by
  rw [looksLike]
  split <;> simp_all

theorem looksLike_map_iff :
    looksLike (.map fs) w ↔ ∃ gs, w.opened = .map gs ∧ fieldsLookLike fs gs := by
  rw [looksLike]
  split <;> simp_all

theorem looksLike_set_iff {ms : List Scalar} : looksLike (.set ms) w ↔
    ∃ ns, w.opened = .set ns ∧ ms.map Scalar.unlabelled = ns.map Scalar.unlabelled := by
  rw [looksLike]
  split <;> simp_all

theorem opened_eq (v : Value) : v = v.opened ∨ ∃ label, v = .shared label v.opened := by
  cases v with
  | shared label u => exact .inr ⟨label, rfl⟩
  | _ => exact .inl rfl

/-- What is known of a value by its looks under a label holds of it, too. -/
theorem unrolled_of_opened {u : Value} (label : Nat) (whole : Value) (h : w.opened = u)
    (hu : unrolled label whole u = u) : unrolled label whole w = w := by
  rcases w.opened_eq with hw | ⟨l, hw⟩
  · rw [hw, h, hu]
  · rw [hw, h, unrolled, hu]

mutual

/-- Values that look like each other have no value inside itself. -/
theorem unrolled_of_looksLike (label : Nat) (whole : Value) : ∀ v w : Value, looksLike v w →
    unrolled label whole v = v ∧ unrolled label whole w = w
  | .scalar s, w, h => by
      cases w with
      | scalar t => exact ⟨rfl, rfl⟩
      | _ => simp [looksLike] at h
  | .list xs, w, h => by
      obtain ⟨ys, hw, hlook⟩ := looksLike_list_iff.mp h
      obtain ⟨hxs, hys⟩ := unrolled_of_lookLike label whole xs ys hlook
      exact ⟨by rw [unrolled, hxs], unrolled_of_opened label whole hw (by rw [unrolled, hys])⟩
  | .tuple xs, w, h => by
      obtain ⟨ys, hw, hlook⟩ := looksLike_tuple_iff.mp h
      obtain ⟨hxs, hys⟩ := unrolled_of_lookLike label whole xs ys hlook
      exact ⟨by rw [unrolled, hxs], unrolled_of_opened label whole hw (by rw [unrolled, hys])⟩
  | .map fs, w, h => by
      obtain ⟨gs, hw, hlook⟩ := looksLike_map_iff.mp h
      obtain ⟨hfs, hgs⟩ := unrolled_of_fieldsLookLike label whole fs gs hlook
      exact ⟨by rw [unrolled, hfs], unrolled_of_opened label whole hw (by rw [unrolled, hgs])⟩
  | .set ms, w, h => by
      obtain ⟨ns, hw, -⟩ := looksLike_set_iff.mp h
      exact ⟨rfl, unrolled_of_opened label whole hw rfl⟩
  | .shared l v, w, h => by
      simp only [looksLike, Bool.and_eq_true] at h
      obtain ⟨hv, hw⟩ := unrolled_of_looksLike label whole v w h.2
      exact ⟨by rw [unrolled, hv], hw⟩
  | .again _ _, _, h => by simp [looksLike] at h

theorem unrolled_of_lookLike (label : Nat) (whole : Value) : ∀ xs ys : List Value, lookLike xs ys →
    unrolledList label whole xs = xs ∧ unrolledList label whole ys = ys
  | [], ys, h => by
      obtain rfl := List.isEmpty_iff.mp h
      exact ⟨rfl, rfl⟩
  | x :: xs, [], h => by simp [lookLike] at h
  | x :: xs, y :: ys, h => by
      simp only [lookLike, Bool.and_eq_true] at h
      obtain ⟨hx, hy⟩ := unrolled_of_looksLike label whole x y h.1
      obtain ⟨hxs, hys⟩ := unrolled_of_lookLike label whole xs ys h.2
      exact ⟨by rw [unrolledList, hx, hxs], by rw [unrolledList, hy, hys]⟩

theorem unrolled_of_fieldsLookLike (label : Nat) (whole : Value) : ∀ fs gs : Fields,
    fieldsLookLike fs gs → unrolledFields label whole fs = fs ∧ unrolledFields label whole gs = gs
  | [], gs, h => by
      obtain rfl := List.isEmpty_iff.mp h
      exact ⟨rfl, rfl⟩
  | f :: fs, [], h => by simp [fieldsLookLike] at h
  | (k, v) :: fs, (l, w) :: gs, h => by
      simp only [fieldsLookLike, Bool.and_eq_true] at h
      obtain ⟨hv, hw⟩ := unrolled_of_looksLike label whole v w h.1.2
      obtain ⟨hfs, hgs⟩ := unrolled_of_fieldsLookLike label whole fs gs h.2
      exact ⟨by rw [unrolledFields, hv, hfs], by rw [unrolledFields, hw, hgs]⟩

end

theorem bare_eq_opened (h : ∀ label whole, unrolled label whole v = v) : v.bare = v.opened := by
  cases v with
  | shared label u =>
      have hu := h label (.shared label u)
      rw [unrolled] at hu
      exact (Value.shared.inj hu).2
  | _ => rfl

theorem forall₂_of_lookLike : ∀ xs ys : List Value, lookLike xs ys →
    List.Forall₂ (fun v w => looksLike v w) xs ys
  | [], ys, h => by
      obtain rfl := List.isEmpty_iff.mp h
      exact .nil
  | x :: xs, [], h => by simp [lookLike] at h
  | x :: xs, y :: ys, h => by
      simp only [lookLike, Bool.and_eq_true] at h
      exact .cons h.1 (forall₂_of_lookLike xs ys h.2)

theorem forall₂_of_fieldsLookLike : ∀ fs gs : Fields, fieldsLookLike fs gs →
    List.Forall₂ (RelatedFields fun v w => looksLike v w) fs gs
  | [], gs, h => by
      obtain rfl := List.isEmpty_iff.mp h
      exact .nil
  | f :: fs, [], h => by simp [fieldsLookLike] at h
  | (k, v) :: fs, (l, w) :: gs, h => by
      simp only [fieldsLookLike, Bool.and_eq_true, beq_iff_eq] at h
      exact .cons h.1 (forall₂_of_fieldsLookLike fs gs h.2)

/-- A collection, whatever it stands for, is like from outside what it looks like. -/
theorem likeOutside_of_isCollection {u : Value} (hu : u.isCollection) (hv : v.bare = u)
    (hw : w.bare = w.opened) (h : looksLike u w) : LikeOutside (fun v w => looksLike v w) v w := by
  cases u with
  | list xs =>
      obtain ⟨ys, hys, hlook⟩ := looksLike_list_iff.mp h
      exact .list hv (hw.trans hys) (forall₂_of_lookLike xs ys hlook)
  | tuple xs =>
      obtain ⟨ys, hys, hlook⟩ := looksLike_tuple_iff.mp h
      exact .tuple hv (hw.trans hys) (forall₂_of_lookLike xs ys hlook)
  | map fs =>
      obtain ⟨gs, hgs, hlook⟩ := looksLike_map_iff.mp h
      exact .map hv (hw.trans hgs) (forall₂_of_fieldsLookLike fs gs hlook)
  | set ms =>
      obtain ⟨ns, hns, hmembers⟩ := looksLike_set_iff.mp h
      exact .set hv (hw.trans hns) hmembers
  | _ => contradiction

/-- Values that look like each other are. -/
theorem like_of_looksLike (h : looksLike v w) : Like v w := by
  refine ⟨fun v w => looksLike v w, fun v w h => ?_, h⟩
  have hv : v.bare = v.opened :=
    bare_eq_opened fun label whole => (unrolled_of_looksLike label whole v w h).1
  have hw : w.bare = w.opened :=
    bare_eq_opened fun label whole => (unrolled_of_looksLike label whole v w h).2
  cases v with
  | scalar s =>
      cases w with
      | scalar t => exact .scalar (eq_of_beq h)
      | _ => simp [looksLike] at h
  | shared label u =>
      simp only [looksLike, Bool.and_eq_true] at h
      exact likeOutside_of_isCollection h.1 hv hw h.2
  | again => simp [looksLike] at h
  | _ => exact likeOutside_of_isCollection rfl hv hw h

end Value

end BindingNames
