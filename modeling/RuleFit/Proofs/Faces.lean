import RuleFit.Datum.Elements
import RuleFit.Proofs.Equality

/-!
# Values that can be keys

Equality of values crosses types, and to show that it is an equivalence among the values that can be
keys every such value is given a *face*: a number has its quantity, a moment its instant, a fixed
sequence the faces of its items, and whatever is equal to itself only has itself.

**Theorem (`alike_iff_face`).** Two values that can be keys count as the same exactly when they have
the same face.

And equal values can be keys together or not at all (`notKey?_eq_none_iff_of_alike`).
-/

namespace RuleFit

/-- What a value has in common with the values that count as the same. -/
inductive Face where
  | null
  | number (q : Quantity)
  | nan (payload : Nat)
  | text (t : Text)
  | bytes (bs : List UInt8)
  | moment (instant : Int ⊕ Moment)
  | cell (position : Nat)
  | tuple (items : List Face)
  | collection

namespace Datum

mutual

/-- The face of a value; the collections that cannot be keys have none of their own. -/
def face : Datum → Face
  | .null => .null
  | .bool b => .number (.finite (Dyadic.ofInt (if b then 1 else 0)))
  | .int n => .number (.finite (Dyadic.ofInt n))
  | .float (.nan p) => .nan p
  | .float (.infinite s) => .number (.infinite s)
  | .float .negativeZero => .number (.finite .zero)
  | .float (.finite x) => .number (.finite x)
  | .text t => .text t
  | .bytes bs => .bytes bs
  | .moment m => .moment ((m.instant?.map .inl).getD (.inr m))
  | .tuple items => .tuple (faces items)
  | .cell n => .cell n
  | .list _ | .set _ | .map _ | .knot .. => .collection
termination_by structural d => d

/-- The faces of the items of a sequence. -/
def faces : List Datum → List Face
  | [] => []
  | x :: xs => face x :: faces xs
termination_by structural xs => xs

end

/-! ## Numbers -/

theorem face_eq_number_iff {d : Datum} {q : Quantity} :
    d.face = .number q ↔ d.quantity? = some q := by
  cases d with
  | float x => cases x <;> simp [face, quantity?, Binary64.value?]
  | _ => simp [face, quantity?]

/-- What counts as the same as a number amounts to the same. -/
theorem alike_iff_of_quantity? {a b : Datum} {q : Quantity} (ha : a.quantity? = some q) :
    a.alike b = true ↔ b.quantity? = some q := by
  have hnan : sameNan a b = false := by
    cases a with
    | float x =>
      cases x with
      | nan p => simp [quantity?, Binary64.value?] at ha
      | _ => rfl
    | _ => rfl
  have heqv : a.eqv b = a.sameQuantity b := by
    cases a with
    | bool | int | float => rw [eqv] <;> nofun
    | _ => simp [quantity?] at ha
  rw [alike, hnan, Bool.false_or, heqv, sameQuantity_iff, ha]
  simp

theorem alike_iff_face_of_quantity? {a : Datum} (h : a.quantity?.isSome) (b : Datum) :
    a.alike b = true ↔ a.face = b.face := by
  obtain ⟨q, hq⟩ := Option.isSome_iff_exists.1 h
  rw [alike_iff_of_quantity? hq, face_eq_number_iff.2 hq, eq_comm (a := Face.number q),
    face_eq_number_iff]

/-! ## Other values -/

/-- The value counts as the same as itself only. -/
def isLone : Datum → Bool
  | .null | .text _ | .bytes _ | .cell _ | .float (.nan _) => true
  | _ => false

theorem alike_iff_face_of_isLone {a : Datum} (h : a.isLone) (b : Datum) :
    a.alike b = true ↔ a.face = b.face := by
  cases a with
  | bool | int | moment | list | tuple | set | map | knot => cases h
  | float x =>
    cases x with
    | infinite | negativeZero | finite => cases h
    | nan p =>
      have hquantity : (Datum.float (.nan p)).quantity? = none := rfl
      cases b with
      | float y => cases y <;> simp [alike, sameNan, eqv, face, sameQuantity, hquantity]
      | _ => simp [alike, sameNan, eqv, face, sameQuantity, hquantity]
  | _ =>
    cases b with
    | float y => cases y <;> simp [alike, sameNan, eqv, face, sameQuantity, quantity?]
    | _ => simp [alike, sameNan, eqv, face, sameQuantity, quantity?]

/-- Moments count as the same when they are at one instant, or else when they are identical. -/
theorem alike_moment_iff_face (m : Moment) (b : Datum) :
    (Datum.moment m).alike b = true ↔ (Datum.moment m).face = b.face := by
  cases b with
  | moment m' =>
    have hsame : (Datum.moment m).alike (.moment m') = m.same m' := by
      simp [alike, sameNan, eqv]
    rw [hsame, Moment.same, face, face]
    cases m.instant? <;> cases m'.instant? <;> simp
  | float y => cases y <;> simp [alike, sameNan, eqv, face, sameQuantity, quantity?]
  | _ => simp [alike, sameNan, eqv, face, sameQuantity, quantity?]

/-- Fixed sequences count as the same when their items do, one by one. -/
theorem alike_tuple (xs : List Datum) (b : Datum) :
    (Datum.tuple xs).alike b = true ↔ ∃ ys, b = .tuple ys ∧ eqvItems xs ys = true := by
  cases b <;> simp [alike, sameNan, eqv, sameQuantity, quantity?]

theorem face_tuple_eq_iff (xs : List Datum) (b : Datum) :
    (Datum.tuple xs).face = b.face ↔ ∃ ys, b = .tuple ys ∧ faces xs = faces ys := by
  cases b with
  | float y => cases y <;> simp [face]
  | _ => simp [face]

/-! ## Keys -/

theorem notKeyItems?_eq_none_iff {xs : List Datum} :
    notKeyItems? xs = none ↔ ∀ x ∈ xs, x.notKey? = none := by
  induction xs with
  | nil => simp [notKeyItems?]
  | cons x xs ih => simp [notKeyItems?, Option.or_eq_none_iff, ih]

mutual

/-- **Values that can be keys count as the same when they have the same face.** -/
theorem alike_iff_face : (a b : Datum) → a.notKey? = none → b.notKey? = none →
    (a.alike b = true ↔ a.face = b.face)
  | .null, b, _, _ | .text _, b, _, _ | .bytes _, b, _, _ | .cell _, b, _, _
  | .float (.nan _), b, _, _ => alike_iff_face_of_isLone rfl b
  | .bool _, b, _, _ | .int _, b, _, _ | .float (.infinite _), b, _, _
  | .float .negativeZero, b, _, _ | .float (.finite _), b, _, _ =>
    alike_iff_face_of_quantity? rfl b
  | .moment m, b, _, _ => alike_moment_iff_face m b
  | .tuple xs, b, ha, hb => by
    rw [alike_tuple, face_tuple_eq_iff]
    refine exists_congr fun ys => and_congr_right ?_
    rintro rfl
    rw [notKey?] at ha hb
    exact eqvItems_iff_faces xs ys ha hb
  | .list _, _, ha, _ | .set _, _, ha, _ | .map _, _, ha, _ | .knot .., _, ha, _ => by
    simp [notKey?] at ha
termination_by structural a => a

theorem eqvItems_iff_faces : (a b : List Datum) → notKeyItems? a = none → notKeyItems? b = none →
    (eqvItems a b = true ↔ faces a = faces b)
  | [], [], _, _ => by simp
  | [], _ :: _, _, _ | _ :: _, [], _, _ => by simp [faces]
  | x :: xs, y :: ys, ha, hb => by
    rw [notKeyItems?, Option.or_eq_none_iff] at ha hb
    rw [eqvItems_cons, Bool.and_eq_true, alike_iff_face x y ha.1 hb.1,
      eqvItems_iff_faces xs ys ha.2 hb.2, faces, faces, List.cons.injEq]
termination_by structural a => a

end

mutual

/-- Equal values can be keys together or not at all. -/
theorem notKey?_eq_none_iff_of_alike : (a b : Datum) → a.alike b = true →
    (a.notKey? = none ↔ b.notKey? = none)
  | .tuple xs, b, h => by
    obtain ⟨ys, rfl, hys⟩ := (alike_tuple xs b).1 h
    rw [notKey?, notKey?, notKeyItems?_eq_none_iff_of_eqvItems xs ys hys]
  | .null, b, h | .bool _, b, h | .int _, b, h | .float _, b, h | .text _, b, h | .bytes _, b, h
  | .moment _, b, h | .list _, b, h | .set _, b, h | .map _, b, h | .knot .., b, h
  | .cell _, b, h => by
    cases b <;> simp_all [alike, sameNan, eqv, sameQuantity, quantity?, notKey?]
termination_by structural a => a

theorem notKeyItems?_eq_none_iff_of_eqvItems : (a b : List Datum) → eqvItems a b = true →
    (notKeyItems? a = none ↔ notKeyItems? b = none)
  | [], [], _ => Iff.rfl
  | [], _ :: _, h | _ :: _, [], h => by simp at h
  | x :: xs, y :: ys, h => by
    rw [eqvItems_cons, Bool.and_eq_true] at h
    rw [notKeyItems?, notKeyItems?, Option.or_eq_none_iff, Option.or_eq_none_iff,
      notKey?_eq_none_iff_of_alike x y h.1, notKeyItems?_eq_none_iff_of_eqvItems xs ys h.2]
termination_by structural a => a

end

end Datum

end RuleFit
