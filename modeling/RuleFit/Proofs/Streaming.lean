import RuleFit.Proofs.Decoding
import RuleFit.Text.Stream

/-!
# Reading a text piece by piece

A stream decodes its bytes in pieces, keeps a sequence that is cut off, and holds back a carriage
return that a line feed may belong to. None of that shows in what is read: a stream has one text to
give (`Holds`), the bytes that are left decoded as a whole, and every step keeps it. Filling moves
no character (`fill_some`), and finds a fault only where there is no such text (`fill_error`).
Reading takes characters off its front (`ReadsTo`), as many as are wanted or all that are left
(`Exhausts`). The bounds on pieces and characters (`pieces`, `weight`) say that the fuel of reading
is enough.

Main result: `readFrom_spec`.
-/

namespace RuleFit.Text

/-! ## Line ends -/

theorem unifyNewlines_carriage {rest : List Char} (h : rest.head? ≠ some '\n') :
    unifyNewlines ('\r' :: rest) = '\n' :: unifyNewlines rest := by
  cases rest with
  | nil => rfl
  | cons c rest =>
    rw [unifyNewlines]
    rintro rest' ⟨⟩
    exact h rfl

theorem unifyNewlines_other {c : Char} {rest : List Char} (h : c ≠ '\r') :
    unifyNewlines (c :: rest) = c :: unifyNewlines rest := by
  rw [unifyNewlines]
  · rintro rest' rfl
    exact absurd rfl h
  · exact h

/-- Line ends are unified part by part, unless a part ends between a carriage return and the line
feed that belongs to it. -/
theorem unifyNewlines_append {a b : List Char}
    (h : a.getLast? = some '\r' → b.head? ≠ some '\n') :
    unifyNewlines (a ++ b) = unifyNewlines a ++ unifyNewlines b := by
  fun_induction unifyNewlines a with
  | case1 => rfl
  | case2 rest ih =>
    have hrest : rest.getLast? = some '\r' → b.head? ≠ some '\n' := by
      intro hlast
      refine h ?_
      rw [List.getLast?_cons_cons, List.getLast?_cons, hlast]
      rfl
    rw [List.cons_append, List.cons_append, unifyNewlines, ih hrest]
    rfl
  | case3 rest hne ih =>
    have hrest : rest.getLast? = some '\r' → b.head? ≠ some '\n' := by
      intro hlast
      refine h ?_
      rw [List.getLast?_cons, hlast]
      rfl
    have hhead : (rest ++ b).head? ≠ some '\n' := by
      cases rest with
      | nil => exact h rfl
      | cons c rest =>
        intro hc
        obtain rfl := Option.some.inj hc
        exact hne rest rfl
    rw [List.cons_append, unifyNewlines_carriage hhead, ih hrest, List.cons_append]
  | case4 c rest _ hc ih =>
    have hrest : rest.getLast? = some '\r' → b.head? ≠ some '\n' := by
      intro hlast
      refine h ?_
      rw [List.getLast?_cons, hlast]
      rfl
    rw [List.cons_append, unifyNewlines_other hc, ih hrest, List.cons_append]

theorem unifyNewlines_length (cs : List Char) : (unifyNewlines cs).length ≤ cs.length := by
  fun_induction unifyNewlines cs with
  | case1 => exact Nat.le_refl _
  | case2 rest ih =>
    simp only [List.length_cons]
    omega
  | case3 rest _ ih => exact Nat.succ_le_succ ih
  | case4 c rest _ _ ih => exact Nat.succ_le_succ ih

/-- The length of what is decoded, and of what is left over, is no more than there was. -/
theorem decodePart_length {bs left : List UInt8} {cs : List Char}
    (h : decodePart bs = .ok (cs, left)) : cs.length + left.length ≤ bs.length := by
  induction hn : bs.length using Nat.strongRecOn generalizing bs cs with
  | _ n ih =>
    subst hn
    cases hfirst : firstChar? bs with
    | some r =>
      obtain ⟨c, after⟩ := r
      obtain ⟨tail, htail, rfl⟩ := (decodePart_eq_ok_iff hfirst).mp h
      have hshorter := length_lt_of_firstChar? hfirst
      have hafter := ih _ hshorter htail rfl
      simp only [List.length_cons]
      omega
    | none =>
      rcases stops_or_fails hfirst with hstop | ⟨-, -, hfail⟩
      · rw [decodePart, hstop] at h
        obtain ⟨rfl, rfl⟩ := Prod.mk.inj (Except.ok.inj h)
        simp
      · obtain ⟨f, hf⟩ := hfail 0 []
        rw [decodePart, hf] at h
        cases h

namespace Stream

/-- The carriage return that a line feed may belong to, if there is one. -/
def held (carriage : Bool) : List Char := if carriage then ['\r'] else []

/-- A stream has a text still to give. -/
def Holds (s : Stream) (text : List Char) : Prop :=
  ∃ cs, decodeAll (s.cutOff ++ s.bytes) = .ok cs ∧
    text = s.ready ++ unifyNewlines (held s.carriage ++ cs)

/-- A bound on the characters that a stream has still to give. -/
def weight (s : Stream) : Nat :=
  s.ready.length + (held s.carriage).length + s.cutOff.length + s.bytes.length

/-- A bound on the pieces that are still to come. -/
def pieces (s : Stream) : Nat :=
  s.bytes.length + if s.bytes = [] ∧ s.cutOff = [] ∧ s.carriage = false then 0 else 1

/-! ## One piece -/

/-- A carriage return at the end is held back until it shows what comes behind it. -/
theorem unifyNewlines_held (cs back : List Char) :
    unifyNewlines (cs ++ back) =
      unifyNewlines (if cs.getLast? == some '\r' then cs.dropLast else cs) ++
        unifyNewlines (held (cs.getLast? == some '\r') ++ back) := by
  by_cases hlast : cs.getLast? = some '\r'
  · have hsplit : cs.dropLast ++ ['\r'] = cs := List.dropLast_append_getLast? _ hlast
    simp only [hlast, beq_self_eq_true, if_true, held]
    conv_lhs => rw [← hsplit, List.append_assoc]
    exact unifyNewlines_append fun _ => by simp
  · have hnot : (cs.getLast? == some '\r') = false := beq_eq_false_iff_ne.mpr hlast
    simp only [hnot, held, Bool.false_eq_true, if_false, List.nil_append]
    exact unifyNewlines_append fun h => absurd h hlast

/-- The stream behind a piece that was decoded to some characters and left some bytes over. -/
def behind (s : Stream) (piece rest : List UInt8) (decoded : List Char) (cutOff : List UInt8) :
    Stream :=
  let cs := held (s.carriage && !decoded.isEmpty) ++ decoded
  let ends := cs.getLast? == some '\r'
  let ready := unifyNewlines (if ends then cs.dropLast else cs)
  { bytes := rest, cutOff, carriage := ends || (s.carriage && decoded.isEmpty), ready
    lastBytes := piece.length, lastChars := ready.length }

theorem fill_piece {s : Stream} (h : s.bytes ≠ []) (wanted : Nat) :
    ∃ piece rest, piece ≠ [] ∧ s.bytes = piece ++ rest ∧ s.fill wanted =
      (decodePart (s.cutOff ++ piece)).map fun r => some (s.behind piece rest r.1 r.2) := by
  obtain ⟨b, bs, hbytes⟩ := List.exists_cons_of_ne_nil h
  have hsize : 0 < s.pieceSize wanted := Nat.lt_of_lt_of_le (by decide) (Nat.le_max_left _ _)
  have hpiece : s.bytes.take (s.pieceSize wanted) ≠ [] := by
    rw [hbytes]
    obtain ⟨n, hn⟩ := Nat.exists_eq_succ_of_ne_zero (Nat.ne_of_gt hsize)
    rw [hn]
    exact List.cons_ne_nil _ _
  refine ⟨s.bytes.take (s.pieceSize wanted), s.bytes.drop (s.pieceSize wanted), hpiece,
    (List.take_append_drop _ _).symm, ?_⟩
  have hempty : (s.bytes.take (s.pieceSize wanted)).isEmpty = false := by simpa using hpiece
  unfold fill
  simp only [hempty]
  cases hpart : decodePart (s.cutOff ++ s.bytes.take (s.pieceSize wanted)) with
  | error f => rfl
  | ok r =>
    obtain ⟨decoded, left⟩ := r
    cases hcarriage : s.carriage <;> cases decoded <;>
      simp [behind, held, hcarriage, bind, Except.bind, Except.map, pure, Except.pure]

/-- The stream behind the last piece. -/
def final (ready : List Char) : Stream := { bytes := [], ready, lastChars := ready.length }

theorem fill_end {s : Stream} (h : s.bytes = []) (wanted : Nat) :
    s.fill wanted = (decodeAll s.cutOff).map fun cs =>
      let ready := unifyNewlines (held s.carriage ++ cs)
      if ready.isEmpty then none else some (final ready) := by
  unfold fill
  simp only [h, List.take_nil, List.isEmpty_nil, List.append_nil, if_true, List.drop_nil]
  cases decodeAll s.cutOff with
  | error f => rfl
  | ok cs =>
    cases hcarriage : s.carriage <;> simp only [held, bind, Except.bind, Except.map, pure,
      Except.pure, final, Bool.true_and, Bool.false_and, Bool.true_or, if_true,
      Bool.false_eq_true, if_false, List.nil_append, List.cons_append, List.length_nil,
      Bool.not_true, Bool.or_self] <;> split_ifs <;> rfl

theorem holds_behind {s : Stream} {piece rest left : List UInt8} {decoded : List Char}
    (hready : s.ready = []) (hbytes : s.bytes = piece ++ rest)
    (hpart : decodePart (s.cutOff ++ piece) = .ok (decoded, left)) (text : List Char) :
    s.Holds text ↔ (s.behind piece rest decoded left).Holds text := by
  have hsplit (back : List Char) : unifyNewlines (held s.carriage ++ (decoded ++ back)) =
      (s.behind piece rest decoded left).ready ++
        unifyNewlines (held (s.behind piece rest decoded left).carriage ++ back) := by
    cases decoded with
    | nil => cases hcarriage : s.carriage <;> simp [behind, held, unifyNewlines, hcarriage]
    | cons c cs =>
      simp only [behind, List.isEmpty_cons, Bool.not_false, Bool.and_true, Bool.and_false,
        Bool.or_false]
      rw [← unifyNewlines_held, List.append_assoc]
  unfold Holds
  rw [hready, hbytes, ← List.append_assoc]
  constructor
  · rintro ⟨cs, hcs, rfl⟩
    obtain ⟨front, left', back, hfront, hback, rfl⟩ := decodeAll_append_iff.mp hcs
    obtain ⟨rfl, rfl⟩ := Prod.mk.inj (Except.ok.inj (hpart.symm.trans hfront))
    exact ⟨back, hback, hsplit back⟩
  · rintro ⟨back, hback, rfl⟩
    exact ⟨decoded ++ back, decodeAll_append_iff.mpr ⟨_, _, back, hpart, hback, rfl⟩,
      (hsplit back).symm⟩

theorem holds_final {s : Stream} {cs : List Char} (hready : s.ready = []) (hbytes : s.bytes = [])
    (hcs : decodeAll s.cutOff = .ok cs) (text : List Char) :
    s.Holds text ↔ text = unifyNewlines (held s.carriage ++ cs) := by
  unfold Holds
  rw [hready, hbytes, List.append_nil, hcs]
  simp

theorem pieces_le (s : Stream) : s.pieces ≤ s.bytes.length + 1 := by
  unfold pieces
  split_ifs <;> omega

theorem pieces_of_bytes {s : Stream} (h : s.bytes ≠ []) : s.pieces = s.bytes.length + 1 := by
  rw [pieces, if_neg fun hall => h hall.1]

theorem held_length (cs : List Char) :
    (unifyNewlines (if cs.getLast? == some '\r' then cs.dropLast else cs)).length +
      (held (cs.getLast? == some '\r')).length ≤ cs.length := by
  refine Nat.le_trans (Nat.add_le_add_right (unifyNewlines_length _) _) ?_
  by_cases hlast : cs.getLast? = some '\r'
  · have hne : cs ≠ [] := by
      rintro rfl
      cases hlast
    have hpos : 0 < cs.length := List.length_pos_iff.mpr hne
    simp only [hlast, beq_self_eq_true, if_true, held, List.length_dropLast, List.length_singleton]
    omega
  · have hnot : (cs.getLast? == some '\r') = false := beq_eq_false_iff_ne.mpr hlast
    simp [hnot, held]

theorem behind_length (s : Stream) (piece rest left : List UInt8) (decoded : List Char) :
    (s.behind piece rest decoded left).ready.length +
      (held (s.behind piece rest decoded left).carriage).length ≤
        (held s.carriage).length + decoded.length := by
  cases decoded with
  | nil => cases hcarriage : s.carriage <;> simp [behind, held, unifyNewlines, hcarriage]
  | cons c cs =>
    have hall := held_length (held s.carriage ++ c :: cs)
    rw [List.length_append] at hall
    simpa only [behind, List.isEmpty_cons, Bool.not_false, Bool.and_true, Bool.and_false,
      Bool.or_false] using hall

/-- What filling keeps: the text that is still to come, and the bounds. -/
structure FillsTo (s next : Stream) : Prop where
  holds : ∀ text, s.Holds text ↔ next.Holds text
  weight : next.weight ≤ s.weight
  pieces : next.pieces < s.pieces

/-- A piece that is decoded leaves the same text to come. -/
theorem behind_fillsTo {s : Stream} {piece rest left : List UInt8} {decoded : List Char}
    (hready : s.ready = []) (hpiece : piece ≠ []) (hsplit : s.bytes = piece ++ rest)
    (hpart : decodePart (s.cutOff ++ piece) = .ok (decoded, left)) :
    FillsTo s (s.behind piece rest decoded left) := by
  have hbytes : s.bytes ≠ [] := by simp [hsplit, hpiece]
  have hshorter : 0 < piece.length := List.length_pos_iff.mpr hpiece
  have hbehind := behind_length s piece rest left decoded
  have hlength := decodePart_length hpart
  have hpieces := pieces_le (s.behind piece rest decoded left)
  refine ⟨holds_behind hready hsplit hpart, ?_, ?_⟩
  · simp only [weight, hready, hsplit, List.length_append] at hbehind hlength ⊢
    simp only [behind] at hbehind ⊢
    simp only [List.length_nil]
    omega
  · have hrest : (s.behind piece rest decoded left).bytes = rest := rfl
    rw [hrest] at hpieces
    rw [pieces_of_bytes hbytes, hsplit, List.length_append]
    omega

/-- What is held back comes last. -/
theorem final_fillsTo {s : Stream} {cs : List Char} (hready : s.ready = []) (hbytes : s.bytes = [])
    (hcs : decodeAll s.cutOff = .ok cs) (hmore : unifyNewlines (held s.carriage ++ cs) ≠ []) :
    FillsTo s (final (unifyNewlines (held s.carriage ++ cs))) := by
  have hlength := decodePart_length (decodeAll_eq_ok_iff.mp hcs)
  have hunified := unifyNewlines_length (held s.carriage ++ cs)
  rw [List.length_append] at hunified
  refine ⟨fun text => ?_, ?_, ?_⟩
  · rw [holds_final hready hbytes hcs]
    simp [Holds, final, held, decodeAll_nil, unifyNewlines]
  · simp only [weight, final, held, Bool.false_eq_true, if_false, List.length_nil, hready,
      hbytes] at hunified hlength ⊢
    omega
  · have hleft : ¬(s.bytes = [] ∧ s.cutOff = [] ∧ s.carriage = false) := by
      rintro ⟨-, hcut, hcarriage⟩
      rw [hcut, decodeAll_nil] at hcs
      obtain rfl := Except.ok.inj hcs
      simp [held, hcarriage, unifyNewlines] at hmore
    simp only [pieces, hleft, if_false]
    simp [final]

theorem fill_some {s next : Stream} {wanted : Nat} (hready : s.ready = [])
    (h : s.fill wanted = .ok (some next)) : FillsTo s next := by
  by_cases hbytes : s.bytes = []
  · rw [fill_end hbytes] at h
    cases hcs : decodeAll s.cutOff with
    | error f =>
      rw [hcs] at h
      cases h
    | ok cs =>
      rw [hcs] at h
      simp only [Except.map, Except.ok.injEq] at h
      split_ifs at h with hempty
      obtain rfl := Option.some.inj h
      exact final_fillsTo hready hbytes hcs fun hnil => hempty (List.isEmpty_iff.mpr hnil)
  · obtain ⟨piece, rest, hpiece, hsplit, hfill⟩ := fill_piece hbytes wanted
    rw [hfill] at h
    cases hpart : decodePart (s.cutOff ++ piece) with
    | error f =>
      rw [hpart] at h
      cases h
    | ok r =>
      rw [hpart] at h
      obtain rfl := Option.some.inj (Except.ok.inj h)
      exact behind_fillsTo hready hpiece hsplit hpart

theorem fill_none {s : Stream} {wanted : Nat} (hready : s.ready = [])
    (h : s.fill wanted = .ok none) (text : List Char) : s.Holds text ↔ text = [] := by
  by_cases hbytes : s.bytes = []
  · rw [fill_end hbytes] at h
    cases hcs : decodeAll s.cutOff with
    | error f =>
      rw [hcs] at h
      cases h
    | ok cs =>
      rw [hcs] at h
      simp only [Except.map, Except.ok.injEq] at h
      split_ifs at h with hempty
      rw [holds_final hready hbytes hcs, List.isEmpty_iff.mp hempty]
  · obtain ⟨piece, rest, -, -, hfill⟩ := fill_piece hbytes wanted
    rw [hfill] at h
    cases hpart : decodePart (s.cutOff ++ piece) <;> rw [hpart] at h <;> cases h

theorem fill_error {s : Stream} {wanted : Nat} {f : Utf8Fault} (h : s.fill wanted = .error f)
    (text : List Char) : ¬s.Holds text := by
  rintro ⟨cs, hcs, -⟩
  by_cases hbytes : s.bytes = []
  · rw [hbytes, List.append_nil] at hcs
    rw [fill_end hbytes, hcs] at h
    cases h
  · obtain ⟨piece, rest, -, hsplit, hfill⟩ := fill_piece hbytes wanted
    rw [hsplit, ← List.append_assoc] at hcs
    obtain ⟨front, left, back, hfront, -, -⟩ := decodeAll_append_iff.mp hcs
    rw [hfill, hfront] at h
    cases h

/-! ## As much as is wanted -/

/-- What reading keeps: the text that is still to come, the characters read off its front, and the
bound on their number. -/
structure ReadsTo (s : Stream) (got : List Char) (next : Stream) : Prop where
  holds : ∀ text, s.Holds text ↔ ∃ rest, next.Holds rest ∧ text = got ++ rest
  weight : got.length + next.weight ≤ s.weight

/-- Less than what is wanted is read only where the text ends. -/
def Exhausts (s : Stream) (wanted : Nat) (got : List Char) : Prop :=
  got.length = wanted ∨ ∀ text, s.Holds text ↔ text = got

/-- Takes off what is ready. -/
def withoutReady (s : Stream) (wanted : Nat) : Stream := { s with ready := s.ready.drop wanted }

theorem withoutReady_spec (s : Stream) (wanted : Nat) :
    ReadsTo s (s.ready.take wanted) (s.withoutReady wanted) := by
  refine ⟨fun text => ?_, ?_⟩
  · unfold Holds withoutReady
    constructor
    · rintro ⟨cs, hcs, rfl⟩
      refine ⟨_, ⟨cs, hcs, rfl⟩, ?_⟩
      rw [← List.append_assoc, List.take_append_drop]
    · rintro ⟨-, ⟨cs, hcs, rfl⟩, rfl⟩
      refine ⟨cs, hcs, ?_⟩
      rw [← List.append_assoc, List.take_append_drop]
  · simp only [weight, withoutReady, List.length_take, List.length_drop]
    omega

theorem FillsTo.readsTo {s next : Stream} (h : FillsTo s next) : ReadsTo s [] next := by
  refine ⟨fun text => ?_, ?_⟩
  · simp [h.holds]
  · rw [List.length_nil, Nat.zero_add]
    exact h.weight

theorem ReadsTo.append {s middle next : Stream} {front back : List Char}
    (hfront : ReadsTo s front middle) (hback : ReadsTo middle back next) :
    ReadsTo s (front ++ back) next := by
  refine ⟨fun text => ?_, ?_⟩
  · rw [hfront.holds]
    constructor
    · rintro ⟨rest, hrest, rfl⟩
      obtain ⟨rest', hnext, rfl⟩ := (hback.holds rest).mp hrest
      exact ⟨rest', hnext, (List.append_assoc _ _ _).symm⟩
    · rintro ⟨rest, hrest, rfl⟩
      exact ⟨back ++ rest, (hback.holds _).mpr ⟨rest, hrest, rfl⟩, List.append_assoc _ _ _⟩
  · have h1 := hfront.weight
    have h2 := hback.weight
    rw [List.length_append]
    omega

theorem holds_nil {s : Stream} (h : s.weight = 0) : s.Holds [] := by
  have hcarriage : s.carriage = false := by
    by_contra hne
    simp [weight, held, hne] at h
  simp only [weight, held, hcarriage, Bool.false_eq_true, if_false, List.length_nil,
    Nat.add_eq_zero_iff, List.length_eq_zero_iff] at h
  obtain ⟨⟨⟨hready, -⟩, hcut⟩, hbytes⟩ := h
  refine ⟨[], ?_, ?_⟩
  · rw [hcut, hbytes]
    exact decodeAll_nil
  · rw [hready, hcarriage]
    rfl

/-- What is read is the whole text where as much is wanted as there can be. -/
theorem ReadsTo.holds_of_weight {s next : Stream} {got : List Char} {wanted : Nat}
    (h : ReadsTo s got next) (hend : Exhausts s wanted got) (hweight : s.weight ≤ wanted) :
    s.Holds got := by
  rcases hend with hfull | hall
  · have hbound := h.weight
    have hnothing : next.weight = 0 := by omega
    exact (h.holds got).mpr ⟨[], holds_nil hnothing, (List.append_nil got).symm⟩
  · exact (hall got).mpr rfl

theorem readFrom_done {fuel wanted : Nat} {done : List Char} {s : Stream}
    (h : wanted - (s.ready.take wanted).length = 0) :
    s.readFrom fuel wanted done = .ok (done ++ s.ready.take wanted, s.withoutReady wanted) := by
  cases fuel <;> simp only [readFrom, h, withoutReady]

theorem readFrom_fill {fuel wanted missing : Nat} {done : List Char} {s : Stream}
    (h : wanted - (s.ready.take wanted).length = missing + 1) :
    s.readFrom (fuel + 1) wanted done =
      ((s.withoutReady wanted).fill (missing + 1)).bind fun filled =>
        filled.elim (.ok (done ++ s.ready.take wanted, s.withoutReady wanted))
          (readFrom fuel (missing + 1) (done ++ s.ready.take wanted)) := by
  conv_lhs => unfold readFrom
  simp only [h]
  refine congrArg _ (funext fun filled => ?_)
  cases filled <;> rfl

/-- Reading gives the front of the text that is to come, as much as is wanted or all of it, or there
is no such text. -/
theorem readFrom_spec {fuel : Nat} {s : Stream} (hfuel : s.pieces < fuel) (wanted : Nat)
    (done : List Char) :
    (∃ f, s.readFrom fuel wanted done = .error f ∧ ∀ text, ¬s.Holds text) ∨
    ∃ got next, s.readFrom fuel wanted done = .ok (done ++ got, next) ∧ ReadsTo s got next ∧
      Exhausts s wanted got := by
  induction fuel generalizing wanted done s with
  | zero => exact absurd hfuel (Nat.not_lt_zero _)
  | succ fuel ih =>
    have htaken := withoutReady_spec s wanted
    cases hmissing : wanted - (s.ready.take wanted).length with
    | zero =>
      refine .inr ⟨_, _, readFrom_done hmissing, htaken, .inl ?_⟩
      rw [List.length_take] at hmissing ⊢
      omega
    | succ missing =>
      rw [readFrom_fill hmissing]
      have hready : (s.withoutReady wanted).ready = [] := by
        rw [List.length_take] at hmissing
        exact List.drop_eq_nil_of_le (by omega)
      cases hfill : (s.withoutReady wanted).fill (missing + 1) with
      | error f =>
        refine .inl ⟨f, rfl, fun text htext => ?_⟩
        obtain ⟨rest, hrest, -⟩ := (htaken.holds text).mp htext
        exact fill_error hfill rest hrest
      | ok filled =>
        cases filled with
        | none =>
          refine .inr ⟨_, _, rfl, htaken, .inr fun text => ?_⟩
          rw [htaken.holds]
          simp [fill_none hready hfill]
        | some next =>
          have hnext := fill_some hready hfill
          have hpieces : next.pieces < fuel :=
            Nat.lt_of_lt_of_le hnext.pieces (Nat.le_of_lt_succ hfuel)
          rcases ih hpieces (missing + 1) (done ++ s.ready.take wanted) with
            ⟨f, hf, hno⟩ | ⟨got, last, hgot, hreads, hend⟩
          · refine .inl ⟨f, hf, fun text htext => ?_⟩
            obtain ⟨rest, hrest, -⟩ := (htaken.holds text).mp htext
            exact hno rest ((hnext.holds rest).mp hrest)
          · refine .inr ⟨s.ready.take wanted ++ got, last, ?_,
              htaken.append (hnext.readsTo.append hreads), ?_⟩
            · rw [← List.append_assoc]
              exact hgot
            · rcases hend with hlength | hall
              · left
                rw [List.length_append]
                omega
              · right
                intro text
                rw [htaken.holds]
                simp only [hnext.holds, hall, exists_eq_left]

end Stream

end RuleFit.Text
