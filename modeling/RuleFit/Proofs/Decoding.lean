import Mathlib.Data.List.Basic
import RuleFit.Text.Utf8

/-!
# Decoding UTF-8

Bytes are UTF-8 when they are the encodings of some characters, one behind the other (`IsUtf8`).
Decoding takes them off one by one (`firstChar?`, `decodeFrom_of_firstChar?`), whatever stands in
front (`decodeFrom_eq_ok_iff`), and what a part leaves over is decoded with what comes behind it
(`decodeAll_append_iff`). So bytes are decoded to exactly the characters that they are the encodings
of (`decodeAll_iff_encode`).
-/

namespace RuleFit.Text

/-- Bytes are UTF-8 when they are the encodings of some characters, one behind the other. -/
def IsUtf8 (bs : List UInt8) : Prop := ∃ cs : List Char, bs = cs.flatMap String.utf8EncodeChar

/-! ## Sequences -/

section Sequences

variable {acc : Nat} {taken : List UInt8} {ranges : List (Nat × Nat)} {bs : List UInt8}

theorem continueSequence_append {code : Nat} {after : List UInt8}
    (h : continueSequence acc taken ranges bs = .ok (code, after)) (more : List UInt8) :
    continueSequence acc taken ranges (bs ++ more) = .ok (code, after ++ more) := by
  induction ranges generalizing acc taken bs with
  | nil =>
    simp only [continueSequence, Except.ok.injEq, Prod.mk.injEq] at h ⊢
    exact ⟨h.1, by rw [h.2]⟩
  | cons r ranges ih =>
    cases bs with
    | nil => cases h
    | cons b bs =>
      rw [List.cons_append]
      simp only [continueSequence] at h ⊢
      split at h
      · rename_i hb
        rw [if_pos hb]
        exact ih h
      · cases h

/-- A fault in a sequence stays, whatever comes behind it. -/
theorem continueSequence_append_bad {fine : List UInt8}
    (h : continueSequence acc taken ranges bs = .error (.badContinuation, fine))
    (more : List UInt8) :
    continueSequence acc taken ranges (bs ++ more) = .error (.badContinuation, fine) := by
  induction ranges generalizing acc taken bs with
  | nil => simp [continueSequence] at h
  | cons r ranges ih =>
    cases bs with
    | nil => cases h
    | cons b bs =>
      rw [List.cons_append]
      simp only [continueSequence] at h ⊢
      split at h
      · rename_i hb
        rw [if_pos hb]
        exact ih h
      · rename_i hb
        rw [if_neg hb]
        exact h

/-- A sequence fails because it is cut off, with all its bytes taken, or because of a byte. -/
theorem continueSequence_error {cause : Utf8Cause} {fine : List UInt8}
    (h : continueSequence acc taken ranges bs = .error (cause, fine)) :
    cause = .truncated ∧ fine = taken ++ bs ∨ cause = .badContinuation := by
  induction ranges generalizing acc taken bs with
  | nil => simp [continueSequence] at h
  | cons r ranges ih =>
    cases bs with
    | nil =>
      cases h
      exact .inl ⟨rfl, (List.append_nil _).symm⟩
    | cons b bs =>
      simp only [continueSequence] at h
      split at h
      · rcases ih h with ⟨hcause, hfine⟩ | hcause
        · refine .inl ⟨hcause, ?_⟩
          rw [hfine, List.append_assoc]
          rfl
        · exact .inr hcause
      · cases h
        exact .inr rfl

end Sequences

/-! ## The first character -/

/-- The character that bytes start with, and the bytes behind it. -/
def firstChar? : List UInt8 → Option (Char × List UInt8)
  | [] => none
  | b :: rest =>
    if b < 0x80 then some (Char.ofNat b.toNat, rest)
    else
      match Utf8Lead? b.toNat with
      | none => none
      | some (bits, ranges) =>
        match continueSequence bits [b] ranges rest with
        | .ok (code, after) => some (Char.ofNat code, after)
        | .error _ => none

theorem firstChar?_append {xs after : List UInt8} {c : Char} (h : firstChar? xs = some (c, after))
    (ys : List UInt8) : firstChar? (xs ++ ys) = some (c, after ++ ys) := by
  cases xs with
  | nil => cases h
  | cons b rest =>
    rw [List.cons_append]
    simp only [firstChar?] at h ⊢
    split_ifs at h ⊢ with hb
    · obtain ⟨rfl, rfl⟩ := Prod.mk.inj (Option.some.inj h)
      rfl
    · cases hlead : Utf8Lead? b.toNat with
      | none =>
        rw [hlead] at h
        cases h
      | some lead =>
        obtain ⟨bits, ranges⟩ := lead
        rw [hlead] at h
        cases hseq : continueSequence bits [b] ranges rest with
        | error e =>
          simp only [hseq] at h
          cases h
        | ok r =>
          obtain ⟨code, behind⟩ := r
          simp only [hseq] at h
          obtain ⟨rfl, rfl⟩ := Prod.mk.inj (Option.some.inj h)
          simp only [continueSequence_append hseq ys]

theorem length_lt_of_firstChar? {bs after : List UInt8} {c : Char}
    (h : firstChar? bs = some (c, after)) : after.length < bs.length := by
  cases bs with
  | nil => cases h
  | cons b rest =>
    simp only [firstChar?] at h
    split_ifs at h with hb
    · obtain ⟨-, rfl⟩ := Prod.mk.inj (Option.some.inj h)
      exact Nat.lt_succ_self _
    · split at h
      · cases h
      · split at h
        · rename_i hseq
          obtain ⟨-, rfl⟩ := Prod.mk.inj (Option.some.inj h)
          exact Nat.lt_succ_of_le (continueSequence_length hseq)
        · cases h

/-! ## Decoding character by character -/

section Decoding

variable {position : Nat} {done : List Char} {b : UInt8} {rest : List UInt8} (hb : ¬b < 0x80)
  {bits : Nat} {ranges : List (Nat × Nat)} (hlead : Utf8Lead? b.toNat = some (bits, ranges))

theorem decodeFrom_ascii (hb : b < 0x80) : decodeFrom position done (b :: rest) =
    decodeFrom (position + 1) (Char.ofNat b.toNat :: done) rest := by
  rw [decodeFrom, if_pos hb]

include hb

theorem decodeFrom_badStart (hlead : Utf8Lead? b.toNat = none) :
    decodeFrom position done (b :: rest) = .error ⟨.badStart, position, [b]⟩ := by
  rw [decodeFrom, if_neg hb]
  simp only [hlead]

include hlead

theorem decodeFrom_sequence {code : Nat} {after : List UInt8}
    (hseq : continueSequence bits [b] ranges rest = .ok (code, after)) :
    decodeFrom position done (b :: rest) =
      decodeFrom (position + 1 + ranges.length) (Char.ofNat code :: done) after := by
  rw [decodeFrom, if_neg hb]
  simp only [hlead]
  split
  · rename_i h
    rw [hseq] at h
    cases h
  · rename_i h
    rw [hseq] at h
    cases h
  · rename_i h
    rw [hseq] at h
    cases h
    rfl

theorem decodeFrom_truncated {fine : List UInt8}
    (hseq : continueSequence bits [b] ranges rest = .error (.truncated, fine)) :
    decodeFrom position done (b :: rest) = .ok (done.reverse, b :: rest) := by
  rcases continueSequence_error hseq with ⟨-, hfine⟩ | hcause
  · rw [decodeFrom, if_neg hb]
    simp only [hlead]
    split
    · rename_i h
      rw [hseq] at h
      cases h
      rw [hfine]
      rfl
    · rename_i hne h
      rw [hseq] at h
      cases h
      exact absurd rfl hne
    · rename_i h
      rw [hseq] at h
      cases h
  · cases hcause

theorem decodeFrom_badContinuation {fine : List UInt8}
    (hseq : continueSequence bits [b] ranges rest = .error (.badContinuation, fine)) :
    decodeFrom position done (b :: rest) =
      if beginsSurrogate (b :: rest) then .ok (done.reverse, b :: rest)
      else .error ⟨.badContinuation, position, fine⟩ := by
  rw [decodeFrom, if_neg hb]
  simp only [hlead]
  split
  · rename_i h
    rw [hseq] at h
    cases h
  · rename_i h
    rw [hseq] at h
    cases h
    rfl
  · rename_i h
    rw [hseq] at h
    cases h

end Decoding

/-- Decoding takes the first character off and goes on behind it. -/
theorem decodeFrom_of_firstChar? {bs after : List UInt8} {c : Char}
    (h : firstChar? bs = some (c, after)) (position : Nat) (done : List Char) :
    ∃ next, decodeFrom position done bs = decodeFrom next (c :: done) after := by
  cases bs with
  | nil => cases h
  | cons b rest =>
    by_cases hb : b < 0x80
    · simp only [firstChar?, hb, if_true, Option.some.injEq, Prod.mk.injEq] at h
      obtain ⟨rfl, rfl⟩ := h
      exact ⟨_, decodeFrom_ascii hb⟩
    · simp only [firstChar?, hb, if_false] at h
      split at h
      · cases h
      · rename_i bits ranges hlead
        split at h
        · rename_i code behind hseq
          obtain ⟨rfl, rfl⟩ := Prod.mk.inj (Option.some.inj h)
          exact ⟨_, decodeFrom_sequence hb hlead hseq⟩
        · cases h

/-- Where no character comes, decoding stops with everything left over, or it fails, and then no
more bytes make up for it. -/
theorem stops_or_fails {bs : List UInt8} (h : firstChar? bs = none) :
    (∀ position done, decodeFrom position done bs = .ok (done.reverse, bs)) ∨
    bs ≠ [] ∧ (∀ more, firstChar? (bs ++ more) = none) ∧
      (∀ position done, ∃ f, decodeFrom position done bs = .error f) := by
  cases bs with
  | nil =>
    refine .inl fun position done => ?_
    rw [decodeFrom]
  | cons b rest =>
    by_cases hb : b < 0x80
    · simp [firstChar?, hb] at h
    cases hlead : Utf8Lead? b.toNat with
    | none =>
      refine .inr ⟨List.cons_ne_nil _ _, fun more => by simp [firstChar?, hb, hlead], ?_⟩
      exact fun position done => ⟨_, decodeFrom_badStart hb hlead⟩
    | some lead =>
      obtain ⟨bits, ranges⟩ := lead
      cases hseq : continueSequence bits [b] ranges rest with
      | ok r => simp [firstChar?, hb, hlead, hseq] at h
      | error e =>
        obtain ⟨cause, fine⟩ := e
        rcases continueSequence_error hseq with ⟨rfl, -⟩ | rfl
        · exact .inl fun position done => decodeFrom_truncated hb hlead hseq
        by_cases hsurrogate : beginsSurrogate (b :: rest) = true
        · refine .inl fun position done => ?_
          rw [decodeFrom_badContinuation hb hlead hseq, if_pos hsurrogate]
        · refine .inr ⟨List.cons_ne_nil _ _, fun more => ?_, fun position done => ?_⟩
          · simp [firstChar?, hb, hlead, continueSequence_append_bad hseq more]
          · exact ⟨_, by rw [decodeFrom_badContinuation hb hlead hseq, if_neg hsurrogate]⟩

/-- What stands before the bytes has no say in whether they are decoded, or to what. -/
theorem decodeFrom_eq_ok_iff {position : Nat} {done cs : List Char} {bs left : List UInt8} :
    decodeFrom position done bs = .ok (cs, left) ↔
      ∃ tail, decodePart bs = .ok (tail, left) ∧ cs = done.reverse ++ tail := by
  unfold decodePart
  induction hn : bs.length using Nat.strongRecOn generalizing position done cs bs with
  | _ n ih =>
    subst hn
    cases hfirst : firstChar? bs with
    | some r =>
      obtain ⟨c, after⟩ := r
      have hshorter := length_lt_of_firstChar? hfirst
      obtain ⟨next, hnext⟩ := decodeFrom_of_firstChar? hfirst position done
      obtain ⟨start, hstart⟩ := decodeFrom_of_firstChar? hfirst 0 []
      rw [hnext, hstart, ih _ hshorter rfl]
      constructor
      · rintro ⟨tail, htail, rfl⟩
        exact ⟨c :: tail, (ih _ hshorter rfl).mpr ⟨tail, htail, rfl⟩, by simp⟩
      · rintro ⟨tail', htail', rfl⟩
        obtain ⟨tail, htail, rfl⟩ := (ih _ hshorter rfl).mp htail'
        exact ⟨tail, htail, by simp⟩
    | none =>
      rcases stops_or_fails hfirst with hstop | ⟨-, -, hfail⟩
      · simp only [hstop, Except.ok.injEq, Prod.mk.injEq, List.reverse_nil]
        constructor
        · rintro ⟨rfl, rfl⟩
          exact ⟨[], ⟨rfl, rfl⟩, (List.append_nil _).symm⟩
        · rintro ⟨tail, ⟨rfl, rfl⟩, rfl⟩
          exact ⟨(List.append_nil _).symm, rfl⟩
      · obtain ⟨f, hf⟩ := hfail position done
        obtain ⟨f', hf'⟩ := hfail 0 []
        simp [hf, hf']

/-- A part of a text is decoded from its first character on. -/
theorem decodePart_eq_ok_iff {bs after left : List UInt8} {c : Char} {cs : List Char}
    (h : firstChar? bs = some (c, after)) :
    decodePart bs = .ok (cs, left) ↔
      ∃ tail, decodePart after = .ok (tail, left) ∧ cs = c :: tail := by
  obtain ⟨next, hnext⟩ := decodeFrom_of_firstChar? h 0 []
  rw [decodePart, hnext]
  exact decodeFrom_eq_ok_iff

/-! ## Whole texts -/

theorem decodeAll_eq_ok_iff {bs : List UInt8} {cs : List Char} :
    decodeAll bs = .ok cs ↔ decodePart bs = .ok (cs, []) := by
  unfold decodeAll
  cases hpart : decodePart bs with
  | error f => exact ⟨nofun, nofun⟩
  | ok r =>
    obtain ⟨cs', left⟩ := r
    cases left with
    | nil => simp [bind, Except.bind, pure, Except.pure]
    | cons b left =>
      simp only [bind, Except.bind, List.isEmpty_cons, Bool.false_eq_true, if_false]
      split_ifs
      · exact ⟨nofun, nofun⟩
      · exact ⟨nofun, nofun⟩

theorem decodeAll_cons_iff {bs after : List UInt8} {c : Char} {cs : List Char}
    (h : firstChar? bs = some (c, after)) :
    decodeAll bs = .ok cs ↔ ∃ tail, decodeAll after = .ok tail ∧ cs = c :: tail := by
  simp only [decodeAll_eq_ok_iff]
  exact decodePart_eq_ok_iff h

theorem decodeAll_ne_ok {bs : List UInt8} (hbs : bs ≠ []) (h : firstChar? bs = none)
    (cs : List Char) : decodeAll bs ≠ .ok cs := by
  intro hcs
  rw [decodeAll_eq_ok_iff, decodePart] at hcs
  rcases stops_or_fails h with hstop | ⟨-, -, hfail⟩
  · rw [hstop] at hcs
    obtain ⟨-, rfl⟩ := Prod.mk.inj (Except.ok.inj hcs)
    exact hbs rfl
  · obtain ⟨f, hf⟩ := hfail 0 []
    rw [hf] at hcs
    cases hcs

/-- Bytes may be decoded in two parts, what the first one leaves over going to the second. -/
theorem decodeAll_append_iff {xs ys : List UInt8} {cs : List Char} :
    decodeAll (xs ++ ys) = .ok cs ↔ ∃ front left back,
      decodePart xs = .ok (front, left) ∧ decodeAll (left ++ ys) = .ok back ∧
        cs = front ++ back := by
  induction hn : xs.length using Nat.strongRecOn generalizing xs cs with
  | _ n ih =>
    subst hn
    cases hfirst : firstChar? xs with
    | some r =>
      obtain ⟨c, after⟩ := r
      rw [decodeAll_cons_iff (firstChar?_append hfirst ys)]
      simp only [ih _ (length_lt_of_firstChar? hfirst) rfl, decodePart_eq_ok_iff hfirst]
      constructor
      · rintro ⟨-, ⟨front, left, back, hfront, hback, rfl⟩, rfl⟩
        exact ⟨c :: front, left, back, ⟨front, hfront, rfl⟩, hback, rfl⟩
      · rintro ⟨-, left, back, ⟨front, hfront, rfl⟩, hback, rfl⟩
        exact ⟨front ++ back, ⟨front, left, back, hfront, hback, rfl⟩, rfl⟩
    | none =>
      rcases stops_or_fails hfirst with hstop | ⟨hne, hmore, hfail⟩
      · have hpart : decodePart xs = .ok ([], xs) := hstop 0 []
        simp [hpart]
      · obtain ⟨f, hf⟩ := hfail 0 []
        have hpart : decodePart xs = .error f := hf
        have hne' : xs ++ ys ≠ [] := by simp [hne]
        simp [hpart, decodeAll_ne_ok hne' (hmore ys)]

/-! ## Encodings of characters -/

theorem byte_toNat {n : Nat} (h : n < 256) : (UInt8.ofNat n).toNat = n := Nat.mod_eq_of_lt h

theorem firstChar?_sequence {b : UInt8} {rest after : List UInt8} {bits code : Nat}
    {ranges : List (Nat × Nat)} (hlead : Utf8Lead? b.toNat = some (bits, ranges))
    (hseq : continueSequence bits [b] ranges rest = .ok (code, after)) (hb : 0x80 ≤ b.toNat) :
    firstChar? (b :: rest) = some (Char.ofNat code, after) := by
  have hb' : ¬b < 0x80 := by
    rw [UInt8.lt_iff_toNat_lt]
    exact Nat.not_lt.mpr hb
  simp only [firstChar?, hb', hlead, hseq, if_false]

/-- A byte in its range takes a sequence one step further. -/
theorem continueSequence_step {acc low high : Nat} {taken bs : List UInt8}
    {ranges : List (Nat × Nat)} {b : UInt8} (hb : low ≤ b.toNat ∧ b.toNat ≤ high) :
    continueSequence acc taken ((low, high) :: ranges) (b :: bs) =
      continueSequence (acc * 0x40 + b.toNat % 0x40) (taken ++ [b]) ranges bs := by
  rw [continueSequence, if_pos hb]

/-- The lead of two bytes, of three and of four: the bits it contributes, and the range of the
second byte, which depends on it. -/
theorem Utf8Lead?_two {n : Nat} (h : 0xc2 ≤ n ∧ n ≤ 0xdf) :
    Utf8Lead? n = some (n % 0x20, [(0x80, 0xbf)]) := by
  rw [Utf8Lead?, if_pos h]

theorem Utf8Lead?_three {n : Nat} (h : 0xe0 ≤ n ∧ n ≤ 0xef) :
    Utf8Lead? n = some (n % 0x10,
      [(if n = 0xe0 then 0xa0 else 0x80, if n = 0xed then 0x9f else 0xbf), (0x80, 0xbf)]) := by
  unfold Utf8Lead?
  split_ifs <;> first | rfl | (subst_vars; rfl) | omega

theorem Utf8Lead?_four {n : Nat} (h : 0xf0 ≤ n ∧ n ≤ 0xf4) :
    Utf8Lead? n = some (n % 8,
      [(if n = 0xf0 then 0x90 else 0x80, if n = 0xf4 then 0x8f else 0xbf), (0x80, 0xbf),
        (0x80, 0xbf)]) := by
  unfold Utf8Lead?
  split_ifs <;> first | rfl | (subst_vars; rfl) | omega

/-- There are no other leads. -/
theorem Utf8Lead?_range {n : Nat} {lead : Nat × List (Nat × Nat)} (h : Utf8Lead? n = some lead) :
    (0xc2 ≤ n ∧ n ≤ 0xdf) ∨ (0xe0 ≤ n ∧ n ≤ 0xef) ∨ (0xf0 ≤ n ∧ n ≤ 0xf4) := by
  by_contra hn
  have hnone : Utf8Lead? n = none := by
    unfold Utf8Lead?
    split_ifs <;> first | rfl | omega
  rw [hnone] at h
  cases h

/-- The first character of the encoding of a character is that character. -/
theorem firstChar?_encode (c : Char) (after : List UInt8) :
    firstChar? (String.utf8EncodeChar c ++ after) = some (c, after) := by
  have hvalid : c.val.toNat < 0xd800 ∨ 0xdfff < c.val.toNat ∧ c.val.toNat < 0x110000 := c.valid
  have hchar : Char.ofNat c.val.toNat = c := Char.ofNat_toNat c
  generalize hv : c.val.toNat = v at hvalid hchar
  rw [String.utf8EncodeChar.eq_1, hv]
  split_ifs with h1 h2 h3
  · have hb : (UInt8.ofNat v).toNat = v := byte_toNat (by omega)
    have hlt : UInt8.ofNat v < 0x80 := by
      rw [UInt8.lt_iff_toNat_lt, hb]
      exact Nat.lt_succ_of_le h1
    simp only [List.cons_append, List.nil_append, firstChar?, hlt, if_true, hb, hchar]
  · have hb : (UInt8.ofNat (v / 64 % 32 + 192)).toNat = v / 64 % 32 + 192 :=
      byte_toNat (by omega)
    have hb1 : (UInt8.ofNat (v % 64 + 128)).toNat = v % 64 + 128 :=
      byte_toNat (by omega)
    simp only [List.cons_append, List.nil_append]
    refine (firstChar?_sequence (Utf8Lead?_two (by omega)) ?_ (by omega)).trans (by rw [hchar])
    rw [continueSequence_step (by omega), continueSequence]
    congr 2
    omega
  · have hb : (UInt8.ofNat (v / 4096 % 16 + 224)).toNat = v / 4096 % 16 + 224 :=
      byte_toNat (by omega)
    have hb1 : (UInt8.ofNat (v / 64 % 64 + 128)).toNat = v / 64 % 64 + 128 :=
      byte_toNat (by omega)
    have hb2 : (UInt8.ofNat (v % 64 + 128)).toNat = v % 64 + 128 :=
      byte_toNat (by omega)
    simp only [List.cons_append, List.nil_append]
    refine (firstChar?_sequence (Utf8Lead?_three (by omega)) ?_ (by omega)).trans (by rw [hchar])
    rw [continueSequence_step (by split_ifs <;> omega), continueSequence_step (by omega),
      continueSequence]
    congr 2
    omega
  · have hb : (UInt8.ofNat (v / 262144 % 8 + 240)).toNat = v / 262144 % 8 + 240 :=
      byte_toNat (by omega)
    have hb1 : (UInt8.ofNat (v / 4096 % 64 + 128)).toNat = v / 4096 % 64 + 128 :=
      byte_toNat (by omega)
    have hb2 : (UInt8.ofNat (v / 64 % 64 + 128)).toNat = v / 64 % 64 + 128 :=
      byte_toNat (by omega)
    have hb3 : (UInt8.ofNat (v % 64 + 128)).toNat = v % 64 + 128 :=
      byte_toNat (by omega)
    simp only [List.cons_append, List.nil_append]
    refine (firstChar?_sequence (Utf8Lead?_four (by omega)) ?_ (by omega)).trans (by rw [hchar])
    rw [continueSequence_step (by split_ifs <;> omega), continueSequence_step (by omega),
      continueSequence_step (by omega), continueSequence]
    congr 2
    omega

theorem continueSequence_cons {acc low high code : Nat} {taken bs after : List UInt8}
    {ranges : List (Nat × Nat)}
    (h : continueSequence acc taken ((low, high) :: ranges) bs = .ok (code, after)) :
    ∃ b bs', bs = b :: bs' ∧ (low ≤ b.toNat ∧ b.toNat ≤ high) ∧
      continueSequence (acc * 0x40 + b.toNat % 0x40) (taken ++ [b]) ranges bs' =
        .ok (code, after) := by
  cases bs with
  | nil => cases h
  | cons b bs' =>
    simp only [continueSequence] at h
    split at h
    · rename_i hb
      exact ⟨b, bs', rfl, hb, h⟩
    · cases h

theorem continueSequence_nil {acc code : Nat} {taken bs after : List UInt8}
    (h : continueSequence acc taken [] bs = .ok (code, after)) : acc = code ∧ bs = after := by
  rw [continueSequence] at h
  exact Prod.mk.inj (Except.ok.inj h)

theorem byte_eq {n : Nat} {b : UInt8} (h : n = b.toNat) : UInt8.ofNat n = b := by
  rw [h, UInt8.ofNat_toNat]

theorem toNat_ofNat_char {n : Nat} (h : n < 0xd800 ∨ 0xdfff < n ∧ n < 0x110000) :
    (Char.ofNat n).val.toNat = n := by
  have hvalid : n.isValidChar := h
  rw [Char.ofNat, dif_pos hvalid]
  rfl

/-- A sequence that is taken whole is the encoding of the character with its code. -/
theorem eq_encode_of_sequence {b : UInt8} {rest after : List UInt8} {bits code : Nat}
    {ranges : List (Nat × Nat)} (hlead : Utf8Lead? b.toNat = some (bits, ranges))
    (hseq : continueSequence bits [b] ranges rest = .ok (code, after)) :
    b :: rest = String.utf8EncodeChar (Char.ofNat code) ++ after := by
  rcases Utf8Lead?_range hlead with hrange | hrange | hrange
  · rw [Utf8Lead?_two hrange] at hlead
    obtain ⟨rfl, rfl⟩ := Prod.mk.inj (Option.some.inj hlead)
    obtain ⟨b1, rest, rfl, hb1, hseq⟩ := continueSequence_cons hseq
    obtain ⟨rfl, rfl⟩ := continueSequence_nil hseq
    rw [String.utf8EncodeChar.eq_1, toNat_ofNat_char (by omega), if_neg (by omega),
      if_pos (by omega), byte_eq (b := b) (by omega), byte_eq (b := b1) (by omega)]
    rfl
  · rw [Utf8Lead?_three hrange] at hlead
    obtain ⟨rfl, rfl⟩ := Prod.mk.inj (Option.some.inj hlead)
    obtain ⟨b1, rest, rfl, hb1, hseq⟩ := continueSequence_cons hseq
    obtain ⟨b2, rest, rfl, hb2, hseq⟩ := continueSequence_cons hseq
    obtain ⟨rfl, rfl⟩ := continueSequence_nil hseq
    have hsecond : 0x80 ≤ b1.toNat ∧ b1.toNat ≤ 0xbf ∧ (b.toNat = 0xe0 → 0xa0 ≤ b1.toNat) ∧
        (b.toNat = 0xed → b1.toNat ≤ 0x9f) := by
      split_ifs at hb1 <;> omega
    rw [String.utf8EncodeChar.eq_1, toNat_ofNat_char (by omega), if_neg (by omega),
      if_neg (by omega), if_pos (by omega), byte_eq (b := b) (by omega),
      byte_eq (b := b1) (by omega), byte_eq (b := b2) (by omega)]
    rfl
  · rw [Utf8Lead?_four hrange] at hlead
    obtain ⟨rfl, rfl⟩ := Prod.mk.inj (Option.some.inj hlead)
    obtain ⟨b1, rest, rfl, hb1, hseq⟩ := continueSequence_cons hseq
    obtain ⟨b2, rest, rfl, hb2, hseq⟩ := continueSequence_cons hseq
    obtain ⟨b3, rest, rfl, hb3, hseq⟩ := continueSequence_cons hseq
    obtain ⟨rfl, rfl⟩ := continueSequence_nil hseq
    have hsecond : 0x80 ≤ b1.toNat ∧ b1.toNat ≤ 0xbf ∧ (b.toNat = 0xf0 → 0x90 ≤ b1.toNat) ∧
        (b.toNat = 0xf4 → b1.toNat ≤ 0x8f) := by
      split_ifs at hb1 <;> omega
    rw [String.utf8EncodeChar.eq_1, toNat_ofNat_char (by omega), if_neg (by omega),
      if_neg (by omega), if_neg (by omega), byte_eq (b := b) (by omega),
      byte_eq (b := b1) (by omega), byte_eq (b := b2) (by omega), byte_eq (b := b3) (by omega)]
    rfl

/-- A character that comes first is there in its encoding. -/
theorem eq_encode_of_firstChar? {bs after : List UInt8} {c : Char}
    (h : firstChar? bs = some (c, after)) : bs = String.utf8EncodeChar c ++ after := by
  cases bs with
  | nil => cases h
  | cons b rest =>
    by_cases hb : b < 0x80
    · simp only [firstChar?, hb, if_true, Option.some.injEq, Prod.mk.injEq] at h
      obtain ⟨rfl, rfl⟩ := h
      rw [UInt8.lt_iff_toNat_lt] at hb
      have hlt : b.toNat < 0x80 := hb
      rw [String.utf8EncodeChar.eq_1, toNat_ofNat_char (by omega), if_pos (by omega),
        UInt8.ofNat_toNat]
      rfl
    simp only [firstChar?, hb, if_false] at h
    split at h
    · cases h
    rename_i bits ranges hlead
    split at h
    · rename_i code behind hseq
      obtain ⟨rfl, rfl⟩ := Prod.mk.inj (Option.some.inj h)
      exact eq_encode_of_sequence hlead hseq
    · cases h

theorem decodeAll_nil : decodeAll [] = .ok [] := by
  rw [decodeAll_eq_ok_iff, decodePart, decodeFrom]
  rfl

/-- Bytes are decoded to the characters that they are the encodings of. -/
theorem decodeAll_iff_encode {bs : List UInt8} {cs : List Char} :
    decodeAll bs = .ok cs ↔ bs = cs.flatMap String.utf8EncodeChar := by
  constructor
  · intro h
    induction hn : bs.length using Nat.strongRecOn generalizing bs cs with
    | _ n ih =>
      subst hn
      cases hfirst : firstChar? bs with
      | some r =>
        obtain ⟨c, after⟩ := r
        obtain ⟨tail, htail, rfl⟩ := (decodeAll_cons_iff hfirst).mp h
        have hafter := ih _ (length_lt_of_firstChar? hfirst) htail rfl
        rw [List.flatMap_cons, ← hafter]
        exact eq_encode_of_firstChar? hfirst
      | none =>
        by_cases hbs : bs = []
        · subst hbs
          obtain rfl := Except.ok.inj (decodeAll_nil.symm.trans h)
          rfl
        · exact absurd h (decodeAll_ne_ok hbs hfirst cs)
  · rintro rfl
    induction cs with
    | nil => exact decodeAll_nil
    | cons c cs ih =>
      rw [List.flatMap_cons]
      exact (decodeAll_cons_iff (firstChar?_encode c _)).mpr ⟨cs, ih, rfl⟩

theorem isUtf8_iff {bs : List UInt8} : IsUtf8 bs ↔ ∃ cs, decodeAll bs = .ok cs := by
  simp only [IsUtf8, decodeAll_iff_encode]

end RuleFit.Text
