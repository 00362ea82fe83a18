import Mathlib
import RuleFit.Proofs.Charge
import RuleFit.Trial

/-!
# Transcripts

What a trial does is decided by the replies to its calls. A *turn* is one sample with one round, and
the turns of a trial come sample by sample (`turns`). The engine's *transcript* sets the reply
beside every turn; the engine's own state is threaded through and need not be looked at afterwards.

Two counts are taken over a transcript.

- `diagnosed ps i id` is what an observer of the calls sees: how many diagnostics for a rule came in
  round `i`.
- `charges ps id i` is what a trial charges to candidate `i` of the rule. A diagnostic only counts
  if the rule is in the rule set of its round.

They agree on rules that are in the rule set of every round `i` (`charges_eq_diagnosed`), and
nothing is charged to rules that are in none (`charges_eq_zero`).
-/

namespace RuleFit

/-! ## Replies -/

namespace Reply

/-- The diagnostics read from a reply, up to where it breaks off. -/
def found : Reply → List Diagnostic
  | .diagnostics ds | .broken ds _ => ds
  | .failed _ | .missing => []

/-- The fault that a reply ends a trial with, if it does. -/
def fault? : Reply → Option TrialFault
  | .missing => some .missing
  | .broken _ message => some (.broken message)
  | .diagnostics _ | .failed _ => none

def isFailed : Reply → Bool
  | .failed _ => true
  | _ => false

theorem found_of_isFailed {r : Reply} (h : r.isFailed = true) : r.found = [] := by
  cases r <;> first | rfl | cases h

end Reply

/-! ## Rounds and turns -/

namespace Round

/-- Whether a diagnostic is for a rule of the round. -/
def concerns (round : Round) : Diagnostic → Bool
  | none => false
  | some id => round.rules.contains id

/-- The errors that diagnostics charge to candidate `i` of a rule. -/
def charges (round : Round) (ds : List Diagnostic) (id : Text) (i : Nat) : Nat :=
  if i = round.position ∧ round.rules.contains id = true then ds.count (some id) else 0

@[simp] theorem charges_nil (round : Round) : round.charges [] = fun _ _ => 0 := by
  funext id i
  simp [charges]

theorem charges_cons (round : Round) (d : Diagnostic) (ds : List Diagnostic) (id : Text)
    (i : Nat) : round.charges (d :: ds) id i = round.charges [d] id i + round.charges ds id i := by
  unfold charges
  split_ifs
  · rw [List.count_cons, List.count_singleton, Nat.add_comm]
  · rfl

theorem charges_singleton {round : Round} {id : Text} (h : round.rules.contains id = true) :
    round.charges [some id] = fun x i => if x = id ∧ i = round.position then 1 else 0 := by
  funext x i
  by_cases hx : x = id
  · simp [charges, hx, h]
  · have hx' : ¬ id = x := fun h => hx h.symm
    simp [charges, hx, hx']

theorem charges_singleton_eq_zero {round : Round} {d : Diagnostic}
    (h : round.concerns d = false) : round.charges [d] = fun _ _ => 0 := by
  funext x i
  refine ite_eq_right_iff.2 fun ⟨_, hx⟩ => List.count_eq_zero.2 fun hd => ?_
  rw [List.mem_singleton] at hd
  rw [← hd, concerns, hx] at h
  cases h

end Round

/-- One sample with one round. -/
structure Turn where
  round : Round
  source : Text

def Turn.call (turn : Turn) : Call := ⟨turn.source, turn.round.config⟩

/-- The turns of a sample, round by round. -/
def Sample.turns (rounds : List Round) : Sample → List Turn
  | .readable _ source => rounds.map (⟨·, source⟩)
  | .unreadable .. => []

/-- The turns of a trial, sample by sample. -/
def turns (rounds : List Round) (samples : List Sample) : List Turn :=
  samples.flatMap (Sample.turns rounds)

def Sample.isReadable : Sample → Bool
  | .readable .. => true
  | .unreadable .. => false

theorem round_mem_of_mem_turns {rounds : List Round} {samples : List Sample} {turn : Turn}
    (h : turn ∈ turns rounds samples) : turn.round ∈ rounds := by
  obtain ⟨sample, -, h⟩ := List.mem_flatMap.1 h
  cases sample with
  | readable file source =>
    obtain ⟨round, hr, rfl⟩ := List.mem_map.1 h
    exact hr
  | unreadable file cause => cases h

theorem turns_append (rounds : List Round) (as bs : List Sample) :
    turns rounds (as ++ bs) = turns rounds as ++ turns rounds bs :=
  List.flatMap_append

theorem length_turns (rounds : List Round) (samples : List Sample) :
    (turns rounds samples).length = samples.countP Sample.isReadable * rounds.length := by
  induction samples with
  | nil => simp [turns]
  | cons sample samples ih =>
    have hcons : turns rounds (sample :: samples) =
        sample.turns rounds ++ turns rounds samples := rfl
    rw [hcons, List.length_append, ih]
    cases sample with
    | readable file source =>
      rw [List.countP_cons_of_pos rfl, Nat.add_mul, Nat.one_mul, Nat.add_comm]
      simp [Sample.turns]
    | unreadable file cause =>
      rw [List.countP_cons_of_neg Bool.false_ne_true]
      simp [Sample.turns]

/-! ## Transcripts -/

namespace Engine

variable {σ : Type} (engine : Engine σ)

/-- The turns with the replies that they get, one after the other. -/
def transcript (state : σ) : List Turn → List (Turn × Reply)
  | [] => []
  | turn :: ts =>
    (turn, (engine.verify state turn.call).1) :: transcript (engine.verify state turn.call).2 ts

/-- The state after some turns. -/
def after (state : σ) (ts : List Turn) : σ :=
  ts.foldl (fun s turn => (engine.verify s turn.call).2) state

theorem transcript_singleton (state : σ) (turn : Turn) :
    engine.transcript state [turn] = [(turn, (engine.verify state turn.call).1)] := rfl

@[simp] theorem transcript_append (state : σ) (as bs : List Turn) :
    engine.transcript state (as ++ bs) =
      engine.transcript state as ++ engine.transcript (engine.after state as) bs := by
  induction as generalizing state with
  | nil => rfl
  | cons a as ih => simp only [List.cons_append, transcript, ih]; rfl

theorem after_append (state : σ) (as bs : List Turn) :
    engine.after state (as ++ bs) = engine.after (engine.after state as) bs :=
  List.foldl_append ..

/-- What is read off a turn and its reply in the same way in every state is read off the turn. -/
theorem map_transcript {β : Type} {g : Turn × Reply → β} {k : Turn → β}
    (h : ∀ s turn, g (turn, (engine.verify s turn.call).1) = k turn) (state : σ)
    (ts : List Turn) : (engine.transcript state ts).map g = ts.map k := by
  induction ts generalizing state with
  | nil => rfl
  | cons turn ts ih => rw [transcript, List.map_cons, List.map_cons, h, ih]

@[simp] theorem map_fst_transcript (state : σ) (ts : List Turn) :
    (engine.transcript state ts).map Prod.fst = ts := by
  rw [engine.map_transcript (k := id) (fun _ _ => rfl), List.map_id]

theorem map_call_transcript (state : σ) (ts : List Turn) :
    ((engine.transcript state ts).map fun p => p.1.call) = ts.map Turn.call :=
  engine.map_transcript (fun _ _ => rfl) state ts

@[simp] theorem length_transcript (state : σ) (ts : List Turn) :
    (engine.transcript state ts).length = ts.length := by
  rw [← List.length_map (f := Prod.fst), map_fst_transcript]

theorem round_mem_of_mem_transcript {state : σ} {rounds : List Round} {samples : List Sample}
    {p : Turn × Reply} (h : p ∈ engine.transcript state (turns rounds samples)) :
    p.1.round ∈ rounds := by
  have hturn := List.mem_map_of_mem (f := Prod.fst) h
  rw [map_fst_transcript] at hturn
  exact round_mem_of_mem_turns hturn

end Engine

/-! ## Counts over a transcript -/

/-- The diagnostics for a rule that came in round `i`. -/
def diagnosed (ps : List (Turn × Reply)) (i : Nat) (id : Text) : Nat :=
  (ps.map fun p => if p.1.round.position = i then p.2.found.count (some id) else 0).sum

/-- The errors that a transcript charges to candidate `i` of a rule. -/
def charges (ps : List (Turn × Reply)) (id : Text) (i : Nat) : Nat :=
  (ps.map fun p => p.1.round.charges p.2.found id i).sum

/-- The diagnostics of a transcript that are charged. -/
def chargedCount (ps : List (Turn × Reply)) : Nat :=
  (ps.map fun p => p.2.found.countP p.1.round.concerns).sum

/-- The diagnostics of a transcript that are ignored. -/
def ignoredCount (ps : List (Turn × Reply)) : Nat :=
  (ps.map fun p => p.2.found.countP fun d => !p.1.round.concerns d).sum

theorem charges_singleton (p : Turn × Reply) :
    charges [p] = p.1.round.charges p.2.found := by
  funext id i
  simp [charges]

theorem diagnosed_append (ps qs : List (Turn × Reply)) (i : Nat) (id : Text) :
    diagnosed (ps ++ qs) i id = diagnosed ps i id + diagnosed qs i id := by
  simp [diagnosed]

theorem charges_append (ps qs : List (Turn × Reply)) :
    charges (ps ++ qs) = fun id i => charges ps id i + charges qs id i := by
  funext id i
  simp [charges]

theorem chargedCount_append (ps qs : List (Turn × Reply)) :
    chargedCount (ps ++ qs) = chargedCount ps + chargedCount qs := by
  simp [chargedCount]

theorem ignoredCount_append (ps qs : List (Turn × Reply)) :
    ignoredCount (ps ++ qs) = ignoredCount ps + ignoredCount qs := by
  simp [ignoredCount]

theorem charges_eq_diagnosed {ps : List (Turn × Reply)} {id : Text} {i : Nat}
    (h : ∀ p ∈ ps, p.1.round.position = i → p.1.round.rules.contains id = true) :
    charges ps id i = diagnosed ps i id := by
  refine congrArg List.sum (List.map_congr_left fun p hp => ?_)
  by_cases hi : p.1.round.position = i
  · simp [Round.charges, hi, h p hp hi]
  · simp [Round.charges, hi, Ne.symm hi]

theorem charges_eq_zero {ps : List (Turn × Reply)} {id : Text} {i : Nat}
    (h : ∀ p ∈ ps, p.1.round.position = i → p.1.round.rules.contains id = false) :
    charges ps id i = 0 := by
  refine List.sum_eq_zero fun n hn => ?_
  obtain ⟨p, hp, rfl⟩ := List.mem_map.1 hn
  refine if_neg fun ⟨hi, hid⟩ => ?_
  rw [h p hp hi.symm] at hid
  cases hid

/-- A failed call charges nothing. -/
theorem charges_filter_not_failed (ps : List (Turn × Reply)) :
    charges (ps.filter fun p => !p.2.isFailed) = charges ps := by
  funext id i
  induction ps with
  | nil => rfl
  | cons p ps ih =>
    have hcons : charges (p :: ps) id i = p.1.round.charges p.2.found id i + charges ps id i := rfl
    by_cases hp : p.2.isFailed
    · rw [List.filter_cons_of_neg (by simpa using hp), ih, hcons, Reply.found_of_isFailed hp,
        Round.charges_nil, Nat.zero_add]
    · rw [List.filter_cons_of_pos (by simpa using hp), hcons, ← ih]
      rfl

end RuleFit
