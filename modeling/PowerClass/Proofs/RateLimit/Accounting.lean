import Mathlib.Algebra.GroupWithZero.Nat
import PowerClass.Proofs.RateLimit.Run

/-!
# PowerClass.Proofs.RateLimit.Accounting

No refusal is lost. A window counts the events that it refuses, and the event that opens the next
window is told of them; times may come in any order.

* `Decides.refused_add`: one decision loses no refusal.
* `Accounted`: what the counters of a window say of the run so far. `Accounted.step` is one more
  event, and `accounted_run` any run.
* `LosesNothing`: the refusals of a run, and the answers that tell of them.
* `run_losesNothing`: every limit with a burst loses nothing.
-/

namespace PowerClass
namespace RateLimit

/-- The number of events that were refused. -/
def numRefused (events : List Decision) : Nat :=
  events.countP fun d => !d.isAdmitted

/-- The number of refusals that answers tell of. -/
def numTold (events : List Decision) : Nat :=
  (events.map Decision.told).sum

/-- The events of one window: the first opens it, and no other opens another. -/
def IsWindow : List Decision → Prop
  | [] => False
  | first :: others => first.opened = true ∧ ∀ d ∈ others, d.opened = false

theorem numRefused_concat (past : List Decision) (d : Decision) :
    numRefused (past ++ [d]) = numRefused past + if d.isAdmitted then 0 else 1 := by
  rw [numRefused, List.countP_append, ← numRefused]
  cases h : d.isAdmitted <;> simp [h]

theorem numTold_concat (past : List Decision) (d : Decision) :
    numTold (past ++ [d]) = numTold past + d.told := by
  simp [numTold]

/-- A window that ends with its opening is that event alone. -/
theorem IsWindow.of_opened {earlier events past : List Decision} {d : Decision}
    (hw : IsWindow events) (he : past ++ [d] = earlier ++ events) (ho : d.opened = true) :
    events = [d] := by
  cases events using List.reverseRecOn with
  | nil => exact hw.elim
  | append_singleton others last =>
    rw [← List.append_assoc] at he
    obtain ⟨-, hl⟩ := List.append_inj' he rfl
    obtain rfl : d = last := by simpa using hl
    cases others with
    | nil => rfl
    | cons first rest =>
      have hstays : d.opened = false := hw.2 d (by simp)
      rw [ho] at hstays
      cases hstays

/-- A window that ends with any other event goes on from before that event. -/
theorem IsWindow.of_not_opened {earlier events past : List Decision} {d : Decision}
    (hw : IsWindow events) (he : past ++ [d] = earlier ++ events) (ho : d.opened = false) :
    ∃ others, events = others ++ [d] ∧ past = earlier ++ others ∧ IsWindow others := by
  cases events using List.reverseRecOn with
  | nil => exact hw.elim
  | append_singleton others last =>
    rw [← List.append_assoc] at he
    obtain ⟨hpast, hl⟩ := List.append_inj' he rfl
    obtain rfl : d = last := by simpa using hl
    refine ⟨others, rfl, hpast, ?_⟩
    cases others with
    | nil =>
      have hopens : d.opened = true := hw.1
      rw [ho] at hopens
      cases hopens
    | cons first rest =>
      exact ⟨hw.1, fun e he => hw.2 e (List.mem_append_left _ he)⟩

variable {limit : RateLimit}

/-! ## One decision -/

namespace Decides

variable {window : Window} {d : Decision}

/-- The refusals that a window had counted, and the event when it is refused, are told by the answer
or counted in the window that it leaves. -/
theorem refused_add (hd : limit.Decides window d) (hb : 1 ≤ limit.burst) :
    window.refused + (if d.isAdmitted then 0 else 1) = d.told + d.window.refused := by
  cases hd with
  | opens _ _ => simp [Decision.isAdmitted, Decision.told]
  | opensRefused _ hzero => omega
  | admits _ _ => simp [Decision.isAdmitted, Decision.told]
  | refuses _ _ => simp [Decision.isAdmitted, Decision.told]

/-- An event that opens a window is told of the refusals in the window before. -/
theorem answer_of_opened (hd : limit.Decides window d) (hb : 1 ≤ limit.burst)
    (ho : d.opened = true) : d.answer = some window.refused := by
  cases hd with
  | opens _ _ => rfl
  | opensRefused _ hzero => omega
  | admits _ _ => cases ho
  | refuses _ _ => cases ho

theorem told_of_not_opened (hd : limit.Decides window d) (ho : d.opened = false) : d.told = 0 := by
  cases hd with
  | opens _ _ => cases ho
  | opensRefused _ _ => cases ho
  | admits _ _ => rfl
  | refuses _ _ => rfl

theorem admitted_le (hd : limit.Decides window d) (h : window.admitted ≤ limit.burst) :
    d.window.admitted ≤ limit.burst := by
  cases hd with
  | opens _ hb => exact hb
  | opensRefused _ _ => exact Nat.zero_le _
  | admits _ hroom => exact hroom
  | refuses _ _ => exact h

theorem counted_le (hd : limit.Decides window d) :
    d.window.admitted + d.window.refused ≤ window.admitted + window.refused + 1 := by
  cases hd <;> simp only <;> omega

end Decides

/-! ## Runs -/

/-- What a window says of the run that leaves it: the refusals that nobody was told of are those in
its own count, which are the refusals since it was opened. -/
structure Accounted (limit : RateLimit) (past : List Decision) (window : Window) : Prop where
  numRefused_eq : numRefused past = numTold past + window.refused
  refused_eq : ∀ earlier events, past = earlier ++ events → IsWindow events →
    window.refused = numRefused events
  admitted_le : window.admitted ≤ limit.burst
  le_length : window.admitted + window.refused ≤ past.length

theorem Accounted.step {past : List Decision} {window : Window} {d : Decision}
    (hb : 1 ≤ limit.burst) (h : limit.Accounted past window) (hd : limit.Decides window d) :
    limit.Accounted (past ++ [d]) d.window where
  numRefused_eq := by
    rw [numRefused_concat, numTold_concat, h.numRefused_eq, Nat.add_assoc, hd.refused_add hb,
      Nat.add_assoc]
  refused_eq earlier events he hw := by
    have hcount := hd.refused_add hb
    cases ho : d.opened with
    | true =>
      have htold : d.told = window.refused := by
        rw [Decision.told, hd.answer_of_opened hb ho, Option.getD_some]
      rw [hw.of_opened he ho, ← List.nil_append [d], numRefused_concat]
      rw [htold] at hcount
      exact (Nat.add_left_cancel hcount).symm.trans (Nat.zero_add _).symm
    | false =>
      obtain ⟨others, rfl, hpast, hothers⟩ := hw.of_not_opened he ho
      rw [numRefused_concat, ← h.refused_eq earlier others hpast hothers, hcount,
        hd.told_of_not_opened ho, Nat.zero_add]
  admitted_le := hd.admitted_le h.admitted_le
  le_length := by
    have hlength := h.le_length
    have hcounted := hd.counted_le
    rw [List.length_append, List.length_singleton]
    omega

theorem accounted_run (hb : 1 ≤ limit.burst) (times : List Nat) :
    limit.Accounted (limit.run times) (limit.windowAfter .initial times) := by
  refine limit.run_induction ?_ (fun past window d h hd => h.step hb hd) times
  refine ⟨rfl, ?_, Nat.zero_le _, Nat.zero_le _⟩
  intro earlier events he hw
  obtain ⟨-, rfl⟩ := List.append_eq_nil_iff.mp he.symm
  exact hw.elim

/-- What becomes of the refusals of a run. After each event, every refusal so far was told to an
event or is in the count of the window. The event that opens a window is admitted and told of the
refusals of the whole window before it, and no other event is told of any. Of the two counters, one
stays within the burst and both fit in 32 bits. -/
structure LosesNothing (limit : RateLimit) (times : List Nat) : Prop where
  answers_eq : (limit.run times).map Decision.answer = limit.checkAll .initial times
  accounted : ∀ past d later, limit.run times = past ++ d :: later →
    numRefused (past ++ [d]) = numTold (past ++ [d]) + d.window.refused
  opens_first : ∀ d later, limit.run times = d :: later → d.opened = true ∧ d.answer = some 0
  answer_of_opened : ∀ past events d later, limit.run times = past ++ events ++ d :: later →
    IsWindow events → d.opened = true → d.answer = some (numRefused events)
  told_of_not_opened : ∀ d ∈ limit.run times, d.opened = false → d.told = 0
  admitted_le : ∀ d ∈ limit.run times, d.window.admitted ≤ limit.burst
  counters_lt : times.length < 2 ^ 32 → ∀ d ∈ limit.run times,
    d.window.admitted < 2 ^ 32 ∧ d.window.refused < 2 ^ 32

/-- **Refusals.** A limit that admits any events at all loses no refusal, in whatever order the
times of the events come. -/
theorem run_losesNothing (limit : RateLimit) (hb : 1 ≤ limit.burst) (times : List Nat) :
    limit.LosesNothing times := by
  constructor
  case answers_eq => exact limit.map_answer_run times
  case accounted =>
    intro past d later h
    obtain ⟨earlier, -, rfl, hd⟩ := limit.of_decisions_eq h
    exact ((accounted_run hb earlier).step hb hd).numRefused_eq
  case opens_first =>
    intro d later h
    cases times with
    | nil => cases h
    | cons now rest =>
      obtain ⟨rfl, -⟩ := List.cons.inj h
      exact ⟨rfl, (limit.decides_decisionAt .initial now).answer_of_opened hb rfl⟩
  case answer_of_opened =>
    intro past events d later h hw ho
    obtain ⟨earlier, -, hpast, hd⟩ := limit.of_decisions_eq h
    rw [hd.answer_of_opened hb ho, (accounted_run hb earlier).refused_eq past events hpast hw]
  case told_of_not_opened =>
    intro d hm ho
    obtain ⟨earlier, -, hd⟩ := limit.of_mem_run hm
    exact hd.told_of_not_opened ho
  case admitted_le =>
    intro d hm
    obtain ⟨earlier, -, hd⟩ := limit.of_mem_run hm
    exact ((accounted_run hb earlier).step hb hd).admitted_le
  case counters_lt =>
    intro hlength d hm
    obtain ⟨earlier, hprefix, hd⟩ := limit.of_mem_run hm
    have hle := hprefix.length_le
    have hcounts := ((accounted_run hb earlier).step hb hd).le_length
    rw [List.length_append, List.length_singleton] at hle hcounts
    rw [length_run] at hcounts
    omega

/-- One event in five units of time. The third event comes from before the first, and is refused
like the second; the fourth is told of both. -/
theorem run_losesNothing_backwards :
    1 ≤ (RateLimit.mk 5 1).burst ∧
      checkAll ⟨5, 1⟩ .initial [10, 10, 3, 15, 16] = [some 0, none, none, some 2, none] ∧
      LosesNothing ⟨5, 1⟩ [10, 10, 3, 15, 16] :=
  ⟨by decide, by decide, run_losesNothing ⟨5, 1⟩ (by decide) _⟩

/-- A limit without a burst refuses also the events that open windows, and forgets. -/
example :
    numRefused (run ⟨5, 0⟩ [0, 5]) = 2 ∧ numTold (run ⟨5, 0⟩ [0, 5]) = 0 ∧
      (windowAfter ⟨5, 0⟩ .initial [0, 5]).refused = 1 := by
  decide

end RateLimit
end PowerClass
