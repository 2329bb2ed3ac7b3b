import PowerClass.Proofs.RateLimit.Run

/-!
# PowerClass.Proofs.RateLimit.Pace

How many events are admitted, and when, while time does not run backwards. A limit keeps its current
window only, yet no span of time as long as its interval meets more than two windows, and each of
them admits no more than the burst.

* `numAdmitted`: the events that were admitted at given times.
* `Paced`: what the start of a window and its count say of all admissions so far. `Paced.fresh`
  opens a window, `Paced.concat` decides one more event in it, and `pacedRun_run` is any run.
* `run_keepsPace`: the bound on every span, and that nothing is refused without a full burst in the
  interval before it.
-/

namespace PowerClass
namespace RateLimit

/-- The number of events that were admitted at times with a property. -/
def numAdmitted (p : Nat → Prop) [DecidablePred p] (events : List Decision) : Nat :=
  events.countP fun d => d.isAdmitted && decide (p d.time)

section

variable {p q : Nat → Prop} [DecidablePred p] [DecidablePred q] {events past : List Decision}
  {d : Decision}

theorem numAdmitted_concat : numAdmitted p (past ++ [d]) =
    numAdmitted p past + if d.isAdmitted = true ∧ p d.time then 1 else 0 := by
  rw [numAdmitted, List.countP_append, ← numAdmitted, List.countP_singleton]
  simp only [Bool.and_eq_true, decide_eq_true_eq]

theorem numAdmitted_concat_le : numAdmitted p (past ++ [d]) ≤
    numAdmitted p past + if d.isAdmitted then 1 else 0 := by
  rw [numAdmitted_concat]
  by_cases ha : d.isAdmitted = true
  · by_cases hp : p d.time <;> simp [ha, hp]
  · simp [ha]

theorem numAdmitted_mono (h : ∀ d ∈ events, p d.time → q d.time) :
    numAdmitted p events ≤ numAdmitted q events := by
  refine List.countP_mono_left fun d hd hp => ?_
  simp only [Bool.and_eq_true, decide_eq_true_eq] at hp ⊢
  exact ⟨hp.1, h d hd hp.2⟩

theorem numAdmitted_eq_zero (h : ∀ d ∈ events, ¬ p d.time) : numAdmitted p events = 0 := by
  refine List.countP_eq_zero.mpr fun d hd hp => ?_
  simp only [Bool.and_eq_true, decide_eq_true_eq] at hp
  exact h d hd hp.2

theorem exists_of_numAdmitted_pos (h : 0 < numAdmitted p events) :
    ∃ d ∈ events, d.isAdmitted = true ∧ p d.time := by
  obtain ⟨d, hd, hp⟩ := List.countP_pos_iff.mp h
  simp only [Bool.and_eq_true, decide_eq_true_eq] at hp
  exact ⟨d, hd, hp⟩

end

/-- What is known of all admissions so far in a window that was opened at `start` and has admitted
`count` events. What came after its start is its own, and of what came before, no more than a burst
came less than an interval before. -/
structure Paced (limit : RateLimit) (past : List Decision) (start count : Nat) : Prop where
  count_le : count ≤ limit.burst
  count_le_from : count ≤ numAdmitted (start ≤ ·) past
  after_le : ∀ a, start < a → numAdmitted (a ≤ ·) past ≤ count
  from_le : ∀ a, start < a + limit.interval → numAdmitted (a ≤ ·) past ≤ limit.burst + count
  span_le : ∀ a, numAdmitted (fun t => a ≤ t ∧ t < a + limit.interval) past ≤ 2 * limit.burst

variable {limit : RateLimit} {past : List Decision} {start count : Nat}

theorem paced_nil (now : Nat) : limit.Paced [] now 0 := by
  constructor <;> simp [numAdmitted]

/-- A new window, before its first event. The window before it was opened an interval earlier, so
what came less than an interval ago was admitted by that window alone. -/
theorem Paced.fresh (h : limit.Paced past start count) {now : Nat}
    (hi : start + limit.interval ≤ now) (hle : ∀ d ∈ past, d.time ≤ now) :
    limit.Paced past now 0 where
  count_le := Nat.zero_le _
  count_le_from := Nat.zero_le _
  after_le a ha := by
    have hzero : numAdmitted (a ≤ ·) past = 0 :=
      numAdmitted_eq_zero fun d hd hd' => absurd (hle d hd) (by omega)
    exact Nat.le_of_eq hzero
  from_le a ha := by
    have hafter := h.after_le a (by omega)
    have hcount := h.count_le
    omega
  span_le := h.span_le

theorem Paced.concat (h : limit.Paced past start count) {d : Decision} (hs : start ≤ d.time)
    (hroom : count + (if d.isAdmitted then 1 else 0) ≤ limit.burst) :
    limit.Paced (past ++ [d]) start (count + if d.isAdmitted then 1 else 0) where
  count_le := hroom
  count_le_from := by
    have hfrom := h.count_le_from
    rw [numAdmitted_concat]
    simp only [hs, and_true]
    omega
  after_le a ha := by
    have hafter := h.after_le a ha
    exact Nat.le_trans numAdmitted_concat_le (Nat.add_le_add_right hafter _)
  from_le a ha := by
    have hfrom := h.from_le a ha
    rw [← Nat.add_assoc]
    exact Nat.le_trans numAdmitted_concat_le (Nat.add_le_add_right hfrom _)
  span_le a := by
    have hspan := h.span_le a
    rw [numAdmitted_concat]
    split
    · next hd =>
      -- The span ends after the start of the window, so all that it holds is within two bursts.
      have hfrom := h.from_le a (by omega)
      have hmono : numAdmitted (fun t => a ≤ t ∧ t < a + limit.interval) past ≤
          numAdmitted (a ≤ ·) past := numAdmitted_mono fun _ _ ht => ht.1
      rw [if_pos hd.1] at hroom
      omega
    · exact hspan

/-- A window that a run leaves. It was opened by an event of the run. -/
structure PacedRun (limit : RateLimit) (past : List Decision) (window : Window) : Prop where
  eq_nil : window.start = none → past = []
  start_mem : ∀ start, window.start = some start → ∃ d ∈ past, d.time = start
  paced : ∀ start, window.start = some start → limit.Paced past start window.admitted

namespace PacedRun

variable {window : Window} {d : Decision}

/-- An event that opens a window is the first of a fresh one. -/
theorem opened (h : limit.PacedRun past window) (ho : limit.opensWindow window d.time = true)
    (hle : ∀ e ∈ past, e.time ≤ d.time) {n refused : Nat}
    (hn : n = 0 + if d.isAdmitted then 1 else 0) (hroom : n ≤ limit.burst) :
    limit.PacedRun (past ++ [d]) ⟨some d.time, n, refused⟩ := by
  have hfresh : limit.Paced past d.time 0 := by
    cases hs : window.start with
    | none =>
      rw [h.eq_nil hs]
      exact paced_nil d.time
    | some start =>
      obtain ⟨first, hfirst, rfl⟩ := h.start_mem start hs
      have hinterval := limit.le_of_opensWindow hs ho
      have hbefore := hle first hfirst
      exact (h.paced _ hs).fresh (by omega) hle
  subst hn
  have hpaced := hfresh.concat (Nat.le_refl _) hroom
  exact ⟨nofun, fun start hs => ⟨d, by simp, Option.some.inj hs⟩,
    fun start hs => Option.some.inj hs ▸ hpaced⟩

/-- An event that opens no window goes on in the window before it. -/
theorem stays (h : limit.PacedRun past window) (ho : limit.opensWindow window d.time = false)
    (hle : ∀ e ∈ past, e.time ≤ d.time) {refused : Nat}
    (hroom : window.admitted + (if d.isAdmitted then 1 else 0) ≤ limit.burst) :
    limit.PacedRun (past ++ [d])
      ⟨window.start, window.admitted + (if d.isAdmitted then 1 else 0), refused⟩ where
  eq_nil hs := by
    obtain ⟨start, hsome, -⟩ := limit.start_of_not_opensWindow ho
    rw [hsome] at hs
    cases hs
  start_mem start hs := by
    obtain ⟨first, hfirst, he⟩ := h.start_mem start hs
    exact ⟨first, List.mem_append_left _ hfirst, he⟩
  paced start hs := by
    obtain ⟨first, hfirst, rfl⟩ := h.start_mem start hs
    exact (h.paced _ hs).concat (hle first hfirst) hroom

theorem step (h : limit.PacedRun past window) (hd : limit.Decides window d)
    (hle : ∀ e ∈ past, e.time ≤ d.time) : limit.PacedRun (past ++ [d]) d.window := by
  cases hd with
  | opens ho hb => exact h.opened ho hle rfl hb
  | opensRefused ho hb => exact h.opened ho hle rfl (Nat.zero_le _)
  | admits ho hroom => exact h.stays ho hle hroom
  | refuses ho hfull =>
    obtain ⟨start, hs, -⟩ := limit.start_of_not_opensWindow ho
    exact h.stays ho hle (h.paced start hs).count_le

theorem span_le (h : limit.PacedRun past window) (start : Nat) :
    numAdmitted (fun t => start ≤ t ∧ t < start + limit.interval) past ≤ 2 * limit.burst := by
  cases hs : window.start with
  | none =>
    rw [h.eq_nil hs]
    exact Nat.zero_le _
  | some first => exact (h.paced first hs).span_le start

end PacedRun

theorem pacedRun_run (limit : RateLimit) {times : List Nat} (hs : times.Pairwise (· ≤ ·)) :
    limit.PacedRun (limit.run times) (limit.windowAfter .initial times) := by
  have hrun := limit.run_induction
    (P := fun past window => (past.map Decision.time).Pairwise (· ≤ ·) → limit.PacedRun past window)
    ?_ ?_ times
  · rw [map_time_run] at hrun
    exact hrun hs
  · intro _
    exact ⟨fun _ => rfl, nofun, nofun⟩
  · intro past window d ih hd hsorted
    rw [List.map_append, List.pairwise_append] at hsorted
    refine (ih hsorted.1).step hd fun e he => ?_
    exact hsorted.2.2 _ (List.mem_map_of_mem he) _ (List.mem_singleton.mpr rfl)

/-! ## Refusals -/

/-- An event is refused only when its window is full, and then all that the window admitted came
less than an interval before. -/
theorem PacedRun.le_of_refused {window : Window} {d : Decision} (h : limit.PacedRun past window)
    (hd : limit.Decides window d) (hle : ∀ e ∈ past, e.time ≤ d.time)
    (hr : d.isAdmitted = false) :
    limit.burst ≤ numAdmitted (fun t => d.time < t + limit.interval ∧ t ≤ d.time) past := by
  cases hd with
  | opens _ _ => cases hr
  | admits _ _ => cases hr
  | opensRefused _ hzero => omega
  | @refuses now ho hfull =>
    obtain ⟨start, hs, hnow⟩ := limit.start_of_not_opensWindow ho
    calc
      limit.burst ≤ window.admitted := hfull
      _ ≤ numAdmitted (start ≤ ·) past := (h.paced start hs).count_le_from
      _ ≤ numAdmitted (fun t => now < t + limit.interval ∧ t ≤ now) past :=
        numAdmitted_mono fun e he hfrom => ⟨by omega, hle e he⟩

section

variable {times : List Nat} {later : List Decision} {d : Decision}

theorem pairwise_of_run_eq (hs : times.Pairwise (· ≤ ·))
    (h : limit.run times = past ++ d :: later) :
    past.Pairwise (fun a b => a.time ≤ b.time) ∧ ∀ e ∈ past, e.time ≤ d.time := by
  rw [← limit.map_time_run times, List.pairwise_map, h, List.pairwise_append] at hs
  exact ⟨hs.1, fun e he => hs.2.2 e he d List.mem_cons_self⟩

theorem le_of_refused (hs : times.Pairwise (· ≤ ·)) (h : limit.run times = past ++ d :: later)
    (hr : d.isAdmitted = false) :
    limit.burst ≤ numAdmitted (fun t => d.time < t + limit.interval ∧ t ≤ d.time) past := by
  have hle := (pairwise_of_run_eq hs h).2
  obtain ⟨earlier, hprefix, rfl, hd⟩ := limit.of_decisions_eq h
  have hearlier : earlier.Pairwise (· ≤ ·) :=
    hs.sublist ((List.sublist_append_left _ _).trans hprefix.sublist)
  exact (limit.pacedRun_run hearlier).le_of_refused hd hle hr

/-- The last admitted event before another comes after all the others that were admitted. -/
theorem le_last_admitted {last e : Decision} (hs : past.Pairwise fun a b => a.time ≤ b.time)
    (hl : (past.filter Decision.isAdmitted).getLast? = some last) (he : e ∈ past)
    (ha : e.isAdmitted = true) : e.time ≤ last.time := by
  have hm : e ∈ past.filter Decision.isAdmitted := List.mem_filter.mpr ⟨he, ha⟩
  obtain ⟨others, ho⟩ := List.getLast?_eq_some_iff.mp hl
  have hsorted := hs.filter Decision.isAdmitted
  rw [ho] at hm hsorted
  rcases List.mem_append.mp hm with hm | hm
  · exact (List.pairwise_append.mp hsorted).2.2 e hm last (List.mem_singleton.mpr rfl)
  · exact Nat.le_of_eq (congrArg Decision.time (List.mem_singleton.mp hm))

theorem isAdmitted_of_last (hb : 1 ≤ limit.burst) (hs : times.Pairwise (· ≤ ·))
    (h : limit.run times = past ++ d :: later)
    (hlast : ∀ last ∈ (past.filter Decision.isAdmitted).getLast?,
      last.time + limit.interval ≤ d.time) : d.isAdmitted = true := by
  cases hr : d.isAdmitted with
  | true => rfl
  | false =>
    obtain ⟨e, he, ha, hafter, -⟩ :=
      exists_of_numAdmitted_pos (Nat.le_trans hb (le_of_refused hs h hr))
    cases hl : (past.filter Decision.isAdmitted).getLast? with
    | none =>
      rw [List.getLast?_eq_none_iff, List.filter_eq_nil_iff] at hl
      exact absurd ha (hl e he)
    | some last =>
      have hinterval := hlast last hl
      have hbefore := le_last_admitted (pairwise_of_run_eq hs h).1 hl he ha
      omega

end

/-- How a limit keeps the pace. No half-open span as long as the interval has more than two bursts of
admissions. When an event is refused, a whole burst was admitted in the interval that ends with it.
So an event is admitted when the last admitted one before it, if there is any, came an interval
earlier. -/
structure KeepsPace (limit : RateLimit) (times : List Nat) : Prop where
  answers_eq : (limit.run times).map Decision.answer = limit.checkAll .initial times
  times_eq : (limit.run times).map Decision.time = times
  span_le : ∀ start, numAdmitted (fun t => start ≤ t ∧ t < start + limit.interval)
    (limit.run times) ≤ 2 * limit.burst
  span_le' : ∀ start, numAdmitted (fun t => start < t ∧ t ≤ start + limit.interval)
    (limit.run times) ≤ 2 * limit.burst
  le_of_refused : ∀ past d later, limit.run times = past ++ d :: later → d.isAdmitted = false →
    limit.burst ≤ numAdmitted (fun t => d.time < t + limit.interval ∧ t ≤ d.time) past
  isAdmitted_of_last : 1 ≤ limit.burst → ∀ past d later, limit.run times = past ++ d :: later →
    (∀ last ∈ (past.filter Decision.isAdmitted).getLast?,
      last.time + limit.interval ≤ d.time) → d.isAdmitted = true

/-- **Pace.** While time does not run backwards, a limit neither admits more than two bursts in any
span of an interval, nor refuses an event without having admitted a burst in the interval before. -/
theorem run_keepsPace (limit : RateLimit) {times : List Nat} (hs : times.Pairwise (· ≤ ·)) :
    limit.KeepsPace times := by
  have hspan := (limit.pacedRun_run hs).span_le
  constructor
  case answers_eq => exact limit.map_answer_run times
  case times_eq => exact limit.map_time_run times
  case span_le => exact hspan
  case span_le' =>
    intro start
    refine Nat.le_trans (numAdmitted_mono fun d _ hd => ?_) (hspan (start + 1))
    omega
  case le_of_refused => exact fun past d later h hr => RateLimit.le_of_refused hs h hr
  case isAdmitted_of_last =>
    exact fun hb past d later h hlast => RateLimit.isAdmitted_of_last hb hs h hlast

/-- Two events in five units of time. The span from 4 on has events of two windows. -/
theorem run_keepsPace_twoWindows :
    [0, 4, 4, 5, 5, 5].Pairwise (· ≤ ·) ∧
      checkAll ⟨5, 2⟩ .initial [0, 4, 4, 5, 5, 5] =
        [some 0, some 0, none, some 1, some 0, none] ∧
      KeepsPace ⟨5, 2⟩ [0, 4, 4, 5, 5, 5] :=
  ⟨by decide, by decide, run_keepsPace ⟨5, 2⟩ (by decide)⟩

end RateLimit
end PowerClass
