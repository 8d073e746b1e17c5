import MooWorld.Proofs.Expiry
import MooWorld.Proofs.Suspension
/-!
# Timed suspensions end on time

Time is lost in three places between the clock and a timer. The wheel is moved by whole milliseconds and lags
behind the clock by what is left over; the lag is added to a delay when a timer is set, and the sum is cut to
whole milliseconds; and when the wheel is set up anew, what is left of a delay is cut once more, or raised to a
millisecond. None of this adds up. `firesAt` is the clock reading at which the hands of the wheel come to a
timer, and moving the wheel on does not change it (`OnTime.advance`). It is within a millisecond of the end of
the delay when the timer is set, and again whenever the wheel is set up anew (`OnTime`).

A run is `Timed` if all its events read one clock, which does not go back, and if the timers are moved on often
enough for the wheel to keep up (`InStep`).
-/
namespace MooWorld

theorem Clock.dateAfter?_eq_some {clock : Clock} {delay date : Nat} (h : clock.dateAfter? delay = some date) :
    date = clock.date + delay := by
  unfold dateAfter? at h
  split at h
  · cases h; rfl
  · cases h

namespace Timers

/-! ## The wheel and the clock -/

/-- The wheel counts right for some ticks ahead: a timer that is set for them fires after as many, and one for
the present tick is refused. -/
def Exact (w : Timers) (ticks : Nat) : Prop :=
  wait? w.tick ticks = if ticks = 0 then none else some ticks

/-- The wheel counts right for all but the last turn of its highest ring, whatever tick was reached. -/
theorem exact_of_le (w : Timers) {ticks : Nat} (h : ticks ≤ UInt32.size - 16777216) : w.Exact ticks := by
  unfold Exact
  by_cases h0 : ticks = 0
  · rw [h0, if_pos rfl, wait?_zero]
  · rw [if_neg h0]
    have hp : w.tick % UInt32.size < UInt32.size := Nat.mod_lt _ (by decide)
    unfold wait?
    generalize w.tick % UInt32.size = present at hp
    simp only [maxTicks, ringPeriod, UInt32.size] at h hp ⊢
    rw [if_neg (by omega), if_neg (by omega)]
    congr 1
    repeat' split
    all_goals omega

/-- The clock reading at which the hands of the wheel come to a timer. -/
def firesAt (w : Timers) (x : Timer) : Nat := w.moved + (x.due - w.tick) * nanosPerMilli

/-- The wheel can be moved on to a clock reading at once. -/
def Reaches (w : Timers) (now : Nat) : Prop := (now - w.moved) / nanosPerMilli ≤ maxTicks

theorem advance_hands {w : Timers} {now : Nat} (h : w.Reaches now) :
    (w.advance now).2.tick = w.tick + (now - w.moved) / nanosPerMilli ∧
      (w.advance now).2.moved = w.moved + (now - w.moved) / nanosPerMilli * nanosPerMilli := by
  unfold advance
  split
  · rename_i hle
    simp [Nat.sub_eq_zero_of_le hle]
  · simp [Nat.min_eq_right h]

/-- What the wheel is behind after it was moved on is less than a millisecond. -/
theorem advance_lag {w : Timers} {now : Nat} (hle : w.moved ≤ now) (h : w.Reaches now) :
    (w.advance now).2.moved ≤ now ∧ now < (w.advance now).2.moved + nanosPerMilli := by
  rw [(advance_hands h).2]
  have hfloor := Nat.div_mul_le_self (now - w.moved) nanosPerMilli
  have hceil := Nat.lt_div_mul_add (a := now - w.moved) (b := nanosPerMilli) (by decide)
  omega

/-- A timer is left on the wheel unless it is due. -/
theorem mem_advance_pending {w : Timers} {now : Nat} {x : Timer} :
    x ∈ (w.advance now).2.pending ↔ x ∈ w.pending ∧ ¬ w.Due now x := by
  unfold advance Due
  by_cases h : now ≤ w.moved
  · simp [h, Nat.not_lt.2 h]
  · simp only [if_neg h, List.mem_filter, decide_eq_true_eq, Nat.lt_of_not_le h, true_and]
    refine and_congr_right fun m => ?_
    simp only [m, true_and, Nat.not_le]

theorem moved_lt_firesAt {w : Timers} {x : Timer} (ha : w.tick < x.due) : w.moved < w.firesAt x :=
  Nat.lt_add_of_pos_right (Nat.mul_pos (Nat.sub_pos_of_lt ha) (by decide))

/-- A timer that is ahead is due once the clock has come to it. -/
theorem due_iff {w : Timers} {now : Nat} {x : Timer} (hm : x ∈ w.pending) (ha : w.tick < x.due)
    (hr : w.Reaches now) : w.Due now x ↔ w.firesAt x ≤ now := by
  have hpos : 0 < nanosPerMilli := by decide
  have hmoved := moved_lt_firesAt ha
  have hticks : x.due ≤ w.tick + (now - w.moved) / nanosPerMilli ↔
      (x.due - w.tick) * nanosPerMilli ≤ now - w.moved := by
    rw [← Nat.le_div_iff_mul_le hpos]; omega
  rw [Due, Nat.min_eq_right hr, hticks]
  simp only [firesAt] at hmoved ⊢
  constructor
  · rintro ⟨-, -, h⟩; omega
  · intro h; exact ⟨hm, by omega, by omega⟩

/-! ## Timers that are on time -/

/-- A timer is ahead, and will fire less than a millisecond before the end of the delay it was set for. It will
fire at the end of the delay at the latest, or a millisecond after the wheel was last set up anew. -/
structure OnTime (w : Timers) (deadline : Nat) (rebuilt : List Nat) (x : Timer) : Prop where
  ahead : w.tick < x.due
  notEarly : deadline < w.firesAt x + nanosPerMilli
  notLate : w.firesAt x ≤ deadline ∨ ∃ c ∈ rebuilt.getLast?, w.firesAt x ≤ c + nanosPerMilli

theorem OnTime.congr {w w' : Timers} {deadline : Nat} {rebuilt : List Nat} {x : Timer}
    (h : w.OnTime deadline rebuilt x) (ht : w'.tick = w.tick) (hm : w'.moved = w.moved) :
    w'.OnTime deadline rebuilt x := by
  have hf : w'.firesAt x = w.firesAt x := by simp only [firesAt, ht, hm]
  exact ⟨by rw [ht]; exact h.ahead, by rw [hf]; exact h.notEarly, by rw [hf]; exact h.notLate⟩

/-- A timer that is left when the wheel is moved on fires when it would have fired. -/
theorem OnTime.advance {w : Timers} {now deadline : Nat} {rebuilt : List Nat} {x : Timer}
    (h : w.OnTime deadline rebuilt x) (hr : w.Reaches now) (hx : x ∈ (w.advance now).2.pending) :
    (w.advance now).2.OnTime deadline rebuilt x := by
  obtain ⟨hm, hnot⟩ := mem_advance_pending.1 hx
  obtain ⟨htick, hmoved⟩ := advance_hands hr
  have ha := h.ahead
  have hlt : (now - w.moved) / nanosPerMilli < x.due - w.tick := by
    have hpast := moved_lt_firesAt ha
    rw [due_iff hm ha hr, Nat.not_le] at hnot
    rw [Nat.div_lt_iff_lt_mul (by decide)]
    simp only [firesAt] at hnot hpast
    omega
  generalize (now - w.moved) / nanosPerMilli = n at htick hmoved hlt
  have hahead : (w.advance now).2.tick < x.due := by rw [htick]; omega
  have hf : (w.advance now).2.firesAt x = w.firesAt x := by
    have hsplit : x.due - w.tick = n + (x.due - (w.tick + n)) := by omega
    rw [firesAt, firesAt, htick, hmoved, hsplit, Nat.add_mul, Nat.add_assoc]
  exact ⟨hahead, by rw [hf]; exact h.notEarly, by rw [hf]; exact h.notLate⟩

/-- A timer that is set with a delay is on time, if the wheel counts right: the lag makes up for what the wheel
is behind. -/
theorem onTime_insert? {w w' : Timers} {now delay : Nat} {id : TaskId} {generation : Nat}
    (hmoved : w.moved ≤ now) (hexact : w.Exact ((delay + (now - w.moved)) / nanosPerMilli))
    (h : w.insert? now id generation delay = some w') :
    ∃ x, w'.pending = w.pending ++ [x] ∧ x.key = (id, generation) ∧ w'.OnTime (now + delay) [] x := by
  unfold insert? at h
  obtain ⟨wait, hwait, rfl⟩ := Option.map_eq_some_iff.1 h
  rw [hexact] at hwait
  split at hwait
  · cases hwait
  · rename_i h0
    cases hwait
    refine ⟨_, rfl, rfl, Nat.lt_add_of_pos_right (Nat.pos_of_ne_zero h0), ?_, .inl ?_⟩
    · simp only [firesAt, Nat.add_sub_cancel_left]
      have := Nat.lt_div_mul_add (a := delay + (now - w.moved)) (b := nanosPerMilli) (by decide)
      omega
    · simp only [firesAt, Nat.add_sub_cancel_left]
      have := Nat.div_mul_le_self (delay + (now - w.moved)) nanosPerMilli
      omega

/-- A delay that is refused is shorter than a millisecond, if the wheel counts right. -/
theorem lt_of_insert?_eq_none {w : Timers} {now delay : Nat} {id : TaskId} {generation : Nat}
    (hexact : w.Exact ((delay + (now - w.moved)) / nanosPerMilli))
    (h : w.insert? now id generation delay = none) : delay < nanosPerMilli := by
  rw [insert?, Option.map_eq_none_iff, hexact] at h
  have h0 : (delay + (now - w.moved)) / nanosPerMilli = 0 := by
    by_contra h0
    rw [if_neg h0] at h
    cases h
  rcases Nat.div_eq_zero_iff.1 h0 with hzero | hlt
  · exact absurd hzero (by decide)
  · omega

/-- The timers of a new wheel are on time, since it starts at the clock reading from which the delays are
counted. -/
theorem onTime_rebuild {now deadline : Nat} {live : List (TaskId × Nat × Nat)} {rebuilt : List Nat}
    (hlive : ∀ e ∈ live, nanosPerMilli ≤ e.2.2) {id : TaskId} {generation : Nat}
    (hdelay : ∀ e ∈ live, (e.1, e.2.1) = (id, generation) → e.2.2 = max (deadline - now) nanosPerMilli)
    {x : Timer} (hx : x ∈ (rebuild now live).pending) (hk : x.key = (id, generation)) :
    (rebuild now live).OnTime deadline (rebuilt ++ [now]) x := by
  rw [rebuild_eq now hlive] at hx ⊢
  obtain ⟨e, m, rfl⟩ := List.mem_map.1 hx
  have he := hdelay e m hk
  have hpos : 0 < e.2.2 / nanosPerMilli := Nat.div_pos (hlive e m) (by decide)
  have hle := Nat.div_mul_le_self e.2.2 nanosPerMilli
  have hlt := Nat.lt_div_mul_add (a := e.2.2) (b := nanosPerMilli) (by decide)
  refine ⟨hpos, ?_, ?_⟩
  · simp only [firesAt, Nat.sub_zero]
    omega
  · simp only [firesAt, Nat.sub_zero, List.getLast?_concat, Option.mem_some_iff, exists_eq_left']
    omega

end Timers

variable {σ : Type}

namespace Registry

/-! ## The wheel of the registry -/

/-- Whether the wheel is set up anew after the timers were moved on. -/
def compacts (r : Registry σ) (clock : Clock) : Bool :=
  Timers.compactAt ≤ ((r.fired clock).1.uncount (r.fired clock).2.2).timers.stale

theorem advance_wheel (r : Registry σ) (clock : Clock) :
    (r.compacts clock = false ∧
      ∃ stale, (r.advance clock).2.timers = { (r.timers.advance clock.now).2 with stale }) ∨
    (r.compacts clock = true ∧
      (r.advance clock).2.timers = .rebuild clock.now ((r.advance clock).2.timedSuspensions clock)) := by
  have htimers : (r.fired clock).1.timers = (r.timers.advance clock.now).2 :=
    foldl_fire_induct (P := fun r' => r'.timers = (r.timers.advance clock.now).2) clock
      (fun _ _ _ h _ _ => h) _ _ 0 0 rfl
  rw [advance_eq]
  generalize hr' : (r.fired clock).1.uncount (r.fired clock).2.2 = r'
  have hcompacts : r.compacts clock = decide (Timers.compactAt ≤ r'.timers.stale) := by
    rw [compacts, hr']
  by_cases h : r'.timers.stale < Timers.compactAt
  · left
    rw [hcompacts]
    refine ⟨decide_eq_false (Nat.not_le.2 h), r'.timers.stale, ?_⟩
    rw [compact, if_pos h, ← hr', uncount, htimers]
  · right
    rw [hcompacts]
    refine ⟨decide_eq_true (Nat.not_lt.1 h), ?_⟩
    rw [compact, if_neg h]
    rfl

/-- A suspension is given to a new wheel with what is left of its delay. -/
theorem delay_of_mem_timedSuspensions {r : Registry σ} (hn : r.ids.Nodup) {clock : Clock} {id : TaskId}
    {c : Control σ} {date : Nat} (hc : r.find? id = some c) (hd : c.deadline = some date)
    {e : TaskId × Nat × Nat} (he : e ∈ r.timedSuspensions clock) (hid : e.1 = id) :
    e.2.2 = max (date - clock.date) nanosPerMilli := by
  rw [timedSuspensions_eq] at he
  obtain ⟨⟨j, c'⟩, m, h⟩ := List.mem_filterMap.1 he
  obtain ⟨-, date', hd', rfl⟩ := timedSuspension?_eq_some.1 h
  cases hid
  cases ((mem_tasks hn).1 m).symm.trans hc
  cases hd'.symm.trans hd
  rfl

/-- The wheel stands as it stood. A timer that is new belongs to a task that was running. -/
structure Stood (r r' : Registry σ) : Prop where
  tick : r'.timers.tick = r.timers.tick
  moved : r'.timers.moved = r.timers.moved
  pending : ∀ x ∈ r'.timers.pending, x ∈ r.timers.pending ∨
    ∃ c, r.find? x.task = some c ∧ c.status = .running

theorem Stood.of_eq {r r' : Registry σ} {stale : Nat} (h : r'.timers = { r.timers with stale }) :
    Stood r r' := by
  refine ⟨by rw [h], by rw [h], fun x m => .inl ?_⟩
  rw [h] at m
  exact m

theorem stood_suspend (r : Registry σ) (clock : Clock) (t : Task σ) (s : Suspension) :
    Stood r (r.suspend clock t s) := by
  rcases r.suspend_cases clock t s with ⟨-, e⟩ | ⟨c, hc, hr, hs⟩
  · rw [e]; exact .of_eq rfl
  · rcases hs with ⟨-, e⟩ | ⟨delay, date, timers, -, -, -, hins, e⟩ | ⟨delay, date, -, -, -, e⟩
    · rw [e]; exact .of_eq rfl
    · obtain ⟨due, rfl⟩ := Timers.insert?_eq_some hins
      rw [e]
      refine ⟨rfl, rfl, fun x m => ?_⟩
      rcases List.mem_append.1 m with m | m
      · exact .inl m
      · rw [List.mem_singleton.1 m]; exact .inr ⟨c, hc, hr⟩
    · rw [e]; exact .of_eq rfl

theorem stood_handBack (r : Registry σ) (clock : Clock) (t : Task σ) (e : SliceEnd) :
    Stood r (r.handBack clock t e) := by
  rcases r.handBack_cases clock t e with ⟨s, -, eq⟩ | ⟨o, -, eq⟩ | ⟨-, eq⟩
  · rw [eq]; exact stood_suspend r clock t s
  · rw [eq, complete]
    split
    · exact .of_eq rfl
    · exact .of_eq rfl
  · rw [eq]; exact .of_eq rfl

end Registry

namespace TaskQueue

open Registry

theorem lend_timers (d : TaskQueue σ) (id : TaskId) : (d.lend id).registry.timers = d.registry.timers := by
  rcases d.lend_cases id with ⟨c, t, -, -, -, e⟩ | ⟨-, e⟩
  · rw [e]; rfl
  · rw [e]

/-- The wheel stands, unless the timers are moved on or everything is shut down. -/
theorem step_stood {d d' : TaskQueue σ} {e : Event σ} (hs : d.step e = some d')
    (hadvance : ∀ clock, e ≠ .advance clock) (habort : ∀ clock, e ≠ .abort clock) :
    Stood d.registry d'.registry := by
  cases step_spec hs with
  | create clock entry program =>
    rcases d.registry.create_cases clock entry program with e | ⟨calls, e⟩
    · rw [e]; exact .of_eq rfl
    · rw [e]; exact .of_eq rfl
  | dispatch id => exact .of_eq (lend_timers d id)
  | @deal id rest _ => exact .of_eq (lend_timers { d with registry := { d.registry with ready := rest } } id)
  | @finish clock t e _ => exact stood_handBack d.registry clock t e
  | resume hr =>
    obtain ⟨c, -, -, -, rfl⟩ := resume_eq_ok.1 hr
    rw [cancelTimer_eq]
    exact .of_eq rfl
  | kill hr =>
    obtain ⟨c, -, -, rfl⟩ := kill_eq_ok.1 hr
    rw [cancelTimer_eq]
    exact .of_eq rfl
  | resumeRefused => exact .of_eq rfl
  | killRefused => exact .of_eq rfl
  | advance clock => exact absurd rfl (hadvance clock)
  | abort clock => exact absurd rfl (habort clock)

/-- The timers are moved on, or everything is shut down, or the wheel stands. -/
theorem step_wheel {d d' : TaskQueue σ} {e : Event σ} (hs : d.step e = some d') :
    (∃ clock, e = .advance clock ∧ d'.registry = (d.registry.advance clock).2) ∨
    (∃ clock, e = .abort clock ∧ d'.registry = d.registry.abortAll clock) ∨
    ((∀ clock, e ≠ .advance clock) ∧ (∀ clock, e ≠ .abort clock) ∧ Stood d.registry d'.registry) := by
  by_cases hadvance : ∃ clock, e = .advance clock
  · obtain ⟨clock, rfl⟩ := hadvance
    cases step_spec hs
    exact .inl ⟨clock, rfl, rfl⟩
  by_cases habort : ∃ clock, e = .abort clock
  · obtain ⟨clock, rfl⟩ := habort
    cases step_spec hs
    exact .inr (.inl ⟨clock, rfl, rfl⟩)
  have hne : ∀ clock, e ≠ .advance clock := fun clock he => hadvance ⟨clock, he⟩
  have hne' : ∀ clock, e ≠ .abort clock := fun clock he => habort ⟨clock, he⟩
  exact .inr (.inr ⟨hne, hne', step_stood hs hne hne'⟩)

/-! ## Runs against one clock -/

/-- The clock that an event reads. -/
def Event.clock? : Event σ → Option Clock
  | .create clock _ _ | .finish clock _ _ | .resume clock _ _ _ _ | .advance clock | .abort clock => some clock
  | .dispatch _ | .deal | .kill _ _ _ => none

/-- The latest clock reading, and the one at which the timers were last moved on. -/
structure Watch where
  now : Nat
  advanced : Nat

namespace Watch

/-- The readings after an event. -/
def read (w : Watch) : Event σ → Watch
  | .advance clock => ⟨clock.now, clock.now⟩
  | e => { w with now := (e.clock?.map Clock.now).getD w.now }

/-- An event reads the clock that was zero at some date, which has not gone back. The timers are moved on less
than `2 ^ 31` milliseconds after they were last. -/
def Fits (start : Nat) (w : Watch) (e : Event σ) : Prop :=
  (∀ clock, e.clock? = some clock → clock.start = start ∧ w.now ≤ clock.now) ∧
    ∀ clock, e = .advance clock → clock.now < w.advanced + Nat.pow 2 31 * nanosPerMilli

theorem now_le_read {start : Nat} {w : Watch} {e : Event σ} (h : w.Fits start e) :
    w.now ≤ (w.read e).now := by
  cases e with
  | dispatch | deal | kill => exact Nat.le_refl _
  | create | finish | resume | advance | abort => exact (h.1 _ rfl).2

theorem advanced_read {w : Watch} {e : Event σ} (h : ∀ clock, e ≠ .advance clock) :
    (w.read e).advanced = w.advanced := by
  cases e with
  | advance clock => exact absurd rfl (h clock)
  | _ => rfl

end Watch

/-- All events read one clock, and the timers are moved on often enough. -/
def Timed (start : Nat) : Watch → List (Event σ) → Prop
  | _, [] => True
  | w, e :: es => w.Fits start e ∧ Timed start (w.read e) es

theorem timed_append {start : Nat} {w : Watch} {es es' : List (Event σ)} : Timed start w (es ++ es') ↔
    Timed start w es ∧ Timed start (es.foldl Watch.read w) es' := by
  induction es generalizing w with
  | nil => simp [Timed]
  | cons e es ih => simp only [List.cons_append, Timed, List.foldl_cons, ih, and_assoc]

/-- The wheel is behind the clock, and less than a millisecond behind where it was moved to. -/
structure InStep (w : Watch) (timers : Timers) : Prop where
  advanced : w.advanced ≤ w.now
  moved : timers.moved ≤ w.now
  lag : w.advanced < timers.moved + nanosPerMilli

/-- The wheel is not behind by more than it can be moved on at once. -/
theorem InStep.reaches {start : Nat} {w : Watch} {timers : Timers} {clock : Clock} (h : InStep w timers)
    (hf : w.Fits (σ := σ) start (.advance clock)) : timers.Reaches clock.now := by
  have hnext := hf.2 clock rfl
  have hlag := h.lag
  refine Nat.le_of_lt_succ ((Nat.div_lt_iff_lt_mul (by decide)).2 ?_)
  simp only [Timers.maxTicks, UInt32.size, nanosPerMilli, Nat.pow_eq, Nat.reducePow] at *
  omega

theorem inStep_step {start : Nat} {w : Watch} {d d' : TaskQueue σ} {e : Event σ}
    (h : InStep w d.registry.timers) (hf : w.Fits start e) (hs : d.step e = some d') : InStep (w.read e) d'.registry.timers := by
  have hnow := Watch.now_le_read hf
  have hold := h.advanced
  rcases step_wheel hs with ⟨clock, rfl, hd'⟩ | ⟨clock, rfl, hd'⟩ | ⟨hne, -, hstood⟩
  · have hlag : (d.registry.advance clock).2.timers.moved ≤ clock.now ∧
        clock.now < (d.registry.advance clock).2.timers.moved + nanosPerMilli := by
      rcases d.registry.advance_wheel clock with ⟨-, stale, e⟩ | ⟨-, e⟩
      · rw [e]
        exact Timers.advance_lag (Nat.le_trans h.moved hnow) (h.reaches hf)
      · rw [e, Timers.rebuild_eq _ (millis_le_timedSuspensions _ clock)]
        exact ⟨Nat.le_refl _, Nat.lt_add_of_pos_right (by decide)⟩
    rw [hd']
    exact ⟨Nat.le_refl _, hlag.1, hlag.2⟩
  · rw [hd']
    refine ⟨Nat.le_trans hold hnow, Nat.le_refl _, ?_⟩
    exact Nat.lt_of_le_of_lt (Nat.le_trans hold hnow) (Nat.lt_add_of_pos_right (by decide))
  · have hadvanced := Watch.advanced_read (w := w) hne
    refine ⟨?_, ?_, ?_⟩
    · rw [hadvanced]; exact Nat.le_trans hold hnow
    · rw [hstood.moved]; exact Nat.le_trans h.moved hnow
    · rw [hadvanced, hstood.moved]; exact h.lag

theorem inStep_run {start : Nat} {es : List (Event σ)} : ∀ {w : Watch} {d d' : TaskQueue σ},
    InStep w d.registry.timers → Timed start w es → d.run es = some d' →
    InStep (es.foldl Watch.read w) d'.registry.timers := by
  induction es with
  | nil => intro w d d' h _ hr; cases hr; exact h
  | cons e es ih =>
    intro w d d' h ht hr
    obtain ⟨d₁, hs, hr'⟩ := run_cons.1 hr
    exact ih (inStep_step h ht.1 hs) ht.2 hr'

/-! ## A suspension with a deadline -/

/-- The clock readings at which an event sets up the wheel anew. -/
def rebuilds (d : TaskQueue σ) : Event σ → List Nat
  | .advance clock => if d.registry.compacts clock then [clock.now] else []
  | .abort clock => [clock.now]
  | _ => []

theorem rebuilds_of_ne {d : TaskQueue σ} {e : Event σ} (hadvance : ∀ clock, e ≠ .advance clock)
    (habort : ∀ clock, e ≠ .abort clock) : d.rebuilds e = [] := by
  cases e with
  | advance clock => exact absurd rfl (hadvance clock)
  | abort clock => exact absurd rfl (habort clock)
  | _ => rfl

/-- A task is in a suspension that is over at a reading of the clock, and the timer it has is on time. -/
structure Asleep (start deadline : Nat) (id : TaskId) (g : Nat) (rebuilt : List Nat) (r : Registry σ) :
    Prop where
  known : ∃ c, r.find? id = some c ∧ c.status = .suspended ∧ c.generation = g ∧
    c.deadline = some (start + deadline)
  onTime : ∀ x ∈ r.timers.pending, x.key = (id, g) → r.timers.OnTime deadline rebuilt x

/-- As long as a suspension goes on, what is known of the task stays as it is. -/
theorem find?_step_suspended {d d' : TaskQueue σ} {e : Event σ} {id : TaskId} {c : Control σ} (hi : Inv d)
    (hs : d.step e = some d') (hc : d.registry.find? id = some c) (hsusp : c.status = .suspended)
    (hg : d'.registry.suspension? id = some c.generation) : d'.registry.find? id = some c := by
  have ht := step_transition hi hs id
  obtain ⟨c', hc', hsusp', hgen⟩ := suspension?_eq_some.1 hg
  rw [hc, hc'] at ht
  rw [hc']
  cases ht with
  | same => rfl
  | lent he hq => rw [hsusp] at hq; cases hq
  | parked deadline hr => rw [hsusp] at hr; cases hr
  | returned deadline hr => rw [hsusp] at hr; cases hr
  | resumed => cases hsusp'
  | expired => cases hsusp'

variable {start deadline g : Nat} {id : TaskId} {rebuilt : List Nat} {w : Watch}

/-- As long as a suspension goes on, its timer stays on time. -/
theorem asleep_step {d d' : TaskQueue σ} {e : Event σ} (hi : Inv d) (hw : InStep w d.registry.timers)
    (hf : w.Fits start e) (h : Asleep start deadline id g rebuilt d.registry) (hs : d.step e = some d')
    (hg : d'.registry.suspension? id = some g) :
    Asleep start deadline id g (rebuilt ++ d.rebuilds e) d'.registry := by
  obtain ⟨c, hc, hsusp, rfl, hdate⟩ := h.known
  have hc' := find?_step_suspended hi hs hc hsusp hg
  refine ⟨⟨c, hc', hsusp, rfl, hdate⟩, fun x m hk => ?_⟩
  have hn' := (inv_step hi hs).nodup
  rcases step_wheel hs with ⟨clock, rfl, hd'⟩ | ⟨clock, rfl, hd'⟩ | ⟨hne, hne', hstood⟩
  · rw [hd'] at hc' hn' m ⊢
    rcases d.registry.advance_wheel clock with ⟨hfew, stale, e⟩ | ⟨hmany, e⟩
    · have hx : x ∈ (d.registry.timers.advance clock.now).2.pending := by rw [e] at m; exact m
      have hold := h.onTime x (Timers.mem_advance_pending.1 hx).1 hk
      rw [e, rebuilds, hfew]
      simp only [Bool.false_eq_true, if_false, List.append_nil]
      exact (hold.advance (hw.reaches hf) hx).congr rfl rfl
    · -- the new wheel is given what is left until the same deadline
      rw [e] at m ⊢
      rw [rebuilds, hmany, if_pos rfl]
      refine Timers.onTime_rebuild (millis_le_timedSuspensions _ clock) (fun p mp hp => ?_) m hk
      have hleft := delay_of_mem_timedSuspensions hn' hc' hdate mp (congrArg Prod.fst hp)
      rw [hleft, Clock.date, (hf.1 clock rfl).1, Nat.add_sub_add_left]
  · rw [hd'] at hc'
    cases hc'
  · rw [rebuilds_of_ne hne hne', List.append_nil]
    rcases hstood.pending x m with m | ⟨c', hrun, hr⟩
    · exact (h.onTime x m hk).congr hstood.tick hstood.moved
    · -- a task that is suspended does not come back
      rw [(Timer.key_eq.1 hk).1, hc] at hrun
      cases hrun
      rw [hsusp] at hr
      cases hr

theorem asleep_run {es : List (Event σ)} : ∀ {w : Watch} {rebuilt : List Nat} {d d' : TaskQueue σ}, Inv d →
    InStep w d.registry.timers → Timed start w es → Asleep start deadline id g rebuilt d.registry →
    d.run es = some d' → d'.registry.suspension? id = some g →
    Asleep start deadline id g (rebuilt ++ d.gather rebuilds es) d'.registry := by
  induction es with
  | nil =>
    intro w rebuilt d d' _ _ _ h hr _
    cases hr
    rw [gather, List.append_nil]
    exact h
  | cons e es ih =>
    intro w rebuilt d d' hi hw ht h hr hg
    obtain ⟨d₁, hs, hr'⟩ := run_cons.1 hr
    have hi₁ := inv_step hi hs
    -- a suspension that is over does not come back
    have hg₁ : d₁.registry.suspension? id = some g := by
      by_contra hne
      obtain ⟨c, hc, hsusp, rfl, -⟩ := h.known
      have hpast := past_of_ended hi (suspension?_eq_some.2 ⟨c, hc, hsusp, rfl⟩) hs hne
      exact (gather_endings_of_past hi₁ hpast hr').2.ne hg
    rw [gather_cons hs, ← List.append_assoc]
    exact ih hi₁ (inStep_step hw ht.1 hs) ht.2 (asleep_step hi hw ht.1 h hs hg₁) hr' hg

theorem Asleep.exists_timer {r : Registry σ} (h : Asleep start deadline id g rebuilt r) (ht : TimersInv r) :
    ∃ x ∈ r.timers.pending, x.key = (id, g) := by
  obtain ⟨c, hc, -, rfl, hdate⟩ := h.known
  have hone := ht.counted.once id c hc
  rw [hdate, Option.isSome_some, if_pos rfl] at hone
  exact List.mem_map.1 (List.count_pos_iff.1 (by rw [hone]; exact Nat.one_pos))

/-- When the timers are moved on, a suspension ends if the clock has come to its timer. -/
theorem Asleep.ends_iff {r : Registry σ} (h : Asleep start deadline id g rebuilt r) (ht : TimersInv r)
    (hn : r.ids.Nodup) {clock : Clock} (hreach : r.timers.Reaches clock.now) :
    (r.advance clock).2.suspension? id ≠ some g ↔
      ∃ x ∈ r.timers.pending, x.key = (id, g) ∧ r.timers.firesAt x ≤ clock.now := by
  have hdue : id ∈ r.dueSleepers clock ↔
      ∃ x ∈ r.timers.pending, x.key = (id, g) ∧ r.timers.firesAt x ≤ clock.now := by
    obtain ⟨c, hc, -, rfl, -⟩ := h.known
    rw [ht.mem_dueSleepers]
    constructor
    · rintro ⟨c', x, hc', hx, hk⟩
      cases hc.symm.trans hc'
      exact ⟨x, hx.1, hk, (Timers.due_iff hx.1 (h.onTime x hx.1 hk).ahead hreach).1 hx⟩
    · rintro ⟨x, m, hk, hx⟩
      exact ⟨c, x, hc, (Timers.due_iff m (h.onTime x m hk).ahead hreach).2 hx, hk⟩
  obtain ⟨c, hc, hsusp, rfl, -⟩ := h.known
  have hfind : (r.advance clock).2.find? id = if id ∈ r.dueSleepers clock
      then (r.find? id).map (·.requeue clock (.int 0)) else r.find? id := by
    rw [ht.advance_eq_wakeAll hn clock]
    exact r.find?_wakeAll clock _ id
  rw [← hdue]
  by_cases hm : id ∈ r.dueSleepers clock
  · rw [if_pos hm, hc] at hfind
    simp [hm, suspension?_of_find? hfind, Control.requeue]
  · rw [if_neg hm, hc] at hfind
    simp [hm, suspension?_of_find? hfind, hsusp]

/-- A task that comes back for a delay is queued again at once, as the delay is shorter than a millisecond, or
it is asleep. -/
theorem asleep_of_finish {d d₁ : TaskQueue σ} {clock : Clock} {t : Task σ} {delay date : Nat} (hi : Inv d)
    (ht : TimersInv d.registry) (hw : InStep w d.registry.timers)
    (hf : w.Fits start (.finish clock t (.suspend (.timed delay))))
    (hs : d.step (.finish clock t (.suspend (.timed delay))) = some d₁)
    (hlive : d.registry.valid t.id = true) (hdelay : delay ≠ 0) (hdate : clock.dateAfter? delay = some date)
    (hwheel : d.registry.timers.Exact ((delay + (clock.now - d.registry.timers.moved)) / nanosPerMilli)) :
    (d₁.registry.status? t.id = some .queued ∧ delay < nanosPerMilli) ∨
      ∃ g, Asleep start (clock.now + delay) t.id g [] d₁.registry := by
  obtain ⟨hstart, hnow⟩ := hf.1 clock rfl
  have hdate' : date = start + (clock.now + delay) := by
    rw [Clock.dateAfter?_eq_some hdate, Clock.date, hstart, Nat.add_assoc]
  cases step_spec hs with
  | finish hm =>
    obtain ⟨⟨l, hl, hid, -⟩, -⟩ := mayEnd_iff.1 hm
    obtain ⟨c₀, hc₀⟩ := valid_iff.1 hlive
    have hrunning := (hi.kept _ c₀ hc₀).running hl hid
    show (((d.registry.suspend clock t (.timed delay)).status? t.id = _) ∧ _) ∨
      ∃ g, Asleep _ _ _ g [] (d.registry.suspend clock t (.timed delay))
    rcases d.registry.suspend_cases clock t (.timed delay) with ⟨hn, -⟩ | ⟨c, hc, -, hsuspend⟩
    · exact absurd hrunning (hn c₀ hc₀)
    · rcases hsuspend with ⟨hnone, -⟩ | ⟨_, date', timers, he, -, hd, hins, e⟩ | ⟨_, date', he, hd, hins, e⟩
      · rcases hnone with he | ⟨_, he, hd⟩
        · cases he
        · cases he; rw [hd] at hdate; cases hdate
      · cases he
        cases hd.symm.trans hdate
        right
        have hparked : (d.registry.put t.id (c.parked t (some date))).find? t.id = _ := find?_put_self _ hc
        obtain ⟨x, hpending, hk, honTime⟩ :=
          Timers.onTime_insert? (Nat.le_trans hw.moved hnow) hwheel hins
        rw [e]
        refine ⟨c.generation + 1, ⟨_, hparked, rfl, rfl, by rw [← hdate']; rfl⟩, fun y m hy => ?_⟩
        change y ∈ timers.pending at m
        rw [hpending] at m
        rcases List.mem_append.1 m with m | m
        · -- the timers that were there belong to earlier suspensions
          obtain ⟨htask, hgen⟩ := Timer.key_eq.1 hy
          have hpast := ht.counted.past y m c (by rw [htask]; exact hc)
          omega
        · rw [List.mem_singleton.1 m]
          exact honTime
      · cases he
        left
        have hback : (d.registry.put t.id ((c.parked t (some date')).requeue clock (.int 0))).find? t.id = _ :=
          find?_put_self _ hc
        rw [e]
        refine ⟨?_, Timers.lt_of_insert?_eq_none hwheel (hins.resolve_left hdelay)⟩
        simp only [status?, announce]
        exact congrArg (Option.map Control.status) hback

/-- An event that ended a suspension in a run is one of the run. -/
theorem mem_of_event_ending {es : List (Event σ)} {e : Event σ} : ∀ {d d' : TaskQueue σ}, d.run es = some d' →
    (g, .event e) ∈ d.gather (endings id) es → e ∈ es := by
  induction es with
  | nil => intro d d' _ m; cases m
  | cons e' es ih =>
    intro d d' hr m
    obtain ⟨d₁, hs, hr'⟩ := run_cons.1 hr
    rw [gather_cons hs] at m
    rcases List.mem_append.1 m with m | m
    · have he : e = e' := by
        cases e' with
        | advance clock => simp [endings] at m
        | _ =>
          obtain ⟨_, -, heq⟩ := List.mem_map.1 m
          cases heq
          rfl
      rw [he]
      exact List.mem_cons_self
    · exact List.mem_cons_of_mem _ (ih hr' m)

/-- **Timed suspensions end on time.** Take any run whose events read one clock that does not go back, and in
which the timers are moved on less than `2 ^ 31` milliseconds after the queue was set up and after they were
last moved on. A live task comes back in it to be suspended for a delay, however far the wheel lags behind, and
then anything happens, whatever the times at which the timers are moved on and however often the wheel is set
up anew. All that is asked of the wheel is that it counts right for this one timer.

The task is queued again at once if the delay is shorter than a millisecond. Otherwise it is in a suspension. A
later event ends this suspension because the task is resumed or killed or everything is shut down, or because
the timers are moved on less than a millisecond before the deadline, or later. When the timers are moved on at
the deadline or later, and a millisecond or more after the wheel was last set up anew since, the suspension is
over after that: it was ended once, in one of these ways, and by its timer if the task was neither resumed nor
killed. -/
theorem timed_suspension_on_time {now maxDepth delay date : Nat} {es es' : List (Event σ)}
    {d d₁ d₂ d₃ : TaskQueue σ} {clock : Clock} {t : Task σ} {e : Event σ}
    (hr : (empty now maxDepth).run es = some d)
    (hs : d.step (.finish clock t (.suspend (.timed delay))) = some d₁)
    (hr' : d₁.run es' = some d₂) (hs' : d₂.step e = some d₃)
    (htimed : Timed start ⟨now, now⟩ (es ++ .finish clock t (.suspend (.timed delay)) :: (es' ++ [e])))
    (hlive : d.registry.valid t.id = true) (hdelay : delay ≠ 0) (hdate : clock.dateAfter? delay = some date)
    (hwheel : d.registry.timers.Exact ((delay + (clock.now - d.registry.timers.moved)) / nanosPerMilli)) :
    (d₁.registry.status? t.id = some .queued ∧ date < clock.date + nanosPerMilli) ∨
    ∃ g, d₁.registry.suspension? t.id = some g ∧
      (d₂.registry.suspension? t.id = some g → d₃.registry.suspension? t.id ≠ some g →
        (Ending.event e).Ends t.id g ∨ ∃ k, e = .advance k ∧ date < k.date + nanosPerMilli) ∧
      (∀ k, e = .advance k → date ≤ k.date →
        (∀ c, (d₁.gather rebuilds es').getLast? = some c → c + nanosPerMilli ≤ k.now) →
        d₃.registry.suspension? t.id ≠ some g ∧
        ∃ how, (d₁.gather (endings t.id) (es' ++ [e])).filter (·.1 = g) = [(g, how)] ∧ how.Ends t.id g ∧
          ((∀ e' ∈ es', ¬ (Ending.event e').Ends t.id g) → ∃ x, how = .timer x)) := by
  have hi := inv_run hr
  have hi₁ := inv_step hi hs
  have hi₂ := hi₁.run hr'
  obtain ⟨ht, hf, hrest⟩ := timed_append.1 htimed
  obtain ⟨ht', hf', -⟩ := timed_append.1 hrest
  have hstart : InStep ⟨now, now⟩ (empty now maxDepth : TaskQueue σ).registry.timers :=
    ⟨Nat.le_refl _, Nat.le_refl _, Nat.lt_add_of_pos_right (by decide)⟩
  have hw := inStep_run hstart ht hr
  have hw₁ := inStep_step hw hf hs
  have hw₂ := inStep_run hw₁ ht' hr'
  have htimers : TimersInv d₂.registry :=
    timersInv_run (run_append.2 ⟨d, hr, run_cons.2 ⟨d₁, hs, hr'⟩⟩)
  have hdate' := Clock.dateAfter?_eq_some hdate
  have hclock := (hf.1 clock rfl).1
  rcases asleep_of_finish hi (timersInv_run hr) hw hf hs hlive hdelay hdate hwheel with ⟨hq, hlt⟩ | ⟨g, h⟩
  · exact .inl ⟨hq, by omega⟩
  · obtain ⟨c, hc, hsusp, hgen, hdeadline⟩ := h.known
    have hg : d₁.registry.suspension? t.id = some g := suspension?_eq_some.2 ⟨c, hc, hsusp, hgen⟩
    refine .inr ⟨g, hg, fun hg₂ hg₃ => ?_, ?_⟩
    · have ha := asleep_run hi₁ hw₁ ht' h hr' hg₂
      rcases step_suspension hi₂ hs' t.id with hsame | hnone | ⟨-, ⟨k, rfl⟩ | hends⟩
      · exact absurd (hsame.trans hg₂) hg₃
      · rw [hnone] at hg₂; cases hg₂
      · cases step_spec hs'
        obtain ⟨x, m, hk, hx⟩ := (ha.ends_iff htimers hi₂.nodup (hw₂.reaches hf')).1 hg₃
        have hearly := (ha.onTime x m hk).notEarly
        have hkclock := (hf'.1 k rfl).1
        exact .inr ⟨k, rfl, by simp only [Clock.date] at *; omega⟩
      · exact .inl (hends g)
    · rintro k rfl hle hrebuilt
      have hover : d₃.registry.suspension? t.id ≠ some g := by
        by_cases hg₂ : d₂.registry.suspension? t.id = some g
        · have ha := asleep_run hi₁ hw₁ ht' h hr' hg₂
          obtain ⟨x, m, hk⟩ := ha.exists_timer htimers
          have hkclock := (hf'.1 k rfl).1
          cases step_spec hs'
          refine (ha.ends_iff htimers hi₂.nodup (hw₂.reaches hf')).2 ⟨x, m, hk, ?_⟩
          rcases (ha.onTime x m hk).notLate with hlate | ⟨c, hlast, hlate⟩
          · simp only [Clock.date] at *; omega
          · exact Nat.le_trans hlate (hrebuilt c hlast)
        · rcases run_suspension hi₁ hg hr' with ⟨-, hgoes⟩ | ⟨-, -, -, hpast⟩
          · exact absurd hgoes hg₂
          · exact (past_step hi₂ hpast hs').ne
      have hall : d₁.run (es' ++ [.advance k]) = some d₃ :=
        run_append.2 ⟨d₂, hr', run_cons.2 ⟨d₃, hs', rfl⟩⟩
      rcases run_suspension hi₁ hg hall with ⟨-, hgoes⟩ | ⟨how, honce, hends, -⟩
      · exact absurd hgoes hover
      · refine ⟨hover, how, honce, hends, fun hquiet => ?_⟩
        cases how with
        | timer x => exact ⟨x, rfl⟩
        | event e' =>
          have hmem : (g, .event e') ∈ d₁.gather (endings t.id) (es' ++ [.advance k]) :=
            (List.mem_filter.1 (honce ▸ List.mem_singleton_self (g, Ending.event e'))).1
          rcases List.mem_append.1 (mem_of_event_ending hall hmem) with m | m
          · exact absurd hends (hquiet e' m)
          · cases List.mem_singleton.1 m; cases hends

/-- The timers are moved on in the middle of the second millisecond, so that the wheel lags behind. -/
def lagging : List (Event Unit) := [.create {} idleFrame (), .deal, .advance { now := 1500000 }]

/-- The task is suspended for 2.3 milliseconds, 1.9 milliseconds after the queue was set up. It sleeps on at 3.9
milliseconds, and its timer has woken it at 4.2 milliseconds. -/
theorem timed_suspension_on_time_lagging : ∃ d d₁ d₂ d₃ : TaskQueue Unit, (empty 0 1).run lagging = some d ∧
    d.registry.timers.moved = 1000000 ∧
    d.step (.finish { now := 1900000 } (idleTask 1) (.suspend (.timed 2300000))) = some d₁ ∧
    d₁.run [.advance { now := 3900000 }] = some d₂ ∧ d₂.registry.suspension? 1 = some 1 ∧
    d₂.step (.advance { now := 4200000 }) = some d₃ ∧ d₃.registry.suspension? 1 ≠ some 1 ∧
    ∃ x, (d₁.gather (endings 1) [.advance { now := 3900000 }, .advance { now := 4200000 }]).filter (·.1 = 1) =
      [(1, .timer x)] := by
  refine ⟨_, _, _, _, rfl, by decide +kernel, rfl, rfl, by decide +kernel, rfl, ?_⟩
  have htimed : Timed 0 ⟨0, 0⟩ (lagging ++
      .finish { now := 1900000 } (idleTask 1) (.suspend (.timed 2300000)) ::
        ([.advance { now := 3900000 }] ++ [.advance { now := 4200000 }])) := by
    simp [lagging, Timed, Watch.Fits, Watch.read, Event.clock?, nanosPerMilli]
  rcases @timed_suspension_on_time Unit 0 0 1 2300000 4200000 lagging [.advance { now := 3900000 }] _ _ _ _
    { now := 1900000 } (idleTask 1) (.advance { now := 4200000 }) rfl rfl rfl rfl htimed (by decide +kernel)
    (by decide) (by decide +kernel) (Timers.exact_of_le _ (by decide +kernel)) with ⟨hq, -⟩ | ⟨g, hg, -, hlate⟩
  · exact absurd hq (by decide +kernel)
  · cases hg.symm.trans (by decide +kernel : _ = some 1)
    obtain ⟨hover, how, honce, -, hquiet⟩ := hlate _ rfl (by decide) fun c hc => by
      cases hc.symm.trans (by decide +kernel : _ = none)
    obtain ⟨x, rfl⟩ := hquiet (by simp [Ending.Ends])
    exact ⟨hover, x, honce⟩

end TaskQueue

end MooWorld
