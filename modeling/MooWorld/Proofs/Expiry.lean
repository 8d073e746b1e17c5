import Mathlib.Data.List.Nodup
import MooWorld.Proofs.TimerCount
/-!
# Timers that fire wake their tasks

The timers that fire together are dealt with one by one, and each may change what the next one finds: a task
that was just woken is queued, and its other timers are stale from then on. All the same, what they do
together can be read off the registry as it was before the first of them (`foldl_fire_eq`). The tasks with a
live timer among them, the `sleepers`, are woken once each, and no other task is touched. This rests on
`Counted`: a suspension has one timer at most, so that among all the timers of a task one at most is live.

It follows that the order of the timers shows in the order of the announcements and nowhere else
(`foldl_fire_perm`).
-/
namespace MooWorld

/-- A timer on the wheel fires by the time the wheel has been moved on to a clock reading. -/
def Timers.Due (w : Timers) (now : Nat) (x : Timer) : Prop :=
  x ∈ w.pending ∧ w.moved < now ∧ x.due ≤ w.tick + min maxTicks ((now - w.moved) / nanosPerMilli)

theorem Timers.mem_advance {w : Timers} {now : Nat} {x : Timer} :
    x ∈ (w.advance now).1 ↔ w.Due now x := by
  unfold advance Due
  by_cases h : now ≤ w.moved
  · simp [h, Nat.not_lt.2 h]
  · simp [h, Nat.lt_of_not_le h]

variable {σ : Type}

namespace Registry

/-! ## Tasks that are woken together -/

/-- The tasks that the live ones among some timers belong to. -/
def sleepers (r : Registry σ) (l : List Timer) : List TaskId := (l.filter r.isLive).map (·.task)

/-- The registry after the suspensions of some tasks have ended with zero, one after the other. -/
def wakeAll (r : Registry σ) (clock : Clock) (ids : List TaskId) : Registry σ :=
  { r with
    tasks := r.tasks.map fun e => if e.1 ∈ ids then (e.1, e.2.requeue clock (.int 0)) else e
    ready := r.ready ++ ids }

theorem mem_sleepers {r : Registry σ} {l : List Timer} {id : TaskId} :
    id ∈ r.sleepers l ↔ ∃ x ∈ l, r.isLive x = true ∧ x.task = id := by
  simp [sleepers, and_assoc]

theorem sleepers_cons (r : Registry σ) (x : Timer) (l : List Timer) :
    r.sleepers (x :: l) = if r.isLive x then x.task :: r.sleepers l else r.sleepers l := by
  cases h : r.isLive x <;> simp [sleepers, h]

theorem count_sleepers (r : Registry σ) (l : List Timer) (id : TaskId) :
    (r.sleepers l).count id = r.liveOf id l := by
  rw [sleepers, liveOf, List.count_eq_countP, List.countP_map, List.countP_filter]
  rfl

theorem ids_wakeAll (r : Registry σ) (clock : Clock) (ids : List TaskId) :
    (r.wakeAll clock ids).ids = r.ids := by
  simp only [Registry.ids, wakeAll, List.map_map]
  apply List.map_congr_left
  intro e _
  simp only [Function.comp]
  split <;> rfl

theorem find?_wakeAll (r : Registry σ) (clock : Clock) (ids : List TaskId) (id : TaskId) :
    (r.wakeAll clock ids).find? id =
      if id ∈ ids then (r.find? id).map (·.requeue clock (.int 0)) else r.find? id := by
  simp only [find?, wakeAll]
  induction r.tasks with
  | nil => simp
  | cons e rest ih =>
    obtain ⟨k, c⟩ := e
    by_cases hk : id = k
    · subst hk
      by_cases hm : id ∈ ids <;> simp [hm]
    · have hne : (id == k) = false := by simpa using hk
      by_cases hm : k ∈ ids <;> simpa [List.lookup_cons, hne, hm] using ih

theorem wakeAll_nil (r : Registry σ) (clock : Clock) : r.wakeAll clock [] = r := by
  simp [wakeAll]

theorem wakeAll_cons {id : TaskId} {ids : List TaskId} (h : id ∉ ids) (r : Registry σ) (clock : Clock) :
    (r.wakeAll clock [id]).wakeAll clock ids = r.wakeAll clock (id :: ids) := by
  simp only [wakeAll, List.map_map, List.append_assoc, List.singleton_append, Registry.mk.injEq,
    and_true]
  apply List.map_congr_left
  intro e _
  by_cases he : e.1 = id
  · simp [he, h]
  · simp [he]

/-- A task that was woken has no live timer any more, and the others have theirs. -/
theorem isLive_wakeAll (r : Registry σ) (clock : Clock) (ids : List TaskId) (x : Timer) :
    (r.wakeAll clock ids).isLive x = (decide (x.task ∉ ids) && r.isLive x) := by
  by_cases h : x.task ∈ ids
  · simp only [h, not_true_eq_false, decide_false, Bool.false_and]
    refine isLive_eq_false fun c hc hs => ?_
    rw [find?_wakeAll, if_pos h] at hc
    obtain ⟨c', -, rfl⟩ := Option.map_eq_some_iff.1 hc
    cases hs
  · simp only [h, not_false_eq_true, decide_true, Bool.true_and]
    exact isLive_congr (by rw [find?_wakeAll, if_neg h])

/-! ## A batch of timers -/

/-- A timer that fires wakes the task it belongs to if it is live, and is ignored otherwise. -/
theorem fire_eq {r : Registry σ} (hn : r.ids.Nodup) (clock : Clock) (woken ignored : Nat) (x : Timer) :
    fire clock (r, woken, ignored) x =
      if r.isLive x then (r.wakeAll clock [x.task], woken + 1, ignored) else (r, woken, ignored + 1) := by
  rcases fire_cases clock r woken ignored x with ⟨c, hc, hs, hg, e⟩ | ⟨hdead, e⟩
  · have hput : r.put x.task (c.requeue clock (.int 0)) =
        { r.wakeAll clock [x.task] with ready := r.ready } := by
      simp only [put, wakeAll, Registry.mk.injEq, and_true]
      apply List.map_congr_left
      rintro ⟨id, c'⟩ m
      by_cases hid : id = x.task
      · subst hid
        cases ((mem_tasks hn).1 m).symm.trans hc
        simp
      · simp [hid]
    rw [e, if_pos (isLive_iff.2 ⟨c, hc, hs, hg⟩), hput]
    rfl
  · rw [e, isLive_eq_false hdead]
    rfl

/-- What a batch of timers does, told by what is live before the first of them fires. -/
theorem foldl_fire_eq (clock : Clock) {l : List Timer} {r : Registry σ} (hn : r.ids.Nodup)
    (hl : (r.sleepers l).Nodup) (woken ignored : Nat) :
    l.foldl (fire clock) (r, woken, ignored) =
      (r.wakeAll clock (r.sleepers l), woken + (r.sleepers l).length, ignored + r.staleOf l) := by
  induction l generalizing r woken ignored with
  | nil => simp [sleepers, staleOf, wakeAll_nil]
  | cons x l ih =>
    rw [sleepers_cons] at hl
    rw [List.foldl_cons, fire_eq hn, sleepers_cons, staleOf_cons]
    cases hx : r.isLive x with
    | false =>
      simp only [hx, Bool.false_eq_true, if_false] at hl ⊢
      rw [ih hn hl]
      simp only [Prod.mk.injEq, true_and]
      omega
    | true =>
      simp only [hx, if_true, List.nodup_cons] at hl ⊢
      -- the task has no other live timer, so that all the others are live or stale as they were
      have hsame : ∀ y ∈ l, (r.wakeAll clock [x.task]).isLive y = r.isLive y := by
        intro y m
        rw [isLive_wakeAll]
        by_cases hy : y.task = x.task
        · have : r.isLive y = false := Bool.eq_false_iff.2 fun hlive =>
            hl.1 (mem_sleepers.2 ⟨y, m, hlive, hy⟩)
          simp [this]
        · simp [hy]
      have hsleepers : (r.wakeAll clock [x.task]).sleepers l = r.sleepers l := by
        rw [sleepers, sleepers, List.filter_congr hsame]
      have hstale : (r.wakeAll clock [x.task]).staleOf l = r.staleOf l :=
        List.countP_congr fun y m => by rw [hsame y m]
      rw [ih (by rw [ids_wakeAll]; exact hn) (by rw [hsleepers]; exact hl.2), hsleepers, hstale,
        wakeAll_cons hl.1]
      simp only [Prod.mk.injEq, true_and, List.length_cons]
      omega

/-- Timers that fire in another order announce the same tasks in another order. -/
theorem foldl_fire_perm (clock : Clock) {l l' : List Timer} (hp : l'.Perm l) {r : Registry σ}
    (hn : r.ids.Nodup) (hl : (r.sleepers l).Nodup) :
    ∃ announced, announced.Perm (r.sleepers l) ∧ l'.foldl (fire clock) (r, 0, 0) =
      ({ (l.foldl (fire clock) (r, 0, 0)).1 with ready := r.ready ++ announced },
        (l.foldl (fire clock) (r, 0, 0)).2) := by
  have hperm : (r.sleepers l').Perm (r.sleepers l) := (hp.filter r.isLive).map Timer.task
  refine ⟨r.sleepers l', hperm, ?_⟩
  rw [foldl_fire_eq clock hn hl, foldl_fire_eq clock hn (hperm.nodup_iff.2 hl), hperm.length_eq,
    staleOf, hp.countP_eq, ← staleOf]
  simp only [wakeAll, hperm.mem_iff]

/-- Each suspension has one timer at most, so that each task has one live timer at most among those that
fire. -/
theorem Counted.nodup_sleepers {r : Registry σ} {l l' : List Timer} (h : Counted r (l ++ l')) :
    (r.sleepers l).Nodup := by
  rw [List.nodup_iff_count_le_one]
  intro id
  have hall := h.liveOf_eq id
  rw [liveOf, List.countP_append, ← liveOf] at hall
  rw [count_sleepers]
  split at hall <;> omega

/-- The tasks that are woken when the timers are moved on. -/
def dueSleepers (r : Registry σ) (clock : Clock) : List TaskId :=
  r.sleepers (r.timers.advance clock.now).1

theorem TimersInv.nodup_dueSleepers {r : Registry σ} (h : TimersInv r) (clock : Clock) :
    (r.dueSleepers clock).Nodup :=
  (h.counted.perm (r.timers.advance_perm clock.now)).nodup_sleepers

/-- Nothing but the wheel tells whether a new one was set up. -/
theorem TimersInv.advance_eq_wakeAll {r : Registry σ} (h : TimersInv r) (hn : r.ids.Nodup)
    (clock : Clock) : r.advance clock = ((r.dueSleepers clock).length,
      { r.wakeAll clock (r.dueSleepers clock) with timers := (r.advance clock).2.timers }) := by
  have hfired : r.fired clock = (({ r with timers := (r.timers.advance clock.now).2 } :
      Registry σ).wakeAll clock (r.dueSleepers clock), (r.dueSleepers clock).length,
        r.staleOf (r.timers.advance clock.now).1) := by
    have hfold := foldl_fire_eq (r := { r with timers := (r.timers.advance clock.now).2 }) clock hn
      (h.nodup_dueSleepers clock) 0 0
    simp only [Nat.zero_add] at hfold
    exact hfold
  rw [advance_eq, compact_eq, hfired]
  rfl

/-- Whether a task is woken hangs on its present generation alone, since that has no timer unless the task
is suspended. -/
theorem TimersInv.mem_dueSleepers {r : Registry σ} (h : TimersInv r) {clock : Clock} {id : TaskId} :
    id ∈ r.dueSleepers clock ↔
      ∃ c x, r.find? id = some c ∧ r.timers.Due clock.now x ∧ x.key = (id, c.generation) := by
  rw [dueSleepers, mem_sleepers]
  constructor
  · rintro ⟨x, hx, hlive, rfl⟩
    obtain ⟨c, hc, -, hg⟩ := isLive_iff.1 hlive
    exact ⟨c, x, hc, Timers.mem_advance.1 hx, Timer.key_eq.2 ⟨rfl, hg.symm⟩⟩
  · rintro ⟨c, x, hc, hdue, hk⟩
    obtain ⟨rfl, hg⟩ := Timer.key_eq.1 hk
    have hs := h.counted.suspended _ c hc (h.counted.due hdue.1 hc hg.symm)
    exact ⟨x, Timers.mem_advance.2 hdue, isLive_iff.2 ⟨c, hc, hs, hg.symm⟩, rfl⟩

end Registry

namespace TaskQueue

/-- **Exactly the suspensions that are due end.** Whatever happened before, when the timers are moved on
by any amount of time, the tasks that go from suspended to queued are those whose present generation has a
timer that is due, whatever stale timers fire with it. Each of them is held with a wake value of zero and
without a deadline, and is announced once; their number is returned; and what is known of every other task is
as it was. The order in which the timers fire shows in the order of the announcements and nowhere else. -/
theorem advance_wakes_due {now maxDepth : Nat} {es : List (Event σ)} {d : TaskQueue σ}
    (h : (empty now maxDepth).run es = some d) (clock : Clock) :
    ∃ woken : List TaskId, woken.Nodup ∧
      (∀ id, id ∈ woken ↔ ∃ c x, d.registry.find? id = some c ∧
        d.registry.timers.Due clock.now x ∧ x.key = (id, c.generation)) ∧
      (∀ id, id ∈ woken ↔ d.registry.status? id = some .suspended ∧
        (d.registry.advance clock).2.status? id = some .queued) ∧
      (d.registry.advance clock).1 = woken.length ∧
      (d.registry.advance clock).2.ready = d.registry.ready ++ woken ∧
      (∀ id ∈ woken, ∃ c t, d.registry.find? id = some c ∧ c.task = some t ∧
        (d.registry.advance clock).2.find? id = some
          { owner := c.owner, status := .queued, task := some { t with wake := some (.int 0) }
            deadline := none, generation := c.generation + 1, queuedAt := clock.date }) ∧
      (∀ id, id ∉ woken → (d.registry.advance clock).2.find? id = d.registry.find? id) ∧
      Registry.Quiet d.registry (d.registry.advance clock).2 ∧
      ∀ l : List Timer, l.Perm (d.registry.timers.advance clock.now).1 → ∃ announced, announced.Perm woken ∧
        l.foldl (Registry.fire clock)
            ({ d.registry with timers := (d.registry.timers.advance clock.now).2 }, 0, 0) =
          ({ (d.registry.fired clock).1 with ready := d.registry.ready ++ announced },
            (d.registry.fired clock).2) := by
  have hi := inv_run h
  have ht := timersInv_run h
  have hadvance := ht.advance_eq_wakeAll hi.nodup clock
  have hfind : ∀ id, (d.registry.advance clock).2.find? id = if id ∈ d.registry.dueSleepers clock
      then (d.registry.find? id).map (·.requeue clock (.int 0)) else d.registry.find? id := by
    intro id
    rw [hadvance]
    exact d.registry.find?_wakeAll clock _ id
  -- a task that is woken was suspended, so that the registry holds it
  have hwoken : ∀ id ∈ d.registry.dueSleepers clock, ∃ c t, d.registry.find? id = some c ∧
      c.status = .suspended ∧ c.task = some t := by
    intro id m
    obtain ⟨x, -, hlive, rfl⟩ := Registry.mem_sleepers.1 m
    obtain ⟨c, hc, hs, -⟩ := Registry.isLive_iff.1 hlive
    obtain ⟨⟨t, htask, -⟩, -⟩ := (hi.kept _ c hc).held (by rw [hs]; decide)
    exact ⟨c, t, hc, hs, htask⟩
  refine ⟨d.registry.dueSleepers clock, ht.nodup_dueSleepers clock, fun id => ht.mem_dueSleepers, ?_, ?_, ?_,
    ?_, ?_, d.registry.quiet_advance clock, ?_⟩
  · intro id
    simp only [Registry.status?, hfind]
    constructor
    · intro m
      obtain ⟨c, t, hc, hs, -⟩ := hwoken id m
      simp [m, hc, hs, Control.requeue]
    · rintro ⟨hs, hq⟩
      by_contra hm
      rw [if_neg hm, hs] at hq
      cases hq
  · rw [hadvance]
  · rw [hadvance]
    rfl
  · intro id m
    obtain ⟨c, t, hc, hs, htask⟩ := hwoken id m
    refine ⟨c, t, hc, htask, ?_⟩
    simp [hfind, m, hc, Control.requeue, htask]
  · intro id hm
    rw [hfind, if_neg hm]
  · intro l hp
    exact Registry.foldl_fire_perm clock hp (r := { d.registry with
      timers := (d.registry.timers.advance clock.now).2 }) hi.nodup (ht.nodup_dueSleepers clock)

/-- Three tasks are suspended, the third for longer. The first is resumed and suspended once more, and the
second is killed. -/
def crowded : List (Event Unit) :=
  [.create {} idleFrame (), .create {} idleFrame (), .create {} idleFrame (), .deal, .deal, .deal,
    .finish {} (idleTask 1) (.suspend (.timed nanosPerSecond)),
    .finish {} (idleTask 2) (.suspend (.timed nanosPerSecond)),
    .finish {} (idleTask 3) (.suspend (.timed (9 * nanosPerSecond))),
    .resume {} 1 (.int 7) .nothing false, .deal,
    .finish {} (idleTask 1) (.suspend (.timed nanosPerSecond)), .kill 2 .nothing false]

/-- Of the three timers that are due, one is that of the present suspension of the first task. -/
theorem advance_wakes_due_crowded : ∃ d : TaskQueue Unit, (empty 0 1).run crowded = some d ∧
    (∀ x ∈ [⟨1, 1, 1000⟩, ⟨2, 1, 1000⟩, ⟨1, 3, 1000⟩], d.registry.timers.Due (2 * nanosPerSecond) x) ∧
    (d.registry.advance { now := 2 * nanosPerSecond }).1 = 1 ∧
    (d.registry.advance { now := 2 * nanosPerSecond }).2.ready = d.registry.ready ++ [1] ∧
    (d.registry.advance { now := 2 * nanosPerSecond }).2.find? 3 = d.registry.find? 3 := by
  obtain ⟨d, hd⟩ : ∃ d, (empty 0 1).run crowded = some d := ⟨_, rfl⟩
  obtain ⟨woken, hnodup, hdue, -, hnumber, hready, -, hother, -⟩ :=
    advance_wakes_due hd { now := 2 * nanosPerSecond }
  have hwheel : d.registry.timers.pending = [⟨1, 1, 1000⟩, ⟨2, 1, 1000⟩, ⟨3, 1, 9000⟩, ⟨1, 3, 1000⟩] ∧
      d.registry.timers.tick = 0 ∧ d.registry.timers.moved = 0 := by
    cases hd; exact ⟨rfl, rfl, rfl⟩
  have hfirst : ∃ c, d.registry.find? 1 = some c ∧ c.generation = 3 := by cases hd; exact ⟨_, rfl, rfl⟩
  have hsecond : d.registry.find? 2 = none := by cases hd; rfl
  have hbatch : ∀ x, d.registry.timers.Due (2 * nanosPerSecond) x ↔
      x ∈ ([⟨1, 1, 1000⟩, ⟨2, 1, 1000⟩, ⟨1, 3, 1000⟩] : List Timer) := by
    intro x
    simp only [Timers.Due, hwheel, List.mem_cons, List.not_mem_nil, or_false]
    constructor
    · rintro ⟨rfl | rfl | rfl | rfl, -, hlate⟩
      · exact .inl rfl
      · exact .inr (.inl rfl)
      · exact absurd hlate (by decide)
      · exact .inr (.inr rfl)
    · rintro (rfl | rfl | rfl) <;> decide
  have hwoken : woken = [1] := by
    refine List.perm_singleton.1 ((List.perm_ext_iff_of_nodup hnodup (List.nodup_singleton 1)).2 fun id => ?_)
    rw [hdue, List.mem_singleton]
    constructor
    · rintro ⟨c, x, hc, hx, hk⟩
      have hx := (hbatch x).1 hx
      simp only [List.mem_cons, List.not_mem_nil, or_false] at hx
      obtain ⟨rfl, -⟩ := Timer.key_eq.1 hk
      rcases hx with rfl | rfl | rfl
      · rfl
      · exact absurd (hsecond.symm.trans hc) (by simp)
      · rfl
    · rintro rfl
      obtain ⟨c, hc, hg⟩ := hfirst
      exact ⟨c, ⟨1, 3, 1000⟩, hc, (hbatch _).2 (by simp), by rw [hg]; rfl⟩
  subst hwoken
  exact ⟨d, hd, fun x m => (hbatch x).2 m, hnumber, hready, hother 3 (by decide)⟩

end TaskQueue

end MooWorld
