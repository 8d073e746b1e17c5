import MooWorld.Proofs.Lifecycle
/-!
# Announcements

If tasks are asked for only because they were announced, a live task is announced exactly once while it is
queued and not at all while it is running or suspended. Announcements of tasks that are not live any more
may be left over, and do no harm: their numbers are never used again.

`Announced` is the invariant; `announced_requeue` covers the three ways back to the queue, by a value, by
a timer, and by a delay that is over at once.
-/
namespace MooWorld.TaskQueue

variable {σ : Type}

structure Announced (r : Registry σ) : Prop where
  used : ∀ id ∈ r.ready, id < r.nextId
  once : ∀ id c, r.find? id = some c → r.ready.count id = if c.status = .queued then 1 else 0

theorem announced_empty (now maxDepth : Nat) : Announced (Registry.empty now maxDepth : Registry σ) := by
  refine ⟨by simp [Registry.empty], ?_⟩
  intro id c h; cases h

theorem Announced.congr {r r' : Registry σ} (h : Announced r) (ht : r'.tasks = r.tasks)
    (hn : r'.nextId = r.nextId) (hr : r'.ready = r.ready) : Announced r' := by
  have hf := Registry.find?_congr ht
  refine ⟨?_, ?_⟩
  · intro id m; rw [hr] at m; rw [hn]; exact h.used id m
  · intro id c hc; rw [hf] at hc; rw [hr]; exact h.once id c hc

theorem count_concat (l : List TaskId) (i j : TaskId) :
    (l ++ [i]).count j = l.count j + if j = i then 1 else 0 := by
  rw [List.count_append, List.count_singleton]
  by_cases h : j = i
  · simp [h]
  · have : ¬ i = j := fun e => h e.symm
    simp [h, this]

/-! ## One task changes -/

/-- A task that is not queued changes and is still not queued. -/
theorem announced_put {r : Registry σ} (h : Announced r) {id : TaskId} {c c' : Control σ}
    (hc : r.find? id = some c) (hq : c.status ≠ .queued) (hq' : c'.status ≠ .queued) :
    Announced (r.put id c') := by
  refine ⟨h.used, ?_⟩
  intro j cj hj
  by_cases e : j = id
  · subst e
    rw [Registry.find?_put_self _ hc] at hj
    cases hj
    have := h.once j c hc
    rw [if_neg hq] at this
    rw [if_neg hq']; exact this
  · rw [Registry.find?_put_of_ne _ e] at hj
    exact h.once j cj hj

/-- A task becomes queued and is announced. -/
theorem announced_requeue {r : Registry σ} (h : Announced r) {id : TaskId} {c c' : Control σ}
    (hid : id < r.nextId) (hc : r.find? id = some c) (hq : c.status ≠ .queued)
    (hq' : c'.status = .queued) : Announced ((r.put id c').announce id) := by
  refine ⟨?_, ?_⟩
  · intro j m
    rcases List.mem_append.1 m with m | m
    · exact h.used j m
    · rw [List.mem_singleton.1 m]; exact hid
  · intro j cj hj
    show (r.ready ++ [id]).count j = _
    rw [count_concat]
    by_cases e : j = id
    · subst e
      have hself : ((r.put j c').announce j).find? j = some c' := Registry.find?_put_self _ hc
      rw [hself] at hj
      cases hj
      rw [h.once j c hc, if_neg hq, if_pos rfl, if_pos hq']
    · have hother : ((r.put id c').announce id).find? j = r.find? j := Registry.find?_put_of_ne _ e
      rw [hother] at hj
      rw [h.once j cj hj, if_neg e, Nat.add_zero]

theorem announced_drop {r : Registry σ} (h : Announced r) (id : TaskId) : Announced (r.drop id) := by
  refine ⟨h.used, ?_⟩
  intro j cj hj
  rw [Registry.find?_drop] at hj
  split at hj
  · cases hj
  · exact h.once j cj hj

/-! ## The events -/

theorem announced_create {r : Registry σ} (h : Announced r) (hnew : r.find? r.nextId = none)
    (clock : Clock) (entry : Frame) (program : σ) : Announced (r.create clock entry program).2 := by
  rcases r.create_cases clock entry program with e | ⟨calls, e⟩
  · rw [e]
    exact ⟨fun j m => Nat.lt_succ_of_lt (h.used j m), h.once⟩
  · rw [e]
    have hcount : r.ready.count r.nextId = 0 :=
      List.count_eq_zero.2 fun m => Nat.lt_irrefl _ (h.used _ m)
    refine ⟨?_, ?_⟩
    · intro j m
      rcases List.mem_append.1 m with m | m
      · exact Nat.lt_succ_of_lt (h.used j m)
      · rw [List.mem_singleton.1 m]; exact Nat.lt_succ_self _
    · intro j cj hj
      show (r.ready ++ [r.nextId]).count j = _
      rw [count_concat]
      rw [Registry.find?_enroll] at hj
      by_cases e : j = r.nextId
      · subst e
        simp only [hnew, if_true, Option.none_or, Option.some.injEq] at hj
        subst hj
        rw [hcount, if_pos rfl]
        rfl
      · simp only [e, if_false, Option.or_none] at hj
        rw [h.once j cj hj, if_neg e, Nat.add_zero]

theorem announced_suspend {r : Registry σ} (h : Announced r)
    (hb : ∀ id c, r.find? id = some c → id < r.nextId) (clock : Clock) (t : Task σ)
    (s : Suspension) : Announced (r.suspend clock t s) := by
  rcases r.suspend_cases clock t s with ⟨-, e⟩ | ⟨c, hc, hr, hs⟩
  · rw [e]; exact h
  · have hq : c.status ≠ .queued := by rw [hr]; decide
    have park : ∀ deadline, Announced (r.put t.id (c.parked t deadline)) := fun deadline =>
      announced_put h hc hq (by show Status.suspended ≠ _; decide)
    rcases hs with ⟨-, e⟩ | ⟨delay, date, timers, -, -, -, -, e⟩ | ⟨delay, date, -, -, -, e⟩
    · rw [e]; exact park none
    · rw [e]; exact (park (some date)).congr rfl rfl rfl
    · rw [e]; exact announced_requeue h (hb _ c hc) hc hq rfl

/-- The oldest announcement is taken and its task is lent out. -/
theorem announced_deal {d : TaskQueue σ} (hi : Inv d) (h : Announced d.registry) {id : TaskId}
    {rest : List TaskId} (hr : d.registry.ready = id :: rest) :
    Announced ({ d with registry := { d.registry with ready := rest } }.lend id).registry := by
  have hcount : ∀ j, d.registry.ready.count j = rest.count j + if id = j then 1 else 0 := by
    intro j; rw [hr, List.count_cons]; simp
  have hused : ∀ j ∈ rest, j < d.registry.nextId := fun j m =>
    h.used j (by rw [hr]; exact List.mem_cons_of_mem _ m)
  have hother : ∀ j c, j ≠ id → d.registry.find? j = some c →
      rest.count j = if c.status = .queued then 1 else 0 := by
    intro j c hne hc
    rw [← h.once j c hc, hcount j, if_neg fun e => hne e.symm, Nat.add_zero]
  rcases lend_cases { d with registry := { d.registry with ready := rest } } id with
    ⟨c, t, hc, hq, -, e⟩ | ⟨hn, e⟩
  · rw [e]
    refine ⟨hused, ?_⟩
    intro j cj hj
    by_cases ej : j = id
    · subst ej
      rw [Registry.find?_put_self _ hc] at hj
      cases hj
      have := h.once j c hc
      rw [if_pos hq, hcount, if_pos rfl] at this
      show rest.count j = 0
      omega
    · rw [Registry.find?_put_of_ne _ ej] at hj
      exact hother j cj ej hj
  · rw [e]
    refine ⟨hused, ?_⟩
    intro j cj hj
    by_cases ej : j = id
    · -- an announced live task is queued, and then the registry holds it
      subst ej
      have hq : cj.status = .queued := by
        have := h.once j cj hj
        rw [hcount, if_pos rfl] at this
        split at this
        · assumption
        · omega
      obtain ⟨⟨t, ht, -, -⟩, -⟩ := (hi.kept j cj hj).held (by rw [hq]; decide)
      have := hn cj hj hq
      rw [ht] at this; cases this
    · exact hother j cj ej hj

theorem announced_advance {d : TaskQueue σ} (hi : Inv d) (h : Announced d.registry) (clock : Clock) :
    Announced (d.registry.advance clock).2 := by
  have hp := Registry.advance_induct (P := fun r => Inv ⟨r, d.loans⟩ ∧ Announced r) clock
    (fun _ _ h => ⟨h.1.congr rfl rfl rfl, h.2.congr rfl rfl rfl⟩) ?_ ⟨hi, h⟩
  · exact hp.2
  · intro r id c ⟨hi, ha⟩ hc hs
    refine ⟨(inv_requeue hi hc hs clock (.int 0)).congr rfl rfl rfl, ?_⟩
    exact announced_requeue ha (hi.bound id c hc) hc (by rw [hs]; decide) rfl

theorem announced_step {d d' : TaskQueue σ} {e : Event σ} (hi : Inv d) (h : Announced d.registry)
    (he : e.scheduled = true) (hs : d.step e = some d') : Announced d'.registry := by
  cases step_spec hs with
  | create clock entry program => exact announced_create h hi.find?_nextId clock entry program
  | dispatch id => cases he
  | deal hr => exact announced_deal hi h hr
  | @finish clock t e _ =>
    show Announced (d.registry.handBack clock t e)
    rcases d.registry.handBack_cases clock t e with ⟨s, -, eq⟩ | ⟨o, -, eq⟩ | ⟨-, eq⟩
    · rw [eq]; exact announced_suspend h hi.bound clock t s
    · rw [eq]
      cases hc : d.registry.find? t.id with
      | none => rw [Registry.complete_of_not_live o hc]; exact h
      | some c =>
        rw [Registry.complete_of_find? o hc]
        exact (announced_drop h t.id).congr rfl rfl rfl
    · rw [eq]; exact h
  | @resume clock id v who wizard r hr =>
    obtain ⟨c, hc, -, hsus, rfl⟩ := Registry.resume_eq_ok.1 hr
    rw [Registry.cancelTimer_eq]
    have hq : c.status ≠ .queued := by rw [hsus]; decide
    have ha : Announced ((d.registry.put id (c.requeue clock v)).announce id) :=
      announced_requeue h (hi.bound id c hc) hc hq rfl
    exact ha.congr rfl rfl rfl
  | resumeRefused => exact h
  | @kill id who wizard r hr =>
    obtain ⟨c, -, -, rfl⟩ := Registry.kill_eq_ok.1 hr
    rw [Registry.cancelTimer_eq]
    exact (announced_drop h id).congr rfl rfl rfl
  | killRefused => exact h
  | advance clock => exact announced_advance hi h clock
  | abort clock =>
    refine ⟨h.used, ?_⟩
    intro id c hc; cases hc

/-- **Announcements.** In every run in which tasks are asked for only because they were announced, a live
task is announced exactly once if it is queued, and not at all if it is running or suspended. So when
nothing is announced and nothing is on loan, every live task is suspended. -/
theorem ready_exact {now maxDepth : Nat} {es : List (Event σ)} {d : TaskQueue σ}
    (hes : ∀ e ∈ es, e.scheduled = true) (h : (empty now maxDepth).run es = some d) :
    (∀ id c, (id, c) ∈ d.registry.tasks →
      d.registry.ready.count id = if c.status = .queued then 1 else 0) ∧
    (d.registry.ready = [] → d.loans = [] →
      ∀ id c, (id, c) ∈ d.registry.tasks → c.status = .suspended) := by
  have hi := inv_run h
  have ha : Announced d.registry := reach_induct (P := fun d => Announced d.registry)
    (announced_empty now maxDepth) (fun _ _ _ hi ha he hs => announced_step hi ha he hs) hes h
  refine ⟨fun id c m => ha.once id c (hi.mem_tasks.1 m), ?_⟩
  intro hr hl id c m
  have hq := ha.once id c (hi.mem_tasks.1 m)
  rw [hr, List.count_nil] at hq
  cases hs : c.status with
  | queued => rw [hs] at hq; cases hq
  | running =>
    have h1 := ((hi.kept id c (hi.mem_tasks.1 m)).lent hs).2
    rw [hl] at h1; cases h1
  | suspended => rfl

/-- Of two tasks the first is suspended, the second is killed before its turn comes, and the first is
resumed. -/
def killedBeforeTurn : List (Event Unit) :=
  [.create {} idleFrame (), .create {} idleFrame (), .deal,
    .finish {} (idleTask 1) (.suspend (.timed nanosPerSecond)), .kill 2 .nothing false,
    .resume {} 1 (.int 7) .nothing false]

theorem ready_exact_killedBeforeTurn : ∃ d : TaskQueue Unit, (∀ e ∈ killedBeforeTurn, e.scheduled = true) ∧
    (empty 0 1).run killedBeforeTurn = some d ∧ d.registry.ids = [1] ∧ d.registry.ready = [2, 1] ∧
    ∀ id c, (id, c) ∈ d.registry.tasks →
      d.registry.ready.count id = if c.status = .queued then 1 else 0 := by
  have hes : ∀ e ∈ killedBeforeTurn, e.scheduled = true := by simp [killedBeforeTurn, Event.scheduled]
  refine ⟨_, hes, rfl, rfl, rfl, ?_⟩
  exact (@ready_exact Unit 0 1 killedBeforeTurn _ hes rfl).1

end MooWorld.TaskQueue
