import MooWorld.Proofs.Requeue
/-!
# The worker pool

The worker pool is the world together with the tasks on loan, each as its slice has left it so far. Workers
take tasks, let them take their turns and hand them back, in any order and interleaved with calls from
outside; in a turn the program of a task makes one step, in which it may itself act on the registry. A move
of the pool is a number of events of the task queue (`events`), so that what holds of the queue holds in the
pool (`history_sound`).

`History` is what happened in the pool as it concerns one task: the wake values that its program was given
to see, the values with which the task returned to the queue, and how often it was suspended. What a program
is given to see is what a turn of the task gives to the step, whatever the program is (`Task.shown`).
-/
namespace MooWorld

variable {σ : Type}

namespace TaskQueue

/-- Whether an event is neither a loan nor its end. -/
def Event.outside : Event σ → Bool
  | .create _ _ _ | .resume _ _ _ _ _ | .kill _ _ _ | .advance _ | .abort _ => true
  | .dispatch _ | .deal | .finish _ _ _ => false

/-- Whether a task comes back to be suspended. -/
def Event.suspends (id : TaskId) : Event σ → Bool
  | .finish _ t (.suspend _) => t.id = id
  | _ => false

/-- The program that a task is created with, if an event creates it. -/
def born (id : TaskId) (d : TaskQueue σ) : Event σ → List σ
  | .create clock entry program =>
    match (d.registry.create clock entry program).1 with
    | .ok i => if i = id then [program] else []
    | .error _ => []
  | _ => []

end TaskQueue

/-- A step that does nothing but tell the wake value that it is given: it completes with it. -/
def StepFn.tell : StepFn σ := fun p c => (c.wake.elim .more .complete, p, c)

/-- The wake value that a turn of a task gives to the step of its program. -/
def Task.shown (t : Task σ) (w : World σ) : Option Value :=
  match (t.turn .tell w).1 with
  | some (.complete v) => some v
  | _ => none

/-- A task on loan, and how its slice has ended, if it has. -/
structure Loan (σ : Type) where
  task : Task σ
  ended : Option SliceEnd := none

/-- The world and the tasks that are out on loan. -/
structure WorkerPool (σ : Type) where
  world : World σ
  loans : List (Loan σ) := []

namespace WorkerPool

open TaskQueue (Event Inv)

def queue (s : WorkerPool σ) : TaskQueue σ := ⟨s.world.registry, s.loans.map (·.task)⟩

/-- What can happen in the worker pool. -/
inductive Move (σ : Type) where
  /-- Someone outside acts on the registry. -/
  | call (e : Event σ)
  /-- A worker takes a task, and a slice of it begins. -/
  | lend (id : TaskId)
  /-- A task on loan takes a turn, in which its program acts on the registry. -/
  | turn (t : Task σ) (calls : List (Event σ))
  /-- A worker hands a task back whose slice has ended. -/
  | back (t : Task σ) (e : SliceEnd)
  /-- Time passes, announcements are taken, and whatever there is beside the tasks changes. -/
  | pass (clock : Clock) (store : Store) (quota : Quota) (ready : List TaskId)

/-- What the program of a task can have done to the world in its turn: it has left the settings alone, and
the registry to its operations. -/
structure Acts (s : WorkerPool σ) (calls : List (Event σ)) (w : World σ) : Prop where
  outside : ∀ e ∈ calls, e.outside = true
  run : s.queue.run calls = some ⟨w.registry, s.queue.loans⟩
  settings : w.settings = s.world.settings

/-- What a move can do, if the programs step in this way. -/
inductive Step (step : StepFn σ) (s : WorkerPool σ) : Move σ → WorkerPool σ → Prop where
  | call {e : Event σ} {d : TaskQueue σ} (ho : e.outside = true) (hs : s.queue.step e = some d) :
    Step step s (.call e) { s with world := { s.world with registry := d.registry } }
  | lend {id : TaskId} {t : Task σ} {r : Registry σ} (hd : s.world.registry.dispatch id = some (t, r)) :
    Step step s (.lend id) ⟨{ s.world with registry := r }, s.loans ++ [⟨t.fresh, none⟩]⟩
  | turn {l₁ l₂ : List (Loan σ)} {t t' : Task σ} {calls : List (Event σ)} {e : Option SliceEnd}
      {w : World σ} (hl : s.loans = l₁ ++ ⟨t, none⟩ :: l₂) (ht : t.turn step s.world = (e, t', w))
      (ha : s.Acts calls w) : Step step s (.turn t calls) ⟨w, l₁ ++ ⟨t', e⟩ :: l₂⟩
  | back {l₁ l₂ : List (Loan σ)} {t : Task σ} {e : SliceEnd} (hl : s.loans = l₁ ++ ⟨t, some e⟩ :: l₂) :
    Step step s (.back t e) ⟨s.world.finish t e, l₁ ++ l₂⟩
  | pass (clock : Clock) (store : Store) (quota : Quota) (ready : List TaskId) :
    Step step s (.pass clock store quota ready)
      { s with world :=
        { s.world with clock, store, quota, registry := { s.world.registry with ready } } }

/-- The events of the task queue that a move consists of. -/
def events (s : WorkerPool σ) : Move σ → List (Event σ)
  | .call e => [e]
  | .lend id => [.dispatch id]
  | .turn _ calls => calls
  | .back t e => [.finish s.world.clock t e]
  | .pass _ _ _ _ => []

/-- The wake value that a move gives the program of a task to see. -/
def observed (id : TaskId) (s : WorkerPool σ) : Move σ → List Value
  | .turn t _ => if t.id = id then (t.shown s.world).toList else []
  | _ => []

/-- The histories that start in a world without tasks, as they concern one task, if that is created with a
program of some kind: the wake values that its program has seen, those that the task was given when it
returned to the queue, and how often it was suspended. -/
inductive History (step : StepFn σ) (P : σ → Prop) (id : TaskId) :
    WorkerPool σ → List Value → List Value → Nat → Prop where
  | start {w : World σ} {now maxDepth : Nat} (h : w.registry = .empty now maxDepth) :
    History step P id ⟨w, []⟩ [] [] 0
  | move {s s' : WorkerPool σ} {m : Move σ} {seen given : List Value} {suspensions : Nat}
      (hc : History step P id s seen given suspensions) (hs : Step step s m s')
      (hp : ∀ p ∈ s.queue.gather (TaskQueue.born id) (s.events m), P p) :
    History step P id s' (seen ++ s.observed id m)
      (given ++ s.queue.gather (TaskQueue.requeues id) (s.events m))
      (suspensions + (s.events m).countP (·.suspends id))

/-- Whether a step of a program acts on the registry through its operations only, and leaves the settings
alone. -/
def Lawful (step : StepFn σ) : Prop :=
  ∀ p (c : Context σ) loans, ∃ calls, Acts ⟨c.world, loans⟩ calls (step p c).2.2.world

/-- Whether programs take the wake value in every step, and what is known of a program that has seen some
values holds after each step, of these and the one that the step was given. -/
structure Takes (step : StepFn σ) (P : List Value → σ → Prop) : Prop where
  taken : ∀ seen p c, P seen p → (step p c).2.2.wake = none
  stays : ∀ seen p c, P seen p → P (seen ++ c.wake.toList) (step p c).2.1

end WorkerPool

/-! ## Turns -/

/-- A turn is over before the program steps, or the program has made a step. -/
theorem Task.turn_cases (step : StepFn σ) (t : Task σ) (w : World σ) :
    (w.registry.isKilled t.id = true ∧ t.turn step w = (some .killed, t, w)) ∨
    (w.registry.isKilled t.id = false ∧ w.settings.maxTicks ≤ t.ticks ∧
      t.turn step w = (some (.outOfTicks t.ticks), t, w)) ∨
    (w.registry.isKilled t.id = false ∧ t.ticks < w.settings.maxTicks ∧
      ∃ e, e ≠ some .killed ∧ t.turn step w = (e,
        { t with
          program := (step t.program ⟨t.calls, t.wake, w⟩).2.1
          calls := (step t.program ⟨t.calls, t.wake, w⟩).2.2.calls
          wake := (step t.program ⟨t.calls, t.wake, w⟩).2.2.wake
          ticks := t.ticks + 1 },
        (step t.program ⟨t.calls, t.wake, w⟩).2.2.world)) := by
  unfold turn
  cases hk : w.registry.isKilled t.id with
  | true => exact .inl ⟨rfl, rfl⟩
  | false =>
    right
    by_cases ht : w.settings.maxTicks ≤ t.ticks
    · exact .inl ⟨rfl, ht, by simp [ht]⟩
    · refine .inr ⟨rfl, Nat.lt_of_not_le ht, ?_⟩
      simp only [Bool.false_eq_true, if_false, if_neg ht]
      generalize step t.program ⟨t.calls, t.wake, w⟩ = out
      obtain ⟨verdict, program, c⟩ := out
      cases verdict with
      | more => exact ⟨none, by simp, rfl⟩
      | suspend s => exact ⟨some (.suspend s), by simp, rfl⟩
      | complete v => exact ⟨some (.complete v), by simp, rfl⟩
      | raise f => exact ⟨some (.raise f), by simp, rfl⟩

/-- A turn keeps the number and the owner of the task, and says that the task was killed only if it was. -/
theorem Task.turn_spec {step : StepFn σ} {t t' : Task σ} {w w' : World σ} {e : Option SliceEnd}
    (ht : t.turn step w = (e, t', w')) : t'.id = t.id ∧ t'.owner = t.owner ∧
      (e = some .killed → w' = w ∧ w.registry.isKilled t.id = true) ∧
      (e = none → t'.ticks = t.ticks + 1) := by
  rcases t.turn_cases step w with ⟨hk, eq⟩ | ⟨-, -, eq⟩ | ⟨-, -, e', hne, eq⟩
  · rw [eq] at ht
    cases ht
    exact ⟨rfl, rfl, fun _ => ⟨rfl, hk⟩, nofun⟩
  · rw [eq] at ht
    cases ht
    exact ⟨rfl, rfl, nofun, nofun⟩
  · rw [eq] at ht
    obtain ⟨rfl, rest⟩ := Prod.mk.inj ht
    obtain ⟨rfl, rfl⟩ := Prod.mk.inj rest
    exact ⟨rfl, rfl, fun h => absurd h hne, fun _ => rfl⟩

/-- A turn shows the program what the task carries, unless it is over before. -/
theorem Task.shown_eq (t : Task σ) (w : World σ) : t.shown w =
    if w.registry.isKilled t.id = false ∧ t.ticks < w.settings.maxTicks then t.wake else none := by
  unfold shown turn
  cases hk : w.registry.isKilled t.id with
  | true => simp
  | false =>
    by_cases ht : w.settings.maxTicks ≤ t.ticks
    · simp [ht, Nat.not_lt.2 ht]
    · simp only [Bool.false_eq_true, if_false, if_neg ht, true_and, if_pos (Nat.lt_of_not_le ht)]
      cases t.wake with
      | none => rfl
      | some v => rfl

namespace TaskQueue

/-! ## Loans and calls from outside -/

theorem outside_step {d d' : TaskQueue σ} {e : Event σ} (ho : e.outside = true) (hs : d.step e = some d') :
    d'.loans = d.loans ∧ ∀ j ∈ d.registry.killed, j ∈ d'.registry.killed := by
  cases step_spec hs with
  | create clock entry program =>
    refine ⟨rfl, fun j m => ?_⟩
    rcases d.registry.create_cases clock entry program with e | ⟨calls, e⟩
    · rw [e]; exact m
    · rw [e]; exact m
  | dispatch => cases ho
  | deal => cases ho
  | finish => cases ho
  | resume hr => exact ⟨rfl, fun j m => by rw [(Registry.quiet_resume hr).killed]; exact m⟩
  | resumeRefused => exact ⟨rfl, fun j m => m⟩
  | kill hr =>
    obtain ⟨c, -, -, rfl⟩ := Registry.kill_eq_ok.1 hr
    exact ⟨rfl, fun j m => List.mem_append_left _ m⟩
  | killRefused => exact ⟨rfl, fun j m => m⟩
  | advance clock => exact ⟨rfl, fun j m => by rw [(Registry.quiet_advance _ clock).killed]; exact m⟩
  | abort clock => exact ⟨rfl, fun j m => List.mem_append_left _ m⟩

theorem outside_run {es : List (Event σ)} : ∀ {d d' : TaskQueue σ}, (∀ e ∈ es, e.outside = true) →
    d.run es = some d' → ∀ j ∈ d.registry.killed, j ∈ d'.registry.killed := by
  induction es with
  | nil => intro d d' _ hr; cases hr; exact fun j m => m
  | cons e es ih =>
    intro d d' ho hr j m
    obtain ⟨d₁, hs, hr'⟩ := run_cons.1 hr
    exact ih (fun e' m' => ho e' (List.mem_cons_of_mem _ m')) hr' j
      ((outside_step (ho e List.mem_cons_self) hs).2 j m)

theorem handBack_killed (r : Registry σ) (clock : Clock) (t : Task σ) (e : SliceEnd) :
    (r.handBack clock t e).killed = r.killed := by
  rcases r.handBack_cases clock t e with ⟨s, -, eq⟩ | ⟨o, -, eq⟩ | ⟨-, eq⟩
  · rw [eq]; exact (Registry.quiet_suspend r clock t s).killed
  · rw [eq, Registry.complete]; split <;> rfl
  · rw [eq]

/-- The invariant looks at the numbers and the owners of the tasks on loan only. -/
theorem Inv.relend {r : Registry σ} {loans loans' : List (Task σ)} (h : Inv ⟨r, loans⟩)
    (hp : loans'.map (fun t => (t.id, t.owner)) = loans.map fun t => (t.id, t.owner)) :
    Inv ⟨r, loans'⟩ := by
  have hcount : ∀ j, loans'.countP (·.id = j) = loans.countP (·.id = j) := by
    intro j
    have hcount := congrArg (List.countP fun x => decide (x.1 = j)) hp
    rw [List.countP_map, List.countP_map] at hcount
    exact hcount
  have hmem : ∀ t ∈ loans', ∃ l ∈ loans, l.id = t.id ∧ l.owner = t.owner := by
    intro t m
    have hm : (t.id, t.owner) ∈ loans.map fun t => (t.id, t.owner) := by
      rw [← hp]; exact List.mem_map.2 ⟨t, m, rfl⟩
    obtain ⟨l, hl, e⟩ := List.mem_map.1 hm
    exact ⟨l, hl, (Prod.mk.inj e).1, (Prod.mk.inj e).2⟩
  refine ⟨h.sorted, h.bound, ?_, ?_, h.stopped, ?_⟩
  · intro id c hc
    have hk := h.kept id c hc
    refine ⟨fun hr => ⟨(hk.lent hr).1, ?_⟩, fun hr => ⟨(hk.held hr).1, ?_⟩, ?_, hk.deadline, hk.clear⟩
    · rw [hcount]; exact (hk.lent hr).2
    · rw [hcount]; exact (hk.held hr).2
    · intro t m e
      obtain ⟨l, hl, hid, how⟩ := hmem t m
      rw [← how]; exact hk.owner l hl (hid.trans e)
  · intro t m
    obtain ⟨l, hl, hid, -⟩ := hmem t m
    rw [← hid]; exact h.loaned l hl
  · intro t m hg
    obtain ⟨l, hl, hid, -⟩ := hmem t m
    rw [← hid] at hg ⊢
    exact h.orphan l hl hg

end TaskQueue

namespace WorkerPool

open TaskQueue (Event Inv)

/-! ## What holds in the pool -/

/-- What holds of the task queue, and of the tasks on loan: no number is on loan twice, and a slice ended by the
kill switch only if it was set. -/
structure Sound (s : WorkerPool σ) : Prop where
  inv : Inv s.queue
  once : ∀ j, s.queue.loans.countP (·.id = j) ≤ 1
  stopped : ∀ l ∈ s.loans, l.ended = some .killed → l.task.id ∈ s.world.registry.killed

/-- A loan that is the only one of its number. -/
theorem Sound.split {s : WorkerPool σ} (h : Sound s) {l₁ l₂ : List (Loan σ)} {l : Loan σ}
    (hl : s.loans = l₁ ++ l :: l₂) :
    s.queue.loans.eraseP (·.id = l.task.id) = (l₁ ++ l₂).map (·.task) ∧
      ∀ x ∈ l₁ ++ l₂, x.task.id ≠ l.task.id := by
  have hd : s.queue.loans = l₁.map (·.task) ++ l.task :: l₂.map (·.task) := by
    rw [queue, hl, List.map_append, List.map_cons]
  have h1 := h.once l.task.id
  rw [hd, List.countP_append, List.countP_cons_of_pos (by simp)] at h1
  have hout : ∀ x ∈ l₁ ++ l₂, x.task.id ≠ l.task.id := by
    intro x m e
    have hpos := TaskQueue.countP_pos_of_mem (List.mem_map.2 ⟨x, m, rfl⟩ : x.task ∈ (l₁ ++ l₂).map (·.task))
    rw [e, List.map_append, List.countP_append] at hpos
    omega
  refine ⟨?_, hout⟩
  have hleft : ∀ t ∈ l₁.map (·.task), ¬ decide (t.id = l.task.id) = true := by
    intro t m
    obtain ⟨x, mx, rfl⟩ := List.mem_map.1 m
    simpa using hout x (List.mem_append_left _ mx)
  rw [hd, List.eraseP_append_right _ hleft, List.eraseP_cons_of_pos (by simp), List.map_append]

theorem Sound.step_back {s : WorkerPool σ} (h : Sound s) {l₁ l₂ : List (Loan σ)} {t : Task σ} {e : SliceEnd}
    (hl : s.loans = l₁ ++ ⟨t, some e⟩ :: l₂) : s.queue.step (.finish s.world.clock t e) =
      some (⟨s.world.finish t e, l₁ ++ l₂⟩ : WorkerPool σ).queue := by
  have hmem : (⟨t, some e⟩ : Loan σ) ∈ s.loans := by
    rw [hl]; exact List.mem_append_right _ List.mem_cons_self
  have hmay : s.queue.mayEnd t e = true := by
    refine TaskQueue.mayEnd_iff.2 ⟨⟨t, List.mem_map.2 ⟨_, hmem, rfl⟩, rfl, rfl⟩, fun he => ?_⟩
    simpa [Registry.isKilled, queue] using h.stopped _ hmem (by rw [he])
  have hqueue : (⟨s.world.finish t e, l₁ ++ l₂⟩ : WorkerPool σ).queue =
      ⟨s.world.registry.handBack s.world.clock t e, s.queue.loans.eraseP (·.id = t.id)⟩ := by
    rw [(h.split hl).1, World.finish_eq]; rfl
  rw [hqueue]
  exact if_pos hmay

theorem step_lend {s : WorkerPool σ} {id : TaskId} {t : Task σ} {r : Registry σ}
    (hd : s.world.registry.dispatch id = some (t, r)) :
    s.queue.step (.dispatch id) = some ⟨r, s.queue.loans ++ [t]⟩ := by
  simp [TaskQueue.step, TaskQueue.lend, queue, hd]

theorem sound_step {step : StepFn σ} {s s' : WorkerPool σ} {m : Move σ} (h : Sound s) (hs : Step step s m s') :
    Sound s' := by
  cases hs with
  | @call e d ho hs =>
    obtain ⟨hloans, hk⟩ := TaskQueue.outside_step ho hs
    have hi := TaskQueue.inv_step h.inv hs
    obtain ⟨r, loans⟩ := d
    subst hloans
    exact ⟨hi, h.once, fun l m he => hk _ (h.stopped l m he)⟩
  | @lend id t r hd =>
    have hi := TaskQueue.inv_step h.inv (step_lend hd)
    obtain ⟨c, hc, hq, ht, rfl⟩ := Registry.dispatch_eq_some.1 hd
    refine ⟨hi.relend (by simp [queue, Task.fresh]), fun j => ?_, fun l m he => ?_⟩
    · -- a queued task is not on loan
      obtain ⟨⟨t', ht', hid, -⟩, h0⟩ := (h.inv.kept id c hc).held (by rw [hq]; decide)
      rw [ht] at ht'
      cases ht'
      have hj := h.once j
      simp only [queue, List.map_append, List.map_cons, List.map_nil, List.countP_append,
        List.countP_singleton] at h0 hj ⊢
      by_cases e : j = id
      · subst e; rw [h0]; split <;> simp
      · have hne : t.fresh.id ≠ j := fun e' => e (e'.symm.trans hid)
        simpa [hne] using hj
    · rcases List.mem_append.1 m with m | m
      · exact h.stopped l m he
      · rw [List.mem_singleton.1 m] at he; cases he
  | @turn l₁ l₂ t t' calls e w hl ht ha =>
    obtain ⟨hid, how, hkill, -⟩ := Task.turn_spec ht
    refine ⟨(h.inv.run ha.run).relend ?_, fun j => ?_, fun l m he => ?_⟩
    · rw [queue, hl]; simp [hid, how]
    · have hj := h.once j
      rw [queue, hl] at hj
      simpa [queue, List.countP_append, List.countP_cons, hid] using hj
    · have hold : ∀ l ∈ s.loans, l.ended = some .killed → l.task.id ∈ w.registry.killed :=
        fun l m he => TaskQueue.outside_run ha.outside ha.run _ (h.stopped l m he)
      rw [hl] at hold
      rcases List.mem_cons.1 (List.perm_middle.mem_iff.1 m) with rfl | m
      · obtain ⟨rfl, hk⟩ := hkill he
        rw [← hid] at hk
        simpa [Registry.isKilled] using hk
      · exact hold l (List.perm_middle.mem_iff.2 (List.mem_cons_of_mem _ m)) he
  | @back l₁ l₂ t e hl =>
    have hs := h.step_back hl
    refine ⟨TaskQueue.inv_step h.inv hs, fun j => ?_, fun l m he => ?_⟩
    · have hj := h.once j
      rw [queue, hl] at hj
      simp only [queue, List.map_append, List.map_cons, List.countP_append, List.countP_cons] at hj ⊢
      omega
    · have hold : l ∈ s.loans := by
        rw [hl]; exact List.perm_middle.mem_iff.2 (List.mem_cons_of_mem _ m)
      rw [World.finish_eq]
      show l.task.id ∈ (s.world.registry.handBack s.world.clock t e).killed
      rw [TaskQueue.handBack_killed]
      exact h.stopped l hold he
  | pass clock store quota ready =>
    have hi := h.inv
    exact ⟨⟨hi.sorted, hi.bound, hi.kept, hi.loaned, hi.stopped, hi.orphan⟩, h.once, h.stopped⟩

theorem history_sound {step : StepFn σ} {P : σ → Prop} {id : TaskId} {s : WorkerPool σ}
    {seen given : List Value} {n : Nat} (hc : History step P id s seen given n) : Sound s := by
  induction hc with
  | @start w now maxDepth h =>
    have hd : (⟨w, []⟩ : WorkerPool σ).queue = TaskQueue.empty now maxDepth := by rw [queue, h]; rfl
    exact ⟨by rw [hd]; exact TaskQueue.inv_empty now maxDepth, fun j => Nat.zero_le _, fun l m => by cases m⟩
  | move _ hs _ ih => exact sound_step ih hs

end WorkerPool

end MooWorld
