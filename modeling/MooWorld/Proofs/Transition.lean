import MooWorld.Proofs.Outcome
import MooWorld.Proofs.Wheel
/-!
# What a step does to one task

A step leaves a task alone, or it takes it one way round its life: created, lent out, suspended, woken,
and in the end gone. `Transition` names these ways, with the event that takes the task there, and
`step_transition` says that there are no others; what follows over whole runs is then a matter of a few
cases. One is that numbers and generations count events, and fit in a word for as long as a run can be
expected to go on (`counters_fit`). `gather` collects something from every step of a run.
-/
namespace MooWorld

variable {σ : Type}

namespace Registry

/-! ## Timers that fire, seen by one task -/

/-- A timer that fires leaves a task alone, or wakes it from the suspension that the timer belongs to. -/
theorem fire_find? (clock : Clock) (s : Registry σ × Nat × Nat) (x : Timer) (id : TaskId) :
    (fire clock s x).1.find? id = s.1.find? id ∨
    ∃ c, s.1.find? id = some c ∧ c.status = .suspended ∧ x.key = (id, c.generation) ∧
      (fire clock s x).1.find? id = some (c.requeue clock (.int 0)) := by
  obtain ⟨r, woken, ignored⟩ := s
  rcases fire_cases clock r woken ignored x with ⟨c, hc, hs, hg, e⟩ | ⟨-, e⟩
  · rw [e]
    by_cases h : id = x.task
    · subst h
      exact .inr ⟨c, hc, hs, Timer.key_eq.2 ⟨rfl, hg.symm⟩, find?_put_self _ hc⟩
    · exact .inl (find?_put_of_ne _ h)
  · rw [e]; exact .inl rfl

theorem foldl_fire_find? (clock : Clock) (id : TaskId) :
    ∀ (l : List Timer) (s : Registry σ × Nat × Nat),
      (l.foldl (fire clock) s).1.find? id = s.1.find? id ∨
      ∃ c, s.1.find? id = some c ∧ c.status = .suspended ∧
        (l.foldl (fire clock) s).1.find? id = some (c.requeue clock (.int 0))
  | [], _ => .inl rfl
  | x :: l, s => by
    rw [List.foldl_cons]
    rcases foldl_fire_find? clock id l (fire clock s x) with hl | ⟨c', hc', hs', hl⟩
    · rw [hl]
      rcases fire_find? clock s x id with h | ⟨c, hc, hs, -, h⟩
      · exact .inl h
      · exact .inr ⟨c, hc, hs, h⟩
    · -- a task that was woken is queued, so that no other timer wakes it
      rcases fire_find? clock s x id with h | ⟨c, hc, hs, -, h⟩
      · exact .inr ⟨c', h.symm.trans hc', hs', hl⟩
      · rw [h] at hc'; cases hc'; cases hs'

theorem advance_find? (r : Registry σ) (clock : Clock) (id : TaskId) :
    (r.advance clock).2.find? id = r.find? id ∨
    ∃ c, r.find? id = some c ∧ c.status = .suspended ∧
      (r.advance clock).2.find? id = some (c.requeue clock (.int 0)) := by
  have hf : (r.advance clock).2.find? id = (r.fired clock).1.find? id := by
    rw [advance_eq, compact_eq]; rfl
  rw [hf]
  exact foldl_fire_find? clock id _ _

end Registry

namespace TaskQueue

/-! ## The ways of a task -/

/-- What an event can make of what is known of a task. -/
inductive Transition : TaskId → Event σ → Option (Control σ) → Option (Control σ) → Prop where
  | same {id : TaskId} {e : Event σ} (known : Option (Control σ)) : Transition id e known known
  | created {id : TaskId} {clock : Clock} {entry : Frame} {program : σ} {c : Control σ} {t : Task σ}
      (hq : c.status = .queued) (ht : c.task = some t) (hw : t.wake = none) (hp : t.program = program)
      (hg : c.generation = 0) :
    Transition id (.create clock entry program) none (some c)
  | lent {id : TaskId} {e : Event σ} {c : Control σ} (he : e = .dispatch id ∨ e = .deal)
      (hq : c.status = .queued) : Transition id e (some c) (some c.lent)
  | parked {clock : Clock} {t : Task σ} {s : Suspension} {c : Control σ} (deadline : Option Nat)
      (hr : c.status = .running) :
    Transition t.id (.finish clock t (.suspend s)) (some c) (some (c.parked t deadline))
  /-- The delay was over at once. -/
  | returned {clock : Clock} {t : Task σ} {s : Suspension} {c : Control σ} (deadline : Option Nat)
      (hr : c.status = .running) :
    Transition t.id (.finish clock t (.suspend s)) (some c)
      (some ((c.parked t deadline).requeue clock (.int 0)))
  | resumed {id : TaskId} {clock : Clock} {v : Value} {who : Obj} {wizard : Bool} {c : Control σ}
      (hs : c.status = .suspended) :
    Transition id (.resume clock id v who wizard) (some c) (some (c.requeue clock v))
  | expired {id : TaskId} {clock : Clock} {c : Control σ} (hs : c.status = .suspended) :
    Transition id (.advance clock) (some c) (some (c.requeue clock (.int 0)))
  | completed {clock : Clock} {t : Task σ} {how : SliceEnd} {c : Control σ} {o : Outcome}
      (ho : how.outcome? t = some o) (hr : c.status = .running) :
    Transition t.id (.finish clock t how) (some c) none
  | killed {id : TaskId} {who : Obj} {wizard : Bool} (c : Control σ) :
    Transition id (.kill id who wizard) (some c) none
  | aborted {id : TaskId} {clock : Clock} (c : Control σ) :
    Transition id (.abort clock) (some c) none

theorem transition_create (r : Registry σ) (hnew : r.find? r.nextId = none) (clock : Clock)
    (entry : Frame) (program : σ) (id : TaskId) :
    Transition id (.create clock entry program) (r.find? id)
      ((r.create clock entry program).2.find? id) := by
  rcases r.create_cases clock entry program with e | ⟨calls, e⟩
  · rw [e]; exact .same _
  · rw [e, Registry.find?_enroll]
    by_cases h : id = r.nextId
    · subst h
      rw [hnew, if_pos rfl]
      exact .created rfl rfl rfl rfl rfl
    · rw [if_neg h, Option.or_none]
      exact .same _

theorem transition_lend (d : TaskQueue σ) {e : Event σ} {id : TaskId} (he : e = .dispatch id ∨ e = .deal)
    (j : TaskId) : Transition j e (d.registry.find? j) ((d.lend id).registry.find? j) := by
  rcases d.lend_cases id with ⟨c, t, hc, hq, -, eq⟩ | ⟨-, eq⟩
  · rw [eq]
    by_cases h : j = id
    · subst h
      rw [hc, Registry.find?_put_self _ hc]
      exact .lent he hq
    · rw [Registry.find?_put_of_ne _ h]
      exact .same _
  · rw [eq]; exact .same _

theorem transition_suspend (r : Registry σ) (clock : Clock) (t : Task σ) (s : Suspension)
    (id : TaskId) : Transition id (.finish clock t (.suspend s)) (r.find? id)
      ((r.suspend clock t s).find? id) := by
  rcases r.suspend_cases clock t s with ⟨-, e⟩ | ⟨c, hc, hr, hs⟩
  · rw [e]; exact .same _
  · -- all three ways put one control back for the task
    have put : ∀ c', (id = t.id → Transition t.id (.finish clock t (.suspend s)) (some c) (some c')) →
        Transition id (.finish clock t (.suspend s)) (r.find? id) ((r.put t.id c').find? id) := by
      intro c' h
      by_cases hid : id = t.id
      · subst hid
        rw [hc, Registry.find?_put_self _ hc]
        exact h rfl
      · rw [Registry.find?_put_of_ne _ hid]
        exact .same _
    rcases hs with ⟨-, e⟩ | ⟨delay, date, timers, -, -, -, -, e⟩ | ⟨delay, date, -, -, -, e⟩
    · rw [e]; exact put _ fun _ => .parked none hr
    · rw [e]; exact put _ fun _ => .parked (some date) hr
    · rw [e]; exact put _ fun _ => .returned (some date) hr

theorem transition_drop {r r' : Registry σ} {e : Event σ} {id : TaskId} {c : Control σ}
    (hr : r'.tasks = (r.drop id).tasks) (hc : r.find? id = some c) (ht : Transition id e (some c) none)
    (j : TaskId) : Transition j e (r.find? j) (r'.find? j) := by
  rw [Registry.find?_congr hr, Registry.find?_drop]
  by_cases h : j = id
  · subst h
    rw [if_pos rfl, hc]
    exact ht
  · rw [if_neg h]; exact .same _

/-- What a step does to a task. -/
theorem step_transition {d d' : TaskQueue σ} {e : Event σ} (hi : Inv d) (hs : d.step e = some d')
    (id : TaskId) : Transition id e (d.registry.find? id) (d'.registry.find? id) := by
  cases step_spec hs with
  | create clock entry program => exact transition_create _ hi.find?_nextId clock entry program id
  | dispatch j => exact transition_lend d (.inl rfl) id
  | @deal j rest _ =>
    exact transition_lend { d with registry := { d.registry with ready := rest } } (.inr rfl) id
  | @finish clock t e hm =>
    obtain ⟨⟨l, hl, hid, -⟩, -⟩ := mayEnd_iff.1 hm
    show Transition id _ _ ((d.registry.handBack clock t e).find? id)
    rcases d.registry.handBack_cases clock t e with ⟨s, rfl, eq⟩ | ⟨o, ho, eq⟩ | ⟨-, eq⟩
    · rw [eq]; exact transition_suspend _ clock t s id
    · rw [eq]
      cases hc : d.registry.find? t.id with
      | none => rw [Registry.complete_of_not_live o hc]; exact .same _
      | some c =>
        rw [Registry.complete_of_find? o hc]
        exact transition_drop rfl hc (.completed ho ((hi.kept _ c hc).running hl hid)) id
    · rw [eq]; exact .same _
  | @resume clock j v who wizard r hr =>
    obtain ⟨c, hc, -, hsusp, rfl⟩ := Registry.resume_eq_ok.1 hr
    rw [Registry.cancelTimer_eq]
    show Transition id _ _ ((d.registry.put j (c.requeue clock v)).find? id)
    by_cases h : id = j
    · subst h
      rw [hc, Registry.find?_put_self _ hc]
      exact .resumed hsusp
    · rw [Registry.find?_put_of_ne _ h]
      exact .same _
  | resumeRefused => exact .same _
  | @kill j who wizard r hr =>
    obtain ⟨c, hc, -, rfl⟩ := Registry.kill_eq_ok.1 hr
    rw [Registry.cancelTimer_eq]
    exact transition_drop rfl hc (.killed c) id
  | killRefused => exact .same _
  | advance clock =>
    show Transition id _ _ ((d.registry.advance clock).2.find? id)
    rcases d.registry.advance_find? clock id with h | ⟨c, hc, hsusp, h⟩
    · rw [h]; exact .same _
    · rw [h, hc]; exact .expired hsusp
  | abort clock =>
    show Transition id _ _ none
    cases d.registry.find? id with
    | none => exact .same none
    | some c => exact .aborted c

/-- A number that was used is not given to a new task. -/
theorem find?_step_eq_none {d d' : TaskQueue σ} {e : Event σ} {id : TaskId} (hi : Inv d)
    (hs : d.step e = some d') (hid : id < d.registry.nextId) (h : d.registry.find? id = none) :
    d'.registry.find? id = none :=
  Registry.valid_eq_false.1 (step_gone hi hs (Registry.valid_eq_false.2 h) hid).1

/-! ## Along a run -/

theorem Inv.run {d d' : TaskQueue σ} {es : List (Event σ)} (hi : Inv d) (hr : d.run es = some d') : Inv d' :=
  run_induct (P := Inv) (Q := fun _ => True) (fun _ _ _ hi _ hs => inv_step hi hs) es d d' hi
    (fun _ _ => trivial) hr

/-! ## Counters -/

/-- After some events no more numbers were given out than there were events, and no task is of a higher
generation. A task on loan is one generation behind, for it may be suspended and return at once. -/
structure Counters (d : TaskQueue σ) (events : Nat) : Prop where
  nextId : d.registry.nextId ≤ events + 1
  generation : ∀ id c, d.registry.find? id = some c →
    c.generation + (if c.status = .running then 1 else 0) ≤ events

theorem counters_step {d d' : TaskQueue σ} {e : Event σ} {events : Nat} (hi : Inv d) (h : Counters d events)
    (hs : d.step e = some d') : Counters d' (events + 1) := by
  refine ⟨?_, fun id c' hc' => ?_⟩
  · rcases nextId_step hs with e | e
    · rw [e]; exact Nat.le_succ_of_le h.nextId
    · rw [e]; exact Nat.succ_le_succ h.nextId
  · have ht := step_transition hi hs id
    rw [hc'] at ht
    have hgen := h.generation id
    generalize d.registry.find? id = before at ht hgen
    cases ht with
    | same => exact Nat.le_succ_of_le (hgen c' rfl)
    | created hq _ _ _ hg => simp [hq, hg]
    | @lent _ _ c he hq =>
      have hc := hgen c rfl
      simpa [hq, Control.lent] using hc
    | @parked _ _ _ c deadline hr =>
      have hc := hgen c rfl
      simp only [hr, if_true] at hc
      simpa [Control.parked] using Nat.le_succ_of_le hc
    | @returned _ _ _ c deadline hr =>
      have hc := hgen c rfl
      simp only [hr, if_true] at hc
      simpa [Control.parked, Control.requeue] using hc
    | @resumed _ _ _ _ _ c hsusp =>
      have hc := hgen c rfl
      simpa [hsusp, Control.requeue] using hc
    | @expired _ _ c hsusp =>
      have hc := hgen c rfl
      simpa [hsusp, Control.requeue] using hc

theorem counters_run : ∀ {es : List (Event σ)} {d d' : TaskQueue σ} {events : Nat}, Inv d → Counters d events →
    d.run es = some d' → Counters d' (events + es.length)
  | [], d, d', events, _, h, hr => by cases hr; exact h
  | e :: es, d, d', events, hi, h, hr => by
    obtain ⟨d₁, hs, hr'⟩ := run_cons.1 hr
    have h₁ := counters_run (inv_step hi hs) (counters_step hi h hs) hr'
    rwa [Nat.add_assoc, Nat.add_comm 1] at h₁

/-- As long as fewer events have happened than a word of 64 bits counts, less one, all numbers of tasks and
all generations fit in a word. -/
theorem counters_fit {now maxDepth : Nat} {es : List (Event σ)} {d : TaskQueue σ}
    (h : (empty now maxDepth).run es = some d) (hlen : es.length + 1 < UInt64.size) :
    d.registry.nextId < UInt64.size ∧
      ∀ id c, d.registry.find? id = some c → id < UInt64.size ∧ c.generation < UInt64.size := by
  have hcount := counters_run (inv_empty now maxDepth) ⟨Nat.le_refl _, fun id c hc => by cases hc⟩ h
  rw [Nat.zero_add] at hcount
  have hnext : d.registry.nextId < UInt64.size := Nat.lt_of_le_of_lt hcount.nextId hlen
  refine ⟨hnext, fun id c hc => ⟨Nat.lt_trans ((inv_run h).bound id c hc) hnext, ?_⟩⟩
  have hgen := Nat.le_trans (Nat.le_add_right _ _) (hcount.generation id c hc)
  exact Nat.lt_of_le_of_lt hgen (Nat.lt_of_succ_lt hlen)

/-! ## Gathering -/

/-- What each step of a run gives, one after the other. -/
def gather {α : Type} (f : TaskQueue σ → Event σ → List α) : TaskQueue σ → List (Event σ) → List α
  | _, [] => []
  | d, e :: es => f d e ++ ((d.step e).map (gather f · es)).getD []

theorem gather_cons {α : Type} {f : TaskQueue σ → Event σ → List α} {d d' : TaskQueue σ} {e : Event σ}
    (hs : d.step e = some d') (es : List (Event σ)) :
    d.gather f (e :: es) = f d e ++ d'.gather f es := by
  simp [gather, hs]

theorem gather_singleton {α : Type} (f : TaskQueue σ → Event σ → List α) (d : TaskQueue σ) (e : Event σ) :
    d.gather f [e] = f d e := by
  cases hs : d.step e <;> simp [gather, hs]

end TaskQueue

end MooWorld
