import MooWorld.Proofs.TaskControl
import MooWorld.Proofs.TimerCount
import MooWorld.Proofs.Transition
/-!
# A suspension ends once

A suspension is known by its task and by a generation (`suspension?`). It is over when its task is
suspended no longer or in another generation, and `endings` collects from a run what ended each suspension
of a task, timer by timer where the wheel is moved on. The generation of a task grows whenever it is
suspended and whenever it returns to the queue, and its number is not given out again; so once a suspension
is over it is `Past` for good, no other suspension of the task has its generation, and a timer that was set
for it finds nothing to wake (`suspension_once`).
-/
namespace MooWorld

variable {σ : Type}

namespace Registry

/-- The generation of the suspension that a task is in. -/
def suspension? (r : Registry σ) (id : TaskId) : Option Nat :=
  ((r.find? id).filter (·.status = .suspended)).map (·.generation)

/-- The suspension of a task that runs in one registry and not in another. -/
def ended (r r' : Registry σ) (id : TaskId) : Option Nat :=
  (r.suspension? id).filter fun g => r'.suspension? id ≠ some g

/-- The suspensions of a task that end while timers fire, each with the timer that ended it. -/
def expiries (clock : Clock) (id : TaskId) : Registry σ × Nat × Nat → List Timer → List (Nat × Timer)
  | _, [] => []
  | s, x :: l =>
    ((s.1.ended (fire clock s x).1 id).map (·, x)).toList ++ expiries clock id (fire clock s x) l

/-- A task of a number that was used is not live, or has left a generation behind. -/
structure Past (r : Registry σ) (id : TaskId) (g : Nat) : Prop where
  used : id < r.nextId
  later : ∀ c, r.find? id = some c → g < c.generation

theorem suspension?_eq_some {r : Registry σ} {id : TaskId} {g : Nat} : r.suspension? id = some g ↔
    ∃ c, r.find? id = some c ∧ c.status = .suspended ∧ c.generation = g := by
  simp only [suspension?, Option.map_eq_some_iff, Option.filter_eq_some_iff, decide_eq_true_eq, and_assoc]

theorem suspension?_of_find? {r : Registry σ} {id : TaskId} {c : Control σ} (h : r.find? id = some c) :
    r.suspension? id = if c.status = .suspended then some c.generation else none := by
  by_cases hs : c.status = .suspended <;> simp [suspension?, h, Option.filter, hs]

theorem suspension?_of_not_live {r : Registry σ} {id : TaskId} (h : r.find? id = none) :
    r.suspension? id = none := by
  simp [suspension?, h]

theorem suspension?_congr {r r' : Registry σ} {id : TaskId} (h : r'.find? id = r.find? id) :
    r'.suspension? id = r.suspension? id := by
  simp [suspension?, h]

theorem ended_of_eq {r r' : Registry σ} {id : TaskId} (h : r'.suspension? id = r.suspension? id) :
    r.ended r' id = none := by
  rw [ended, h, Option.filter_eq_none_iff]
  intro g hg
  simp [hg]

theorem ended_of_none {r r' : Registry σ} {id : TaskId} (h : r'.suspension? id = none) :
    r.ended r' id = r.suspension? id := by
  cases hg : r.suspension? id <;> simp [ended, h, hg, Option.filter]

theorem Past.ne {r : Registry σ} {id : TaskId} {g : Nat} (h : r.Past id g) :
    r.suspension? id ≠ some g := by
  intro hg
  obtain ⟨c, hc, -, rfl⟩ := suspension?_eq_some.1 hg
  exact Nat.lt_irrefl _ (h.later c hc)

theorem Past.lt {r : Registry σ} {id : TaskId} {g g' : Nat} (h : r.Past id g)
    (hg : r.suspension? id = some g') : g < g' := by
  obtain ⟨c, hc, -, rfl⟩ := suspension?_eq_some.1 hg
  exact h.later c hc

/-- One who may not control a live task is told so, in whatever state it is. -/
theorem resume_of_stranger {r : Registry σ} {id : TaskId} {c : Control σ} {who : Obj} {wizard : Bool}
    (hc : r.find? id = some c) (hn : ¬ (c.owner = who ∨ wizard = true)) (clock : Clock) (v : Value) :
    r.resume clock id v who wizard = .error (.permissionDenied id) :=
  refusal?_eq_some.1 ((ruling_resume r clock id v who wizard).unique (.stranger hc hn))

/-- Anyone else is told that there is nothing to resume, unless the task is suspended. -/
theorem resume_of_suspension?_none {r : Registry σ} {id : TaskId} {who : Obj} {wizard : Bool}
    (h : r.suspension? id = none)
    (ha : ∀ c, r.find? id = some c → c.owner = who ∨ wizard = true) (clock : Clock) (v : Value) :
    r.resume clock id v who wizard = .error (.notFound id) := by
  have hruling := ruling_resume r clock id v who wizard
  cases hc : r.find? id with
  | none => exact refusal?_eq_some.1 (hruling.unique (.unknown hc))
  | some c =>
    have hs : c.status ≠ .suspended := fun hs => by
      rw [suspension?_eq_some.2 ⟨c, hc, hs, rfl⟩] at h; cases h
    exact refusal?_eq_some.1 (hruling.unique (.unfit hc (ha c hc) hs))

/-! ## Timers -/

theorem expiries_cases (clock : Clock) (id : TaskId) :
    ∀ (l : List Timer) (s : Registry σ × Nat × Nat),
      (expiries clock id s l = [] ∧
        (l.foldl (fire clock) s).1.suspension? id = s.1.suspension? id) ∨
      ∃ g x, expiries clock id s l = [(g, x)] ∧ x.key = (id, g) ∧ s.1.suspension? id = some g ∧
        (l.foldl (fire clock) s).1.suspension? id = none
  | [], s => .inl ⟨rfl, rfl⟩
  | x :: l, s => by
    rw [expiries, List.foldl_cons]
    rcases fire_find? clock s x id with h | ⟨c, hc, hs, hk, h⟩
    · have hsame := suspension?_congr h
      rw [ended_of_eq hsame, ← hsame]
      exact expiries_cases clock id l (fire clock s x)
    · -- this timer ends the suspension, so that those after it find none
      have hnone : (fire clock s x).1.suspension? id = none := suspension?_of_find? h
      have hg : s.1.suspension? id = some c.generation := suspension?_eq_some.2 ⟨c, hc, hs, rfl⟩
      rw [ended_of_none hnone, hg]
      rcases expiries_cases clock id l (fire clock s x) with ⟨he, hl⟩ | ⟨g, y, -, -, hy, -⟩
      · exact .inr ⟨c.generation, x, by rw [he]; rfl, hk, rfl, hl.trans hnone⟩
      · rw [hnone] at hy; cases hy

theorem Past.foldl_fire {r : Registry σ} {id : TaskId} {g : Nat} (h : r.Past id g) (clock : Clock)
    (l : List Timer) (woken ignored : Nat) : (l.foldl (fire clock) (r, woken, ignored)).1.Past id g := by
  refine ⟨?_, fun c' hc' => ?_⟩
  · exact foldl_fire_induct (P := fun r => id < r.nextId) clock (fun _ _ _ h _ _ => h) l r _ _ h.used
  · rcases foldl_fire_find? clock id l (r, woken, ignored) with e | ⟨c, hc, -, e⟩
    · exact h.later c' (e.symm.trans hc')
    · rw [hc'] at e
      cases e
      exact Nat.lt_succ_of_lt (h.later c hc)

/-- A timer of a suspension that is past is ignored. -/
theorem Past.fire {r : Registry σ} {id : TaskId} {g : Nat} (h : r.Past id g) (clock : Clock)
    (woken ignored : Nat) {x : Timer} (hx : x.key = (id, g)) :
    fire clock (r, woken, ignored) x = (r, woken, ignored + 1) := by
  obtain ⟨rfl, rfl⟩ := Timer.key_eq.1 hx
  rcases fire_cases clock r woken ignored x with ⟨c, hc, -, hg, -⟩ | ⟨-, e⟩
  · exact absurd hg (Nat.ne_of_gt (h.later c hc))
  · exact e

/-- A timer that is set when a task is suspended belongs to this suspension. -/
theorem suspend_pending (r : Registry σ) (clock : Clock) (t : Task σ) (s : Suspension) {x : Timer}
    (hx : x ∈ (r.suspend clock t s).timers.pending) : x ∈ r.timers.pending ∨
      x.task = t.id ∧ (r.suspend clock t s).suspension? t.id = some x.generation := by
  rcases r.suspend_cases clock t s with ⟨-, e⟩ | ⟨c, hc, -, hs⟩
  · rw [e] at hx; exact .inl hx
  · rcases hs with ⟨-, e⟩ | ⟨delay, date, timers, -, -, -, hins, e⟩ | ⟨delay, date, -, -, -, e⟩
    · rw [e] at hx; exact .inl hx
    · obtain ⟨due, rfl⟩ := Timers.insert?_eq_some hins
      rw [e] at hx ⊢
      rcases List.mem_append.1 hx with m | m
      · exact .inl m
      · rw [List.mem_singleton.1 m]
        have hp : (r.put t.id (c.parked t (some date))).find? t.id = _ := find?_put_self _ hc
        exact .inr ⟨rfl, suspension?_of_find? hp⟩
    · rw [e] at hx; exact .inl hx

/-- A timer that is there after the timers were moved on was there before, or was set for a suspension
that is running. -/
theorem advance_pending {r : Registry σ} (clock : Clock) (hn : (r.advance clock).2.ids.Nodup) {x : Timer}
    (hx : x ∈ (r.advance clock).2.timers.pending) : x ∈ r.timers.pending ∨
      (r.advance clock).2.suspension? x.task = some x.generation := by
  have htimers : (r.fired clock).1.timers = (r.timers.advance clock.now).2 :=
    foldl_fire_induct (P := fun r' => r'.timers = (r.timers.advance clock.now).2) clock
      (fun _ _ _ h _ _ => h) _ _ 0 0 rfl
  rw [advance_eq] at hx hn ⊢
  generalize hr' : (r.fired clock).1.uncount (r.fired clock).2.2 = r' at hx hn ⊢
  have hpending : r'.timers.pending = (r.timers.advance clock.now).2.pending := by
    rw [← hr', ← htimers]; rfl
  simp only [compact] at hx hn ⊢
  split at hx
  · left
    rw [hpending] at hx
    exact (r.timers.advance_perm clock.now).mem_iff.1 (List.mem_append_right _ hx)
  · rename_i hlt
    right
    rw [if_neg hlt] at hn ⊢
    have hk := (Timers.rebuild_spec clock.now (millis_le_timedSuspensions r' clock)).1
    have hm : (x.task, x.generation) ∈ (r'.timedSuspensions clock).map fun e => (e.1, e.2.1) := by
      rw [← hk]; exact List.mem_map.2 ⟨x, hx, rfl⟩
    obtain ⟨c, hc, hs, -, hg⟩ := (mem_timedSuspensions hn).1 hm
    exact suspension?_eq_some.2 ⟨c, hc, hs, hg⟩

end Registry

namespace TaskQueue

open Registry

/-! ## What ends a suspension -/

/-- What ended a suspension. -/
inductive Ending (σ : Type) where
  | event (e : Event σ)
  | timer (x : Timer)

/-- What may end a suspension: that the task is resumed or killed, that everything is shut down, or the
expiry of a timer of this suspension. -/
def Ending.Ends (id : TaskId) (g : Nat) : Ending σ → Prop
  | .event (.resume _ i _ _ _) => i = id
  | .event (.kill i _ _) => i = id
  | .event (.abort _) => True
  | .event _ => False
  | .timer x => x.key = (id, g)

/-- The suspensions of a task that an event ends. -/
def endings (id : TaskId) (d : TaskQueue σ) : Event σ → List (Nat × Ending σ)
  | .advance clock =>
    let (fired, timers) := d.registry.timers.advance clock.now
    (expiries clock id ({ d.registry with timers }, 0, 0) fired).map fun p => (p.1, .timer p.2)
  | e => ((d.step e).bind fun d' => d.registry.ended d'.registry id).toList.map fun g => (g, .event e)

theorem endings_of_ne_advance {d d' : TaskQueue σ} {e : Event σ} (hne : ∀ clock, e ≠ .advance clock)
    (hs : d.step e = some d') (id : TaskId) : d.endings id e =
      (d.registry.ended d'.registry id).toList.map fun g => (g, .event e) := by
  cases e with
  | advance clock => exact absurd rfl (hne clock)
  | _ => simp only [endings, hs, Option.bind_some]

/-- A step leaves the suspension of a task as it is, or the task was in none, or it is over. -/
theorem step_suspension {d d' : TaskQueue σ} {e : Event σ} (hi : Inv d) (hs : d.step e = some d')
    (id : TaskId) : d'.registry.suspension? id = d.registry.suspension? id ∨
      d.registry.suspension? id = none ∨
      (d'.registry.suspension? id = none ∧
        ((∃ clock, e = .advance clock) ∨ ∀ g, (Ending.event e).Ends id g)) := by
  have ht := step_transition hi hs id
  generalize hb : d.registry.find? id = before, ha : d'.registry.find? id = after at ht
  have idle : ∀ c, d.registry.find? id = some c → c.status ≠ .suspended →
      d.registry.suspension? id = none := fun c hc hne => by rw [suspension?_of_find? hc, if_neg hne]
  cases ht with
  | same => exact .inl (suspension?_congr (ha.trans hb.symm))
  | created => exact .inr (.inl (suspension?_of_not_live hb))
  | lent he hq => exact .inr (.inl (idle _ hb (by rw [hq]; decide)))
  | parked deadline hr => exact .inr (.inl (idle _ hb (by rw [hr]; decide)))
  | returned deadline hr => exact .inr (.inl (idle _ hb (by rw [hr]; decide)))
  | resumed => exact .inr (.inr ⟨suspension?_of_find? ha, .inr fun _ => rfl⟩)
  | expired => exact .inr (.inr ⟨suspension?_of_find? ha, .inl ⟨_, rfl⟩⟩)
  | completed ho hr => exact .inr (.inl (idle _ hb (by rw [hr]; decide)))
  | killed c => exact .inr (.inr ⟨suspension?_of_not_live ha, .inr fun _ => rfl⟩)
  | aborted c => exact .inr (.inr ⟨suspension?_of_not_live ha, .inr fun _ => trivial⟩)

/-- An event ends no suspension of a task, or that which the task is in. -/
theorem step_endings {d d' : TaskQueue σ} {e : Event σ} (hi : Inv d) (hs : d.step e = some d') (id : TaskId) :
    (d.endings id e = [] ∧ ∀ g, d.registry.suspension? id = some g → d'.registry.suspension? id = some g) ∨
    ∃ g how, d.endings id e = [(g, how)] ∧ how.Ends id g ∧ d.registry.suspension? id = some g ∧
      d'.registry.suspension? id = none := by
  by_cases hadv : ∃ clock, e = .advance clock
  · obtain ⟨clock, rfl⟩ := hadv
    cases step_spec hs
    have hd' : (d.registry.advance clock).2.suspension? id = (d.registry.fired clock).1.suspension? id := by
      rw [advance_eq, compact_eq]; rfl
    rw [hd']
    rcases expiries_cases clock id (d.registry.timers.advance clock.now).1
      ({ d.registry with timers := (d.registry.timers.advance clock.now).2 }, 0, 0) with
      ⟨he, hsame⟩ | ⟨g, x, he, hk, hg, hnone⟩
    · exact .inl ⟨by simp only [endings, he, List.map_nil], fun g hg => hsame.trans hg⟩
    · exact .inr ⟨g, .timer x, by simp only [endings, he]; rfl, hk, hg, hnone⟩
  · rw [endings_of_ne_advance (fun clock h => hadv ⟨clock, h⟩) hs]
    cases hg : d.registry.suspension? id with
    | none => exact .inl ⟨by simp [ended, hg], by simp⟩
    | some g =>
      rcases step_suspension hi hs id with h | h | ⟨hnone, h⟩
      · exact .inl ⟨by rw [ended_of_eq h]; rfl, fun g' hg' => by rw [h, hg, hg']⟩
      · rw [hg] at h; cases h
      · refine .inr ⟨g, .event e, ?_, h.resolve_left hadv g, rfl, hnone⟩
        rw [ended_of_none hnone, hg]; rfl

theorem ends_of_mem_endings {es : List (Event σ)} : ∀ {d d' : TaskQueue σ}, Inv d → d.run es = some d' →
    ∀ id g how, (g, how) ∈ d.gather (endings id) es → how.Ends id g := by
  induction es with
  | nil => intro d d' _ _ id g how m; cases m
  | cons e es ih =>
    intro d d' hi hr id g how m
    obtain ⟨d₁, hs, hr'⟩ := run_cons.1 hr
    rw [gather_cons hs] at m
    rcases List.mem_append.1 m with m | m
    · rcases step_endings hi hs id with ⟨he, -⟩ | ⟨g', how', he, hends, -, -⟩
      · rw [he] at m; cases m
      · rw [he] at m
        cases List.mem_singleton.1 m
        exact hends
    · exact ih (inv_step hi hs) hr' id g how m

/-! ## A suspension that is over -/

theorem past_step {d d' : TaskQueue σ} {e : Event σ} {id : TaskId} {g : Nat} (hi : Inv d)
    (h : d.registry.Past id g) (hs : d.step e = some d') : d'.registry.Past id g := by
  refine ⟨Nat.lt_of_lt_of_le h.used (nextId_le_step hs), ?_⟩
  have ht := step_transition hi hs id
  generalize hb : d.registry.find? id = before, ha : d'.registry.find? id = after at ht ⊢
  rintro c' rfl
  cases ht with
  | same => exact h.later c' hb
  | created =>
    rw [find?_step_eq_none hi hs h.used hb] at ha; cases ha
  | @lent _ _ c => exact h.later c hb
  | @parked _ _ _ c => exact Nat.lt_succ_of_lt (h.later c hb)
  | @returned _ _ _ c => exact Nat.lt_succ_of_lt (Nat.lt_succ_of_lt (h.later c hb))
  | @resumed _ _ _ _ _ c => exact Nat.lt_succ_of_lt (h.later c hb)
  | @expired _ _ c => exact Nat.lt_succ_of_lt (h.later c hb)

/-- When a suspension ends it is past. -/
theorem past_of_ended {d d' : TaskQueue σ} {e : Event σ} {id : TaskId} {g : Nat} (hi : Inv d)
    (hg : d.registry.suspension? id = some g) (hs : d.step e = some d')
    (hg' : d'.registry.suspension? id ≠ some g) : d'.registry.Past id g := by
  obtain ⟨c, hc, hsusp, rfl⟩ := suspension?_eq_some.1 hg
  refine ⟨Nat.lt_of_lt_of_le (hi.bound id c hc) (nextId_le_step hs), ?_⟩
  have ht := step_transition hi hs id
  generalize ha : d'.registry.find? id = after at ht ⊢
  rw [hc] at ht
  rintro c' rfl
  cases ht with
  | same => exact absurd (suspension?_eq_some.2 ⟨c, ha, hsusp, rfl⟩) hg'
  | lent he hq => rw [hsusp] at hq; cases hq
  | parked deadline hr => rw [hsusp] at hr; cases hr
  | returned deadline hr => rw [hsusp] at hr; cases hr
  | resumed => exact Nat.lt_succ_self _
  | expired => exact Nat.lt_succ_self _

theorem gather_endings_of_past {es : List (Event σ)} : ∀ {d d' : TaskQueue σ} {id : TaskId} {g : Nat},
    Inv d → d.registry.Past id g → d.run es = some d' →
    (d.gather (endings id) es).filter (·.1 = g) = [] ∧ d'.registry.Past id g := by
  induction es with
  | nil => intro d d' id g _ h hr; cases hr; exact ⟨rfl, h⟩
  | cons e es ih =>
    intro d d' id g hi h hr
    obtain ⟨d₁, hs, hr'⟩ := run_cons.1 hr
    obtain ⟨hnil, hpast⟩ := ih (inv_step hi hs) (past_step hi h hs) hr'
    refine ⟨?_, hpast⟩
    rw [gather_cons hs, List.filter_append, hnil, List.append_nil]
    rcases step_endings hi hs id with ⟨he, -⟩ | ⟨g', how, he, -, hg', -⟩
    · rw [he]; rfl
    · have hne : g' ≠ g := Nat.ne_of_gt (h.lt hg')
      rw [he]; simp [hne]

/-- In a run a suspension goes on and nothing ends it, or one thing ends it and it is past. -/
theorem run_suspension {es : List (Event σ)} : ∀ {d d' : TaskQueue σ} {id : TaskId} {g : Nat},
    Inv d → d.registry.suspension? id = some g → d.run es = some d' →
    ((d.gather (endings id) es).filter (·.1 = g) = [] ∧ d'.registry.suspension? id = some g) ∨
    ∃ how, (d.gather (endings id) es).filter (·.1 = g) = [(g, how)] ∧ how.Ends id g ∧
      d'.registry.Past id g := by
  induction es with
  | nil => intro d d' id g _ hg hr; cases hr; exact .inl ⟨rfl, hg⟩
  | cons e es ih =>
    intro d d' id g hi hg hr
    obtain ⟨d₁, hs, hr'⟩ := run_cons.1 hr
    rw [gather_cons hs, List.filter_append]
    rcases step_endings hi hs id with ⟨he, hsame⟩ | ⟨g', how, he, hends, hg', hnone⟩
    · rw [he]
      exact ih (inv_step hi hs) (hsame g hg) hr'
    · rw [hg] at hg'
      cases hg'
      have hpast := past_of_ended hi hg hs (by rw [hnone]; exact (Option.some_ne_none g).symm)
      obtain ⟨hnil, hpast'⟩ := gather_endings_of_past (inv_step hi hs) hpast hr'
      exact .inr ⟨how, by rw [he, hnil]; simp, hends, hpast'⟩

/-- A suspension that begins is of a later generation than any that the task was in. -/
theorem lt_of_begun {d d' : TaskQueue σ} {e : Event σ} {id : TaskId} {g g' : Nat} (hi : Inv d)
    (h : d.registry.suspension? id = some g ∨ d.registry.Past id g) (hs : d.step e = some d')
    (hg' : d'.registry.suspension? id = some g') (hne : d.registry.suspension? id ≠ some g') :
    g < g' := by
  rcases h with h | h
  · rcases step_endings hi hs id with ⟨-, hsame⟩ | ⟨-, -, -, -, -, hnone⟩
    · rw [hsame g h] at hg'
      rw [h] at hne
      exact absurd hg' hne
    · rw [hnone] at hg'; cases hg'
  · exact (past_step hi h hs).lt hg'

/-! ## Timers -/

/-- A timer that is new after a step belongs to the suspension that its task is in. -/
theorem step_pending {d d' : TaskQueue σ} {e : Event σ} (hi : Inv d) (hs : d.step e = some d') {x : Timer}
    (hx : x ∈ d'.registry.timers.pending) : x ∈ d.registry.timers.pending ∨
      d'.registry.suspension? x.task = some x.generation := by
  have hi' := inv_step hi hs
  cases step_spec hs with
  | create clock entry program =>
    left
    rcases d.registry.create_cases clock entry program with e | ⟨calls, e⟩
    · rw [e] at hx; exact hx
    · rw [e] at hx; exact hx
  | dispatch id =>
    left
    rcases d.lend_cases id with ⟨c, t, -, -, -, e⟩ | ⟨-, e⟩
    · rw [e] at hx; exact hx
    · rw [e] at hx; exact hx
  | @deal id rest _ =>
    left
    rcases lend_cases { d with registry := { d.registry with ready := rest } } id with
      ⟨c, t, -, -, -, e⟩ | ⟨-, e⟩
    · rw [e] at hx; exact hx
    · rw [e] at hx; exact hx
  | @finish clock t e _ =>
    change x ∈ (d.registry.handBack clock t e).timers.pending at hx
    show _ ∨ (d.registry.handBack clock t e).suspension? x.task = some x.generation
    rcases d.registry.handBack_cases clock t e with ⟨s, -, eq⟩ | ⟨o, -, eq⟩ | ⟨-, eq⟩
    · rw [eq] at hx ⊢
      rcases d.registry.suspend_pending clock t s hx with m | ⟨htask, hg⟩
      · exact .inl m
      · exact .inr (by rw [htask]; exact hg)
    · left
      rw [eq, complete] at hx
      split at hx
      · exact hx
      · exact hx
    · left; rw [eq] at hx; exact hx
  | resume hr =>
    left
    obtain ⟨c, -, -, -, rfl⟩ := resume_eq_ok.1 hr
    rw [cancelTimer_eq] at hx
    exact hx
  | resumeRefused => exact .inl hx
  | kill hr =>
    left
    obtain ⟨c, -, -, rfl⟩ := kill_eq_ok.1 hr
    rw [cancelTimer_eq] at hx
    exact hx
  | killRefused => exact .inl hx
  | advance clock => exact advance_pending clock hi'.nodup hx
  | abort clock => cases hx

/-! ## The whole life of a suspension -/

/-- A task that comes back and is now in a suspension has begun a new generation. -/
theorem begun_generation {d d' : TaskQueue σ} {clock : Clock} {t : Task σ} {s : Suspension} {g : Nat}
    (hi : Inv d) (hs : d.step (.finish clock t (.suspend s)) = some d')
    (hg : d'.registry.suspension? t.id = some g) :
    ∃ c, d.registry.find? t.id = some c ∧ g = c.generation + 1 := by
  obtain ⟨c', hc', hsusp, rfl⟩ := suspension?_eq_some.1 hg
  have running : ∀ c, d.registry.find? t.id = some c → c.status = .running := by
    cases step_spec hs with
    | finish hm =>
      obtain ⟨⟨l, hl, hid, -⟩, -⟩ := mayEnd_iff.1 hm
      exact fun c hc => (hi.kept _ c hc).running hl hid
  have ht := step_transition hi hs t.id
  rw [hc'] at ht
  generalize t.id = id, hb : d.registry.find? t.id = before at ht running ⊢
  cases ht with
  | same => rw [running c' rfl] at hsusp; cases hsusp
  | lent he => rcases he with he | he <;> cases he
  | @parked _ _ _ c => exact ⟨c, rfl, rfl⟩
  | returned => cases hsusp

/-- **A suspension ends once, and by no timer but its own.** Take any task that is suspended after any run,
and let anything happen from then on. No timer that was there before belongs to this suspension, and one
that is set with it does. The suspension still goes on and nothing has ended it, or it is over and exactly
one thing has ended it: the task was resumed or killed, everything was shut down, or one timer expired that
belongs to it. A timer that ends any suspension of the task belongs to that suspension. A timer that is
new after some step, because a task is suspended or because the wheel is set up anew, belongs to the
suspension its task is in; and each later suspension of the task is of a later generation.

Once it is over the task is in a later suspension, or in none. One who asks to resume a live task and is
neither its owner nor a wizard is refused for that, and anyone else because there is nothing to resume,
unless the task is in a later suspension. A timer that belongs to the suspension that is over, whichever
timers fire before it, changes nothing but the count of those that are ignored. -/
theorem suspension_once {now maxDepth : Nat} {es es' : List (Event σ)} {d d₁ d₂ : TaskQueue σ} {clock : Clock}
    {t : Task σ} {s : Suspension} {g : Nat} (hr : (empty now maxDepth).run es = some d)
    (hs : d.step (.finish clock t (.suspend s)) = some d₁)
    (hg : d₁.registry.suspension? t.id = some g) (hr' : d₁.run es' = some d₂) :
    (∀ x ∈ d.registry.timers.pending, x.key ≠ (t.id, g)) ∧
    (∀ x ∈ d₁.registry.timers.pending, x ∈ d.registry.timers.pending ∨ x.key = (t.id, g)) ∧
    ((d₁.gather (endings t.id) es').filter (·.1 = g) = [] ∧ d₂.registry.suspension? t.id = some g ∨
      ∃ how, (d₁.gather (endings t.id) es').filter (·.1 = g) = [(g, how)] ∧ how.Ends t.id g ∧
        d₂.registry.suspension? t.id ≠ some g) ∧
    (∀ g' x, (g', .timer x) ∈ d₁.gather (endings t.id) es' → x.key = (t.id, g')) ∧
    (∀ e d₃, d₂.step e = some d₃ →
      (∀ x ∈ d₃.registry.timers.pending, x ∈ d₂.registry.timers.pending ∨
        d₃.registry.suspension? x.task = some x.generation) ∧
      ∀ g', d₃.registry.suspension? t.id = some g' → d₂.registry.suspension? t.id ≠ some g' → g < g') ∧
    (d₂.registry.suspension? t.id ≠ some g →
      (∀ g', d₂.registry.suspension? t.id = some g' → g < g') ∧
      (∀ clock v who wizard,
        ((∃ c, d₂.registry.find? t.id = some c ∧ ¬ (c.owner = who ∨ wizard = true)) →
          d₂.registry.resume clock t.id v who wizard = .error (.permissionDenied t.id)) ∧
        (d₂.registry.suspension? t.id = none →
          (∀ c, d₂.registry.find? t.id = some c → c.owner = who ∨ wizard = true) →
          d₂.registry.resume clock t.id v who wizard = .error (.notFound t.id))) ∧
      ∀ clock timers (l : List Timer) x, x.key = (t.id, g) →
        let fired := l.foldl (fire clock) ({ d₂.registry with timers }, 0, 0)
        fire clock fired x = (fired.1, fired.2.1, fired.2.2 + 1)) := by
  have hi := inv_run hr
  have hi₁ := inv_step hi hs
  have hi₂ := hi₁.run hr'
  have hrun := run_suspension hi₁ hg hr'
  have hnow : d₂.registry.suspension? t.id = some g ∨ d₂.registry.Past t.id g := by
    rcases hrun with ⟨-, h⟩ | ⟨how, -, -, h⟩
    · exact .inl h
    · exact .inr h
  refine ⟨?_, ?_, ?_, ?_, ?_, ?_⟩
  · obtain ⟨c, hc, rfl⟩ := begun_generation hi hs hg
    intro x m hk
    obtain ⟨htask, hgen⟩ := Timer.key_eq.1 hk
    have hle := (timersInv_run hr).counted.past x m c (by rw [htask]; exact hc)
    omega
  · intro x m
    cases step_spec hs
    rcases d.registry.suspend_pending clock t s m with m | ⟨htask, hgen⟩
    · exact .inl m
    · exact .inr (Timer.key_eq.2 ⟨htask, Option.some.inj (hgen.symm.trans hg)⟩)
  · rcases hrun with h | ⟨how, he, hends, hpast⟩
    · exact .inl h
    · exact .inr ⟨how, he, hends, hpast.ne⟩
  · exact fun g' x m => ends_of_mem_endings hi₁ hr' t.id g' (.timer x) m
  · exact fun e d₃ hs₃ => ⟨fun x => step_pending hi₂ hs₃, fun g' => lt_of_begun hi₂ hnow hs₃⟩
  · intro hne
    have hpast := hnow.resolve_left hne
    refine ⟨fun g' => hpast.lt, fun clock v who wizard => ⟨?_, ?_⟩, ?_⟩
    · rintro ⟨c, hc, hn⟩
      exact resume_of_stranger hc hn clock v
    · exact fun hnone ha => resume_of_suspension?_none hnone ha clock v
    · intro clock timers l x hx
      have hstart : Past { d₂.registry with timers } t.id g := ⟨hpast.used, hpast.later⟩
      exact (hstart.foldl_fire clock l 0 0).fire clock _ _ hx

/-- A task is suspended for a second, resumed at once, and suspended again; the second passes. -/
def resuspended : List (Event Unit) :=
  [.resume {} 1 (.int 7) .nothing false, .deal, .finish {} (idleTask 1) (.suspend .indefinite),
    .advance { now := 2 * nanosPerSecond }]

theorem suspension_once_resuspended : ∃ d d₁ d₂ d₃ : TaskQueue Unit,
    (empty 0 1).run [.create {} idleFrame (), .deal] = some d ∧
    d.step (.finish {} (idleTask 1) (.suspend (.timed nanosPerSecond))) = some d₁ ∧
    d₁.registry.suspension? 1 = some 1 ∧ d₁.run resuspended = some d₂ ∧
    d₂.registry.suspension? 1 = some 3 ∧
    (∃ how, (d₁.gather (endings 1) resuspended).filter (·.1 = 1) = [(1, how)] ∧ how.Ends 1 1) ∧
    (∀ g' x, (g', .timer x) ∈ d₁.gather (endings 1) resuspended → x.key = (1, g')) ∧
    d₁.run [.resume {} 1 (.int 7) .nothing false] = some d₃ ∧ d₃.registry.valid 1 = true ∧
    d₃.registry.resume {} 1 (.int 8) ⟨9⟩ false = .error (.permissionDenied 1) ∧
    d₃.registry.resume {} 1 (.int 8) .nothing false = .error (.notFound 1) := by
  have once := fun es' d₂ => @suspension_once Unit 0 1 [.create {} idleFrame (), .deal] es' _ _ d₂ {}
    (idleTask 1) (.timed nanosPerSecond) 1 rfl rfl rfl
  refine ⟨_, _, _, _, rfl, rfl, rfl, rfl, by decide +kernel, ?_, ?_, rfl, rfl, ?_⟩
  · rcases (once resuspended _ rfl).2.2.1 with ⟨-, h⟩ | ⟨how, he, hends, -⟩
    · exact absurd h (by decide +kernel)
    · exact ⟨how, he, hends⟩
  · exact (once resuspended _ rfl).2.2.2.1
  · obtain ⟨-, refused, -⟩ :=
      (once [.resume {} 1 (.int 7) .nothing false] _ rfl).2.2.2.2.2 (by decide +kernel)
    refine ⟨(refused {} (.int 8) ⟨9⟩ false).1 ⟨_, rfl, by decide⟩, ?_⟩
    refine (refused {} (.int 8) .nothing false).2 rfl fun c hc => ?_
    cases hc
    exact .inl rfl

/-- A task that was suspended and resumed cannot be resumed again, but a stranger who asks is told that
they may not, and not that there is nothing to resume. -/
theorem resume_ended_stranger : ∃ (d : TaskQueue Unit) (r : Registry Unit),
    (empty 0 1).run [.create {} idleFrame (), .deal,
      .finish {} (idleTask 1) (.suspend .indefinite)] = some d ∧
    d.registry.suspension? 1 = some 1 ∧
    d.registry.resume {} 1 (.int 7) .nothing false = .ok r ∧ r.suspension? 1 = none ∧
    r.resume {} 1 (.int 8) ⟨9⟩ false = .error (.permissionDenied 1) ∧
    r.resume {} 1 (.int 8) ⟨9⟩ false ≠ .error (.notFound 1) := by
  refine ⟨_, _, rfl, rfl, rfl, rfl, rfl, ?_⟩
  intro h
  cases h

end TaskQueue

end MooWorld
