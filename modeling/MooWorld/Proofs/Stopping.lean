import MooWorld.Proofs.Effect
/-!
# Where a slice stops

The program of a task makes one step after another, and meanwhile others act on the world: they may change
it in every step in any way, and set the kill switch. `Slice` is a slice with all that happens in it, and
`after` tells how things stand after some steps, as if nothing ever stopped them. The slice ends after the
first step at which there is a reason to (`Stops`): the program asked for it, the kill switch is set, or the
ticks are used up. If there are several reasons, the request of the program goes before the kill switch,
and that before the ticks (`outcome`).
-/
namespace MooWorld

variable {σ : Type}

/-- How a slice ends if a step asks for it. -/
def Verdict.sliceEnd? : Verdict → Option SliceEnd
  | .more => none
  | .suspend s => some (.suspend s)
  | .complete v => some (.complete v)
  | .raise f => some (.raise f)

/-- A slice that is about to run. Each step is a step of the program together with whatever others do in the
meantime. Nobody can change the settings. -/
structure Slice (σ : Type) where
  task : Task σ
  world : World σ
  steps : Nat → StepFn σ
  settled : ∀ n p c, (steps n p c).2.2.world.settings = c.world.settings

namespace Slice

def maxTicks (s : Slice σ) : Nat := s.world.settings.maxTicks

/-- A step, whether or not there is a reason to stop. -/
def step (s : Slice σ) (n : Nat) (t : Task σ) (w : World σ) : Verdict × Task σ × World σ :=
  let (verdict, program, c) := s.steps n t.program ⟨t.calls, t.wake, w⟩
  (verdict, { t with program, calls := c.calls, wake := c.wake, ticks := t.ticks + 1 }, c.world)

/-- The task and the world after some steps. -/
def after (s : Slice σ) : Nat → Task σ × World σ
  | 0 => (s.task.fresh, s.world)
  | n + 1 => (s.step n (s.after n).1 (s.after n).2).2

/-- The end that the program asked for in the last of some steps. -/
def request (s : Slice σ) : Nat → Option SliceEnd
  | 0 => none
  | n + 1 => (s.step n (s.after n).1 (s.after n).2).1.sliceEnd?

/-- Whether the kill switch is set after some steps. -/
def killed (s : Slice σ) (n : Nat) : Bool := (s.after n).2.registry.isKilled s.task.id

/-- Whether there is a reason to stop after some steps. -/
def Stops (s : Slice σ) (n : Nat) : Prop :=
  s.killed n = true ∨ n = s.maxTicks ∨ (s.request n).isSome = true

/-- How the slice ends if it does so after some steps. -/
def outcome (s : Slice σ) (n : Nat) : SliceEnd :=
  (s.request n).getD (if s.killed n then .killed else .outOfTicks s.maxTicks)

/-- The turns of the task, each with the step that is due. -/
def turns (s : Slice σ) : Nat → Task σ → World σ → SliceEnd × Task σ × World σ
  | 0, t, w => (if w.registry.isKilled t.id then .killed else .outOfTicks t.ticks, t, w)
  | budget + 1, t, w =>
    match t.turn (s.steps t.ticks) w with
    | (some e, t, w) => (e, t, w)
    | (none, t, w) => s.turns budget t w

/-- Runs the slice. -/
def run (s : Slice σ) : SliceEnd × Task σ × World σ := s.turns s.maxTicks s.task.fresh s.world

theorem turns_of_uniform {s : Slice σ} {step : StepFn σ} (h : ∀ n, s.steps n = step) (budget : Nat)
    (t : Task σ) (w : World σ) : t.turns step budget w = s.turns budget t w := by
  induction budget generalizing t w with
  | zero => rfl
  | succ budget ih =>
    unfold Task.turns turns
    rw [h]
    rcases t.turn step w with ⟨_ | e, t', w'⟩
    · exact ih t' w'
    · rfl

/-! ## Steps -/

theorem after_id (s : Slice σ) (n : Nat) : (s.after n).1.id = s.task.id := by
  induction n with
  | zero => rfl
  | succ n ih => exact ih

theorem after_ticks (s : Slice σ) (n : Nat) : (s.after n).1.ticks = n := by
  induction n with
  | zero => rfl
  | succ n ih => exact congrArg (· + 1) ih

theorem after_settings (s : Slice σ) (n : Nat) : (s.after n).2.settings = s.world.settings := by
  induction n with
  | zero => rfl
  | succ n ih => exact (s.settled n _ _).trans ih

/-- A turn with the kill switch set changes nothing. -/
theorem turn_killed {s : Slice σ} {n : Nat} (hk : s.killed n = true) (step : StepFn σ) :
    (s.after n).1.turn step (s.after n).2 = (some .killed, s.after n) := by
  unfold killed at hk
  unfold Task.turn
  rw [after_id, if_pos hk]

theorem turn_eq_step {s : Slice σ} {n : Nat} {t : Task σ} {w : World σ}
    (hk : w.registry.isKilled t.id = false) (hn : t.ticks < w.settings.maxTicks) :
    t.turn (s.steps n) w = ((s.step n t w).1.sliceEnd?, (s.step n t w).2) := by
  unfold Task.turn step
  rw [hk, if_neg Bool.false_ne_true, if_neg (Nat.not_le.2 hn)]
  rcases s.steps n t.program ⟨t.calls, t.wake, w⟩ with ⟨verdict, program, c⟩
  cases verdict <;> rfl

/-- A turn without a reason to stop is one step more. -/
theorem turn_after {s : Slice σ} {n : Nat} (hk : s.killed n = false) (hn : n < s.maxTicks) :
    (s.after n).1.turn (s.steps (s.after n).1.ticks) (s.after n).2 = (s.request (n + 1), s.after (n + 1)) := by
  unfold killed at hk
  unfold maxTicks at hn
  rw [after_ticks]
  apply turn_eq_step
  · rw [after_id, hk]
  · rw [after_ticks, after_settings]
    exact hn

/-! ## The whole slice -/

/-- From a moment to which nothing has stopped it, a slice goes on to the first reason to stop. The turns
that are left go down as the steps go up. -/
theorem turns_after {s : Slice σ} {n budget : Nat} (hb : n + budget = s.maxTicks)
    (hprev : ∀ j < n, ¬ s.Stops j) (hr : s.request n = none) :
    ∃ k, s.Stops k ∧ (∀ j < k, ¬ s.Stops j) ∧
      s.turns budget (s.after n).1 (s.after n).2 = (s.outcome k, s.after k) := by
  induction budget generalizing n with
  | zero =>
    refine ⟨n, .inr (.inl hb), hprev, ?_⟩
    unfold turns outcome killed
    rw [hr, after_id, after_ticks, ← hb]
    rfl
  | succ budget ih =>
    cases hk : s.killed n with
    | true =>
      refine ⟨n, .inl hk, hprev, ?_⟩
      unfold turns outcome
      rw [turn_killed hk, hr, hk]
      rfl
    | false =>
      have hn : n < s.maxTicks := by omega
      have hnext : ∀ j < n + 1, ¬ s.Stops j := by
        intro j hj
        rcases Nat.lt_succ_iff_lt_or_eq.1 hj with hj | rfl
        · exact hprev j hj
        · simp [Stops, hk, hr, Nat.ne_of_lt hn]
      unfold turns
      rw [turn_after hk hn]
      -- a request ends the slice at once, whatever else has happened during the step
      cases hr' : s.request (n + 1) with
      | none => exact ih (by omega) hnext hr'
      | some e =>
        refine ⟨n + 1, .inr (.inr (by rw [hr']; rfl)), hnext, ?_⟩
        unfold outcome
        rw [hr']
        rfl

theorem run_spec (s : Slice σ) :
    ∃ k, s.Stops k ∧ (∀ j < k, ¬ s.Stops j) ∧ s.run = (s.outcome k, s.after k) :=
  turns_after (Nat.zero_add _) (fun _ h => absurd h (Nat.not_lt_zero _)) rfl

/-- The first reason to stop comes no later than the ticks are used up. -/
theorem le_maxTicks {s : Slice σ} {k : Nat} (hfirst : ∀ j < k, ¬ s.Stops j) : k ≤ s.maxTicks :=
  Nat.le_of_not_lt fun h => hfirst _ h (.inr (.inl rfl))

/-- **Where a slice stops.** A slice takes as many steps as it is to the first reason to stop, never more
than there are ticks, and none with the kill switch set. It ends with what the program asked for in the last
step, even if it was killed in that step, else killed if the kill switch is set, and else for want of ticks.
A program that never asks to stop and is not killed takes a step for each tick and is retired for that,
whatever ticks it had used before. -/
theorem run_ends_at_first_stop (s : Slice σ) :
    ∃ k, s.Stops k ∧ (∀ j < k, ¬ s.Stops j) ∧ k ≤ s.maxTicks ∧ (∀ j < k, s.killed j = false) ∧
      s.run = (s.outcome k, s.after k) ∧ (s.after k).1.ticks = k ∧
      ((∀ n ≤ s.maxTicks, s.request n = none) → (∀ n ≤ s.maxTicks, s.killed n = false) →
        k = s.maxTicks ∧ s.outcome k = .outOfTicks s.maxTicks) ∧
      ∀ step, (∀ n, s.steps n = step) →
        (∀ ticks, { s.task with ticks }.slice step s.world = s.run) ∧
        World.run step s.world s.task = ((s.after k).1, (s.after k).2.finish (s.after k).1 (s.outcome k)) ∧
        (s.outcome k = .outOfTicks s.maxTicks → World.run step s.world s.task =
          ((s.after k).1, (s.after k).2.complete s.task.id (.error (.outOfTicks s.maxTicks)))) := by
  obtain ⟨k, hstop, hfirst, hrun⟩ := s.run_spec
  have hle := le_maxTicks hfirst
  refine ⟨k, hstop, hfirst, hle, fun j hj => ?_, hrun, s.after_ticks k, fun hr hk => ?_,
    fun step hstep => ?_⟩
  · exact Bool.eq_false_iff.2 fun h => hfirst j hj (.inl h)
  · have hmax : k = s.maxTicks := by
      unfold Stops at hstop
      rw [hr k hle, hk k hle] at hstop
      simpa using hstop
    refine ⟨hmax, ?_⟩
    unfold outcome
    rw [hr k hle, hk k hle]
    rfl
  · have hslice : s.task.slice step s.world = s.run := turns_of_uniform hstep _ _ _
    have hworld : World.run step s.world s.task =
        ((s.after k).1, (s.after k).2.finish (s.after k).1 (s.outcome k)) := by
      unfold World.run
      rw [hslice, hrun]
    refine ⟨fun _ => hslice, hworld, fun ho => ?_⟩
    rw [hworld, ho]
    unfold World.finish
    rw [after_id]

instance (s : Slice σ) (n : Nat) : Decidable (s.Stops n) :=
  inferInstanceAs (Decidable (_ ∨ _ ∨ _))

theorem first_stop_unique {s : Slice σ} {k m : Nat} (hk : s.Stops k) (hfirst : ∀ j < k, ¬ s.Stops j)
    (hm : s.Stops m) (hfirst' : ∀ j < m, ¬ s.Stops j) : k = m :=
  Nat.le_antisymm (Nat.le_of_not_lt fun h => hfirst m h hm) (Nat.le_of_not_lt fun h => hfirst' k h hk)

/-- The steps of a program, in the course of which others act on the registry. -/
def amid (step : StepFn σ) (others : Nat → Registry σ → Registry σ) (n : Nat) : StepFn σ := fun p c =>
  let (verdict, p, c) := step p c
  (verdict, p, c.withRegistry (others n c.world.registry))

/-- A slice of a script with three ticks, of a task that used nine in the slice before. In the course of the
given steps the task is killed. -/
def killedDuring (kills : List Nat) (code : Array Instruction) : Slice Script where
  task :=
    { id := 1, owner := .nothing, calls := { taskId := 1, maxDepth := 5, frames := [TaskQueue.idleFrame] }
      program := { code }, ticks := 9 }
  world :=
    { settings := { maxTicks := 3 }
      registry := ((Registry.empty 0 5).create {} TaskQueue.idleFrame { code }).2 }
  steps := amid Script.step fun n r =>
    if kills.contains n then (r.kill 1 .nothing true).toOption.getD r else r
  settled n p c := by
    obtain ⟨calls, acts⟩ := Script.lawful_step p c []
    exact acts.settings

/-- A loop that is left alone uses up the ticks of the slice, one that is killed in its second step takes no
third one, and a script that is killed in the step in which it completes has completed. -/
theorem run_ends_at_first_stop_killedDuring :
    (killedDuring [] #[.restart]).run =
      (.outOfTicks 3, (killedDuring [] #[.restart]).after 3) ∧
    (killedDuring [1] #[.restart]).run = (.killed, (killedDuring [1] #[.restart]).after 2) ∧
    (killedDuring [0] #[.complete .none]).run =
      (.complete .none, (killedDuring [0] #[.complete .none]).after 1) := by
  have first : ∀ (s : Slice Script) (m : Nat), s.Stops m → (∀ j < m, ¬ s.Stops j) →
      s.run = (s.outcome m, s.after m) := by
    intro s m hm hfirst'
    obtain ⟨k, hk, hfirst, -, -, hrun, -⟩ := run_ends_at_first_stop s
    rw [← first_stop_unique hk hfirst hm hfirst']
    exact hrun
  refine ⟨first _ 3 (by decide) (by decide), first _ 2 (by decide) (by decide), ?_⟩
  exact first _ 1 (by decide) (by decide)

end Slice

end MooWorld
