import MooWorld.Proofs.Registry
/-!
# The task queue as a machine

The registry together with the tasks that are out on loan, as a machine that takes one step at a time. A
step is an operation on the registry, or the end of the slice of a task on loan: the task comes back with
a call stack, a program and a value of its own choosing, but with the number and the owner it went out
with, and it ends by the kill switch only if that is set.

`run` takes a list of events, in any order, from `empty`, the queue before the first task. What a program
does to the registry during its slice is a number of events between the loan and the end of the slice.
-/
namespace MooWorld

/-- The registry and the tasks that it has lent out. -/
structure TaskQueue (σ : Type) where
  registry : Registry σ
  loans : List (Task σ) := []

namespace TaskQueue

variable {σ : Type}

/-- What can happen to the task queue. -/
inductive Event (σ : Type) where
  | create (clock : Clock) (entry : Frame) (program : σ)
  /-- Someone asks for the task of a number. -/
  | dispatch (id : TaskId)
  /-- The scheduler takes the oldest announcement and asks for that task. -/
  | deal
  /-- The slice of a task ends. The task is given as the slice left it. -/
  | finish (clock : Clock) (t : Task σ) (e : SliceEnd)
  | resume (clock : Clock) (id : TaskId) (v : Value) (who : Obj) (wizard : Bool)
  | kill (id : TaskId) (who : Obj) (wizard : Bool)
  | advance (clock : Clock)
  | abort (clock : Clock)

/-- Whether a task is asked for only because it was announced. -/
def Event.scheduled : Event σ → Bool
  | .dispatch _ => false
  | _ => true

/-- The task queue before the first task. -/
def empty (now maxDepth : Nat) : TaskQueue σ := { registry := .empty now maxDepth }

/-- Lends out the task of a number, if it is queued. -/
def lend (d : TaskQueue σ) (id : TaskId) : TaskQueue σ :=
  match d.registry.dispatch id with
  | some (t, r) => { registry := r, loans := d.loans ++ [t] }
  | none => d

/-- Whether the slice of a task can end in some way: the task is on loan, and only a task whose kill
switch is set is stopped by it. -/
def mayEnd (d : TaskQueue σ) (t : Task σ) (e : SliceEnd) : Bool :=
  d.loans.any (fun l => l.id = t.id && l.owner = t.owner) &&
    match e with
    | .killed => d.registry.isKilled t.id
    | _ => true

/-- One step. There is none if nothing was announced, or if the slice cannot end so. -/
def step (d : TaskQueue σ) : Event σ → Option (TaskQueue σ)
  | .create clock entry program =>
    some { d with registry := (d.registry.create clock entry program).2 }
  | .dispatch id => some (d.lend id)
  | .deal =>
    match d.registry.ready with
    | [] => none
    | id :: rest => some ({ d with registry := { d.registry with ready := rest } }.lend id)
  | .finish clock t e =>
    if d.mayEnd t e then
      some { registry := d.registry.handBack clock t e, loans := d.loans.eraseP (·.id = t.id) }
    else none
  | .resume clock id v who wizard =>
    match d.registry.resume clock id v who wizard with
    | .ok r => some { d with registry := r }
    | .error _ => some d
  | .kill id who wizard =>
    match d.registry.kill id who wizard with
    | .ok r => some { d with registry := r }
    | .error _ => some d
  | .advance clock => some { d with registry := (d.registry.advance clock).2 }
  | .abort clock => some { d with registry := d.registry.abortAll clock }

/-- What a step can do, event by event. -/
inductive Step (d : TaskQueue σ) : Event σ → TaskQueue σ → Prop where
  | create (clock : Clock) (entry : Frame) (program : σ) :
    Step d (.create clock entry program)
      { d with registry := (d.registry.create clock entry program).2 }
  | dispatch (id : TaskId) : Step d (.dispatch id) (d.lend id)
  | deal {id : TaskId} {rest : List TaskId} (h : d.registry.ready = id :: rest) :
    Step d .deal ({ d with registry := { d.registry with ready := rest } }.lend id)
  | finish {clock : Clock} {t : Task σ} {e : SliceEnd} (h : d.mayEnd t e = true) :
    Step d (.finish clock t e)
      { registry := d.registry.handBack clock t e, loans := d.loans.eraseP (·.id = t.id) }
  | resume {clock : Clock} {id : TaskId} {v : Value} {who : Obj} {wizard : Bool} {r : Registry σ}
      (h : d.registry.resume clock id v who wizard = .ok r) :
    Step d (.resume clock id v who wizard) { d with registry := r }
  | resumeRefused {clock : Clock} {id : TaskId} {v : Value} {who : Obj} {wizard : Bool}
      {err : TaskError} (h : d.registry.resume clock id v who wizard = .error err) :
    Step d (.resume clock id v who wizard) d
  | kill {id : TaskId} {who : Obj} {wizard : Bool} {r : Registry σ}
      (h : d.registry.kill id who wizard = .ok r) :
    Step d (.kill id who wizard) { d with registry := r }
  | killRefused {id : TaskId} {who : Obj} {wizard : Bool} {err : TaskError}
      (h : d.registry.kill id who wizard = .error err) : Step d (.kill id who wizard) d
  | advance (clock : Clock) :
    Step d (.advance clock) { d with registry := (d.registry.advance clock).2 }
  | abort (clock : Clock) : Step d (.abort clock) { d with registry := d.registry.abortAll clock }

theorem step_spec {d d' : TaskQueue σ} {e : Event σ} (h : d.step e = some d') : Step d e d' := by
  cases e with
  | create clock entry program =>
    simp only [step, Option.some.injEq] at h; subst h
    exact .create clock entry program
  | dispatch id =>
    simp only [step, Option.some.injEq] at h; subst h
    exact .dispatch id
  | deal =>
    simp only [step] at h
    split at h
    · cases h
    · rename_i hr
      simp only [Option.some.injEq] at h; subst h
      exact .deal hr
  | finish clock t e =>
    simp only [step] at h
    split at h
    · rename_i hm
      simp only [Option.some.injEq] at h; subst h
      exact .finish hm
    · cases h
  | resume clock id v who wizard =>
    simp only [step] at h
    split at h
    · rename_i hr
      simp only [Option.some.injEq] at h; subst h
      exact .resume hr
    · rename_i hr
      simp only [Option.some.injEq] at h; subst h
      exact .resumeRefused hr
  | kill id who wizard =>
    simp only [step] at h
    split at h
    · rename_i hr
      simp only [Option.some.injEq] at h; subst h
      exact .kill hr
    · rename_i hr
      simp only [Option.some.injEq] at h; subst h
      exact .killRefused hr
  | advance clock =>
    simp only [step, Option.some.injEq] at h; subst h
    exact .advance clock
  | abort clock =>
    simp only [step, Option.some.injEq] at h; subst h
    exact .abort clock

/-- Steps, one for each event. -/
def run : TaskQueue σ → List (Event σ) → Option (TaskQueue σ)
  | d, [] => some d
  | d, e :: es => (d.step e).bind (run · es)

theorem run_cons {d d' : TaskQueue σ} {e : Event σ} {es : List (Event σ)} :
    d.run (e :: es) = some d' ↔ ∃ d₁, d.step e = some d₁ ∧ d₁.run es = some d' := by
  simp [run, Option.bind_eq_some_iff]

theorem run_append {d d' : TaskQueue σ} {es es' : List (Event σ)} :
    d.run (es ++ es') = some d' ↔ ∃ d₁, d.run es = some d₁ ∧ d₁.run es' = some d' := by
  induction es generalizing d with
  | nil => simp [run]
  | cons e es ih =>
    rw [List.cons_append, run_cons]
    simp only [ih, run_cons]
    constructor
    · rintro ⟨d₁, h₁, d₂, h₂, h₃⟩; exact ⟨d₂, ⟨d₁, h₁, h₂⟩, h₃⟩
    · rintro ⟨d₂, ⟨d₁, h₁, h₂⟩, h₃⟩; exact ⟨d₁, h₁, d₂, h₂, h₃⟩

/-- What each step of some kind keeps, a run of such steps keeps. -/
theorem run_induct {P : TaskQueue σ → Prop} {Q : Event σ → Prop}
    (hstep : ∀ d e d', P d → Q e → d.step e = some d' → P d') :
    ∀ (es : List (Event σ)) (d d' : TaskQueue σ), P d → (∀ e ∈ es, Q e) → d.run es = some d' → P d'
  | [], d, d', h, _, hr => by cases hr; exact h
  | e :: es, d, d', h, ho, hr => by
    obtain ⟨d₁, h₁, h₂⟩ := run_cons.1 hr
    exact run_induct hstep es d₁ d' (hstep d e d₁ h (ho e List.mem_cons_self) h₁)
      (fun e' he' => ho e' (List.mem_cons_of_mem _ he')) h₂

/-! ## Lending and handing back -/

theorem lend_cases (d : TaskQueue σ) (id : TaskId) :
    (∃ c t, d.registry.find? id = some c ∧ c.status = .queued ∧ c.task = some t ∧
      d.lend id = { registry := d.registry.put id c.lent, loans := d.loans ++ [t] }) ∨
    ((∀ c, d.registry.find? id = some c → c.status = .queued → c.task = none) ∧ d.lend id = d) := by
  unfold lend
  cases h : d.registry.dispatch id with
  | none =>
    right
    refine ⟨?_, rfl⟩
    intro c hc hq
    cases ht : c.task with
    | none => rfl
    | some t =>
      have := Registry.dispatch_eq_some.2 ⟨c, hc, hq, ht, rfl⟩
      rw [h] at this
      cases this
  | some p =>
    obtain ⟨t, r⟩ := p
    obtain ⟨c, hc, hq, ht, rfl⟩ := Registry.dispatch_eq_some.1 h
    exact .inl ⟨c, t, hc, hq, ht, rfl⟩

theorem quiet_lend (d : TaskQueue σ) (id : TaskId) : d.registry.Quiet (d.lend id).registry := by
  rcases d.lend_cases id with ⟨c, t, -, -, -, e⟩ | ⟨-, e⟩
  · rw [e]; exact Registry.quiet_put _ _ _
  · rw [e]; exact .refl _

theorem mayEnd_iff {d : TaskQueue σ} {t : Task σ} {e : SliceEnd} : d.mayEnd t e = true ↔
    (∃ l ∈ d.loans, l.id = t.id ∧ l.owner = t.owner) ∧
      (e = .killed → d.registry.isKilled t.id = true) := by
  unfold mayEnd
  cases e <;> simp

/-- A frame in which nobody does anything. -/
def idleFrame : Frame :=
  { this := .none, verb := ⟨"idle"⟩, definer := .nothing, player := .nothing, programmer := .nothing }

/-- A task of the given number with nothing to do. -/
def idleTask (id : TaskId) : Task Unit :=
  { id, owner := .nothing, calls := { taskId := id, maxDepth := 1, frames := [idleFrame] }, program := () }

end TaskQueue

/-- What a world does at the end of a slice is what its registry does. -/
theorem World.finish_eq {σ : Type} (w : World σ) (t : Task σ) (e : SliceEnd) :
    w.finish t e = { w with registry := w.registry.handBack w.clock t e } := by
  cases e <;> rfl

end MooWorld
