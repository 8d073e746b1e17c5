import MooWorld.Task.Slice
/-!
# What each operation does to the registry

The registry is looked at through `find?`, what it knows of the task of a number, and through `ids`, the
numbers of the live tasks in the order of creation. What an operation does is said once in these terms
(`create_cases`, `dispatch_eq_some`, `suspend_cases`, `resume_eq_ok`, `kill_eq_ok`, `fire_cases`,
`handBack_cases`), and later proofs do not open the operations again.

`advance_induct` is the induction over the timers that fire: what survives a change of the wheel and the
waking of a suspended task survives `advance`.
-/
namespace MooWorld

variable {σ : Type}

theorem authorize_iff {owner who : Obj} {wizard : Bool} :
    authorize (owner == who) wizard = true ↔ owner = who ∨ wizard = true := by
  simp [authorize]

/-- The control of a task that is lent out. -/
def Control.lent (c : Control σ) : Control σ := { c with status := .running, task := none }

/-- The control of a task that came back and is suspended. -/
def Control.parked (c : Control σ) (t : Task σ) (deadline : Option Nat) : Control σ :=
  { c with status := .suspended, task := some t, deadline, generation := c.generation + 1 }

namespace Registry

/-- The numbers of the live tasks, in the order of creation. -/
def ids (r : Registry σ) : List TaskId := r.tasks.map (·.1)

/-- The outcomes that a task left behind, oldest first. -/
def messages (r : Registry σ) (id : TaskId) : List Outcome :=
  (r.outcomes.filter (·.1 = id)).map (·.2)

/-! ## The registry as a table -/

theorem valid_iff {r : Registry σ} {id : TaskId} : r.valid id = true ↔ ∃ c, r.find? id = some c := by
  simp [valid, Option.isSome_iff_exists]

theorem valid_eq_false {r : Registry σ} {id : TaskId} : r.valid id = false ↔ r.find? id = none := by
  simp [valid]

theorem mem_ids {r : Registry σ} {id : TaskId} : id ∈ r.ids ↔ r.valid id = true := by
  simp only [ids, valid, find?, List.mem_map, List.lookup_isSome_iff, beq_iff_eq]
  constructor
  · rintro ⟨e, he, rfl⟩; exact ⟨e, he, rfl⟩
  · rintro ⟨e, he, rfl⟩; exact ⟨e, he, rfl⟩

theorem find?_congr {r r' : Registry σ} (h : r'.tasks = r.tasks) (id : TaskId) :
    r'.find? id = r.find? id := by
  simp [find?, h]

theorem lookup_of_mem {β : Type} {k : TaskId} {b : β} :
    ∀ {l : List (TaskId × β)}, (l.map (·.1)).Nodup → (k, b) ∈ l → l.lookup k = some b
  | [], _, h => by cases h
  | (j, b') :: l, hn, h => by
    simp only [List.map_cons, List.nodup_cons] at hn
    rcases List.mem_cons.1 h with e | m
    · cases e; simp
    · have hj : (k == j) = false := by
        simp only [beq_eq_false_iff_ne, ne_eq]
        rintro rfl
        exact hn.1 (List.mem_map.2 ⟨_, m, rfl⟩)
      rw [List.lookup_cons, hj]
      exact lookup_of_mem hn.2 m

theorem mem_tasks {r : Registry σ} (hn : r.ids.Nodup) {id : TaskId} {c : Control σ} :
    (id, c) ∈ r.tasks ↔ r.find? id = some c := by
  constructor
  · exact lookup_of_mem hn
  · intro h
    obtain ⟨l₁, l₂, e, -⟩ := List.lookup_eq_some_iff.1 h
    rw [e]
    exact List.mem_append_right _ List.mem_cons_self

theorem find?_put (r : Registry σ) (id j : TaskId) (c : Control σ) :
    (r.put id c).find? j = if j = id then (r.find? id).map fun _ => c else r.find? j := by
  simp only [find?, put]
  induction r.tasks with
  | nil => simp
  | cons e rest ih =>
    obtain ⟨k, c'⟩ := e
    simp only [List.map_cons]
    by_cases hk : k = id
    · subst hk
      by_cases hj : j = k
      · subst hj; simp
      · have : (j == k) = false := by simpa using hj
        simpa [List.lookup_cons, this, hj] using ih
    · have hid : (id == k) = false := by simpa using fun h => hk h.symm
      by_cases hj : j = k
      · subst hj; simp [hk]
      · have : (j == k) = false := by simpa using hj
        simpa [List.lookup_cons, hk, hid, this] using ih

theorem find?_put_self {r : Registry σ} {id : TaskId} {c : Control σ} (c' : Control σ)
    (h : r.find? id = some c) : (r.put id c').find? id = some c' := by
  simp [find?_put, h]

theorem find?_put_of_ne {r : Registry σ} {id j : TaskId} (c : Control σ) (h : j ≠ id) :
    (r.put id c).find? j = r.find? j := by
  simp [find?_put, h]

theorem put_put (r : Registry σ) (id : TaskId) (c c' : Control σ) :
    (r.put id c).put id c' = r.put id c' := by
  simp only [put, List.map_map, Registry.mk.injEq, and_true]
  apply List.map_congr_left
  intro e _
  by_cases h : e.1 = id <;> simp [h]

theorem find?_drop (r : Registry σ) (id j : TaskId) :
    (r.drop id).find? j = if j = id then none else r.find? j := by
  simp only [find?, drop]
  induction r.tasks with
  | nil => simp
  | cons e rest ih =>
    obtain ⟨k, c⟩ := e
    by_cases hk : k = id
    · subst hk
      by_cases hj : j = k
      · subst hj; simpa using ih
      · have : (j == k) = false := by simpa using hj
        simpa [List.lookup_cons, this, hj] using ih
    · by_cases hj : j = k
      · subst hj; simp [hk]
      · have : (j == k) = false := by simpa using hj
        simpa [List.lookup_cons, hk, this] using ih

theorem ids_put (r : Registry σ) (id : TaskId) (c : Control σ) : (r.put id c).ids = r.ids := by
  simp only [ids, put, List.map_map]
  apply List.map_congr_left
  intro e _
  simp only [Function.comp]
  split
  · rename_i h; exact h.symm
  · rfl

theorem ids_drop (r : Registry σ) (id : TaskId) : (r.drop id).ids = r.ids.filter (· ≠ id) := by
  simp only [ids, drop, List.filter_map]
  rfl

theorem cancelTimer_eq (r : Registry σ) (c : Control σ) :
    r.cancelTimer c = { r with timers := { r.timers with
      stale := r.timers.stale + if c.deadline.isSome then 1 else 0 } } := by
  unfold cancelTimer
  split <;> rfl

theorem cancelTimer_of_none (r : Registry σ) {c : Control σ} (h : c.deadline = none) :
    r.cancelTimer c = r := by
  simp [cancelTimer, h]

/-! ## Messages -/

theorem messages_deliver (r : Registry σ) (id j : TaskId) (o : Outcome) :
    (r.deliver id o).messages j = r.messages j ++ if j = id then [o] else [] := by
  simp only [messages, deliver, List.filter_append, List.map_append]
  by_cases h : j = id
  · subst h; simp
  · have h' : ¬ id = j := fun e => h e.symm
    simp [h, h']

/-! ## The operations -/

/-- What a new task is registered as. -/
def newcomer (r : Registry σ) (clock : Clock) (entry : Frame) (calls : CallStack) (program : σ) :
    Control σ :=
  { owner := entry.programmer, status := .queued, queuedAt := clock.date
    task := some { id := r.nextId, owner := entry.programmer, calls, program } }

/-- The registry with one more task. -/
def enroll (r : Registry σ) (c : Control σ) : Registry σ :=
  { r with
    tasks := r.tasks ++ [(r.nextId, c)]
    nextId := r.nextId + 1
    ready := r.ready ++ [r.nextId] }

/-- A creation uses up a number. It fails without any other trace, or admits a queued task. -/
theorem create_cases (r : Registry σ) (clock : Clock) (entry : Frame) (program : σ) :
    r.create clock entry program = (.error .couldNotStart, { r with nextId := r.nextId + 1 }) ∨
    ∃ calls, r.create clock entry program =
      (.ok r.nextId, r.enroll (r.newcomer clock entry calls program)) := by
  unfold create
  cases h : CallStack.push { taskId := r.nextId, maxDepth := r.maxDepth } entry with
  | error f => left; simp only [h]
  | ok calls => right; exact ⟨calls, by simp only [h]; rfl⟩

theorem find?_enroll (r : Registry σ) (c : Control σ) (j : TaskId) :
    (r.enroll c).find? j = (r.find? j).or (if j = r.nextId then some c else none) := by
  simp only [find?, enroll, List.lookup_append, List.lookup_cons, List.lookup_nil]
  by_cases h : j = r.nextId
  · simp [h]
  · have : (j == r.nextId) = false := by simpa using h
    simp [h, this]

theorem dispatch_eq_some {r r' : Registry σ} {id : TaskId} {t : Task σ} :
    r.dispatch id = some (t, r') ↔
      ∃ c, r.find? id = some c ∧ c.status = .queued ∧ c.task = some t ∧ r' = r.put id c.lent := by
  unfold dispatch
  cases h : r.find? id with
  | none => simp
  | some c =>
    by_cases hq : c.status = .queued
    · cases ht : c.task with
      | none => simp [hq, ht]
      | some t' =>
        simp only [if_pos hq, ht, Option.map_some, Option.some.injEq, Prod.mk.injEq]
        constructor
        · rintro ⟨rfl, rfl⟩; exact ⟨c, rfl, hq, ht, rfl⟩
        · rintro ⟨c', rfl, -, ht', rfl⟩
          rw [ht] at ht'
          exact ⟨Option.some.inj ht', rfl⟩
    · simp [hq]

/-- A task that is handed back to be suspended is dropped, or suspended until it is resumed, or suspended
with a timer, or queued again at once. -/
theorem suspend_cases (r : Registry σ) (clock : Clock) (t : Task σ) (s : Suspension) :
    ((∀ c, r.find? t.id = some c → c.status ≠ .running) ∧ r.suspend clock t s = r) ∨
    ∃ c, r.find? t.id = some c ∧ c.status = .running ∧
      (((s = .indefinite ∨ ∃ delay, s = .timed delay ∧ clock.dateAfter? delay = none) ∧
          r.suspend clock t s = r.put t.id (c.parked t none)) ∨
        (∃ delay date timers, s = .timed delay ∧ delay ≠ 0 ∧ clock.dateAfter? delay = some date ∧
          r.timers.insert? clock.now t.id (c.generation + 1) delay = some timers ∧
          r.suspend clock t s = { r.put t.id (c.parked t (some date)) with timers }) ∨
        (∃ delay date, s = .timed delay ∧ clock.dateAfter? delay = some date ∧
          (delay = 0 ∨ r.timers.insert? clock.now t.id (c.generation + 1) delay = none) ∧
          r.suspend clock t s =
            (r.put t.id ((c.parked t (some date)).requeue clock (.int 0))).announce t.id)) := by
  unfold suspend
  cases h : r.find? t.id with
  | none => left; exact ⟨by simp, rfl⟩
  | some c =>
    by_cases hr : c.status = .running
    · right
      refine ⟨c, rfl, hr, ?_⟩
      simp only [hr, ne_eq, not_true_eq_false, if_false]
      cases s with
      | indefinite => left; exact ⟨.inl rfl, rfl⟩
      | timed delay =>
        cases hd : clock.dateAfter? delay with
        | none => left; exact ⟨.inr ⟨delay, rfl, hd⟩, by simp only [hd]; rfl⟩
        | some date =>
          right
          simp only [hd]
          by_cases h0 : delay = 0
          · right
            refine ⟨delay, date, rfl, hd, .inl h0, ?_⟩
            simp only [if_pos h0]
            rfl
          · cases hi : r.timers.insert? clock.now t.id (c.generation + 1) delay with
            | none =>
              right
              refine ⟨delay, date, rfl, hd, .inr hi, ?_⟩
              simp only [if_neg h0]
              rfl
            | some timers =>
              left
              refine ⟨delay, date, timers, rfl, h0, hd, hi, ?_⟩
              simp only [if_neg h0]
              rfl
    · left
      refine ⟨by simpa using hr, ?_⟩
      simp [hr]

theorem resume_eq_ok {r r' : Registry σ} {clock : Clock} {id : TaskId} {v : Value} {who : Obj}
    {wizard : Bool} : r.resume clock id v who wizard = .ok r' ↔
      ∃ c, r.find? id = some c ∧ authorize (c.owner == who) wizard = true ∧ c.status = .suspended ∧
        r' = ((r.put id (c.requeue clock v)).cancelTimer c).announce id := by
  unfold resume
  cases h : r.find? id with
  | none => simp
  | some c =>
    by_cases ha : authorize (c.owner == who) wizard = true
    · by_cases hs : c.status = .suspended
      · simp only [ha, hs, Bool.not_true, Bool.false_eq_true, if_false, ne_eq, not_true_eq_false,
          Except.ok.injEq]
        constructor
        · rintro rfl; exact ⟨c, rfl, ha, hs, rfl⟩
        · rintro ⟨c', hc', -, -, rfl⟩; cases hc'; rfl
      · simp [ha, hs]
    · simp [ha]

theorem kill_eq_ok {r r' : Registry σ} {id : TaskId} {who : Obj} {wizard : Bool} :
    r.kill id who wizard = .ok r' ↔
      ∃ c, r.find? id = some c ∧ authorize (c.owner == who) wizard = true ∧
        r' = { (r.drop id).cancelTimer c with
          killed := r.killed ++ [id]
          outcomes := r.outcomes ++ [(id, .error .cancelled)] } := by
  unfold kill
  cases h : r.find? id with
  | none => simp
  | some c =>
    by_cases ha : authorize (c.owner == who) wizard = true
    · simp only [ha, Bool.not_true, Bool.false_eq_true, if_false, Except.ok.injEq, cancelTimer_eq]
      constructor
      · rintro rfl; exact ⟨c, rfl, ha, rfl⟩
      · rintro ⟨c', hc', -, rfl⟩; cases hc'; rfl
    · simp [ha]

/-- A timer that fires wakes the task whose suspension it belongs to, or is ignored. -/
theorem fire_cases (clock : Clock) (r : Registry σ) (woken ignored : Nat) (x : Timer) :
    (∃ c, r.find? x.task = some c ∧ c.status = .suspended ∧ c.generation = x.generation ∧
      fire clock (r, woken, ignored) x =
        ((r.put x.task (c.requeue clock (.int 0))).announce x.task, woken + 1, ignored)) ∨
    ((∀ c, r.find? x.task = some c → c.status = .suspended → c.generation ≠ x.generation) ∧
      fire clock (r, woken, ignored) x = (r, woken, ignored + 1)) := by
  unfold fire
  cases h : r.find? x.task with
  | none => right; simp [h]
  | some c =>
    by_cases hl : c.status = .suspended ∧ c.generation = x.generation
    · left
      exact ⟨c, rfl, hl.1, hl.2, by simp [h, hl]⟩
    · right
      refine ⟨by simpa using hl, ?_⟩
      have : (decide (c.status ≠ .suspended) || decide (c.generation ≠ x.generation)) = true := by
        simp only [ne_eq, Bool.or_eq_true, decide_eq_true_eq]
        exact Decidable.not_and_iff_or_not.1 hl
      simp only [h, this, if_true]

/-- The registry and the two counts after the timers that are due have fired. -/
def fired (r : Registry σ) (clock : Clock) : Registry σ × Nat × Nat :=
  (r.timers.advance clock.now).1.foldl (fire clock)
    ({ r with timers := (r.timers.advance clock.now).2 }, 0, 0)

/-- The registry with some stale timers counted less. -/
def uncount (r : Registry σ) (ignored : Nat) : Registry σ :=
  { r with timers := { r.timers with stale := r.timers.stale - ignored } }

theorem advance_eq (r : Registry σ) (clock : Clock) :
    r.advance clock =
      ((r.fired clock).2.1, ((r.fired clock).1.uncount (r.fired clock).2.2).compact clock) := rfl

theorem compact_eq (r : Registry σ) (clock : Clock) :
    r.compact clock = { r with timers := (r.compact clock).timers } := by
  unfold compact
  split <;> rfl

theorem foldl_fire_induct {P : Registry σ → Prop} (clock : Clock)
    (hw : ∀ r id c, P r → r.find? id = some c → c.status = .suspended →
      P ((r.put id (c.requeue clock (.int 0))).announce id)) :
    ∀ (l : List Timer) (r : Registry σ) (woken ignored : Nat), P r →
      P (l.foldl (fire clock) (r, woken, ignored)).1
  | [], _, _, _, h => h
  | x :: l, r, woken, ignored, h => by
    rw [List.foldl_cons]
    rcases fire_cases clock r woken ignored x with ⟨c, hc, hs, -, e⟩ | ⟨-, e⟩
    · rw [e]; exact foldl_fire_induct clock hw l _ _ _ (hw r x.task c h hc hs)
    · rw [e]; exact foldl_fire_induct clock hw l _ _ _ h

/-- What holds whatever the wheel holds, and is kept when a suspended task is woken, is kept when the
timers are moved on. -/
theorem advance_induct {P : Registry σ → Prop} (clock : Clock)
    (ht : ∀ r timers, P r → P { r with timers })
    (hw : ∀ r id c, P r → r.find? id = some c → c.status = .suspended →
      P ((r.put id (c.requeue clock (.int 0))).announce id)) {r : Registry σ} (h : P r) :
    P (r.advance clock).2 := by
  rw [advance_eq, compact_eq]
  have hf : P (r.fired clock).1 := foldl_fire_induct clock hw _ _ 0 0 (ht r _ h)
  exact ht _ _ (ht _ _ hf)

/-! ## Operations that keep the live tasks -/

/-- The same tasks are live, no kill switch was set, and no task left an outcome behind. -/
structure Quiet (r r' : Registry σ) : Prop where
  ids : r'.ids = r.ids
  nextId : r'.nextId = r.nextId
  killed : r'.killed = r.killed
  outcomes : r'.outcomes = r.outcomes

theorem Quiet.refl (r : Registry σ) : Quiet r r := ⟨rfl, rfl, rfl, rfl⟩

theorem Quiet.valid {r r' : Registry σ} (h : Quiet r r') (id : TaskId) : r'.valid id = r.valid id := by
  rw [Bool.eq_iff_iff, ← mem_ids, ← mem_ids, h.ids]

theorem Quiet.messages {r r' : Registry σ} (h : Quiet r r') (id : TaskId) :
    r'.messages id = r.messages id := by
  rw [Registry.messages, Registry.messages, h.outcomes]

theorem quiet_put (r : Registry σ) (id : TaskId) (c : Control σ) : Quiet r (r.put id c) :=
  ⟨ids_put r id c, rfl, rfl, rfl⟩

theorem quiet_suspend (r : Registry σ) (clock : Clock) (t : Task σ) (s : Suspension) :
    Quiet r (r.suspend clock t s) := by
  rcases r.suspend_cases clock t s with ⟨-, e⟩ | ⟨c, -, -, hs⟩
  · rw [e]; exact .refl r
  · rcases hs with ⟨-, e⟩ | ⟨delay, date, timers, -, -, -, -, e⟩ | ⟨delay, date, -, -, -, e⟩
    · rw [e]; exact quiet_put r _ _
    · rw [e]; exact ⟨ids_put r _ _, rfl, rfl, rfl⟩
    · rw [e]; exact ⟨ids_put r _ _, rfl, rfl, rfl⟩

theorem quiet_resume {r r' : Registry σ} {clock : Clock} {id : TaskId} {v : Value} {who : Obj}
    {wizard : Bool} (h : r.resume clock id v who wizard = .ok r') : Quiet r r' := by
  obtain ⟨c, -, -, -, rfl⟩ := resume_eq_ok.1 h
  rw [cancelTimer_eq]
  exact ⟨ids_put r _ _, rfl, rfl, rfl⟩

theorem quiet_advance (r : Registry σ) (clock : Clock) : Quiet r (r.advance clock).2 :=
  advance_induct (P := Quiet r) clock (fun _ _ h => ⟨h.ids, h.nextId, h.killed, h.outcomes⟩)
    (fun r' _ _ h _ _ => ⟨(ids_put r' _ _).trans h.ids, h.nextId, h.killed, h.outcomes⟩) (.refl r)

/-! ## The end of a slice -/

end Registry

/-- The outcome that a slice leaves behind, if the task is done with it. -/
def SliceEnd.outcome? (t : Task σ) : SliceEnd → Option Outcome
  | .suspend _ => none
  | .complete v => some (.ok v)
  | .raise f => some (.error (.uncaught ⟨f, t.backtrace⟩))
  | .outOfTicks n => some (.error (.outOfTicks n))
  | .killed => none

namespace Registry

/-- The registry after a task was handed back at the end of a slice. -/
def handBack (r : Registry σ) (clock : Clock) (t : Task σ) (e : SliceEnd) : Registry σ :=
  (World.finish { registry := r, clock } t e).registry

/-- A task is suspended, or retired with the outcome of its slice, or left alone because its kill switch
is set. -/
theorem handBack_cases (r : Registry σ) (clock : Clock) (t : Task σ) (e : SliceEnd) :
    (∃ s, e = .suspend s ∧ r.handBack clock t e = r.suspend clock t s) ∨
    (∃ o, e.outcome? t = some o ∧ r.handBack clock t e = r.complete t.id o) ∨
    (e = .killed ∧ r.handBack clock t e = r) := by
  cases e with
  | suspend s => exact .inl ⟨s, rfl, rfl⟩
  | complete v => exact .inr (.inl ⟨_, rfl, rfl⟩)
  | raise f => exact .inr (.inl ⟨_, rfl, rfl⟩)
  | outOfTicks n => exact .inr (.inl ⟨_, rfl, rfl⟩)
  | killed => exact .inr (.inr ⟨rfl, rfl⟩)

theorem complete_of_find? {r : Registry σ} {id : TaskId} {c : Control σ} (o : Outcome)
    (h : r.find? id = some c) : r.complete id o = (r.drop id).deliver id o := by
  simp [complete, valid, h]

theorem complete_of_not_live {r : Registry σ} {id : TaskId} (o : Outcome) (h : r.find? id = none) :
    r.complete id o = r := by
  simp [complete, valid, h]

/-- A task that is not live is handed back without any effect. -/
theorem handBack_of_not_live {r : Registry σ} {t : Task σ} (clock : Clock) (e : SliceEnd)
    (h : r.find? t.id = none) : r.handBack clock t e = r := by
  rcases r.handBack_cases clock t e with ⟨s, -, eq⟩ | ⟨o, -, eq⟩ | ⟨-, eq⟩
  · rw [eq]; simp [suspend, h]
  · rw [eq]; exact complete_of_not_live o h
  · exact eq

/-! ## Shutdown -/

theorem messages_notResponding (id : TaskId) :
    ∀ {l : List (TaskId × Control σ)}, (l.map (·.1)).Nodup →
      ((l.map fun e => (e.1, (.error .notResponding : Outcome))).filter (·.1 = id)).map (·.2) =
        if id ∈ l.map (·.1) then [.error .notResponding] else []
  | [], _ => rfl
  | e :: l, h => by
    simp only [List.map_cons, List.nodup_cons] at h
    have ih := messages_notResponding id h.2
    by_cases he : e.1 = id
    · subst he
      rw [if_neg h.1] at ih
      simpa using ih
    · have he' : ¬ id = e.1 := fun h => he h.symm
      simp only [List.map_cons, List.filter_cons, List.mem_cons, he, he', decide_false,
        Bool.false_eq_true, if_false, false_or]
      exact ih

/-- Every live task gets one more outcome. -/
theorem messages_abortAll {r : Registry σ} (clock : Clock) (id : TaskId) (hn : r.ids.Nodup) :
    (r.abortAll clock).messages id =
      r.messages id ++ if r.valid id then [.error .notResponding] else [] := by
  have hv : (id ∈ r.tasks.map (·.1)) ↔ r.valid id = true := mem_ids
  simp only [messages, abortAll, List.filter_append, List.map_append, messages_notResponding id hn, hv]

end Registry

end MooWorld
