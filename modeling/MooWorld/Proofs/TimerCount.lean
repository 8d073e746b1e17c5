import MooWorld.Proofs.Lifecycle
import MooWorld.Proofs.Wheel
/-!
# The timers are counted exactly

A timer is live if its task is suspended and has the generation of the timer, and stale otherwise. The
wheel keeps two numbers, how many timers it holds and how many of them are stale, and keeps them up as it
goes along. `Counted` says what ties the timers to the registry: a timer is never ahead of its task, and
the present generation of a task has one timer if the task has a deadline, and none otherwise. With it
both numbers are exact (`TimersInv`), through suspension, resumption, kill, expiry and the setting up of a
new wheel.

While timers fire, the registry changes and the wheel does not. The invariant of that loop
(`foldl_fire_counted`) is about the timers that have yet to be dealt with together with the wheel.
-/
namespace MooWorld

namespace Registry

variable {σ : Type}

/-! ## Live and stale timers -/

/-- Whether the suspension that a timer belongs to still runs. -/
def isLive (r : Registry σ) (x : Timer) : Bool :=
  match r.find? x.task with
  | some c => c.status = .suspended && c.generation = x.generation
  | none => false

/-- How many of some timers are stale. -/
def staleOf (r : Registry σ) (l : List Timer) : Nat := l.countP (!r.isLive ·)

/-- How many of some timers are live and belong to a task. -/
def liveOf (r : Registry σ) (id : TaskId) (l : List Timer) : Nat :=
  l.countP fun x => x.task = id && r.isLive x

theorem isLive_iff {r : Registry σ} {x : Timer} : r.isLive x = true ↔
    ∃ c, r.find? x.task = some c ∧ c.status = .suspended ∧ c.generation = x.generation := by
  unfold isLive
  cases r.find? x.task <;> simp

theorem isLive_eq_false {r : Registry σ} {x : Timer}
    (h : ∀ c, r.find? x.task = some c → c.status = .suspended → c.generation ≠ x.generation) :
    r.isLive x = false := by
  rw [Bool.eq_false_iff]
  intro hl
  obtain ⟨c, hc, hs, hg⟩ := isLive_iff.1 hl
  exact h c hc hs hg

theorem deadline?_eq {r : Registry σ} {id : TaskId} {c : Control σ} (h : r.find? id = some c) :
    r.deadline? id = c.deadline := by
  simp [deadline?, h]

theorem isLive_congr {r r' : Registry σ} {x : Timer} (h : r'.find? x.task = r.find? x.task) :
    r'.isLive x = r.isLive x := by
  unfold isLive
  rw [h]

theorem staleOf_cons (r : Registry σ) (x : Timer) (l : List Timer) :
    r.staleOf (x :: l) = r.staleOf l + if r.isLive x then 0 else 1 := by
  cases h : r.isLive x <;> simp [staleOf, h]

theorem concat_live {r : Registry σ} {x : Timer} (l : List Timer) (h : r.isLive x = true) :
    r.staleOf (l ++ [x]) = r.staleOf l ∧ r.liveOf x.task (l ++ [x]) = r.liveOf x.task l + 1 := by
  simp [staleOf, liveOf, List.countP_append, h]

/-- What becomes stale or live again when one task changes are timers of that task. -/
theorem staleOf_add_liveOf {r r' : Registry σ} {id : TaskId}
    (h : ∀ j, j ≠ id → r'.find? j = r.find? j) (l : List Timer) :
    r'.staleOf l + r'.liveOf id l = r.staleOf l + r.liveOf id l := by
  induction l with
  | nil => rfl
  | cons x l ih =>
    simp only [staleOf, liveOf, List.countP_cons] at ih ⊢
    by_cases e : x.task = id
    · cases r.isLive x <;> cases r'.isLive x <;> simp [e] <;> omega
    · rw [isLive_congr (h x.task e)]
      simp only [e, decide_false, Bool.false_and, Bool.false_eq_true, if_false]
      omega

/-- What ties some timers to the registry. -/
structure Counted (r : Registry σ) (l : List Timer) : Prop where
  used : ∀ x ∈ l, x.task < r.nextId
  past : ∀ x ∈ l, ∀ c, r.find? x.task = some c → x.generation ≤ c.generation
  once : ∀ id c, r.find? id = some c →
    (l.map Timer.key).count (id, c.generation) = if c.deadline.isSome then 1 else 0
  suspended : ∀ id c, r.find? id = some c → c.deadline.isSome → c.status = .suspended

/-- No tasks and no timers. -/
theorem counted_nil {r : Registry σ} (h : r.tasks = []) : Counted r [] := by
  have hf : ∀ id, r.find? id = none := fun id => by simp [find?, h]
  refine ⟨?_, ?_, ?_, ?_⟩
  · intro x m; cases m
  · intro x m; cases m
  · intro id c hc; rw [hf] at hc; cases hc
  · intro id c hc; rw [hf] at hc; cases hc

theorem Counted.congr {r r' : Registry σ} {l : List Timer} (h : Counted r l) (ht : r'.tasks = r.tasks)
    (hn : r'.nextId = r.nextId) : Counted r' l := by
  have hf := find?_congr ht
  refine ⟨?_, ?_, ?_, ?_⟩
  · intro x m; rw [hn]; exact h.used x m
  · intro x m c hc; rw [hf] at hc; exact h.past x m c hc
  · intro id c hc; rw [hf] at hc; exact h.once id c hc
  · intro id c hc; rw [hf] at hc; exact h.suspended id c hc

theorem Counted.perm {r : Registry σ} {l l' : List Timer} (h : Counted r l) (hp : l'.Perm l) :
    Counted r l' :=
  ⟨fun x m => h.used x (hp.mem_iff.1 m), fun x m => h.past x (hp.mem_iff.1 m),
    fun id c hc => by rw [(hp.map Timer.key).count_eq]; exact h.once id c hc, h.suspended⟩

/-- A timer of the present generation of a task belongs to a suspension with a deadline. -/
theorem Counted.due {r : Registry σ} {l : List Timer} (h : Counted r l) {x : Timer} (hx : x ∈ l)
    {c : Control σ} (hc : r.find? x.task = some c) (hg : c.generation = x.generation) :
    c.deadline.isSome = true := by
  have hpos : 0 < (l.map Timer.key).count (x.task, c.generation) :=
    List.count_pos_iff.2 (List.mem_map.2 ⟨x, hx, by rw [hg]; rfl⟩)
  rw [h.once x.task c hc] at hpos
  split at hpos
  · assumption
  · omega

/-- A task that is not suspended has no deadline. -/
theorem Counted.deadline_eq_none {r : Registry σ} {l : List Timer} (h : Counted r l) {id : TaskId}
    {c : Control σ} (hc : r.find? id = some c) (hs : c.status ≠ .suspended) : c.deadline = none := by
  cases hd : c.deadline with
  | none => rfl
  | some date => exact absurd (h.suspended id c hc (by rw [hd]; rfl)) hs

theorem Counted.liveOf_eq {r : Registry σ} {l : List Timer} (h : Counted r l) (id : TaskId) :
    r.liveOf id l = if (r.deadline? id).isSome then 1 else 0 := by
  cases hc : r.find? id with
  | none =>
    have hd : r.deadline? id = none := by simp [deadline?, hc]
    rw [hd]
    refine List.countP_eq_zero.2 fun x _ hx => ?_
    simp only [Bool.and_eq_true, decide_eq_true_eq] at hx
    obtain ⟨c, hc', -, -⟩ := isLive_iff.1 hx.2
    rw [hx.1, hc] at hc'; cases hc'
  | some c =>
    rw [deadline?_eq hc, ← h.once id c hc, List.count_eq_countP, List.countP_map]
    refine List.countP_congr fun x m => ?_
    simp only [Bool.and_eq_true, decide_eq_true_eq, Function.comp, beq_iff_eq, Timer.key_eq]
    refine and_congr_right fun e => ?_
    subst e
    constructor
    · intro hx
      obtain ⟨c', hc', -, hg⟩ := isLive_iff.1 hx
      rw [hc] at hc'; cases hc'
      exact hg.symm
    · intro hg
      exact isLive_iff.2 ⟨c, hc, h.suspended _ c hc (h.due m hc hg.symm), hg.symm⟩

/-- When one task changes, the stale timers change by the timer that its deadline stands for. -/
theorem Counted.staleOf_eq {r r' : Registry σ} {l : List Timer} (h : Counted r l) (h' : Counted r' l)
    {id : TaskId} (hf : ∀ j, j ≠ id → r'.find? j = r.find? j) :
    r'.staleOf l + (if (r'.deadline? id).isSome then 1 else 0) =
      r.staleOf l + (if (r.deadline? id).isSome then 1 else 0) := by
  rw [← h.liveOf_eq, ← h'.liveOf_eq]
  exact staleOf_add_liveOf hf l

/-! ## One task changes -/

/-- What is known of one task changes, and with it perhaps the timers of its present generation, which has
as many as its deadline asks for. -/
theorem Counted.put {r : Registry σ} {l l' : List Timer} (h : Counted r l) {id : TaskId}
    {c c' : Control σ} (hid : id < r.nextId) (hc : r.find? id = some c)
    (hg : c.generation ≤ c'.generation) (hm : ∀ x ∈ l', x ∈ l ∨ x.key = (id, c'.generation))
    (hl : ∀ j g, j ≠ id → (l'.map Timer.key).count (j, g) = (l.map Timer.key).count (j, g))
    (ho : (l'.map Timer.key).count (id, c'.generation) = if c'.deadline.isSome then 1 else 0)
    (hs : c'.deadline.isSome → c'.status = .suspended) : Counted (r.put id c') l' := by
  refine ⟨?_, ?_, ?_, ?_⟩
  · intro x m
    rcases hm x m with m | e
    · exact h.used x m
    · show x.task < r.nextId
      rw [(Timer.key_eq.1 e).1]; exact hid
  · intro x m cx hx
    by_cases e : x.task = id
    · subst e
      rw [find?_put_self _ hc] at hx
      cases hx
      rcases hm x m with m | ek
      · exact Nat.le_trans (h.past x m c hc) hg
      · exact Nat.le_of_eq (Timer.key_eq.1 ek).2
    · rw [find?_put_of_ne _ e] at hx
      exact h.past x ((hm x m).resolve_right fun ek => e (Timer.key_eq.1 ek).1) cx hx
  · intro j cj hj
    by_cases e : j = id
    · subst e
      rw [find?_put_self _ hc] at hj
      cases hj
      exact ho
    · rw [find?_put_of_ne _ e] at hj
      rw [hl j _ e]
      exact h.once j cj hj
  · intro j cj hj
    by_cases e : j = id
    · subst e
      rw [find?_put_self _ hc] at hj
      cases hj
      exact hs
    · rw [find?_put_of_ne _ e] at hj
      exact h.suspended j cj hj

/-- A generation that a task has not reached has no timers. -/
theorem Counted.count_eq_zero {r : Registry σ} {l : List Timer} (h : Counted r l) {id : TaskId}
    {c : Control σ} (hc : r.find? id = some c) {generation : Nat} (hg : c.generation < generation) :
    (l.map Timer.key).count (id, generation) = 0 := by
  refine List.count_eq_zero.2 fun m => ?_
  obtain ⟨x, hx, e⟩ := List.mem_map.1 m
  obtain ⟨rfl, rfl⟩ := Timer.key_eq.1 e
  exact absurd (h.past x hx c hc) (Nat.not_le.2 hg)

/-- A task begins a new generation without a deadline. -/
theorem Counted.renew {r : Registry σ} {l : List Timer} (h : Counted r l) {id : TaskId}
    {c c' : Control σ} (hid : id < r.nextId) (hc : r.find? id = some c)
    (hg : c.generation < c'.generation) (hd : c'.deadline = none) : Counted (r.put id c') l := by
  refine h.put hid hc (Nat.le_of_lt hg) (fun x m => .inl m) (fun _ _ _ => rfl) ?_ ?_
  · rw [h.count_eq_zero hc hg, hd]; rfl
  · rw [hd]; intro hn; cases hn

/-- A task begins a new generation with a deadline and a timer. -/
theorem Counted.arm {r : Registry σ} {l : List Timer} (h : Counted r l) {id : TaskId}
    {c c' : Control σ} (hid : id < r.nextId) (hc : r.find? id = some c)
    (hn : c.deadline = none) (hg : c.generation < c'.generation) (hd : c'.deadline.isSome = true)
    (hs : c'.status = .suspended) (due : Nat) :
    Counted (r.put id c') (l ++ [⟨id, c'.generation, due⟩]) ∧
      (r.put id c').staleOf (l ++ [⟨id, c'.generation, due⟩]) = r.staleOf l := by
  have hcount : ∀ k, ((l ++ [(⟨id, c'.generation, due⟩ : Timer)]).map Timer.key).count k =
      (l.map Timer.key).count k + if (id, c'.generation) = k then 1 else 0 := by
    intro k
    rw [List.map_append, List.count_append]
    simp [List.count_singleton, Timer.key]
  have h' : Counted (r.put id c') (l ++ [⟨id, c'.generation, due⟩]) := by
    refine h.put hid hc (Nat.le_of_lt hg) ?_ ?_ ?_ (fun _ => hs)
    · intro x m
      rcases List.mem_append.1 m with m | m
      · exact .inl m
      · right; rw [List.mem_singleton.1 m]; rfl
    · intro j g hj
      rw [hcount, if_neg fun e => hj (congrArg Prod.fst e).symm, Nat.add_zero]
    · rw [hcount, h.count_eq_zero hc hg, if_pos rfl, if_pos hd]
  refine ⟨h', ?_⟩
  -- the new timer is the only live one of the task, so nothing changes among the others
  have hself := find?_put_self c' hc
  have hlive : (r.put id c').isLive ⟨id, c'.generation, due⟩ = true := isLive_iff.2 ⟨c', hself, hs, rfl⟩
  obtain ⟨hst, hlv⟩ := concat_live l hlive
  have hnew := h'.liveOf_eq id
  have hold := h.liveOf_eq id
  rw [deadline?_eq hself, hd, hlv] at hnew
  rw [deadline?_eq hc, hn] at hold
  have hsum : (r.put id c').staleOf l + (r.put id c').liveOf id l = r.staleOf l + r.liveOf id l :=
    staleOf_add_liveOf (fun j hj => find?_put_of_ne c' hj) l
  simp only [if_true, Option.isSome_none, Bool.false_eq_true, if_false] at hnew hold
  rw [hst]
  omega

/-- A task changes within its generation and keeps its deadline. -/
theorem Counted.keep {r : Registry σ} {l : List Timer} (h : Counted r l) {id : TaskId}
    {c c' : Control σ} (hid : id < r.nextId) (hc : r.find? id = some c)
    (hg : c'.generation = c.generation) (hd : c'.deadline = c.deadline)
    (hs : c.deadline.isSome → c'.status = .suspended) : Counted (r.put id c') l := by
  refine h.put hid hc (Nat.le_of_eq hg.symm) (fun x m => .inl m) (fun _ _ _ => rfl) ?_ ?_
  · rw [hg, hd]; exact h.once id c hc
  · rw [hd]; exact hs

theorem Counted.drop {r : Registry σ} {l : List Timer} (h : Counted r l) (id : TaskId) :
    Counted (r.drop id) l := by
  have hf : ∀ {j c}, (r.drop id).find? j = some c → r.find? j = some c := by
    intro j c hj
    rw [find?_drop] at hj
    split at hj
    · cases hj
    · exact hj
  exact ⟨h.used, fun x m c hc => h.past x m c (hf hc), fun j c hc => h.once j c (hf hc),
    fun j c hc => h.suspended j c (hf hc)⟩

/-- A timer that does not belong to the present generation of its task can be dropped. -/
theorem Counted.tail {r : Registry σ} {x : Timer} {l : List Timer} (h : Counted r (x :: l))
    (hx : ∀ c, r.find? x.task = some c → c.generation ≠ x.generation) : Counted r l := by
  refine ⟨fun y m => h.used y (List.mem_cons_of_mem _ m),
    fun y m => h.past y (List.mem_cons_of_mem _ m), ?_, h.suspended⟩
  intro id c hc
  rw [← h.once id c hc, List.map_cons, List.count_cons]
  have hne : ¬ x.key = (id, c.generation) := by
    intro e
    obtain ⟨rfl, hg⟩ := Timer.key_eq.1 e
    exact hx c hc hg.symm
  simp [hne]

theorem Counted.enroll {r : Registry σ} {l : List Timer} (h : Counted r l) {c : Control σ}
    (hd : c.deadline = none) : Counted (r.enroll c) l := by
  have hnew : ∀ g, (l.map Timer.key).count (r.nextId, g) = 0 := by
    intro g
    refine List.count_eq_zero.2 fun m => ?_
    obtain ⟨x, hx, e⟩ := List.mem_map.1 m
    have hlt := h.used x hx
    rw [(Timer.key_eq.1 e).1] at hlt
    exact Nat.lt_irrefl _ hlt
  have hf : ∀ {j cj}, (r.enroll c).find? j = some cj → r.find? j = some cj ∨ j = r.nextId ∧ cj = c := by
    intro j cj hj
    rw [find?_enroll] at hj
    rcases Option.or_eq_some_iff.1 hj with hj | ⟨-, hj⟩
    · exact .inl hj
    · split at hj
      · cases hj; right; exact ⟨by assumption, rfl⟩
      · cases hj
  refine ⟨fun x m => Nat.lt_succ_of_lt (h.used x m), ?_, ?_, ?_⟩
  · intro x m cx hx
    rcases hf hx with hx | ⟨e, -⟩
    · exact h.past x m cx hx
    · exact absurd (h.used x m) (by rw [e]; exact Nat.lt_irrefl _)
  · intro j cj hj
    rcases hf hj with hj | ⟨rfl, rfl⟩
    · exact h.once j cj hj
    · rw [hnew, hd]; rfl
  · intro j cj hj
    rcases hf hj with hj | ⟨-, rfl⟩
    · exact h.suspended j cj hj
    · rw [hd]; intro hn; cases hn

/-! ## Timers fire -/

/-- A live timer has fired. It is stale once its task is woken, and is gone. -/
theorem Counted.wake {r : Registry σ} {x : Timer} {l : List Timer} (h : Counted r (x :: l))
    {c : Control σ} (hc : r.find? x.task = some c) (hg : c.generation = x.generation) (clock : Clock)
    (v : Value) :
    Counted ((r.put x.task (c.requeue clock v)).announce x.task) l ∧
      ((r.put x.task (c.requeue clock v)).announce x.task).staleOf l = r.staleOf (x :: l) := by
  have hself : ((r.put x.task (c.requeue clock v)).announce x.task).find? x.task =
      some (c.requeue clock v) := find?_put_self _ hc
  have hother : ∀ j, j ≠ x.task →
      ((r.put x.task (c.requeue clock v)).announce x.task).find? j = r.find? j :=
    fun j hj => find?_put_of_ne _ hj
  have h₁ : Counted ((r.put x.task (c.requeue clock v)).announce x.task) (x :: l) :=
    (h.renew (h.used x List.mem_cons_self) hc (Nat.lt_succ_self _) rfl).congr rfl rfl
  generalize (r.put x.task (c.requeue clock v)).announce x.task = r₁ at hself hother h₁
  have hpast : ∀ c', r₁.find? x.task = some c' → c'.generation ≠ x.generation := by
    intro c' hc'
    rw [hself] at hc'
    cases hc'
    rw [← hg]; exact Nat.succ_ne_self _
  refine ⟨h₁.tail hpast, ?_⟩
  have hstale : r₁.isLive x = false := isLive_eq_false fun c' hc' _ => hpast c' hc'
  have hsum := h.staleOf_eq h₁ hother
  rw [deadline?_eq hc, h.due List.mem_cons_self hc hg, deadline?_eq hself, staleOf_cons r₁, hstale] at hsum
  simpa [Control.requeue] using hsum

/-- A stale timer has fired and is gone. -/
theorem Counted.skip {r : Registry σ} {x : Timer} {l : List Timer} (h : Counted r (x :: l))
    (hx : ∀ c, r.find? x.task = some c → c.status = .suspended → c.generation ≠ x.generation) :
    Counted r l ∧ r.staleOf (x :: l) = r.staleOf l + 1 := by
  refine ⟨h.tail fun c hc hg => ?_, by simp [staleOf_cons, isLive_eq_false hx]⟩
  exact hx c hc (h.suspended _ c hc (h.due List.mem_cons_self hc hg)) hg

/-- Timers fire one after the other. Those that are left, with the ones on the wheel, stay tied to the
registry, and the ignored ones are those that were stale. -/
theorem foldl_fire_counted (clock : Clock) (p : List Timer) :
    ∀ (l : List Timer) (r : Registry σ) (woken ignored : Nat), Counted r (l ++ p) →
      ∃ r' woken' ignored', l.foldl (fire clock) (r, woken, ignored) = (r', woken', ignored') ∧
        Counted r' p ∧ r'.timers = r.timers ∧ r.staleOf (l ++ p) + ignored = r'.staleOf p + ignored'
  | [], r, woken, ignored, h => ⟨r, woken, ignored, rfl, h, rfl, rfl⟩
  | x :: l, r, woken, ignored, h => by
    rw [List.cons_append] at h ⊢
    rw [List.foldl_cons]
    rcases fire_cases clock r woken ignored x with ⟨c, hc, -, hg, e⟩ | ⟨hx, e⟩
    · obtain ⟨hw, hst⟩ := h.wake hc hg clock (.int 0)
      rw [e, ← hst]
      exact foldl_fire_counted clock p l _ (woken + 1) ignored hw
    · obtain ⟨hk, hst⟩ := h.skip hx
      rw [e, hst, Nat.add_assoc, Nat.add_comm 1]
      exact foldl_fire_counted clock p l r woken (ignored + 1) hk

/-! ## A new wheel -/

/-- The timed suspension of a task, if it is in one. -/
def timedSuspension? (clock : Clock) (e : TaskId × Control σ) : Option (TaskId × Nat × Nat) :=
  if e.2.status = .suspended then
    e.2.deadline.map fun date => (e.1, e.2.generation, max (date - clock.date) nanosPerMilli)
  else none

theorem timedSuspensions_eq (r : Registry σ) (clock : Clock) :
    r.timedSuspensions clock = r.tasks.filterMap (timedSuspension? clock) := rfl

theorem timedSuspension?_eq_some {clock : Clock} {e : TaskId × Control σ} {x : TaskId × Nat × Nat} :
    timedSuspension? clock e = some x ↔ e.2.status = .suspended ∧ ∃ date, e.2.deadline = some date ∧
      (e.1, e.2.generation, max (date - clock.date) nanosPerMilli) = x := by
  unfold timedSuspension?
  by_cases hs : e.2.status = .suspended
  · simp [hs, Option.map_eq_some_iff]
  · simp [hs]

theorem millis_le_timedSuspensions (r : Registry σ) (clock : Clock) :
    ∀ x ∈ r.timedSuspensions clock, nanosPerMilli ≤ x.2.2 := by
  intro x m
  rw [timedSuspensions_eq] at m
  obtain ⟨e, -, h⟩ := List.mem_filterMap.1 m
  obtain ⟨-, date, -, rfl⟩ := timedSuspension?_eq_some.1 h
  exact Nat.le_max_right _ _

theorem nodup_timedSuspensions {r : Registry σ} (hn : r.ids.Nodup) (clock : Clock) :
    ((r.timedSuspensions clock).map fun x => (x.1, x.2.1)).Nodup := by
  have hne : r.tasks.Pairwise fun a b => a.1 ≠ b.1 := List.pairwise_map.1 hn
  rw [timedSuspensions_eq]
  refine List.pairwise_map.2 (hne.filterMap _ ?_)
  intro a b hab x hx y hy e
  obtain ⟨-, date, -, rfl⟩ := timedSuspension?_eq_some.1 hx
  obtain ⟨-, date', -, rfl⟩ := timedSuspension?_eq_some.1 hy
  exact hab (Prod.mk.inj e).1

theorem mem_timedSuspensions {r : Registry σ} (hn : r.ids.Nodup) {clock : Clock} {id : TaskId}
    {generation : Nat} :
    (id, generation) ∈ (r.timedSuspensions clock).map (fun x => (x.1, x.2.1)) ↔
      ∃ c, r.find? id = some c ∧ c.status = .suspended ∧ c.deadline.isSome = true ∧
        c.generation = generation := by
  simp only [timedSuspensions_eq, List.mem_map, List.mem_filterMap, timedSuspension?_eq_some]
  constructor
  · rintro ⟨x, ⟨e, m, hs, date, hd, rfl⟩, hx⟩
    cases hx
    exact ⟨e.2, (mem_tasks hn).1 m, hs, by rw [hd]; rfl, rfl⟩
  · rintro ⟨c, hc, hs, hd, rfl⟩
    obtain ⟨date, hd⟩ := Option.isSome_iff_exists.1 hd
    exact ⟨_, ⟨(id, c), (mem_tasks hn).2 hc, hs, date, hd, rfl⟩, rfl⟩

/-- A wheel that is set up anew has the live timers. -/
theorem Counted.rebuild {r : Registry σ} {l : List Timer} (h : Counted r l) (hn : r.ids.Nodup)
    (hb : ∀ id c, r.find? id = some c → id < r.nextId) (clock : Clock) :
    Counted r (Timers.rebuild clock.now (r.timedSuspensions clock)).pending ∧
      r.staleOf (Timers.rebuild clock.now (r.timedSuspensions clock)).pending = 0 := by
  have hk := (Timers.rebuild_spec clock.now (millis_le_timedSuspensions r clock)).1
  generalize (Timers.rebuild clock.now (r.timedSuspensions clock)).pending = l' at hk
  have hlive : ∀ x ∈ l', ∃ c, r.find? x.task = some c ∧ c.status = .suspended ∧
      c.generation = x.generation := by
    intro x m
    have hx : x.key ∈ l'.map Timer.key := List.mem_map.2 ⟨x, m, rfl⟩
    rw [hk] at hx
    obtain ⟨c, hc, hs, -, hg⟩ := (mem_timedSuspensions hn).1 hx
    exact ⟨c, hc, hs, hg⟩
  refine ⟨⟨?_, ?_, ?_, h.suspended⟩, ?_⟩
  · intro x m
    obtain ⟨c, hc, -, -⟩ := hlive x m
    exact hb _ c hc
  · intro x m c hc
    obtain ⟨c', hc', -, hg⟩ := hlive x m
    rw [hc] at hc'
    cases hc'
    exact Nat.le_of_eq hg.symm
  · intro id c hc
    rw [hk, (nodup_timedSuspensions hn clock).count]
    by_cases hd : c.deadline.isSome = true
    · rw [if_pos hd, if_pos]
      exact (mem_timedSuspensions hn).2 ⟨c, hc, h.suspended id c hc hd, hd, rfl⟩
    · rw [if_neg hd, if_neg]
      intro m
      obtain ⟨c', hc', -, hd', -⟩ := (mem_timedSuspensions hn).1 m
      rw [hc] at hc'
      cases hc'
      exact hd hd'
  · exact List.countP_eq_zero.2 fun x m => by simpa using isLive_iff.2 (hlive x m)

/-! ## The two numbers -/

structure TimersInv (r : Registry σ) : Prop where
  counted : Counted r r.timers.pending
  entries : r.timers.entries = r.timers.pending.length
  stale : r.timers.stale = r.staleOf r.timers.pending

theorem timersInv_empty (now maxDepth : Nat) : TimersInv (empty now maxDepth : Registry σ) :=
  ⟨counted_nil rfl, rfl, rfl⟩

/-- A change of one task keeps the numbers exact if it counts the timer that goes stale. -/
theorem TimersInv.change {r r' : Registry σ} (h : TimersInv r) {id : TaskId} {n : Nat}
    (hc : Counted r' r.timers.pending) (hf : ∀ j, j ≠ id → r'.find? j = r.find? j)
    (ht : r'.timers = { r.timers with stale := r.timers.stale + n })
    (hn : n + (if (r'.deadline? id).isSome then 1 else 0) = if (r.deadline? id).isSome then 1 else 0) :
    TimersInv r' := by
  have hs := h.counted.staleOf_eq hc hf
  refine ⟨by rw [ht]; exact hc, by rw [ht]; exact h.entries, ?_⟩
  rw [ht]
  show r.timers.stale + n = r'.staleOf r.timers.pending
  rw [h.stale]
  omega

/-- A task begins a new generation without a deadline, and its timer is counted as stale. -/
theorem TimersInv.renew {r : Registry σ} (h : TimersInv r) {id : TaskId} {c c' : Control σ}
    (hid : id < r.nextId) (hc : r.find? id = some c) (hg : c.generation < c'.generation)
    (hd : c'.deadline = none) : TimersInv ((r.put id c').cancelTimer c) := by
  rw [cancelTimer_eq]
  have hself := find?_put_self c' hc
  refine h.change ((h.counted.renew hid hc hg hd).congr rfl rfl) (fun j hj => find?_put_of_ne c' hj) rfl ?_
  show _ + (if ((r.put id c').deadline? id).isSome then 1 else 0) = _
  rw [deadline?_eq hc, deadline?_eq hself, hd]
  rfl

/-- A task leaves, and its timer is counted as stale. -/
theorem TimersInv.drop {r : Registry σ} (h : TimersInv r) {id : TaskId} {c : Control σ}
    (hc : r.find? id = some c) : TimersInv ((r.drop id).cancelTimer c) := by
  rw [cancelTimer_eq]
  have hother : ∀ j, j ≠ id → (r.drop id).find? j = r.find? j := by
    intro j hj; rw [find?_drop, if_neg hj]
  have hgone : (r.drop id).deadline? id = none := by simp [deadline?, find?_drop]
  refine h.change ((h.counted.drop id).congr rfl rfl) hother rfl ?_
  show _ + (if ((r.drop id).deadline? id).isSome then 1 else 0) = _
  rw [deadline?_eq hc, hgone]
  rfl

/-- After the timers that are due have fired, the wheel has lost them, and the ignored ones are those of
them that were stale. -/
theorem TimersInv.fired {r : Registry σ} (h : TimersInv r) (clock : Clock) :
    (r.timers.advance clock.now).1.length ≤ r.timers.entries ∧
      (r.fired clock).2.2 ≤ (r.fired clock).1.timers.stale ∧
      TimersInv ((r.fired clock).1.uncount (r.fired clock).2.2) := by
  have hp := r.timers.advance_perm clock.now
  have hc : Counted { r with timers := (r.timers.advance clock.now).2 }
      ((r.timers.advance clock.now).1 ++ (r.timers.advance clock.now).2.pending) :=
    (h.counted.perm hp).congr rfl rfl
  obtain ⟨r', woken, ignored, e, hc', htm, hst⟩ := foldl_fire_counted clock _ _ _ 0 0 hc
  have hlen := hp.length_eq
  rw [List.length_append] at hlen
  have hstale : r'.timers.stale = r'.staleOf (r.timers.advance clock.now).2.pending + ignored := by
    rw [htm, ← hst]
    show (r.timers.advance clock.now).2.stale = _
    rw [Timers.advance_stale, h.stale]
    exact (hp.countP_eq _).symm
  have hfired : r.fired clock = (r', woken, ignored) := e
  rw [hfired]
  refine ⟨by rw [h.entries]; omega, by show ignored ≤ r'.timers.stale; omega, ?_, ?_, ?_⟩
  · show Counted _ r'.timers.pending
    rw [htm]; exact hc'.congr rfl rfl
  · show r'.timers.entries = r'.timers.pending.length
    rw [htm]
    show (r.timers.advance clock.now).2.entries = (r.timers.advance clock.now).2.pending.length
    rw [Timers.advance_entries, h.entries]
    omega
  · show r'.timers.stale - ignored = r'.staleOf r'.timers.pending
    rw [hstale, htm]
    exact Nat.add_sub_cancel _ _

theorem TimersInv.compact {r : Registry σ} (h : TimersInv r) (hn : r.ids.Nodup)
    (hb : ∀ id c, r.find? id = some c → id < r.nextId) (clock : Clock) :
    TimersInv (r.compact clock) ∧ (r.compact clock).timers.stale < Timers.compactAt := by
  unfold Registry.compact
  split
  · rename_i hlt; exact ⟨h, hlt⟩
  · obtain ⟨-, he, hs⟩ := Timers.rebuild_spec clock.now (millis_le_timedSuspensions r clock)
    obtain ⟨hc, hz⟩ := h.counted.rebuild hn hb clock
    refine ⟨⟨hc.congr rfl rfl, he, hs.trans hz.symm⟩, ?_⟩
    show (Timers.rebuild clock.now (r.timedSuspensions clock)).stale < _
    rw [hs]; decide

theorem TimersInv.congr {r r' : Registry σ} (h : TimersInv r) (ht : r'.tasks = r.tasks)
    (hn : r'.nextId = r.nextId) (hw : r'.timers = r.timers) : TimersInv r' := by
  have hst : ∀ l, r'.staleOf l = r.staleOf l := fun l =>
    List.countP_congr fun x _ => by rw [isLive_congr (find?_congr ht x.task)]
  refine ⟨?_, ?_, ?_⟩
  · rw [hw]; exact h.counted.congr ht hn
  · rw [hw]; exact h.entries
  · rw [hw, hst]; exact h.stale

end Registry

namespace TaskQueue

open Registry

variable {σ : Type}

/-! ## The events -/

theorem timersInv_create {r : Registry σ} (h : TimersInv r) (hnew : r.find? r.nextId = none)
    (clock : Clock) (entry : Frame) (program : σ) : TimersInv (r.create clock entry program).2 := by
  rcases r.create_cases clock entry program with e | ⟨calls, e⟩
  · rw [e]
    exact ⟨⟨fun x m => Nat.lt_succ_of_lt (h.counted.used x m), h.counted.past, h.counted.once,
      h.counted.suspended⟩, h.entries, h.stale⟩
  · rw [e]
    have hother : ∀ j, j ≠ r.nextId →
        (r.enroll (r.newcomer clock entry calls program)).find? j = r.find? j := by
      intro j hj; simp [find?_enroll, hj]
    refine h.change (n := 0) (h.counted.enroll rfl) hother rfl ?_
    simp [deadline?, find?_enroll, hnew, newcomer]

theorem timersInv_lend {d : TaskQueue σ} (hi : Inv d) (h : TimersInv d.registry) (id : TaskId) :
    TimersInv (d.lend id).registry := by
  rcases d.lend_cases id with ⟨c, t, hc, hq, -, e⟩ | ⟨-, e⟩
  · rw [e]
    have hd : c.deadline = none := h.counted.deadline_eq_none hc (by rw [hq]; decide)
    have hk : Counted (d.registry.put id c.lent) d.registry.timers.pending :=
      h.counted.keep (hi.bound id c hc) hc rfl rfl (by rw [hd]; intro hn; cases hn)
    refine h.change (n := 0) hk (fun j hj => find?_put_of_ne _ hj) rfl ?_
    rw [deadline?_eq hc, deadline?_eq (find?_put_self c.lent hc), Nat.zero_add]
    rfl
  · rw [e]; exact h

theorem timersInv_suspend {d : TaskQueue σ} (hi : Inv d) (h : TimersInv d.registry) (clock : Clock)
    (t : Task σ) (s : Suspension) : TimersInv (d.registry.suspend clock t s) := by
  rcases d.registry.suspend_cases clock t s with ⟨-, e⟩ | ⟨c, hc, hr, hs⟩
  · rw [e]; exact h
  · have hid := hi.bound t.id c hc
    have hd : c.deadline = none := h.counted.deadline_eq_none hc (by rw [hr]; decide)
    -- a running task has no timer to be counted
    have renew : ∀ c' : Control σ, c.generation < c'.generation → c'.deadline = none →
        TimersInv (d.registry.put t.id c') := by
      intro c' hg hd'
      have := h.renew hid hc hg hd'
      rwa [cancelTimer_of_none _ hd] at this
    rcases hs with ⟨-, e⟩ | ⟨delay, date, timers, -, -, -, hins, e⟩ | ⟨delay, date, -, -, -, e⟩
    · rw [e]; exact renew _ (Nat.lt_succ_self _) rfl
    · rw [e]
      obtain ⟨due, rfl⟩ := Timers.insert?_eq_some hins
      have hg : c.generation < (c.parked t (some date)).generation := Nat.lt_succ_self _
      obtain ⟨hk, hst⟩ := h.counted.arm hid hc hd hg rfl rfl due
      refine ⟨hk.congr rfl rfl, ?_, ?_⟩
      · simp [h.entries]
      · show d.registry.timers.stale = _
        rw [h.stale]; exact hst.symm
    · rw [e]
      exact (renew _ (Nat.lt_succ_of_lt (Nat.lt_succ_self _)) rfl).congr rfl rfl rfl

theorem timersInv_complete {d : TaskQueue σ} (hi : Inv d) (h : TimersInv d.registry) {t l : Task σ}
    (o : Outcome) (hl : l ∈ d.loans) (hid : l.id = t.id) : TimersInv (d.registry.complete t.id o) := by
  cases hc : d.registry.find? t.id with
  | none => rw [complete_of_not_live o hc]; exact h
  | some c =>
    rw [complete_of_find? o hc]
    have hr := (hi.kept t.id c hc).running hl hid
    have hd : c.deadline = none := h.counted.deadline_eq_none hc (by rw [hr]; decide)
    have hdrop := h.drop hc
    rw [cancelTimer_of_none _ hd] at hdrop
    exact hdrop.congr rfl rfl rfl

theorem timersInv_advance {d : TaskQueue σ} (hi : Inv d) (h : TimersInv d.registry) (clock : Clock) :
    TimersInv (d.registry.advance clock).2 ∧
      (d.registry.advance clock).2.timers.stale < Timers.compactAt := by
  have ha := inv_advance hi clock
  have hf := (h.fired clock).2.2
  rw [advance_eq] at ha ⊢
  have hi' : Inv ⟨(d.registry.fired clock).1.uncount (d.registry.fired clock).2.2, d.loans⟩ := by
    rw [compact_eq] at ha
    exact ha.congr rfl rfl rfl
  exact hf.compact hi'.nodup hi'.bound clock

theorem timersInv_step {d d' : TaskQueue σ} {e : Event σ} (hi : Inv d) (h : TimersInv d.registry)
    (hs : d.step e = some d') : TimersInv d'.registry := by
  cases step_spec hs with
  | create clock entry program => exact timersInv_create h hi.find?_nextId clock entry program
  | dispatch id => exact timersInv_lend hi h id
  | @deal id rest _ =>
    have hi' : Inv ⟨{ d.registry with ready := rest }, d.loans⟩ := hi.congr rfl rfl rfl
    exact timersInv_lend hi' (h.congr rfl rfl rfl) id
  | @finish clock t e hm =>
    obtain ⟨⟨l, hl, hid, -⟩, -⟩ := mayEnd_iff.1 hm
    show TimersInv (d.registry.handBack clock t e)
    rcases d.registry.handBack_cases clock t e with ⟨s, -, eq⟩ | ⟨o, -, eq⟩ | ⟨-, eq⟩
    · rw [eq]; exact timersInv_suspend hi h clock t s
    · rw [eq]; exact timersInv_complete hi h o hl hid
    · rw [eq]; exact h
  | @resume clock id v who wizard r hr =>
    obtain ⟨c, hc, -, -, rfl⟩ := resume_eq_ok.1 hr
    have hg : c.generation < (c.requeue clock v).generation := Nat.lt_succ_self _
    exact (h.renew (hi.bound id c hc) hc hg rfl).congr rfl rfl rfl
  | resumeRefused => exact h
  | @kill id who wizard r hr =>
    obtain ⟨c, hc, -, rfl⟩ := kill_eq_ok.1 hr
    exact (h.drop hc).congr rfl rfl rfl
  | killRefused => exact h
  | advance clock => exact (timersInv_advance hi h clock).1
  | abort clock => exact ⟨counted_nil rfl, rfl, rfl⟩

theorem timersInv_run {now maxDepth : Nat} {es : List (Event σ)} {d : TaskQueue σ}
    (h : (empty now maxDepth).run es = some d) : TimersInv d.registry :=
  reach_induct (P := fun d => TimersInv d.registry) (Q := fun _ => True) (timersInv_empty now maxDepth)
    (fun _ _ _ hi ht _ hs => timersInv_step hi ht hs) (fun _ _ => trivial) h

/-- **The timers are counted exactly.** Whatever happened to the queue, in whatever order: the two numbers
are those of the timers on the wheel and of the stale ones among them; a task has one live timer if it is
suspended with a deadline, and none otherwise. When the timers are moved on, no more of them fire than
were counted and no more are ignored than were counted as stale; after it fewer than `compactAt` are
stale; and if a new wheel is set up then, nothing but the wheel changes. -/
theorem timers_exact {now maxDepth : Nat} {es : List (Event σ)} {d : TaskQueue σ}
    (h : (empty now maxDepth).run es = some d) :
    d.registry.timers.entries = d.registry.timers.pending.length ∧
    d.registry.timers.stale = d.registry.timers.pending.countP (!d.registry.isLive ·) ∧
    (∀ id c, (id, c) ∈ d.registry.tasks →
      d.registry.timers.pending.countP (fun x => x.task = id && d.registry.isLive x) =
        if c.status = .suspended ∧ c.deadline.isSome then 1 else 0) ∧
    ∀ clock,
      (d.registry.timers.advance clock.now).1.length ≤ d.registry.timers.entries ∧
      (d.registry.fired clock).2.2 ≤ (d.registry.fired clock).1.timers.stale ∧
      (d.registry.advance clock).2.timers.stale < Timers.compactAt ∧
      (d.registry.advance clock).2 =
        { (d.registry.fired clock).1 with timers := (d.registry.advance clock).2.timers } := by
  have hi := inv_run h
  have ht := timersInv_run h
  refine ⟨ht.entries, ht.stale, ?_, ?_⟩
  · intro id c m
    have hc := hi.mem_tasks.1 m
    have hlive := ht.counted.liveOf_eq id
    rw [deadline?_eq hc] at hlive
    refine hlive.trans ?_
    have hs := ht.counted.suspended id c hc
    by_cases hd : c.deadline.isSome = true
    · rw [if_pos hd, if_pos ⟨hs hd, hd⟩]
    · rw [if_neg hd, if_neg fun hn => hd hn.2]
  · intro clock
    obtain ⟨he, hst, -⟩ := ht.fired clock
    refine ⟨he, hst, (timersInv_advance hi ht clock).2, ?_⟩
    rw [advance_eq, compact_eq]
    rfl

/-- Two tasks are suspended for a second, and the first is resumed at once. -/
def resumedEarly : List (Event Unit) :=
  [.create {} idleFrame (), .create {} idleFrame (), .deal, .deal,
    .finish {} (idleTask 1) (.suspend (.timed nanosPerSecond)),
    .finish {} (idleTask 2) (.suspend (.timed nanosPerSecond)),
    .resume {} 1 (.int 7) .nothing false]

theorem timers_exact_resumedEarly : ∃ d : TaskQueue Unit, (empty 0 1).run resumedEarly = some d ∧
    d.registry.timers.entries = 2 ∧ d.registry.timers.stale = 1 ∧
    d.registry.timers.pending.countP (!d.registry.isLive ·) = 1 ∧
    (∀ id c, (id, c) ∈ d.registry.tasks →
      d.registry.timers.pending.countP (fun x => x.task = id && d.registry.isLive x) =
        if c.status = .suspended ∧ c.deadline.isSome then 1 else 0) ∧
    ∀ clock, (d.registry.fired clock).2.2 ≤ (d.registry.fired clock).1.timers.stale := by
  refine ⟨_, rfl, rfl, rfl, ?_, ?_, ?_⟩
  · exact (@timers_exact Unit 0 1 resumedEarly _ rfl).2.1.symm
  · exact (@timers_exact Unit 0 1 resumedEarly _ rfl).2.2.1
  · intro clock
    exact ((@timers_exact Unit 0 1 resumedEarly _ rfl).2.2.2 clock).2.1

end TaskQueue

end MooWorld
