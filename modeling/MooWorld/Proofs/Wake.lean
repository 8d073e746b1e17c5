import MooWorld.Proofs.Effect
import MooWorld.Proofs.Schedule
/-!
# Wake values are delivered once

A program that takes the wake value in every step has seen all values with which its task returned to the
queue, in their order, but for the last one while the task carries it. `WakeInv` is this invariant of a
history of the pool, for a task in the registry (`Stored`), on loan (`Lent`) and gone; there is one lemma
for each move. So the program has seen all values when the task is done, and all but perhaps the last when
the task is killed (`wake_delivery`).
-/
namespace MooWorld.WorkerPool

open TaskQueue (Event Inv)

variable {σ : Type}

/-- A task that the registry holds carries what its program has not seen. -/
structure Stored (P : List Value → σ → Prop) (seen given : List Value) (suspensions : Nat) (c : Control σ)
    (t : Task σ) : Prop where
  carries : seen ++ t.wake.toList = given
  program : P seen t.program
  asleep : c.status = .suspended → t.wake = none ∧ given.length < suspensions

/-- A task on loan carries what its program has not seen, which is nothing once it has stepped. -/
structure Lent (P : List Value → σ → Prop) (maxTicks : Nat) (seen given : List Value) (l : Loan σ) : Prop where
  carries : seen ++ l.task.wake.toList = given
  program : P seen l.task.program
  taken : l.ended = none → l.task.ticks ≠ 0 → l.task.wake = none
  done : ∀ e, l.ended = some e → e ≠ .killed → l.task.wake = none
  stepped : ∀ sus, l.ended = some (.suspend sus) → 0 < maxTicks

/-- What holds of the values that the program of a task has seen, of those that the task was given when it
returned to the queue, and of the number of its suspensions. -/
structure WakeInv (P : List Value → σ → Prop) (maxTicks : Nat) (r : Registry σ) (loans : List (Loan σ))
    (id : TaskId) (seen given : List Value) (suspensions : Nat) : Prop where
  stored : ∀ c t, r.find? id = some c → c.task = some t → Stored P seen given suspensions c t
  lent : ∀ l ∈ loans, l.task.id = id → Lent P maxTicks seen given l
  gone : r.find? id = none → id ∉ r.killed → seen = given
  unborn : r.nextId ≤ id → seen = []
  close : ∃ lost, seen ++ lost = given ∧ lost.length ≤ 1
  counted : given.length ≤ suspensions
  stepped : 0 < suspensions → 0 < maxTicks

section Lemmas

variable {P : List Value → σ → Prop} {maxTicks n : Nat} {r r' : Registry σ} {loans loans' l₁ l₂ : List (Loan σ)}
  {id : TaskId} {seen given : List Value}

theorem seen_eq_given {wake : Option Value} (h : seen ++ wake.toList = given) (hw : wake = none) :
    seen = given := by
  rwa [hw, Option.toList_none, List.append_nil] at h

/-! ## The places of a task -/

theorem wakeInv_empty (now maxDepth : Nat) :
    WakeInv P maxTicks (.empty now maxDepth : Registry σ) [] id [] [] 0 := by
  refine ⟨?_, ?_, fun _ _ => rfl, fun _ => rfl, ⟨[], rfl, Nat.zero_le _⟩, Nat.le_refl _, nofun⟩
  · intro c t hc; cases hc
  · intro l m; cases m

/-- A task that is queued or suspended is not on loan. -/
theorem wakeInv_stored {c : Control σ} {t : Task σ} (hi : Inv ⟨r, loans.map (·.task)⟩)
    (hc : r.find? id = some c) (hr : c.status ≠ .running) (ht : c.task = some t)
    (hs : Stored P seen given n c t) (hn : given.length ≤ n) (hstep : 0 < n → 0 < maxTicks) :
    WakeInv P maxTicks r loans id seen given n := by
  refine ⟨?_, ?_, ?_, fun hle => absurd (hi.bound id c hc) (Nat.not_lt.2 hle), ⟨_, hs.carries, ?_⟩, hn, hstep⟩
  · intro c' t' hc' ht'
    rw [hc] at hc'
    cases hc'
    rw [ht] at ht'
    cases ht'
    exact hs
  · intro l m e
    exact absurd ((hi.kept id c hc).running (List.mem_map.2 ⟨l, m, rfl⟩) e) hr
  · intro hg; rw [hc] at hg; cases hg
  · cases t.wake <;> simp

theorem WakeInv.congr (h : WakeInv P maxTicks r loans id seen given n) (hf : r'.find? id = r.find? id)
    (hk : id ∈ r.killed → id ∈ r'.killed) (hnext : r.nextId ≤ r'.nextId)
    (hl : ∀ l ∈ loans', l.task.id = id → l ∈ loans) :
    WakeInv P maxTicks r' loans' id seen given n :=
  ⟨fun c t hc => h.stored c t (hf.symm.trans hc), fun l m e => h.lent l (hl l m e) e,
    fun hg hn => h.gone (hf.symm.trans hg) (mt hk hn), fun hle => h.unborn (Nat.le_trans hnext hle),
    h.close, h.counted, h.stepped⟩

/-! ## Calls from outside -/

/-- A suspended task returns to the queue. -/
theorem WakeInv.wake {c : Control σ} {clock : Clock} {v : Value}
    (h : WakeInv P maxTicks r loans id seen given n) (hi : Inv ⟨r, loans.map (·.task)⟩)
    (hi' : Inv ⟨r', loans.map (·.task)⟩) (hc : r.find? id = some c) (hs : c.status = .suspended)
    (hc' : r'.find? id = some (c.requeue clock v)) :
    WakeInv P maxTicks r' loans id seen (given ++ [v]) n := by
  obtain ⟨⟨t, ht, -, -⟩, -⟩ := (hi.kept id c hc).held (by rw [hs]; decide)
  have hst := h.stored c t hc ht
  obtain ⟨hw, hlt⟩ := hst.asleep hs
  have ht' : (c.requeue clock v).task = some { t with wake := some v } := by simp [Control.requeue, ht]
  refine wakeInv_stored hi' hc' (by show Status.queued ≠ _; decide) ht'
    ⟨?_, hst.program, fun hs' => by cases hs'⟩ ?_ h.stepped
  · rw [seen_eq_given hst.carries hw]; rfl
  · rw [List.length_append]; exact hlt

/-- A task that is killed or shut down takes with it what it carried. -/
theorem WakeInv.stop (h : WakeInv P maxTicks r loans id seen given n) (hg : r'.find? id = none)
    (hk : id ∈ r'.killed) (hnext : r.nextId ≤ r'.nextId) :
    WakeInv P maxTicks r' loans id seen given n := by
  refine ⟨?_, h.lent, fun _ hn => absurd hk hn, fun hle => h.unborn (Nat.le_trans hnext hle), h.close,
    h.counted, h.stepped⟩
  intro c t hc; rw [hg] at hc; cases hc

/-- A task that a creation makes known has the next number, and the program of the creation. -/
theorem born_of_created {d d' : TaskQueue σ} {clock : Clock} {entry : Frame} {program : σ} {c : Control σ}
    (hs : d.step (.create clock entry program) = some d') (hb : d.registry.find? id = none)
    (ha : d'.registry.find? id = some c) :
    id = d.registry.nextId ∧ d.born id (.create clock entry program) = [program] := by
  cases TaskQueue.step_spec hs
  rcases d.registry.create_cases clock entry program with e | ⟨calls, e⟩
  · rw [e] at ha
    exact absurd (hb.symm.trans ha) (by simp)
  · rw [e, Registry.find?_enroll, hb] at ha
    by_cases hid : id = d.registry.nextId
    · simp [TaskQueue.born, e, hid]
    · rw [if_neg hid] at ha; cases ha

theorem WakeInv.outside {e : Event σ} (h : WakeInv P maxTicks r loans id seen given n)
    (hi : Inv ⟨r, loans.map (·.task)⟩) (ho : e.outside = true)
    (hs : TaskQueue.step ⟨r, loans.map (·.task)⟩ e = some ⟨r', loans.map (·.task)⟩)
    (hp : ∀ p ∈ TaskQueue.born id ⟨r, loans.map (·.task)⟩ e, P [] p) :
    WakeInv P maxTicks r' loans id seen (given ++ TaskQueue.requeues id ⟨r, loans.map (·.task)⟩ e) n := by
  have hk := (TaskQueue.outside_step ho hs).2
  have hnext : r.nextId ≤ r'.nextId := TaskQueue.nextId_le_step hs
  have hi' := TaskQueue.inv_step hi hs
  have ht := TaskQueue.step_transition hi hs id
  rw [TaskQueue.requeues_of_step hs]
  generalize hb : r.find? id = before, ha : r'.find? id = after at ht ⊢
  cases ht with
  | same =>
    rw [TaskQueue.requeued_same, List.append_nil]
    exact h.congr (ha.trans hb.symm) (hk id) hnext fun l m _ => m
  | @created _ _ _ _ c t hq ht hw hprog =>
    obtain ⟨hid, hborn⟩ := born_of_created hs hb ha
    have hseen : seen = given := h.gone hb fun m => (hi'.kept id c ha).clear (hk id m)
    have hP : P seen t.program := by
      rw [h.unborn (Nat.le_of_eq hid.symm)]
      exact hp _ (by rw [hborn, hprog]; exact List.mem_cons_self)
    rw [show TaskQueue.requeued _ none (some c) = [] from rfl, List.append_nil]
    refine wakeInv_stored hi' ha (by rw [hq]; decide) ht ⟨?_, hP, ?_⟩ h.counted h.stepped
    · rw [hw, hseen]; exact List.append_nil _
    · intro hsusp; rw [hq] at hsusp; cases hsusp
  | lent he => rcases he with rfl | rfl <;> cases ho
  | parked => cases ho
  | returned => cases ho
  | resumed hsusp =>
    rw [TaskQueue.requeued_of_queued (by rw [hsusp]; decide) rfl]
    exact h.wake hi hi' hb hsusp ha
  | expired hsusp =>
    rw [TaskQueue.requeued_of_queued (by rw [hsusp]; decide) rfl]
    exact h.wake hi hi' hb hsusp ha
  | completed => cases ho
  | killed c =>
    rw [TaskQueue.requeued_none, List.append_nil]
    refine h.stop ha ?_ hnext
    cases TaskQueue.step_spec hs with
    | kill hr =>
      obtain ⟨-, -, -, rfl⟩ := Registry.kill_eq_ok.1 hr
      exact List.mem_append_right _ List.mem_cons_self
    | killRefused => rw [hb] at ha; cases ha
  | aborted c =>
    rw [TaskQueue.requeued_none, List.append_nil]
    refine h.stop ha ?_ hnext
    cases TaskQueue.step_spec hs with
    | abort => exact List.mem_append_right _ (Registry.mem_ids.2 (Registry.valid_iff.2 ⟨c, hb⟩))

theorem WakeInv.calls {es : List (Event σ)} : ∀ {r r' : Registry σ} {given : List Value},
    WakeInv P maxTicks r loans id seen given n → Inv ⟨r, loans.map (·.task)⟩ →
    (∀ e ∈ es, e.outside = true) →
    TaskQueue.run ⟨r, loans.map (·.task)⟩ es = some ⟨r', loans.map (·.task)⟩ →
    (∀ p ∈ TaskQueue.gather (TaskQueue.born id) ⟨r, loans.map (·.task)⟩ es, P [] p) →
    WakeInv P maxTicks r' loans id seen
      (given ++ TaskQueue.gather (TaskQueue.requeues id) ⟨r, loans.map (·.task)⟩ es) n := by
  induction es with
  | nil =>
    intro r r' given h _ _ hr _
    cases hr
    simpa [TaskQueue.gather] using h
  | cons e es ih =>
    intro r r' given h hi ho hr hp
    obtain ⟨⟨r₁, loans₁⟩, hs, hr'⟩ := TaskQueue.run_cons.1 hr
    have hloans : loans₁ = loans.map (·.task) := (TaskQueue.outside_step (ho e List.mem_cons_self) hs).1
    subst hloans
    rw [TaskQueue.gather_cons hs] at hp ⊢
    rw [← List.append_assoc]
    refine ih (h.outside hi (ho e List.mem_cons_self) hs fun p m => hp p (List.mem_append_left _ m))
      (TaskQueue.inv_step hi hs) (fun e' m => ho e' (List.mem_cons_of_mem _ m)) hr' ?_
    exact fun p m => hp p (List.mem_append_right _ m)

/-! ## Loans -/

/-- A queued task is lent out, and a slice of it begins. -/
theorem WakeInv.lend {j : TaskId} {c : Control σ} {t : Task σ}
    (h : WakeInv P maxTicks r loans id seen given n) (hi : Inv ⟨r, loans.map (·.task)⟩)
    (hc : r.find? j = some c) (hq : c.status = .queued) (ht : c.task = some t) :
    WakeInv P maxTicks (r.put j c.lent) (loans ++ [⟨t.fresh, none⟩]) id seen given n := by
  by_cases e : id = j
  · subst e
    have hself := Registry.find?_put_self c.lent hc
    have hst := h.stored c t hc ht
    refine ⟨?_, ?_, ?_, h.unborn, h.close, h.counted, h.stepped⟩
    · intro c' t' hc' ht'
      rw [hself] at hc'; cases hc'; cases ht'
    · intro l m el
      rcases List.mem_append.1 m with m | m
      · exact h.lent l m el
      · rw [List.mem_singleton.1 m]
        exact ⟨hst.carries, hst.program, fun _ hne => absurd rfl hne, nofun, nofun⟩
    · intro hg; rw [hself] at hg; cases hg
  · refine h.congr (Registry.find?_put_of_ne _ e) (fun m => m) (Nat.le_refl _) ?_
    obtain ⟨⟨t', ht', hid, -⟩, -⟩ := (hi.kept j c hc).held (by rw [hq]; decide)
    rw [ht] at ht'
    cases ht'
    intro l m el
    rcases List.mem_append.1 m with m | m
    · exact m
    · rw [List.mem_singleton.1 m] at el
      exact absurd (el.symm.trans hid) e

/-- A task on loan takes a turn. -/
theorem WakeInv.turn {t t' : Task σ} {e : Option SliceEnd} {seen' : List Value}
    (h : WakeInv P maxTicks r (l₁ ++ ⟨t, none⟩ :: l₂) id seen given n)
    (hi : Inv ⟨r, (l₁ ++ ⟨t, none⟩ :: l₂).map (·.task)⟩) (hout : ∀ l ∈ l₁ ++ l₂, l.task.id ≠ t.id)
    (hid : t'.id = t.id) (hne : t.id ≠ id → seen' = seen)
    (hnew : t.id = id → Lent P maxTicks seen' given ⟨t', e⟩) :
    WakeInv P maxTicks r (l₁ ++ ⟨t', e⟩ :: l₂) id seen' given n := by
  have hother : ∀ l ∈ l₁ ++ ⟨t', e⟩ :: l₂, l = ⟨t', e⟩ ∨ l ∈ l₁ ++ l₂ := fun l m =>
    List.mem_cons.1 (List.perm_middle.mem_iff.1 m)
  by_cases e' : t.id = id
  · subst e'
    have hl : t ∈ (l₁ ++ (⟨t, none⟩ : Loan σ) :: l₂).map (·.task) := by simp
    have hloan := hnew rfl
    refine ⟨?_, ?_, ?_, ?_, ⟨_, hloan.carries, ?_⟩, h.counted, h.stepped⟩
    · intro c t'' hc ht
      have hk := hi.kept _ c hc
      rw [(hk.lent (hk.running hl rfl)).1] at ht; cases ht
    · intro l m el
      rcases hother l m with rfl | m
      · exact hloan
      · exact absurd el (hout l m)
    · intro hg hn
      exact absurd (hi.orphan t hl hg) hn
    · exact fun hle => absurd (hi.loaned t hl) (Nat.not_lt.2 hle)
    · cases t'.wake <;> simp
  · rw [hne e']
    refine h.congr rfl (fun m => m) (Nat.le_refl _) fun l m el => ?_
    rcases hother l m with rfl | m
    · exact absurd (hid.symm.trans el) e'
    · exact List.perm_middle.mem_iff.2 (List.mem_cons_of_mem _ m)

/-- A task whose ticks are used up carries no wake value: it has stepped in this slice, or no task ever
has. -/
theorem WakeInv.tired {l : Loan σ} (h : WakeInv P maxTicks r loans id seen given n) (hl : l ∈ loans)
    (hid : l.task.id = id) (he : l.ended = none) (ht : maxTicks ≤ l.task.ticks) : l.task.wake = none := by
  have hloan := h.lent l hl hid
  by_cases h0 : l.task.ticks = 0
  · have hn : ¬ 0 < n := fun hpos => by have := h.stepped hpos; omega
    have hlen := h.counted
    rw [← hloan.carries, List.length_append] at hlen
    have hzero : l.task.wake.toList.length = 0 := by omega
    cases hw : l.task.wake with
    | none => rfl
    | some v => rw [hw] at hzero; cases hzero
  · exact hloan.taken he h0

/-- A task comes back at the end of its slice. -/
theorem WakeInv.back {t : Task σ} {e : SliceEnd} {clock : Clock}
    (h : WakeInv P maxTicks r (l₁ ++ ⟨t, some e⟩ :: l₂) id seen given n)
    (hi : Inv ⟨r, (l₁ ++ ⟨t, some e⟩ :: l₂).map (·.task)⟩) (hout : ∀ l ∈ l₁ ++ l₂, l.task.id ≠ t.id)
    (hk : r'.killed = r.killed)
    (hs : TaskQueue.step ⟨r, (l₁ ++ ⟨t, some e⟩ :: l₂).map (·.task)⟩ (.finish clock t e) =
      some ⟨r', (l₁ ++ l₂).map (·.task)⟩) :
    WakeInv P maxTicks r' (l₁ ++ l₂) id seen
      (given ++ TaskQueue.requeues id ⟨r, (l₁ ++ ⟨t, some e⟩ :: l₂).map (·.task)⟩ (.finish clock t e))
      (n + if (Event.finish clock t e).suspends id then 1 else 0) := by
  have hl : (⟨t, some e⟩ : Loan σ) ∈ l₁ ++ ⟨t, some e⟩ :: l₂ :=
    List.mem_append_right _ List.mem_cons_self
  have ht : t ∈ (l₁ ++ (⟨t, some e⟩ : Loan σ) :: l₂).map (·.task) := List.mem_map.2 ⟨_, hl, rfl⟩
  have hi' := TaskQueue.inv_step hi hs
  have hnext : r.nextId ≤ r'.nextId := TaskQueue.nextId_le_step hs
  have hunborn : r'.nextId ≤ id → seen = [] := fun hle => h.unborn (Nat.le_trans hnext hle)
  have hloan := h.lent _ hl
  have hcount : given.length ≤ n + if (Event.finish clock t e).suspends id then 1 else 0 :=
    Nat.le_add_right_of_le h.counted
  have hstep : 0 < n + (if (Event.finish clock t e).suspends id then 1 else 0) → 0 < maxTicks := by
    intro hpos
    by_cases hsus : (Event.finish clock t e).suspends id = true
    · cases e with
      | suspend sus => exact (hloan (by simpa [Event.suspends] using hsus)).stepped sus rfl
      | _ => cases hsus
    · exact h.stepped (by simpa [hsus] using hpos)
  have htrans := TaskQueue.step_transition hi hs id
  rw [TaskQueue.requeues_of_step hs]
  generalize hb : r.find? id = before, ha : r'.find? id = after at htrans ⊢
  cases htrans with
  | same =>
    rw [TaskQueue.requeued_same, List.append_nil]
    by_cases e' : t.id = id
    · -- nobody knows the task any more, so that there is nothing to hand back
      subst e'
      refine ⟨?_, fun l m el => absurd el (hout l m), ?_, hunborn, h.close, hcount, hstep⟩
      · intro c t' hc ht'
        have hkept := hi.kept _ c (hb.trans (ha.symm.trans hc))
        rw [(hkept.lent (hkept.running ht rfl)).1] at ht'; cases ht'
      · intro hg hn
        rw [hk] at hn
        exact absurd (hi.orphan t ht (hb.trans (ha.symm.trans hg))) hn
    · have hsus : (Event.finish clock t e).suspends id = false := by
        cases e <;> simp [Event.suspends, e']
      rw [hsus]
      refine h.congr (ha.trans hb.symm) (fun m => by rw [hk]; exact m) hnext fun l m _ => ?_
      exact List.perm_middle.mem_iff.2 (List.mem_cons_of_mem _ m)
  | lent he => rcases he with he | he <;> cases he
  | @parked _ _ sus c deadline hr =>
    have hloan := hloan rfl
    have hlt : given.length < n + if (Event.finish clock t (.suspend sus)).suspends t.id then 1 else 0 := by
      simpa [Event.suspends] using Nat.lt_succ_of_le h.counted
    rw [TaskQueue.requeued_of_not_queued (by show Status.suspended ≠ _; decide), List.append_nil]
    exact wakeInv_stored hi' ha (by show Status.suspended ≠ _; decide) rfl
      ⟨hloan.carries, hloan.program, fun _ => ⟨hloan.done _ rfl nofun, hlt⟩⟩ hcount hstep
  | @returned _ _ sus c deadline hr =>
    have hloan := hloan rfl
    have hseen := seen_eq_given hloan.carries (hloan.done _ rfl nofun)
    rw [TaskQueue.requeued_of_queued (by rw [hr]; decide) rfl]
    refine wakeInv_stored hi' ha (by show Status.queued ≠ _; decide) rfl
      ⟨by rw [hseen]; rfl, hloan.program, nofun⟩ ?_ hstep
    simpa [Event.suspends] using h.counted
  | completed ho hr =>
    have hloan := hloan rfl
    have hseen := seen_eq_given hloan.carries (hloan.done _ rfl fun hkill => by rw [hkill] at ho; cases ho)
    rw [TaskQueue.requeued_none, List.append_nil]
    refine ⟨?_, fun l m el => absurd el (hout l m), fun _ _ => hseen, hunborn, h.close, hcount, hstep⟩
    intro c' t' hc'; rw [ha] at hc'; cases hc'

end Lemmas

/-! ## Histories -/

section Histories

variable {step : StepFn σ} {P : List Value → σ → Prop} {s s' : WorkerPool σ} {id : TaskId}
  {seen given : List Value} {n : Nat}

/-- What a turn shows to the program of the task, and what it leaves the task with. -/
theorem WakeInv.turn_lent {t t' : Task σ} {e : Option SliceEnd} {w : World σ} {r : Registry σ}
    {loans : List (Loan σ)} (htakes : Takes step P) (ht : t.turn step s.world = (e, t', w))
    (h : WakeInv P s.world.settings.maxTicks r loans t.id seen given n) (hl : ⟨t, none⟩ ∈ loans)
    (calls : List (Event σ)) :
    Lent P s.world.settings.maxTicks (seen ++ s.observed t.id (.turn t calls)) given ⟨t', e⟩ := by
  have hloan := h.lent _ hl rfl
  rcases t.turn_cases step s.world with ⟨hk, eq⟩ | ⟨-, hle, eq⟩ | ⟨hk, hlt, e', -, eq⟩
  · rw [eq] at ht
    cases ht
    have hnone : s.observed t.id (.turn t calls) = [] := by simp [observed, Task.shown_eq, hk]
    rw [hnone, List.append_nil]
    refine ⟨hloan.carries, hloan.program, nofun, fun e he hne => ?_, nofun⟩
    exact absurd (Option.some.inj he).symm hne
  · rw [eq] at ht
    cases ht
    have hnone : s.observed t.id (.turn t calls) = [] := by simp [observed, Task.shown_eq, Nat.not_lt.2 hle]
    rw [hnone, List.append_nil]
    have htired : t.wake = none := h.tired hl rfl rfl hle
    exact ⟨hloan.carries, hloan.program, nofun, fun _ _ _ => htired, nofun⟩
  · rw [eq] at ht
    obtain ⟨rfl, rest⟩ := Prod.mk.inj ht
    obtain ⟨rfl, rfl⟩ := Prod.mk.inj rest
    have hwake := htakes.taken seen t.program ⟨t.calls, t.wake, s.world⟩ hloan.program
    have hseen : s.observed t.id (.turn t calls) = t.wake.toList := by
      simp [observed, Task.shown_eq, hk, hlt]
    rw [hseen]
    refine ⟨?_, htakes.stays seen t.program ⟨t.calls, t.wake, s.world⟩ hloan.program, fun _ _ => hwake,
      fun _ _ _ => hwake, fun _ _ => Nat.zero_lt_of_lt hlt⟩
    rw [hloan.carries, hwake]
    exact List.append_nil _

theorem countP_suspends_eq_zero {es : List (Event σ)} (ho : ∀ e ∈ es, e.outside = true) (id : TaskId) :
    es.countP (·.suspends id) = 0 := by
  refine List.countP_eq_zero.2 fun e m => ?_
  have he := ho e m
  cases e with
  | finish => cases he
  | _ => simp [Event.suspends]

/-- Lending out a task puts none in the queue. -/
theorem requeues_dispatch {d d' : TaskQueue σ} {j : TaskId} (hi : Inv d) (hs : d.step (.dispatch j) = some d')
    (id : TaskId) : d.requeues id (.dispatch j) = [] := by
  have ht := TaskQueue.step_transition hi hs id
  rw [TaskQueue.requeues_of_step hs]
  generalize d.registry.find? id = before, d'.registry.find? id = after at ht ⊢
  cases ht with
  | same => exact TaskQueue.requeued_same _ _
  | lent => exact TaskQueue.requeued_of_not_queued (by show Status.running ≠ _; decide)

/-- What a move keeps, for programs that take the wake value in every step. -/
theorem wakeInv_step {m : Move σ} (htakes : Takes step P) (hsound : Sound s)
    (h : WakeInv P s.world.settings.maxTicks s.world.registry s.loans id seen given n)
    (hs : Step step s m s') (hp : ∀ p ∈ s.queue.gather (TaskQueue.born id) (s.events m), P [] p) :
    WakeInv P s'.world.settings.maxTicks s'.world.registry s'.loans id (seen ++ s.observed id m)
      (given ++ s.queue.gather (TaskQueue.requeues id) (s.events m))
      (n + (s.events m).countP (·.suspends id)) := by
  cases hs with
  | @call e d ho hs =>
    have hloans : d.loans = s.loans.map (·.task) := (TaskQueue.outside_step ho hs).1
    obtain ⟨r, loans⟩ := d
    subst hloans
    have hcount : [e].countP (·.suspends id) = 0 := countP_suspends_eq_zero (by simpa using ho) id
    rw [events, TaskQueue.gather_singleton] at hp
    rw [events, TaskQueue.gather_singleton, hcount, show s.observed id (.call e) = [] from rfl, List.append_nil]
    exact h.outside hsound.inv ho hs hp
  | @lend j t r hd =>
    have hstep := step_lend hd
    obtain ⟨c, hc, hq, ht, rfl⟩ := Registry.dispatch_eq_some.1 hd
    rw [events, TaskQueue.gather_singleton, requeues_dispatch hsound.inv hstep]
    simpa [observed, Event.suspends] using h.lend hsound.inv hc hq ht
  | @turn l₁ l₂ t t' calls e w hl ht ha =>
    obtain ⟨w₀, loans⟩ := s
    obtain rfl : loans = _ := hl
    -- the calls come first, with the task as it was, and then the task is exchanged
    have h₁ := h.calls hsound.inv ha.outside ha.run hp
    rw [events, countP_suspends_eq_zero ha.outside, ha.settings]
    refine h₁.turn (hsound.inv.run ha.run) (hsound.split rfl).2 (Task.turn_spec ht).1 (fun hne => ?_)
      fun e' => ?_
    · simp [observed, hne]
    · subst e'
      exact h₁.turn_lent htakes ht (List.mem_append_right _ List.mem_cons_self) calls
  | @back l₁ l₂ t e hl =>
    obtain ⟨w₀, loans⟩ := s
    obtain rfl : loans = _ := hl
    have hstep := hsound.step_back rfl
    rw [World.finish_eq] at hstep ⊢
    rw [events, TaskQueue.gather_singleton, List.countP_singleton, show observed id _ (.back t e) = [] from rfl,
      List.append_nil]
    exact h.back hsound.inv (hsound.split rfl).2 (TaskQueue.handBack_killed _ _ _ _) hstep
  | pass clock store quota ready =>
    rw [show s.observed id _ = [] from rfl, List.append_nil, events, TaskQueue.gather, List.append_nil]
    exact h.congr rfl (fun m => m) (Nat.le_refl _) fun l m _ => m

theorem history_wakeInv (htakes : Takes step P) (hc : History step (P []) id s seen given n) :
    WakeInv P s.world.settings.maxTicks s.world.registry s.loans id seen given n := by
  induction hc with
  | @start w now maxDepth h => rw [h]; exact wakeInv_empty now maxDepth
  | move hc hs hp ih => exact wakeInv_step htakes (history_sound hc) ih hs hp

end Histories

/-- **A suspension loses nothing, and wake values are delivered once, in order.** A task that comes back to
be suspended, after any run, and is found in the queue later without having been lent out in between, is
lent out as it came, but for its wake value: that is the value of the one event that put it back in the
queue, which is what it was resumed with, or zero.

Take any history of the worker pool, and a task whose program takes the wake value in every step. The
values that the steps of the program were given are those with which the task returned to the queue, in
their order, but for at most the last one. A live task carries what its program has not seen, in the
registry or on loan, and all that is known of a program that was given these values, and no others, holds of
its program; the program of a task that is done, and was not killed or shut down, has seen all. There are no
more values than the task had suspensions. If programs act on the registry through its operations only, such
histories go on wherever the world runs a whole slice, and however long the scheduler runs its workers. -/
theorem wake_delivery :
    (∀ (now maxDepth : Nat) (es es' : List (Event σ)) (d d₁ d₂ : TaskQueue σ) (clock : Clock) (t : Task σ)
      (sus : Suspension), (TaskQueue.empty now maxDepth).run es = some d →
      d.step (.finish clock t (.suspend sus)) = some d₁ → d₁.run es' = some d₂ →
      (∀ es₁ es₂ d', es' = es₁ ++ es₂ → d₁.run es₁ = some d' →
        d'.registry.status? t.id ≠ some .running) →
      d₂.registry.status? t.id = some .queued →
      ∃ v r, d.gather (TaskQueue.requeues t.id) (.finish clock t (.suspend sus) :: es') = [v] ∧
        d₂.registry.dispatch t.id = some ({ t with wake := some v }, r)) ∧
    ∀ (step : StepFn σ) (P : List Value → σ → Prop) (id : TaskId) (s : WorkerPool σ) (seen given : List Value)
      (n : Nat), Takes step P → History step (P []) id s seen given n →
      (∃ lost, seen ++ lost = given ∧ lost.length ≤ 1) ∧
      (∀ c t, s.world.registry.find? id = some c → c.task = some t →
        seen ++ t.wake.toList = given ∧ P seen t.program) ∧
      (∀ l ∈ s.loans, l.task.id = id → seen ++ l.task.wake.toList = given ∧ P seen l.task.program) ∧
      (s.world.registry.find? id = none → id ∉ s.world.registry.killed → seen = given) ∧
      given.length ≤ n ∧
      (Lawful step → (id < s.world.registry.nextId ∨ ∀ p, P [] p) →
        (∀ t l₁ l₂, s.loans = l₁ ++ ⟨t.fresh, none⟩ :: l₂ → ∃ seen' given' n',
          History step (P []) id ⟨(s.world.run step t).2, l₁ ++ l₂⟩ (seen ++ seen') (given ++ given')
            (n + n')) ∧
        ∀ (scheduler : Scheduler σ) (fuel millis : Nat) (q : Scheduler σ → Bool), s = scheduler.pool →
          ∃ seen' given' n', History step (P []) id (scheduler.await step fuel q millis).pool
            (seen ++ seen') (given ++ given') (n + n')) := by
  constructor
  · intro now maxDepth es es' d d₁ d₂ clock t sus hr hs hr' hrest hq
    exact TaskQueue.dispatch_resting (TaskQueue.inv_run hr) hs hr' hrest hq
  · intro step P id s seen given n htakes hc
    have h := history_wakeInv htakes hc
    refine ⟨h.close, fun c t hc ht => ?_, fun l hl hid => ?_, h.gone, h.counted,
      fun hlaw hset => ⟨fun t l₁ l₂ hl => ?_, fun scheduler fuel millis q hs => ?_⟩⟩
    · exact ⟨(h.stored c t hc ht).carries, (h.stored c t hc ht).program⟩
    · exact ⟨(h.lent l hl hid).carries, (h.lent l hl hid).program⟩
    · obtain ⟨w, loans⟩ := s
      obtain rfl : loans = _ := hl
      exact (leads_run hlaw w t _ _ _ hset hc).2
    · subst hs
      exact (scheduler.leads_await hlaw fuel q millis _ _ _ hset hc).2

/-- A task that is suspended for a second and resumed with seven before is lent out with seven. A task whose
script asks to be suspended, and no more, is created, suspended, resumed with seven, logs the seven, and is
done, turn by turn or in one slice; and it may be submitted to a scheduler. -/
theorem wake_delivery_seven :
    (∃ d d₁ d₂ : TaskQueue Unit,
      (TaskQueue.empty 0 1).run [.create {} TaskQueue.idleFrame (), .deal] = some d ∧
      d.step (.finish {} (TaskQueue.idleTask 1) (.suspend (.timed nanosPerSecond))) = some d₁ ∧
      d₁.run [.resume {} 1 (.int 7) .nothing false] = some d₂ ∧
      ∃ v r, d.gather (TaskQueue.requeues 1)
          [.finish {} (TaskQueue.idleTask 1) (.suspend (.timed nanosPerSecond)),
            .resume {} 1 (.int 7) .nothing false] = [v] ∧ v = .int 7 ∧
        d₂.registry.dispatch 1 = some ({ TaskQueue.idleTask 1 with wake := some v }, r)) ∧
    (∃ (s₁ s₂ s₃ : WorkerPool Script) (t t' : Task Script) (seen given : List Value) (n : Nat),
      History Script.step (Script.Tells []) 1 s₁ [] [.int 7] 1 ∧ s₁.loans = [⟨t.fresh, none⟩] ∧
      t.program.wakeLog = [] ∧
      History Script.step (Script.Tells []) 1 s₂ [.int 7] [.int 7] 1 ∧
      s₂.loans = [⟨t', some (.complete (.int 7))⟩] ∧ t'.program.wakeLog = [.int 7] ∧
      History Script.step (Script.Tells []) 1 s₃ seen given n ∧ s₃.world.registry.valid 1 = false ∧
      given = [.int 7] ∧ n = 1 ∧ seen = given ∧
      ∃ seen' given' n', History Script.step (Script.Tells []) 1 ⟨(s₁.world.run Script.step t).2, []⟩
        seen' ([.int 7] ++ given') (1 + n')) ∧
    ∃ seen given n, History Script.step (Script.Tells []) 1 (Scheduler.await Script.step 9 (fun _ => false) 9
      (Scheduler.submit (.start { registry := .empty 0 1 } none) TaskQueue.idleFrame
        { code := #[.suspend .indefinite] }).2).pool seen given n := by
  refine ⟨?_, ?_, ?_⟩
  · refine ⟨_, _, _, rfl, rfl, rfl, ?_⟩
    obtain ⟨v, r, hv, hd⟩ := (@wake_delivery Unit).1 0 1 [.create {} TaskQueue.idleFrame (), .deal]
      [.resume {} 1 (.int 7) .nothing false] _ _ _ {} (TaskQueue.idleTask 1) (.timed nanosPerSecond) rfl rfl rfl
      (by
        intro es₁ es₂ d' he hr
        cases es₁ with
        | nil => cases hr; decide
        | cons e es₁ =>
          obtain ⟨rfl, hnil⟩ := List.cons.inj he
          obtain ⟨rfl, -⟩ := List.nil_eq_append_iff.1 hnil
          cases hr; decide)
      rfl
    exact ⟨v, r, hv, (List.cons.inj hv).1.symm, hd⟩
  · have none : ∀ p ∈ ([] : List Script), Script.Tells [] p := by simp
    have h₀ : History Script.step (Script.Tells []) 1 ⟨{ registry := .empty 0 1 }, []⟩ [] [] 0 := .start rfl
    have h₁ := h₀.move (m := .call (.create {} TaskQueue.idleFrame { code := #[.suspend .indefinite] }))
      (.call rfl rfl) fun p hp => by cases List.mem_singleton.1 hp; exact ⟨rfl, rfl⟩
    have h₂ := h₁.move (m := .lend 1) (.lend rfl) none
    have h₃ := h₂.move (m := .turn _ []) (@Step.turn _ _ _ [] [] _ _ _ _ _ rfl rfl ⟨by simp, rfl, rfl⟩) none
    have h₄ := h₃.move (m := .back _ _) (@Step.back _ _ _ [] [] _ _ rfl) none
    have h₅ := h₄.move (m := .call (.resume {} 1 (.int 7) .nothing false)) (.call rfl rfl) none
    have h₆ := h₅.move (m := .lend 1) (.lend rfl) none
    have h₇ := h₆.move (m := .turn _ []) (@Step.turn _ _ _ [] [] _ _ _ _ _ rfl rfl ⟨by simp, rfl, rfl⟩) none
    have h₈ := h₇.move (m := .back _ _) (@Step.back _ _ _ [] [] _ _ rfl) none
    obtain ⟨-, -, lent₆, -, -, leads⟩ := wake_delivery.2 Script.step _ 1 _ _ _ _ Script.takes_step h₆
    obtain ⟨-, -, lent₇, -⟩ := wake_delivery.2 Script.step _ 1 _ _ _ _ Script.takes_step h₇
    obtain ⟨-, -, -, done, -⟩ := wake_delivery.2 Script.step _ 1 _ _ _ _ Script.takes_step h₈
    exact ⟨_, _, _, _, _, _, _, _, h₆, rfl, (lent₆ _ List.mem_cons_self rfl).2.2, h₇, rfl,
      (lent₇ _ List.mem_cons_self rfl).2.2, h₈, rfl, rfl, rfl, done rfl (by decide),
      (leads Script.lawful_step (.inl (by decide))).1 _ [] [] rfl⟩
  · have h₀ : History Script.step (Script.Tells []) 1
        (Scheduler.start { registry := .empty 0 1 } none).pool [] [] 0 := .start rfl
    have h₁ := h₀.move (m := .call (.create {} TaskQueue.idleFrame { code := #[.suspend .indefinite] }))
      (.call rfl rfl) fun p hp => by cases List.mem_singleton.1 hp; exact ⟨rfl, rfl⟩
    have h₂ : History Script.step (Script.Tells []) 1 (Scheduler.submit (.start { registry := .empty 0 1 } none)
      TaskQueue.idleFrame { code := #[.suspend .indefinite] }).2.pool [] [] 0 := h₁
    obtain ⟨seen, given, n, hc⟩ := ((wake_delivery.2 Script.step _ 1 _ _ _ _ Script.takes_step h₂).2.2.2.2.2
      Script.lawful_step (.inl (by decide))).2 _ 9 9 (fun _ => false) rfl
    exact ⟨_, _, _, hc⟩

end MooWorld.WorkerPool
