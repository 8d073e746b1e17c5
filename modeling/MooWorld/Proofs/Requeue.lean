import MooWorld.Proofs.Transition
/-!
# The way back to the queue

A task that comes back to be suspended is kept as it is until it is lent out again. What changes is its
wake value, and that is set when the task returns to the queue: to the value it was resumed with, or to
zero if a timer expired or the delay was over at once. `requeues` collects these values, and `Resting` says
what the registry holds of such a task until somebody takes it.
-/
namespace MooWorld.TaskQueue

variable {σ : Type}

/-- The value that a suspension gives if an event ends it. -/
def Event.wakeValue : Event σ → Value
  | .resume _ _ v _ _ => v
  | _ => .int 0

/-- The value with which a task returned to the queue, given what was known of it before and after. -/
def requeued (e : Event σ) : Option (Control σ) → Option (Control σ) → List Value
  | some c, some c' => if c.status ≠ .queued ∧ c'.status = .queued then [e.wakeValue] else []
  | _, _ => []

/-- The value with which an event puts a task back in the queue. -/
def requeues (id : TaskId) (d : TaskQueue σ) (e : Event σ) : List Value :=
  ((d.step e).map fun d' => requeued e (d.registry.find? id) (d'.registry.find? id)).getD []

theorem requeues_of_step {d d' : TaskQueue σ} {e : Event σ} (hs : d.step e = some d') (id : TaskId) :
    d.requeues id e = requeued e (d.registry.find? id) (d'.registry.find? id) := by
  simp [requeues, hs]

@[simp] theorem requeued_same (e : Event σ) (known : Option (Control σ)) : requeued e known known = [] := by
  cases known with
  | none => rfl
  | some c => simp [requeued]

@[simp] theorem requeued_none (e : Event σ) (known : Option (Control σ)) : requeued e known none = [] := by
  cases known <;> rfl

theorem requeued_of_queued {e : Event σ} {c c' : Control σ} (hq : c.status ≠ .queued)
    (hq' : c'.status = .queued) : requeued e (some c) (some c') = [e.wakeValue] :=
  if_pos ⟨hq, hq'⟩

theorem requeued_of_not_queued {e : Event σ} {known : Option (Control σ)} {c' : Control σ}
    (hq' : c'.status ≠ .queued) : requeued e known (some c') = [] := by
  cases known with
  | none => rfl
  | some c => exact if_neg fun h => hq' h.2

/-! ## A task at rest -/

/-- What is known of a task since it came back to be suspended, as long as it was not lent out, and the
values with which it has returned to the queue. -/
inductive Resting (t : Task σ) : Option (Control σ) → List Value → Prop where
  | asleep {c : Control σ} (hs : c.status = .suspended) (ht : c.task = some t) : Resting t (some c) []
  | awake {c : Control σ} {v : Value} (hq : c.status = .queued)
      (ht : c.task = some { t with wake := some v }) : Resting t (some c) [v]
  | gone (vs : List Value) : Resting t none vs

theorem resting_suspend {d d' : TaskQueue σ} {clock : Clock} {t : Task σ} {s : Suspension} (hi : Inv d)
    (hs : d.step (.finish clock t (.suspend s)) = some d') :
    Resting t (d'.registry.find? t.id) (d.requeues t.id (.finish clock t (.suspend s))) := by
  rw [requeues_of_step hs]
  cases step_spec hs with
  | finish hm =>
    obtain ⟨⟨l, hl, hid, -⟩, -⟩ := mayEnd_iff.1 hm
    show Resting t ((d.registry.suspend clock t s).find? t.id)
      (requeued _ _ ((d.registry.suspend clock t s).find? t.id))
    rcases d.registry.suspend_cases clock t s with ⟨hn, e⟩ | ⟨c, hc, hr, hsusp⟩
    · have hgone : d.registry.find? t.id = none := by
        cases hc : d.registry.find? t.id with
        | none => rfl
        | some c => exact absurd ((hi.kept _ c hc).running hl hid) (hn c hc)
      rw [e, hgone]
      exact .gone _
    · -- suspended with or without a deadline, or back in the queue at once
      have park : ∀ deadline, Resting t ((d.registry.put t.id (c.parked t deadline)).find? t.id)
          (requeued (.finish clock t (.suspend s)) (d.registry.find? t.id)
            ((d.registry.put t.id (c.parked t deadline)).find? t.id)) := by
        intro deadline
        rw [Registry.find?_put_self _ hc, requeued_of_not_queued (by show Status.suspended ≠ _; decide)]
        exact .asleep rfl rfl
      rcases hsusp with ⟨-, e⟩ | ⟨delay, date, timers, -, -, -, -, e⟩ | ⟨delay, date, -, -, -, e⟩
      · rw [e]; exact park none
      · rw [e]; exact park (some date)
      · rw [e, hc]
        show Resting t ((d.registry.put t.id _).find? t.id)
          (requeued _ _ ((d.registry.put t.id _).find? t.id))
        rw [Registry.find?_put_self _ hc, requeued_of_queued (by rw [hr]; decide) rfl]
        exact .awake rfl rfl

theorem step_resting {d d' : TaskQueue σ} {e : Event σ} {t : Task σ} {vs : List Value} (hi : Inv d)
    (hid : t.id < d.registry.nextId) (h : Resting t (d.registry.find? t.id) vs)
    (hs : d.step e = some d') (hrun : d'.registry.status? t.id ≠ some .running) :
    Resting t (d'.registry.find? t.id) (vs ++ d.requeues t.id e) := by
  rw [requeues_of_step hs]
  have ht := step_transition hi hs t.id
  have hgone := find?_step_eq_none hi hs hid
  unfold Registry.status? at hrun
  generalize hid' : t.id = id at *
  generalize d.registry.find? id = before, d'.registry.find? id = after at *
  cases ht with
  | same => rw [requeued_same, List.append_nil]; exact h
  | created => cases hgone rfl
  | lent => exact absurd rfl hrun
  | parked deadline hr =>
    cases h with
    | asleep hsusp => rw [hsusp] at hr; cases hr
    | awake hq => rw [hq] at hr; cases hr
  | returned deadline hr =>
    cases h with
    | asleep hsusp => rw [hsusp] at hr; cases hr
    | awake hq => rw [hq] at hr; cases hr
  | resumed hsusp =>
    cases h with
    | asleep _ htask =>
      rw [requeued_of_queued (by rw [hsusp]; decide) rfl]
      exact .awake rfl (by simp [Control.requeue, htask, Event.wakeValue])
    | awake hq => rw [hq] at hsusp; cases hsusp
  | expired hsusp =>
    cases h with
    | asleep _ htask =>
      rw [requeued_of_queued (by rw [hsusp]; decide) rfl]
      exact .awake rfl (by simp [Control.requeue, htask, Event.wakeValue])
    | awake hq => rw [hq] at hsusp; cases hsusp
  | completed => exact .gone _
  | killed => exact .gone _
  | aborted => exact .gone _

theorem run_resting {t : Task σ} : ∀ (es : List (Event σ)) {d d' : TaskQueue σ} {vs : List Value}, Inv d →
    t.id < d.registry.nextId → Resting t (d.registry.find? t.id) vs → d.run es = some d' →
    (∀ es₁ es₂ d₁, es = es₁ ++ es₂ → d.run es₁ = some d₁ → d₁.registry.status? t.id ≠ some .running) →
    Resting t (d'.registry.find? t.id) (vs ++ d.gather (requeues t.id) es)
  | [], d, d', vs, _, _, h, hr, _ => by
    cases hr
    simpa [gather] using h
  | e :: es, d, d', vs, hi, hid, h, hr, hrest => by
    obtain ⟨d₁, hs, hr'⟩ := run_cons.1 hr
    have hrest₁ : d₁.registry.status? t.id ≠ some .running :=
      hrest [e] es d₁ rfl (run_cons.2 ⟨d₁, hs, rfl⟩)
    rw [gather_cons hs, ← List.append_assoc]
    refine run_resting es (inv_step hi hs) (Nat.lt_of_lt_of_le hid (nextId_le_step hs))
      (step_resting hi hid h hs hrest₁) hr' ?_
    intro es₁ es₂ d₂ he hr₂
    exact hrest (e :: es₁) es₂ d₂ (by rw [he]; rfl) (run_cons.2 ⟨d₁, hs, hr₂⟩)

/-- A task that comes back to be suspended, and is next seen in the queue without having been lent out, is
lent out as it came, but for the value with which it has returned to the queue, once. -/
theorem dispatch_resting {d d₁ d₂ : TaskQueue σ} {clock : Clock} {t : Task σ} {s : Suspension}
    {es : List (Event σ)} (hi : Inv d) (hs : d.step (.finish clock t (.suspend s)) = some d₁)
    (hr : d₁.run es = some d₂)
    (hrest : ∀ es₁ es₂ d', es = es₁ ++ es₂ → d₁.run es₁ = some d' →
      d'.registry.status? t.id ≠ some .running)
    (hq : d₂.registry.status? t.id = some .queued) :
    ∃ v r, d.gather (requeues t.id) (.finish clock t (.suspend s) :: es) = [v] ∧
      d₂.registry.dispatch t.id = some ({ t with wake := some v }, r) := by
  have hid : t.id < d₁.registry.nextId := by
    cases step_spec hs with
    | finish hm =>
      obtain ⟨⟨l, hl, hid, -⟩, -⟩ := mayEnd_iff.1 hm
      refine Nat.lt_of_lt_of_le ?_ (nextId_le_step hs)
      rw [← hid]; exact hi.loaned l hl
  have h := run_resting es (inv_step hi hs) hid (resting_suspend hi hs) hr hrest
  rw [← gather_cons hs] at h
  obtain ⟨c, hc, hcq⟩ := Option.map_eq_some_iff.1 hq
  rw [hc] at h
  generalize d.gather (requeues t.id) (.finish clock t (.suspend s) :: es) = vs at h ⊢
  cases h with
  | asleep hsusp => rw [hsusp] at hcq; cases hcq
  | @awake _ v _ ht => exact ⟨v, _, rfl, Registry.dispatch_eq_some.2 ⟨c, hc, hcq, ht, rfl⟩⟩

end MooWorld.TaskQueue
