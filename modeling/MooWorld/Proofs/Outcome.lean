import MooWorld.Proofs.Lifecycle
/-!
# One outcome for each task

A task leaves the registry when it is killed, when everything is shut down, or when a slice of it ends for
good (`kill_leaves`, `abort_leaves`, `finish_leaves`), and whichever comes first leaves its outcome behind
(`Event.outcomeFor`). `step_cases` says what any step does to the set of live tasks and to the outcomes; from
it, a live task has no outcome yet (`step_live`), and a task that has left stays away and gets no second one
(`step_gone`, `run_gone`).
-/
namespace MooWorld.TaskQueue

variable {σ : Type}

/-- The outcome that an event leaves behind for a task, if the task is live and leaves by it. -/
def Event.outcomeFor (id : TaskId) : Event σ → Option Outcome
  | .finish _ t e => if t.id = id then e.outcome? t else none
  | .kill i _ _ => if i = id then some (.error .cancelled) else none
  | .abort _ => some (.error .notResponding)
  | _ => none

/-- A step keeps the live tasks and the outcomes, or it creates a task, or one task leaves with its
outcome, or all do. -/
theorem step_cases {d d' : TaskQueue σ} {e : Event σ} (hs : d.step e = some d') :
    d.registry.Quiet d'.registry ∨
    (∃ clock entry program, e = .create clock entry program ∧
      d'.registry = (d.registry.create clock entry program).2) ∨
    (∃ id o, d.registry.valid id = true ∧ e.outcomeFor id = some o ∧
      d'.registry.ids = d.registry.ids.filter (· ≠ id) ∧
      d'.registry.nextId = d.registry.nextId ∧
      d'.registry.outcomes = d.registry.outcomes ++ [(id, o)]) ∨
    (∃ clock, e = .abort clock ∧ d'.registry = d.registry.abortAll clock) := by
  cases step_spec hs with
  | create clock entry program => exact .inr (.inl ⟨clock, entry, program, rfl, rfl⟩)
  | dispatch id => exact .inl (quiet_lend d id)
  | @deal id rest _ =>
    have hq := quiet_lend { d with registry := { d.registry with ready := rest } } id
    exact .inl ⟨hq.ids, hq.nextId, hq.killed, hq.outcomes⟩
  | @finish clock t e _ =>
    rcases d.registry.handBack_cases clock t e with ⟨s, -, eq⟩ | ⟨o, ho, eq⟩ | ⟨-, eq⟩
    · left; rw [eq]; exact Registry.quiet_suspend _ _ _ _
    · cases hc : d.registry.find? t.id with
      | none =>
        left
        rw [Registry.handBack_of_not_live clock e hc]
        exact .refl _
      | some c =>
        right; right; left
        refine ⟨t.id, o, Registry.valid_iff.2 ⟨c, hc⟩, by simp [Event.outcomeFor, ho], ?_⟩
        rw [eq, Registry.complete_of_find? o hc]
        exact ⟨Registry.ids_drop _ _, rfl, rfl⟩
    · left; rw [eq]; exact .refl _
  | resume hr => exact .inl (Registry.quiet_resume hr)
  | @kill id who wizard r hr =>
    obtain ⟨c, hc, -, rfl⟩ := Registry.kill_eq_ok.1 hr
    right; right; left
    refine ⟨id, .error .cancelled, Registry.valid_iff.2 ⟨c, hc⟩, by simp [Event.outcomeFor], ?_⟩
    rw [Registry.cancelTimer_eq]
    exact ⟨Registry.ids_drop _ _, rfl, rfl⟩
  | resumeRefused => exact .inl (.refl _)
  | killRefused => exact .inl (.refl _)
  | advance clock => exact .inl (Registry.quiet_advance _ _)
  | abort clock => exact .inr (.inr (.inr ⟨clock, rfl, rfl⟩))

/-! ## One step -/

theorem valid_of_ids_filter {r r' : Registry σ} {id : TaskId} (h : r'.ids = r.ids.filter (· ≠ id))
    (j : TaskId) : r'.valid j = true ↔ r.valid j = true ∧ j ≠ id := by
  rw [← Registry.mem_ids, ← Registry.mem_ids, h]
  simp

theorem messages_of_outcomes {r r' : Registry σ} {id : TaskId} {o : Outcome}
    (h : r'.outcomes = r.outcomes ++ [(id, o)]) (j : TaskId) :
    r'.messages j = r.messages j ++ if j = id then [o] else [] := by
  have e : r'.messages j = (r.deliver id o).messages j := by
    simp only [Registry.messages, Registry.deliver, h]
  rw [e, Registry.messages_deliver]

/-- A step gives out at most one number. -/
theorem nextId_step {d d' : TaskQueue σ} {e : Event σ} (hs : d.step e = some d') :
    d'.registry.nextId = d.registry.nextId ∨ d'.registry.nextId = d.registry.nextId + 1 := by
  rcases step_cases hs with hq | ⟨clock, entry, program, -, eq⟩ | ⟨j, o, -, -, -, hnext, -⟩ |
    ⟨clock, -, eq⟩
  · exact .inl hq.nextId
  · right
    rw [eq]
    rcases d.registry.create_cases clock entry program with e | ⟨calls, e⟩
    · rw [e]
    · rw [e]; rfl
  · exact .inl hnext
  · left; rw [eq]; rfl

/-- Numbers are never given back. -/
theorem nextId_le_step {d d' : TaskQueue σ} {e : Event σ} (hs : d.step e = some d') :
    d.registry.nextId ≤ d'.registry.nextId := by
  rcases nextId_step hs with h | h
  · exact Nat.le_of_eq h.symm
  · rw [h]; exact Nat.le_succ _

theorem nextId_le_run {es : List (Event σ)} {d d' : TaskQueue σ} (h : d.run es = some d') :
    d.registry.nextId ≤ d'.registry.nextId :=
  run_induct (P := fun x => d.registry.nextId ≤ x.registry.nextId) (Q := fun _ => True)
    (fun _ _ _ hn _ hs => Nat.le_trans hn (nextId_le_step hs)) es d d' (Nat.le_refl _)
    (fun _ _ => trivial) h

/-- A live task stays live and gets no outcome, or leaves with the outcome of the event. -/
theorem step_live {d d' : TaskQueue σ} {e : Event σ} {id : TaskId} (hi : Inv d) (hs : d.step e = some d')
    (hv : d.registry.valid id = true) :
    (d'.registry.valid id = true ∧ d'.registry.messages id = d.registry.messages id) ∨
    (d'.registry.valid id = false ∧ ∃ o, e.outcomeFor id = some o ∧
      d'.registry.messages id = d.registry.messages id ++ [o]) := by
  rcases step_cases hs with hq | ⟨clock, entry, program, -, eq⟩ | ⟨j, o, -, ho, hids, -, hout⟩ |
    ⟨clock, rfl, eq⟩
  · left; exact ⟨by rw [hq.valid]; exact hv, hq.messages id⟩
  · left
    obtain ⟨c, hc⟩ := Registry.valid_iff.1 hv
    rw [eq]
    rcases d.registry.create_cases clock entry program with e | ⟨calls, e⟩
    · rw [e]; exact ⟨hv, rfl⟩
    · rw [e]
      exact ⟨Registry.valid_iff.2 ⟨c, by rw [Registry.find?_enroll, hc]; rfl⟩, rfl⟩
  · have hval := valid_of_ids_filter hids id
    have hmsg := messages_of_outcomes hout id
    by_cases hj : id = j
    · right
      subst hj
      refine ⟨?_, o, ho, by simpa using hmsg⟩
      rw [Bool.eq_false_iff]
      exact fun h => (hval.1 h).2 rfl
    · left
      exact ⟨hval.2 ⟨hv, hj⟩, by simpa [hj] using hmsg⟩
  · right
    refine ⟨by rw [eq]; rfl, .error .notResponding, rfl, ?_⟩
    rw [eq, Registry.messages_abortAll clock id hi.nodup, hv]
    rfl

theorem valid_drop (r : Registry σ) (id : TaskId) : (r.drop id).valid id = false :=
  Registry.valid_eq_false.2 ((Registry.find?_drop r id id).trans (if_pos rfl))

/-- A live task whose slice ends for good leaves, with the outcome of the slice. -/
theorem finish_leaves {d d' : TaskQueue σ} {clock : Clock} {t : Task σ} {e : SliceEnd} {o : Outcome}
    (hs : d.step (.finish clock t e) = some d') (ho : e.outcome? t = some o)
    (hv : d.registry.valid t.id = true) :
    d'.registry.valid t.id = false ∧ d'.registry.messages t.id = d.registry.messages t.id ++ [o] := by
  obtain ⟨c, hc⟩ := Registry.valid_iff.1 hv
  cases step_spec hs
  rcases d.registry.handBack_cases clock t e with ⟨s, rfl, -⟩ | ⟨o', ho', eq⟩ | ⟨rfl, -⟩
  · cases ho
  · cases ho.symm.trans ho'
    rw [eq, Registry.complete_of_find? o hc]
    refine ⟨valid_drop d.registry t.id, ?_⟩
    rw [messages_of_outcomes rfl, if_pos rfl]
    rfl
  · cases ho

/-- A live task that is killed by one who may control it leaves. -/
theorem kill_leaves {d : TaskQueue σ} {id : TaskId} {c : Control σ} {who : Obj} {wizard : Bool}
    (hc : d.registry.find? id = some c) (ha : c.owner = who ∨ wizard = true) :
    ∃ d', d.step (.kill id who wizard) = some d' ∧ d'.registry.valid id = false ∧
      d'.registry.messages id = d.registry.messages id ++ [.error .cancelled] := by
  have hr := Registry.kill_eq_ok.2 ⟨c, hc, authorize_iff.2 ha, rfl⟩
  refine ⟨_, by rw [step, hr], ?_, ?_⟩
  · rw [Registry.cancelTimer_eq]
    exact valid_drop d.registry id
  · rw [messages_of_outcomes rfl, if_pos rfl]

/-- A shutdown makes every live task leave. -/
theorem abort_leaves {d : TaskQueue σ} {id : TaskId} (hi : Inv d) (clock : Clock)
    (hv : d.registry.valid id = true) :
    ∃ d', d.step (.abort clock) = some d' ∧ d'.registry.valid id = false ∧
      d'.registry.messages id = d.registry.messages id ++ [.error .notResponding] := by
  refine ⟨_, rfl, rfl, ?_⟩
  rw [Registry.messages_abortAll clock id hi.nodup, hv]
  rfl

/-- A task that is not live and has a number that was used stays so, and gets no outcome any more. -/
theorem step_gone {d d' : TaskQueue σ} {e : Event σ} {id : TaskId} (hi : Inv d) (hs : d.step e = some d')
    (hv : d.registry.valid id = false) (hn : id < d.registry.nextId) :
    d'.registry.valid id = false ∧ d'.registry.messages id = d.registry.messages id := by
  rcases step_cases hs with hq | ⟨clock, entry, program, -, eq⟩ | ⟨j, o, hj, -, hids, -, hout⟩ |
    ⟨clock, -, eq⟩
  · exact ⟨by rw [hq.valid]; exact hv, hq.messages id⟩
  · rw [eq]
    rcases d.registry.create_cases clock entry program with e | ⟨calls, e⟩
    · rw [e]; exact ⟨hv, rfl⟩
    · rw [e]
      refine ⟨?_, rfl⟩
      rw [Registry.valid_eq_false] at hv ⊢
      rw [Registry.find?_enroll, hv, if_neg (Nat.ne_of_lt hn)]
      rfl
  · have hne : ¬ id = j := by
      rintro rfl
      rw [hv] at hj; cases hj
    refine ⟨?_, by simpa [hne] using messages_of_outcomes hout id⟩
    rw [Bool.eq_false_iff]
    intro h
    have := ((valid_of_ids_filter hids id).1 h).1
    rw [hv] at this; cases this
  · refine ⟨by rw [eq]; rfl, ?_⟩
    rw [eq, Registry.messages_abortAll clock id hi.nodup, hv]
    simp

/-! ## Runs -/

theorem run_gone {id : TaskId} : ∀ {es : List (Event σ)} {d d' : TaskQueue σ}, Inv d →
    d.run es = some d' → d.registry.valid id = false → id < d.registry.nextId →
    d'.registry.valid id = false ∧ d'.registry.messages id = d.registry.messages id
  | [], d, d', _, hr, hv, _ => by cases hr; exact ⟨hv, rfl⟩
  | e :: es, d, d', hi, hr, hv, hn => by
    obtain ⟨d₁, h₁, h₂⟩ := run_cons.1 hr
    obtain ⟨hv₁, hm₁⟩ := step_gone hi h₁ hv hn
    have hn₁ : id < d₁.registry.nextId := Nat.lt_of_lt_of_le hn (nextId_le_step h₁)
    obtain ⟨hv', hm'⟩ := run_gone (inv_step hi h₁) h₂ hv₁ hn₁
    exact ⟨hv', hm'.trans hm₁⟩

/-- A live task stays live and gets no outcome, or there is one event by which it left, and its outcome
is that of the event. -/
theorem run_live {id : TaskId} : ∀ {es : List (Event σ)} {d d' : TaskQueue σ}, Inv d →
    d.run es = some d' → d.registry.valid id = true →
    (d'.registry.valid id = true ∧ d'.registry.messages id = d.registry.messages id) ∨
    (d'.registry.valid id = false ∧ ∃ es₁ e es₂ d₁ d₂ o, es = es₁ ++ e :: es₂ ∧
      d.run es₁ = some d₁ ∧ d₁.step e = some d₂ ∧ d₂.run es₂ = some d' ∧
      d₁.registry.valid id = true ∧ d₂.registry.valid id = false ∧ e.outcomeFor id = some o ∧
      d'.registry.messages id = d.registry.messages id ++ [o])
  | [], d, d', _, hr, hv => by cases hr; exact .inl ⟨hv, rfl⟩
  | e :: es, d, d', hi, hr, hv => by
    obtain ⟨d₁, h₁, h₂⟩ := run_cons.1 hr
    rcases step_live hi h₁ hv with ⟨hv₁, hm₁⟩ | ⟨hv₁, o, ho, hm₁⟩
    · rcases run_live (inv_step hi h₁) h₂ hv₁ with ⟨hv', hm'⟩ |
        ⟨hv', es₁, e', es₂, d₂, d₃, o, rfl, hr₁, hs, hr₂, hv₂, hv₃, ho, hm'⟩
      · exact .inl ⟨hv', hm'.trans hm₁⟩
      · refine .inr ⟨hv', e :: es₁, e', es₂, d₂, d₃, o, rfl, ?_, hs, hr₂, hv₂, hv₃, ho, ?_⟩
        · exact run_cons.2 ⟨d₁, h₁, hr₁⟩
        · rw [hm', hm₁]
    · obtain ⟨c, hc⟩ := Registry.valid_iff.1 hv
      have hn : id < d₁.registry.nextId :=
        Nat.lt_of_lt_of_le (hi.bound id c hc) (nextId_le_step h₁)
      obtain ⟨hv', hm'⟩ := run_gone (inv_step hi h₁) h₂ hv₁ hn
      exact .inr ⟨hv', [], e, es, d, d₁, o, rfl, rfl, h₁, h₂, hv, hv₁, ho, by rw [hm', hm₁]⟩

/-- No outcome was left behind under a number that has not been used. -/
def Delivered (d : TaskQueue σ) : Prop := ∀ m ∈ d.registry.outcomes, m.1 < d.registry.nextId

theorem delivered_step {d d' : TaskQueue σ} {e : Event σ} (hi : Inv d) (h : Delivered d)
    (hs : d.step e = some d') : Delivered d' := by
  intro m hm
  refine Nat.lt_of_lt_of_le ?_ (nextId_le_step hs)
  rcases step_cases hs with hq | ⟨clock, entry, program, -, eq⟩ | ⟨id, o, hv, -, -, -, hout⟩ |
    ⟨clock, -, eq⟩
  · rw [hq.outcomes] at hm; exact h m hm
  · rw [eq] at hm
    rcases d.registry.create_cases clock entry program with e | ⟨calls, e⟩
    · rw [e] at hm; exact h m hm
    · rw [e] at hm; exact h m hm
  · rw [hout] at hm
    rcases List.mem_append.1 hm with hm | hm
    · exact h m hm
    · obtain ⟨c, hc⟩ := Registry.valid_iff.1 hv
      rw [List.mem_singleton.1 hm]
      exact hi.bound id c hc
  · rw [eq] at hm
    rcases List.mem_append.1 hm with hm | hm
    · exact h m hm
    · obtain ⟨⟨id, c⟩, he, rfl⟩ := List.mem_map.1 hm
      exact hi.bound id c (hi.mem_tasks.1 he)

theorem delivered_run {now maxDepth : Nat} {es : List (Event σ)} {d : TaskQueue σ}
    (h : (empty now maxDepth).run es = some d) : Delivered d :=
  reach_induct (Q := fun _ => True) (by simp [Delivered, empty, Registry.empty])
    (fun _ _ _ hi hd _ hs => delivered_step hi hd hs) (fun _ _ => trivial) h

/-- The task that a successful creation registers: it is live and has no outcome. -/
theorem create_live {d d₁ : TaskQueue σ} {clock : Clock} {entry : Frame} {program : σ} {id : TaskId}
    (hd : Delivered d) (hc : (d.registry.create clock entry program).1 = .ok id)
    (hs : d.step (.create clock entry program) = some d₁) :
    d₁.registry.valid id = true ∧ d₁.registry.messages id = [] := by
  simp only [step, Option.some.injEq] at hs; subst hs
  rcases d.registry.create_cases clock entry program with e | ⟨calls, e⟩
  · rw [e] at hc; cases hc
  · rw [e] at hc ⊢
    cases hc
    refine ⟨?_, ?_⟩
    · rw [← Registry.mem_ids]
      exact List.mem_map.2 ⟨_, List.mem_append_right _ List.mem_cons_self, rfl⟩
    · show (d.registry.outcomes.filter _).map _ = []
      rw [List.map_eq_nil_iff, List.filter_eq_nil_iff]
      intro m hm
      simpa using Nat.ne_of_lt (hd m hm)

/-- **One outcome for each task.** Take any run, a task that is created in it, and any way the run goes
on. As long as the task is live there is no outcome for it. A slice of it that ends for good, a kill by one
who may control it, and a shutdown each make it leave at once, with their outcome. Once it is not live, it
has left by one event, a kill, a shutdown or the end of a slice, and the outcome of that event is the only
one for it, from then on and whatever happens. The number never comes back, and a slice of the task that
ends later changes nothing in the world. -/
theorem outcome_once {now maxDepth : Nat} {es es' : List (Event σ)} {d d' : TaskQueue σ} {clock : Clock}
    {entry : Frame} {program : σ} {id : TaskId} (h : (empty now maxDepth).run es = some d)
    (hc : (d.registry.create clock entry program).1 = .ok id)
    (h' : d.run (.create clock entry program :: es') = some d') :
    (d'.registry.valid id = true → d'.registry.messages id = [] ∧
      (∀ clock t how o d'', t.id = id → SliceEnd.outcome? t how = some o →
        d'.step (.finish clock t how) = some d'' →
        d''.registry.valid id = false ∧ d''.registry.messages id = [o]) ∧
      (∀ c who wizard, d'.registry.find? id = some c → c.owner = who ∨ wizard = true →
        ∃ d'', d'.step (.kill id who wizard) = some d'' ∧ d''.registry.valid id = false ∧
          d''.registry.messages id = [.error .cancelled]) ∧
      ∀ clock, ∃ d'', d'.step (.abort clock) = some d'' ∧ d''.registry.valid id = false ∧
        d''.registry.messages id = [.error .notResponding]) ∧
    (d'.registry.valid id = false →
      (∃ es₁ e es₂ d₁ d₂ o, es' = es₁ ++ e :: es₂ ∧
        d.run (.create clock entry program :: es₁) = some d₁ ∧ d₁.step e = some d₂ ∧
        d₂.run es₂ = some d' ∧ d₁.registry.valid id = true ∧ d₂.registry.valid id = false ∧
        e.outcomeFor id = some o ∧ d'.registry.messages id = [o]) ∧
      (∀ es'' d'', d'.run es'' = some d'' → d''.registry.valid id = false ∧
        d''.registry.messages id = d'.registry.messages id) ∧
      ∀ (w : World σ) (t : Task σ) (e : SliceEnd), w.registry = d'.registry → t.id = id →
        w.finish t e = w) := by
  have hi := inv_run h
  obtain ⟨d₀, h₀, hr⟩ := run_cons.1 h'
  obtain ⟨hv₀, hm₀⟩ := create_live (delivered_run h) hc h₀
  have hi₀ := inv_step hi h₀
  refine ⟨fun hv => ?_, fun hv => ⟨?_, ?_, ?_⟩⟩
  · have hi' := inv_run (run_append.2 ⟨d, h, h'⟩)
    have hm : d'.registry.messages id = [] := by
      rcases run_live hi₀ hr hv₀ with ⟨-, hm⟩ | ⟨hv', -⟩
      · rw [hm, hm₀]
      · rw [hv] at hv'; cases hv'
    refine ⟨hm, ?_, fun c who wizard hc ha => ?_, fun clock => ?_⟩
    · rintro clock t how o d'' rfl ho hs
      simpa [hm] using finish_leaves hs ho hv
    · simpa [hm] using kill_leaves hc ha
    · simpa [hm] using abort_leaves hi' clock hv
  · rcases run_live hi₀ hr hv₀ with ⟨hv', -⟩ |
      ⟨-, es₁, e, es₂, d₁, d₂, o, eq, hr₁, hs, hr₂, hv₁, hv₂, ho, hm⟩
    · rw [hv] at hv'; cases hv'
    · rw [hm₀] at hm
      exact ⟨es₁, e, es₂, d₁, d₂, o, eq, run_cons.2 ⟨d₀, h₀, hr₁⟩, hs, hr₂, hv₁, hv₂, ho, hm⟩
  · intro es'' d'' hr'
    obtain ⟨c, hc⟩ := Registry.valid_iff.1 hv₀
    have hn : id < d'.registry.nextId := Nat.lt_of_lt_of_le (hi₀.bound id c hc) (nextId_le_run hr)
    exact run_gone (inv_run (run_append.2 ⟨d, h, h'⟩)) hr' hv hn
  · intro w t e hw ht
    have hg : w.registry.find? t.id = none := by
      rw [hw, ht]; exact Registry.valid_eq_false.1 hv
    rw [World.finish_eq, Registry.handBack_of_not_live w.clock e hg]

/-- A task is killed while it is on loan, and then completes. -/
def lateCompletion : List (Event Unit) :=
  [.dispatch 1, .kill 1 .nothing false, .finish {} (idleTask 1) (.complete .none)]

/-- The task is killed, and stays so. Had its slice ended before, it would have left with a result. -/
theorem outcome_once_lateCompletion : ∃ d d₁ d₂ : TaskQueue Unit,
    (empty 0 1).run (.create {} idleFrame () :: lateCompletion) = some d ∧
    d.registry.valid 1 = false ∧ d.registry.messages 1 = [.error .cancelled] ∧
    (∀ es d', d.run es = some d' →
      d'.registry.valid 1 = false ∧ d'.registry.messages 1 = [.error .cancelled]) ∧
    (empty 0 1).run [.create {} idleFrame (), .dispatch 1] = some d₁ ∧
    d₁.step (.finish {} (idleTask 1) (.complete (.int 3))) = some d₂ ∧
    d₂.registry.valid 1 = false ∧ d₂.registry.messages 1 = [.ok (.int 3)] := by
  refine ⟨_, _, _, rfl, rfl, rfl, ?_, rfl, rfl, ?_⟩
  · exact ((@outcome_once Unit 0 1 [] lateCompletion _ _ {} idleFrame () 1 rfl rfl rfl).2 rfl).2.1
  · exact ((@outcome_once Unit 0 1 [] [.dispatch 1] _ _ {} idleFrame () 1 rfl rfl rfl).1 rfl).2.1 {}
      (idleTask 1) (.complete (.int 3)) _ _ rfl rfl rfl

end MooWorld.TaskQueue
