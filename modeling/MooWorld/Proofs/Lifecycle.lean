import MooWorld.Proofs.TaskQueue
/-!
# The life of a task

A live task is held by the registry while it is queued or suspended and is on loan, exactly once, while it
is running. `Inv` says this of every live task, with what else is needed to keep it so: the numbers of the
live tasks grow and are used only once, a deadline belongs to a suspension, the kill switch of a live task
is clear, and a task on loan that is not live any more has its kill switch set. `inv_run` carries it
through every run.
-/
namespace MooWorld.TaskQueue

variable {σ : Type}

/-- What holds of a live task, given the tasks on loan and those whose kill switch is set. -/
structure Kept (loans : List (Task σ)) (killed : List TaskId) (id : TaskId) (c : Control σ) : Prop where
  lent : c.status = .running → c.task = none ∧ loans.countP (·.id = id) = 1
  held : c.status ≠ .running →
    (∃ t, c.task = some t ∧ t.id = id ∧ t.owner = c.owner) ∧ loans.countP (·.id = id) = 0
  owner : ∀ t ∈ loans, t.id = id → t.owner = c.owner
  deadline : c.deadline.isSome → c.status = .suspended
  clear : id ∉ killed

structure Inv (d : TaskQueue σ) : Prop where
  sorted : d.registry.ids.Pairwise (· < ·)
  bound : ∀ id c, d.registry.find? id = some c → id < d.registry.nextId
  kept : ∀ id c, d.registry.find? id = some c → Kept d.loans d.registry.killed id c
  loaned : ∀ t ∈ d.loans, t.id < d.registry.nextId
  stopped : ∀ id ∈ d.registry.killed, id < d.registry.nextId
  orphan : ∀ t ∈ d.loans, d.registry.find? t.id = none → t.id ∈ d.registry.killed

theorem inv_empty (now maxDepth : Nat) : Inv (empty now maxDepth : TaskQueue σ) := by
  refine ⟨List.Pairwise.nil, ?_, ?_, by simp [empty], by simp [empty, Registry.empty], by simp [empty]⟩
  · intro id c h; cases h
  · intro id c h; cases h

theorem Inv.find?_nextId {d : TaskQueue σ} (h : Inv d) : d.registry.find? d.registry.nextId = none := by
  cases hc : d.registry.find? d.registry.nextId with
  | none => rfl
  | some c => exact absurd (h.bound _ c hc) (Nat.lt_irrefl _)

theorem Inv.nodup {d : TaskQueue σ} (h : Inv d) : d.registry.ids.Nodup := h.sorted.imp Nat.ne_of_lt

theorem Inv.mem_tasks {d : TaskQueue σ} (h : Inv d) {id : TaskId} {c : Control σ} :
    (id, c) ∈ d.registry.tasks ↔ d.registry.find? id = some c := Registry.mem_tasks h.nodup

/-- The invariant is about the live tasks, the numbers and the kill switches, and nothing else. -/
theorem Inv.congr {r r' : Registry σ} {loans : List (Task σ)} (h : Inv ⟨r, loans⟩)
    (ht : r'.tasks = r.tasks) (hn : r'.nextId = r.nextId) (hk : r'.killed = r.killed) :
    Inv ⟨r', loans⟩ := by
  have hf := Registry.find?_congr ht
  refine ⟨?_, ?_, ?_, ?_, ?_, ?_⟩
  · simpa [Registry.ids, ht] using h.sorted
  · intro id c hc; rw [hf] at hc; rw [hn]; exact h.bound id c hc
  · intro id c hc; rw [hf] at hc; rw [hk]; exact h.kept id c hc
  · intro t m; rw [hn]; exact h.loaned t m
  · intro id m; rw [hk] at m; rw [hn]; exact h.stopped id m
  · intro t m hg; rw [hf] at hg; rw [hk]; exact h.orphan t m hg

/-! ## Loans -/

theorem countP_eraseP_id (l : List (Task σ)) (i j : TaskId) :
    (l.eraseP (·.id = i)).countP (·.id = j) =
      if j = i then l.countP (·.id = j) - 1 else l.countP (·.id = j) := by
  induction l with
  | nil => simp
  | cons t l ih =>
    by_cases ht : t.id = i
    · rw [List.eraseP_cons_of_pos (by simpa using ht), List.countP_cons, ht]
      by_cases hj : j = i
      · simp [hj]
      · have : ¬ i = j := fun e => hj e.symm
        simp [hj, this]
    · rw [List.eraseP_cons_of_neg (by simpa using ht), List.countP_cons, List.countP_cons, ih]
      by_cases hj : j = i
      · subst hj; simp [ht]
      · simp [hj]

theorem countP_pos_of_mem {l : List (Task σ)} {t : Task σ} (h : t ∈ l) :
    0 < l.countP (·.id = t.id) :=
  List.countP_pos_iff.2 ⟨t, h, by simp⟩

/-- A live task that is on loan is running. -/
theorem Kept.running {loans : List (Task σ)} {killed : List TaskId} {id : TaskId} {c : Control σ}
    (h : Kept loans killed id c) {t : Task σ} (ht : t ∈ loans) (hid : t.id = id) :
    c.status = .running := by
  by_cases hr : c.status = .running
  · exact hr
  · have h0 := (h.held hr).2
    have := countP_pos_of_mem ht
    rw [hid] at this
    omega

/-- What holds of a task does not depend on the loans of other numbers. -/
theorem Kept.of_loans {loans loans' : List (Task σ)} {killed killed' : List TaskId} {id : TaskId}
    {c : Control σ} (h : Kept loans killed id c)
    (hl : loans'.countP (·.id = id) = loans.countP (·.id = id))
    (hm : ∀ t ∈ loans', t.id = id → t ∈ loans) (hk : id ∉ killed') : Kept loans' killed' id c :=
  ⟨fun hr => ⟨(h.lent hr).1, by rw [hl]; exact (h.lent hr).2⟩,
    fun hr => ⟨(h.held hr).1, by rw [hl]; exact (h.held hr).2⟩,
    fun t ht e => h.owner t (hm t ht e) e, h.deadline, hk⟩

/-! ## One task changes -/

/-- What is known of one live task changes, and with it perhaps the loans of its number. -/
theorem Inv.put {d : TaskQueue σ} (h : Inv d) {id : TaskId} {c c' : Control σ} {loans' : List (Task σ)}
    (hc : d.registry.find? id = some c) (hk : Kept loans' d.registry.killed id c')
    (hl : ∀ j, j ≠ id → loans'.countP (·.id = j) = d.loans.countP (·.id = j))
    (hm : ∀ t ∈ loans', t ∈ d.loans ∨ t.id = id) :
    Inv ⟨d.registry.put id c', loans'⟩ := by
  have hid := h.bound id c hc
  refine ⟨?_, ?_, ?_, ?_, h.stopped, ?_⟩
  · rw [Registry.ids_put]; exact h.sorted
  · intro j cj hj
    by_cases e : j = id
    · rw [e]; exact hid
    · rw [Registry.find?_put_of_ne _ e] at hj
      exact h.bound j cj hj
  · intro j cj hj
    by_cases e : j = id
    · subst e
      rw [Registry.find?_put_self _ hc] at hj
      cases hj
      exact hk
    · rw [Registry.find?_put_of_ne _ e] at hj
      have hj' := h.kept j cj hj
      refine hj'.of_loans (hl j e) ?_ hj'.clear
      intro t ht et
      exact (hm t ht).resolve_right fun e' => e (et.symm.trans e')
  · intro t ht
    rcases hm t ht with m | e
    · exact h.loaned t m
    · show t.id < d.registry.nextId
      rw [e]; exact hid
  · intro t ht hg
    by_cases e : t.id = id
    · rw [e, Registry.find?_put_self _ hc] at hg; cases hg
    · rw [Registry.find?_put_of_ne _ e] at hg
      exact h.orphan t ((hm t ht).resolve_right e) hg

/-- One live task leaves. If it is on loan, its kill switch is set. -/
theorem Inv.drop {d : TaskQueue σ} (h : Inv d) {id : TaskId} {c : Control σ} {loans' : List (Task σ)}
    {killed' : List TaskId} (hc : d.registry.find? id = some c)
    (hl : ∀ j, j ≠ id → loans'.countP (·.id = j) = d.loans.countP (·.id = j))
    (hm : ∀ t ∈ loans', t ∈ d.loans) (hk : ∀ j ∈ killed', j ∈ d.registry.killed ∨ j = id)
    (hk' : ∀ j ∈ d.registry.killed, j ∈ killed') (ho : ∀ t ∈ loans', t.id = id → id ∈ killed') :
    Inv ⟨{ d.registry.drop id with killed := killed' }, loans'⟩ := by
  have hf : ∀ j, Registry.find? { d.registry.drop id with killed := killed' } j =
      if j = id then none else d.registry.find? j := d.registry.find?_drop id
  refine ⟨?_, ?_, ?_, ?_, ?_, ?_⟩
  · show (d.registry.drop id).ids.Pairwise (· < ·)
    rw [Registry.ids_drop]
    exact h.sorted.filter _
  · intro j cj hj
    rw [hf] at hj
    split at hj
    · cases hj
    · exact h.bound j cj hj
  · intro j cj hj
    rw [hf] at hj
    split at hj
    · cases hj
    · rename_i e
      have hj' := h.kept j cj hj
      refine hj'.of_loans (hl j e) (fun t ht _ => hm t ht) ?_
      intro m
      rcases hk j m with m | e'
      · exact hj'.clear m
      · exact e e'
  · intro t ht; exact h.loaned t (hm t ht)
  · intro j m
    rcases hk j m with m | e
    · exact h.stopped j m
    · subst e; exact h.bound j c hc
  · intro t ht hg
    rw [hf] at hg
    by_cases e : t.id = id
    · show t.id ∈ killed'
      rw [e]; exact ho t ht e
    · rw [if_neg e] at hg
      exact hk' _ (h.orphan t (hm t ht) hg)

/-! ## The events -/

theorem inv_enroll {r : Registry σ} {loans : List (Task σ)} (h : Inv ⟨r, loans⟩) {c : Control σ}
    (hq : c.status = .queued) (ht : ∃ t, c.task = some t ∧ t.id = r.nextId ∧ t.owner = c.owner)
    (hd : c.deadline = none) : Inv ⟨r.enroll c, loans⟩ := by
  have hnew : r.find? r.nextId = none := h.find?_nextId
  have hout : ∀ t ∈ loans, ¬ t.id = r.nextId := fun t m e =>
    absurd (h.loaned t m) (by rw [e]; exact Nat.lt_irrefl _)
  refine ⟨?_, ?_, ?_, ?_, ?_, ?_⟩
  · show (r.tasks ++ [(r.nextId, c)]).map (·.1) |>.Pairwise (· < ·)
    rw [List.map_append, List.pairwise_append]
    refine ⟨h.sorted, List.pairwise_singleton _ _, ?_⟩
    intro i hi j hj
    simp only [List.map_cons, List.map_nil, List.mem_singleton] at hj
    obtain ⟨ci, hci⟩ := Registry.valid_iff.1 (Registry.mem_ids.1 hi)
    rw [hj]; exact h.bound i ci hci
  · intro j cj hj
    show j < r.nextId + 1
    rw [Registry.find?_enroll] at hj
    by_cases e : j = r.nextId
    · rw [e]; exact Nat.lt_succ_self _
    · simp only [e, if_false, Option.or_none] at hj
      exact Nat.lt_succ_of_lt (h.bound j cj hj)
  · intro j cj hj
    rw [Registry.find?_enroll] at hj
    by_cases e : j = r.nextId
    · subst e
      simp only [hnew, if_true, Option.none_or, Option.some.injEq] at hj
      subst hj
      refine ⟨fun hr => ?_, fun _ => ⟨ht, ?_⟩, fun t m e => absurd e (hout t m), ?_, ?_⟩
      · rw [hq] at hr; cases hr
      · exact List.countP_eq_zero.2 fun t m => by simpa using hout t m
      · rw [hd]; intro hs; cases hs
      · intro m; exact absurd (h.stopped _ m) (Nat.lt_irrefl _)
    · simp only [e, if_false, Option.or_none] at hj
      exact h.kept j cj hj
  · intro t m; exact Nat.lt_succ_of_lt (h.loaned t m)
  · intro j m; exact Nat.lt_succ_of_lt (h.stopped j m)
  · intro t m hg
    rw [Registry.find?_enroll] at hg
    exact h.orphan t m (Option.or_eq_none_iff.1 hg).1

theorem inv_create {r : Registry σ} {loans : List (Task σ)} (h : Inv ⟨r, loans⟩) (clock : Clock)
    (entry : Frame) (program : σ) : Inv ⟨(r.create clock entry program).2, loans⟩ := by
  rcases r.create_cases clock entry program with e | ⟨calls, e⟩
  · rw [e]
    exact ⟨h.sorted, fun j cj hj => Nat.lt_succ_of_lt (h.bound j cj hj), h.kept,
      fun t m => Nat.lt_succ_of_lt (h.loaned t m), fun j m => Nat.lt_succ_of_lt (h.stopped j m),
      h.orphan⟩
  · rw [e]
    exact inv_enroll h rfl ⟨_, rfl, rfl, rfl⟩ rfl

theorem inv_lend {d : TaskQueue σ} (h : Inv d) (id : TaskId) : Inv (d.lend id) := by
  rcases d.lend_cases id with ⟨c, t, hc, hq, ht, e⟩ | ⟨-, e⟩
  · rw [e]
    have hk := h.kept id c hc
    obtain ⟨⟨t', ht', hid, how⟩, h0⟩ := hk.held (by rw [hq]; decide)
    rw [ht] at ht'
    cases ht'
    have hcount : ∀ j, (d.loans ++ [t]).countP (·.id = j) =
        d.loans.countP (·.id = j) + if id = j then 1 else 0 := by
      intro j; simp [List.countP_append, hid]
    refine h.put hc ⟨fun _ => ⟨rfl, ?_⟩, fun hr => absurd rfl hr, ?_, ?_, hk.clear⟩ ?_ ?_
    · rw [hcount, h0]; simp
    · intro t' m e'
      rcases List.mem_append.1 m with m | m
      · exact hk.owner t' m e'
      · rw [List.mem_singleton.1 m]; exact how
    · intro hd
      have := hk.deadline hd
      rw [hq] at this; cases this
    · intro j hj
      rw [hcount, if_neg fun e' => hj e'.symm]; rfl
    · intro t' m
      rcases List.mem_append.1 m with m | m
      · exact .inl m
      · right; rw [List.mem_singleton.1 m]; exact hid
  · rw [e]; exact h

/-- A suspended task is queued again. -/
theorem inv_requeue {r : Registry σ} {loans : List (Task σ)} (h : Inv ⟨r, loans⟩) {id : TaskId}
    {c : Control σ} (hc : r.find? id = some c) (hs : c.status = .suspended) (clock : Clock)
    (v : Value) : Inv ⟨r.put id (c.requeue clock v), loans⟩ := by
  have hk := h.kept id c hc
  obtain ⟨⟨t, ht, hid, how⟩, h0⟩ := hk.held (by rw [hs]; decide)
  refine h.put hc ⟨?_, ?_, hk.owner, ?_, hk.clear⟩ (fun _ _ => rfl) (fun t m => .inl m)
  · intro hr; cases hr
  · intro _
    exact ⟨⟨{ t with wake := some v }, by simp [Control.requeue, ht], hid, how⟩, h0⟩
  · intro hd; cases hd

/-- A task on loan that is not live any more comes back. -/
theorem inv_forget {d : TaskQueue σ} (h : Inv d) (id : TaskId) (hg : d.registry.find? id = none) :
    Inv ⟨d.registry, d.loans.eraseP (·.id = id)⟩ := by
  refine ⟨h.sorted, h.bound, ?_, fun t m => h.loaned t (List.mem_of_mem_eraseP m), h.stopped,
    fun t m hn => h.orphan t (List.mem_of_mem_eraseP m) hn⟩
  intro j cj hj
  have hne : j ≠ id := by
    rintro rfl
    rw [hg] at hj; cases hj
  have hk := h.kept j cj hj
  refine hk.of_loans ?_ (fun t m _ => List.mem_of_mem_eraseP m) hk.clear
  rw [countP_eraseP_id, if_neg hne]

/-- A task on loan that is live is suspended. -/
theorem inv_suspend {d : TaskQueue σ} (h : Inv d) (clock : Clock) {t l : Task σ} (s : Suspension)
    (hl : l ∈ d.loans) (hid : l.id = t.id) (how : l.owner = t.owner) :
    Inv ⟨d.registry.suspend clock t s, d.loans.eraseP (·.id = t.id)⟩ := by
  -- the first two ways to be suspended differ in the deadline only, and the third goes through them
  have park : ∀ c deadline, d.registry.find? t.id = some c → c.status = .running →
      Inv ⟨d.registry.put t.id (c.parked t deadline), d.loans.eraseP (·.id = t.id)⟩ := by
    intro c deadline hc hr
    have hk := h.kept t.id c hc
    have h1 := (hk.lent hr).2
    refine h.put hc ⟨fun hr => ?_, fun _ => ⟨⟨t, rfl, rfl, ?_⟩, ?_⟩, ?_, fun _ => rfl, hk.clear⟩ ?_ ?_
    · cases hr
    · rw [← how]; exact hk.owner l hl hid
    · rw [countP_eraseP_id, if_pos rfl, h1]
    · intro t' m e'; exact hk.owner t' (List.mem_of_mem_eraseP m) e'
    · intro j hj; rw [countP_eraseP_id, if_neg hj]
    · intro t' m; exact .inl (List.mem_of_mem_eraseP m)
  rcases d.registry.suspend_cases clock t s with ⟨hn, e⟩ | ⟨c, hc, hr, hs⟩
  · rw [e]
    refine inv_forget h t.id ?_
    cases hc : d.registry.find? t.id with
    | none => rfl
    | some c => exact absurd ((h.kept _ c hc).running hl hid) (hn c hc)
  · rcases hs with ⟨-, e⟩ | ⟨delay, date, timers, -, -, -, -, e⟩ | ⟨delay, date, -, -, -, e⟩
    · rw [e]; exact park c none hc hr
    · rw [e]; exact (park c (some date) hc hr).congr rfl rfl rfl
    · rw [e]
      have hq := inv_requeue (park c (some date) hc hr) (Registry.find?_put_self _ hc) rfl clock (.int 0)
      rw [Registry.put_put] at hq
      exact hq.congr rfl rfl rfl

/-- A task on loan that is live is retired. -/
theorem inv_complete {d : TaskQueue σ} (h : Inv d) {t l : Task σ} (o : Outcome) (hl : l ∈ d.loans)
    (hid : l.id = t.id) :
    Inv ⟨d.registry.complete t.id o, d.loans.eraseP (·.id = t.id)⟩ := by
  cases hc : d.registry.find? t.id with
  | none => rw [Registry.complete_of_not_live o hc]; exact inv_forget h t.id hc
  | some c =>
    rw [Registry.complete_of_find? o hc]
    have hk := h.kept t.id c hc
    have h1 := (hk.lent (hk.running hl hid)).2
    have hd : Inv ⟨{ d.registry.drop t.id with killed := d.registry.killed },
        d.loans.eraseP (·.id = t.id)⟩ := by
      refine h.drop hc ?_ (fun t' m => List.mem_of_mem_eraseP m) (fun j m => .inl m) (fun j m => m) ?_
      · intro j hj; rw [countP_eraseP_id, if_neg hj]
      · intro t' m e'
        have hpos := countP_pos_of_mem m
        rw [e', countP_eraseP_id, if_pos rfl, h1] at hpos
        exact absurd hpos (Nat.lt_irrefl 0)
    exact hd.congr rfl rfl rfl

theorem inv_finish {d : TaskQueue σ} (h : Inv d) (clock : Clock) {t : Task σ} {e : SliceEnd}
    (hm : d.mayEnd t e = true) :
    Inv ⟨d.registry.handBack clock t e, d.loans.eraseP (·.id = t.id)⟩ := by
  obtain ⟨⟨l, hl, hid, how⟩, hkill⟩ := mayEnd_iff.1 hm
  rcases d.registry.handBack_cases clock t e with ⟨s, -, eq⟩ | ⟨o, -, eq⟩ | ⟨rfl, eq⟩
  · rw [eq]; exact inv_suspend h clock s hl hid how
  · rw [eq]; exact inv_complete h o hl hid
  · rw [eq]
    refine inv_forget h t.id ?_
    cases hc : d.registry.find? t.id with
    | none => rfl
    | some c =>
      -- the kill switch of a live task is clear
      exact absurd (by simpa [Registry.isKilled] using hkill rfl) (h.kept _ c hc).clear

theorem inv_resume {r r' : Registry σ} {loans : List (Task σ)} (h : Inv ⟨r, loans⟩) {clock : Clock}
    {id : TaskId} {v : Value} {who : Obj} {wizard : Bool}
    (hr : r.resume clock id v who wizard = .ok r') : Inv ⟨r', loans⟩ := by
  obtain ⟨c, hc, -, hs, rfl⟩ := Registry.resume_eq_ok.1 hr
  rw [Registry.cancelTimer_eq]
  exact (inv_requeue h hc hs clock v).congr rfl rfl rfl

theorem inv_kill {r r' : Registry σ} {loans : List (Task σ)} (h : Inv ⟨r, loans⟩) {id : TaskId}
    {who : Obj} {wizard : Bool} (hr : r.kill id who wizard = .ok r') : Inv ⟨r', loans⟩ := by
  obtain ⟨c, hc, -, rfl⟩ := Registry.kill_eq_ok.1 hr
  rw [Registry.cancelTimer_eq]
  have hd : Inv ⟨{ r.drop id with killed := r.killed ++ [id] }, loans⟩ := by
    refine h.drop hc (fun _ _ => rfl) (fun t m => m) ?_ (fun j m => List.mem_append_left _ m) ?_
    · intro j m
      rcases List.mem_append.1 m with m | m
      · exact .inl m
      · exact .inr (List.mem_singleton.1 m)
    · intro t _ _; exact List.mem_append_right _ List.mem_cons_self
  exact hd.congr rfl rfl rfl

theorem inv_advance {r : Registry σ} {loans : List (Task σ)} (h : Inv ⟨r, loans⟩) (clock : Clock) :
    Inv ⟨(r.advance clock).2, loans⟩ :=
  Registry.advance_induct (P := fun r => Inv ⟨r, loans⟩) clock
    (fun _ _ h => h.congr rfl rfl rfl)
    (fun _ _ _ h hc hs => (inv_requeue h hc hs clock (.int 0)).congr rfl rfl rfl) h

theorem inv_abort {r : Registry σ} {loans : List (Task σ)} (h : Inv ⟨r, loans⟩) (clock : Clock) :
    Inv ⟨r.abortAll clock, loans⟩ := by
  refine ⟨List.Pairwise.nil, ?_, ?_, h.loaned, ?_, ?_⟩
  · intro id c hc; cases hc
  · intro id c hc; cases hc
  · intro id m
    rcases List.mem_append.1 m with m | m
    · exact h.stopped id m
    · obtain ⟨c, hc⟩ := Registry.valid_iff.1 (Registry.mem_ids.1 m)
      exact h.bound id c hc
  · intro t m _
    cases hc : r.find? t.id with
    | none => exact List.mem_append_left _ (h.orphan t m hc)
    | some c =>
      exact List.mem_append_right _ (Registry.mem_ids.2 (Registry.valid_iff.2 ⟨c, hc⟩))

theorem inv_step {d d' : TaskQueue σ} {e : Event σ} (h : Inv d) (hs : d.step e = some d') : Inv d' := by
  cases step_spec hs with
  | create clock entry program => exact inv_create h clock entry program
  | dispatch id => exact inv_lend h id
  | @deal id rest _ =>
    have ht : Inv ⟨{ d.registry with ready := rest }, d.loans⟩ := h.congr rfl rfl rfl
    exact inv_lend ht id
  | finish hm => exact inv_finish h _ hm
  | resume hr => exact inv_resume h hr
  | kill hr => exact inv_kill h hr
  | resumeRefused => exact h
  | killRefused => exact h
  | advance clock => exact inv_advance h clock
  | abort clock => exact inv_abort h clock

theorem inv_run {now maxDepth : Nat} {es : List (Event σ)} {d : TaskQueue σ}
    (h : (empty now maxDepth).run es = some d) : Inv d :=
  run_induct (Q := fun _ => True) (fun _ _ _ hi _ hs => inv_step hi hs) es _ d
    (inv_empty now maxDepth) (fun _ _ => trivial) h

/-- What holds of the queue before the first task, and is kept by each step of some kind from a queue with
the invariant, holds after every run of such steps. -/
theorem reach_induct {P : TaskQueue σ → Prop} {Q : Event σ → Prop} {now maxDepth : Nat}
    (h₀ : P (empty now maxDepth))
    (hstep : ∀ d e d', Inv d → P d → Q e → d.step e = some d' → P d') {es : List (Event σ)} {d : TaskQueue σ}
    (hes : ∀ e ∈ es, Q e) (h : (empty now maxDepth).run es = some d) : P d := by
  have hp := run_induct (P := fun d => Inv d ∧ P d) (Q := Q)
    (fun d e d' hd he hs => ⟨inv_step hd.1 hs, hstep d e d' hd.1 hd.2 he hs⟩) es _ d
    ⟨inv_empty now maxDepth, h₀⟩ hes h
  exact hp.2

/-- **Each task is in one place.** Whatever happened to the queue, in whatever order: every live task is
queued, running or suspended; the registry holds it if it is queued or suspended, and it is on loan
exactly once if it is running, with its own number and owner either way; only a suspended task has a
deadline; its kill switch is clear, and that of a task on loan that is not live any more is set; the
numbers of the live tasks grow in the order of creation and are smaller than the next one; and a task that
cannot be started uses up its number and changes nothing else. -/
theorem task_lifecycle {now maxDepth : Nat} {es : List (Event σ)} {d : TaskQueue σ}
    (h : (empty now maxDepth).run es = some d) :
    (∀ id c, (id, c) ∈ d.registry.tasks →
      (c.status = .queued ∨ c.status = .running ∨ c.status = .suspended) ∧
      (c.task.isSome ↔ c.status = .queued ∨ c.status = .suspended) ∧
      (d.loans.countP (·.id = id) = 1 ↔ c.status = .running) ∧
      (c.status ≠ .running → ∀ t ∈ d.loans, t.id ≠ id) ∧
      (∀ t, c.task = some t ∨ t ∈ d.loans ∧ t.id = id → t.id = id ∧ t.owner = c.owner) ∧
      (c.deadline.isSome → c.status = .suspended) ∧
      d.registry.isKilled id = false) ∧
    (∀ t ∈ d.loans, d.registry.valid t.id = false → d.registry.isKilled t.id = true) ∧
    (d.registry.tasks.map (·.1)).Pairwise (· < ·) ∧
    (∀ id c, (id, c) ∈ d.registry.tasks → id < d.registry.nextId) ∧
    (∀ clock entry program e, (d.registry.create clock entry program).1 = .error e →
      (d.registry.create clock entry program).2 =
        { d.registry with nextId := d.registry.nextId + 1 }) := by
  have hi := inv_run h
  refine ⟨?_, ?_, hi.sorted, fun id c m => hi.bound id c (hi.mem_tasks.1 m), ?_⟩
  · intro id c m
    have hk := hi.kept id c (hi.mem_tasks.1 m)
    have hclear : d.registry.isKilled id = false := by simpa [Registry.isKilled] using hk.clear
    by_cases hr : c.status = .running
    · obtain ⟨hn, h1⟩ := hk.lent hr
      refine ⟨.inr (.inl hr), ?_, by simp [h1, hr], fun h => absurd hr h, ?_, hk.deadline, hclear⟩
      · simp [hn, hr]
      · rintro t (ht | ⟨ht, e⟩)
        · rw [hn] at ht; cases ht
        · exact ⟨e, hk.owner t ht e⟩
    · obtain ⟨⟨t, ht, hid, how⟩, h0⟩ := hk.held hr
      have hout : ∀ t ∈ d.loans, t.id ≠ id := by
        intro t' m' e
        exact hr (hk.running m' e)
      have hqs : c.status = .queued ∨ c.status = .suspended := by
        cases hs : c.status with
        | queued => exact .inl rfl
        | running => exact absurd hs hr
        | suspended => exact .inr rfl
      refine ⟨?_, by simp [ht, hqs], by simp [h0, hr], fun _ => hout, ?_, hk.deadline, hclear⟩
      · rcases hqs with hq | hs
        · exact .inl hq
        · exact .inr (.inr hs)
      · rintro t' (ht' | ⟨m', e⟩)
        · rw [ht] at ht'; cases ht'; exact ⟨hid, how⟩
        · exact absurd e (hout t' m')
  · intro t m hv
    simpa [Registry.isKilled] using hi.orphan t m (Registry.valid_eq_false.1 hv)
  · intro clock entry program e he
    rcases d.registry.create_cases clock entry program with eq | ⟨calls, eq⟩
    · rw [eq]
    · rw [eq] at he; cases he

/-- Two tasks go out on loan, and the first is killed meanwhile. -/
def killedLoan : List (Event Unit) :=
  [.create {} idleFrame (), .create {} idleFrame (), .dispatch 1, .kill 1 .nothing false, .deal, .deal]

theorem task_lifecycle_killedLoan : ∃ d : TaskQueue Unit, (empty 0 1).run killedLoan = some d ∧
    d.loans.map (·.id) = [1, 2] ∧ d.registry.ids = [2] ∧ d.registry.killed = [1] ∧
    (∀ id c, (id, c) ∈ d.registry.tasks → (d.loans.countP (·.id = id) = 1 ↔ c.status = .running)) ∧
    (∀ t ∈ d.loans, d.registry.valid t.id = false → d.registry.isKilled t.id = true) := by
  refine ⟨_, rfl, rfl, rfl, rfl, ?_, ?_⟩
  · intro id c m
    exact ((@task_lifecycle Unit 0 1 killedLoan _ rfl).1 id c m).2.2.1
  · exact (@task_lifecycle Unit 0 1 killedLoan _ rfl).2.1

end MooWorld.TaskQueue
