import MooWorld.Builtin.Identity
/-!
# Calls nest

A task enters verbs and leaves them. In between the innermost frame may come to act for someone else, or move
to another line. No move reaches below the innermost frame (`below_step`), so as long as a call lasts the
frames below it stay as they are (`below_run`), and when it returns they are all that is left. Whatever a verb
made of its own permissions, its caller acts for whom it acted for before (`calls_nest`).
-/
namespace MooWorld.CallStack

/-- What can happen to a call stack. -/
inductive Move where
  | push (f : Frame)
  | pop
  | setTaskPerms (o : Obj)
  | setLine (n : Nat)

/-- The stack of a task before its first frame. -/
def new (taskId maxDepth : Nat) : CallStack := { taskId, maxDepth }

/-- One move. A frame that is refused leaves the stack as it was. -/
def step (s : CallStack) : Move → CallStack
  | .push f => (s.push f).toOption.getD s
  | .pop => s.pop.2
  | .setTaskPerms o => s.setTaskPerms o
  | .setLine n => s.setLine n

/-- Moves, one after the other. -/
def run (s : CallStack) (ms : List Move) : CallStack := ms.foldl step s

theorem run_concat (s : CallStack) (ms : List Move) (m : Move) : s.run (ms ++ [m]) = (s.run ms).step m := by
  simp [run]

/-! ## One move -/

theorem push_of_lt {s : CallStack} (h : s.depth < s.maxDepth) (f : Frame) :
    s.push f = .ok { s with frames := f :: s.frames } :=
  if_neg (Nat.not_le.2 h)

theorem push_of_le {s : CallStack} (h : s.maxDepth ≤ s.depth) (f : Frame) :
    s.push f = .error (ErrorCode.tooManyCalls.withMessage
      ("Call stack depth limit of " ++ toString s.maxDepth ++ " reached")) :=
  if_pos h

theorem frames_modifyTop (s : CallStack) (g : Frame → Frame) :
    (s.modifyTop g).frames = s.frames.modifyHead g := by
  unfold modifyTop
  split <;> simp [*]

theorem maxDepth_step (s : CallStack) (m : Move) : (s.step m).maxDepth = s.maxDepth := by
  cases m with
  | push f =>
    rcases Nat.lt_or_ge s.depth s.maxDepth with h | h
    · simp [step, push_of_lt h, Except.toOption]
    · simp [step, push_of_le h, Except.toOption]
  | pop => rfl
  | setTaskPerms o => simp only [step, setTaskPerms, modifyTop]; split <;> rfl
  | setLine n => simp only [step, setLine, modifyTop]; split <;> rfl

/-- The frames after a move: one more if there is room, one fewer, or as many with another one on top. -/
theorem frames_step (s : CallStack) (m : Move) :
    (∃ f, m = .push f ∧ s.depth < s.maxDepth ∧ (s.step m).frames = f :: s.frames) ∨
    (∃ f, m = .push f ∧ s.maxDepth ≤ s.depth ∧ s.step m = s) ∨
    (m = .pop ∧ (s.step m).frames = s.frames.tail) ∨
    ∃ g, (s.step m).frames = s.frames.modifyHead g := by
  cases m with
  | push f =>
    rcases Nat.lt_or_ge s.depth s.maxDepth with h | h
    · exact .inl ⟨f, rfl, h, by simp [step, push_of_lt h, Except.toOption]⟩
    · exact .inr (.inl ⟨f, rfl, h, by simp [step, push_of_le h, Except.toOption]⟩)
  | pop => exact .inr (.inr (.inl ⟨rfl, rfl⟩))
  | setTaskPerms o => exact .inr (.inr (.inr ⟨_, frames_modifyTop s _⟩))
  | setLine n => exact .inr (.inr (.inr ⟨_, frames_modifyTop s _⟩))

theorem depth_step_le {s : CallStack} (h : s.depth ≤ s.maxDepth) (m : Move) :
    (s.step m).depth ≤ s.maxDepth := by
  unfold depth at *
  rcases s.frames_step m with ⟨f, -, hlt, e⟩ | ⟨f, -, -, e⟩ | ⟨-, e⟩ | ⟨g, e⟩
  · rw [e]; exact hlt
  · rw [e]; exact h
  · rw [e, List.length_tail]; omega
  · rw [e, List.length_modifyHead]; exact h

/-- A move leaves every frame below the innermost one alone. -/
theorem below_step {s : CallStack} {base : List Frame} (h : base <:+ s.frames) (hd : base.length < s.depth)
    (m : Move) : base <:+ (s.step m).frames := by
  obtain ⟨above, habove⟩ := h
  cases above with
  | nil =>
    rw [List.nil_append] at habove
    rw [habove] at hd
    exact absurd hd (Nat.lt_irrefl _)
  | cons top above =>
    rcases s.frames_step m with ⟨f, -, -, e⟩ | ⟨f, -, -, e⟩ | ⟨-, e⟩ | ⟨g, e⟩
    · exact ⟨f :: top :: above, by rw [e, ← habove]; rfl⟩
    · exact ⟨top :: above, by rw [e, ← habove]⟩
    · exact ⟨above, by rw [e, ← habove]; rfl⟩
    · exact ⟨g top :: above, by rw [e, ← habove]; rfl⟩

/-! ## Many moves -/

theorem maxDepth_run (s : CallStack) (ms : List Move) : (s.run ms).maxDepth = s.maxDepth := by
  induction ms generalizing s with
  | nil => rfl
  | cons m ms ih => exact (ih (s.step m)).trans (s.maxDepth_step m)

theorem depth_run_le {s : CallStack} (h : s.depth ≤ s.maxDepth) (ms : List Move) :
    (s.run ms).depth ≤ s.maxDepth := by
  induction ms generalizing s with
  | nil => exact h
  | cons m ms ih =>
    rw [← maxDepth_step s m]
    exact ih (by rw [maxDepth_step]; exact depth_step_le h m)

/-- As long as there is a frame above them, some frames stay as they are. -/
theorem below_run {s : CallStack} {base : List Frame} (h : base <:+ s.frames) (ms : List Move)
    (hd : ∀ k < ms.length, base.length < (s.run (ms.take k)).depth) :
    ∀ k ≤ ms.length, base <:+ (s.run (ms.take k)).frames := by
  intro k hk
  induction k with
  | zero => exact h
  | succ k ih =>
    rw [List.take_succ_eq_append_getElem hk, run_concat]
    exact below_step (ih (Nat.le_of_succ_le hk)) (hd k hk) _

/-- A call has returned when the stack is no deeper than before it for the first time, and then the frames
below it are all there are. -/
theorem frames_of_returned {s : CallStack} {base : List Frame} (h : base <:+ s.frames) (ms : List Move)
    (hd : ∀ k < ms.length, base.length < (s.run (ms.take k)).depth) (hback : (s.run ms).depth = base.length) :
    (s.run ms).frames = base := by
  have hbelow := below_run h ms hd ms.length (Nat.le_refl _)
  rw [List.take_length] at hbelow
  exact (hbelow.eq_of_length hback.symm).symm

/-! ## Who is acting -/

theorem callerPerms_of_concat {s : CallStack} {outer : List Frame} {f top : Frame}
    (h : s.outermostFirst = outer ++ [f, top]) : s.callerPerms = f.programmer := by
  have hframes : s.frames = top :: f :: outer.reverse := by
    rw [← List.reverse_reverse s.frames]
    exact (congrArg List.reverse h).trans (by simp)
  simp [callerPerms, hframes]

theorem callerPerms_of_shallow {s : CallStack} (h : s.depth < 2) : s.callerPerms = .nothing := by
  unfold depth at h
  unfold callerPerms
  rcases hs : s.frames with _ | ⟨f, _ | ⟨f', rest⟩⟩
  · rfl
  · rfl
  · rw [hs] at h; simp only [List.length_cons] at h; omega

theorem callers_eq (s : CallStack) : s.callers = (s.frames.filter (!·.server)).reverse := by
  simp [callers, outermostFirst, List.filter_reverse]

/-- **Calls nest.** Whatever happened to a stack since it was empty, calls that were refused and returns from
nothing among it, it is no deeper than its limit. A frame is refused, and nothing changed, if and only if the
stack is as deep as that. Take a frame that is not refused, and anything that happens from then on up to the
first return to the depth before the call. All the while the frames that were there lie unchanged below those
of the call, and at the end they are the frames: the task acts for whom it acted for, its caller is who it was,
and the same callers are listed.

At each point the caller is the programmer of the frame below the innermost one, and nobody if there is none;
and the callers that are listed are the frames that the server did not push, from the outermost one on. -/
theorem calls_nest {σ : Type} (taskId maxDepth : Nat) (ms : List Move) :
    let s := (new taskId maxDepth).run ms
    s.depth ≤ maxDepth ∧
    (∀ f, (∃ e, s.push f = .error e) ↔ s.depth = maxDepth) ∧
    (∀ f e, s.push f = .error e → e.code = .tooManyCalls ∧ s.step (.push f) = s) ∧
    (∀ f s₁ inner, s.push f = .ok s₁ →
      (∀ k ≤ inner.length, s.depth < (s₁.run (inner.take k)).depth) →
      (s₁.run (inner ++ [.pop])).depth = s.depth →
      (∀ k ≤ inner.length, s.frames <:+ (s₁.run (inner.take k)).frames) ∧
      let t := s₁.run (inner ++ [.pop])
      t.frames = s.frames ∧ t.taskPerms = s.taskPerms ∧ t.callerPerms = s.callerPerms ∧
        t.callers = s.callers) ∧
    (∀ outer f top, s.outermostFirst = outer ++ [f, top] → s.callerPerms = f.programmer) ∧
    (s.depth < 2 → s.callerPerms = .nothing) ∧
    s.callers = (s.frames.filter (!·.server)).reverse ∧
    ∀ c : Context σ, c.calls = s →
      Builtin.callerPerms [] c = .ok (.value (.obj s.callerPerms), c) ∧
      ∀ withLine, Builtin.callers [.bool withLine] c =
        .ok (.value (.list (s.callers.map (Builtin.callerEntry withLine))), c) := by
  intro s
  have hmax : s.maxDepth = maxDepth := maxDepth_run _ ms
  have hdepth : s.depth ≤ maxDepth := depth_run_le (Nat.zero_le _) ms
  refine ⟨hdepth, fun f => ?_, fun f e he => ?_, fun f s₁ inner hpush hin hback => ?_,
    fun _ _ _ => callerPerms_of_concat, callerPerms_of_shallow, s.callers_eq, fun c hc => ?_⟩
  · rcases Nat.lt_or_ge s.depth s.maxDepth with h | h
    · rw [push_of_lt h f]
      simp only [reduceCtorEq, exists_false, false_iff]
      omega
    · rw [push_of_le h f]
      simp only [Except.error.injEq, exists_eq', true_iff]
      omega
  · rcases Nat.lt_or_ge s.depth s.maxDepth with h | h
    · rw [push_of_lt h f] at he; cases he
    · refine ⟨?_, by simp [step, he, Except.toOption]⟩
      rw [push_of_le h f] at he
      cases he
      rfl
  · have hlt : s.depth < s.maxDepth := by
      rcases Nat.lt_or_ge s.depth s.maxDepth with h | h
      · exact h
      · rw [push_of_le h f] at hpush; cases hpush
    rw [push_of_lt hlt f] at hpush
    cases hpush
    -- the frames before the call lie below its first one
    have hbase : s.frames <:+ f :: s.frames := List.suffix_cons f s.frames
    have hbelow := below_run hbase inner fun k hk => hin k (Nat.le_of_lt hk)
    have hframes := frames_of_returned (s := { s with frames := f :: s.frames }) hbase (inner ++ [.pop])
      (fun k hk => by
        have hk : k ≤ inner.length := by simpa [Nat.lt_succ_iff] using hk
        rw [List.take_append_of_le_length hk]
        exact hin k hk) hback
    refine ⟨hbelow, hframes, ?_, ?_, ?_⟩
    · rw [taskPerms, hframes, ← taskPerms]
    · rw [callerPerms, hframes, ← callerPerms]
    · rw [callers_eq, hframes, ← callers_eq]
  · rw [← hc]
    exact ⟨rfl, fun withLine => rfl⟩

/-- A frame of a verb that acts for someone. -/
def frameOf (verb : String) (programmer : Obj) : Frame :=
  { this := .none, verb := ⟨verb⟩, definer := .system, player := .nothing, programmer }

/-- Nothing is left to return from. Then the server enters a verb for its own purposes, which enters another
one, and that comes to act for someone else. -/
def greeting : List Move :=
  [.pop, .push { frameOf "login" .system with server := true }, .push (frameOf "look" ⟨3⟩),
    .setTaskPerms ⟨9⟩]

/-- A verb comes to act for someone else and enters another one, which does the same and is refused a third. -/
def errand : List Move :=
  [.setTaskPerms ⟨5⟩, .push (frameOf "tell" ⟨6⟩), .setTaskPerms ⟨7⟩, .push (frameOf "notify" ⟨8⟩),
    .setLine 12, .pop, .setLine 4]

theorem calls_nest_errand : ∃ s₁ s₂ : CallStack,
    ((new 1 4).run greeting).push (frameOf "describe" ⟨4⟩) = .ok s₁ ∧
    s₁.run (errand.take 3) = s₂ ∧ s₂.run [.push (frameOf "notify" ⟨8⟩)] = s₂ ∧ s₂.taskPerms = ⟨7⟩ ∧
    (s₁.run (errand ++ [.pop])).frames = ((new 1 4).run greeting).frames ∧
    (s₁.run (errand ++ [.pop])).taskPerms = ⟨9⟩ ∧
    (s₁.run (errand ++ [.pop])).callerPerms = .system ∧
    (s₁.run (errand ++ [.pop])).callers = [frameOf "look" ⟨9⟩] := by
  refine ⟨_, _, rfl, rfl, rfl, rfl, ?_⟩
  obtain ⟨-, -, -, segment, -⟩ := calls_nest (σ := Unit) 1 4 greeting
  obtain ⟨-, hframes, htask, hcaller, hcallers⟩ :=
    segment (frameOf "describe" ⟨4⟩) _ errand rfl (by decide) rfl
  exact ⟨hframes, htask, hcaller, hcallers⟩

end MooWorld.CallStack
