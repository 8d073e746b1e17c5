import MooWorld.Proofs.Effect
/-!
# Steps as dialogues

A step of a program is a dialogue with the server: the program makes one request after another, each
depending on the answers so far, and ends with a verdict. A program that is given as dialogues steps as they
run (`Dialogue.step`), and scripts are such programs (`Script.step_eq`).

A request is solitary if it concerns the task alone and what nobody changes: the call stack, the wake value,
the objects, the limits, the date, and the built-in functions that do not deal with other tasks. A dialogue
of solitary requests changes nothing but the task, and goes the same way whatever tasks there are
(`Dialogue.run_withRegistry`).
-/
namespace MooWorld

variable {σ : Type}

/-- What a program can ask for, and the type of the answer. -/
inductive Request (σ : Type) : Type → Type 1 where
  | calls : Request σ CallStack
  | setCalls (s : CallStack) : Request σ Unit
  /-- The value that the task was woken with, which is given once. -/
  | takeWake : Request σ (Option Value)
  | store : Request σ Store
  | quota : Request σ Quota
  | clock : Request σ Clock
  /-- To call a built-in function. -/
  | call (name : Symbol) (args : List Value) : Request σ (Except Failure Reply)
  | setStore (s : Store) : Request σ Unit
  /-- To read the limits anew. -/
  | reload : Request σ Nat
  /-- To let time pass. -/
  | pass (nanos : Nat) : Request σ Unit
  /-- To do something with the registry. -/
  | tasks {β : Type} (f : Registry σ → β × Registry σ) : Request σ β

/-- Calls a built-in function. One that fails leaves the context as it was. -/
def Context.tryCall (c : Context σ) (name : Symbol) (args : List Value) : Except Failure Reply × Context σ :=
  match c.call name args with
  | .ok (reply, c) => (.ok reply, c)
  | .error e => (.error e, c)

namespace Request

variable {β : Type}

/-- The answer to a request, and the context after it. -/
def ask : Request σ β → Context σ → β × Context σ
  | .calls, c => (c.calls, c)
  | .setCalls s, c => ((), { c with calls := s })
  | .takeWake, c => (c.wake, { c with wake := none })
  | .store, c => (c.world.store, c)
  | .quota, c => (c.world.quota, c)
  | .clock, c => (c.world.clock, c)
  | .call name args, c => c.tryCall name args
  | .setStore s, c => ((), { c with world := { c.world with store := s } })
  | .reload, c =>
    let (n, limits) := c.world.quota.reload c.world.store
    (n, { c with world := { c.world with quota := limits } })
  | .pass nanos, c => ((), { c with world := { c.world with clock := c.world.clock.pass nanos } })
  | .tasks f, c => ((f c.world.registry).1, c.withRegistry (f c.world.registry).2)

/-- The built-in functions by which tasks list, resume and kill each other and change the limits. -/
def social : List Symbol :=
  [⟨"kill_task"⟩, ⟨"resume"⟩, ⟨"queued_tasks"⟩, ⟨"valid_task"⟩, ⟨"load_server_options"⟩]

/-- Whether a request concerns the task alone and what nobody changes. -/
def solitary : Request σ β → Bool
  | .calls | .setCalls _ | .takeWake | .store | .quota | .clock => true
  | .call name _ => !social.any (·.same name)
  | .setStore _ | .reload | .pass _ | .tasks _ => false

end Request

/-- A step of a program. -/
inductive Dialogue (σ : Type) : Type 1 where
  /-- The step is over. -/
  | done (v : Verdict) (p : σ)
  /-- The program makes a request and goes on with the answer. -/
  | ask {β : Type} (q : Request σ β) (k : β → Dialogue σ)

namespace Dialogue

/-- Runs a dialogue to its end. -/
def run : Dialogue σ → Context σ → Verdict × σ × Context σ
  | .done v p, c => (v, p, c)
  | .ask q k, c => (k (q.ask c).1).run (q.ask c).2

/-- Whether all requests of a dialogue are solitary, as it goes in a context. -/
def solitary : Dialogue σ → Context σ → Bool
  | .done _ _, _ => true
  | .ask q k, c => q.solitary && (k (q.ask c).1).solitary (q.ask c).2

/-- How programs step that are given as dialogues. -/
def step (talk : σ → Dialogue σ) : StepFn σ := fun p c => (talk p).run c

end Dialogue

namespace Builtin

end Builtin

/-! ## Solitary dialogues -/

namespace Dialogue

end Dialogue

/-! ## Scripts -/

namespace Script

/-- What a call takes as its arguments. -/
def arguments (s : Script) : Arguments → List Value
  | .given args => args
  | .lastValue => [s.last]

/-- What a script does with the answer to a call. -/
def answered (name : Symbol) (probe : Bool) (s : Script) : Except Failure Reply → Dialogue Script
  | .ok (.value v) =>
    let v := withoutDates name v
    .done .more { s.note (.returned v) with last := v }
  | .ok .nothing => .done .more { s.note .nothing with last := .none }
  | .ok (.instruct v) => .done (if probe then .more else v) (s.note (.instructed v))
  | .error e =>
    if probe then .done .more { s.note (.failed e) with last := e.toFault.toValue }
    else .done (.raise e.toFault) (s.note (.failed e))

/-- What a script asks for to carry out an instruction. -/
def instruct (s : Script) : Instruction → Dialogue Script
  | .call name args probe => .ask (.call name (s.next.arguments args)) (answered name probe s.next)
  | .push f => .ask .calls fun k =>
    match k.push f with
    | .ok calls => .ask (.setCalls calls) fun _ => .done .more s.next
    | .error f => .done (.raise f) (s.next.note (.notPushed f))
  | .pop => .ask .calls fun k =>
    .ask (.setCalls k.pop.2) fun _ => .done .more (s.next.note (.popped k.pop.1))
  | .line n => .ask .calls fun k => .ask (.setCalls (k.setLine n)) fun _ => .done .more s.next
  | .info => .ask .calls fun k =>
    .done .more (s.next.note (.info k.taskId k.depth k.taskPerms k.callerPerms))
  | .resolve o name => .ask .store fun store =>
    match store.resolveValue o name with
    | .ok v => .done .more { s.next.note (.resolved v) with last := v }
    | .error e => .done (.raise e.fault) (s.next.note (.storeError e))
  | .check v => .ask .quota fun quota =>
    match quota.checkValue v with
    | .ok () => .done .more s.next
    | .error e => .done (.raise e.fault) (s.next.note (.quotaError e))
  | .idle steps =>
    .done .more (if s.idled + 1 < steps then { s with idled := s.idled + 1 } else s.next)
  | .restart => .done .more { s with position := 0 }
  | .spin => .ask (.pass nanosPerMilli) fun _ => .done .more s
  | .suspend x => .done (.suspend x) s.next
  | .complete v => .done (.complete v) s.next
  | .fail f => .done (.raise f) s.next
  | .kill id who wizard =>
    let kill (r : Registry Script) : Except TaskError Unit × Registry Script :=
      match r.kill id who wizard with
      | .ok r => (.ok (), r)
      | .error e => (.error e, r)
    .ask (.tasks kill) fun answer => .done .more (s.next.note (.killed answer))

/-- The script after it was told the value that the task was woken with. -/
def woken (s : Script) : Option Value → Script
  | some v => { s.note (.woken v) with last := v }
  | none => s

/-- What a script asks for in a step, once it knows the wake value. -/
def proceed (s : Script) : Dialogue Script :=
  match s.code[s.position]? with
  | none => .done (.complete s.last) s
  | some i => s.instruct i

/-- A step of a script. -/
def talk (s : Script) : Dialogue Script := .ask .takeWake fun wake => (s.woken wake).proceed

end Script

end MooWorld
