import MooWorld.Builtin.Table
import MooWorld.Task.Slice
/-!
# Scripts

A script is the plainest program a task can run: a list of instructions, one for each step, with a last
value and a log. A step begins by taking the value the task was woken with, if there is one. A script
that has no instruction left completes with its last value.
-/
namespace MooWorld

/-- What a call takes as its arguments. -/
inductive Arguments where
  | given (args : List Value)
  /-- The last value alone. -/
  | lastValue

/-- An instruction. -/
inductive Instruction where
  /-- Call a built-in function. A probe only looks at the answer: it asks for nothing and is not ended by
  an error. -/
  | call (name : Symbol) (args : Arguments) (probe : Bool)
  | push (f : Frame)
  | pop
  | line (n : Nat)
  /-- Log who the task is. -/
  | info
  | resolve (o : Obj) (name : String)
  /-- Check a value against its quota. -/
  | check (v : Value)
  /-- Take some steps, at least one, and do nothing. -/
  | idle (steps : Nat)
  /-- Go back to the first instruction. -/
  | restart
  /-- Let a millisecond pass, and again. -/
  | spin
  | suspend (s : Suspension)
  | complete (v : Value)
  | fail (f : Fault)
  /-- Kill a task on someone's behalf. -/
  | kill (id : TaskId) (who : Obj) (wizard : Bool)

/-- An entry of the log. -/
inductive Entry where
  | woken (v : Value)
  | returned (v : Value)
  | nothing
  | instructed (v : Verdict)
  | failed (e : Failure)
  | notPushed (f : Fault)
  | popped (f : Option Frame)
  | info (id : TaskId) (depth : Nat) (perms caller : Obj)
  | resolved (v : Value)
  | storeError (e : StoreError)
  | quotaError (e : QuotaError)
  | killed (r : Except TaskError Unit)

/-- A script and how far it got. -/
structure Script where
  code : Array Instruction
  /-- The number of the next instruction. -/
  position : Nat := 0
  /-- The steps already spent on an instruction that idles. -/
  idled : Nat := 0
  last : Value := .none
  log : Array Entry := #[]
  /-- Whether nothing is logged. -/
  quiet : Bool := false

namespace Script

/-- Adds an entry to the log. -/
def note (s : Script) (e : Entry) : Script :=
  if s.quiet then s else { s with log := s.log.push e }

/-- Goes on to the next instruction. -/
def next (s : Script) : Script := { s with position := s.position + 1, idled := 0 }

/-- A listing of queued tasks without the dates, which differ from run to run. -/
def withoutDates (name : Symbol) (v : Value) : Value :=
  match v with
  | .list entries =>
    if name.same ⟨"queued_tasks"⟩ then
      .list (entries.map fun e =>
        match e with
        | .list (id :: _ :: rest) => .list (id :: .int 0 :: rest)
        | e => e)
    else v
  | v => v

/-- Calls a built-in function. -/
def call (name : Symbol) (args : Arguments) (probe : Bool) (s : Script) (c : Context Script) :
    Verdict × Script × Context Script :=
  let args := match args with
    | .given args => args
    | .lastValue => [s.last]
  match c.call name args with
  | .ok (.value v, c) =>
    let v := withoutDates name v
    (.more, { s.note (.returned v) with last := v }, c)
  | .ok (.nothing, c) => (.more, { s.note .nothing with last := .none }, c)
  | .ok (.instruct v, c) => (if probe then .more else v, s.note (.instructed v), c)
  | .error e =>
    let s := s.note (.failed e)
    if probe then (.more, { s with last := e.toFault.toValue }, c) else (.raise e.toFault, s, c)

/-- Carries out an instruction. -/
def execute (i : Instruction) (s : Script) (c : Context Script) : Verdict × Script × Context Script :=
  match i with
  | .call name args probe => call name args probe s.next c
  | .push f =>
    match c.calls.push f with
    | .ok calls => (.more, s.next, { c with calls })
    | .error f => (.raise f, s.next.note (.notPushed f), c)
  | .pop =>
    let (f, calls) := c.calls.pop
    (.more, s.next.note (.popped f), { c with calls })
  | .line n => (.more, s.next, { c with calls := c.calls.setLine n })
  | .info =>
    let k := c.calls
    (.more, s.next.note (.info k.taskId k.depth k.taskPerms k.callerPerms), c)
  | .resolve o name =>
    match c.world.store.resolveValue o name with
    | .ok v => (.more, { s.next.note (.resolved v) with last := v }, c)
    | .error e => (.raise e.fault, s.next.note (.storeError e), c)
  | .check v =>
    match c.world.quota.checkValue v with
    | .ok () => (.more, s.next, c)
    | .error e => (.raise e.fault, s.next.note (.quotaError e), c)
  | .idle steps =>
    if s.idled + 1 < steps then (.more, { s with idled := s.idled + 1 }, c) else (.more, s.next, c)
  | .restart => (.more, { s with position := 0 }, c)
  | .spin => (.more, s, { c with world := { c.world with clock := c.world.clock.pass nanosPerMilli } })
  | .suspend x => (.suspend x, s.next, c)
  | .complete v => (.complete v, s.next, c)
  | .fail f => (.raise f, s.next, c)
  | .kill id who wizard =>
    match c.world.registry.kill id who wizard with
    | .ok r => (.more, s.next.note (.killed (.ok ())), c.withRegistry r)
    | .error e => (.more, s.next.note (.killed (.error e)), c)

/-- Takes the value that the task was woken with. -/
def wake (s : Script) (c : Context Script) : Script × Context Script :=
  match c.wake with
  | some v => ({ s.note (.woken v) with last := v }, { c with wake := none })
  | none => (s, c)

/-- One step. -/
def step : StepFn Script := fun s c =>
  let (s, c) := s.wake c
  match s.code[s.position]? with
  | none => (.complete s.last, s, c)
  | some i => execute i s c

end Script

end MooWorld
