import MooWorld.Timer
/-!
# The wheel of timers

What the operations of the wheel do to the timers that it holds. When the wheel is moved on, a timer has
fired or is still held, and not both. A new wheel has one timer for each suspension it was given, and refuses
none since the delays are of a tick at least (`rebuild_eq`). A timer is known by its `key`, the suspension that
it belongs to.
-/
namespace MooWorld

/-- The suspension that a timer belongs to: a task and a generation. -/
def Timer.key (x : Timer) : TaskId × Nat := (x.task, x.generation)

theorem Timer.key_eq {x : Timer} {id : TaskId} {generation : Nat} :
    x.key = (id, generation) ↔ x.task = id ∧ x.generation = generation := by
  simp [key]

namespace Timers

/-- A timer that is set before the first tick fires at the tick it is set for, however far ahead. -/
theorem wait?_first {ticks : Nat} (pos : 0 < ticks) : wait? 0 ticks = some ticks := by
  by_cases h : maxTicks ≤ ticks
  · simp [wait?, h]
  · exact wait?_eq_some pos (by simp only [maxTicks, UInt32.size] at h ⊢; omega)

theorem insert?_eq_some {w w' : Timers} {now : Nat} {task : TaskId} {generation delay : Nat}
    (h : w.insert? now task generation delay = some w') :
    ∃ due, w' = { w with pending := w.pending ++ [⟨task, generation, due⟩], entries := w.entries + 1 } := by
  unfold insert? at h
  obtain ⟨wait, -, rfl⟩ := Option.map_eq_some_iff.1 h
  exact ⟨_, rfl⟩

/-- A timer that the wheel held has fired or is still held, and not both. -/
theorem advance_perm (w : Timers) (now : Nat) :
    ((w.advance now).1 ++ (w.advance now).2.pending).Perm w.pending := by
  unfold advance
  split
  · exact .refl _
  · dsimp only
    generalize w.tick + min maxTicks ((now - w.moved) / nanosPerMilli) = tick
    have hlate : w.pending.filter (fun x => decide (tick < x.due)) =
        w.pending.filter (fun x => !decide (x.due ≤ tick)) :=
      List.filter_congr fun x _ => by
        rw [← decide_not]; exact decide_eq_decide.2 Nat.not_le.symm
    rw [hlate]
    exact ((List.mergeSort_perm _ _).append_right _).trans (List.filter_append_perm _ _)

theorem advance_entries (w : Timers) (now : Nat) :
    (w.advance now).2.entries = w.entries - (w.advance now).1.length := by
  unfold advance
  split <;> rfl

theorem advance_stale (w : Timers) (now : Nat) : (w.advance now).2.stale = w.stale := by
  unfold advance
  split <;> rfl

theorem foldl_insert? (now : Nat) : ∀ (live : List (TaskId × Nat × Nat)) (w : Timers),
    w.tick = 0 → w.moved = now → (∀ e ∈ live, nanosPerMilli ≤ e.2.2) →
    live.foldl (fun w (task, generation, delay) => (w.insert? now task generation delay).getD w) w =
      { w with
        pending := w.pending ++ live.map fun e => ⟨e.1, e.2.1, e.2.2 / nanosPerMilli⟩
        entries := w.entries + live.length }
  | [], w, _, _, _ => by simp
  | (task, generation, delay) :: live, w, htick, hmoved, h => by
    have hpos : 0 < delay / nanosPerMilli := Nat.div_pos (h _ List.mem_cons_self) (by decide)
    let w' : Timers := { w with
      pending := w.pending ++ [⟨task, generation, delay / nanosPerMilli⟩]
      entries := w.entries + 1 }
    have hins : w.insert? now task generation delay = some w' := by
      simp [insert?, htick, hmoved, wait?_first hpos, w']
    rw [List.foldl_cons]
    simp only [hins, Option.getD_some]
    refine (foldl_insert? now live w' htick hmoved fun e m => h e (List.mem_cons_of_mem _ m)).trans ?_
    simp [w', Nat.add_assoc, Nat.add_comm 1]

/-- A new wheel starts now, with a timer for each suspension that fires after the whole milliseconds of the
delay. -/
theorem rebuild_eq (now : Nat) {live : List (TaskId × Nat × Nat)}
    (h : ∀ e ∈ live, nanosPerMilli ≤ e.2.2) :
    rebuild now live =
      { moved := now, pending := live.map fun e => ⟨e.1, e.2.1, e.2.2 / nanosPerMilli⟩
        entries := live.length } := by
  rw [rebuild, foldl_insert? now live _ rfl rfl h]
  simp

/-- A new wheel has one timer for each suspension, and none of them is stale. -/
theorem rebuild_spec (now : Nat) {live : List (TaskId × Nat × Nat)}
    (h : ∀ e ∈ live, nanosPerMilli ≤ e.2.2) :
    (rebuild now live).pending.map Timer.key = live.map (fun e => (e.1, e.2.1)) ∧
      (rebuild now live).entries = (rebuild now live).pending.length ∧ (rebuild now live).stale = 0 := by
  rw [rebuild_eq now h]
  exact ⟨by simp [Timer.key], by simp, rfl⟩

end Timers

end MooWorld
