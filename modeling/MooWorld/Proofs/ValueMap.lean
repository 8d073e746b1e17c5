import MooWorld.Proofs.Assoc
import MooWorld.Proofs.ValueEquality
import MooWorld.Value.Text
import MooWorld.Value.Version
/-!
# Maps and slots are functions

A map that is built from pairs, and in which keys are bound after that, answers by the last pair of each
class of keys that compare equal, and has the key as it was spelled there; so it does not matter in which
order the classes came. The slots of a flyweight likewise, by folded name.

Binding a key gives a new version and leaves the others as they are. Since a key may be bound in any version,
the versions form a tree (`history`), in which each version has pairs of its own (`sources`): those that led
to it from the first one.
-/
namespace MooWorld.Value

open Assoc (FunctionOf Holds last?)

/-- The entries after keys are bound, one after another. -/
def setEntries (entries pairs : List (Value × Value)) : List (Value × Value) :=
  pairs.foldl (fun entries (k, v) => setEntry k v entries) entries

theorem holds_setEntries (pairs sets : List (Value × Value)) :
    Holds cmp (pairs ++ sets) (setEntries (entriesOf pairs) sets) :=
  (Assoc.holds_ofList pairs).foldl sets

namespace MapVersion

/-! ## Versions -/

theorem entries_foldl_set (pairs : List (Nat × Value × Value)) (m : MapVersion) :
    (pairs.foldl (fun m (i, k, v) => m.set k ⟨i, v⟩) m).entries =
      setEntries m.entries (pairs.map (·.2)) := by
  induction pairs generalizing m with
  | nil => rfl
  | cons p pairs ih =>
    rw [List.foldl_cons, ih, entries_set]
    rfl

theorem entries_ofList (pairs : List (Value × Value)) : (ofList pairs).entries = entriesOf pairs := by
  rw [ofList, entries_foldl_set, List.map_snd_zip (by simp)]
  rfl

/-- A call that binds a key in a version, which is known by its place. -/
structure Call where
  version : Nat
  key : Value
  value : Kept

/-- One more version, if the one that is called is there. -/
def extend {α : Type} (f : α → Call → α) (all : List α) (c : Call) : List α :=
  all ++ (all[c.version]?.map (f · c)).toList

/-- All versions of a map after some calls, the first one first. -/
def history (pairs : List (Value × Value)) (calls : List Call) : List MapVersion :=
  calls.foldl (extend fun m c => m.set c.key c.value) [ofList pairs]

/-- The pairs that led to each version. -/
def sources (pairs : List (Value × Value)) (calls : List Call) : List (List (Value × Value)) :=
  calls.foldl (extend fun source c => source ++ [(c.key, c.value.value)]) [pairs]

theorem prefix_foldl_extend {α : Type} (f : α → Call → α) (calls : List Call) (all : List α) :
    all <+: calls.foldl (extend f) all := by
  induction calls generalizing all with
  | nil => exact List.prefix_refl all
  | cons c calls ih => exact (List.prefix_append _ _).trans (ih _)

/-- What relates two lists entry by entry, and is kept by a call, relates what calls make of them. -/
theorem forall₂_foldl_extend {α β : Type} {R : α → β → Prop} {f : α → Call → α} {g : β → Call → β}
    (hcall : ∀ a b c, R a b → R (f a c) (g b c)) (calls : List Call) {as : List α} {bs : List β}
    (h : List.Forall₂ R as bs) : List.Forall₂ R (calls.foldl (extend f) as) (calls.foldl (extend g) bs) := by
  induction calls generalizing as bs with
  | nil => exact h
  | cons c calls ih =>
    refine ih (List.rel_append h ?_)
    cases ha : as[c.version]? with
    | none =>
      have hb : bs[c.version]? = .none := by
        rw [List.getElem?_eq_none_iff] at ha ⊢
        rwa [← h.length_eq]
      rw [hb]; exact .nil
    | some a =>
      obtain ⟨hlt, rfl⟩ := List.getElem?_eq_some_iff.1 ha
      have hlt' : c.version < bs.length := h.length_eq ▸ hlt
      rw [List.getElem?_eq_getElem hlt']
      exact .cons (hcall _ _ c (h.get hlt hlt')) .nil

/-- Every version has what its own pairs left behind. -/
theorem holds_history (pairs : List (Value × Value)) (calls : List Call) :
    List.Forall₂ (fun m source => Holds cmp source m.entries) (history pairs calls) (sources pairs calls) := by
  refine forall₂_foldl_extend (fun m source c h => ?_) calls (.cons ?_ .nil)
  · rw [entries_set]
    exact h.insert c.key c.value.value
  · rw [entries_ofList]
    exact Assoc.holds_ofList pairs

theorem getElem?_history_append {pairs : List (Value × Value)} {calls : List Call} {i : Nat}
    {m : MapVersion} (h : (history pairs calls)[i]? = some m) (more : List Call) :
    (history pairs (calls ++ more))[i]? = some m := by
  have hprefix : history pairs calls <+: history pairs (calls ++ more) := by
    rw [history, history, List.foldl_append]
    exact prefix_foldl_extend _ more _
  obtain ⟨later, hlater⟩ := hprefix
  rw [← hlater, List.getElem?_append_left (List.getElem?_eq_some_iff.1 h).1]
  exact h

theorem functionOf_history {pairs : List (Value × Value)} {calls : List Call} {i : Nat} {m : MapVersion}
    (h : (history pairs calls)[i]? = some m) :
    ∃ source, (sources pairs calls)[i]? = some source ∧ FunctionOf cmp source m.entries := by
  have hall := holds_history pairs calls
  obtain ⟨hlt, rfl⟩ := List.getElem?_eq_some_iff.1 h
  have hlt' : i < (sources pairs calls).length := hall.length_eq ▸ hlt
  exact ⟨_, List.getElem?_eq_getElem hlt', (hall.get hlt hlt').functionOf⟩

end MapVersion

open MapVersion (history sources)

/-- **Maps are functions on the classes of keys that compare equal.** Whatever pairs a map is built from,
and whatever keys are bound after that, it is the function that all these pairs define. A version that was
there stays as it is, whatever versions are made of it and of the others, and is the function that its own
pairs define. If every class ends with the same pair, the maps are the same, and so are their texts, their
sizes and their hash streams. The slots of a flyweight are the function that the given slots define, with
one class for each folded name. -/
theorem map_function_of_classes :
    (∀ pairs sets : List (Value × Value),
      FunctionOf cmp (pairs ++ sets) (setEntries (entriesOf pairs) sets)) ∧
    (∀ (pairs : List (Value × Value)) (calls : List MapVersion.Call) (i : Nat) (m : MapVersion),
      (history pairs calls)[i]? = some m →
      (∀ more, (history pairs (calls ++ more))[i]? = some m) ∧
      ∃ source, (sources pairs calls)[i]? = some source ∧ FunctionOf cmp source m.entries) ∧
    (∀ pairs sets pairs' sets' : List (Value × Value),
      (∀ k, last? cmp k (pairs ++ sets) = last? cmp k (pairs' ++ sets')) →
      let m := setEntries (entriesOf pairs) sets
      let m' := setEntries (entriesOf pairs') sets'
      m = m' ∧ (Value.map m).debug = (Value.map m').debug ∧ (Value.map m).size = (Value.map m').size ∧
        (Value.map m).hashBytes = (Value.map m').hashBytes) ∧
    (∀ s t, Symbol.cmp s t = .eq ↔ s.folded = t.folded) ∧
    (∀ delegate slots contents, ∃ l, flyweightOf delegate slots contents = .flyweight delegate l contents ∧
      FunctionOf Symbol.cmp slots l) ∧
    (∀ delegate slots slots' contents, (∀ k, last? Symbol.cmp k slots = last? Symbol.cmp k slots') →
      flyweightOf delegate slots contents = flyweightOf delegate slots' contents) := by
  refine ⟨fun pairs sets => (holds_setEntries pairs sets).functionOf, ?_, ?_, fun s t => Symbol.cmp_eq_eq,
    fun _ slots _ => ⟨_, rfl, (Assoc.holds_ofList slots).functionOf⟩, ?_⟩
  · intro pairs calls i m h
    exact ⟨MapVersion.getElem?_history_append h, MapVersion.functionOf_history h⟩
  · intro pairs sets pairs' sets' h m m'
    have hm : m = m' := (holds_setEntries pairs sets).unique (holds_setEntries pairs' sets') h
    rw [hm]
    exact ⟨rfl, rfl, rfl, rfl⟩
  · intro delegate slots slots' contents h
    rw [flyweightOf, flyweightOf, (Assoc.holds_ofList slots).unique (Assoc.holds_ofList slots') h]

/-- A number that is none. -/
def nan : Value := .float ⟨0x7FF8000000000000⟩

/-- A key is bound under one spelling, and under another after that. -/
def rebound : List (Value × Value) :=
  setEntries (entriesOf [(.str "Key", .int 1), (nan, .int 2)]) [(.str "kEY", .int 3)]

/-- The second spelling and the second value are kept, as if the key had been bound but once and before the
other one. The version in which the key had its first value still has it. -/
theorem map_function_of_classes_rebound :
    rebound = setEntries (entriesOf [(.str "kEY", .int 3)]) [(nan, .int 2)] ∧
    (Value.map rebound).hashBytes =
      (Value.map (setEntries (entriesOf [(.str "kEY", .int 3)]) [(nan, .int 2)])).hashBytes ∧
    entry? (.str "KEY") rebound = some (.int 3) ∧ (.str "kEY", .int 3) ∈ rebound ∧
    (∃ m : MapVersion, (history [(.str "Key", .int 1)] [⟨0, .str "kEY", ⟨1, .int 3⟩⟩])[0]? = some m ∧
      entry? (.str "KEY") m.entries = some (.int 1)) ∧
    flyweightOf ⟨1⟩ [(⟨"slot"⟩, .int 1), (⟨"Slot"⟩, .int 2)] [] =
      flyweightOf ⟨1⟩ [(⟨"Slot"⟩, .int 2)] [] := by
  obtain ⟨hfunction, hversion, hsame, -, -, hslots⟩ := map_function_of_classes
  have hspelled : ∀ k, cmp k (.str "Key") = cmp k (.str "kEY") := fun k =>
    Std.TransCmp.congr_right (by decide)
  have hclass : ∀ k, cmp k nan = .eq → cmp k (.str "kEY") ≠ .eq := fun k hk => by
    rw [Std.TransCmp.congr_left hk]; decide
  have hlast : ∀ k, last? cmp k ([(.str "Key", .int 1), (nan, .int 2)] ++ [(.str "kEY", .int 3)]) =
      last? cmp k ([(.str "kEY", (.int 3 : Value))] ++ [(nan, .int 2)]) := by
    intro k
    by_cases hn : cmp k nan = .eq
    · simp [last?, hn, hclass k hn, hspelled]
    · by_cases hk : cmp k (.str "kEY") = .eq <;> simp [last?, hn, hk, hspelled]
  obtain ⟨heq, -, -, hhash⟩ := hsame _ _ _ _ hlast
  have hrebound := hfunction [(.str "Key", .int 1), (nan, .int 2)] [(.str "kEY", .int 3)]
  refine ⟨heq, hhash, ?_, ?_, ?_, ?_⟩
  · exact (hrebound.get? (.str "KEY")).trans (by rfl)
  · exact (hrebound.spelled _).2 (by rfl)
  · obtain ⟨-, source, hsource, hold⟩ := hversion [(.str "Key", .int 1)] [⟨0, .str "kEY", ⟨1, .int 3⟩⟩] 0 _ rfl
    cases hsource
    exact ⟨_, rfl, (hold.get? (.str "KEY")).trans (by rfl)⟩
  · refine hslots ⟨1⟩ _ _ [] fun k => ?_
    have hfold : ∀ k, Symbol.cmp k ⟨"slot"⟩ = Symbol.cmp k ⟨"Slot"⟩ := fun k =>
      Std.TransCmp.congr_right (by decide)
    by_cases hk : Symbol.cmp k ⟨"Slot"⟩ = .eq <;> simp [last?, hk, hfold]

end MooWorld.Value
