import Mathlib.Data.ENat.Basic
import MooWorld.Builtin.Data
import MooWorld.Proofs.Limits
import MooWorld.Proofs.ValueMap
import MooWorld.Proofs.ValueSize
/-!
# What the limits let through

A function that builds a string, a list or a map gives it if its cost is within the limit, and fails
otherwise with the size and the limit. Sizes stop at the largest number of 64 bits and costs do not, but a
limit is below `2 ^ 63`, so that it makes no difference by which of the two a value is measured
(`check_eq_ok`). What a new value costs is told from the old one: a list costs more by its new element, and a
map by its new entry, less what was there under the key, which may have been spelled otherwise. A string that
is put together costs its bytes; how each value is written is said on its own (`Value.Written`).

From this it follows when a list that grows by one element after another is refused: at the first element
with which the sum of all costs is above the limit (`quota_lets_through`).
-/
namespace MooWorld

namespace Quota

/-! ## The check in exact numbers -/

/-- The limit in force for a kind, without bound if there is none. -/
def ceiling (q : Quota) (kind : QuotaKind) : ℕ∞ := (q.limit? kind).elim ⊤ fun limit => limit

theorem limit?_lt {q : Quota} {kind : QuotaKind} {limit : Nat} (h : q.limit? kind = some limit) :
    limit < 2 ^ 63 := by
  obtain ⟨n, -, -, hn⟩ := effective_eq_some.1 h
  have := n.toInt_lt
  omega

/-- A limit is so far below the largest size that it does not matter where sizes stop. -/
theorem lt_size_iff {q : Quota} {kind : QuotaKind} {limit : Nat} (h : q.limit? kind = some limit)
    (v : Value) : limit < v.size ↔ limit < v.cost := by
  have hlimit := limit?_lt h
  rw [Value.size_eq, Value.maxSize]
  simp only [UInt64.size]
  omega

theorem check_eq_ok {q : Quota} {kind : QuotaKind} {v : Value} :
    q.check kind v = .ok () ↔ (v.cost : ℕ∞) ≤ q.ceiling kind := by
  unfold check ceiling
  cases h : q.limit? kind with
  | none => simp
  | some limit =>
    have hsize := lt_size_iff h v
    by_cases hlt : limit < v.size
    · simp only [hlt, if_true, Option.elim, reduceCtorEq, Nat.cast_le, false_iff]
      omega
    · simp only [hlt, if_false, Option.elim, Nat.cast_le, true_iff]
      omega

end Quota

variable {σ : Type}

/-- A failure that some cost is above the limit of a kind tells the cost, as far as sizes go, and the limit. -/
def OverLimit (c : Context σ) (kind : QuotaKind) (cost : Nat) (e : Failure) : Prop :=
  ∃ limit f, c.world.quota.limit? kind = some limit ∧ e = .fault f ∧ f.code = .quotaExceeded ∧
    f.message = some (QuotaError.message ⟨kind, min (2 ^ 64 - 1) cost, limit⟩)

/-- A call is decided by whether some cost is within the limit of a kind: then it gives a value, and
otherwise it fails. -/
structure Decided (c : Context σ) (kind : QuotaKind) (cost : Nat) (v : Value)
    (answer : Except Failure (Reply × Context σ)) : Prop where
  given : answer = .ok (.value v, c) ↔ (cost : ℕ∞) ≤ c.world.quota.ceiling kind
  refused : ¬ (cost : ℕ∞) ≤ c.world.quota.ceiling kind →
    ∃ e, answer = .error e ∧ OverLimit c kind cost e

theorem decided_within (kind : QuotaKind) (v : Value) (c : Context σ) :
    Decided c kind v.cost v (Builtin.within kind v c) := by
  unfold Builtin.within
  cases h : c.world.quota.check kind v with
  | ok u => exact ⟨by simp [← Quota.check_eq_ok, h], fun hn => absurd (Quota.check_eq_ok.1 h) hn⟩
  | error e =>
    obtain ⟨limit, hl, -, rfl⟩ := Quota.check_eq_error.1 h
    refine ⟨by simp [← Quota.check_eq_ok, h], fun _ => ⟨_, rfl, limit, _, hl, rfl, rfl, ?_⟩⟩
    rw [Value.size_eq]; rfl

/-! ## What a new value costs -/

namespace Value

theorem cost_concat (items : List Value) (v : Value) :
    cost (.list (items ++ [v])) = cost (.list items) + cost v := by
  simp [isCost_cost.list, Nat.add_assoc]

/-- What the entry costs that a key displaces. -/
def displaced (k : Value) (entries : List (Value × Value)) : Nat :=
  (entries.find? fun e => cmp k e.1 = .eq).elim 0 fun e => cost e.1 + cost e.2

/-- Entries cost what those of a class cost and what the others cost. -/
theorem cost_displaced {entries : List (Value × Value)} (h : Assoc.Ascending cmp entries) (k : Value) :
    cost (.map entries) = displaced k entries +
      cost (.map (entries.filter fun e => cmp k e.1 ≠ .eq)) := by
  have hperm := List.filter_append_perm (fun e : Value × Value => cmp k e.1 = .eq) entries
  have hsum := ((hperm.map fun e => cost e.1 + cost e.2).sum_nat).symm
  rw [List.map_append, List.sum_append_nat, h.filter_eq k] at hsum
  rw [isCost_cost.map, isCost_cost.map, hsum, displaced]
  cases entries.find? fun e => cmp k e.1 = .eq with
  | none => simp
  | some e => simp; omega

theorem cost_setEntry {entries : List (Value × Value)} (h : Assoc.Ascending cmp entries) (k v : Value) :
    cost (.map (setEntry k v entries)) = cost (.map entries) + cost k + cost v - displaced k entries := by
  have hold := cost_displaced h k
  have hnew : cost (.map (setEntry k v entries)) =
      cost k + cost v + cost (.map (entries.filter fun e => cmp k e.1 ≠ .eq)) := by
    have hsum := ((Assoc.insert_perm h k v).map fun e => cost e.1 + cost e.2).sum_nat
    rw [isCost_cost.map, isCost_cost.map, setEntry, hsum, List.map_cons, List.sum_cons]
    dsimp only
    omega
  omega

end Value

/-! ## Texts -/

namespace Value

/-- How a value is written: a string as it is, a whole number and the number of an object in decimal digits,
an error by the name of its code, and what holds other values by a word, whatever it holds. -/
inductive Written : Value → String → Prop where
  | none : Written .none "None"
  | bool (b : Bool) : Written (.bool b) (toString b)
  | int (i : Int64) : Written (.int i) (toString i.toInt)
  | float (x : Double) : Written (.float x) (Builtin.floatLayout.render x)
  | str (s : String) : Written (.str s) s
  | obj (o : Obj) : Written (.obj o) ("#" ++ toString o.id.toInt)
  | list (items : List Value) : Written (.list items) "\x7blist\x7d"
  | map (entries : List (Value × Value)) : Written (.map entries) "[map]"
  | err (code : ErrorCode) (message : Option String) (detail : Option Value) :
    Written (.err code message detail) code.name
  | flyweight (delegate : Obj) (slots : List (Symbol × Value)) (contents : List Value) :
    Written (.flyweight delegate slots contents) "<flyweight>"

theorem toString_eq_literal (b : Bool) : toString b = Builtin.literal (.bool b) := by
  cases b <;> rfl

theorem written_iff {v : Value} {text : String} : Written v text ↔ text = Builtin.literal v := by
  constructor
  · intro h
    cases h with
    | bool b => exact toString_eq_literal b
    | _ => rfl
  · rintro rfl
    cases v with
    | bool b => exact toString_eq_literal b ▸ .bool b
    | _ => constructor

theorem eq_map_literal {args : List Value} {texts : List String} (h : List.Forall₂ Written args texts) :
    texts = args.map Builtin.literal := by
  induction h with
  | nil => rfl
  | cons hv _ ih => rw [written_iff.1 hv, ih, List.map_cons]

theorem exists_written (args : List Value) : ∃ texts, List.Forall₂ Written args texts := by
  induction args with
  | nil => exact ⟨[], .nil⟩
  | cons v args ih =>
    obtain ⟨texts, h⟩ := ih
    exact ⟨_, .cons (written_iff.2 rfl) h⟩

end Value

/-! ## One call -/

theorem decided_listAppend (c : Context σ) (items : List Value) (v : Value) :
    Decided c .list (Value.cost (.list items) + v.cost) (.list (items ++ [v]))
      (Builtin.listAppend [.list items, v] c) := by
  rw [← Value.cost_concat]
  exact decided_within .list _ c

theorem decided_mapInsert (c : Context σ) {entries : List (Value × Value)}
    (h : Assoc.Ascending Value.cmp entries) (k v : Value) :
    Decided c .map (Value.cost (.map entries) + k.cost + v.cost - Value.displaced k entries)
      (.map (Value.setEntry k v entries)) (Builtin.mapInsert [.map entries, k, v] c) := by
  rw [← Value.cost_setEntry h]
  exact decided_within .map _ c

theorem decided_tostr (c : Context σ) {args : List Value} {texts : List String}
    (h : List.Forall₂ Value.Written args texts) :
    Decided c .string (16 + (String.join texts).utf8ByteSize) (.str (String.join texts))
      (Builtin.tostr args c) := by
  rw [Value.eq_map_literal h, ← Value.isCost_cost.str]
  exact decided_within .string _ c

/-- A reply that was checked is a value within the limit, and nothing else has changed. -/
def Builtin.Bounded (f : Builtin σ) (kind : QuotaKind) : Prop :=
  ∀ args c reply c', f args c = .ok (reply, c') →
    ∃ v, reply = .value v ∧ c' = c ∧ (v.cost : ℕ∞) ≤ c.world.quota.ceiling kind

theorem bounded_within {kind : QuotaKind} {v : Value} {c c' : Context σ} {reply : Reply}
    (h : Builtin.within kind v c = .ok (reply, c')) :
    ∃ v, reply = .value v ∧ c' = c ∧ (v.cost : ℕ∞) ≤ c.world.quota.ceiling kind := by
  by_cases hfit : (v.cost : ℕ∞) ≤ c.world.quota.ceiling kind
  · rw [(decided_within kind v c).given.2 hfit] at h
    cases h
    exact ⟨v, rfl, rfl, hfit⟩
  · obtain ⟨e, he, -⟩ := (decided_within kind v c).refused hfit
    rw [he] at h; cases h

theorem bounded_listAppend : Builtin.Bounded (σ := σ) Builtin.listAppend .list := by
  intro args c reply c' h
  unfold Builtin.listAppend at h
  split at h
  · exact bounded_within h
  · cases h
  · cases h

theorem bounded_mapInsert : Builtin.Bounded (σ := σ) Builtin.mapInsert .map := by
  intro args c reply c' h
  unfold Builtin.mapInsert at h
  split at h
  · exact bounded_within h
  · cases h
  · cases h

/-! ## A list that grows -/

/-- What a reply holds. -/
def Reply.held : Reply → Value
  | .value v => v
  | _ => .none

/-- Appends values to a list one by one, each to what the call before it gave. -/
def appendAll (c : Context σ) (l : Value) : List Value → Except Failure (Value × Context σ)
  | [] => .ok (l, c)
  | v :: vs =>
    match Builtin.listAppend [l, v] c with
    | .ok (reply, c') => appendAll c' reply.held vs
    | .error e => .error e

/-- Whether the elements of a list up to a place, that one included, are within the limit. -/
def FitsTo (c : Context σ) (vs : List Value) (i : Nat) : Prop :=
  ((32 + ((vs.take (i + 1)).map Value.cost).sum : Nat) : ℕ∞) ≤ c.world.quota.ceiling .list

/-- All values before a place can be appended, and the one at this place cannot. -/
def FailsAt (c : Context σ) (vs : List Value) (i : Nat) (e : Failure) : Prop :=
  appendAll c (.list []) (vs.take i) = .ok (.list (vs.take i), c) ∧
    ∃ v, vs[i]? = some v ∧ Builtin.listAppend [.list (vs.take i), v] c = .error e

theorem appendAll_cons_ok {c c' : Context σ} {l v : Value} {reply : Reply}
    (h : Builtin.listAppend [l, v] c = .ok (reply, c')) (vs : List Value) :
    appendAll c l (v :: vs) = appendAll c' reply.held vs := by
  rw [appendAll, h]

theorem appendAll_cons_error {c : Context σ} {l v : Value} {e : Failure}
    (h : Builtin.listAppend [l, v] c = .error e) (vs : List Value) :
    appendAll c l (v :: vs) = .error e := by
  rw [appendAll, h]

theorem appendAll_append {c c' : Context σ} {l l' : Value} {vs : List Value}
    (h : appendAll c l vs = .ok (l', c')) (ws : List Value) :
    appendAll c l (vs ++ ws) = appendAll c' l' ws := by
  induction vs generalizing c l with
  | nil => cases h; rfl
  | cons v vs ih =>
    cases hv : Builtin.listAppend [l, v] c with
    | error e => rw [appendAll_cons_error hv] at h; cases h
    | ok r =>
      rw [appendAll_cons_ok hv] at h
      rw [List.cons_append, appendAll_cons_ok hv]
      exact ih h

/-- The call for the value at a place is decided by whether the elements up to there fit. -/
theorem decided_append (c : Context σ) {vs : List Value} {i : Nat} (hi : i < vs.length) :
    Decided c .list (32 + ((vs.take (i + 1)).map Value.cost).sum) (.list (vs.take (i + 1)))
      (Builtin.listAppend [.list (vs.take i), vs[i]] c) := by
  rw [← Value.isCost_cost.list, ← List.take_append_getElem hi, Value.cost_concat]
  exact decided_listAppend c (vs.take i) vs[i]

/-- As long as everything fits, everything is appended. -/
theorem appendAll_take {c : Context σ} {vs : List Value} {i : Nat} (hi : i ≤ vs.length)
    (h : ∀ j < i, FitsTo c vs j) :
    appendAll c (.list []) (vs.take i) = .ok (.list (vs.take i), c) := by
  induction i with
  | zero => rfl
  | succ i ih =>
    have hprev := ih (Nat.le_of_succ_le hi) fun j hj => h j (Nat.lt_succ_of_lt hj)
    have hlast := (decided_append c (Nat.lt_of_succ_le hi)).given.2 (h i (Nat.lt_succ_self i))
    have hsplit := List.take_append_getElem (Nat.lt_of_succ_le hi)
    calc appendAll c (.list []) (vs.take (i + 1))
        = appendAll c (.list (vs.take i)) [vs[i]] := by rw [← hsplit, appendAll_append hprev]
      _ = .ok (.list (vs.take (i + 1)), c) := appendAll_cons_ok hlast []

/-- The first value that does not fit is refused, and the whole with it. -/
theorem failsAt_of_first {c : Context σ} {vs : List Value} {i : Nat} (hi : i < vs.length)
    (hfit : ¬ FitsTo c vs i) (h : ∀ j < i, FitsTo c vs j) :
    ∃ e, FailsAt c vs i e ∧ appendAll c (.list []) vs = .error e ∧
      OverLimit c .list (32 + ((vs.take (i + 1)).map Value.cost).sum) e := by
  have hprev := appendAll_take (Nat.le_of_lt hi) h
  obtain ⟨e, he, hover⟩ := (decided_append c hi).refused hfit
  refine ⟨e, ⟨hprev, vs[i], List.getElem?_eq_getElem hi, he⟩, ?_, hover⟩
  have hsplit : vs.take i ++ vs[i] :: vs.drop (i + 1) = vs := by
    rw [← List.drop_eq_getElem_cons hi, List.take_append_drop]
  calc appendAll c (.list []) vs
      = appendAll c (.list []) (vs.take i ++ vs[i] :: vs.drop (i + 1)) := by rw [hsplit]
    _ = appendAll c (.list (vs.take i)) (vs[i] :: vs.drop (i + 1)) := appendAll_append hprev _
    _ = .error e := appendAll_cons_error he _

/-- All values can be appended if and only if they fit, one after another. -/
theorem appendAll_eq_ok {c : Context σ} {vs : List Value} :
    appendAll c (.list []) vs = .ok (.list vs, c) ↔ ∀ i < vs.length, FitsTo c vs i := by
  constructor
  · intro hok
    by_contra hno
    push Not at hno
    classical
    -- the first place that does not fit is where the calls fail
    let i := Nat.find hno
    obtain ⟨hi, hfit⟩ := Nat.find_spec hno
    have hbefore : ∀ j < i, FitsTo c vs j := fun j hj => by
      by_contra hj'
      exact Nat.find_min hno hj ⟨Nat.lt_trans hj hi, hj'⟩
    obtain ⟨e, -, herror, -⟩ := failsAt_of_first hi hfit hbefore
    rw [hok] at herror; cases herror
  · intro h
    have hall := appendAll_take (Nat.le_refl vs.length) h
    rwa [List.take_length] at hall

theorem fitsTo_take {c : Context σ} {vs : List Value} {i j : Nat} (hj : j < i) :
    FitsTo c (vs.take i) j ↔ FitsTo c vs j := by
  rw [FitsTo, FitsTo, List.take_take, Nat.min_eq_left hj]

/-- Calls fail at the first place that does not fit, and nowhere else. -/
theorem failsAt_iff {c : Context σ} {vs : List Value} {i : Nat} (hi : i < vs.length) :
    (∃ e, FailsAt c vs i e) ↔ ¬ FitsTo c vs i ∧ ∀ j < i, FitsTo c vs j := by
  constructor
  · rintro ⟨e, hprev, v, hv, he⟩
    obtain ⟨hlt, rfl⟩ := List.getElem?_eq_some_iff.1 hv
    refine ⟨fun hfit => ?_, fun j hj => ?_⟩
    · rw [(decided_append c hi).given.2 hfit] at he; cases he
    · have hlen : j < (vs.take i).length := by rw [List.length_take]; omega
      exact (fitsTo_take hj).1 (appendAll_eq_ok.1 hprev j hlen)
  · rintro ⟨hfit, h⟩
    obtain ⟨e, he, -⟩ := failsAt_of_first hi hfit h
    exact ⟨e, he⟩

/-- Where calls fail, they tell what the list would have cost, and the whole fails with them. -/
theorem FailsAt.refused {c : Context σ} {vs : List Value} {i : Nat} {e : Failure} (hi : i < vs.length)
    (he : FailsAt c vs i e) : appendAll c (.list []) vs = .error e ∧
      OverLimit c .list (32 + ((vs.take (i + 1)).map Value.cost).sum) e := by
  obtain ⟨hfit, h⟩ := (failsAt_iff hi).1 ⟨e, he⟩
  obtain ⟨e', ⟨-, v', hv', hcall'⟩, herror, hover⟩ := failsAt_of_first hi hfit h
  obtain ⟨-, v, hv, hcall⟩ := he
  cases hv.symm.trans hv'
  cases hcall.symm.trans hcall'
  exact ⟨herror, hover⟩

/-- **The limits let through exactly what fits.** Whatever the limits are, a list with one more element, a map
with one more entry and a string put together from the texts of the arguments are given if and only if the
cost of the result, told from the costs of what it is made of, is within the limit; otherwise the call fails with a quota error that tells the
size and the limit. Where sizes stop never decides. So nothing that these functions give costs more than its
limit. A list that grows from nothing, one call after another, fails at the first element with which the
costs add up to more than the limit, and nowhere else. -/
theorem quota_lets_through (c : Context σ) :
    (∀ kind v, c.world.quota.check kind v = .ok () ↔ (v.cost : ℕ∞) ≤ c.world.quota.ceiling kind) ∧
    (∀ items v, Decided c .list (Value.cost (.list items) + v.cost) (.list (items ++ [v]))
      (Builtin.listAppend [.list items, v] c)) ∧
    (∀ pairs k v, let m := Value.entriesOf pairs
      Value.displaced k m ≤ Value.cost (.map m) ∧
      Decided c .map (Value.cost (.map m) + k.cost + v.cost - Value.displaced k m)
        (.map (Value.setEntry k v m)) (Builtin.mapInsert [.map m, k, v] c)) ∧
    (∀ args, (∃ texts, List.Forall₂ Value.Written args texts) ∧
      ∀ texts, List.Forall₂ Value.Written args texts →
        Decided c .string (16 + (String.join texts).utf8ByteSize) (.str (String.join texts))
          (Builtin.tostr args c)) ∧
    (Builtin.Bounded (σ := σ) Builtin.listAppend .list ∧ Builtin.Bounded (σ := σ) Builtin.mapInsert .map ∧
      Builtin.Bounded (σ := σ) Builtin.tostr .string) ∧
    ∀ vs : List Value,
      (appendAll c (.list []) vs = .ok (.list vs, c) ↔ ∀ i < vs.length, FitsTo c vs i) ∧
      ∀ i < vs.length, ((∃ e, FailsAt c vs i e) ↔ ¬ FitsTo c vs i ∧ ∀ j < i, FitsTo c vs j) ∧
        ∀ e, FailsAt c vs i e → appendAll c (.list []) vs = .error e ∧
          OverLimit c .list (32 + ((vs.take (i + 1)).map Value.cost).sum) e := by
  refine ⟨fun _ _ => Quota.check_eq_ok, decided_listAppend c, ?_,
    fun args => ⟨Value.exists_written args, fun _ => decided_tostr c⟩,
    ⟨bounded_listAppend, bounded_mapInsert, fun _ _ _ _ => bounded_within⟩,
    fun vs => ⟨appendAll_eq_ok, fun i hi => ⟨failsAt_iff hi, fun _ he => he.refused hi⟩⟩⟩
  intro pairs k v m
  have hm : Assoc.Ascending Value.cmp m := (Assoc.holds_ofList pairs).ascending
  have hcost := Value.cost_displaced hm k
  exact ⟨by omega, decided_mapInsert c hm k v⟩

/-- A context in which strings may cost 24, lists 80 and maps 65. -/
def tight : Context Unit where
  calls := { taskId := 1, maxDepth := 5 }
  world := { registry := .empty 0 5, quota := { slots := ⟨.loaded 24, .loaded 80, .loaded 65⟩ } }

/-- An entry under `k` that costs all that there is gives way to one under `K`. The Kelvin sign is a `k` too,
but it takes three bytes, also in a string that is put together. -/
theorem quota_lets_through_kelvin :
    Builtin.mapInsert [.map (Value.entriesOf [(.str "k", .int 1)]), .str "K", .int 2] tight =
      .ok (.value (.map [(.str "K", .int 2)]), tight) ∧
    (∃ f, Builtin.mapInsert [.map (Value.entriesOf [(.str "k", .int 1)]), .str "\u212A", .int 2] tight =
      .error (.fault f) ∧ f.message = some "Map of 67 bytes exceeds limit of 65") ∧
    Builtin.tostr [.str "0 \u212A", .obj ⟨-5⟩] tight = .ok (.value (.str "0 \u212A#-5"), tight) ∧
    (∃ f, Builtin.tostr [.str "0 \u212A", .int 7, .obj ⟨-5⟩] tight = .error (.fault f) ∧
      f.message = some "String of 25 bytes exceeds limit of 24") ∧
    appendAll tight (.list []) [.int 1, .str "", .none] = .ok (.list [.int 1, .str "", .none], tight) ∧
    ∃ e, FailsAt tight [.int 1, .str "", .none, .list []] 3 e := by
  obtain ⟨-, -, hmap, hstr, -, hlist⟩ := quota_lets_through tight
  have hstrs : tight.world.quota.ceiling .string = (24 : Nat) := rfl
  have hmaps : tight.world.quota.ceiling .map = (65 : Nat) := rfl
  have hlists : tight.world.quota.ceiling .list = (80 : Nat) := rfl
  refine ⟨(hmap _ _ _).2.given.2 ?_, ?_, ((hstr _).2 ["0 \u212A", "#-5"] ?_).given.2 ?_, ?_,
    (hlist _).1.2 ?_, ((hlist _).2 3 (by decide)).1.2 ⟨?_, ?_⟩⟩
  · rw [hmaps, Nat.cast_le]
    decide
  · obtain ⟨e, he, limit, f, hl, rfl, -, hmessage⟩ :=
      (hmap [(.str "k", .int 1)] (.str "\u212A") (.int 2)).2.refused (by rw [hmaps, Nat.cast_le]; decide)
    cases hl
    exact ⟨f, he, hmessage⟩
  · exact .cons (.str _) (.cons (.obj _) .nil)
  · rw [hstrs, Nat.cast_le]
    decide
  · obtain ⟨e, he, limit, f, hl, rfl, -, hmessage⟩ := ((hstr [.str "0 \u212A", .int 7, .obj ⟨-5⟩]).2
      ["0 \u212A", "7", "#-5"] (.cons (.str _) (.cons (.int _) (.cons (.obj _) .nil)))).refused
      (by rw [hstrs, Nat.cast_le]; decide)
    cases hl
    exact ⟨f, he, hmessage⟩
  all_goals
    simp only [FitsTo, hlists, Nat.cast_le]
    decide

end MooWorld
