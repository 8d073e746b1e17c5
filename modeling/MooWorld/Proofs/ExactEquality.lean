import MooWorld.Proofs.ValueEquality
/-!
# Equality that minds case

`alike` is the equality of values with one thing left open, how a string is read before it is compared. Read
by case foldings it is `eq` (`alike_fold`); read letter by letter it is `eqExact`, equality that tells strings
apart at every depth: in lists, as keys and values of maps, in errors and in flyweights. Names of slots and
codes of errors are no strings, and fold in both.

What is between the two is in the strings alone. Values are equal exactly if they are equal and hold the same
strings, one by one (`eqExact_iff`). `eqCase` looks at fewer strings, those reached through lists and nothing
else (`eqCase_iff`). So it errs where a map, an error or a flyweight holds a string that is written otherwise,
and nowhere else.
-/
namespace MooWorld.Value

open List (Forall₂)

/-! ## Equality, however strings are read -/

mutual

/-- Whether two values are equal when strings are read by `read`. Keys of maps, and what is in them, are
matched as the order does it, which minds the sign of a zero and the message of an error and takes a NaN for
equal to itself. -/
def alike (read : String → List Char) (asKey : Bool) : Value → Value → Bool
  | .none, .none => true
  | .bool a, .bool b => a == b
  | .obj a, .obj b => a == b
  | .int a, .int b => a == b
  | .float a, .float b => if asKey then a.totalCmp b == .eq else a.numEq b
  | .list as, .list bs => alikeList read asKey as bs
  | .str a, .str b => read a == read b
  | .map as, .map bs => alikeEntries read asKey as bs
  | .err c m d, .err c' m' d' => c.same c' && (!asKey || m == m') && alikeOption read asKey d d'
  | .flyweight d s c, .flyweight d' s' c' =>
    d == d' && alikeSlots read asKey s s' && alikeList read asKey c c'
  | _, _ => false
termination_by structural a => a

/-- Lists are alike if they have the same length and their elements are. -/
def alikeList (read : String → List Char) (asKey : Bool) : List Value → List Value → Bool
  | [], [] => true
  | a :: as, b :: bs => alike read asKey a b && alikeList read asKey as bs
  | _, _ => false
termination_by structural a => a

/-- Keys are matched as keys, whatever the entries stand in. -/
def alikeEntries (read : String → List Char) (asKey : Bool) :
    List (Value × Value) → List (Value × Value) → Bool
  | [], [] => true
  | (k, v) :: as, (k', v') :: bs =>
    alike read true k k' && alike read asKey v v' && alikeEntries read asKey as bs
  | _, _ => false
termination_by structural a => a

/-- Slots are matched by name. -/
def alikeSlots (read : String → List Char) (asKey : Bool) :
    List (Symbol × Value) → List (Symbol × Value) → Bool
  | [], [] => true
  | (k, v) :: as, (k', v') :: bs => k.same k' && alike read asKey v v' && alikeSlots read asKey as bs
  | _, _ => false
termination_by structural a => a

/-- Both absent, or both present and alike. -/
def alikeOption (read : String → List Char) (asKey : Bool) : Option Value → Option Value → Bool
  | .none, .none => true
  | .some a, .some b => alike read asKey a b
  | _, _ => false
termination_by structural a => a

end

/-- Whether two values are equal when strings are told apart letter by letter, wherever they stand. -/
def eqExact (a b : Value) : Bool := alike String.toList false a b

/-- The string that a value is. -/
def own : Value → List String
  | .str s => [s]
  | _ => []

/-- Whether shells count as the same: as the order takes them, or as equality does. -/
def Shell.Matched (asKey : Bool) (s t : Shell) : Prop :=
  if asKey then s = t else s.plain = t.plain ∧ s.isNaN = false

section Alike

variable {read : String → List Char} {asKey : Bool}

/-- Two values are alike. -/
def Alike (read : String → List Char) (asKey : Bool) (a b : Value) : Prop := alike read asKey a b = true

theorem alikeList_iff : ∀ {as bs : List Value},
    alikeList read asKey as bs = true ↔ Forall₂ (Alike read asKey) as bs
  | [], [] => by simp [alikeList]
  | [], _ :: _ => by simp [alikeList]
  | _ :: _, [] => by simp [alikeList]
  | a :: as, b :: bs => by rw [alikeList, Bool.and_eq_true, alikeList_iff, List.forall₂_cons, Alike]

theorem alikeEntries_iff : ∀ {as bs : List (Value × Value)}, alikeEntries read asKey as bs = true ↔
    Forall₂ (Alike read true) (as.map (·.1)) (bs.map (·.1)) ∧
      Forall₂ (Alike read asKey) (as.map (·.2)) (bs.map (·.2))
  | [], [] => by simp [alikeEntries]
  | [], _ :: _ => by simp [alikeEntries]
  | _ :: _, [] => by simp [alikeEntries]
  | (k, v) :: as, (k', v') :: bs => by
    simp only [alikeEntries, Bool.and_eq_true, alikeEntries_iff, List.map_cons, List.forall₂_cons, Alike]
    tauto

theorem alikeSlots_iff : ∀ {as bs : List (Symbol × Value)}, alikeSlots read asKey as bs = true ↔
    as.map (·.1.folded) = bs.map (·.1.folded) ∧ Forall₂ (Alike read asKey) (as.map (·.2)) (bs.map (·.2))
  | [], [] => by simp [alikeSlots]
  | [], _ :: _ => by simp [alikeSlots]
  | _ :: _, [] => by simp [alikeSlots]
  | (k, v) :: as, (k', v') :: bs => by
    simp only [alikeSlots, Symbol.same, Bool.and_eq_true, beq_iff_eq, alikeSlots_iff, List.map_cons,
      List.cons.injEq, List.forall₂_cons, Alike]
    tauto

theorem alikeOption_iff {d d' : Option Value} :
    alikeOption read asKey d d' = true ↔ Forall₂ (Alike read asKey) d.toList d'.toList := by
  cases d <;> cases d' <;> simp [alikeOption, Alike]

/-- Values are alike if their shells match and they are read as the same string, if the keys in them are alike
as keys, and if the other values in them are alike. -/
theorem alike_iff (hread : ∀ s t, read s = read t → Text.fold s = Text.fold t) {a b : Value} :
    alike read asKey a b = true ↔
      (Shell.Matched asKey a.shell b.shell ∧ a.own.map read = b.own.map read) ∧
        Forall₂ (Alike read true) a.keys b.keys ∧ Forall₂ (Alike read asKey) a.held b.held := by
  cases a <;> cases b
  case float.float x y =>
    cases asKey <;>
      simp [alike, Shell.Matched, shell, own, keys, held, Shell.plain, Shell.isNaN, Double.numEq_iff,
        Double.totalCmp_eq_iff]
  case str.str s t =>
    cases asKey <;>
      simpa [alike, Shell.Matched, shell, own, keys, held, Shell.plain, Shell.silent, Shell.isNaN]
        using hread s t
  case list.list as bs =>
    cases asKey <;> simp [alike, Shell.Matched, shell, own, keys, held, Shell.isNaN, alikeList_iff]
  case map.map as bs =>
    cases asKey <;> simp [alike, Shell.Matched, shell, own, keys, held, Shell.isNaN, alikeEntries_iff]
  case err.err c m d c' m' d' =>
    cases asKey <;>
      simp [alike, Shell.Matched, shell, own, keys, held, Shell.plain, Shell.silent, Shell.isNaN,
        ErrorCode.same, alikeOption_iff, and_assoc]
  case flyweight.flyweight o s c o' s' c' =>
    have hshell : Shell.Matched asKey (shell (.flyweight o s c)) (shell (.flyweight o' s' c')) ↔
        o = o' ∧ s.map (·.1.folded) = s'.map (·.1.folded) := by
      cases asKey <;> simp [Shell.Matched, shell, Shell.plain, Shell.silent, Shell.isNaN]
    simp only [hshell, alike, Bool.and_eq_true, beq_iff_eq, alikeSlots_iff, alikeList_iff, own, keys, held,
      List.forall₂_nil_left_iff, true_and, and_true, and_assoc]
    refine and_congr_right fun _ => and_congr_right fun hn => ?_
    have hl : s.length = s'.length := by simpa using congrArg List.length hn
    rw [forall₂_append_iff (by simpa using hl)]
  all_goals
    cases asKey <;>
      simp [alike, Shell.Matched, shell, own, keys, held, Shell.plain, Shell.silent, Shell.isNaN]

end Alike

/-! ## Foldings -/

theorem forall₂_congr_mem {R S : Value → Value → Prop} {as bs : List Value}
    (h : ∀ a ∈ as, ∀ b, R a b ↔ S a b) : Forall₂ R as bs ↔ Forall₂ S as bs :=
  ⟨fun hr => forall₂_imp_mem hr fun a m b _ => (h a m b).1,
    fun hs => forall₂_imp_mem hs fun a m b _ => (h a m b).2⟩

/-- The string that a shell is left of, folded. -/
def Shell.text : Shell → List (List Char)
  | .str folded => [folded]
  | _ => []

theorem own_fold (a : Value) : a.own.map Text.fold = a.shell.text := by
  cases a <;> rfl

theorem Shell.text_plain (s : Shell) : s.plain.text = s.text := by
  cases s <;> rfl

/-- Shells that match are left of strings that fold to the same. -/
theorem matched_own {asKey : Bool} {a b : Value} (h : Shell.Matched asKey a.shell b.shell) :
    a.own.map Text.fold = b.own.map Text.fold := by
  rw [own_fold, own_fold]
  unfold Shell.Matched at h
  split at h
  · rw [h]
  · rw [← Shell.text_plain, h.1, Shell.text_plain]

theorem alike_fold_iff {asKey : Bool} {a b : Value} : alike Text.fold asKey a b = true ↔
    Shell.Matched asKey a.shell b.shell ∧ Forall₂ (Alike Text.fold true) a.keys b.keys ∧
      Forall₂ (Alike Text.fold asKey) a.held b.held := by
  rw [alike_iff fun _ _ h => h, and_iff_left_of_imp matched_own]

/-- The keys of maps are matched by the order. -/
theorem alike_fold_key (a : Value) : ∀ b, alike Text.fold true a b = true ↔ cmp a b = .eq := by
  refine parts_induct (P := fun a => ∀ b, alike Text.fold true a b = true ↔ cmp a b = .eq) (fun a ih b => ?_) a
  rw [alike_fold_iff, cmp_eq_iff, Shell.Matched, if_pos rfl]
  refine and_congr_right fun _ => and_congr ?_ ?_
  · exact forall₂_congr_mem fun v m w => ih v (mem_parts_of_mem_keys m) w
  · exact forall₂_congr_mem fun v m w => ih v (mem_parts_of_mem_held m) w

/-- With strings read by their foldings, values are alike if they are equal. -/
theorem alike_fold (a : Value) : ∀ b, alike Text.fold false a b = eq a b := by
  refine parts_induct (P := fun a => ∀ b, alike Text.fold false a b = eq a b) (fun a ih b => ?_) a
  rw [Bool.eq_iff_iff, alike_fold_iff, eq_iff, Shell.Matched, if_neg Bool.false_ne_true]
  refine and_congr_right fun _ => and_congr ?_ ?_
  · exact forall₂_congr_mem fun v _ w => alike_fold_key v w
  · exact forall₂_congr_mem fun v m w => Bool.eq_iff_iff.1 (ih v (mem_parts_of_mem_held m) w)

/-! ## The strings in a value -/

/-- The strings in a value: the one it is, those in its keys and those in the values it holds, in order. -/
def texts (v : Value) : List String :=
  v.own ++ v.keys.attach.flatMap (fun k => texts k.1) ++ v.held.attach.flatMap (fun w => texts w.1)
termination_by nodes v
decreasing_by
  · have hk := nodes_le_nodesList (mem_parts_of_mem_keys k.2)
    have hv := nodesList_parts v
    omega
  · have hw := nodes_le_nodesList (mem_parts_of_mem_held w.2)
    have hv := nodesList_parts v
    omega

theorem texts_eq (v : Value) : v.texts = v.own ++ v.keys.flatMap texts ++ v.held.flatMap texts := by
  rw [texts]; simp

mutual

/-- The strings that are reached through lists and nothing else. -/
def openTexts : Value → List String
  | .str s => [s]
  | .list items => openTextsList items
  | _ => []
termination_by structural a => a

/-- The strings reached through the elements. -/
def openTextsList : List Value → List String
  | [] => []
  | v :: vs => openTexts v ++ openTextsList vs
termination_by structural a => a

end

theorem openTextsList_eq (items : List Value) : openTextsList items = items.flatMap openTexts := by
  induction items with
  | nil => rfl
  | cons v vs ih => rw [openTextsList, ih, List.flatMap_cons]

/-- Of values that are paired by `R`, two have as many strings, and are paired by `S` if they have the same
ones. Then so it is with lists of them, for the strings of one pair do not mix with those of the next. -/
theorem forall₂_flatMap {R S : Value → Value → Prop} {strings : Value → List String} {as bs : List Value}
    (h : Forall₂ R as bs)
    (hi : ∀ a ∈ as, ∀ b, R a b →
      (strings a).length = (strings b).length ∧ (S a b ↔ strings a = strings b)) :
    (as.flatMap strings).length = (bs.flatMap strings).length ∧
      (Forall₂ S as bs ↔ as.flatMap strings = bs.flatMap strings) := by
  induction h with
  | nil => simp
  | @cons a b as bs hab _ ih =>
    obtain ⟨hlength, hsame⟩ := hi a List.mem_cons_self b hab
    obtain ⟨hlengths, hrest⟩ := ih fun v m => hi v (List.mem_cons_of_mem _ m)
    refine ⟨by simp only [List.flatMap_cons, List.length_append, hlength, hlengths], ?_⟩
    rw [List.forall₂_cons, hsame, hrest, List.flatMap_cons, List.flatMap_cons]
    exact ⟨fun ⟨hx, hxs⟩ => by rw [hx, hxs], fun hx => List.append_inj hx hlength⟩

/-! ## Values that are equal exactly -/

theorem map_toList_inj {as bs : List String} : as.map String.toList = bs.map String.toList ↔ as = bs :=
  List.map_inj_right fun _ _ => String.toList_inj.1

theorem fold_of_toList (s t : String) (h : s.toList = t.toList) : Text.fold s = Text.fold t := by
  rw [String.toList_inj.1 h]

theorem alike_toList_iff {asKey : Bool} {a b : Value} : alike String.toList asKey a b = true ↔
    (Shell.Matched asKey a.shell b.shell ∧ a.own = b.own) ∧
      Forall₂ (Alike String.toList true) a.keys b.keys ∧
        Forall₂ (Alike String.toList asKey) a.held b.held := by
  rw [alike_iff fold_of_toList, map_toList_inj]

/-- Values that are alike letter by letter are alike when folded. -/
theorem Alike.fold (a : Value) : ∀ asKey b, Alike String.toList asKey a b → Alike Text.fold asKey a b := by
  refine parts_induct (P := fun a => ∀ asKey b, Alike String.toList asKey a b → Alike Text.fold asKey a b)
    (fun a ih asKey b h => ?_) a
  obtain ⟨⟨hshell, -⟩, hk, hh⟩ := alike_toList_iff.1 h
  refine alike_fold_iff.2 ⟨hshell, ?_, ?_⟩
  · exact forall₂_imp_mem hk fun v m w _ => ih v (mem_parts_of_mem_keys m) true w
  · exact forall₂_imp_mem hh fun v m w _ => ih v (mem_parts_of_mem_held m) asKey w

/-- Values that are alike when folded hold as many strings, and are alike letter by letter if the strings are
the same. -/
theorem alike_texts (a : Value) : ∀ asKey b, Alike Text.fold asKey a b →
    a.texts.length = b.texts.length ∧ (Alike String.toList asKey a b ↔ a.texts = b.texts) := by
  refine parts_induct (P := fun a => ∀ asKey b, Alike Text.fold asKey a b →
    a.texts.length = b.texts.length ∧ (Alike String.toList asKey a b ↔ a.texts = b.texts))
    (fun a ih asKey b h => ?_) a
  obtain ⟨hshell, hk, hh⟩ := alike_fold_iff.1 h
  have hown : a.own.length = b.own.length := by simpa using congrArg List.length (matched_own hshell)
  obtain ⟨hkeys, hksame⟩ := forall₂_flatMap (S := Alike String.toList true) hk
    fun v m w => ih v (mem_parts_of_mem_keys m) true w
  obtain ⟨hheld, hhsame⟩ := forall₂_flatMap (S := Alike String.toList asKey) hh
    fun v m w => ih v (mem_parts_of_mem_held m) asKey w
  have hfront : (a.own ++ a.keys.flatMap texts).length = (b.own ++ b.keys.flatMap texts).length := by
    rw [List.length_append, List.length_append, hown, hkeys]
  rw [texts_eq a, texts_eq b]
  refine ⟨by simp only [List.length_append, hown, hkeys, hheld], ?_⟩
  rw [Alike, alike_toList_iff, hksame, hhsame]
  constructor
  · rintro ⟨⟨-, ho⟩, hks, hhs⟩
    rw [ho, hks, hhs]
  · intro hall
    obtain ⟨hfronts, hhs⟩ := List.append_inj hall hfront
    obtain ⟨ho, hks⟩ := List.append_inj hfronts hown
    exact ⟨⟨hshell, ho⟩, hks, hhs⟩

/-- Values are equal exactly if they are equal and hold the same strings. -/
theorem eqExact_iff {a b : Value} : eqExact a b = true ↔ eq a b = true ∧ a.texts = b.texts := by
  constructor
  · intro h
    have hfold := Alike.fold a false b h
    exact ⟨alike_fold a b ▸ hfold, (alike_texts a false b hfold).2.1 h⟩
  · rintro ⟨h, htexts⟩
    have hfold : Alike Text.fold false a b := (alike_fold a b).trans h
    exact (alike_texts a false b hfold).2.2 htexts

/-! ## Values that are equal minding case -/

theorem eqCaseList_iff : ∀ {as bs : List Value},
    eqCaseList as bs = true ↔ Forall₂ (fun a b => eqCase a b = true) as bs
  | [], [] => by simp [eqCaseList]
  | [], _ :: _ => by simp [eqCaseList]
  | _ :: _, [] => by simp [eqCaseList]
  | a :: as, b :: bs => by rw [eqCaseList, Bool.and_eq_true, eqCaseList_iff, List.forall₂_cons]

theorem eq_of_eqCase (a : Value) : ∀ b, eqCase a b = true → eq a b = true := by
  refine parts_induct (P := fun a => ∀ b, eqCase a b = true → eq a b = true) (fun a ih b h => ?_) a
  cases a <;> cases b
  case list.list as bs =>
    exact eqList_iff.2 (forall₂_imp_mem (eqCaseList_iff.1 h) fun v m w _ => ih v m w)
  case str.str s t =>
    have hst : s = t := by simpa [eqCase] using h
    simp [hst, eq]
  all_goals exact h

/-- Equal values have as many strings reached through lists, and are equal minding case if these are the
same. -/
theorem eq_openTexts (a : Value) : ∀ b, eq a b = true →
    a.openTexts.length = b.openTexts.length ∧ (eqCase a b = true ↔ a.openTexts = b.openTexts) := by
  refine parts_induct (P := fun a => ∀ b, eq a b = true →
    a.openTexts.length = b.openTexts.length ∧ (eqCase a b = true ↔ a.openTexts = b.openTexts))
    (fun a ih b h => ?_) a
  cases a <;> cases b
  case list.list as bs =>
    rw [eqCase, eqCaseList_iff, openTexts, openTexts, openTextsList_eq, openTextsList_eq]
    exact forall₂_flatMap (eqList_iff.1 h) ih
  case str.str s t => simp [eqCase, openTexts]
  all_goals first | exact ⟨rfl, iff_of_true h rfl⟩ | cases h

/-- Values are equal minding case if they are equal and the strings reached through lists are the same. -/
theorem eqCase_iff {a b : Value} :
    eqCase a b = true ↔ eq a b = true ∧ a.openTexts = b.openTexts :=
  ⟨fun h => ⟨eq_of_eqCase a b h, (eq_openTexts a b (eq_of_eqCase a b h)).2.1 h⟩,
    fun ⟨h, htexts⟩ => (eq_openTexts a b h).2.2 htexts⟩

theorem eqCase_of_eqExact (a : Value) : ∀ b, eqExact a b = true → eqCase a b = true := by
  refine parts_induct (P := fun a => ∀ b, eqExact a b = true → eqCase a b = true) (fun a ih b h => ?_) a
  cases a <;> cases b
  case list.list as bs =>
    exact eqCaseList_iff.2 (forall₂_imp_mem (alikeList_iff.1 h) fun v m w _ => ih v m w)
  case str.str s t =>
    have hst : s = t := by simpa [eqExact, alike, String.toList_inj] using h
    simp [hst, eqCase]
  all_goals exact (eqExact_iff.1 h).1

/-- **Equality that minds case sees the strings in lists, and no others.** Values are equal minding case if
they are equal and the strings reached through lists alone are the same. They are equal exactly, strings
being read letter by letter wherever equality reads them folded, if besides the strings in maps, errors and
flyweights are the same. So the two agree on every pair of values but those that are equal and differ in
strings of the latter sort only. -/
theorem eqCase_against_exact (a b : Value) :
    eq a b = alike Text.fold false a b ∧
    (eqCase a b = true ↔ eq a b = true ∧ a.openTexts = b.openTexts) ∧
    (eqExact a b = true ↔ eqCase a b = true ∧ a.texts = b.texts) ∧
    (eqCase a b = eqExact a b ↔
      ¬ (eq a b = true ∧ a.openTexts = b.openTexts ∧ a.texts ≠ b.texts)) := by
  have hexact : eqExact a b = true ↔ eqCase a b = true ∧ a.texts = b.texts :=
    ⟨fun h => ⟨eqCase_of_eqExact a b h, (eqExact_iff.1 h).2⟩,
      fun ⟨h, htexts⟩ => eqExact_iff.2 ⟨eq_of_eqCase a b h, htexts⟩⟩
  refine ⟨(alike_fold a b).symm, eqCase_iff, hexact, ?_⟩
  rw [← and_assoc, ← eqCase_iff, Bool.eq_iff_iff, hexact]
  tauto

/-- A string is told from one in other case in a list, but not in a map, be it as a value or as a key, in an
error, or in a slot or the contents of a flyweight. -/
theorem eqCase_blind :
    eqCase (.list [.str "Hello"]) (.list [.str "hello"]) = false ∧
    ∀ box ∈ [fun v => Value.map [(.int 1, v)], fun v => .map [(v, .int 1)],
        fun v => .err .noError .none (some v), fun v => .flyweight ⟨1⟩ [(⟨"slot"⟩, v)] [],
        fun v => .flyweight ⟨1⟩ [] [v]],
      eqCase (box (.str "Hello")) (box (.str "hello")) = true ∧
        eqExact (box (.str "Hello")) (box (.str "hello")) = false := by
  decide

end MooWorld.Value
