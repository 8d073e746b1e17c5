import Mathlib.Data.List.Infix
import MooWorld.ErrorCode
/-!
# How an error code may be spelled

A code is read through the upper-case form of its spelling, while symbols are told apart by their case
foldings. These are two different tables, and they do not go together: the Kelvin sign folds to `k`, `ẞ` folds
to `ss`, and both are their own upper case; `ı` is `I` in upper case and folds to itself.

Fixed names are in ASCII, so all depends on the characters beyond ASCII that either table takes there. They are
read off the rows of the tables (`mem_of_upperChar`, `mem_of_foldChar`). With a dotless `ı` read as `i`, the
folding and the upper case of a character are the same letters (`Agrees`), as soon as either is in ASCII; only
the three of `foldedOnly` are an exception, and no fixed name has room for what they fold to. So it can be told
from the folding alone which code a spelling is read as (`upper_eq_name_iff`).
-/
namespace MooWorld

namespace Text

/-! ## Characters that a table takes to ASCII -/

/-- The character is in ASCII. -/
def Ascii (c : Char) : Prop := c.toNat < 0x80

instance : DecidablePred Ascii := fun c => inferInstanceAs (Decidable (c.toNat < 0x80))

/-- All characters are in ASCII. -/
def AllAscii (l : List Char) : Prop := ∀ c ∈ l, Ascii c

instance : DecidablePred AllAscii := fun l => List.decidableBAll Ascii l

/-- A dotless `ı` gets its dot. -/
def dotted (c : Char) : Char := if c = 'ı' then 'i' else c

/-- A character is mapped by one row of the table, or stays as it is. -/
theorem CharMap.apply_cases (m : CharMap) (c : Char) :
    (∃ e ∈ m.expansions, c = Char.ofNat e.1 ∧ m.apply c = e.2.map Char.ofNat) ∨
    (∃ r ∈ m.runs, ∃ i < r.last + 1 - r.first, c = Char.ofNat (r.first + i) ∧
      m.apply c = [Char.ofNat (r.target + i)]) ∨
    m.apply c = [c] := by
  unfold apply
  cases hl : m.expansions.lookup c.toNat with
  | some codes =>
    obtain ⟨before, after, he, -⟩ := List.lookup_eq_some_iff.1 hl
    refine .inl ⟨(c.toNat, codes), ?_, (Char.ofNat_toNat c).symm, rfl⟩
    rw [he]
    exact List.mem_append_right _ List.mem_cons_self
  | none =>
    cases hf : m.runs.find? (·.covers c.toNat) with
    | some r =>
      -- the step of the run is forgotten: the places in between go nowhere near ASCII either
      have hc := List.find?_some hf
      simp only [Run.covers, Bool.and_eq_true, decide_eq_true_eq] at hc
      refine .inr (.inl ⟨r, List.mem_of_find?_eq_some hf, c.toNat - r.first, by omega, ?_, rfl⟩)
      rw [Nat.add_sub_cancel' hc.1.1, Char.ofNat_toNat]
    | none => exact .inr (.inr rfl)

/-- Where a table can come from, beyond ASCII, to characters of some kind is told by its rows, one at a time. -/
theorem CharMap.mem_of_apply {m : CharMap} (kind : Char → Prop) {sources : List Char}
    (hexpansions : ∀ e ∈ m.expansions, (∀ n ∈ e.2, kind (Char.ofNat n)) → Char.ofNat e.1 ∈ sources)
    (hruns : ∀ r ∈ m.runs, ∀ i < r.last + 1 - r.first, kind (Char.ofNat (r.target + i)) →
      Ascii (Char.ofNat (r.first + i)) ∨ Char.ofNat (r.first + i) ∈ sources)
    {c : Char} (hc : ¬ Ascii c) (h : ∀ d ∈ m.apply c, kind d) : kind c ∨ c ∈ sources := by
  rcases m.apply_cases c with ⟨e, me, rfl, he⟩ | ⟨r, mr, i, hi, rfl, hr⟩ | hself
  · refine .inr (hexpansions e me fun n mn => h _ ?_)
    rw [he]
    exact List.mem_map_of_mem mn
  · rw [hr] at h
    exact .inr ((hruns r mr i hi (h _ List.mem_cons_self)).resolve_left hc)
  · rw [hself] at h
    exact .inl (h c List.mem_cons_self)

/-- The letters beyond ASCII whose upper case is in ASCII. -/
def asciiUpper : List Char := ['ß', 'ı', 'ſ', 'ﬀ', 'ﬁ', 'ﬂ', 'ﬃ', 'ﬄ', 'ﬅ', 'ﬆ']

/-- The letters beyond ASCII that fold into it but have an upper case outside: a capital `ẞ`, the Kelvin sign
and one more letter that folds to `ss`. -/
def foldedOnly : List Char := [Char.ofNat 0x1E9E, Char.ofNat 0x212A, Char.ofNat 0x1DF95]

theorem upperChar_of_ascii {c : Char} (h : Ascii c) : upperChar c = [c.toUpper] := if_pos h

theorem upperChar_of_not_ascii {c : Char} (h : ¬ Ascii c) : upperChar c = upperCasing.apply c := if_neg h

theorem foldChar_of_ascii {c : Char} (h : Ascii c) : foldChar c = [c.toLower] := if_pos h

theorem foldChar_of_not_ascii {c : Char} (h : ¬ Ascii c) : foldChar c = caseFolding.apply c := if_neg h

theorem mem_of_upperChar {c : Char} (hc : ¬ Ascii c) (h : AllAscii (upperChar c)) : c ∈ asciiUpper := by
  rw [upperChar_of_not_ascii hc] at h
  have hexpansions : ∀ e ∈ upperCasing.expansions,
      (∀ n ∈ e.2, Ascii (Char.ofNat n)) → Char.ofNat e.1 ∈ asciiUpper := by
    decide +kernel
  have hruns : ∀ r ∈ upperCasing.runs, ∀ i < r.last + 1 - r.first, Ascii (Char.ofNat (r.target + i)) →
      Ascii (Char.ofNat (r.first + i)) ∨ Char.ofNat (r.first + i) ∈ asciiUpper := by
    decide +kernel
  exact (CharMap.mem_of_apply Ascii hexpansions hruns hc h).resolve_left hc

theorem mem_of_foldChar {c : Char} (hc : ¬ Ascii c) (h : ∀ d ∈ foldChar c, Ascii (dotted d)) :
    c ∈ asciiUpper ++ foldedOnly := by
  rw [foldChar_of_not_ascii hc] at h
  have hexpansions : ∀ e ∈ caseFolding.expansions,
      (∀ n ∈ e.2, Ascii (dotted (Char.ofNat n))) → Char.ofNat e.1 ∈ asciiUpper ++ foldedOnly := by
    decide +kernel
  have hruns : ∀ r ∈ caseFolding.runs, ∀ i < r.last + 1 - r.first,
      Ascii (dotted (Char.ofNat (r.target + i))) →
        Ascii (Char.ofNat (r.first + i)) ∨ Char.ofNat (r.first + i) ∈ asciiUpper ++ foldedOnly := by
    decide +kernel
  rcases CharMap.mem_of_apply (fun d => Ascii (dotted d)) hexpansions hruns hc h with hd | hm
  · -- no row mentions the character; only `ı` is then as good as one of ASCII
    by_cases hi : c = 'ı'
    · subst hi; decide
    · rw [dotted, if_neg hi] at hd
      exact absurd hd hc
  · exact hm

/-! ## The letters of a spelling -/

/-- The folding of a character, with a dot on each `i`. -/
def looseChar (c : Char) : List Char := (foldChar c).map dotted

/-- The folding of a text, with a dot on each `i`. -/
def loose (s : String) : List Char := (fold s).map dotted

theorem loose_eq (s : String) : loose s = s.toList.flatMap looseChar :=
  List.map_flatMap ..

theorem toList_upper (s : String) : (upper s).toList = s.toList.flatMap upperChar :=
  String.toList_ofList

/-- The folding and the upper case of the character are the same letters. -/
structure Agrees (c : Char) : Prop where
  lower : looseChar c = (upperChar c).map Char.toLower
  upper : upperChar c = (looseChar c).map Char.toUpper

theorem agrees_of_ascii {c : Char} (h : Ascii c) : Agrees c := by
  have hall : ∀ n < 0x80, dotted (Char.ofNat n).toLower = (Char.ofNat n).toUpper.toLower ∧
      (Char.ofNat n).toUpper = (dotted (Char.ofNat n).toLower).toUpper := by
    decide +kernel
  obtain ⟨hlower, hupper⟩ := hall c.toNat h
  rw [Char.ofNat_toNat] at hlower hupper
  refine ⟨?_, ?_⟩ <;> rw [looseChar, foldChar_of_ascii h, upperChar_of_ascii h]
  · exact congrArg ([·]) hlower
  · exact congrArg ([·]) hupper

theorem agrees_of_mem {c : Char} (h : c ∈ asciiUpper) : Agrees c := by
  have hlower : asciiUpper.map looseChar = asciiUpper.map fun c => (upperChar c).map Char.toLower := by
    decide +kernel
  have hupper : asciiUpper.map upperChar = asciiUpper.map fun c => (looseChar c).map Char.toUpper := by
    decide +kernel
  exact ⟨List.map_inj_left.1 hlower c h, List.map_inj_left.1 hupper c h⟩

theorem agrees_of_upper {c : Char} (h : AllAscii (upperChar c)) : Agrees c := by
  by_cases hc : Ascii c
  · exact agrees_of_ascii hc
  · exact agrees_of_mem (mem_of_upperChar hc h)

theorem agrees_of_loose {c : Char} (h : AllAscii (looseChar c)) (hno : c ∉ foldedOnly) : Agrees c := by
  by_cases hc : Ascii c
  · exact agrees_of_ascii hc
  · have hm := mem_of_foldChar hc fun d md => h _ (List.mem_map_of_mem md)
    exact agrees_of_mem ((List.mem_append.1 hm).resolve_right hno)

/-- What the upper case shows, the folding shows. -/
theorem loose_of_upper {s : String} (h : AllAscii (upper s).toList) :
    loose s = (upper s).toList.map Char.toLower := by
  rw [toList_upper] at h ⊢
  rw [loose_eq, List.map_flatMap]
  refine List.flatMap_congr fun c mc => (agrees_of_upper fun d md => h d ?_).lower
  exact List.mem_flatMap.2 ⟨c, mc, md⟩

/-- What the folding shows, the upper case shows, unless a letter only folds into ASCII. -/
theorem upper_of_loose {s : String} (h : AllAscii (loose s))
    (hno : ∀ w ∈ foldedOnly.map looseChar, ¬ w <:+: loose s) :
    (upper s).toList = (loose s).map Char.toUpper := by
  rw [loose_eq] at h hno ⊢
  rw [toList_upper, List.map_flatMap]
  refine List.flatMap_congr fun c mc => (agrees_of_loose (fun d md => h d ?_) fun hc =>
    hno _ (List.mem_map_of_mem hc) ?_).upper
  · exact List.mem_flatMap.2 ⟨c, mc, md⟩
  · -- such a letter would leave what it folds to in the folding of the text
    obtain ⟨before, after, hs⟩ := List.append_of_mem mc
    exact ⟨before.flatMap looseChar, after.flatMap looseChar, by simp [hs]⟩

end Text

/-! ## Codes -/

namespace ErrorCode

/-- Fixed names are in capital letters of ASCII, and have no `SS` and no `K`. -/
theorem fixed_names : ∀ c ∈ fixed, Text.AllAscii c.name.toList ∧
    Text.fold c.name = c.name.toList.map Char.toLower ∧ Text.AllAscii (Text.fold c.name) ∧
    (Text.fold c.name).map Char.toUpper = c.name.toList ∧
    ∀ w ∈ Text.foldedOnly.map Text.looseChar, ¬ w <:+: Text.fold c.name := by
  decide +kernel

theorem upper_name : ∀ c ∈ fixed, Text.upper c.name = c.name := by
  decide +kernel

theorem name_inj : ∀ c ∈ fixed, ∀ d ∈ fixed, c.name = d.name → c = d := by
  decide +kernel

/-- Whether a spelling is that of a fixed name can be told from its folding. -/
theorem upper_eq_name_iff {c : ErrorCode} (hc : c ∈ fixed) (s : String) :
    Text.upper s = c.name ↔ Text.loose s = Text.fold c.name := by
  obtain ⟨hname, hlower, hfold, hupper, hno⟩ := fixed_names c hc
  constructor
  · intro h
    rw [← h] at hname
    rw [Text.loose_of_upper hname, h, hlower]
  · intro h
    rw [← h] at hfold hno
    rw [← String.toList_inj, Text.upper_of_loose hfold hno, h, hupper]

theorem parse_eq (s : String) :
    parse s = (fixed.find? fun c => c.name == Text.upper s).getD (.custom ⟨s⟩) := rfl

/-- What a spelling is read as, told from its folding. -/
theorem parse_eq_iff {s : String} {c : ErrorCode} : parse s = c ↔
    (c ∈ fixed ∧ Text.loose s = Text.fold c.name) ∨
    (c = .custom ⟨s⟩ ∧ ∀ d ∈ fixed, Text.loose s ≠ Text.fold d.name) := by
  rw [parse_eq]
  cases hf : fixed.find? fun c => c.name == Text.upper s with
  | some d =>
    have hd := List.mem_of_find?_eq_some hf
    have hname := List.find?_some hf
    simp only [beq_iff_eq] at hname
    have hloose := (upper_eq_name_iff hd s).1 hname.symm
    constructor
    · rintro rfl
      exact .inl ⟨hd, hloose⟩
    · rintro (⟨hc, hs⟩ | ⟨-, hno⟩)
      · have hs' := (upper_eq_name_iff hc s).2 hs
        exact name_inj d hd c hc (hname.trans hs')
      · exact absurd hloose (hno d hd)
  | none =>
    have hno : ∀ d ∈ fixed, Text.loose s ≠ Text.fold d.name := by
      intro d hd hs
      have hs' := (upper_eq_name_iff hd s).2 hs
      simpa [hs'] using List.find?_eq_none.1 hf d hd
    constructor
    · rintro rfl
      exact .inr ⟨rfl, hno⟩
    · rintro (⟨hc, hs⟩ | ⟨rfl, -⟩)
      · exact absurd hs (hno c hc)
      · rfl

/-- **Codes ignore case as symbols do.** Two spellings of one symbol are read as the same code, and what is
written for a code is read as that code. A spelling is read as a code with a fixed name if and only if its
folding is that of the name, where a dotless `ı` counts as `i`, and otherwise as a custom code that keeps the
spelling. -/
theorem parse_ignores_case (s t : String) :
    (Symbol.same ⟨s⟩ ⟨t⟩ = true → (parse s).same (parse t) = true) ∧
    parse (parse s).name = parse s ∧
    ∀ c, parse s = c ↔ (c ∈ fixed ∧ Text.loose s = Text.fold c.name) ∨
      (c = .custom ⟨s⟩ ∧ ∀ d ∈ fixed, Text.loose s ≠ Text.fold d.name) := by
  have hcases := parse_eq_iff.1 (Eq.refl (parse s))
  refine ⟨fun hsame => ?_, ?_, fun c => parse_eq_iff⟩
  · have hfold : Text.fold s = Text.fold t := by simpa [Symbol.same, Symbol.folded] using hsame
    have hloose : Text.loose s = Text.loose t := congrArg (List.map Text.dotted) hfold
    rw [hloose] at hcases
    rcases hcases with hfixed | ⟨hs, hno⟩
    · have ht : parse t = parse s := parse_eq_iff.2 (.inl hfixed)
      simp [ht, same]
    · have ht : parse t = .custom ⟨t⟩ := parse_eq_iff.2 (.inr ⟨rfl, hno⟩)
      simp [hs, ht, same, rank, customKey, Symbol.folded, hfold]
  · rcases hcases with ⟨hmem, -⟩ | ⟨hs, -⟩
    · exact parse_eq_iff.2 (.inl ⟨hmem, (upper_eq_name_iff hmem _).1 (upper_name _ hmem)⟩)
    · rw [hs]
      exact hs

/-- A ligature in a fixed name, and a sharp s in a custom one. The dotless `ı` is read as `i`, though it makes
another symbol. -/
theorem parse_ignores_case_ligature :
    Symbol.same ⟨"e_ﬂoat"⟩ ⟨"E_FLOAT"⟩ = true ∧ (parse "e_ﬂoat").same (parse "E_FLOAT") = true ∧
    parse "e_ﬂoat" = .floatError ∧
    Symbol.same ⟨"E_Maß"⟩ ⟨"e_MASS"⟩ = true ∧ (parse "E_Maß").same (parse "e_MASS") = true ∧
    parse "E_Maß" = .custom ⟨"E_Maß"⟩ ∧ parse (parse "E_Maß").name = .custom ⟨"E_Maß"⟩ ∧
    Symbol.same ⟨"e_dıv"⟩ ⟨"E_DIV"⟩ = false ∧ parse "e_dıv" = .divisionByZero := by
  have hfloat : Symbol.same ⟨"e_ﬂoat"⟩ ⟨"E_FLOAT"⟩ = true := by decide
  have hmass : Symbol.same ⟨"E_Maß"⟩ ⟨"e_MASS"⟩ = true := by decide
  obtain ⟨hfloats, -, hread⟩ := parse_ignores_case "e_ﬂoat" "E_FLOAT"
  obtain ⟨hmasses, hagain, hkept⟩ := parse_ignores_case "E_Maß" "e_MASS"
  have hcustom : parse "E_Maß" = .custom ⟨"E_Maß"⟩ := (hkept _).2 (.inr ⟨rfl, by decide⟩)
  exact ⟨hfloat, hfloats hfloat, (hread _).2 (.inl ⟨by decide, by decide⟩), hmass, hmasses hmass, hcustom,
    hagain.trans hcustom, by decide,
    ((parse_ignores_case "e_dıv" "E_DIV").2.2 _).2 (.inl ⟨by decide, by decide⟩)⟩

end ErrorCode

end MooWorld
