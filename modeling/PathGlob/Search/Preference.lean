import PathGlob.Search
import PathGlob.Spelling

/-!
# The search finds the preferred spelling

A row answers, for every tail of a text, whether some tokens can spell it (`answers_table`). With
the rows of the tokens after each wildcard, each wildcard takes the most that leaves a spelling of
the rest, and what comes of it is the preferred spelling (`groups?_eq_some_iff`); deciding whether
there is one looks at the first row alone (`spells_iff`).
-/

namespace PathGlob.Search

/-- `Answers P t r`: the row `r` says of each tail of `t` whether `P` holds of it. -/
def Answers (P : Text → Prop) : Text → Row → Prop
  | [], r => (r.first = true ↔ P [])
  | x :: t, r => (r.first = true ↔ P (x :: t)) ∧ Answers P t r.tail

namespace Answers

variable {P : Text → Prop} {t : Text} {r : Row}

theorem first_iff (h : Answers P t r) : r.first = true ↔ P t := by
  cases t with
  | nil => exact h
  | cons x t => exact h.1

theorem drop (h : Answers P t r) {n : Nat} (hn : n ≤ t.length) :
    Answers P (t.drop n) (r.drop n) := by
  induction n generalizing t r with
  | zero => exact h
  | succ n ih =>
    cases t with
    | nil => simp at hn
    | cons x t => simpa using ih h.2 (by simpa using hn)

end Answers

theorem answers_emptyRow (t : Text) : Answers (CanSpell []) t (emptyRow t) := by
  induction t with
  | nil => simp [Answers, emptyRow, Row.first, CanSpell.nil_iff]
  | cons x t ih => exact ⟨by simp [emptyRow, Row.first, CanSpell.nil_iff], ih⟩

theorem answers_litRow {c : Char} {ts : List Token} {t : Text} {r : Row}
    (h : Answers (CanSpell ts) t r) : Answers (CanSpell (.lit c :: ts)) t (litRow c t r) := by
  induction t generalizing r with
  | nil => simp [Answers, litRow, Row.first, CanSpell.lit_iff]
  | cons x t ih =>
    refine ⟨?_, ih h.2⟩
    have := h.2.first_iff
    simp only [litRow, Row.first, List.headD_cons, Bool.and_eq_true, beq_iff_eq, CanSpell.lit_iff]
    simp only [Row.first] at this
    rw [this]
    constructor
    · rintro ⟨rfl, hu⟩
      exact ⟨t, rfl, hu⟩
    · rintro ⟨u, e, hu⟩
      cases e
      exact ⟨rfl, hu⟩

theorem answers_wildRow {tok : Token} (wild : tok.isWild) {ts : List Token} {t : Text} {r : Row}
    (h : Answers (CanSpell ts) t r) :
    Answers (CanSpell (tok :: ts)) t (wildRow tok.covers t r) := by
  induction t generalizing r with
  | nil =>
    simp only [Answers, CanSpell.wild_nil wild]
    exact h.first_iff
  | cons x t ih =>
    have later := ih h.2
    refine ⟨?_, later⟩
    rw [CanSpell.wild_cons wild, ← h.1, ← later.first_iff]
    simp [wildRow, Row.first]

theorem answers_table (t : Text) (ts : List Token) : Answers (CanSpell ts) t (table t ts).row := by
  induction ts with
  | nil => exact answers_emptyRow t
  | cons tok ts ih =>
    cases tok with
    | lit c => exact answers_litRow ih
    | one => exact answers_wildRow rfl ih
    | many => exact answers_wildRow rfl ih

theorem spells_iff {ts : List Token} {t : Text} : spells ts t = true ↔ CanSpell ts t :=
  (answers_table t ts).first_iff

/-- What a wildcard takes has to be covered, and what it leaves to be as required. -/
def Fits (P : Text → Prop) (covers : Char → Bool) (t : Text) (n : Nat) : Prop :=
  n ≤ t.length ∧ (∀ x ∈ t.take n, covers x) ∧ P (t.drop n)

theorem fits_zero {P : Text → Prop} {covers : Char → Bool} {t : Text} :
    Fits P covers t 0 ↔ P t := by
  simp [Fits]

theorem not_fits_nil {P : Text → Prop} {covers : Char → Bool} {n : Nat} :
    ¬ Fits P covers [] (n + 1) := by
  simp [Fits]

theorem fits_cons {P : Text → Prop} {covers : Char → Bool} {x : Char} {t : Text} {n : Nat} :
    Fits P covers (x :: t) (n + 1) ↔ covers x ∧ Fits P covers t n := by
  simp [Fits]
  grind

/-- Nothing fits if a wildcard finds nothing to take. -/
theorem not_fits_of_longest? {P : Text → Prop} {covers : Char → Bool} {t : Text} {r : Row}
    (h : Answers P t r) (none_found : longest? covers t r = none) (n : Nat) :
    ¬ Fits P covers t n := by
  induction t generalizing r n with
  | nil =>
    cases n with
    | zero =>
      intro hp
      simp [longest?, h.first_iff.2 (fits_zero.1 hp)] at none_found
    | succ n => exact not_fits_nil
  | cons x t ih =>
    simp only [longest?] at none_found
    split at none_found
    · cases none_found
    · next deeper =>
      cases n with
      | zero =>
        intro hp
        simp [h.first_iff.2 (fits_zero.1 hp)] at none_found
      | succ n =>
        rw [fits_cons]
        rintro ⟨hx, hf⟩
        rw [if_pos hx] at deeper
        exact ih h.2 deeper n hf

/-- A wildcard takes the most that fits. -/
theorem fits_of_longest? {P : Text → Prop} {covers : Char → Bool} {t : Text} {r : Row} {n : Nat}
    (h : Answers P t r) (found : longest? covers t r = some n) :
    Fits P covers t n ∧ ∀ m, Fits P covers t m → m ≤ n := by
  induction t generalizing r n with
  | nil =>
    simp only [longest?] at found
    split at found
    · next hr =>
      cases found
      refine ⟨fits_zero.2 (h.first_iff.1 hr), ?_⟩
      intro m hm
      cases m with
      | zero => exact Nat.le_refl _
      | succ m => exact absurd hm not_fits_nil
    · cases found
  | cons x t ih =>
    simp only [longest?] at found
    split at found
    · next k deeper =>
      cases found
      split at deeper
      · next hx =>
        obtain ⟨hk, most⟩ := ih h.2 deeper
        refine ⟨fits_cons.2 ⟨hx, hk⟩, ?_⟩
        intro m hm
        cases m with
        | zero => exact Nat.zero_le _
        | succ m => exact Nat.succ_le_succ (most m (fits_cons.1 hm).2)
      · cases deeper
    · next deeper =>
      split at found
      · next hr =>
        cases found
        refine ⟨fits_zero.2 (h.first_iff.1 hr), ?_⟩
        intro m hm
        cases m with
        | zero => exact Nat.le_refl _
        | succ m =>
          obtain ⟨hx, hf⟩ := fits_cons.1 hm
          rw [if_pos hx] at deeper
          exact absurd hf (not_fits_of_longest? h.2 deeper m)
      · cases found

/-- `AfterWild ts t rows`: for each wildcard of `ts` there is the row of the tokens after it, over a
text of which `t` is what is left. -/
def AfterWild : List Token → Text → List Row → Prop
  | [], _, rows => rows = []
  | .lit _ :: ts, t, rows => AfterWild ts t rows
  | _ :: ts, t, row :: rows => Answers (CanSpell ts) t row ∧ AfterWild ts t rows
  | _ :: _, _, [] => False

theorem afterWild_table (t : Text) (ts : List Token) : AfterWild ts t (table t ts).afterWild := by
  induction ts with
  | nil => rfl
  | cons tok ts ih =>
    cases tok with
    | lit c => exact ih
    | one => exact ⟨answers_table t ts, ih⟩
    | many => exact ⟨answers_table t ts, ih⟩

theorem AfterWild.drop {ts : List Token} {t : Text} {rows : List Row} (h : AfterWild ts t rows)
    {n : Nat} (hn : n ≤ t.length) : AfterWild ts (t.drop n) (rows.map (·.drop n)) := by
  fun_induction AfterWild ts t rows with
  | case1 => simp_all [AfterWild]
  | case2 c ts t rows ih => exact ih h hn
  | case3 tok ts t row rows _ ih =>
    cases tok with
    | lit c => simp_all
    | one => exact ⟨h.1.drop hn, ih h.2 hn⟩
    | many => exact ⟨h.1.drop hn, ih h.2 hn⟩
  | case4 => cases h

/-- What a wildcard is given leaves a text that the tokens after it can spell. -/
theorem spells_cons_of_fits {tok : Token} (wild : tok.isWild) {ts : List Token} {gs : List Text}
    {t : Text} {n : Nat} (h : Fits (Spells ts gs) tok.covers t n) :
    Spells (tok :: ts) (t.take n :: gs) t := by
  refine (Spells.wild_iff wild).2 ⟨t.take n, gs, t.drop n, rfl, ?_, h.2.1, h.2.2⟩
  exact (List.take_append_drop n t).symm

theorem fits_of_spells_cons {tok : Token} (wild : tok.isWild) {ts : List Token} {gs : List Text}
    {t : Text} (h : Spells (tok :: ts) gs t) :
    ∃ n hs, gs = t.take n :: hs ∧ Fits (Spells ts hs) tok.covers t n := by
  obtain ⟨g, hs, u, rfl, rfl, hg, hu⟩ := (Spells.wild_iff wild).1 h
  refine ⟨g.length, hs, by simp, by simp, ?_, by simpa using hu⟩
  simpa using hg

theorem AfterWild.tail {ts : List Token} {x : Char} {t : Text} {rows : List Row}
    (h : AfterWild ts (x :: t) rows) : AfterWild ts t (rows.map List.tail) := by
  simpa using h.drop (n := 1) (by simp)

theorem AfterWild.of_wild {tok : Token} (wild : tok.isWild) {ts : List Token} {t : Text} {row : Row}
    {rows : List Row} (h : AfterWild (tok :: ts) t (row :: rows)) :
    Answers (CanSpell ts) t row ∧ AfterWild ts t rows := by
  cases tok with
  | lit c => cases wild
  | one => exact h
  | many => exact h

/-- A token is a wildcard where it is no literal, whether the text has ended or not. -/
theorem isWild_of_ne_lit {tok : Token} {t : Text}
    (cons_ne : ∀ (c x : Char) (u : List Char), t = x :: u → tok = .lit c → False)
    (nil_ne : ∀ c : Char, t = [] → tok = .lit c → False) : tok.isWild := by
  cases tok with
  | lit c =>
    cases t with
    | nil => exact (nil_ne c rfl rfl).elim
    | cons x t => exact (cons_ne c x t rfl rfl).elim
  | one => rfl
  | many => rfl

/-- The texts given to wildcards spell the text, and no other spelling is preferred. -/
theorem spells_of_assign? {ts : List Token} {t : Text} {rows : List Row} {gs : List Text}
    (after : AfterWild ts t rows) (found : assign? ts t rows = some gs) :
    Spells ts gs t ∧ ∀ hs, Spells ts hs t → Preferred gs hs := by
  fun_induction assign? ts t rows generalizing gs with
  | case1 =>
    cases found
    exact ⟨.nil, fun _ _ => trivial⟩
  | case3 ts c t rows ih =>
    obtain ⟨spelled, best⟩ := ih after.tail found
    refine ⟨.lit c spelled, ?_⟩
    intro hs h
    obtain ⟨u, e, hu⟩ := Spells.lit_iff.1 h
    cases e
    exact best hs hu
  | case6 tok ts t row rows cons_ne nil_ne n most ih =>
    have wild := isWild_of_ne_lit cons_ne nil_ne
    obtain ⟨answers, later⟩ := after.of_wild wild
    obtain ⟨⟨hn, covered, -⟩, longest⟩ := fits_of_longest? answers most
    obtain ⟨gs, given, rfl⟩ := Option.map_eq_some_iff.1 found
    obtain ⟨spelled, best⟩ := ih (later.drop hn) given
    refine ⟨spells_cons_of_fits wild ⟨hn, covered, spelled⟩, ?_⟩
    intro hs h
    obtain ⟨m, hs, rfl, hm, fits, hu⟩ := fits_of_spells_cons wild h
    have : m ≤ n := longest m ⟨hm, fits, hs, hu⟩
    rcases Nat.lt_or_eq_of_le this with less | rfl
    · exact .inl (by simpa [Nat.min_eq_left, hn, hm] using less)
    · exact .inr ⟨rfl, best hs hu⟩
  | case2 | case4 | case5 | case7 | case8 => cases found

theorem exists_assign? {ts : List Token} {t : Text} {rows : List Row}
    (after : AfterWild ts t rows) (can : CanSpell ts t) : ∃ gs, assign? ts t rows = some gs := by
  fun_induction assign? ts t rows with
  | case1 => exact ⟨[], rfl⟩
  | case2 => exact absurd (CanSpell.nil_iff.1 can) (by simp)
  | case3 ts c t rows ih =>
    obtain ⟨u, e, hu⟩ := CanSpell.lit_iff.1 can
    cases e
    exact ih after.tail hu
  | case4 ts c x t rows different =>
    obtain ⟨u, e, hu⟩ := CanSpell.lit_iff.1 can
    cases e
    exact absurd rfl different
  | case5 =>
    obtain ⟨u, e, hu⟩ := CanSpell.lit_iff.1 can
    cases e
  | case6 tok ts t row rows cons_ne nil_ne n most ih =>
    obtain ⟨answers, later⟩ := after.of_wild (isWild_of_ne_lit cons_ne nil_ne)
    obtain ⟨⟨hn, -, rest⟩, -⟩ := fits_of_longest? answers most
    obtain ⟨gs, given⟩ := ih (later.drop hn) rest
    exact ⟨t.take n :: gs, by rw [given]; rfl⟩
  | case7 tok ts t row rows cons_ne nil_ne nothing =>
    have wild := isWild_of_ne_lit cons_ne nil_ne
    obtain ⟨gs, spelled⟩ := can
    obtain ⟨n, hs, -, hn, covered, hu⟩ := fits_of_spells_cons wild spelled
    exact absurd ⟨hn, covered, hs, hu⟩ (not_fits_of_longest? (after.of_wild wild).1 nothing n)
  | case8 tok ts t cons_ne nil_ne =>
    cases tok with
    | lit c => cases isWild_of_ne_lit cons_ne nil_ne
    | one => cases after
    | many => cases after

theorem spells_of_groups? {ts : List Token} {t : Text} {gs : List Text}
    (found : groups? ts t = some gs) :
    Spells ts gs t ∧ ∀ hs, Spells ts hs t → Preferred gs hs :=
  spells_of_assign? (afterWild_table t ts) found

theorem groups?_eq_some_iff {ts : List Token} {t : Text} {gs : List Text} :
    groups? ts t = some gs ↔ Spells ts gs t ∧ ∀ hs, Spells ts hs t → Preferred gs hs := by
  constructor
  · exact spells_of_groups?
  · rintro ⟨spelled, best⟩
    obtain ⟨hs, found⟩ := exists_assign? (afterWild_table t ts) ⟨gs, spelled⟩
    obtain ⟨spelled', best'⟩ := spells_of_groups? found
    rw [Spells.eq_of_preferred spelled spelled' (best hs spelled') (best' gs spelled)]
    exact found

theorem spells_eq_isSome (ts : List Token) (t : Text) : spells ts t = (groups? ts t).isSome := by
  rw [Bool.eq_iff_iff, spells_iff, Option.isSome_iff_exists]
  constructor
  · exact exists_assign? (afterWild_table t ts)
  · rintro ⟨gs, found⟩
    exact ⟨gs, (spells_of_groups? found).1⟩

end PathGlob.Search
