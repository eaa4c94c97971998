import Mathlib.Algebra.Group.Nat.Defs
import Mathlib.Data.List.Induction
import Mathlib.Data.List.Nodup
import PathGlob.Proofs.Rendering

/-!
# Positions as names

A placeholder asks for a capture by a number, the map of captures has each of them under the digits
of its position. Both look-ups agree on every name but those that write a number in another way than
`Decimal.text` does, with a plus sign or with zeros in front.

`Decimal.StandsFor` says which number digits stand for, `natural?_eq_some_iff` that this is what is
read, and `eq_text_iff` that each number has one written form without needless zeros.
`render_congr` carries agreement of look-ups over to templates.
-/

namespace PathGlob

namespace Decimal

/-- `StandsFor t v`: the text `t` is one decimal digit or more, and they stand for `v`. -/
inductive StandsFor : Text → Nat → Prop where
  | digit {d : Nat} : d < 10 → StandsFor [Nat.digitChar d] d
  | more {t : Text} {v d : Nat} : StandsFor t v → d < 10 →
      StandsFor (t ++ [Nat.digitChar d]) (10 * v + d)

/-- Digits, or digits behind one plus sign. -/
def Numeral (t : Text) (v : Nat) : Prop :=
  StandsFor t v ∨ ∃ digits, t = '+' :: digits ∧ StandsFor digits v

def NoNeedlessZero (t : Text) : Prop :=
  t.head? = some '0' → t = ['0']

theorem number_concat (t : Text) (c : Char) :
    number (t ++ [c]) = 10 * number t + (c.toNat - '0'.toNat) := by
  rw [number, Nat.ofDigitChars_append, Nat.ofDigitChars_cons, Nat.ofDigitChars_nil, number]

theorem digitChar_of_isDigit {c : Char} (h : c.isDigit) :
    c.toNat - '0'.toNat < 10 ∧ Nat.digitChar (c.toNat - '0'.toNat) = c := by
  simp only [Char.isDigit, Bool.and_eq_true, decide_eq_true_eq, ge_iff_le, UInt32.le_iff_toNat_le]
    at h
  have lower : 48 ≤ c.toNat := h.1
  have upper : c.toNat ≤ 57 := h.2
  have small : c.toNat - '0'.toNat < 10 := by
    change c.toNat - 48 < 10
    omega
  refine ⟨small, Char.toNat_inj.1 ?_⟩
  rw [Nat.toNat_digitChar_of_lt_ten small]
  change 48 + (c.toNat - 48) = c.toNat
  omega

theorem standsFor_iff {t : Text} {v : Nat} :
    StandsFor t v ↔ t ≠ [] ∧ (∀ c ∈ t, c.isDigit) ∧ number t = v := by
  constructor
  · intro h
    induction h with
    | @digit d small =>
      refine ⟨by simp, by simpa [Nat.isDigit_digitChar] using small, ?_⟩
      have := number_concat [] (Nat.digitChar d)
      rw [Nat.toNat_digitChar_of_lt_ten small] at this
      simpa [number, Nat.ofDigitChars_nil] using this
    | @more t v d _ small ih =>
      obtain ⟨-, digits, value⟩ := ih
      refine ⟨by simp, ?_, ?_⟩
      · intro c mem
        rcases List.mem_append.1 mem with old | last
        · exact digits c old
        · rw [List.mem_singleton.1 last, Nat.isDigit_digitChar]
          simpa using small
      · rw [number_concat, value, Nat.toNat_digitChar_of_lt_ten small]
        simp
  · rintro ⟨nonempty, digits, rfl⟩
    induction t using List.reverseRecOn with
    | nil => exact absurd rfl nonempty
    | append_singleton t c ih =>
      obtain ⟨small, same⟩ := digitChar_of_isDigit (digits c (by simp))
      rw [number_concat]
      by_cases first : t = []
      · subst first
        have := StandsFor.digit small
        rw [same] at this
        simpa [number, Nat.ofDigitChars_nil] using this
      · have before : StandsFor t (number t) := ih first fun d mem => digits d (by simp [mem])
        have := before.more small
        rwa [same] at this

theorem StandsFor.ne_plus {digits : Text} {v : Nat} : ¬ StandsFor ('+' :: digits) v := by
  intro h
  have := (standsFor_iff.1 h).2.1 '+' (by simp)
  cases this

/-- What is read as a number, and which one. -/
theorem natural?_eq_some_iff {t : Text} {v : Nat} : natural? t = some v ↔ Numeral t v := by
  have read (digits : Text) :
      (if !digits.isEmpty && digits.all Char.isDigit then some (number digits) else none) = some v ↔
        StandsFor digits v := by
    simp [standsFor_iff, and_assoc]
  unfold natural? Numeral
  split
  · next rest =>
    rw [read]
    constructor
    · intro h
      exact .inr ⟨rest, rfl, h⟩
    · rintro (h | ⟨digits, same, h⟩)
      · exact absurd h StandsFor.ne_plus
      · cases same
        exact h
  · next unsigned =>
    rw [read]
    constructor
    · exact .inl
    · rintro (h | ⟨digits, rfl, h⟩)
      · exact h
      · exact absurd rfl (unsigned digits)

theorem text_injective : Function.Injective text := by
  intro a b same
  rw [← number_text a, same, number_text]

theorem standsFor_text (v : Nat) : StandsFor (text v) v := by
  refine standsFor_iff.2 ⟨Nat.toDigits_ne_nil, fun c => isDigit_of_mem_text, number_text v⟩

theorem head?_text {v : Nat} (positive : 0 < v) : (text v).head? ≠ some '0' := by
  induction v using Nat.strongRecOn with
  | ind v ih =>
    rw [text, Nat.toDigits_eq_if (by decide)]
    split
    · simp
      omega
    · have shorter : (text (v / 10)).head? ≠ some '0' := ih (v / 10) (by omega) (by omega)
      rwa [List.head?_append_of_ne_nil _ Nat.toDigits_ne_nil]

theorem StandsFor.ne_nil {t : Text} {v : Nat} (h : StandsFor t v) : t ≠ [] :=
  (standsFor_iff.1 h).1

/-- Digits without needless zeros are the written form of their number. -/
theorem StandsFor.eq_text {t : Text} {v : Nat} (h : StandsFor t v) (short : NoNeedlessZero t) :
    t = text v := by
  induction h with
  | digit small => rw [text, Nat.toDigits_of_lt_base small]
  | @more t v d before small ih =>
    have nonzero : t.head? ≠ some '0' := by
      intro zero
      have whole := short (by rw [List.head?_append_of_ne_nil _ before.ne_nil, zero])
      have := congrArg List.length whole
      have := List.length_pos_iff.2 before.ne_nil
      simp only [List.length_append, List.length_singleton] at *
      omega
    have written : t = text v := ih fun zero => absurd zero nonzero
    have positive : 0 < v := by
      refine Nat.pos_of_ne_zero ?_
      rintro rfl
      exact nonzero (by rw [written]; rfl)
    rw [written, text, text, ← Nat.toDigits_of_lt_base small,
      Nat.toDigits_append_toDigits (by decide) positive small]

/-- The written form of a number is the one that has no needless zeros. -/
theorem eq_text_iff {t : Text} {v : Nat} : t = text v ↔ StandsFor t v ∧ NoNeedlessZero t := by
  constructor
  · rintro rfl
    refine ⟨standsFor_text v, fun zero => ?_⟩
    rcases Nat.eq_zero_or_pos v with rfl | positive
    · rfl
    · exact absurd zero (head?_text positive)
  · rintro ⟨digits, short⟩
    exact digits.eq_text short

end Decimal

namespace Template

variable {c : Captures} {name value : Text}

theorem lookupCaptures_eq_some_iff :
    lookupCaptures c name = some value ↔ ∃ v, Decimal.Numeral name v ∧ c.get? v = some value := by
  simp [lookupCaptures, Option.bind_eq_some_iff, Decimal.natural?_eq_some_iff]

theorem nodup_keys_toMap (c : Captures) : (c.toMap.map Prod.fst).Nodup := by
  have keys : c.toMap.map Prod.fst = (List.range' 0 c.size).map Decimal.text := by
    rw [Captures.toMap, List.mapIdx_eq_zipIdx_map, List.map_map, Captures.size,
      ← List.zipIdx_map_snd, List.map_map]
    rfl
  rw [keys]
  exact List.Nodup.map Decimal.text_injective List.nodup_range'

/-- The map has one entry for a position, so the first one decides. -/
theorem lookup_toMap_eq_some_iff :
    lookupPairs c.toMap name = some value ↔ ∃ v, name = Decimal.text v ∧ c.get? v = some value := by
  have entry (pair : Text × Text) :
      pair ∈ c.toMap ↔ ∃ v, pair.1 = Decimal.text v ∧ c.get? v = some pair.2 := by
    simp only [Captures.toMap, List.mem_mapIdx, Captures.get?, List.getElem?_eq_some_iff]
    constructor
    · rintro ⟨v, bound, rfl⟩
      exact ⟨v, rfl, bound, rfl⟩
    · rintro ⟨v, key, bound, held⟩
      exact ⟨v, bound, Prod.ext key.symm held⟩
  rw [lookupPairs_eq_some_iff]
  constructor
  · rintro ⟨before, after, whole, -⟩
    exact (entry (name, value)).1 (by simp [whole])
  · rintro named
    obtain ⟨before, after, whole⟩ := List.append_of_mem ((entry (name, value)).2 named)
    refine ⟨before, after, whole, fun pair mem same => ?_⟩
    have keys := nodup_keys_toMap c
    rw [whole, List.map_append, List.nodup_append] at keys
    exact keys.2.2 _ (List.mem_map_of_mem mem) _ (by simp) same

/-- Look-ups that agree on the names a template has placeholders for give the same text. -/
theorem render_congr {lookup other : Text → Option Text} {t : Text}
    (agree : ∀ i name, Placeholder t i name → lookup name = other name) :
    render lookup t = render other t := by
  induction t using induction_known lookup with
  | nil => rw [render_nil, render_nil]
  | known name value after free found ih =>
    have first : Placeholder ('{' :: (name ++ '}' :: after)) 0 name :=
      Placeholder.zero_iff.2 ⟨rfl, free, after, rfl⟩
    have also : other name = some value := by rw [← agree 0 name first, found]
    have behind (i : Nat) (m : Text) (h : Placeholder after i m) : lookup m = other m := by
      refine agree (('{' :: (name ++ ['}'])).length + i) m ?_
      have := (Placeholder.append_iff ('{' :: (name ++ ['}']))).2 h
      simpa using this
    rw [render_known free found, render_known free also, ih behind]
  | other c t unknown ih =>
    have also (name : Text) (h : Placeholder (c :: t) 0 name) : other name = none := by
      rw [← agree 0 name h, unknown name h]
    rw [render_cons unknown, render_cons also, ih fun i name h => agree (i + 1) name h]

/-- A name in its shortest form, if it is a number at all, means the same to both look-ups. -/
theorem lookupCaptures_eq_toMap
    (short : ∀ v, Decimal.Numeral name v → name.head? ≠ some '+' ∧ Decimal.NoNeedlessZero name) :
    lookupCaptures c name = lookupPairs c.toMap name := by
  ext value
  rw [lookupCaptures_eq_some_iff, lookup_toMap_eq_some_iff]
  constructor
  · rintro ⟨v, numeral, held⟩
    obtain ⟨unsigned, noZero⟩ := short v numeral
    rcases numeral with digits | ⟨digits, rfl, -⟩
    · exact ⟨v, digits.eq_text noZero, held⟩
    · exact absurd rfl unsigned
  · rintro ⟨v, rfl, held⟩
    exact ⟨v, .inl (Decimal.standsFor_text v), held⟩

/-- A name stands for a capture if it is a number that is a position, and then for the one at this
position, however wide the numbers are that can be read; the map of captures has it under the digits
of the position. So a template in which no number is written with a plus sign or needless zeros
becomes the same text with the captures and with their map. -/
theorem lookup_positions (c : Captures) :
    (∀ name, (lookupCaptures c name).isSome ↔ ∃ v, Decimal.Numeral name v ∧ v < c.size) ∧
    (∀ name v, Decimal.Numeral name v → lookupCaptures c name = c.get? v) ∧
    (∀ name bound, c.size ≤ bound →
      ((Decimal.natural? name).filter (· < bound)).bind c.get? = lookupCaptures c name) ∧
    (∀ v, lookupPairs c.toMap (Decimal.text v) = c.get? v) ∧
    (∀ name v, name = Decimal.text v ↔ Decimal.StandsFor name v ∧ Decimal.NoNeedlessZero name) ∧
    c.toMap.length = c.size ∧ (c.toMap.map Prod.fst).Nodup ∧
    ∀ t, (∀ i name v, Placeholder t i name → Decimal.Numeral name v →
        name.head? ≠ some '+' ∧ Decimal.NoNeedlessZero name) →
      render (lookupCaptures c) t = render (lookupPairs c.toMap) t := by
  refine ⟨fun name => ?_, fun name v numeral => ?_, fun name bound enough => ?_, fun v => ?_,
    fun name v => Decimal.eq_text_iff, c.length_toMap, nodup_keys_toMap c, fun t short => ?_⟩
  · simp only [Option.isSome_iff_exists, lookupCaptures_eq_some_iff, Captures.get?,
      List.getElem?_eq_some_iff]
    constructor
    · rintro ⟨value, v, numeral, bound, -⟩
      exact ⟨v, numeral, bound⟩
    · rintro ⟨v, numeral, bound⟩
      exact ⟨c.items[v], v, numeral, bound, rfl⟩
  · rw [lookupCaptures, Decimal.natural?_eq_some_iff.2 numeral, Option.bind_some]
  · rw [lookupCaptures]
    cases Decimal.natural? name with
    | none => rfl
    | some v =>
      by_cases fits : v < bound
      · simp [Option.filter, fits]
      · have beyond : c.get? v = none := by
          rw [Captures.get?, List.getElem?_eq_none_iff]
          exact Nat.le_trans enough (Nat.le_of_not_lt fits)
        simp [Option.filter, fits, beyond]
  · ext value
    rw [lookup_toMap_eq_some_iff]
    constructor
    · rintro ⟨w, same, held⟩
      rwa [Decimal.text_injective same]
    · intro held
      exact ⟨v, rfl, held⟩
  · exact render_congr fun i name here => lookupCaptures_eq_toMap fun v => short i name v here

/-- A placeholder without needless zeros among braces that are none. -/
theorem lookup_positions_braces :
    let c : Captures := ⟨"a/b".toList, ["a".toList, "b".toList]⟩
    let t := "\x7b2\x7d.\x7b\x7b1\x7d\x7bx\x7d\x7b9\x7d".toList
    c.size ≤ 2 ^ 64 ∧
      (∀ i name v, Placeholder t i name → Decimal.Numeral name v →
        name.head? ≠ some '+' ∧ Decimal.NoNeedlessZero name) ∧
      ((Decimal.natural? "12".toList).filter (· < 2 ^ 64)).bind c.get? =
        lookupCaptures c "12".toList ∧
      render (lookupCaptures c) t = render (lookupPairs c.toMap) t := by
  intro c t
  have enough : c.size ≤ 2 ^ 64 := by decide
  have short (i : Nat) (name : Text) (v : Nat) (here : Placeholder t i name)
      (_ : Decimal.Numeral name v) : name.head? ≠ some '+' ∧ Decimal.NoNeedlessZero name := by
    -- The template has neither a plus sign nor a zero.
    have inside : ∀ d ∈ name, d ∈ t := by
      intro d mem
      exact List.mem_of_mem_drop (here.2.subset (by simp [mem]))
    constructor
    · intro plus
      exact absurd (inside '+' (List.mem_of_mem_head? plus)) (by decide)
    · intro zero
      exact absurd (inside '0' (List.mem_of_mem_head? zero)) (by decide)
  obtain ⟨-, -, bounded, -, -, -, -, rendered⟩ := lookup_positions c
  exact ⟨enough, short, bounded _ _ enough, rendered t short⟩

end Template

end PathGlob
