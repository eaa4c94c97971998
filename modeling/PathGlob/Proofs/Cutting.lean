import PathGlob.Proofs.ByteCuts
import PathGlob.Proofs.Length

/-!
# Where a pattern is cut

A pattern is cut by looking for its last star or backslash from the right, and is read from the
left. Both agree: no run of stars and no backslash with the character behind it lies across a cut
(`stars_inside`, `pair_inside`), because all stars and backslashes are between the cuts
(`isSpecial_inside`), and a backslash that is the last of them has taken in what stands behind it
(`trail_eq_nil`). What is between the cuts decides how the pattern is matched, and that can be told
from the pattern by counting its stars (`kind_compile_iff`).
-/

namespace PathGlob

namespace Split

variable {raw : Text} {s : Split}

theorem lead_eq (cut : ofPattern? raw = some s) :
    s.lead = raw.takeWhile (!Token.isSpecial ·) := by
  simp only [ofPattern?] at cut
  split at cut
  · cases cut
  · cases cut
    exact closeEscape_lead _ _ _

/-- The text in front is the longest that a pattern begins with and that is plain. -/
theorem prefix_lead_iff (cut : ofPattern? raw = some s) (u : Text) :
    u <+: s.lead ↔ u <+: raw ∧ ∀ c ∈ u, ¬ Token.isSpecial c := by
  have plain := (plain_of_ofPattern? cut).1
  constructor
  · intro front
    refine ⟨front.trans ?_, fun c mem => plain c (front.subset mem)⟩
    rw [lead_eq cut]
    exact List.takeWhile_prefix _
  · rintro ⟨⟨rest, rfl⟩, plain⟩
    have passed : ∀ c ∈ u, (!Token.isSpecial c) = true := by simpa using plain
    rw [lead_eq cut, List.takeWhile_append_of_pos passed]
    exact List.prefix_append _ _

theorem isSpecial_inside (cut : ofPattern? raw = some s) {i : Nat} {c : Char}
    (here : raw[i]? = some c) (special : Token.isSpecial c) :
    s.lead.length ≤ i ∧ i < (s.lead ++ s.segment).length := by
  obtain ⟨lead, trail⟩ := plain_of_ofPattern? cut
  rw [← append_of_ofPattern? cut] at here
  constructor
  · apply Nat.le_of_not_lt
    intro early
    rw [List.append_assoc, List.getElem?_append_left (by omega)] at here
    exact lead c (List.mem_of_getElem? here) special
  · apply Nat.lt_of_not_le
    intro late
    rw [List.getElem?_append_right (by omega)] at here
    exact trail c (List.mem_of_getElem? here) special

theorem trail_eq_nil (cut : ofPattern? raw = some s) (last : s.segment.getLast? = some '\\') :
    s.trail = [] := by
  obtain ⟨lead, segment, trail, -, -, plain, -, -, rfl⟩ := exists_cut cut
  cases trail with
  | nil => simp [closeEscape]
  | cons c rest =>
    by_cases escape : segment.getLast? = some '\\'
    · rw [closeEscape_of_backslash lead c rest escape, List.getLast?_concat, Option.some_inj]
        at last
      exact absurd (last ▸ rfl) (plain c (by simp))
    · rw [closeEscape_of_not_backslash lead _ escape] at last
      exact absurd last escape

/-- No cut parts a backslash from the character behind it. -/
theorem pair_inside (cut : ofPattern? raw = some s) {before after : Text} {c : Char}
    (here : raw = before ++ '\\' :: c :: after) :
    s.lead.length ≤ before.length ∧ before.length + 2 ≤ (s.lead ++ s.segment).length := by
  have found : raw[before.length]? = some '\\' := by simp [here]
  obtain ⟨low, high⟩ := isSpecial_inside cut found rfl
  refine ⟨low, ?_⟩
  apply Nat.le_of_not_lt
  intro short
  have parts := append_of_ofPattern? cut
  rw [List.length_append] at high short
  have last : s.segment.getLast? = some '\\' := by
    rw [← parts, List.append_assoc, List.getElem?_append_right low,
      List.getElem?_append_left (by omega)] at found
    rw [List.getLast?_eq_getElem?, ← found]
    congr 1
    omega
  have nothing := trail_eq_nil cut last
  have size := congrArg List.length (parts.trans here)
  simp only [nothing, List.length_append, List.length_cons, List.length_nil] at size
  omega

/-- No cut parts stars that stand together. -/
theorem stars_inside (cut : ofPattern? raw = some s) {before after : Text} {k : Nat}
    (pos : 0 < k) (here : raw = before ++ List.replicate k '*' ++ after) :
    s.lead.length ≤ before.length ∧ before.length + k ≤ (s.lead ++ s.segment).length := by
  have star {i : Nat} (inside : i < k) : raw[before.length + i]? = some '*' := by
    rw [here, List.append_assoc, List.getElem?_append_right (by omega),
      List.getElem?_append_left (by simpa using inside), List.getElem?_replicate,
      if_pos (by omega)]
  have first := isSpecial_inside cut (star pos) rfl
  have last := isSpecial_inside cut (star (i := k - 1) (by omega)) rfl
  omega

/-- Nothing but a run of stars is between the cuts exactly if there is no backslash and the run
holds all the stars. -/
theorem segment_eq_stars_iff (raw : Text) {k : Nat} (pos : 0 < k) :
    (∃ s, ofPattern? raw = some s ∧ s.segment = List.replicate k '*') ↔
      '\\' ∉ raw ∧ raw.count '*' = k ∧ List.replicate k '*' <:+: raw := by
  constructor
  · rintro ⟨s, cut, stars⟩
    obtain ⟨lead, trail⟩ := plain_of_ofPattern? cut
    have lead := Token.plain_iff.1 lead
    have trail := Token.plain_iff.1 trail
    have parts := append_of_ofPattern? cut
    rw [stars] at parts
    refine ⟨?_, ?_, s.lead, s.trail, parts⟩
    · rw [← parts]
      simp [lead.2, trail.2]
    · rw [← parts, List.count_append, List.count_append, List.count_replicate_self,
        List.count_eq_zero_of_not_mem lead.1, List.count_eq_zero_of_not_mem trail.1]
      omega
  · rintro ⟨backslash, count, before, after, rfl⟩
    rw [List.count_append, List.count_append, List.count_replicate_self] at count
    have front : '*' ∉ before := List.count_eq_zero.1 (by omega)
    have back : '*' ∉ after := List.count_eq_zero.1 (by omega)
    have front := Token.plain_iff.2 ⟨front, fun mem => backslash (by simp [mem])⟩
    have back := Token.plain_iff.2 ⟨back, fun mem => backslash (by simp [mem])⟩
    obtain ⟨n, rfl⟩ := Nat.exists_eq_succ_of_ne_zero (Nat.ne_of_gt pos)
    exact ⟨_, ofPattern?_run front back n, rfl⟩

end Split

namespace Pattern

/-- The class of a pattern can be told by its stars and backslashes. -/
theorem kind_compile_iff (raw : Text) :
    ((compile raw).kind = .constant ↔ '*' ∉ raw ∧ '\\' ∉ raw) ∧
      ((compile raw).kind = .singleStar ↔ '\\' ∉ raw ∧ raw.count '*' = 1) ∧
      ((compile raw).kind = .doubleStar ↔
        '\\' ∉ raw ∧ raw.count '*' = 2 ∧ ['*', '*'] <:+: raw) := by
  have one_star : '\\' ∉ raw ∧ raw.count '*' = 1 ↔
      ∃ s, Split.ofPattern? raw = some s ∧ s.segment = ['*'] := by
    rw [show ['*'] = List.replicate 1 '*' from rfl, Split.segment_eq_stars_iff raw (by omega)]
    refine ⟨fun ⟨backslash, count⟩ => ⟨backslash, count, ?_⟩, fun ⟨backslash, count, _⟩ =>
      ⟨backslash, count⟩⟩
    obtain ⟨before, after, rfl⟩ :=
      List.append_of_mem (List.count_pos_iff.1 (show 0 < raw.count '*' by omega))
    exact ⟨before, after, by simp⟩
  have two_stars := Split.segment_eq_stars_iff raw (k := 2) (by omega)
  rw [one_star, show ['*', '*'] = List.replicate 2 '*' from rfl, ← two_stars]
  cases cut : Split.ofPattern? raw with
  | none =>
    have plain := Token.plain_iff.1 (Split.ofPattern?_eq_none_iff.1 cut)
    rw [compile_of_uncut cut]
    simp [kind, plain]
  | some s =>
    have special : ¬ ('*' ∉ raw ∧ '\\' ∉ raw) := by
      intro plain
      rw [Split.ofPattern?_eq_none_iff.2 (Token.plain_iff.2 plain)] at cut
      cases cut
    obtain ⟨-, -, -, kind_eq⟩ := compile_of_cut cut
    rw [kind_eq]
    simp only [Option.some.injEq, exists_eq_left', special, iff_false]
    by_cases single : s.segment = ['*']
    · simp [single]
    · by_cases double : s.segment = ['*', '*']
      · simp [double]
      · simp [single, double]

/-- A pattern without stars and backslashes is not cut. Any other is cut in two places, each between
two characters, also when the places are sought among its bytes. What is in front is the longest
plain text that the pattern begins with, what is behind is plain too, and the tokens of the pattern
are these texts and between them the tokens of the middle: no run of stars and no backslash with the
character behind it is cut apart. Hence one star that is all there is makes a pattern of the second
class and two that stand together one of the third; without any it is of the first class, and in all
other cases of the last. -/
theorem cut_and_kind (raw : Text) :
    (Split.ofPattern? raw = none ↔ '*' ∉ raw ∧ '\\' ∉ raw) ∧
      Split.ofBytes? raw = some (Split.ofPattern? raw) ∧
      (∀ s, Split.ofPattern? raw = some s →
        s.lead ++ s.segment ++ s.trail = raw ∧
          (∀ u, u <+: s.lead ↔ u <+: raw ∧ '*' ∉ u ∧ '\\' ∉ u) ∧
          ('*' ∉ s.trail ∧ '\\' ∉ s.trail) ∧
          Token.scan raw =
            Token.literals s.lead ++ Token.scan s.segment ++ Token.literals s.trail ∧
          (∀ before c after, raw = before ++ '\\' :: c :: after →
            s.lead.length ≤ before.length ∧ before.length + 2 ≤ (s.lead ++ s.segment).length) ∧
          ∀ before k after, 0 < k → raw = before ++ List.replicate k '*' ++ after →
            s.lead.length ≤ before.length ∧ before.length + k ≤ (s.lead ++ s.segment).length) ∧
      let constant := '*' ∉ raw ∧ '\\' ∉ raw
      let single := '\\' ∉ raw ∧ raw.count '*' = 1
      let double := '\\' ∉ raw ∧ raw.count '*' = 2 ∧ ['*', '*'] <:+: raw
      ((compile raw).kind = .constant ↔ constant) ∧ ((compile raw).kind = .singleStar ↔ single) ∧
        ((compile raw).kind = .doubleStar ↔ double) ∧
        ((compile raw).kind = .complex ↔ ¬ constant ∧ ¬ single ∧ ¬ double) := by
  refine ⟨Split.ofPattern?_eq_none_iff.trans Token.plain_iff, Split.ofBytes?_eq raw, ?_, ?_⟩
  · intro s cut
    refine ⟨Split.append_of_ofPattern? cut, fun u => ?_,
      Token.plain_iff.1 (Split.plain_of_ofPattern? cut).2, Split.scan_of_ofPattern? cut,
      fun before c after here => Split.pair_inside cut here,
      fun before k after pos here => Split.stars_inside cut pos here⟩
    rw [Split.prefix_lead_iff cut, Token.plain_iff]
  · intro constant single double
    obtain ⟨is_constant, is_single, is_double⟩ :
        ((compile raw).kind = .constant ↔ constant) ∧
          ((compile raw).kind = .singleStar ↔ single) ∧
          ((compile raw).kind = .doubleStar ↔ double) := kind_compile_iff raw
    refine ⟨is_constant, is_single, is_double, ?_⟩
    rw [← is_constant, ← is_single, ← is_double]
    cases (compile raw).kind <;> simp

end Pattern

end PathGlob
