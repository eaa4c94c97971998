import PathGlob.Token

/-!
# The wildcard segment of a pattern

A pattern is cut into literal text in front, a segment that holds every star and backslash, and
literal text behind. The cuts never part a backslash from the character it stands before.

The parts make up the pattern (`append_of_ofPattern?`), its ends are plain (`plain_of_ofPattern?`),
and its tokens are those of the parts (`scan_of_ofPattern?`).
-/

namespace PathGlob

/-- A pattern in three parts: only the middle one holds stars and backslashes. -/
structure Split where
  lead : Text
  segment : Text
  trail : Text
  deriving DecidableEq, Repr

namespace Split

/-- Moves the first character behind a segment into it if the segment ends with a backslash. -/
def closeEscape (lead segment trail : Text) : Split :=
  match segment.getLast?, trail with
  | some '\\', c :: rest => ⟨lead, segment ++ [c], rest⟩
  | _, _ => ⟨lead, segment, trail⟩

/-- Cuts a pattern around the stretch from its first to its last star or backslash. A pattern
without either has no such stretch. -/
def ofPattern? (raw : Text) : Option Split :=
  let lead := raw.takeWhile (!Token.isSpecial ·)
  let rest := raw.dropWhile (!Token.isSpecial ·)
  if rest.isEmpty then none
  else
    let trail := (rest.reverse.takeWhile (!Token.isSpecial ·)).reverse
    let segment := (rest.reverse.dropWhile (!Token.isSpecial ·)).reverse
    some (closeEscape lead segment trail)

theorem closeEscape_append (lead segment trail : Text) :
    let s := closeEscape lead segment trail
    s.lead ++ s.segment ++ s.trail = lead ++ segment ++ trail := by
  unfold closeEscape
  split <;> simp

theorem closeEscape_of_backslash (lead : Text) {segment : Text} (c : Char) (rest : Text)
    (last : segment.getLast? = some '\\') :
    closeEscape lead segment (c :: rest) = ⟨lead, segment ++ [c], rest⟩ := by
  simp [closeEscape, last]

theorem closeEscape_of_not_backslash (lead : Text) {segment : Text} (trail : Text)
    (last : segment.getLast? ≠ some '\\') :
    closeEscape lead segment trail = ⟨lead, segment, trail⟩ := by
  simp [closeEscape, last]

theorem append_of_ofPattern? {raw : Text} {s : Split} (h : ofPattern? raw = some s) :
    s.lead ++ s.segment ++ s.trail = raw := by
  simp only [ofPattern?] at h
  split at h
  · cases h
  · cases h
    rw [closeEscape_append]
    have hr (l : Text) : (l.reverse.dropWhile (!Token.isSpecial ·)).reverse ++
        (l.reverse.takeWhile (!Token.isSpecial ·)).reverse = l := by
      rw [← List.reverse_append, List.takeWhile_append_dropWhile, List.reverse_reverse]
    rw [List.append_assoc, hr, List.takeWhile_append_dropWhile]

theorem not_special_of_mem_takeWhile {t : Text} {c : Char}
    (h : c ∈ t.takeWhile (!Token.isSpecial ·)) : ¬ Token.isSpecial c := by
  simpa using List.all_eq_true.1 (List.all_takeWhile (l := t)) c h

theorem closeEscape_plain {lead segment trail : Text}
    (h : ∀ c ∈ trail, ¬ Token.isSpecial c) :
    ∀ c ∈ (closeEscape lead segment trail).trail, ¬ Token.isSpecial c := by
  unfold closeEscape
  split
  · intro c hc
    exact h c (by simp [hc])
  · exact h

theorem closeEscape_lead (lead segment trail : Text) :
    (closeEscape lead segment trail).lead = lead := by
  unfold closeEscape
  split <;> rfl

/-- Only the middle part holds stars and backslashes. -/
theorem plain_of_ofPattern? {raw : Text} {s : Split} (h : ofPattern? raw = some s) :
    (∀ c ∈ s.lead, ¬ Token.isSpecial c) ∧ ∀ c ∈ s.trail, ¬ Token.isSpecial c := by
  simp only [ofPattern?] at h
  split at h
  · cases h
  · cases h
    constructor
    · rw [closeEscape_lead]
      exact fun c hc => not_special_of_mem_takeWhile hc
    · apply closeEscape_plain
      exact fun c hc => not_special_of_mem_takeWhile (List.mem_reverse.1 hc)

/-- No token reaches over a cut. -/
theorem scan_of_ofPattern? {raw : Text} {s : Split} (h : ofPattern? raw = some s) :
    Token.scan raw =
      Token.literals s.lead ++ Token.scan s.segment ++ Token.literals s.trail := by
  obtain ⟨lead, trail⟩ := plain_of_ofPattern? h
  rw [← append_of_ofPattern? h, Token.scan_append_plain trail, Token.scan_plain_append lead]

theorem ofPattern?_eq_none_iff {raw : Text} :
    ofPattern? raw = none ↔ ∀ c ∈ raw, ¬ Token.isSpecial c := by
  have : raw.dropWhile (!Token.isSpecial ·) = [] ↔ ∀ c ∈ raw, ¬ Token.isSpecial c := by
    induction raw with
    | nil => simp
    | cons c raw ih => by_cases h : Token.isSpecial c <;> simp [h, ih]
  simp [ofPattern?, this]

end Split

end PathGlob
