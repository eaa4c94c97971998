import PathGlob.Token

namespace PathGlob.Token

/-- `Reads raw ts`: the text `raw`, from left to right, says the tokens `ts`. -/
inductive Reads : Text → List Token → Prop where
  | nil : Reads [] []
  /-- One star, where no other follows. -/
  | one {rest ts} : rest.head? ≠ some '*' → Reads rest ts → Reads ('*' :: rest) (.one :: ts)
  /-- Two stars or more, as many as there are. -/
  | many {rest ts} (n : Nat) : rest.head? ≠ some '*' → Reads rest ts →
      Reads (List.replicate (n + 2) '*' ++ rest) (.many :: ts)
  | escape {c rest ts} : isSpecial c → Reads rest ts → Reads ('\\' :: c :: rest) (.lit c :: ts)
  | pair {c rest ts} : ¬ isSpecial c → Reads rest ts →
      Reads ('\\' :: c :: rest) (.lit '\\' :: .lit c :: ts)
  | last : Reads ['\\'] [.lit '\\']
  | plain {c rest ts} : ¬ isSpecial c → Reads rest ts → Reads (c :: rest) (.lit c :: ts)

theorem isSpecial_iff {c : Char} : isSpecial c ↔ c = '*' ∨ c = '\\' := by
  simp [isSpecial]

/-- A text is plain if it has no star and no backslash. -/
theorem plain_iff {t : Text} : (∀ c ∈ t, ¬ isSpecial c) ↔ '*' ∉ t ∧ '\\' ∉ t := by
  constructor
  · exact fun plain => ⟨fun mem => plain _ mem rfl, fun mem => plain _ mem rfl⟩
  · rintro ⟨star, backslash⟩ c mem special
    rcases isSpecial_iff.1 special with rfl | rfl
    · exact star mem
    · exact backslash mem

theorem scan_star {rest : Text} (h : rest.head? ≠ some '*') :
    scan ('*' :: rest) = .one :: scan rest := by
  rw [scan, if_neg h]

/-- However long a run of stars is, from two on it is one token. -/
theorem scan_stars (n : Nat) {rest : Text} (h : rest.head? ≠ some '*') :
    scan (List.replicate (n + 2) '*' ++ rest) = .many :: scan rest := by
  induction n with
  | zero =>
    change scan ('*' :: '*' :: rest) = _
    rw [scan, if_pos (by rfl), scan_star h, List.tail_cons]
  | succ n ih =>
    change scan ('*' :: (List.replicate (n + 2) '*' ++ rest)) = _
    rw [scan, if_pos (by simp [List.replicate_succ]), ih, List.tail_cons]

theorem scan_of_reads {raw : Text} {ts : List Token} (h : Reads raw ts) : scan raw = ts := by
  induction h with
  | nil => rfl
  | one head _ ih => rw [scan_star head, ih]
  | many n head _ ih => rw [scan_stars n head, ih]
  | escape special _ ih => rw [scan, if_pos (isSpecial_iff.1 special), ih]
  | pair plain _ ih => rw [scan, if_neg (mt isSpecial_iff.2 plain), ih]
  | last => rfl
  | plain plain _ ih => rw [scan_of_not_special plain, ih]

theorem Reads.star {rest : Text} {ts : List Token} (h : Reads ('*' :: rest) ts) :
    Reads ('*' :: '*' :: rest) (.many :: ts.tail) := by
  generalize run : '*' :: rest = raw at h
  cases h with
  | nil => cases run
  | one head later =>
    cases run
    exact .many 0 head later
  | many n head later => exact .many (n + 1) head later
  | escape | pair | last => exact absurd (List.cons.inj run).1 (by decide)
  | plain plain => exact absurd (isSpecial_iff.2 (.inl (List.cons.inj run).1.symm)) plain

theorem reads_scan (raw : Text) : Reads raw (scan raw) := by
  fun_induction scan raw with
  | case1 => exact .nil
  | case2 rest h ih =>
    cases rest with
    | nil => simp at h
    | cons c rest =>
      obtain rfl : c = '*' := by simpa using h
      exact ih.star
  | case3 rest h ih => exact .one h ih
  | case4 => exact .last
  | case5 c rest h ih => exact .escape (isSpecial_iff.2 h) ih
  | case6 c rest h ih => exact .pair (mt isSpecial_iff.1 h) ih
  | case7 c rest not_star not_last not_escape ih =>
    refine .plain ?_ ih
    rw [isSpecial_iff]
    rintro (rfl | rfl)
    · exact not_star rfl
    · cases rest with
      | nil => exact not_last rfl rfl
      | cons d rest => exact not_escape d rest rfl rfl

/-- Every text has exactly one reading, the one that scanning finds. -/
theorem reads_iff {raw : Text} {ts : List Token} : Reads raw ts ↔ ts = scan raw := by
  constructor
  · intro h
    exact (scan_of_reads h).symm
  · rintro rfl
    exact reads_scan raw

end PathGlob.Token
