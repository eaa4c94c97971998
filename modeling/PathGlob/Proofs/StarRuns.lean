import PathGlob.Proofs.Meaning

/-!
# Runs of stars

Wherever a pattern has a wildcard, a run of stars stands in its text (`exists_run`). How long the
run is decides about that one wildcard and nothing else (`Run.scan_eq`): reading comes to the run
past what stands before it, and `Passes` says of this text what it says, given what follows. So a
run of two stars or more may be cut to two or drawn out without a trace in the captures, whichever
way of matching the pattern is given. Drawing out a single star only adds matches, since a wildcard
across segments can spell whatever one within a segment can (`Spells.widen`).
-/

namespace PathGlob

namespace Token

/-- `Passes before ts rest`: reading `before ++ rest` from left to right comes to `rest`, and what
it has passed says the tokens `ts`. -/
inductive Passes : Text → List Token → Text → Prop where
  | nil {rest} : Passes [] [] rest
  | one {before ts rest} : (before ++ rest).head? ≠ some '*' → Passes before ts rest →
      Passes ('*' :: before) (.one :: ts) rest
  | many {before ts rest} (n : Nat) : (before ++ rest).head? ≠ some '*' → Passes before ts rest →
      Passes (List.replicate (n + 2) '*' ++ before) (.many :: ts) rest
  | escape {c before ts rest} : isSpecial c → Passes before ts rest →
      Passes ('\\' :: c :: before) (.lit c :: ts) rest
  | pair {c before ts rest} : ¬ isSpecial c → Passes before ts rest →
      Passes ('\\' :: c :: before) (.lit '\\' :: .lit c :: ts) rest
  | plain {c before ts rest} : ¬ isSpecial c → Passes before ts rest →
      Passes (c :: before) (.lit c :: ts) rest

namespace Passes

variable {before rest : Text} {ts us : List Token}

/-- What was passed and what the rest says make up the reading. -/
theorem finish (passed : Passes before ts rest) (later : Reads rest us) :
    Reads (before ++ rest) (ts ++ us) := by
  induction passed with
  | nil => exact later
  | one head _ ih => exact .one head (ih later)
  | many n head _ ih =>
    rw [List.append_assoc]
    exact .many n head (ih later)
  | escape special _ ih => exact .escape special (ih later)
  | pair plain _ ih => exact .pair plain (ih later)
  | plain plain _ ih => exact .plain plain (ih later)

/-- Of the rest only the first character matters, and that only where a star stands before it. -/
theorem congr {other : Text} (passed : Passes before ts rest) (same : rest.head? = other.head?) :
    Passes before ts other := by
  have head (t : Text) : (t ++ rest).head? = (t ++ other).head? := by
    rw [List.head?_append, List.head?_append, same]
  induction passed with
  | nil => exact .nil
  | one stop _ ih => exact .one (by rwa [← head]) (ih same head)
  | many n stop _ ih => exact .many n (by rwa [← head]) (ih same head)
  | escape special _ ih => exact .escape special (ih same head)
  | pair plain _ ih => exact .pair plain (ih same head)
  | plain plain _ ih => exact .plain plain (ih same head)

end Passes

/-- `Run before k after`: where `k` stars stand between `before` and `after`, they are the whole run
of one wildcard. Reading comes to the first of them, none of them is escaped, and no star is next to
them. -/
structure Run (before : Text) (k : Nat) (after : Text) : Prop where
  pos : 0 < k
  passed : ∃ ts, Passes before ts (List.replicate k '*' ++ after)
  whole : after.head? ≠ some '*'

def ofStars (k : Nat) : Token :=
  if k = 1 then .one else .many

namespace Run

variable {before after : Text} {k : Nat}

/-- However many stars follow, the text before them is passed in the same way. -/
theorem passes_resize {ts : List Token} {j : Nat} (some_stars : 0 < k) (pos : 0 < j)
    (passed : Passes before ts (List.replicate k '*' ++ after)) :
    Passes before ts (List.replicate j '*' ++ after) := by
  apply passed.congr
  obtain ⟨n, rfl⟩ := Nat.exists_eq_succ_of_ne_zero (Nat.ne_of_gt some_stars)
  obtain ⟨m, rfl⟩ := Nat.exists_eq_succ_of_ne_zero (Nat.ne_of_gt pos)
  rfl

theorem reads (some_stars : 0 < k) (whole : after.head? ≠ some '*') :
    Reads (List.replicate k '*' ++ after) (ofStars k :: scan after) := by
  match k, some_stars with
  | 1, _ => exact .one whole (reads_scan after)
  | n + 2, _ => exact .many n whole (reads_scan after)

/-- The length of a run decides about one token, between tokens that do not depend on it. -/
theorem scan_eq (run : Run before k after) :
    ∃ us, ∀ j, 0 < j →
      scan (before ++ List.replicate j '*' ++ after) = us ++ ofStars j :: scan after := by
  obtain ⟨us, passed⟩ := run.passed
  refine ⟨us, fun j pos => ?_⟩
  have reading := (passes_resize run.pos pos passed).finish (reads pos run.whole)
  rw [List.append_assoc]
  exact scan_of_reads reading

end Run

theorem lit_cons_eq_append {c : Char} {ts us vs : List Token} {w : Token} (wild : w.isWild)
    (parts : .lit c :: ts = us ++ w :: vs) :
    ∃ rest, us = .lit c :: rest ∧ ts = rest ++ w :: vs := by
  cases us with
  | nil =>
    obtain ⟨rfl, -⟩ := List.cons.inj parts
    cases wild
  | cons u us =>
    obtain ⟨rfl, later⟩ := List.cons.inj parts
    exact ⟨us, rfl, later⟩

/-- A reading can be interrupted before any wildcard. -/
theorem Reads.interrupt {raw : Text} {ts us vs : List Token} {w : Token} (h : Reads raw ts)
    (wild : w.isWild) (parts : ts = us ++ w :: vs) :
    ∃ before rest, raw = before ++ rest ∧ Passes before us rest ∧ Reads rest (w :: vs) := by
  induction h generalizing us with
  | nil => simp at parts
  | one head later ih =>
    cases us with
    | nil =>
      rw [List.nil_append] at parts
      exact ⟨[], _, rfl, .nil, by rw [← parts]; exact .one head later⟩
    | cons u us =>
      obtain ⟨rfl, behind⟩ := List.cons.inj parts
      obtain ⟨before, rest, rfl, passed, reading⟩ := ih behind
      exact ⟨'*' :: before, rest, rfl, .one head passed, reading⟩
  | many n head later ih =>
    cases us with
    | nil =>
      rw [List.nil_append] at parts
      exact ⟨[], _, rfl, .nil, by rw [← parts]; exact .many n head later⟩
    | cons u us =>
      obtain ⟨rfl, behind⟩ := List.cons.inj parts
      obtain ⟨before, rest, rfl, passed, reading⟩ := ih behind
      exact ⟨_, rest, (List.append_assoc _ _ _).symm, .many n head passed, reading⟩
  | escape special later ih =>
    obtain ⟨us, rfl, behind⟩ := lit_cons_eq_append wild parts
    obtain ⟨before, rest, rfl, passed, reading⟩ := ih behind
    exact ⟨_ :: _ :: before, rest, rfl, .escape special passed, reading⟩
  | pair plain later ih =>
    obtain ⟨_, rfl, second⟩ := lit_cons_eq_append wild parts
    obtain ⟨us, rfl, behind⟩ := lit_cons_eq_append wild second
    obtain ⟨before, rest, rfl, passed, reading⟩ := ih behind
    exact ⟨_ :: _ :: before, rest, rfl, .pair plain passed, reading⟩
  | last =>
    obtain ⟨us, rfl, behind⟩ := lit_cons_eq_append wild parts
    simp at behind
  | plain plain later ih =>
    obtain ⟨us, rfl, behind⟩ := lit_cons_eq_append wild parts
    obtain ⟨before, rest, rfl, passed, reading⟩ := ih behind
    exact ⟨_ :: before, rest, rfl, .plain plain passed, reading⟩

theorem Reads.stars {rest : Text} {vs : List Token} {w : Token} (h : Reads rest (w :: vs))
    (wild : w.isWild) :
    ∃ k after, rest = List.replicate k '*' ++ after ∧ 0 < k ∧ after.head? ≠ some '*' ∧
      w = ofStars k ∧ scan after = vs := by
  cases h with
  | one head later => exact ⟨1, _, rfl, by omega, head, rfl, scan_of_reads later⟩
  | many n head later => exact ⟨n + 2, _, rfl, by omega, head, rfl, scan_of_reads later⟩
  | escape | pair | last | plain => cases wild

/-- Wherever a wildcard stands among the tokens of a pattern, a run of stars stands in its text. -/
theorem exists_run {raw : Text} {us vs : List Token} {w : Token} (wild : w.isWild)
    (parts : scan raw = us ++ w :: vs) :
    ∃ before k after, raw = before ++ List.replicate k '*' ++ after ∧ Run before k after ∧
      w = ofStars k ∧ scan after = vs := by
  obtain ⟨before, rest, rfl, passed, reading⟩ := (reads_scan raw).interrupt wild parts
  obtain ⟨k, after, rfl, pos, whole, found, behind⟩ := reading.stars wild
  exact ⟨before, k, after, (List.append_assoc _ _ _).symm, ⟨pos, ⟨us, passed⟩, whole⟩, found,
    behind⟩

end Token

/-- What a wildcard within a segment can spell, one across segments can spell too. -/
theorem Spells.widen {us vs : List Token} {gs : List Text} {t : Text}
    (h : Spells (us ++ .one :: vs) gs t) : Spells (us ++ .many :: vs) gs t := by
  induction us generalizing gs t with
  | nil =>
    cases h with
    | one g _ later => exact .many g later
  | cons tok us ih =>
    cases h with
    | lit c later => exact .lit c (ih later)
    | one g within later => exact .one g within (ih later)
    | many g later => exact .many g (ih later)

theorem CanSpell.widen {us vs : List Token} {t : Text} (h : CanSpell (us ++ .one :: vs) t) :
    CanSpell (us ++ .many :: vs) t := by
  obtain ⟨gs, spelled⟩ := h
  exact ⟨gs, spelled.widen⟩

theorem Token.wildcards_widen (us vs : List Token) :
    wildcards (us ++ .many :: vs) = wildcards (us ++ .one :: vs) := by
  rw [wildcards, wildcards, List.countP_append, List.countP_append, List.countP_cons_of_pos rfl,
    List.countP_cons_of_pos rfl]

namespace Pattern

section Run

variable {before after : Text} {k j : Nat}

theorem captures_of_run (run : Token.Run before k after) (long : 2 ≤ k) (wide : 2 ≤ j) (t : Text) :
    (compile (before ++ List.replicate j '*' ++ after)).captures t =
      (compile (before ++ List.replicate k '*' ++ after)).captures t := by
  obtain ⟨us, reading⟩ := run.scan_eq
  have many {n : Nat} (long : 2 ≤ n) : Token.ofStars n = .many := if_neg (by omega)
  rw [captures_compile, captures_compile, reading k run.pos, reading j (by omega), many long,
    many wide]

/-- A single star and a run of two or more in its place say tokens that differ in one wildcard. -/
theorem scan_of_star (run : Token.Run before 1 after) (wide : 2 ≤ j) :
    ∃ us vs, Token.scan (before ++ List.replicate 1 '*' ++ after) = us ++ .one :: vs ∧
      Token.scan (before ++ List.replicate j '*' ++ after) = us ++ .many :: vs := by
  obtain ⟨us, reading⟩ := run.scan_eq
  have many : Token.ofStars j = .many := if_neg (by omega)
  exact ⟨us, Token.scan after, reading 1 run.pos, many ▸ reading j (by omega)⟩

theorem isMatch_of_star (run : Token.Run before 1 after) (wide : 2 ≤ j) {t : Text}
    (found : (compile (before ++ List.replicate 1 '*' ++ after)).isMatch t = true) :
    (compile (before ++ List.replicate j '*' ++ after)).isMatch t = true := by
  obtain ⟨us, vs, star, stars⟩ := scan_of_star run wide
  rw [isMatch_compile, star] at found
  rw [isMatch_compile, stars]
  exact found.widen

theorem size_of_star (run : Token.Run before 1 after) (wide : 2 ≤ j) {t u : Text} {c d : Captures}
    (found : (compile (before ++ List.replicate 1 '*' ++ after)).captures t = some c)
    (wide_found : (compile (before ++ List.replicate j '*' ++ after)).captures u = some d) :
    d.size = c.size := by
  obtain ⟨us, vs, star, stars⟩ := scan_of_star run wide
  rw [Captures.size_eq, Captures.size_eq, length_groups_of_captures found,
    length_groups_of_captures wide_found, star, stars, Token.wildcards_widen]

theorem captures_of_star (run : Token.Run before 1 after) (wide : 2 ≤ j) {t : Text} {c : Captures}
    (found : (compile (before ++ List.replicate 1 '*' ++ after)).captures t = some c) :
    ∃ d, (compile (before ++ List.replicate j '*' ++ after)).captures t = some d ∧
      d.size = c.size := by
  obtain ⟨us, vs, star, stars⟩ := scan_of_star run wide
  have spelled := (captures_isSome_iff _ t).1 (Option.isSome_of_eq_some found)
  rw [star] at spelled
  have wide_spelled := (captures_isSome_iff _ t).2 (stars ▸ spelled.widen)
  obtain ⟨d, wide_found⟩ := Option.isSome_iff_exists.1 wide_spelled
  exact ⟨d, wide_found, size_of_star run wide found wide_found⟩

end Run

/-- Every wildcard of a pattern is a run of stars in it. The length of a run of two stars or more
makes no difference to any capture. A single star that is made a run of two or more still matches
all that it matched, and as many captures come of it. -/
theorem captures_compile_run (raw : Text) :
    (∀ us w vs, w.isWild → Token.scan raw = us ++ w :: vs →
      ∃ before k after, raw = before ++ List.replicate k '*' ++ after ∧
        Token.Run before k after ∧ w = Token.ofStars k ∧ Token.scan after = vs) ∧
    ∀ before k after j, raw = before ++ List.replicate k '*' ++ after →
      Token.Run before k after → 2 ≤ j →
      let p := compile raw
      let q := compile (before ++ List.replicate j '*' ++ after)
      (2 ≤ k → ∀ t, q.captures t = p.captures t) ∧
        (k = 1 → (∀ t, p.isMatch t = true → q.isMatch t = true) ∧
          (∀ t c, p.captures t = some c → ∃ d, q.captures t = some d ∧ d.size = c.size) ∧
          ∀ t u c d, p.captures t = some c → q.captures u = some d → d.size = c.size) := by
  refine ⟨fun us w vs => Token.exists_run, ?_⟩
  rintro before k after j rfl run wide
  refine ⟨fun long => captures_of_run run long wide, ?_⟩
  rintro rfl
  exact ⟨fun t => isMatch_of_star run wide, fun t c => captures_of_star run wide,
    fun t u c d => size_of_star run wide⟩

/-- Making two stars three takes a pattern from one way of matching to another. Behind an escaped
star, which is no part of the run, one star is made two. -/
theorem captures_compile_run_escaped :
    Token.Run ['a'] 2 ['b'] ∧ Token.Run ['\\', '*'] 1 [] ∧
      (compile "a**b".toList).kind = .doubleStar ∧ (compile "a***b".toList).kind = .complex ∧
      (∀ t, (compile "a***b".toList).captures t = (compile "a**b".toList).captures t) ∧
      ∀ t, (compile "\\**".toList).isMatch t = true →
        (compile "\\***".toList).isMatch t = true := by
  have double : Token.Run ['a'] 2 ['b'] :=
    ⟨by decide, ⟨_, .plain (by decide) .nil⟩, by decide⟩
  have single : Token.Run ['\\', '*'] 1 [] :=
    ⟨by decide, ⟨_, .escape (by decide) .nil⟩, by decide⟩
  have cut_two : Split.ofPattern? "a**b".toList = some ⟨['a'], ['*', '*'], ['b']⟩ := by decide
  have cut_three : Split.ofPattern? "a***b".toList = some ⟨['a'], ['*', '*', '*'], ['b']⟩ := by
    decide
  obtain ⟨-, -, -, two_stars⟩ := compile_of_cut cut_two
  obtain ⟨-, -, -, three_stars⟩ := compile_of_cut cut_three
  exact ⟨double, single, two_stars, three_stars,
    ((captures_compile_run _).2 ['a'] 2 ['b'] 3 rfl double (by decide)).1 (by decide),
    (((captures_compile_run _).2 ['\\', '*'] 1 [] 2 rfl single (by decide)).2 rfl).1⟩

end Pattern

end PathGlob
