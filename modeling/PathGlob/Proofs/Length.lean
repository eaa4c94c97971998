import PathGlob.Proofs.Meaning

namespace PathGlob

namespace Text

theorem byteSize_eq_zero_iff {t : Text} : t.byteSize = 0 ↔ t = [] := by
  constructor
  · intro empty
    by_cases nonempty : t = []
    · exact nonempty
    · have := byteSize_pos nonempty
      omega
  · rintro rfl
    rfl

theorem byteSize_le_of_sublist {s t : Text} (h : s.Sublist t) : s.byteSize ≤ t.byteSize := by
  induction h with
  | slnil => exact Nat.le_refl _
  | cons c _ ih =>
    rw [byteSize_cons]
    omega
  | cons_cons c _ ih =>
    rw [byteSize_cons, byteSize_cons]
    omega

end Text

namespace Token

/-- The literals of a pattern are characters of it, in the same order. -/
theorem literalText_sublist {raw : Text} {ts : List Token} (h : Reads raw ts) :
    (literalText ts).Sublist raw := by
  induction h with
  | nil => exact .slnil
  | one _ _ ih => exact ih.cons _
  | many n _ _ ih => exact ih.trans (List.sublist_append_right _ _)
  | escape _ _ ih => exact (ih.cons_cons _).cons _
  | pair _ _ ih => exact (ih.cons_cons _).cons_cons _
  | last => exact .refl _
  | plain _ _ ih => exact ih.cons_cons _

/-- Only stars say nothing literally. -/
theorem literalText_eq_nil_iff {raw : Text} {ts : List Token} (h : Reads raw ts) :
    literalText ts = [] ↔ ∀ c ∈ raw, c = '*' := by
  induction h with
  | nil => simp
  | one _ _ ih => simpa using ih
  | many n _ _ ih =>
    simp only [literalText_many, ih, List.mem_append, List.mem_replicate]
    constructor
    · rintro stars c (⟨-, rfl⟩ | later)
      · rfl
      · exact stars c later
    · exact fun stars c later => stars c (.inr later)
  | escape | pair | last => simp
  | @plain c _ _ plain _ _ =>
    have : c ≠ '*' := by
      rintro rfl
      exact plain rfl
    simp [this]

theorem literalText_scan_eq_nil_iff {raw : Text} :
    literalText (scan raw) = [] ↔ ∀ c ∈ raw, c = '*' :=
  literalText_eq_nil_iff (reads_scan raw)

end Token

namespace Spells

variable {ts : List Token} {gs : List Text} {t : Text}

/-- A text is as long as the literals and the texts of the wildcards together. -/
theorem byteSize_eq (h : Spells ts gs t) :
    t.byteSize = (Token.literalText ts).byteSize + Text.byteSize gs.flatten := by
  induction h with
  | nil => rfl
  | lit c _ ih =>
    rw [Token.literalText_lit, Text.byteSize_cons, Text.byteSize_cons, ih]
    omega
  | one g _ _ ih =>
    rw [Token.literalText_one, Text.byteSize_append, ih, List.flatten_cons, Text.byteSize_append]
    omega
  | many g _ ih =>
    rw [Token.literalText_many, Text.byteSize_append, ih, List.flatten_cons, Text.byteSize_append]
    omega

/-- No text is shorter than the literals. -/
theorem byteSize_literalText_le (h : Spells ts gs t) :
    (Token.literalText ts).byteSize ≤ t.byteSize := by
  rw [h.byteSize_eq]
  exact Nat.le_add_right _ _

theorem literalText (ts : List Token) :
    Spells ts (List.replicate (Token.wildcards ts) []) (Token.literalText ts) := by
  induction ts with
  | nil => exact .nil
  | cons tok ts ih =>
    have wild (w : tok.isWild) : List.replicate (Token.wildcards (tok :: ts)) ([] : Text) =
        [] :: List.replicate (Token.wildcards ts) [] := by
      rw [Token.wildcards, List.countP_cons_of_pos w]
      rfl
    cases tok with
    | lit c => exact ih.lit c
    | one =>
      rw [wild rfl]
      exact .one [] (by simp) ih
    | many =>
      rw [wild rfl]
      exact .many [] ih

/-- A text that is no longer than the literals leaves nothing to any wildcard. -/
theorem eq_replicate_of_byteSize_le (h : Spells ts gs t)
    (short : t.byteSize ≤ (Token.literalText ts).byteSize) :
    gs = List.replicate (Token.wildcards ts) [] := by
  have sizes := h.byteSize_eq
  have nothing : gs.flatten = [] := by
    rw [← Text.byteSize_eq_zero_iff]
    omega
  rw [List.eq_replicate_iff]
  exact ⟨h.length_groups, List.flatten_eq_nil_iff.1 nothing⟩

end Spells

namespace Split

/-- Plain text ends where the first star or backslash stands. -/
theorem span_plain {lead : Text} (plain : ∀ c ∈ lead, ¬ Token.isSpecial c) {c : Char}
    (special : Token.isSpecial c) (t : Text) :
    (lead ++ c :: t).takeWhile (!Token.isSpecial ·) = lead ∧
      (lead ++ c :: t).dropWhile (!Token.isSpecial ·) = c :: t := by
  have passed : ∀ d ∈ lead, (!Token.isSpecial d) = true := by simpa using plain
  constructor
  · rw [List.takeWhile_append_of_pos passed, List.takeWhile_cons_of_neg (by simp [special]),
      List.append_nil]
  · rw [List.dropWhile_append_of_pos passed, List.dropWhile_cons_of_neg (by simp [special])]

theorem ofPattern?_run {lead trail : Text} (lead_plain : ∀ c ∈ lead, ¬ Token.isSpecial c)
    (trail_plain : ∀ c ∈ trail, ¬ Token.isSpecial c) (k : Nat) :
    ofPattern? (lead ++ List.replicate (k + 1) '*' ++ trail) =
      some ⟨lead, List.replicate (k + 1) '*', trail⟩ := by
  obtain ⟨front, rest⟩ := span_plain (c := '*') lead_plain rfl (List.replicate k '*' ++ trail)
  have backwards : ('*' :: (List.replicate k '*' ++ trail)).reverse =
      trail.reverse ++ '*' :: List.replicate k '*' := by
    rw [← List.replicate_succ, ← List.cons_append, ← List.replicate_succ, List.reverse_append,
      List.reverse_replicate]
  have reversed : ∀ c ∈ trail.reverse, ¬ Token.isSpecial c := by simpa using trail_plain
  obtain ⟨back, middle⟩ :=
    span_plain (c := '*') reversed rfl (List.replicate k '*')
  have whole : lead ++ List.replicate (k + 1) '*' ++ trail =
      lead ++ '*' :: (List.replicate k '*' ++ trail) := by
    simp [List.replicate_succ]
  have closed : closeEscape lead (List.replicate (k + 1) '*') trail =
      ⟨lead, List.replicate (k + 1) '*', trail⟩ := by
    apply closeEscape_of_not_backslash
    rw [List.getLast?_replicate]
    simp
  rw [whole]
  simp only [ofPattern?, front, rest, backwards, back, middle, List.isEmpty_cons]
  rw [← List.replicate_succ, List.reverse_reverse, List.reverse_replicate, closed]
  rfl

end Split

namespace Pattern

/-- The literals of a pattern are its ends and what is literal between them. -/
theorem byteSize_literals (raw : Text) :
    (Token.literalText (Token.scan raw)).byteSize =
      (compile raw).minLength + (Token.literalText (compile raw).core.reading).byteSize := by
  rw [← tokens_compile, tokens, Token.literalText_append, Token.literalText_append,
    Token.literalText_literals, Token.literalText_literals, Text.byteSize_append,
    Text.byteSize_append, minLength]
  omega

theorem minLength_eq_iff_core (raw : Text) :
    (compile raw).minLength = (Token.literalText (Token.scan raw)).byteSize ↔
      Token.literalText (compile raw).core.reading = [] := by
  rw [byteSize_literals, ← Text.byteSize_eq_zero_iff]
  omega

/-- Nothing but the ends is literal exactly if there is no backslash and all stars stand
together. -/
theorem minLength_eq_iff (raw : Text) :
    (compile raw).minLength = (Token.literalText (Token.scan raw)).byteSize ↔
      '\\' ∉ raw ∧ ∃ lead k trail, raw = lead ++ List.replicate k '*' ++ trail ∧
        '*' ∉ lead ∧ '*' ∉ trail := by
  rw [minLength_eq_iff_core]
  cases cut : Split.ofPattern? raw with
  | none =>
    have plain := Token.plain_iff.1 (Split.ofPattern?_eq_none_iff.1 cut)
    rw [compile_of_uncut cut]
    exact ⟨fun _ => ⟨plain.2, raw, 0, [], by simp, plain.1, by simp⟩, fun _ => rfl⟩
  | some s =>
    obtain ⟨-, -, reading, -⟩ := compile_of_cut cut
    rw [reading, Token.literalText_scan_eq_nil_iff]
    constructor
    · intro stars
      obtain ⟨lead, trail⟩ := Split.plain_of_ofPattern? cut
      have lead := Token.plain_iff.1 lead
      have trail := Token.plain_iff.1 trail
      have run : s.segment = List.replicate s.segment.length '*' :=
        List.eq_replicate_iff.2 ⟨rfl, stars⟩
      have parts := Split.append_of_ofPattern? cut
      refine ⟨?_, s.lead, s.segment.length, s.trail, by rw [← run, parts], lead.1, trail.1⟩
      rw [← parts, run]
      simp [lead.2, trail.2]
    · rintro ⟨backslash, lead, k, trail, rfl, lead_star, trail_star⟩
      have lead_plain := Token.plain_iff.2 ⟨lead_star, fun mem => backslash (by simp [mem])⟩
      have trail_plain := Token.plain_iff.2 ⟨trail_star, fun mem => backslash (by simp [mem])⟩
      cases k with
      | zero =>
        have uncut : Split.ofPattern? (lead ++ List.replicate 0 '*' ++ trail) = none := by
          rw [Split.ofPattern?_eq_none_iff]
          intro c mem
          rcases List.mem_append.1 (by simpa using mem) with front | back
          · exact lead_plain c front
          · exact trail_plain c back
        rw [uncut] at cut
        cases cut
      | succ k =>
        rw [Split.ofPattern?_run lead_plain trail_plain] at cut
        cases cut
        exact fun c mem => List.eq_of_mem_replicate mem

/-- A pattern that needs no search has no literals between its ends. -/
theorem minLength_eq_of_kind {raw : Text} (simple : (compile raw).kind ≠ .complex) :
    (compile raw).minLength = (Token.literalText (Token.scan raw)).byteSize := by
  rw [minLength_eq_iff_core]
  unfold kind at simple
  split at simple
  · next middle => rw [middle]; rfl
  · next middle => rw [middle]; rfl
  · next middle => rw [middle]; rfl
  · exact absurd rfl simple

theorem captures_literalText (raw : Text) :
    (compile raw).captures (Token.literalText (Token.scan raw)) =
      some ⟨Token.literalText (Token.scan raw),
        List.replicate (Token.wildcards (Token.scan raw)) []⟩ := by
  have can : CanSpell (Token.scan raw) (Token.literalText (Token.scan raw)) :=
    ⟨_, Spells.literalText _⟩
  rw [← Search.spells_iff, Search.spells_eq_isSome, Option.isSome_iff_exists] at can
  obtain ⟨gs, found⟩ := can
  have unused := (Search.spells_of_groups? found).1.eq_replicate_of_byteSize_le (Nat.le_refl _)
  rw [captures_compile, found, unused]
  rfl

/-- The literals of a pattern, with all wildcards empty, are its shortest match. The length that a
compiled pattern asks for is that of its literal ends; it is no more than that of the shortest
match, so it rules out no match, nor than that of the pattern itself. It is the length of the
shortest match exactly if there is no backslash and all stars stand together, as in a pattern that
needs no search. -/
theorem minLength_compile (raw : Text) :
    let p := compile raw
    let ts := Token.scan raw
    let shortest := Token.literalText ts
    (∀ t, p.isMatch t = true → shortest.byteSize ≤ t.byteSize) ∧
      p.isMatch shortest = true ∧
      p.captures shortest = some ⟨shortest, List.replicate (Token.wildcards ts) []⟩ ∧
      p.lead.byteSize + p.trail.byteSize = p.minLength ∧
      p.minLength ≤ shortest.byteSize ∧ shortest.byteSize ≤ raw.byteSize ∧
      (∀ t, CanSpell ts t → ¬ t.byteSize < p.minLength) ∧
      (p.minLength = shortest.byteSize ↔
        '\\' ∉ raw ∧ ∃ lead k trail, raw = lead ++ List.replicate k '*' ++ trail ∧
          '*' ∉ lead ∧ '*' ∉ trail) ∧
      (p.kind ≠ .complex → p.minLength = shortest.byteSize) := by
  intro p ts shortest
  have spelled (t : Text) (can : CanSpell ts t) : shortest.byteSize ≤ t.byteSize := by
    obtain ⟨gs, h⟩ := can
    exact h.byteSize_literalText_le
  have ends : p.minLength ≤ shortest.byteSize := by
    rw [byteSize_literals]
    exact Nat.le_add_right _ _
  have within : shortest.byteSize ≤ raw.byteSize :=
    Text.byteSize_le_of_sublist (Token.literalText_sublist (Token.reads_scan raw))
  refine ⟨?_, ?_, captures_literalText raw, rfl, ends, within, ?_, minLength_eq_iff raw,
    minLength_eq_of_kind⟩
  · intro t matched
    exact spelled t ((isMatch_compile raw t).1 matched)
  · exact (isMatch_compile raw shortest).2 ⟨_, Spells.literalText ts⟩
  · intro t can
    have := spelled t can
    omega

end Pattern

end PathGlob
