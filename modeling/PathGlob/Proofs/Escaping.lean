import PathGlob.Proofs.Meaning

namespace PathGlob.Pattern

/-- A text as a pattern that says this text and no other. -/
def escape : Text → Text
  | [] => []
  | c :: t => if Token.isSpecial c then '\\' :: c :: escape t else c :: escape t

example : escape "a*/\\b".toList = "a\\*/\\\\b".toList := by
  decide

theorem scan_escape_append (s t : Text) :
    Token.scan (escape s ++ t) = Token.literals s ++ Token.scan t := by
  induction s with
  | nil => rfl
  | cons c s ih =>
    by_cases special : Token.isSpecial c
    · have escaped : c = '*' ∨ c = '\\' := by
        simpa [Token.isSpecial] using special
      rw [escape, if_pos special, List.cons_append, List.cons_append, Token.scan, if_pos escaped,
        ih]
      rfl
    · rw [escape, if_neg special, List.cons_append, Token.scan_of_not_special special, ih]
      rfl

theorem scan_escape (s : Text) : Token.scan (escape s) = Token.literals s := by
  have := scan_escape_append s []
  simpa [Token.scan] using this

theorem head?_escape (s : Text) : (escape s).head? ≠ some '*' := by
  cases s with
  | nil => simp [escape]
  | cons c s =>
    by_cases special : Token.isSpecial c
    · simp [escape, special]
    · have other : c ≠ '*' := by
        rintro rfl
        exact special rfl
      simp [escape, special, other]

theorem scan_star_escape (s : Text) :
    Token.scan ('*' :: escape s) = .one :: Token.literals s := by
  rw [Token.scan, if_neg (head?_escape s), scan_escape]

theorem scan_stars_escape (s : Text) :
    Token.scan ('*' :: '*' :: escape s) = .many :: Token.literals s := by
  rw [Token.scan, List.head?_cons, if_pos rfl, scan_star_escape]
  rfl

/-- Patterns that stand for the same tokens have the same captures. -/
theorem captures_compile_of_scan {raw : Text} {p : Pattern} (same : Token.scan raw = p.tokens)
    (t : Text) : (compile raw).captures t = p.captures t := by
  rw [captures_compile, captures_eq, same]

/-- A pattern matches what has its ends and between them what its middle matches. -/
theorem captures_eq_some_iff {p : Pattern} {t : Text} {c : Captures} :
    p.captures t = some c ↔ ∃ inner gs, t = p.lead ++ inner ++ p.trail ∧
      Search.groups? p.core.reading inner = some gs ∧ c.items = t :: gs := by
  rw [captures_eq, groups?_tokens, Option.map_eq_some_iff]
  constructor
  · rintro ⟨gs, found, rfl⟩
    obtain ⟨inner, ends, middle⟩ := Option.bind_eq_some_iff.1 found
    exact ⟨inner, gs, between?_eq_some_iff.1 ends, middle, rfl⟩
  · rintro ⟨inner, gs, whole, middle, items⟩
    obtain ⟨rfl, rfl⟩ := List.cons.inj items
    exact ⟨_, Option.bind_eq_some_iff.2 ⟨inner, between?_eq_some_iff.2 whole, middle⟩, rfl⟩

/-- An escaped text matches itself alone. A wildcard between two escaped texts matches what begins
with the one and ends with the other, and captures what is between them; if it is a single star this
must not leave its path segment. -/
theorem captures_escape (s t text : Text) :
    (∀ c, (compile (escape s)).captures text = some c ↔ text = s ∧ c.items = [s]) ∧
    (∀ c, (compile (escape s ++ '*' :: escape t)).captures text = some c ↔
      ∃ m, Token.separator ∉ m ∧ text = s ++ m ++ t ∧ c.items = [text, m]) ∧
    ∀ c, (compile (escape s ++ '*' :: '*' :: escape t)).captures text = some c ↔
      ∃ m, text = s ++ m ++ t ∧ c.items = [text, m] := by
  refine ⟨fun c => ?_, fun c => ?_, fun c => ?_⟩
  · have same : Token.scan (escape s) = tokens ⟨[], s, [], .constant⟩ := by
      rw [scan_escape]
      simp [tokens, Core.reading, Token.literals]
    rw [captures_compile_of_scan same, captures_eq_some_iff]
    constructor
    · rintro ⟨inner, gs, whole, middle, items⟩
      obtain ⟨rfl, rfl⟩ : inner = [] ∧ [] = gs := by
        simpa [Core.reading, groups?_nil] using middle
      obtain rfl : text = s := by simpa using whole
      exact ⟨rfl, items⟩
    · rintro ⟨rfl, items⟩
      exact ⟨[], [], by simp, rfl, items⟩
  · have same : Token.scan (escape s ++ '*' :: escape t) = tokens ⟨[], s, t, .one⟩ := by
      rw [scan_escape_append, scan_star_escape]
      simp [tokens, Core.reading]
    rw [captures_compile_of_scan same, captures_eq_some_iff]
    constructor
    · rintro ⟨inner, gs, whole, middle, items⟩
      obtain ⟨within, rfl⟩ : Token.separator ∉ inner ∧ [inner] = gs := by
        simpa [Core.reading, groups?_one, isSingleSegment] using middle
      exact ⟨inner, within, whole, items⟩
    · rintro ⟨m, within, whole, items⟩
      refine ⟨m, [m], whole, ?_, items⟩
      simp [Core.reading, groups?_one, isSingleSegment, within]
  · have same : Token.scan (escape s ++ '*' :: '*' :: escape t) = tokens ⟨[], s, t, .many⟩ := by
      rw [scan_escape_append, scan_stars_escape]
      simp [tokens, Core.reading]
    rw [captures_compile_of_scan same, captures_eq_some_iff]
    constructor
    · rintro ⟨inner, gs, whole, middle, items⟩
      obtain rfl : [inner] = gs := by
        simpa [Core.reading, groups?_many] using middle
      exact ⟨inner, whole, items⟩
    · rintro ⟨m, whole, items⟩
      exact ⟨m, [m], whole, groups?_many m, items⟩

end PathGlob.Pattern
