import PathGlob.Template

/-!
# What rendering replaces

A placeholder of a text is a name without braces between two braces, wherever that stands in the
text. Two placeholders never overlap (`Placeholder.disjoint`), so replacing all the known ones at
once makes sense. `Parts` is what then becomes of each character; rendering, which goes through the
text once and looks no further than the next brace, comes to the same (`exists_parts`).

The text behind a character enters rendering in one way only: whether a known placeholder begins
there. `render_cons` and `render_known` are the two cases and `induction_known` is the induction
along them.
-/

namespace PathGlob.Template

/-- `Placeholder t i name`: from its `i`-th character on, `t` has `name` between braces, and `name`
has no brace itself. -/
def Placeholder (t : Text) (i : Nat) (name : Text) : Prop :=
  (∀ c ∈ name, ¬ isBrace c) ∧ '{' :: (name ++ ['}']) <+: t.drop i

/-! ### Where placeholders stand -/

namespace Placeholder

variable {t m n name : Text} {i j : Nat}

theorem zero_iff {c : Char} :
    Placeholder (c :: t) 0 name ↔
      c = '{' ∧ (∀ d ∈ name, ¬ isBrace d) ∧ ∃ after, t = name ++ '}' :: after := by
  rw [Placeholder, List.drop_zero, List.cons_prefix_cons]
  constructor
  · rintro ⟨free, rfl, after, rfl⟩
    exact ⟨rfl, free, after, by simp⟩
  · rintro ⟨rfl, free, after, rfl⟩
    exact ⟨free, rfl, after, by simp⟩

theorem append_iff (s : Text) :
    Placeholder (s ++ t) (s.length + i) name ↔ Placeholder t i name := by
  rw [Placeholder, List.drop_length_add_append, Placeholder]

theorem getElem?_add (h : Placeholder t i name) {d : Nat} (inside : d < name.length + 2) :
    t[i + d]? = ('{' :: (name ++ ['}']))[d]? := by
  obtain ⟨-, after, whole⟩ := h
  rw [← List.getElem?_drop, ← whole, List.getElem?_append_left]
  rwa [List.length_cons, List.length_append, List.length_singleton]

theorem lt_length (h : Placeholder t i name) : i < t.length := by
  have first : t[i + 0]? = some '{' := h.getElem?_add (by omega)
  exact (List.getElem?_eq_some_iff.1 first).1

/-- Only the first character of a placeholder opens one. -/
theorem le_of_lt (h : Placeholder t i m) (k : Placeholder t j n) (before : i < j) :
    i + m.length + 2 ≤ j := by
  refine Nat.le_of_not_lt fun overlap => ?_
  obtain ⟨d, rfl⟩ : ∃ d, j = i + (d + 1) := ⟨j - i - 1, by omega⟩
  have opens : t[i + (d + 1) + 0]? = some '{' := k.getElem?_add (by omega)
  have inside : t[i + (d + 1)]? = (m ++ ['}'])[d]? := h.getElem?_add (by omega)
  rw [Nat.add_zero, inside] at opens
  have mem : '{' ∈ m ++ ['}'] := List.mem_of_getElem? opens
  rcases List.mem_append.1 mem with name | close
  · exact h.1 '{' name rfl
  · simp at close

theorem name_eq (h : Placeholder t i m) (k : Placeholder t i n) : m = n := by
  obtain ⟨mfree, after, hm⟩ := h
  obtain ⟨nfree, later, hn⟩ := k
  have same : m ++ '}' :: after = n ++ '}' :: later := by
    simpa using hm.trans hn.symm
  have names := congrArg (List.takeWhile (!isBrace ·)) same
  rwa [List.takeWhile_append_of_pos (by simpa using mfree),
    List.takeWhile_append_of_pos (by simpa using nfree), List.takeWhile_cons_of_neg (by decide),
    List.takeWhile_cons_of_neg (by decide), List.append_nil, List.append_nil] at names

/-- Two placeholders are the same, or one ends before the other begins. -/
theorem disjoint (h : Placeholder t i m) (k : Placeholder t j n) :
    i = j ∧ m = n ∨ i + m.length + 2 ≤ j ∨ j + n.length + 2 ≤ i := by
  rcases Nat.lt_trichotomy i j with before | rfl | behind
  · exact .inr (.inl (h.le_of_lt k before))
  · exact .inl ⟨rfl, h.name_eq k⟩
  · exact .inr (.inr (k.le_of_lt h behind))

theorem eq_or_behind {after : Text} (free : ∀ c ∈ name, ¬ isBrace c)
    (h : Placeholder ('{' :: (name ++ '}' :: after)) i m) :
    i = 0 ∧ m = name ∨ ∃ k, i = name.length + 2 + k ∧ Placeholder after k m := by
  have first : Placeholder ('{' :: (name ++ '}' :: after)) 0 name :=
    zero_iff.2 ⟨rfl, free, after, rfl⟩
  rcases first.disjoint h with ⟨rfl, rfl⟩ | behind | before
  · exact .inl ⟨rfl, rfl⟩
  · obtain ⟨k, rfl⟩ : ∃ k, i = name.length + 2 + k := ⟨i - (name.length + 2), by omega⟩
    refine .inr ⟨k, rfl, ?_⟩
    have split : '{' :: (name ++ '}' :: after) = '{' :: (name ++ ['}']) ++ after := by simp
    have length : name.length + 2 + k = ('{' :: (name ++ ['}'])).length + k := by simp
    rw [split, length] at h
    exact (append_iff _).1 h
  · omega

end Placeholder

/-! ### Rendering from the front -/

variable {lookup : Text → Option Text}

theorem render_nil : render lookup [] = [] := by
  simp [render, pieces]

/-- What comes before the next opening brace stands for itself. -/
theorem render_append {s : Text} (plain : '{' ∉ s) (t : Text) :
    render lookup (s ++ t) = s ++ render lookup t := by
  induction s with
  | nil => rfl
  | cons c s ih =>
    have other : c ≠ '{' := fun e => plain (by simp [e])
    have rest : render lookup (s ++ t) = s ++ render lookup t := ih fun h => plain (by simp [h])
    rw [List.cons_append, render, pieces, if_neg other, List.flatMap_cons]
    exact congrArg (c :: ·) rest

theorem open_not_mem {name : Text} (free : ∀ c ∈ name, ¬ isBrace c) : '{' ∉ name :=
  fun mem => free '{' mem rfl

/-- Reading up to the next brace finds the name of a placeholder and what follows it. -/
theorem pieces_hole {name : Text} (free : ∀ c ∈ name, ¬ isBrace c) (t : Text) :
    pieces ('{' :: (name ++ '}' :: t)) = .hole name :: pieces t := by
  have skipped : (name ++ '}' :: t).dropWhile (!isBrace ·) = '}' :: t := by
    rw [List.dropWhile_append_of_pos (by simpa using free), List.dropWhile_cons_of_neg (by decide)]
  have read : (name ++ '}' :: t).takeWhile (!isBrace ·) = name := by
    rw [List.takeWhile_append_of_pos (by simpa using free), List.takeWhile_cons_of_neg (by decide),
      List.append_nil]
  rw [pieces, if_pos rfl]
  split
  · next after found =>
    obtain rfl : t = after := by simpa [skipped] using found
    rw [read]
  · next other => exact absurd skipped (other t)

/-- A known placeholder gives its value, and rendering goes on behind it. -/
theorem render_known {name value : Text} (free : ∀ c ∈ name, ¬ isBrace c)
    (known : lookup name = some value) (t : Text) :
    render lookup ('{' :: (name ++ '}' :: t)) = value ++ render lookup t := by
  rw [render, pieces_hole free, List.flatMap_cons, Piece.fill, known]
  rfl

/-- A character at which no known placeholder begins stands for itself, whatever braces follow. -/
theorem render_cons {c : Char} {t : Text}
    (unknown : ∀ name, Placeholder (c :: t) 0 name → lookup name = none) :
    render lookup (c :: t) = c :: render lookup t := by
  by_cases brace : c = '{'
  · subst brace
    by_cases hole : ∃ name after, (∀ d ∈ name, ¬ isBrace d) ∧ t = name ++ '}' :: after
    · obtain ⟨name, after, free, rfl⟩ := hole
      have missing := unknown name (Placeholder.zero_iff.2 ⟨rfl, free, after, rfl⟩)
      -- The placeholder is left as it is, and so would its characters be one by one.
      have inner : render lookup (name ++ '}' :: after) = name ++ '}' :: render lookup after := by
        have closed : '{' ∉ name ++ ['}'] := by simp [open_not_mem free]
        simpa using render_append closed after
      rw [inner, render, pieces_hole free, List.flatMap_cons, Piece.fill, missing]
      simp [Piece.text, render]
    · rw [render, pieces, if_pos rfl]
      split
      · next after found =>
        refine absurd ⟨t.takeWhile (!isBrace ·), after, ?_, ?_⟩ hole
        · simpa using List.all_eq_true.1 (List.all_takeWhile (l := t) (p := (!isBrace ·)))
        · rw [← found, List.takeWhile_append_dropWhile]
      · rfl
  · exact render_append (s := [c]) (by simpa using Ne.symm brace) t

/-- A text is gone through from the front: over a known placeholder at once, over anything else one
character at a time. -/
theorem induction_known {motive : Text → Prop} (lookup : Text → Option Text) (nil : motive [])
    (known : ∀ name value after, (∀ c ∈ name, ¬ isBrace c) → lookup name = some value →
      motive after → motive ('{' :: (name ++ '}' :: after)))
    (other : ∀ c t, (∀ name, Placeholder (c :: t) 0 name → lookup name = none) →
      motive t → motive (c :: t)) (t : Text) : motive t := by
  induction size : t.length using Nat.strongRecOn generalizing t with
  | ind size ih =>
    subst size
    cases t with
    | nil => exact nil
    | cons c t =>
      by_cases begins : ∃ name value, Placeholder (c :: t) 0 name ∧ lookup name = some value
      · obtain ⟨name, value, here, found⟩ := begins
        obtain ⟨rfl, free, after, rfl⟩ := Placeholder.zero_iff.1 here
        refine known name value after free found (ih after.length ?_ after rfl)
        simp only [List.length_cons, List.length_append]
        omega
      · refine other c t ?_ (ih t.length (by simp) t rfl)
        intro name here
        rw [Option.eq_none_iff_forall_ne_some]
        intro value found
        exact begins ⟨name, value, here, found⟩

/-! ### Replacing all at once -/

/-- `Parts lookup t parts`: what each character of `t` gives when every known placeholder is
replaced. The first character of such a placeholder gives the value, its other characters give
nothing, and each character outside gives itself. -/
structure Parts (lookup : Text → Option Text) (t : Text) (parts : List Text) : Prop where
  length : parts.length = t.length
  value : ∀ i name value, Placeholder t i name → lookup name = some value →
    parts[i]? = some value
  inside : ∀ i name value, Placeholder t i name → lookup name = some value →
    ∀ j, i < j → j < i + name.length + 2 → parts[j]? = some []
  outside : ∀ j c, t[j]? = some c →
    (∀ i name value, Placeholder t i name → lookup name = some value →
      j < i ∨ i + name.length + 2 ≤ j) → parts[j]? = some [c]

namespace Parts

variable {t : Text} {parts others : List Text}

theorem nil : Parts lookup [] [] := by
  refine ⟨rfl, ?_, ?_, ?_⟩
  · intro i name value here
    exact absurd here.lt_length (by simp)
  · intro i name value here
    exact absurd here.lt_length (by simp)
  · intro j c here
    cases here

theorem known {name value : Text} (free : ∀ c ∈ name, ¬ isBrace c)
    (found : lookup name = some value) (h : Parts lookup t parts) :
    Parts lookup ('{' :: (name ++ '}' :: t))
      (value :: (List.replicate (name.length + 1) [] ++ parts)) := by
  have first : Placeholder ('{' :: (name ++ '}' :: t)) 0 name :=
    Placeholder.zero_iff.2 ⟨rfl, free, t, rfl⟩
  have text_behind (k : Nat) : ('{' :: (name ++ '}' :: t))[name.length + 2 + k]? = t[k]? := by
    have rest : ('{' :: (name ++ '}' :: t)).drop (name.length + 2) = t := by simp
    rw [← List.getElem?_drop, rest]
  have parts_behind (k : Nat) :
      (value :: (List.replicate (name.length + 1) [] ++ parts))[name.length + 2 + k]? =
        parts[k]? := by
    have rest : (value :: (List.replicate (name.length + 1) [] ++ parts)).drop (name.length + 2) =
        parts := by simp
    rw [← List.getElem?_drop, rest]
  refine ⟨by simp [h.length]; omega, ?_, ?_, ?_⟩
  · intro i m v here given
    obtain ⟨rfl, rfl⟩ | ⟨k, rfl, behind⟩ := here.eq_or_behind free
    · simpa [found] using given
    · rw [parts_behind]
      exact h.value k m v behind given
  · intro i m v here given j after before
    obtain ⟨rfl, rfl⟩ | ⟨k, rfl, behind⟩ := here.eq_or_behind free
    · obtain ⟨k, rfl⟩ : ∃ k, j = k + 1 := ⟨j - 1, by omega⟩
      rw [List.getElem?_cons_succ, List.getElem?_append_left (by simp; omega),
        List.getElem?_replicate_of_lt (by omega)]
    · obtain ⟨l, rfl⟩ : ∃ l, j = name.length + 2 + l := ⟨j - (name.length + 2), by omega⟩
      rw [parts_behind]
      exact h.inside k m v behind given l (by omega) (by omega)
  · intro j c here clear
    have after : name.length + 2 ≤ j := by
      have := clear 0 name value first found
      omega
    obtain ⟨l, rfl⟩ : ∃ l, j = name.length + 2 + l := ⟨j - (name.length + 2), by omega⟩
    rw [parts_behind]
    rw [text_behind] at here
    refine h.outside l c here fun k m v behind given => ?_
    have shifted : Placeholder ('{' :: (name ++ '}' :: t)) (name.length + 2 + k) m := by
      have := (Placeholder.append_iff ('{' :: (name ++ ['}']))).2 behind
      simpa using this
    have := clear (name.length + 2 + k) m v shifted given
    omega

theorem other {c : Char} (unknown : ∀ name, Placeholder (c :: t) 0 name → lookup name = none)
    (h : Parts lookup t parts) : Parts lookup (c :: t) ([c] :: parts) := by
  have behind {i : Nat} {name value : Text} (here : Placeholder (c :: t) i name)
      (found : lookup name = some value) : ∃ k, i = k + 1 ∧ Placeholder t k name := by
    cases i with
    | zero => simp [unknown name here] at found
    | succ k => exact ⟨k, rfl, here⟩
  refine ⟨congrArg (· + 1) h.length, ?_, ?_, ?_⟩
  · intro i name value here found
    obtain ⟨k, rfl, later⟩ := behind here found
    exact h.value k name value later found
  · intro i name value here found j after before
    obtain ⟨k, rfl, later⟩ := behind here found
    obtain ⟨l, rfl⟩ : ∃ l, j = l + 1 := ⟨j - 1, by omega⟩
    exact h.inside k name value later found l (by omega) (by omega)
  · intro j d here clear
    cases j with
    | zero =>
      obtain rfl : c = d := by simpa using here
      rfl
    | succ l =>
      refine h.outside l d here fun k name value later found => ?_
      have := clear (k + 1) name value later found
      omega

/-- Nothing is left open: each character is the first of a known placeholder, inside one, or
outside. -/
theorem unique (h : Parts lookup t parts) (k : Parts lookup t others) : parts = others := by
  apply List.ext_getElem?
  intro j
  by_cases covered : ∃ i name value, Placeholder t i name ∧ lookup name = some value ∧
      i ≤ j ∧ j < i + name.length + 2
  · obtain ⟨i, name, value, here, found, after, before⟩ := covered
    rcases Nat.eq_or_lt_of_le after with rfl | after
    · rw [h.value i name value here found, k.value i name value here found]
    · rw [h.inside i name value here found j after before,
        k.inside i name value here found j after before]
  · cases at_j : t[j]? with
    | none =>
      rw [List.getElem?_eq_none_iff] at at_j
      rw [List.getElem?_eq_none (h.length ▸ at_j), List.getElem?_eq_none (k.length ▸ at_j)]
    | some c =>
      have clear (i : Nat) (name value : Text) (here : Placeholder t i name)
          (found : lookup name = some value) : j < i ∨ i + name.length + 2 ≤ j := by
        by_cases after : i ≤ j
        · exact .inr (Nat.le_of_not_lt fun before =>
            covered ⟨i, name, value, here, found, after, before⟩)
        · exact .inl (Nat.lt_of_not_le after)
      rw [h.outside j c at_j clear, k.outside j c at_j clear]

end Parts

theorem exists_parts (lookup : Text → Option Text) (t : Text) :
    ∃ parts, Parts lookup t parts ∧ render lookup t = parts.flatten := by
  induction t using induction_known lookup with
  | nil => exact ⟨[], .nil, render_nil⟩
  | known name value after free found ih =>
    obtain ⟨parts, whole, rendered⟩ := ih
    refine ⟨_, whole.known free found, ?_⟩
    rw [render_known free found, rendered]
    simp
  | other c t unknown ih =>
    obtain ⟨parts, whole, rendered⟩ := ih
    refine ⟨_, whole.other unknown, ?_⟩
    rw [render_cons unknown, rendered]
    rfl

/-- Placeholders do not overlap, and rendering a template is replacing every known one at once. A
value is never looked at again, since the placeholders are those of the template. -/
theorem render_eq_iff (lookup : Text → Option Text) (t : Text) :
    (∀ i j m n, Placeholder t i m → Placeholder t j n →
      i = j ∧ m = n ∨ i + m.length + 2 ≤ j ∨ j + n.length + 2 ≤ i) ∧
    ∀ out, render lookup t = out ↔ ∃ parts, Parts lookup t parts ∧ out = parts.flatten := by
  refine ⟨fun i j m n h k => h.disjoint k, fun out => ?_⟩
  obtain ⟨parts, whole, rendered⟩ := exists_parts lookup t
  constructor
  · rintro rfl
    exact ⟨parts, whole, rendered⟩
  · rintro ⟨others, also, rfl⟩
    rw [rendered, whole.unique also]

/-- In a list of pairs the first one with a name decides. -/
theorem lookupPairs_eq_some_iff {pairs : List (Text × Text)} {name value : Text} :
    lookupPairs pairs name = some value ↔
      ∃ before after, pairs = before ++ (name, value) :: after ∧
        ∀ pair ∈ before, pair.1 ≠ name := by
  simp only [lookupPairs, Option.map_eq_some_iff, List.find?_eq_some_iff_append]
  constructor
  · rintro ⟨⟨key, _⟩, ⟨named, before, after, whole, others⟩, rfl⟩
    obtain rfl : key = name := by simpa using named
    exact ⟨before, after, whole, by simpa using others⟩
  · rintro ⟨before, after, whole, others⟩
    exact ⟨(name, value), ⟨by simp, before, after, whole, by simpa using others⟩, rfl⟩

example :
    render (lookupPairs [(['a'], ['1']), (['b'], ['{', 'a', '}'])])
      ['{', 'x', '{', 'a', '}', '}', '{', 'b', '}', '{', 'a'] =
    ['{', 'x', '1', '}', '{', 'a', '}', '{', 'a'] := by
  cbv

end PathGlob.Template
