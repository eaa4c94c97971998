import PathGlob.Expression
import PathGlob.Search.Preference

/-!
# Matching by backtracking

An anchored expression is defined by the order in which a backtracking matcher tries things: a
group first takes one character more and stops only when all of that has failed. `attempts` lists
every match of the whole text in that order, and the answer of an expression is the first of them.

* `mem_attempts_iff`: the matches are the spellings of the text;
* `preferred_attempts`: an earlier match is preferred to a later one;
* `groups?_eq_head?`: the search, which never goes back, finds the first match.
-/

namespace PathGlob.Expression

/-- Gives one character more to the first wildcard. -/
def widen (x : Char) : List Text → List Text
  | g :: gs => (x :: g) :: gs
  | [] => []

/-- The matches of a group, with what is left matched by `after`: first those in which the group
goes on, then those in which it stops. -/
def greedy (covers : Char → Bool) (after : Text → List (List Text)) : Text → List (List Text)
  | [] => (after []).map ([] :: ·)
  | x :: t =>
    (if covers x then (greedy covers after t).map (widen x) else []) ++
      (after (x :: t)).map ([] :: ·)

/-- The matches of tokens with a whole text, in the order of trying. -/
def attempts : List Token → Text → List (List Text)
  | [], [] => [[]]
  | [], _ :: _ => []
  | .lit _ :: _, [] => []
  | .lit c :: ts, x :: t => if c = x then attempts ts t else []
  | .one :: ts, t => greedy Token.one.covers (attempts ts) t
  | .many :: ts, t => greedy Token.many.covers (attempts ts) t

def match? (expression t : Text) : Option (List Text) :=
  (read? expression).bind fun ts => (attempts ts t).head?

theorem attempts_wild {tok : Token} (wild : tok.isWild) (ts : List Token) (t : Text) :
    attempts (tok :: ts) t = greedy tok.covers (attempts ts) t := by
  cases tok with
  | lit c => cases wild
  | one => cases t <;> rfl
  | many => cases t <;> rfl

theorem mem_greedy_iff {covers : Char → Bool} {after : Text → List (List Text)} {t : Text}
    {gs : List Text} :
    gs ∈ greedy covers after t ↔
      ∃ g hs u, gs = g :: hs ∧ t = g ++ u ∧ (∀ x ∈ g, covers x) ∧ hs ∈ after u := by
  induction t generalizing gs with
  | nil =>
    simp only [greedy, List.mem_map]
    constructor
    · rintro ⟨hs, h, rfl⟩
      exact ⟨[], hs, [], rfl, rfl, by simp, h⟩
    · rintro ⟨g, hs, u, rfl, e, -, h⟩
      obtain ⟨rfl, rfl⟩ := List.append_eq_nil_iff.1 e.symm
      exact ⟨hs, h, rfl⟩
  | cons x t ih =>
    simp only [greedy, List.mem_append, List.mem_map]
    constructor
    · rintro (h | ⟨hs, h, rfl⟩)
      · split at h
        · next hx =>
          obtain ⟨ks, hk, rfl⟩ := List.mem_map.1 h
          obtain ⟨g, hs, u, rfl, rfl, hg, hu⟩ := ih.1 hk
          exact ⟨x :: g, hs, u, rfl, rfl, by simpa [hx] using hg, hu⟩
        · cases h
      · exact ⟨[], hs, x :: t, rfl, rfl, by simp, h⟩
    · rintro ⟨g, hs, u, rfl, e, hg, hu⟩
      cases g with
      | nil => exact .inr ⟨hs, by simpa [e] using hu, rfl⟩
      | cons y g =>
        obtain ⟨rfl, rfl⟩ := List.cons.inj e
        have hx : covers x := hg x (by simp)
        rw [if_pos hx]
        refine .inl (List.mem_map.2 ⟨g :: hs, ih.2 ⟨g, hs, u, rfl, rfl, ?_, hu⟩, rfl⟩)
        exact fun z hz => hg z (by simp [hz])

/-- Backtracking comes upon every spelling and nothing else. -/
theorem mem_attempts_iff {ts : List Token} {t : Text} {gs : List Text} :
    gs ∈ attempts ts t ↔ Spells ts gs t := by
  induction ts generalizing t gs with
  | nil => cases t <;> simp [attempts, Spells.nil_iff]
  | cons tok ts ih =>
    have wild (w : tok.isWild) : gs ∈ attempts (tok :: ts) t ↔ Spells (tok :: ts) gs t := by
      rw [attempts_wild w, mem_greedy_iff, Spells.wild_iff w]
      simp only [ih]
    cases tok with
    | lit c =>
      rw [Spells.lit_iff]
      cases t with
      | nil => simp [attempts]
      | cons x t =>
        rw [attempts]
        split
        · next e => simp [e, ih]
        · next e => simp [Ne.symm e]
    | one => exact wild rfl
    | many => exact wild rfl

theorem preferred_widen {x : Char} {gs hs : List Text} (h : Preferred gs hs) :
    Preferred (widen x gs) (widen x hs) := by
  cases gs with
  | nil => trivial
  | cons g gs =>
    cases hs with
    | nil => trivial
    | cons h' hs => simpa [widen, Preferred] using h

/-- A group that goes on is preferred to one that stops. -/
theorem preferred_widen_stop (x : Char) (gs hs : List Text) :
    Preferred (widen x gs) ([] :: hs) := by
  cases gs with
  | nil => trivial
  | cons g gs => exact .inl (by simp)

theorem preferred_greedy {covers : Char → Bool} {after : Text → List (List Text)}
    (ordered : ∀ u, (after u).Pairwise Preferred) (t : Text) :
    (greedy covers after t).Pairwise Preferred := by
  have stops (u : Text) : ((after u).map ([] :: ·)).Pairwise Preferred := by
    rw [List.pairwise_map]
    exact (ordered u).imp fun h => .inr ⟨rfl, h⟩
  induction t with
  | nil => exact stops []
  | cons x t ih =>
    rw [greedy, List.pairwise_append]
    refine ⟨?_, stops (x :: t), ?_⟩
    · split
      · rw [List.pairwise_map]
        exact ih.imp preferred_widen
      · exact .nil
    · intro gs hgs hs hhs
      obtain ⟨hs, -, rfl⟩ := List.mem_map.1 hhs
      split at hgs
      · obtain ⟨gs, -, rfl⟩ := List.mem_map.1 hgs
        exact preferred_widen_stop x gs hs
      · cases hgs

theorem preferred_attempts (ts : List Token) (t : Text) :
    (attempts ts t).Pairwise Preferred := by
  induction ts generalizing t with
  | nil => cases t <;> simp [attempts]
  | cons tok ts ih =>
    have wild (w : tok.isWild) : (attempts (tok :: ts) t).Pairwise Preferred := by
      rw [attempts_wild w]
      exact preferred_greedy ih t
    cases tok with
    | lit c =>
      cases t with
      | nil => exact .nil
      | cons x t =>
        rw [attempts]
        split
        · exact ih t
        · exact .nil
    | one => exact wild rfl
    | many => exact wild rfl

theorem preferred_self (gs : List Text) : Preferred gs gs := by
  induction gs with
  | nil => trivial
  | cons g gs ih => exact .inr ⟨rfl, ih⟩

/-- The search answers with the first match that backtracking comes upon. -/
theorem groups?_eq_head? (ts : List Token) (t : Text) :
    Search.groups? ts t = (attempts ts t).head? := by
  cases h : attempts ts t with
  | nil =>
    rw [List.head?_nil, Option.eq_none_iff_forall_ne_some]
    intro gs found
    have := mem_attempts_iff.2 (Search.groups?_eq_some_iff.1 found).1
    rw [h] at this
    cases this
  | cons gs rest =>
    rw [List.head?_cons, Search.groups?_eq_some_iff]
    have ordered := preferred_attempts ts t
    rw [h] at ordered
    refine ⟨mem_attempts_iff.1 (h ▸ List.mem_cons_self), ?_⟩
    intro hs spelled
    have found := mem_attempts_iff.2 spelled
    rw [h] at found
    cases found with
    | head => exact preferred_self gs
    | tail _ later => exact List.rel_of_pairwise_cons ordered later

example : match? (ofSegment "x**y**z".toList) "x1y2y3z".toList =
    some ["1y2".toList, "3".toList] := by
  decide +kernel

end PathGlob.Expression
