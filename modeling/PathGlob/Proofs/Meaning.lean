import PathGlob.Pattern
import PathGlob.Proofs.Backtracking
import PathGlob.Proofs.Reading

/-!
# What a compiled pattern matches

A compiled pattern keeps the literal ends of its text apart and matches the stretch between them in
one of four ways, each of them once to decide and once to capture. None of this can be seen from
outside: `isMatch_eq` and `captures_eq` say that any such pattern answers as a search over all the
tokens it stands for, and `tokens_compile` that these are the tokens of the text it was compiled
from. Hence

* matching is what the written form of the whole pattern answers for the whole text, with nothing
  cut off and nothing treated apart;
* a text matches if the tokens can spell it, and the captures are the spelling that is greatest
  when the sizes of the wildcards are compared from the left.
-/

namespace PathGlob

namespace Spells

variable {ts : List Token} {gs hs : List Text} {t : Text}

/-- Of two texts that begin a third one the longer has the greater size. -/
theorem size_lt_of_append {size : Text → Nat} (grows : ∀ g w, w ≠ [] → size g < size (g ++ w))
    {g u h v : Text} (same : g ++ u = h ++ v) (shorter : g.length < h.length) :
    size g < size h := by
  rcases List.append_eq_append_iff.1 same with ⟨w, rfl, -⟩ | ⟨w, rfl, -⟩
  · apply grows
    rintro rfl
    simp at shorter
  · rw [List.length_append] at shorter
    omega

/-- Sizes compared from the left tell which of two spellings is preferred, in whatever unit texts
are measured. -/
theorem preferred_iff_not_lex {size : Text → Nat}
    (grows : ∀ g w, w ≠ [] → size g < size (g ++ w)) (h : Spells ts gs t) (k : Spells ts hs t) :
    Preferred gs hs ↔ ¬ List.Lex (· < ·) (gs.map size) (hs.map size) := by
  induction ts generalizing gs hs t with
  | nil =>
    rw [(nil_iff.1 h).1, (nil_iff.1 k).1]
    simp [Preferred]
  | cons tok ts ih =>
    have wild (w : tok.isWild) :
        Preferred gs hs ↔ ¬ List.Lex (· < ·) (gs.map size) (hs.map size) := by
      obtain ⟨g, gs, u, rfl, rfl, -, hu⟩ := (wild_iff w).1 h
      obtain ⟨g', hs, v, rfl, same, -, hv⟩ := (wild_iff w).1 k
      simp only [Preferred, List.map_cons, List.cons_lex_cons_iff]
      rcases Nat.lt_trichotomy g.length g'.length with shorter | equal | longer
      · have := size_lt_of_append grows same shorter
        simp [this]
        omega
      · obtain ⟨rfl, rfl⟩ := List.append_inj same equal
        simp [ih hu hv]
      · have := size_lt_of_append grows same.symm longer
        simp [longer]
        omega
    cases tok with
    | lit c =>
      obtain ⟨u, rfl, hu⟩ := lit_iff.1 h
      obtain ⟨v, same, hv⟩ := lit_iff.1 k
      cases same
      exact ih hu hv
    | one => exact wild rfl
    | many => exact wild rfl

/-- Literals at both ends of tokens spell the ends of the text. -/
theorem ends_iff {lead trail : Text} :
    Spells (Token.literals lead ++ ts ++ Token.literals trail) gs t ↔
      ∃ inner, t = lead ++ inner ++ trail ∧ Spells ts gs inner := by
  simp only [append_literals_iff, literals_append_iff]
  constructor
  · rintro ⟨_, rfl, inner, rfl, h⟩
    exact ⟨inner, rfl, h⟩
  · rintro ⟨inner, rfl, h⟩
    exact ⟨_, rfl, inner, rfl, h⟩

end Spells

theorem Text.byteSize_pos {w : Text} (h : w ≠ []) : 0 < w.byteSize := by
  cases w with
  | nil => exact absurd rfl h
  | cons c w =>
    have := c.utf8Size_pos
    simp only [byteSize_cons]
    omega

/-- `Greatest ts gs t`: of all ways in which `ts` spell `t` the texts `gs` give the leftmost
wildcard most, of those that do the next one most, and so on. It makes no difference whether
characters or bytes are counted. -/
structure Greatest (ts : List Token) (gs : List Text) (t : Text) : Prop where
  spells : Spells ts gs t
  characters : ∀ hs, Spells ts hs t →
    ¬ List.Lex (· < ·) (gs.map List.length) (hs.map List.length)
  bytes : ∀ hs, Spells ts hs t →
    ¬ List.Lex (· < ·) (gs.map Text.byteSize) (hs.map Text.byteSize)

/-- The search finds the greatest spelling. -/
theorem Search.groups?_eq_some_iff_greatest {ts : List Token} {t : Text} {gs : List Text} :
    groups? ts t = some gs ↔ Greatest ts gs t := by
  have length_grows (g w : Text) (h : w ≠ []) : g.length < (g ++ w).length := by
    simpa using List.length_pos_iff.2 h
  have bytes_grow (g w : Text) (h : w ≠ []) : g.byteSize < (g ++ w).byteSize := by
    simpa using Text.byteSize_pos h
  rw [groups?_eq_some_iff]
  constructor
  · rintro ⟨spells, best⟩
    refine ⟨spells, fun hs h => ?_, fun hs h => ?_⟩
    · exact (spells.preferred_iff_not_lex length_grows h).1 (best hs h)
    · exact (spells.preferred_iff_not_lex bytes_grow h).1 (best hs h)
  · rintro ⟨spells, best, -⟩
    refine ⟨spells, fun hs h => ?_⟩
    exact (spells.preferred_iff_not_lex length_grows h).2 (best hs h)

/-- The tokens that the middle of a pattern stands for. -/
def Core.reading : Core → List Token
  | .constant => []
  | .one => [.one]
  | .many => [.many]
  | .tokens ts => ts

namespace Pattern

def tokens (p : Pattern) : List Token :=
  Token.literals p.lead ++ p.core.reading ++ Token.literals p.trail

/-! ### Each way of matching is a search -/

theorem groups?_nil (t : Text) : Search.groups? [] t = if t.isEmpty then some [] else none := by
  cases t <;> rfl

theorem groups?_one (t : Text) :
    Search.groups? [.one] t = if isSingleSegment t then some [t] else none := by
  have spells (gs : List Text) : Spells [.one] gs t ↔ gs = [t] ∧ isSingleSegment t := by
    rw [Spells.wild_iff rfl]
    simp only [Spells.nil_iff, isSingleSegment]
    constructor
    · rintro ⟨g, hs, u, rfl, rfl, hg, rfl, rfl⟩
      simpa [Token.covers, List.forall_mem_ne'] using hg
    · rintro ⟨rfl, h⟩
      refine ⟨t, [], [], rfl, by simp, ?_, rfl, rfl⟩
      simpa [Token.covers, List.forall_mem_ne'] using h
  split
  · next single =>
    rw [Search.groups?_eq_some_iff]
    refine ⟨(spells _).2 ⟨rfl, single⟩, ?_⟩
    intro hs h
    rw [((spells hs).1 h).1]
    exact Expression.preferred_self _
  · next single =>
    rw [Option.eq_none_iff_forall_ne_some]
    intro gs found
    exact single ((spells gs).1 (Search.groups?_eq_some_iff.1 found).1).2

theorem groups?_many (t : Text) : Search.groups? [.many] t = some [t] := by
  rw [Search.groups?_eq_some_iff]
  refine ⟨by simpa using Spells.many t .nil, ?_⟩
  intro hs h
  obtain ⟨g, hs, u, rfl, rfl, -, hu⟩ := (Spells.wild_iff rfl).1 h
  obtain ⟨rfl, rfl⟩ := Spells.nil_iff.1 hu
  simp [Preferred]

/-- The ends of a pattern may be searched for or taken off beforehand. -/
theorem groups?_tokens (p : Pattern) (t : Text) :
    Search.groups? p.tokens t = (p.between? t).bind (Search.groups? p.core.reading) := by
  ext gs
  simp only [Option.bind_eq_some_iff, between?_eq_some_iff, Search.groups?_eq_some_iff, tokens,
    Spells.ends_iff]
  constructor
  · rintro ⟨⟨inner, rfl, spelled⟩, best⟩
    exact ⟨inner, rfl, spelled, fun hs h => best hs ⟨inner, rfl, h⟩⟩
  · rintro ⟨inner, rfl, spelled, best⟩
    refine ⟨⟨inner, rfl, spelled⟩, ?_⟩
    rintro hs ⟨other, same, h⟩
    obtain rfl : inner = other := by simpa using same
    exact best hs h

/-- Of a pattern only the tokens it stands for can be told from its answers. -/
theorem captures_eq (p : Pattern) (t : Text) :
    p.captures t = (Search.groups? p.tokens t).map (⟨t, ·⟩) := by
  rw [groups?_tokens, captures]
  cases p.between? t with
  | none => rfl
  | some inner =>
    simp only [Option.bind_some]
    cases p.core with
    | constant => simp only [Core.reading, groups?_nil]; split <;> rfl
    | one => simp only [Core.reading, groups?_one]; split <;> rfl
    | many => simp only [Core.reading, groups?_many]; rfl
    | tokens ts => rfl

theorem isMatch_eq (p : Pattern) (t : Text) : p.isMatch t = Search.spells p.tokens t := by
  rw [Search.spells_eq_isSome, groups?_tokens, isMatch]
  cases p.between? t with
  | none => rfl
  | some inner =>
    simp only [Option.bind_some]
    cases p.core with
    | constant => simp only [Core.reading, groups?_nil]; cases inner.isEmpty <;> rfl
    | one => simp only [Core.reading, groups?_one]; cases isSingleSegment inner <;> rfl
    | many => simp only [Core.reading, groups?_many]; rfl
    | tokens ts => exact Search.spells_eq_isSome ts inner

theorem compile_of_uncut {raw : Text} (uncut : Split.ofPattern? raw = none) :
    compile raw = ⟨raw, raw, [], .constant⟩ := by
  have compiled := compile?_eq_ok raw
  rw [compile?, uncut] at compiled
  exact (Except.ok.inj compiled).symm

/-- Compiling cuts where the text is cut. The middle stands for the tokens of the segment, and
decides how the pattern is matched. -/
theorem compile_of_cut {raw : Text} {s : Split} (cut : Split.ofPattern? raw = some s) :
    (compile raw).lead = s.lead ∧ (compile raw).trail = s.trail ∧
      (compile raw).core.reading = Token.scan s.segment ∧
      (compile raw).kind =
        if s.segment = ['*'] then .singleStar
        else if s.segment = ['*', '*'] then .doubleStar
        else .complex := by
  have compiled := compile?_eq_ok raw
  generalize compile raw = p at compiled ⊢
  obtain ⟨lead, segment, trail⟩ := s
  simp only [compile?, cut] at compiled
  split at compiled
  · next single =>
    cases compiled
    exact ⟨rfl, rfl, by rw [single]; rfl, (if_pos single).symm⟩
  · next not_single =>
    rw [if_neg not_single]
    split at compiled
    · next double =>
      cases compiled
      exact ⟨rfl, rfl, by rw [double]; rfl, (if_pos double).symm⟩
    · next not_double =>
      rw [Expression.read?_ofSegment] at compiled
      cases compiled
      exact ⟨rfl, rfl, rfl, (if_neg not_double).symm⟩

/-- Compiling keeps the tokens, wherever it cuts and whichever way of matching it picks. -/
theorem tokens_compile (raw : Text) : (compile raw).tokens = Token.scan raw := by
  cases cut : Split.ofPattern? raw with
  | none =>
    have plain := Split.ofPattern?_eq_none_iff.1 cut
    rw [compile_of_uncut cut]
    simp [tokens, Core.reading, Token.scan_plain plain, Token.literals]
  | some s =>
    obtain ⟨lead, trail, reading, -⟩ := compile_of_cut cut
    rw [tokens, lead, trail, reading, Split.scan_of_ofPattern? cut]

theorem captures_compile (raw t : Text) :
    (compile raw).captures t = (Search.groups? (Token.scan raw) t).map (⟨t, ·⟩) := by
  rw [captures_eq, tokens_compile]

theorem isMatch_compile (raw t : Text) :
    (compile raw).isMatch t = true ↔ CanSpell (Token.scan raw) t := by
  rw [isMatch_eq, tokens_compile, Search.spells_iff]

theorem captures_isSome_iff (raw t : Text) :
    ((compile raw).captures t).isSome ↔ CanSpell (Token.scan raw) t := by
  rw [captures_compile, Option.isSome_map, ← Search.spells_eq_isSome, Search.spells_iff]

theorem length_groups_of_captures {raw t : Text} {c : Captures}
    (found : (compile raw).captures t = some c) :
    c.groups.length = Token.wildcards (Token.scan raw) := by
  rw [captures_compile, Option.map_eq_some_iff] at found
  obtain ⟨gs, spelled, rfl⟩ := found
  exact (Search.spells_of_groups? spelled).1.length_groups

example : (compile "**/*/**".toList).captures "foo/bar/baz/bug".toList =
    some ⟨"foo/bar/baz/bug".toList, ["foo/bar".toList, "baz".toList, "bug".toList]⟩ := by
  rw [captures_compile]
  decide

/-- Matching without cuts: the whole pattern is written as one expression, which is matched with
the whole text. -/
def plainCaptures (raw t : Text) : Option Captures :=
  (Expression.match? (Expression.ofSegment raw) t).map (⟨t, ·⟩)

/-- Taking off the ends, looking at the length first and treating `*` and `**` apart changes no
answer. -/
theorem captures_compile_eq_plainCaptures (raw t : Text) :
    (compile raw).captures t = plainCaptures raw t := by
  rw [captures_compile, plainCaptures, Expression.match?, Expression.read?_ofSegment,
    Option.bind_some, Expression.groups?_eq_head?]

/-- A pattern says certain tokens and no others, matches what they can spell, and captures the
candidate with the greatest spelling behind it. -/
theorem captures_compile_eq_some_iff (raw t : Text) :
    ∃ ts, (∀ us, Token.Reads raw us ↔ us = ts) ∧
      (((compile raw).captures t).isSome ↔ ∃ gs, Spells ts gs t) ∧
      ∀ c, (compile raw).captures t = some c ↔ ∃ gs, c.items = t :: gs ∧ Greatest ts gs t := by
  refine ⟨Token.scan raw, fun us => Token.reads_iff, ?_, ?_⟩
  · rw [captures_compile, Option.isSome_map, ← Search.spells_eq_isSome, Search.spells_iff]
    rfl
  · intro c
    rw [captures_compile, Option.map_eq_some_iff]
    constructor
    · rintro ⟨gs, found, rfl⟩
      exact ⟨gs, rfl, Search.groups?_eq_some_iff_greatest.1 found⟩
    · rintro ⟨gs, items, greatest⟩
      obtain ⟨rfl, rfl⟩ := List.cons.inj items
      exact ⟨_, Search.groups?_eq_some_iff_greatest.2 greatest, rfl⟩

/-- Asking whether a text matches and asking for its captures come to the same decision: a text
matches if the tokens that the pattern says can spell it. -/
theorem isMatch_compile_iff (raw t : Text) :
    ∃ ts, (∀ us, Token.Reads raw us ↔ us = ts) ∧
      ((compile raw).isMatch t = true ↔ ((compile raw).captures t).isSome = true) ∧
      ((compile raw).isMatch t = true ↔ ∃ gs, Spells ts gs t) := by
  refine ⟨Token.scan raw, fun us => Token.reads_iff, ?_, isMatch_compile raw t⟩
  have found : ((compile raw).captures t).isSome = Search.spells (Token.scan raw) t := by
    rw [captures_compile, Option.isSome_map, Search.spells_eq_isSome]
  rw [found, Search.spells_iff]
  exact isMatch_compile raw t

end Pattern

end PathGlob
