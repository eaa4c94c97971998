import PathGlob.Proofs.Meaning
import PathGlob.Proofs.Rendering
import PathGlob.Proofs.Transparency

namespace PathGlob

namespace Template

def mirrorFrom : Nat → List Token → Text
  | _, [] => []
  | k, .lit c :: ts => c :: mirrorFrom k ts
  | k, .one :: ts | k, .many :: ts => '{' :: (Decimal.text k ++ '}' :: mirrorFrom (k + 1) ts)

/-- A pattern as a template. -/
def mirror (raw : Text) : Text :=
  mirrorFrom 1 (Token.scan raw)

example : mirror "a\\*\x7b/**/\x7b*\x7d".toList =
    "a*\x7b/\x7b1\x7d/\x7b\x7b2\x7d\x7d".toList := by
  decide

/-- Somewhere among some tokens the literals one after the other are a text. -/
def SpelledOut (ts : List Token) (t : Text) : Prop :=
  Token.literals t <:+: ts

/-- No literals among some tokens ask for a capture by its position. -/
def NamesNoCapture (ts : List Token) : Prop :=
  ∀ name k, (∀ c ∈ name, ¬ isBrace c) → SpelledOut ts ('{' :: (name ++ ['}'])) →
    Decimal.natural? name = some k → Token.wildcards ts < k

theorem mirrorFrom_wild {tok : Token} (wild : tok.isWild) (k : Nat) (ts : List Token) :
    mirrorFrom k (tok :: ts) = '{' :: (Decimal.text k ++ '}' :: mirrorFrom (k + 1) ts) := by
  cases tok with
  | lit c => cases wild
  | one => rfl
  | many => rfl

/-- What stands in front of the next opening brace of a template for tokens is literal. -/
theorem literals_prefix_of_prefix {s : Text} (plain : '{' ∉ s) {k : Nat} {ts : List Token}
    (h : s <+: mirrorFrom k ts) : Token.literals s <+: ts := by
  induction s generalizing ts with
  | nil => exact List.nil_prefix
  | cons c s ih =>
    have first : c ≠ '{' := fun e => plain (by simp [e])
    have rest : '{' ∉ s := fun mem => plain (by simp [mem])
    cases ts with
    | nil => simp [mirrorFrom] at h
    | cons tok ts =>
      cases tok with
      | lit d =>
        obtain ⟨rfl, later⟩ := List.cons_prefix_cons.1 h
        exact List.cons_prefix_cons.2 ⟨rfl, ih rest later⟩
      | one | many => exact absurd (List.cons_prefix_cons.1 h).1 first

/-- A placeholder that begins with a literal is made of literals. -/
theorem placeholder_of_mirrorFrom {c : Char} {k : Nat} {ts : List Token} {name : Text}
    (h : Placeholder (c :: mirrorFrom k ts) 0 name) :
    SpelledOut (.lit c :: ts) ('{' :: (name ++ ['}'])) := by
  obtain ⟨rfl, free, after, behind⟩ := Placeholder.zero_iff.1 h
  have plain : '{' ∉ name ++ ['}'] := by simp [open_not_mem free]
  have read : name ++ ['}'] <+: mirrorFrom k ts := ⟨after, by simp [behind]⟩
  have literal := literals_prefix_of_prefix plain read
  exact (List.cons_prefix_cons.2 ⟨rfl, literal⟩).isInfix

theorem not_isBrace_of_mem_text {k : Nat} {c : Char} (h : c ∈ Decimal.text k) : ¬ isBrace c := by
  have digit := Decimal.isDigit_of_mem_text h
  intro brace
  simp only [isBrace, Bool.or_eq_true, beq_iff_eq] at brace
  rcases brace with rfl | rfl <;> cases digit

/-- The texts that wildcards stand for, put under their numbers, give the text that is spelled. -/
theorem render_mirrorFrom {lookup : Text → Option Text} {ts : List Token} {gs : List Text}
    {t : Text} (h : Spells ts gs t) {k : Nat}
    (numbered : ∀ i g, gs[i]? = some g → lookup (Decimal.text (k + i)) = some g)
    (unknown : ∀ name, (∀ c ∈ name, ¬ isBrace c) → SpelledOut ts ('{' :: (name ++ ['}'])) →
      lookup name = none) :
    render lookup (mirrorFrom k ts) = t := by
  -- Each wildcard uses up one number and one text, so both sequences go on from there.
  induction ts generalizing gs t k with
  | nil =>
    obtain ⟨-, rfl⟩ := Spells.nil_iff.1 h
    exact render_nil
  | cons tok ts ih =>
    have later (name : Text) (free : ∀ c ∈ name, ¬ isBrace c)
        (spelled : SpelledOut ts ('{' :: (name ++ ['}']))) : lookup name = none :=
      unknown name free (List.infix_cons spelled)
    have wild (w : tok.isWild) : render lookup (mirrorFrom k (tok :: ts)) = t := by
      obtain ⟨g, hs, u, rfl, rfl, -, hu⟩ := (Spells.wild_iff w).1 h
      have first : lookup (Decimal.text k) = some g := numbered 0 g rfl
      have rest (i : Nat) (g' : Text) (at_i : hs[i]? = some g') :
          lookup (Decimal.text (k + 1 + i)) = some g' := by
        rw [Nat.add_right_comm]
        exact numbered (i + 1) g' at_i
      rw [mirrorFrom_wild w, render_known (fun _ => not_isBrace_of_mem_text) first,
        ih hu rest later]
    cases tok with
    | lit c =>
      obtain ⟨u, rfl, hu⟩ := Spells.lit_iff.1 h
      have here (name : Text) (begins : Placeholder (c :: mirrorFrom k ts) 0 name) :
          lookup name = none :=
        unknown name begins.1 (placeholder_of_mirrorFrom begins)
      rw [mirrorFrom, render_cons here, ih hu numbered later]
    | one => exact wild rfl
    | many => exact wild rfl

/-- Filled with the captures of a match, the template of a pattern is the candidate. -/
theorem expand_mirror_of_spells {raw candidate : Text} {gs : List Text}
    (h : Spells (Token.scan raw) gs candidate) (unnamed : NamesNoCapture (Token.scan raw)) :
    expand (mirror raw) ⟨candidate, gs⟩ = candidate := by
  refine render_mirrorFrom h ?_ ?_
  · intro i g at_i
    rw [lookupCaptures_text, Nat.add_comm]
    exact at_i
  · intro name free spelled
    refine lookupCaptures_eq_none fun k number => ?_
    rw [h.length_groups]
    exact unnamed name k free spelled number

end Template

namespace Cache

/-- Whatever a matcher has been through, a candidate that matches comes back out of the template of
its pattern, unless literals of the pattern ask for a capture by position; any other candidate gives
nothing. -/
theorem expand_mirror (history : List Operation) (raw candidate : Text) :
    let ts := Token.scan raw
    let rendered :=
      ((history.foldl perform empty).expand raw candidate (Template.mirror raw)).value.1
    (CanSpell ts candidate → Template.NamesNoCapture ts → rendered = some candidate) ∧
      (¬ CanSpell ts candidate → rendered = none) := by
  intro ts rendered
  have answer : rendered = ((Search.groups? ts candidate).map (⟨candidate, ·⟩)).map
      (Template.expand (Template.mirror raw)) := by
    rw [← Pattern.captures_compile]
    exact congrArg Prod.fst ((sound_empty.history history).expand_eq _ _ _)
  have decided : (Search.groups? ts candidate).isSome ↔ CanSpell ts candidate := by
    rw [← Search.spells_eq_isSome, Search.spells_iff]
  rw [answer, ← decided]
  cases found : Search.groups? ts candidate with
  | none => simp
  | some gs =>
    have spelled : Spells ts gs candidate := (Search.spells_of_groups? found).1
    refine ⟨fun _ unnamed => ?_, by simp⟩
    exact congrArg some (Template.expand_mirror_of_spells spelled unnamed)

/-- Braces in front of wildcards are not taken together with those of their placeholders. -/
theorem expand_mirror_braces :
    let raw := "\x7b*.\x7b**".toList
    let candidate := "\x7ba.\x7bb/c".toList
    CanSpell (Token.scan raw) candidate ∧ Template.NamesNoCapture (Token.scan raw) ∧
      ((empty.perform (.preload [raw, ['*']])).expand raw candidate
        "\x7b\x7b1\x7d.\x7b\x7b2\x7d".toList).value.1 = some candidate := by
  intro raw candidate
  have spelled : CanSpell (Token.scan raw) candidate := Search.spells_iff.1 (by decide)
  have unnamed : Template.NamesNoCapture (Token.scan raw) := by
    intro name k _ spelled
    have closes : Token.lit '}' ∈ Token.scan raw :=
      spelled.subset (by simp [Token.literals])
    exact absurd closes (by decide)
  exact ⟨spelled, unnamed,
    (expand_mirror [.preload [raw, ['*']]] raw candidate).1 spelled unnamed⟩

end Cache

end PathGlob
