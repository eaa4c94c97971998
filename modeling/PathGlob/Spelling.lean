import PathGlob.Token

/-!
# Spelling a text with tokens

Tokens spell a text when each wildcard is given a text of its own, free of separators for `one`,
and all of it appended gives the text. `Spells` is this relation; `Spells.append` joins two
spellings and `length_groups` counts the texts given to wildcards. `CanSpell` leaves these texts
open.

Of several spellings of one text the preferred one gives the leftmost wildcard as much as possible,
then the next one, and so on: `Preferred` compares the lengths in that order. Of two spellings only
one is preferred (`eq_of_preferred`).
-/

namespace PathGlob

/-- `Spells ts gs t`: the tokens `ts` spell `t`, with the texts `gs` in place of the wildcards. -/
inductive Spells : List Token → List Text → Text → Prop where
  | nil : Spells [] [] []
  | lit {ts gs t} (c : Char) : Spells ts gs t → Spells (.lit c :: ts) gs (c :: t)
  | one {ts gs t} (g : Text) : Token.separator ∉ g → Spells ts gs t →
      Spells (.one :: ts) (g :: gs) (g ++ t)
  | many {ts gs t} (g : Text) : Spells ts gs t → Spells (.many :: ts) (g :: gs) (g ++ t)

/-- Lengths compared from the left: the first difference decides, and the longer is preferred. -/
def Preferred : List Text → List Text → Prop
  | g :: gs, h :: hs => h.length < g.length ∨ g.length = h.length ∧ Preferred gs hs
  | _, _ => True

namespace Spells

theorem nil_iff {gs : List Text} {t : Text} : Spells [] gs t ↔ gs = [] ∧ t = [] := by
  constructor
  · rintro ⟨⟩
    exact ⟨rfl, rfl⟩
  · rintro ⟨rfl, rfl⟩
    exact .nil

theorem lit_iff {c : Char} {ts : List Token} {gs : List Text} {t : Text} :
    Spells (.lit c :: ts) gs t ↔ ∃ u, t = c :: u ∧ Spells ts gs u := by
  constructor
  · rintro ⟨⟩
    next u h => exact ⟨u, rfl, h⟩
  · rintro ⟨u, rfl, h⟩
    exact .lit c h

theorem wild_iff {tok : Token} (wild : tok.isWild) {ts : List Token} {gs : List Text} {t : Text} :
    Spells (tok :: ts) gs t ↔
      ∃ g hs u, gs = g :: hs ∧ t = g ++ u ∧ (∀ x ∈ g, tok.covers x) ∧ Spells ts hs u := by
  cases tok with
  | lit c => cases wild
  | one =>
    constructor
    · rintro ⟨⟩
      next hs u g hg h =>
        refine ⟨g, hs, u, rfl, rfl, ?_, h⟩
        intro x hx
        have : x ≠ Token.separator := fun e => hg (e ▸ hx)
        simpa [Token.covers] using this
    · rintro ⟨g, hs, u, rfl, rfl, hg, h⟩
      refine .one g ?_ h
      intro hx
      simpa [Token.covers] using hg _ hx
  | many =>
    constructor
    · rintro ⟨⟩
      next hs u g h => exact ⟨g, hs, u, rfl, rfl, fun _ _ => rfl, h⟩
    · rintro ⟨g, hs, u, rfl, rfl, -, h⟩
      exact .many g h

theorem append {ts us : List Token} {gs hs : List Text} {t u : Text}
    (h : Spells ts gs t) (k : Spells us hs u) : Spells (ts ++ us) (gs ++ hs) (t ++ u) := by
  induction h with
  | nil => exact k
  | lit c _ ih => exact .lit c ih
  | one g hg _ ih => simpa using Spells.one g hg ih
  | many g _ ih => simpa using Spells.many g ih

theorem length_groups {ts : List Token} {gs : List Text} {t : Text} (h : Spells ts gs t) :
    gs.length = Token.wildcards ts := by
  induction h with
  | nil => rfl
  | lit _ _ ih => simpa [Token.wildcards, List.countP_cons, Token.isWild] using ih
  | one _ _ _ ih => simpa [Token.wildcards, List.countP_cons, Token.isWild] using ih
  | many _ _ ih => simpa [Token.wildcards, List.countP_cons, Token.isWild] using ih

theorem literals (t : Text) : Spells (Token.literals t) [] t := by
  induction t with
  | nil => exact .nil
  | cons c t ih => exact .lit c ih

theorem literals_append_iff {lead t : Text} {ts : List Token} {gs : List Text} :
    Spells (Token.literals lead ++ ts) gs t ↔ ∃ u, t = lead ++ u ∧ Spells ts gs u := by
  induction lead generalizing t with
  | nil => simp [Token.literals]
  | cons c lead ih =>
    simp only [Token.literals, List.map_cons, List.cons_append] at ih ⊢
    simp only [lit_iff, ih]
    constructor
    · rintro ⟨_, rfl, u, rfl, h⟩
      exact ⟨u, rfl, h⟩
    · rintro ⟨u, rfl, h⟩
      exact ⟨_, rfl, u, rfl, h⟩

theorem append_literals_iff {trail t : Text} {ts : List Token} {gs : List Text} :
    Spells (ts ++ Token.literals trail) gs t ↔ ∃ u, t = u ++ trail ∧ Spells ts gs u := by
  constructor
  · intro h
    induction ts generalizing t gs with
    | nil =>
      obtain ⟨u, rfl, hu⟩ :=
        literals_append_iff.1 (show Spells (Token.literals trail ++ []) gs t by simpa using h)
      obtain ⟨rfl, rfl⟩ := nil_iff.1 hu
      exact ⟨[], by simp, .nil⟩
    | cons tok ts ih =>
      rw [List.cons_append] at h
      cases h with
      | lit c h =>
        obtain ⟨u, rfl, hu⟩ := ih h
        exact ⟨c :: u, rfl, .lit c hu⟩
      | one g hg h =>
        obtain ⟨u, rfl, hu⟩ := ih h
        exact ⟨g ++ u, by simp, .one g hg hu⟩
      | many g h =>
        obtain ⟨u, rfl, hu⟩ := ih h
        exact ⟨g ++ u, by simp, .many g hu⟩
  · rintro ⟨u, rfl, h⟩
    simpa using h.append (literals trail)

/-- Spellings of one text that are preferred to each other are the same. -/
theorem eq_of_preferred {ts : List Token} {gs hs : List Text} {t : Text} (h : Spells ts gs t)
    (k : Spells ts hs t) (hp : Preferred gs hs) (kp : Preferred hs gs) : gs = hs := by
  induction ts generalizing gs hs t with
  | nil => rw [(nil_iff.1 h).1, (nil_iff.1 k).1]
  | cons tok ts ih =>
    have wild (w : tok.isWild) : gs = hs := by
      obtain ⟨g, gs, u, rfl, rfl, -, hu⟩ := (wild_iff w).1 h
      obtain ⟨g', hs, v, rfl, e, -, hv⟩ := (wild_iff w).1 k
      simp only [Preferred] at hp kp
      have same : g.length = g'.length := by omega
      obtain ⟨rfl, rfl⟩ := List.append_inj e same
      rw [ih hu hv (by simpa using hp) (by simpa using kp)]
    cases tok with
    | lit c =>
      obtain ⟨u, rfl, hu⟩ := lit_iff.1 h
      obtain ⟨v, e, hv⟩ := lit_iff.1 k
      cases e
      exact ih hu hv hp kp
    | one => exact wild rfl
    | many => exact wild rfl

end Spells

/-- Tokens spell a text with some texts for the wildcards. -/
def CanSpell (ts : List Token) (t : Text) : Prop :=
  ∃ gs, Spells ts gs t

namespace CanSpell

theorem nil_iff {t : Text} : CanSpell [] t ↔ t = [] := by
  simp [CanSpell, Spells.nil_iff]

theorem lit_iff {c : Char} {ts : List Token} {t : Text} :
    CanSpell (.lit c :: ts) t ↔ ∃ u, t = c :: u ∧ CanSpell ts u := by
  simp only [CanSpell, Spells.lit_iff]
  constructor
  · rintro ⟨gs, u, rfl, h⟩
    exact ⟨u, rfl, gs, h⟩
  · rintro ⟨u, rfl, gs, h⟩
    exact ⟨gs, u, rfl, h⟩

theorem wild_iff {tok : Token} (wild : tok.isWild) {ts : List Token} {t : Text} :
    CanSpell (tok :: ts) t ↔ ∃ g u, t = g ++ u ∧ (∀ x ∈ g, tok.covers x) ∧ CanSpell ts u := by
  simp only [CanSpell, Spells.wild_iff wild]
  constructor
  · rintro ⟨gs, g, hs, u, rfl, rfl, hg, h⟩
    exact ⟨g, u, rfl, hg, hs, h⟩
  · rintro ⟨g, u, rfl, hg, hs, h⟩
    exact ⟨g :: hs, g, hs, u, rfl, rfl, hg, h⟩

theorem wild_nil {tok : Token} (wild : tok.isWild) {ts : List Token} :
    CanSpell (tok :: ts) [] ↔ CanSpell ts [] := by
  rw [wild_iff wild]
  constructor
  · rintro ⟨g, u, h, -, hu⟩
    obtain ⟨rfl, rfl⟩ := List.append_eq_nil_iff.1 h.symm
    exact hu
  · intro h
    exact ⟨[], [], rfl, by simp, h⟩

theorem wild_cons {tok : Token} (wild : tok.isWild) {ts : List Token} {x : Char} {t : Text} :
    CanSpell (tok :: ts) (x :: t) ↔
      CanSpell ts (x :: t) ∨ tok.covers x ∧ CanSpell (tok :: ts) t := by
  rw [wild_iff wild, wild_iff wild]
  constructor
  · rintro ⟨g, u, h, hg, hu⟩
    cases g with
    | nil => exact .inl (by simpa [h] using hu)
    | cons y g =>
      simp only [List.cons_append, List.cons.injEq] at h
      obtain ⟨rfl, rfl⟩ := h
      exact .inr ⟨hg x (by simp), g, u, rfl, fun z hz => hg z (by simp [hz]), hu⟩
  · rintro (h | ⟨hx, g, u, rfl, hg, hu⟩)
    · exact ⟨[], x :: t, rfl, by simp, h⟩
    · refine ⟨x :: g, u, rfl, ?_, hu⟩
      intro z hz
      rcases List.mem_cons.1 hz with rfl | hz
      · exact hx
      · exact hg z hz

end CanSpell

end PathGlob
