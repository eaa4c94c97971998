import PathGlob.Proofs.Mirror
import PathGlob.Proofs.Output

/-!
# Lines without a template

A run without a template joins the captures of a match by the separator. This is no format of its
own: the placeholders of all positions, joined by the same separator, are a template for it
(`expand_positions`), as long as the separator does not itself ask for a capture. Other braces in it
do no harm, since a brace of the separator and one of a position are never taken for a placeholder
together (`Placeholder.of_append_open`).
-/

namespace PathGlob

namespace Template

variable {lookup : Text → Option Text}

/-- What stops before an opening brace lies in front of it. -/
theorem prefix_of_prefix_append_open {s p t : Text} (plain : '{' ∉ p) (h : p <+: s ++ '{' :: t) :
    p <+: s := by
  by_cases fits : p.length ≤ s.length
  · exact List.prefix_of_prefix_length_le h (List.prefix_append s _) fits
  · have reaches : s ++ ['{'] <+: p := by
      refine List.prefix_of_prefix_length_le ⟨t, by simp⟩ h ?_
      rw [List.length_append, List.length_singleton]
      omega
    exact absurd (reaches.subset (by simp)) plain

theorem Placeholder.of_append_open {c : Char} {s t name : Text}
    (h : Placeholder (c :: (s ++ '{' :: t)) 0 name) : Placeholder (c :: s) 0 name := by
  obtain ⟨rfl, free, after, behind⟩ := zero_iff.1 h
  have plain : '{' ∉ name ++ ['}'] := by simp [open_not_mem free]
  have read : name ++ ['}'] <+: s ++ '{' :: t := ⟨after, by simp [behind]⟩
  obtain ⟨after, inside⟩ := prefix_of_prefix_append_open plain read
  exact zero_iff.2 ⟨rfl, free, after, by simp [← inside]⟩

/-- A text in which no placeholder is known stands for itself, also in front of an opening brace. -/
theorem render_unknown_append {s : Text}
    (unknown : ∀ i name, Placeholder s i name → lookup name = none) (t : Text) :
    render lookup (s ++ '{' :: t) = s ++ render lookup ('{' :: t) := by
  induction s with
  | nil => rfl
  | cons c s ih =>
    have here (name : Text) (begins : Placeholder (c :: (s ++ '{' :: t)) 0 name) :
        lookup name = none :=
      unknown 0 name begins.of_append_open
    have later (i : Nat) (name : Text) (behind : Placeholder s i name) : lookup name = none :=
      unknown (1 + i) name ((Placeholder.append_iff [c]).2 behind)
    rw [List.cons_append, render_cons here, ih later]
    rfl

def position (i : Nat) : Text :=
  '{' :: (Decimal.text i ++ ['}'])

/-- The template of all positions up to one, with a separator between them. -/
def positions (separator : Text) (last : Nat) : Text :=
  Report.joined separator ((List.range (last + 1)).map position)

example : positions ", ".toList 2 = "\x7b0\x7d, \x7b1\x7d, \x7b2\x7d".toList := by
  decide

theorem render_position_append {i : Nat} {value : Text}
    (known : lookup (Decimal.text i) = some value) (t : Text) :
    render lookup (position i ++ t) = value ++ render lookup t := by
  have split : position i ++ t = '{' :: (Decimal.text i ++ '}' :: t) := by simp [position]
  rw [split, render_known (fun _ => not_isBrace_of_mem_text) known]

/-- Positions in a row, each behind a separator that asks for nothing, give their values behind the
same separator. -/
theorem render_positions {separator : Text}
    (unknown : ∀ i name, Placeholder separator i name → lookup name = none)
    {values : List Text} {k : Nat}
    (numbered : ∀ i g, values[i]? = some g → lookup (Decimal.text (k + i)) = some g) :
    render lookup ((List.range' k values.length).flatMap fun i => separator ++ position i) =
      values.flatMap (separator ++ ·) := by
  -- Each value uses up one number, and the separator stands in front of a brace each time.
  induction values generalizing k with
  | nil => exact render_nil
  | cons value rest ih =>
    have first : lookup (Decimal.text k) = some value := numbered 0 value rfl
    have later (i : Nat) (g : Text) (at_i : rest[i]? = some g) :
        lookup (Decimal.text (k + 1 + i)) = some g := by
      rw [Nat.add_right_comm]
      exact numbered (i + 1) g at_i
    calc render lookup ((List.range' k (value :: rest).length).flatMap
            fun i => separator ++ position i)
        = render lookup (separator ++ (position k ++
            (List.range' (k + 1) rest.length).flatMap fun i => separator ++ position i)) := by
          rw [List.length_cons, List.range'_succ, List.flatMap_cons, List.append_assoc]
      _ = separator ++ render lookup (position k ++
            (List.range' (k + 1) rest.length).flatMap fun i => separator ++ position i) :=
          render_unknown_append unknown _
      _ = separator ++ (value ++ rest.flatMap (separator ++ ·)) := by
          rw [render_position_append first, ih later]
      _ = (value :: rest).flatMap (separator ++ ·) := by
          rw [List.flatMap_cons, List.append_assoc]

/-- No placeholder of a separator has the name of a position up to the last one. -/
def AsksForNone (separator : Text) (last : Nat) : Prop :=
  ∀ i name k, Placeholder separator i name → Decimal.natural? name = some k → last < k

/-- Filled with captures, the template of all their positions is the captures joined. -/
theorem expand_positions {separator : Text} {c : Captures}
    (silent : AsksForNone separator c.groups.length) :
    expand (positions separator c.groups.length) c = Report.joined separator c.items := by
  have unknown (i : Nat) (name : Text) (here : Placeholder separator i name) :
      lookupCaptures c name = none :=
    lookupCaptures_eq_none fun k => silent i name k here
  have numbered (i : Nat) (g : Text) (at_i : c.groups[i]? = some g) :
      lookupCaptures c (Decimal.text (1 + i)) = some g := by
    rw [lookupCaptures_text, Nat.add_comm, Captures.get?_succ]
    exact at_i
  rw [expand, positions, List.range_eq_range', List.range'_succ, List.map_cons, Report.joined_cons,
    List.flatMap_map, render_position_append (lookupCaptures_text c 0),
    render_positions unknown numbered, Captures.items, Report.joined_cons]

end Template

namespace Report

variable {σ : Type} [Writer σ]

/-- Without a template, a run writes what it writes with the template of all positions joined by
its separator, and comes to the same outcome, whatever the candidates and the braces of the
separator. -/
theorem run_positions (o : Options) (settings : Settings) (w : σ)
    (silent : Template.AsksForNone o.separator (Token.wildcards (Token.scan o.pattern))) :
    let template :=
      Template.positions o.separator (Token.wildcards (Token.scan o.pattern))
    (run { o with template := none } settings w).value =
      (run { o with template := some template } settings w).value := by
  intro template
  have same : lines { o with template := none } o.candidates =
      lines { o with template := some template } o.candidates := by
    refine List.map_congr_left fun c mem => ?_
    obtain ⟨candidate, -, found⟩ := List.mem_filterMap.1 mem
    have length := Pattern.length_groups_of_captures found
    rw [← line_eq_shown, ← line_eq_shown, line, line]
    simp only [template, ← length]
    rw [← length] at silent
    exact (Template.expand_positions silent).symm
  rw [run_eq, run_eq]
  simp only
  rw [same]
  rfl

/-- A brace that closes and then one that opens ask for nothing, even between the positions. -/
theorem run_positions_braces :
    let o : Options := ⟨[], none, "\x7d\x7b".toList, "*/**".toList, ["a/b/c".toList, ['d']]⟩
    let template := "\x7b0\x7d\x7d\x7b\x7b1\x7d\x7d\x7b\x7b2\x7d".toList
    Template.AsksForNone o.separator (Token.wildcards (Token.scan o.pattern)) ∧
      (run o ⟨0, []⟩ Sink.unbounded).value =
        (run { o with template := some template } ⟨0, []⟩ Sink.unbounded).value := by
  intro o template
  have silent : Template.AsksForNone o.separator (Token.wildcards (Token.scan o.pattern)) := by
    intro i name k here _
    have inside : i < 2 := here.lt_length
    obtain ⟨-, after, whole⟩ := here
    cases i with
    | zero => cases whole
    | succ i =>
      obtain rfl : i = 0 := by omega
      have nothing : name ++ ['}'] ++ after = [] := (List.cons.inj whole).2
      simp at nothing
  have written : template =
      Template.positions o.separator (Token.wildcards (Token.scan o.pattern)) := by
    decide
  refine ⟨silent, ?_⟩
  rw [written]
  exact run_positions o ⟨0, []⟩ Sink.unbounded silent

end Report

end PathGlob
