import PathGlob.Proofs.Transparency
import PathGlob.Report

/-!
# What a run writes

A run offers the lines of all matches to its writer one after the other, each in two pieces, and the
writer may take a piece in as many portions as it likes. None of this shows: the writer ends up with
the bytes of all lines, or with as many of them as it has room for.

`run_eq` parts matching from writing. `Limited` describes such a writer and `Offered` what becomes
of bytes offered to it; `Offered.append` and `Offered.append_of_error` say that offering two pieces
is offering them as one.
-/

namespace PathGlob

variable {σ : Type} [Writer σ]

/-- Writes lines in order, up to the first write that fails. -/
def Writer.writeLines (w : σ) : List Text → Except String Unit × σ
  | [] => (.ok (), w)
  | line :: rest =>
    match Writer.writeLine w line with
    | (.error reason, w) => (.error reason, w)
    | (.ok (), w) => writeLines w rest

/-- A writer that takes a certain number of bytes in all, or any number, but as few of them at a
time as it likes, and then fails every write. It may interrupt a write, which takes nothing. The
bytes taken can be told from its state. -/
structure Limited (σ : Type) [Writer σ] where
  taken : σ → List UInt8
  /-- How many bytes there is still room for; no bound if absent. -/
  room : σ → Option Nat
  interrupts : ∀ w bytes v, Writer.write w bytes = (.error .interrupted, v) →
    taken v = taken w ∧ room v = room w
  takes : ∀ w bytes, bytes ≠ [] → room w ≠ some 0 →
    (∃ v, Writer.write w bytes = (.error .interrupted, v)) ∨
      ∃ n v, Writer.write w bytes = (.ok n, v) ∧ 0 < n.val ∧
        (∀ r, room w = some r → n.val ≤ r) ∧ taken v = taken w ++ bytes.take n ∧
        room v = (room w).map (· - n.val)
  refuses : ∀ w bytes, bytes ≠ [] → room w = some 0 →
    ∃ fault v, Writer.write w bytes = (.error fault, v) ∧ taken v = taken w
  flushes : ∀ w, taken (Writer.flush w).2 = taken w

/-- A sink is such a writer, and interrupts no write. -/
def Sink.limited : Limited Sink where
  taken := taken
  room := room
  interrupts s bytes _ stopped :=
    absurd (congrArg Prod.fst stopped) (s.not_interrupted bytes)
  takes _ _ offered room := .inr (write_of_room offered room)
  refuses s _ offered noRoom := ⟨.failed full, s, write_of_full offered noRoom, rfl⟩
  flushes _ := rfl

namespace Limited

/-- `Offered b w bytes result`: offering bytes to `w` comes to `result`. Either there is room for
all of them, or what fits is taken and a write of some of the rest fails. -/
inductive Offered (b : Limited σ) (w : σ) (bytes : List UInt8) : Except String Unit × σ → Prop where
  | all {v : σ} : (∀ r, b.room w = some r → bytes.length ≤ r) →
      b.taken v = b.taken w ++ bytes → b.room v = (b.room w).map (· - bytes.length) →
      Offered b w bytes (.ok (), v)
  | part {r : Nat} {v u : σ} {rest : List UInt8} {reason : String} :
      b.room w = some r → r < bytes.length → b.room v = some 0 → rest ≠ [] →
      Writer.write v rest = (.error (.failed reason), u) →
      b.taken u = b.taken w ++ bytes.take r →
      Offered b w bytes (.error reason, u)

variable {b : Limited σ} {w v : σ} {x y : List UInt8} {result : Except String Unit × σ}

/-- Interruptions apart, a writer with room left takes something. -/
theorem takes_attempt (b : Limited σ) (w : σ) {bytes : List UInt8} (offered : bytes ≠ [])
    (room : b.room w ≠ some 0) :
    ∃ n v, Writer.attempt w bytes = (.ok n, v) ∧ 0 < n.val ∧
      (∀ r, b.room w = some r → n.val ≤ r) ∧ b.taken v = b.taken w ++ bytes.take n ∧
      b.room v = (b.room w).map (· - n.val) := by
  fun_induction Writer.attempt w bytes with
  | case1 w v again ih =>
    obtain ⟨same, left⟩ := b.interrupts w bytes v again
    simpa only [same, left] using ih (by rwa [left])
  | case2 w reason v failed =>
    rcases b.takes w bytes offered room with ⟨u, again⟩ | ⟨n, u, written, -⟩
    · cases failed.symm.trans again
    · cases failed.symm.trans written
  | case3 w n v written =>
    rcases b.takes w bytes offered room with ⟨u, again⟩ | ⟨m, u, written', rest⟩
    · cases written.symm.trans again
    · cases written.symm.trans written'
      exact ⟨n, v, rfl, rest⟩

/-- One without room fails, if not at once. -/
theorem refuses_attempt (b : Limited σ) (w : σ) {bytes : List UInt8} (offered : bytes ≠ [])
    (room : b.room w = some 0) :
    ∃ reason u v, Writer.attempt w bytes = (.error reason, v) ∧ b.room u = some 0 ∧
      Writer.write u bytes = (.error (.failed reason), v) ∧ b.taken v = b.taken w := by
  fun_induction Writer.attempt w bytes with
  | case1 w v again ih =>
    obtain ⟨same, left⟩ := b.interrupts w bytes v again
    simpa only [same] using ih (by rw [left, room])
  | case2 w reason v failed =>
    obtain ⟨fault, u, refused, taken⟩ := b.refuses w bytes offered room
    cases failed.symm.trans refused
    exact ⟨reason, w, v, rfl, room, failed, taken⟩
  | case3 w n v written =>
    obtain ⟨fault, u, refused, -⟩ := b.refuses w bytes offered room
    cases written.symm.trans refused

theorem Offered.append (first : Offered b w x (.ok (), v)) (second : Offered b v y result) :
    Offered b w (x ++ y) result := by
  cases first with
  | all fits taken room =>
    have shrunk (r : Nat) (bound : b.room w = some r) : b.room v = some (r - x.length) := by
      rw [room, bound]
      rfl
    cases second with
    | all fits' taken' room' =>
      refine .all ?_ (by rw [taken', taken, List.append_assoc]) ?_
      · intro r bound
        have := fits r bound
        have := fits' _ (shrunk r bound)
        rw [List.length_append]
        omega
      · rw [room', room, Option.map_map, List.length_append]
        congr 1
        funext r
        simp only [Function.comp_apply]
        omega
    | part bound exceeds full offered failed taken' =>
      -- The first piece fits whole, so the bytes that are left out belong to the second.
      cases free : b.room w with
      | none => rw [room, free] at bound; cases bound
      | some r =>
        obtain rfl : r - x.length = _ := Option.some.inj ((shrunk r free).symm.trans bound)
        have := fits r free
        refine .part free ?_ full offered failed ?_
        · rw [List.length_append]
          omega
        · rw [taken', taken, List.append_assoc, List.take_append, List.take_of_length_le this]

/-- Once a write has failed nothing more is offered. -/
theorem Offered.append_of_error {reason : String} (h : Offered b w x (.error reason, v)) :
    Offered b w (x ++ y) (.error reason, v) := by
  cases h with
  | part bound exceeds full offered failed taken =>
    refine .part bound ?_ full offered failed ?_
    · rw [List.length_append]
      omega
    · rw [taken, List.take_append_of_le_length (Nat.le_of_lt exceeds)]

theorem offered_nil (b : Limited σ) (w : σ) : Offered b w [] (.ok (), w) :=
  .all (by simp) (by simp) (by cases b.room w <;> rfl)

/-- The bytes taken are those offered, as far as there is room for them. -/
theorem Offered.taken {bytes : List UInt8} (h : Offered b w bytes result) :
    b.taken result.2 = b.taken w ++ (b.room w).elim bytes bytes.take := by
  cases h with
  | all fits taken room =>
    cases bound : b.room w with
    | none => exact taken
    | some r =>
      have whole : bytes.take r = bytes := List.take_of_length_le (fits r bound)
      rw [taken, Option.elim_some, whole]
  | part bound exceeds full offered failed taken => rw [taken, bound, Option.elim_some]

/-- However small the portions, they make up what was offered. -/
theorem offered_writeAll (b : Limited σ) (w : σ) (bytes : List UInt8) :
    Offered b w bytes (Writer.writeAll w bytes) := by
  -- A portion of at least one byte is taken each time, so what is left gets shorter.
  induction size : bytes.length using Nat.strongRecOn generalizing w bytes with
  | ind size ih =>
    subst size
    by_cases empty : bytes = []
    · subst empty
      rw [Writer.writeAll_nil]
      exact offered_nil b w
    · by_cases noRoom : b.room w = some 0
      · obtain ⟨reason, u, v, failed, full, refused, taken⟩ := b.refuses_attempt w empty noRoom
        rw [Writer.writeAll_of_failed empty failed]
        refine .part noRoom (List.length_pos_iff.2 empty) full empty refused ?_
        simp [taken]
      · obtain ⟨n, v, written, positive, bounded, taken, room⟩ := b.takes_attempt w empty noRoom
        rw [Writer.writeAll_of_taken empty written positive]
        have n_le : n.val ≤ bytes.length := Nat.le_of_lt_succ n.isLt
        have portion : Offered b w (bytes.take n) (.ok (), v) := by
          have length : (bytes.take n).length = n.val := List.length_take_of_le n_le
          exact .all (by rwa [length]) taken (by rw [length, room])
        have rest : Offered b v (bytes.drop n) (Writer.writeAll v (bytes.drop n)) := by
          refine ih (bytes.drop n).length ?_ v (bytes.drop n) rfl
          rw [List.length_drop]
          omega
        have both := portion.append rest
        rwa [List.take_append_drop] at both

theorem offered_writeLine (b : Limited σ) (w : σ) (line : Text) :
    Offered b w (line ++ ['\n']).bytes (Writer.writeLine w line) := by
  have first := offered_writeAll b w line.bytes
  rw [Text.bytes_append, Writer.writeLine]
  generalize Writer.writeAll w line.bytes = written at first
  match written with
  | (.error reason, v) => exact first.append_of_error
  | (.ok (), v) => exact first.append (offered_writeAll b v _)

/-- Lines are offered as one stretch of bytes. -/
theorem offered_writeLines (b : Limited σ) (w : σ) (lines : List Text) :
    Offered b w (lines.flatMap fun line => Text.bytes (line ++ ['\n']))
      (Writer.writeLines w lines) := by
  induction lines generalizing w with
  | nil => exact offered_nil b w
  | cons line rest ih =>
    have first := offered_writeLine b w line
    rw [List.flatMap_cons, Writer.writeLines]
    generalize Writer.writeLine w line = written at first
    match written with
    | (.error reason, v) => exact first.append_of_error
    | (.ok (), v) => exact first.append (ih v)

end Limited

namespace Report

/-- What a match shows: the template with its captures put in or, without a template, candidate and
captures with the separator between them. -/
def shown (o : Options) (c : Captures) : Text :=
  match o.template with
  | some template => Template.render (Template.lookupCaptures c) template
  | none => c.candidate ++ c.groups.flatMap (o.separator ++ ·)

theorem line_eq_shown (o : Options) (c : Captures) : line o c = shown o c := by
  rw [line, shown]
  cases o.template with
  | some template => rfl
  | none => exact joined_cons o.separator c.candidate c.groups

/-- What the candidates that match show, in their order. -/
def lines (o : Options) (candidates : List Text) : List Text :=
  (candidates.filterMap (Pattern.compile o.pattern).captures).map (shown o)

/-- All that a run has to write. -/
def output (o : Options) : List UInt8 :=
  (lines o o.candidates).flatMap fun line => Text.bytes (line ++ ['\n'])

def allMatch (o : Options) (candidates : List Text) : Bool :=
  candidates.all fun candidate => ((Pattern.compile o.pattern).captures candidate).isSome

/-- What a run comes to by whether all candidates matched and how writing went. -/
def outcome (all : Bool) : Except String Unit × σ → Except Error Bool × σ
  | (.ok (), out) => (.ok all, out)
  | (.error reason, out) => (.error (.output reason), out)

/-- Whatever the cache holds, the candidates come to their lines. -/
theorem each_eq (o : Options) (s : State σ) (sound : s.cache.Sound) (candidates : List Text) :
    (each o s candidates).value =
      outcome (s.all && allMatch o candidates)
        (Writer.writeLines s.out (lines o candidates)) := by
  -- The cache grows from candidate to candidate, but all that matters of it is that it is sound.
  induction candidates generalizing s with
  | nil => simp [each, lines, Writer.writeLines, outcome, allMatch]
  | cons candidate rest ih =>
    have asked : (s.cache.request o.pattern).Sound := sound.request o.pattern
    rw [each, Logged.value_bind, sound.captures_eq]
    cases found : (Pattern.compile o.pattern).captures candidate with
    | none =>
      simp only [Logged.value_bind]
      rw [ih _ asked]
      simp [lines, allMatch, found]
    | some values =>
      have first : lines o (candidate :: rest) = line o values :: lines o rest := by
        simp [lines, found, line_eq_shown]
      rw [first, Writer.writeLines]
      simp only
      match Writer.writeLine s.out (line o values) with
      | (.error reason, out) => rfl
      | (.ok (), out) =>
        rw [ih _ asked]
        simp [allMatch, found]

/-- A run writes the lines of the matches and flushes, whatever the settings of its cache. -/
theorem run_eq (o : Options) (settings : Settings) (w : σ) :
    (run o settings w).value =
      finish (outcome (allMatch o o.candidates)
        (Writer.writeLines w (lines o o.candidates))) := by
  have sound : (Cache.empty.perform (.preload settings.preload)).Sound :=
    Cache.sound_empty.perform _
  have written := each_eq o ⟨_, w, true⟩ sound o.candidates
  rw [Bool.true_and] at written
  rw [run, Logged.value_bind, Cache.ofSettings_eq, ← written]
  rfl

theorem taken_finish (b : Limited σ) (all : Bool) (written : Except String Unit × σ) :
    b.taken (finish (outcome all written)).2 = b.taken written.2 := by
  match written with
  | (.error reason, v) => rfl
  | (.ok (), v) =>
    have flushed := b.flushes v
    rw [outcome, finish]
    generalize Writer.flush v = ended at flushed
    match ended with
    | (.error reason, u) => exact flushed
    | (.ok (), u) => exact flushed

/-- A run writes a line for each candidate that matches: the template with its captures put in or,
without one, candidate and captures with the separator between them. A writer takes this as far as
there is room for it. Where there is not enough, the run ends with the error of the write that was
refused; else with that of flushing, if it fails; else it tells whether all candidates matched.
Settings have no part in this. -/
theorem run_limited (b : Limited σ) (o : Options) (settings : Settings) (w : σ) :
    let ended := (run o settings w).value
    let found := o.candidates.filterMap (Pattern.compile o.pattern).captures
    ((∀ template, o.template = some template →
        output o = found.flatMap fun c =>
          Text.bytes (Template.render (Template.lookupCaptures c) template ++ ['\n'])) ∧
      (o.template = none →
        output o = found.flatMap fun c =>
          Text.bytes (c.candidate ++ c.groups.flatMap (o.separator ++ ·) ++ ['\n']))) ∧
      b.taken ended.2 = b.taken w ++ (b.room w).elim (output o) (output o).take ∧
      ((∃ r, b.room w = some r ∧ r < (output o).length) →
        ∃ v rest reason, b.room v = some 0 ∧ rest ≠ [] ∧
          Writer.write v rest = (.error (.failed reason), ended.2) ∧
          ended.1 = .error (.output reason) ∧ exitStatus ended.1 = 2) ∧
      ((∀ r, b.room w = some r → (output o).length ≤ r) →
        ∃ v, b.taken v = b.taken w ++ output o ∧ (Writer.flush v).2 = ended.2 ∧
          (∀ reason, (Writer.flush v).1 = .error reason →
            ended.1 = .error (.output reason) ∧ exitStatus ended.1 = 2) ∧
          ((Writer.flush v).1 = .ok () →
            ended.1 = .ok (allMatch o o.candidates) ∧
              exitStatus ended.1 = if allMatch o o.candidates then 0 else 1)) ∧
      ∀ other, (run o other w).value = ended := by
  intro ended found
  have value : ended = finish (outcome (allMatch o o.candidates)
      (Writer.writeLines w (lines o o.candidates))) := run_eq o settings w
  have offered : b.Offered w (output o) (Writer.writeLines w (lines o o.candidates)) :=
    b.offered_writeLines w _
  have same (other : Settings) : (run o other w).value = ended := by
    rw [value, run_eq]
  have written : output o = found.flatMap fun c => Text.bytes (shown o c ++ ['\n']) :=
    List.flatMap_map _ _ _
  generalize Writer.writeLines w (lines o o.candidates) = attempted at value offered
  refine ⟨⟨fun template given => ?_, fun absent => ?_⟩, ?_, ?_, ?_, same⟩
  · simp only [written, shown, given]
  · simp only [written, shown, absent]
  · rw [value, taken_finish, offered.taken]
  · rintro ⟨r, bound, exceeds⟩
    cases offered with
    | all fits taken room => exact absurd (fits r bound) (Nat.not_le_of_lt exceeds)
    | @part _ v u rest reason _ _ full rest_ne failed taken =>
      rw [value]
      exact ⟨v, rest, reason, full, rest_ne, failed, rfl, rfl⟩
  · intro fits
    cases offered with
    | @all v _ taken room =>
      refine ⟨v, taken, ?_⟩
      rw [value, outcome, finish]
      match Writer.flush v with
      | (.error reason, u) => simp [exitStatus, statusFailed]
      | (.ok (), u) =>
        cases allMatch o o.candidates <;> simp [exitStatus, statusMatched, statusUnmatched]
    | part bound exceeds full rest_ne failed taken =>
      exact absurd (fits _ bound) (Nat.not_le_of_lt exceeds)

/-- A sink with room for half a line of a template, which would also fail to flush, after a
candidate that does not match; and one that takes the line in the format without a template. -/
theorem run_limited_half_line :
    let o : Options := ⟨[], some "<\x7b1\x7d>".toList, "; ".toList, ['*'], [['/'], ['a']]⟩
    let ended := (run o ⟨0, [['*']]⟩ (Sink.withRoom (some 2) true)).value
    let plain := { o with template := none }
    let joined := (run plain ⟨0, []⟩ Sink.unbounded).value
    (∃ r, some 2 = some r ∧ r < (output o).length) ∧
      ended.2.taken = Text.bytes "<a".toList ∧ exitStatus ended.1 = 2 ∧
      joined.2.taken = Text.bytes "a; a\n".toList := by
  intro o ended plain joined
  have rendered : Template.render (Template.lookupCaptures ⟨['a'], [['a']]⟩) "<\x7b1\x7d>".toList =
      "<a>".toList := by
    decide +kernel
  have found : o.candidates.filterMap (Pattern.compile o.pattern).captures =
      [⟨['a'], [['a']]⟩] := by
    decide
  obtain ⟨⟨template, -⟩, taken, refused, -⟩ :=
    run_limited Sink.limited o ⟨0, [['*']]⟩ (Sink.withRoom (some 2) true)
  obtain ⟨⟨-, no_template⟩, whole, -⟩ := run_limited Sink.limited plain ⟨0, []⟩ Sink.unbounded
  have written : output o = Text.bytes "<a>\n".toList := by
    rw [template _ rfl, found, List.flatMap_singleton, rendered]
    rfl
  have written_plain : output plain = Text.bytes "a; a\n".toList := by
    rw [no_template rfl, found]
    rfl
  have exceeds : ∃ r, some 2 = some r ∧ r < (output o).length := by
    refine ⟨2, rfl, ?_⟩
    rw [written]
    decide
  obtain ⟨v, rest, reason, -, -, -, -, status⟩ := refused exceeds
  refine ⟨exceeds, taken.trans ?_, status, whole.trans ?_⟩
  · rw [written]
    rfl
  · rw [written_plain]
    rfl

end Report

end PathGlob
