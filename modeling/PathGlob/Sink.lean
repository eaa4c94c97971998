import PathGlob.Writer

namespace PathGlob

/-- The bytes of each write that took some, the latest first, the room that is left (no bound if
absent), and whether flushing fails. -/
structure Sink where
  chunks : List (List UInt8)
  room : Option Nat
  failsFlush : Bool
  deriving DecidableEq, Repr

namespace Sink

/-- A sink that has taken nothing yet. -/
def withRoom (room : Option Nat) (failsFlush : Bool) : Sink :=
  ⟨[], room, failsFlush⟩

def unbounded : Sink :=
  withRoom none false

def taken (s : Sink) : List UInt8 :=
  s.chunks.reverse.flatten

def full : String := "sink full"

def notFlushed : String := "flush failed"

theorem min_lt (room : Nat) (bytes : List UInt8) : min room bytes.length < bytes.length + 1 :=
  Nat.lt_succ_of_le (Nat.min_le_right room bytes.length)

/-- Offers bytes. As many are taken as there is room for; where there is none, the write fails. -/
def write (s : Sink) (bytes : List UInt8) :
    Except WriteFault (Fin (bytes.length + 1)) × Sink :=
  match s.room with
  | none => (.ok (Fin.last bytes.length), { s with chunks := bytes :: s.chunks })
  | some room =>
    if room = 0 && !bytes.isEmpty then (.error (.failed full), s)
    else
      (.ok ⟨min room bytes.length, min_lt room bytes⟩,
        { s with chunks := bytes.take room :: s.chunks, room := some (room - bytes.length) })

def flush (s : Sink) : Except String Unit × Sink :=
  (if s.failsFlush then .error notFlushed else .ok (), s)

theorem not_interrupted (s : Sink) (bytes : List UInt8) :
    (s.write bytes).1 ≠ .error .interrupted := by
  unfold write
  split
  · simp
  · split <;> simp

instance : Writer Sink where
  write := write
  flush := flush
  settles bytes := by
    refine ⟨fun s => ⟨s, fun later stopped => ?_⟩⟩
    exact absurd (congrArg Prod.fst stopped) (s.not_interrupted bytes)

theorem write_of_full {s : Sink} {bytes : List UInt8} (offered : bytes ≠ [])
    (noRoom : s.room = some 0) : s.write bytes = (.error (.failed full), s) := by
  simp [write, noRoom, offered]

/-- Where there is room, the sink takes what fits. -/
theorem write_of_room {s : Sink} {bytes : List UInt8} (offered : bytes ≠ [])
    (room : s.room ≠ some 0) :
    ∃ n v, s.write bytes = (.ok n, v) ∧ 0 < n.val ∧ (∀ r, s.room = some r → n.val ≤ r) ∧
      v.taken = s.taken ++ bytes.take n ∧ v.room = s.room.map (· - n.val) := by
  have positive : 0 < bytes.length := List.length_pos_iff.2 offered
  cases bound : s.room with
  | none =>
    refine ⟨Fin.last bytes.length, { s with chunks := bytes :: s.chunks }, ?_, positive, ?_, ?_, ?_⟩
    · rw [write, bound]
    · simp
    · simp [taken]
    · simp [bound]
  | some r =>
    have some_room : r ≠ 0 := fun e => room (by rw [bound, e])
    refine ⟨⟨min r bytes.length, min_lt r bytes⟩,
      { s with chunks := bytes.take r :: s.chunks, room := some (r - bytes.length) }, ?_, ?_, ?_,
      ?_, ?_⟩
    · simp [write, bound, some_room]
    · exact Nat.lt_min.2 ⟨Nat.pos_of_ne_zero some_room, positive⟩
    · rintro _ ⟨⟩
      exact Nat.min_le_left r bytes.length
    · simp [taken, ← List.take_eq_take_min]
    · have : r - bytes.length = r - min r bytes.length := by omega
      simp [this]

end Sink

end PathGlob
