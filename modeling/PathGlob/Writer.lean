import PathGlob.Text.Bytes

/-!
# Writing bytes

A writer takes bytes, but not always as many as it is offered, and it may fail. `Writer.writeAll`
offers what is left until all is taken. A write that was interrupted has done nothing and is made
again (`Writer.attempt`). Of a writer that interrupted one write forever there would be no answer,
so a writer promises that it does not: `Writer.settles`.
-/

namespace PathGlob

inductive WriteFault where
  | interrupted
  | failed (reason : String)
  deriving DecidableEq, Repr

/-- What bytes can be written to. A write takes bytes from the front of those offered and tells how
many, or it says why it did not; a flush may fail too. -/
class Writer (σ : Type) where
  write : σ → (bytes : List UInt8) → Except WriteFault (Fin (bytes.length + 1)) × σ
  flush : σ → Except String Unit × σ
  /-- A write that is made again and again is not interrupted each time. -/
  settles : ∀ bytes, WellFounded fun later now => write now bytes = (.error .interrupted, later)

namespace Writer

variable {σ : Type} [Writer σ] {w v : σ} {bytes : List UInt8} {reason : String}

/-- A write, made again as long as it is interrupted. -/
def attempt (w : σ) (bytes : List UInt8) : Except String (Fin (bytes.length + 1)) × σ :=
  match _h : write w bytes with
  | (.error .interrupted, later) => attempt later bytes
  | (.error (.failed reason), later) => (.error reason, later)
  | (.ok n, later) => (.ok n, later)
termination_by (settles bytes).wrap w
decreasing_by exact _h

def stalled : String := "failed to write whole buffer"

/-- Writes until every byte is taken, unless a write fails or takes nothing. -/
def writeAll (w : σ) (bytes : List UInt8) : Except String Unit × σ :=
  if bytes.isEmpty then (.ok (), w)
  else
    match attempt w bytes with
    | (.error reason, w) => (.error reason, w)
    | (.ok n, w) => if n.val = 0 then (.error stalled, w) else writeAll w (bytes.drop n)
termination_by bytes.length
decreasing_by
  simp only [List.isEmpty_iff] at *
  have := List.length_pos_iff.2 ‹¬ bytes = []›
  rw [List.length_drop]
  omega

def writeLine (w : σ) (line : Text) : Except String Unit × σ :=
  match writeAll w line.bytes with
  | (.error reason, w) => (.error reason, w)
  | (.ok (), w) => writeAll w (Text.bytes ['\n'])

theorem writeAll_nil (w : σ) : writeAll w [] = (.ok (), w) := by
  rw [writeAll]
  rfl

/-- A write that takes some bytes is followed by one for the rest. -/
theorem writeAll_of_taken {n : Fin (bytes.length + 1)} (offered : bytes ≠ [])
    (taken : attempt w bytes = (.ok n, v)) (some_taken : 0 < n.val) :
    writeAll w bytes = writeAll v (bytes.drop n) := by
  have offered : bytes.isEmpty = false := by simpa using offered
  rw [writeAll, offered, taken]
  simp [Nat.ne_of_gt some_taken]

theorem writeAll_of_failed (offered : bytes ≠ []) (failed : attempt w bytes = (.error reason, v)) :
    writeAll w bytes = (.error reason, v) := by
  have offered : bytes.isEmpty = false := by simpa using offered
  rw [writeAll, offered, failed]
  rfl

end Writer

end PathGlob
