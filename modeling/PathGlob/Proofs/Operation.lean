import PathGlob.Matching

namespace PathGlob.Cache

/-- What can be done to a cache, directly or through a matcher that works on it. -/
inductive Operation where
  | get (raw : Text)
  | tryGet (raw : Text)
  | captures (raw candidate : Text)
  | isMatch (raw candidate : Text)
  | expand (raw candidate template : Text)
  | preload (raws : List Text)
  | contains (raw : Text)
  | size
  | isEmpty
  | clear
  deriving DecidableEq, Repr

def Operation.requests : Operation → List Text
  | .get raw | .tryGet raw | .captures raw _ | .isMatch raw _ | .expand raw _ _ => [raw]
  | .preload raws => raws
  | .contains _ | .size | .isEmpty | .clear => []

def perform (c : Cache) : Operation → Cache
  | .get raw => (c.get raw).value.2
  | .tryGet raw => (c.tryGet raw).value.2
  | .captures raw candidate => (c.captures raw candidate).value.2
  | .isMatch raw candidate => (c.isMatch raw candidate).value.2
  | .expand raw candidate template => (c.expand raw candidate template).value.2
  | .preload raws =>
    match (c.requestAll raws).value with
    | .ok loaded => loaded
    | .error _ => c
  | .contains _ | .size | .isEmpty => c
  | .clear => c.clear.value

def request (c : Cache) (raw : Text) : Cache :=
  (c.get raw).value.2

/-- A request for what is kept leaves the cache as it was. -/
theorem request_of_contains {c : Cache} {raw : Text} (kept : c.contains raw = true) :
    c.request raw = c := by
  obtain ⟨shared, found⟩ := Option.isSome_iff_exists.1 kept
  rw [request, value_get, found]

/-- Any other request keeps what it compiles. -/
theorem request_of_not_contains {c : Cache} {raw : Text} (missing : ¬ c.contains raw = true) :
    c.request raw = (c.keep raw (Pattern.compile raw)).2 := by
  have absent : c.find? raw = none := by simpa [contains] using missing
  rw [request, value_get, absent]

theorem requestAll_eq (c : Cache) (raws : List Text) :
    (c.requestAll raws).value = .ok (raws.foldl request c) := by
  induction raws generalizing c with
  | nil => rfl
  | cons raw raws ih =>
    rw [requestAll, Logged.value_bind, tryGet_eq]
    exact ih _

/-- A matcher made from settings has been through one loading of their patterns. -/
theorem ofSettings_eq (s : Settings) :
    (ofSettings s).value = .ok (empty.perform (.preload s.preload)) := by
  rw [ofSettings, Logged.value_bind, perform, requestAll_eq]
  rfl

/-- Whatever is asked of a cache, only the requests count. -/
theorem perform_eq (c : Cache) {op : Operation} (kept : op ≠ .clear) :
    c.perform op = op.requests.foldl request c := by
  cases op with
  | get | captures | isMatch | expand | contains | size | isEmpty => rfl
  | tryGet raw => rw [perform, tryGet_eq]; rfl
  | preload raws => rw [perform, requestAll_eq]; rfl
  | clear => exact absurd rfl kept

end PathGlob.Cache
