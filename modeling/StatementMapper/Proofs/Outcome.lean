set_option autoImplicit false

namespace StatementMapper.Outcome

variable {Error First Second Third Fourth : Type}

theorem bind_ok (outcome : Except Error First) (next : First → Except Error Second) (result : Second) :
    outcome >>= next = .ok result ↔ ∃ middle, outcome = .ok middle ∧ next middle = .ok result := by
  cases outcome with
  | error cause => simp [bind, Except.bind]
  | ok middle => simp [bind, Except.bind]

theorem map_ok (change : First → Second) (outcome : Except Error First) (result : Second) :
    outcome.map change = .ok result ↔ ∃ middle, outcome = .ok middle ∧ change middle = result := by
  cases outcome with
  | error cause => simp [Except.map]
  | ok middle => simp [Except.map]

theorem bind_error (outcome : Except Error First) (next : First → Except Error Second) (cause : Error) :
    outcome >>= next = .error cause ↔ outcome = .error cause ∨ ∃ middle, outcome = .ok middle ∧ next middle = .error cause := by
  cases outcome with
  | error other => simp [bind, Except.bind]
  | ok middle => simp [bind, Except.bind]

theorem map_error (change : First → Second) (outcome : Except Error First) (cause : Error) :
    outcome.map change = .error cause ↔ outcome = .error cause := by
  cases outcome with
  | error other => simp [Except.map]
  | ok middle => simp [Except.map]

theorem last_error (outcome : Except Error First) (made : First → Second) (cause : Error) :
    (outcome >>= fun middle => .ok (made middle)) = .error cause ↔ outcome = .error cause := by
  cases outcome with
  | error other => simp [bind, Except.bind]
  | ok middle => simp [bind, Except.bind]

theorem map_error_ok {Other : Type} (tell : Error → Other) (result : First) :
    (.ok result : Except Error First).mapError tell = .ok result := rfl

theorem map_error_bind {Other : Type} (tell : Error → Other) (outcome : Except Error First)
    (next : First → Except Error Second) :
    (outcome >>= next).mapError tell = outcome.mapError tell >>= fun middle => (next middle).mapError tell := by
  cases outcome with
  | error cause => rfl
  | ok middle => rfl

theorem map_error_map {Other : Type} (tell : Error → Other) (change : First → Second) (outcome : Except Error First) :
    (outcome.map change).mapError tell = (outcome.mapError tell).map change := by
  cases outcome with
  | error cause => rfl
  | ok middle => rfl

-- Two outcomes that fail for one reason, or give results that are related.
inductive Related (related : First → Second → Prop) : Except Error First → Except Error Second → Prop where
  | ok {first : First} {second : Second} (same : related first second) : Related related (.ok first) (.ok second)
  | error (cause : Error) : Related related (.error cause) (.error cause)

theorem related_refl (outcome : Except Error First) : Related (fun first second => first = second) outcome outcome := by
  cases outcome with
  | ok result => exact .ok rfl
  | error cause => exact .error cause

theorem related_bind {related : First → Second → Prop} {last : Third → Fourth → Prop} {outcome : Except Error First}
    {other : Except Error Second} {next : First → Except Error Third} {goes : Second → Except Error Fourth}
    (begins : Related related outcome other)
    (ends : ∀ first second, related first second → Related last (next first) (goes second)) :
    Related last (outcome >>= next) (other >>= goes) := by
  cases begins with
  | ok same => exact ends _ _ same
  | error cause => exact .error cause

theorem related_map {related : First → Second → Prop} {last : Third → Fourth → Prop} {outcome : Except Error First}
    {other : Except Error Second} {change : First → Third} {turn : Second → Fourth}
    (begins : Related related outcome other) (ends : ∀ first second, related first second → last (change first) (turn second)) :
    Related last (outcome.map change) (other.map turn) := by
  cases begins with
  | ok same => exact .ok (ends _ _ same)
  | error cause => exact .error cause

end StatementMapper.Outcome
