set_option autoImplicit false

namespace StatementMapper

abbrev Table (K V : Type) := List (K × V)

namespace Table

variable {K V : Type} [DecidableEq K]

def get? (key : K) : Table K V → Option V
  | [] => none
  | (other, value) :: rest => if key = other then some value else get? key rest

-- Replaces the value of a key in place; a new key goes to the end.
def put (key : K) (value : V) : Table K V → Table K V
  | [] => [(key, value)]
  | (other, old) :: rest => if key = other then (key, value) :: rest else (other, old) :: put key value rest

def erase (key : K) (table : Table K V) : Table K V := table.filter fun entry => entry.1 ≠ key

def contains (key : K) (table : Table K V) : Bool := (get? key table).isSome

def keys (table : Table K V) : List K := table.map Prod.fst

-- The entries in order; of two with one key the later value counts.
def ofList (entries : List (K × V)) : Table K V :=
  entries.foldl (fun table entry => put entry.1 entry.2 table) []

theorem get_put_same (key : K) (value : V) (table : Table K V) :
    get? key (put key value table) = some value := by
  induction table with
  | nil => simp [put, get?]
  | cons entry rest ih =>
    rcases entry with ⟨other, old⟩
    by_cases same : key = other
    · simp [put, get?, same]
    · simpa [put, get?, same] using ih

theorem get_put_other {key other : K} (different : key ≠ other) (value : V) (table : Table K V) :
    get? key (put other value table) = get? key table := by
  induction table with
  | nil => simp [put, get?, different]
  | cons entry rest ih =>
    rcases entry with ⟨third, old⟩
    by_cases same : other = third
    · subst same
      simp [put, get?, different]
    · by_cases found : key = third <;> simp [put, get?, same, found]
      simpa [found] using ih

theorem get_erase_same (key : K) (table : Table K V) : get? key (erase key table) = none := by
  induction table with
  | nil => rfl
  | cons entry rest ih =>
    rcases entry with ⟨other, old⟩
    by_cases same : other = key
    · simpa [erase, same] using ih
    · have reversed : key ≠ other := fun h => same h.symm
      simpa [erase, get?, same, reversed] using ih

theorem get_erase_other {key other : K} (different : key ≠ other) (table : Table K V) :
    get? key (erase other table) = get? key table := by
  induction table with
  | nil => rfl
  | cons entry rest ih =>
    rcases entry with ⟨third, old⟩
    by_cases same : third = other
    · subst same
      simpa [erase, get?, different] using ih
    · by_cases found : key = third
      · simp [erase, get?, same, found]
      · simpa [erase, get?, same, found] using ih

end Table

end StatementMapper
