import StatementMapper.Table

set_option autoImplicit false

namespace StatementMapper.Table

variable {K V : Type}

def Distinct (table : Table K V) : Prop := (keys table).Nodup

theorem distinct_nil : Distinct ([] : Table K V) := List.nodup_nil

theorem distinct_cons (key : K) (value : V) (table : Table K V) :
    Distinct ((key, value) :: table) ↔ key ∉ keys table ∧ Distinct table := by
  simp only [Distinct, keys, List.map_cons, List.nodup_cons]

theorem distinct_perm {one other : Table K V} (perm : one.Perm other) : Distinct one ↔ Distinct other :=
  (perm.map Prod.fst).nodup_iff

theorem keys_map_values {U : Type} (f : K × V → U) (table : Table K V) :
    keys (table.map fun entry => (entry.1, f entry)) = keys table := by
  simp [keys, Function.comp_def]

variable [DecidableEq K]

theorem get_none_iff (key : K) (table : Table K V) : get? key table = none ↔ key ∉ keys table := by
  induction table with
  | nil => simp [get?, keys]
  | cons entry rest ih =>
      rcases entry with ⟨other, value⟩
      by_cases same : key = other
      · simp [get?, keys, same]
      · simpa [get?, keys, same] using ih

theorem keys_put (key other : K) (value : V) (table : Table K V) :
    other ∈ keys (put key value table) ↔ other = key ∨ other ∈ keys table := by
  by_cases same : other = key
  · have found := get_put_same key value table
    rw [← same] at found
    have present : other ∈ keys (put other value table) := by
      apply Decidable.byContradiction
      intro absent
      rw [(get_none_iff _ _).mpr absent] at found
      exact nomatch found
    simp [← same, present]
  · have unchanged := get_put_other same value table
    have absent : other ∉ keys (put key value table) ↔ other ∉ keys table := by
      rw [← get_none_iff, ← get_none_iff, unchanged]
    simp [Decidable.not_iff_not.mp absent, same]

theorem distinct_put (key : K) (value : V) (table : Table K V) (distinct : Distinct table) :
    Distinct (put key value table) := by
  induction table with
  | nil => simp [put, Distinct, keys]
  | cons entry rest ih =>
      rcases entry with ⟨other, old⟩
      obtain ⟨fresh, below⟩ := (distinct_cons _ _ _).mp distinct
      by_cases same : key = other
      · rw [put, if_pos same]
        exact (distinct_cons _ _ _).mpr ⟨same ▸ fresh, below⟩
      · rw [put, if_neg same]
        refine (distinct_cons _ _ _).mpr ⟨?_, ih below⟩
        rw [keys_put]
        rintro (here | later)
        · exact same here.symm
        · exact fresh later

theorem distinct_erase (key : K) (table : Table K V) (distinct : Distinct table) : Distinct (erase key table) :=
  List.Nodup.sublist (List.Sublist.map Prod.fst List.filter_sublist) distinct

theorem put_self (key : K) (value : V) (table : Table K V) (found : get? key table = some value) :
    put key value table = table := by
  induction table with
  | nil => exact nomatch found
  | cons entry rest ih =>
      rcases entry with ⟨other, old⟩
      by_cases same : key = other
      · rw [get?, if_pos same, Option.some.injEq] at found
        rw [put, if_pos same, same, found]
      · rw [get?, if_neg same] at found
        rw [put, if_neg same, ih found]

theorem put_put (key : K) (value last : V) (table : Table K V) :
    put key last (put key value table) = put key last table := by
  induction table with
  | nil => rw [put, put, put, if_pos rfl]
  | cons entry rest ih =>
      rcases entry with ⟨other, old⟩
      by_cases same : key = other
      · rw [put, if_pos same, put, if_pos rfl, put, if_pos same]
      · rw [put, if_neg same, put, if_neg same, put, if_neg same, ih]

theorem erase_absent (key : K) (table : Table K V) (missing : get? key table = none) : erase key table = table := by
  refine List.filter_eq_self.mpr fun entry member => decide_eq_true fun same => ?_
  exact (get_none_iff key table).mp missing (same ▸ List.mem_map_of_mem member)

theorem erase_put (key : K) (value : V) (table : Table K V) : erase key (put key value table) = erase key table := by
  induction table with
  | nil => simp only [put, erase, List.filter_cons, ne_eq, not_true, decide_false, Bool.false_eq_true, if_false]
  | cons entry rest ih =>
      rcases entry with ⟨other, old⟩
      by_cases same : key = other
      · subst same
        simp only [put, if_true, erase, List.filter_cons, ne_eq, not_true, decide_false, Bool.false_eq_true, if_false]
      · simp only [erase] at ih
        simp only [put, if_neg same, erase, List.filter_cons, ih]

theorem get_map_values {U : Type} (f : V → U) (key : K) (table : Table K V) :
    get? key (table.map fun entry => (entry.1, f entry.2)) = (get? key table).map f := by
  induction table with
  | nil => rfl
  | cons entry rest ih =>
      rcases entry with ⟨other, value⟩
      by_cases same : key = other
      · simp [get?, same]
      · simpa [get?, same] using ih

theorem mem_of_get (key : K) (value : V) (table : Table K V) (found : get? key table = some value) :
    (key, value) ∈ table := by
  induction table with
  | nil => simp [get?] at found
  | cons entry rest ih =>
      rcases entry with ⟨other, old⟩
      by_cases same : key = other
      · simp only [get?, if_pos same, Option.some.injEq] at found
        simp [same, found]
      · simp only [get?, if_neg same] at found
        exact List.mem_cons_of_mem _ (ih found)

theorem mem_iff_get (key : K) (value : V) (table : Table K V) (distinct : Distinct table) :
    (key, value) ∈ table ↔ get? key table = some value := by
  refine ⟨fun member => ?_, mem_of_get key value table⟩
  induction table with
  | nil => exact nomatch member
  | cons entry rest ih =>
      rcases entry with ⟨other, old⟩
      obtain ⟨fresh, below⟩ := (distinct_cons _ _ _).mp distinct
      rcases List.mem_cons.mp member with here | later
      · rw [Prod.mk.injEq] at here
        rw [get?, if_pos here.1, here.2]
      · have different : key ≠ other := fun same => fresh (same ▸ List.mem_map_of_mem later)
        rw [get?, if_neg different, ih below later]

theorem get_perm {one other : Table K V} (perm : one.Perm other) (distinct : Distinct one) (key : K) :
    get? key one = get? key other := by
  apply Option.ext
  intro value
  rw [← mem_iff_get key value one distinct, ← mem_iff_get key value other ((distinct_perm perm).mp distinct)]
  exact perm.mem_iff

def assign (lookup : K → Option V) (entry : K × V) : K → Option V := fun key =>
  if key = entry.1 then some entry.2 else lookup key

theorem get_put (key : K) (value : V) (table : Table K V) :
    (fun query => get? query (put key value table)) = assign (fun query => get? query table) (key, value) := by
  funext query
  by_cases same : query = key
  · simp [assign, same, get_put_same]
  · simp [assign, same, get_put_other same]

theorem foldl_assign (table : Table K V) (distinct : Distinct table) (lookup : K → Option V) (key : K) :
    table.foldl assign lookup key = (get? key table).or (lookup key) := by
  induction table generalizing lookup with
  | nil => rfl
  | cons entry rest ih =>
      rcases entry with ⟨other, value⟩
      obtain ⟨fresh, below⟩ := (distinct_cons _ _ _).mp distinct
      rw [List.foldl_cons, ih below]
      by_cases same : key = other
      · have absent : get? other rest = none := (get_none_iff _ _).mpr fresh
        simp [get?, same, absent, assign]
      · simp [get?, same, assign]

end StatementMapper.Table
