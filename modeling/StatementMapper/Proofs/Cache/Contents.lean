import StatementMapper.Cache.Backing
import StatementMapper.Cache.Region
import StatementMapper.Proofs.Table

set_option autoImplicit false

namespace StatementMapper.Cache

open Table (assign)

abbrev Contents := Key → Option Rows

namespace Contents

def nothing : Contents := fun _ => none

def Within (inner outer : Contents) : Prop := ∀ key rows, inner key = some rows → outer key = some rows

theorem within_refl (contents : Contents) : Within contents contents := fun _ _ found => found

theorem within_trans {inner middle outer : Contents} (first : Within inner middle) (second : Within middle outer) :
    Within inner outer := fun key rows found => second key rows (first key rows found)

theorem nothing_within (contents : Contents) : Within nothing contents := fun _ _ found => nomatch found

theorem assign_within {inner outer : Contents} (within : Within inner outer) (entry : Key × Rows) :
    Within (assign inner entry) (assign outer entry) := by
  intro key rows found
  by_cases same : key = entry.1
  · simpa only [assign, if_pos same] using found
  · simp only [assign, if_neg same] at found ⊢
    exact within key rows found

theorem foldl_assign_within {inner outer : Contents} (within : Within inner outer) (entries : Table Key Rows) :
    Within (entries.foldl assign inner) (entries.foldl assign outer) := by
  induction entries generalizing inner outer with
  | nil => exact within
  | cons entry rest ih => exact ih (assign_within within entry)

end Contents

namespace Perpetual

def contents (store : Perpetual) : Contents := fun key => store.get? key

def putAll (entries : Table Key Rows) (store : Perpetual) : Perpetual :=
  entries.foldl (fun store entry => store.put entry.1 entry.2) store

theorem contents_put_all (entries : Table Key Rows) (store : Perpetual) :
    (store.putAll entries).contents = entries.foldl assign store.contents := by
  induction entries generalizing store with
  | nil => rfl
  | cons entry rest ih =>
      have wrote : (store.put entry.1 entry.2).contents = assign store.contents entry :=
        Table.get_put entry.1 entry.2 store.entries
      rw [putAll, List.foldl_cons, List.foldl_cons, ← wrote]
      exact ih (store.put entry.1 entry.2)

end Perpetual

namespace Lru

theorem get_prefix (key : Key) (rows : Rows) (count : Nat) (entries : Table Key Rows)
    (found : Table.get? key (entries.take count) = some rows) : Table.get? key entries = some rows := by
  induction entries generalizing count with
  | nil => simp [Table.get?] at found
  | cons entry rest ih =>
      rcases entry with ⟨other, kept⟩
      cases count with
      | zero => simp [Table.get?] at found
      | succ count =>
          by_cases same : key = other
          · simpa [Table.get?, same] using found
          · simp only [List.take_succ_cons, Table.get?, if_neg same] at found ⊢
            exact ih count found

theorem get_touch (key used : Key) (store : Lru) : (store.touch used).get? key = store.get? key := by
  unfold touch
  cases present : store.get? used with
  | none => rfl
  | some rows =>
      by_cases same : key = used
      · simp [get?, Table.get?, same, show Table.get? used store.entries = some rows from present]
      · simp [get?, Table.get?, same, Table.get_erase_other same]

theorem get_put_within (key : Key) (rows : Rows) (store : Lru) :
    Contents.Within (fun query => (store.put key rows).get? query) (assign (fun query => store.get? query) (key, rows)) := by
  intro query kept found
  have whole := get_prefix query kept store.capacity _ found
  by_cases same : query = key
  · simpa [Table.get?, assign, same] using whole
  · simpa [Table.get?, assign, same, get?, Table.get_erase_other same] using whole

end Lru

namespace Backing

def contents : Backing → Contents
  | perpetual store => fun key => store.get? key
  | lru store => fun key => store.get? key
  | unreachable _ => Contents.nothing

def Reachable : Backing → Prop
  | unreachable _ => False
  | _ => True

def Permanent : Backing → Prop
  | perpetual _ => True
  | _ => False

theorem permanent_reachable (backing : Backing) (permanent : backing.Permanent) : backing.Reachable := by
  cases backing with
  | perpetual => trivial
  | lru => trivial
  | unreachable => exact permanent

theorem run_get (key : Key) (backing : Backing) (reachable : backing.Reachable) :
    ∃ after, (Store.get key).run backing = (.ok (backing.contents key), after) ∧ after.Reachable ∧
      after.contents = backing.contents ∧ (backing.Permanent → after.Permanent) := by
  cases backing with
  | perpetual store => exact ⟨.perpetual store, rfl, trivial, rfl, id⟩
  | lru store =>
      refine ⟨.lru (store.touch key), rfl, trivial, ?_, False.elim⟩
      funext query
      exact Lru.get_touch query key store
  | unreachable => exact False.elim reachable

theorem run_put (key : Key) (rows : Rows) (backing : Backing) (reachable : backing.Reachable) :
    ∃ after, (Store.put key rows).run backing = (.ok (), after) ∧ after.Reachable ∧
      after.contents.Within (assign backing.contents (key, rows)) ∧
      (backing.Permanent → after.Permanent ∧ after.contents = assign backing.contents (key, rows)) := by
  cases backing with
  | perpetual store =>
      have exact_contents : (perpetual (store.put key rows)).contents =
          assign (perpetual store).contents (key, rows) := Table.get_put key rows store.entries
      refine ⟨.perpetual (store.put key rows), rfl, trivial, ?_, fun _ => ⟨trivial, exact_contents⟩⟩
      rw [exact_contents]
      exact Contents.within_refl _
  | lru store => exact ⟨.lru (store.put key rows), rfl, trivial, Lru.get_put_within key rows store, False.elim⟩
  | unreachable => exact False.elim reachable

theorem run_clear (backing : Backing) (reachable : backing.Reachable) :
    ∃ after, Store.clear.run backing = (.ok (), after) ∧ after.Reachable ∧ after.contents = Contents.nothing ∧
      (backing.Permanent → after.Permanent) := by
  cases backing with
  | perpetual store => exact ⟨.perpetual {}, rfl, trivial, rfl, id⟩
  | lru store => exact ⟨.lru { store with entries := [] }, rfl, trivial, rfl, False.elim⟩
  | unreachable => exact False.elim reachable

end Backing

end StatementMapper.Cache
