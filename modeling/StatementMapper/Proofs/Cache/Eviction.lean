import StatementMapper.Proofs.Cache.Overlay

set_option autoImplicit false

/-! The order of writing makes no difference exactly if there is room for all that is written. -/

namespace StatementMapper

namespace Table

variable {K V : Type} [DecidableEq K]

def without (keys : List K) (table : Table K V) : Table K V := table.filter fun entry => entry.1 ∉ keys

theorem keys_without (keys : List K) (table : Table K V) (key : K) (member : key ∈ Table.keys (without keys table)) :
    key ∉ keys := by
  obtain ⟨entry, kept, rfl⟩ := List.mem_map.mp member
  exact of_decide_eq_true (List.mem_filter.mp kept).2

theorem erase_append (key : K) (front back : Table K V) (absent : key ∉ keys front) :
    erase key (front ++ back) = front ++ erase key back := by
  rw [erase, List.filter_append]
  congr 1
  exact erase_absent key front ((get_none_iff key front).mpr absent)

theorem erase_without (key : K) (value : V) (front table : Table K V) :
    erase key (without (keys front) table) = without (keys (front ++ [(key, value)])) table := by
  have listed (other : K) : other ∈ keys (front ++ [(key, value)]) ↔ other ∈ keys front ∨ other = key := by
    rw [keys, List.map_append, List.mem_append, List.map_cons, List.map_nil, List.mem_singleton]
    exact Iff.rfl
  rw [erase, without, without, List.filter_filter]
  apply List.filter_congr
  intro entry _
  rw [← Bool.decide_and, decide_eq_decide, listed, not_or, and_comm]

-- An entry that is erased makes room for one more, so what is cut off behind makes no difference.
theorem take_erase_take (key : K) (count : Nat) (table : Table K V) (distinct : Distinct table) :
    (erase key (table.take (count + 1))).take count = (erase key table).take count := by
  induction table generalizing count with
  | nil => rfl
  | cons entry rest ih =>
      rcases entry with ⟨other, value⟩
      obtain ⟨fresh, below⟩ := (distinct_cons _ _ _).mp distinct
      by_cases same : other = key
      · subst same
        have absent : get? other rest = none := (get_none_iff other rest).mpr fresh
        have gone (table : Table K V) : erase other ((other, value) :: table) = erase other table := by
          simp [erase]
        have cut : get? other (rest.take count) = none := by
          rw [get_none_iff]
          exact fun member => fresh ((List.Sublist.map Prod.fst (List.take_sublist count rest)).subset member)
        rw [List.take_succ_cons, gone, gone, erase_absent other rest absent, erase_absent other _ cut, List.take_take,
          Nat.min_self]
      · have kept (table : Table K V) : erase key ((other, value) :: table) = (other, value) :: erase key table := by
          simp [erase, same]
        rw [List.take_succ_cons, kept, kept]
        cases count with
        | zero => rfl
        | succ count => rw [List.take_succ_cons, List.take_succ_cons, ih count below]

theorem distinct_over (front table : Table K V) (fresh : Distinct front) (distinct : Distinct table) :
    Distinct (front.reverse ++ without (keys front) table) := by
  unfold Distinct keys
  rw [List.map_append, List.map_reverse, List.nodup_append]
  refine ⟨(List.reverse_perm _).nodup_iff.mpr fresh, List.Nodup.sublist (List.Sublist.map _ List.filter_sublist) distinct, ?_⟩
  rintro one here other there rfl
  exact keys_without (keys front) table one there (List.mem_reverse.mp here)

end Table

namespace Cache

namespace Perpetual

theorem distinct_put_all (entries : Table Key Rows) (store : Perpetual) (distinct : store.entries.Distinct) :
    (store.putAll entries).entries.Distinct := by
  induction entries generalizing store with
  | nil => exact distinct
  | cons entry rest ih => exact ih (store.put entry.1 entry.2) (Table.distinct_put entry.1 entry.2 store.entries distinct)

theorem mem_put_all (entries : Table Key Rows) (fresh : entries.Distinct) (store : Perpetual)
    (distinct : store.entries.Distinct) (entry : Key × Rows) :
    entry ∈ (store.putAll entries).entries ↔ (Table.get? entry.1 entries).or (store.get? entry.1) = some entry.2 := by
  rw [← Table.foldl_assign entries fresh (fun key => store.get? key) entry.1,
    Table.mem_iff_get entry.1 entry.2 _ (distinct_put_all entries store distinct)]
  exact (congrFun (contents_put_all entries store) entry.1) ▸ Iff.rfl

end Perpetual

namespace Lru

def putAll (entries : Table Key Rows) (store : Lru) : Lru :=
  entries.foldl (fun store entry => store.put entry.1 entry.2) store

theorem put_over (front prior : Table Key Rows) (key : Key) (rows : Rows) (store : Lru)
    (fresh : Table.Distinct (front ++ [(key, rows)])) (distinct : prior.Distinct)
    (stored : store.entries = (front.reverse ++ Table.without (Table.keys front) prior).take store.capacity) :
    (store.put key rows).entries = ((front ++ [(key, rows)]).reverse ++
      Table.without (Table.keys (front ++ [(key, rows)])) prior).take store.capacity := by
  obtain ⟨room, full⟩ := Nat.exists_eq_succ_of_ne_zero (Nat.ne_of_gt store.capacity_positive)
  have turned := (Table.distinct_perm (List.perm_append_singleton (key, rows) front)).mp fresh
  obtain ⟨absent, frontFresh⟩ := (Table.distinct_cons key rows front).mp turned
  have unlisted : key ∉ Table.keys front.reverse := by
    rw [Table.keys, List.map_reverse, List.mem_reverse]
    exact absent
  have whole := Table.distinct_over front prior frontFresh distinct
  change ((key, rows) :: Table.erase key store.entries).take store.capacity = _
  rw [stored, full]
  calc ((key, rows) :: Table.erase key _).take (room + 1)
      = (key, rows) :: (Table.erase key (front.reverse ++ Table.without (Table.keys front) prior)).take room := by
        rw [List.take_succ_cons, Table.take_erase_take key room _ whole]
    _ = (key, rows) :: (front.reverse ++ Table.without (Table.keys (front ++ [(key, rows)])) prior).take room := by
        rw [Table.erase_append key _ _ unlisted, Table.erase_without]
    _ = _ := by
        rw [List.reverse_append, List.append_assoc]
        rfl

theorem put_all_over (entries front prior : Table Key Rows) (store : Lru) (fresh : Table.Distinct (front ++ entries))
    (distinct : prior.Distinct)
    (stored : store.entries = (front.reverse ++ Table.without (Table.keys front) prior).take store.capacity) :
    (store.putAll entries).entries = ((front ++ entries).reverse ++
      Table.without (Table.keys (front ++ entries)) prior).take store.capacity := by
  induction entries generalizing front store with
  | nil =>
      rw [List.append_nil]
      exact stored
  | cons entry rest ih =>
      rcases entry with ⟨key, rows⟩
      have split : front ++ (key, rows) :: rest = (front ++ [(key, rows)]) ++ rest := by
        rw [List.append_assoc, List.singleton_append]
      rw [split] at fresh ⊢
      have begun : Table.Distinct (front ++ [(key, rows)]) :=
        List.Nodup.sublist (List.Sublist.map Prod.fst (List.sublist_append_left _ _)) fresh
      exact ih (front ++ [(key, rows)]) (store.put key rows) fresh (put_over front prior key rows store begun distinct stored)

theorem put_all_entries (entries : Table Key Rows) (fresh : entries.Distinct) (store : Lru)
    (distinct : store.entries.Distinct) (bounded : store.entries.length ≤ store.capacity) :
    (store.putAll entries).entries =
      (entries.reverse ++ Table.without (Table.keys entries) store.entries).take store.capacity := by
  apply put_all_over entries [] store.entries store fresh distinct
  have all : Table.without [] store.entries = store.entries :=
    List.filter_eq_self.mpr fun _ _ => decide_eq_true List.not_mem_nil
  change store.entries = (Table.without [] store.entries).take store.capacity
  rw [all, List.take_of_length_le bounded]

theorem mem_put_all (entries : Table Key Rows) (fresh : entries.Distinct) (store : Lru)
    (distinct : store.entries.Distinct) (bounded : store.entries.length ≤ store.capacity)
    (room : entries.length ≤ store.capacity) (entry : Key × Rows) :
    entry ∈ (store.putAll entries).entries ↔ entry ∈ entries ∨
      entry ∈ (Table.without (Table.keys entries) store.entries).take (store.capacity - entries.length) := by
  have short : entries.reverse.length ≤ store.capacity := by
    rw [List.length_reverse]
    exact room
  rw [put_all_entries entries fresh store distinct bounded, List.take_append, List.take_of_length_le short,
    List.mem_append, List.mem_reverse, List.length_reverse]

theorem mem_put_all_last (front : Table Key Rows) (last : Key × Rows) (fresh : Table.Distinct (front ++ [last]))
    (store : Lru) (distinct : store.entries.Distinct) (bounded : store.entries.length ≤ store.capacity) :
    last ∈ (store.putAll (front ++ [last])).entries := by
  rw [put_all_entries _ fresh store distinct bounded, List.reverse_append, List.reverse_singleton,
    List.singleton_append, List.cons_append]
  obtain ⟨room, full⟩ := Nat.exists_eq_succ_of_ne_zero (Nat.ne_of_gt store.capacity_positive)
  rw [full, List.take_succ_cons]
  exact List.mem_cons_self

theorem not_mem_put_all_first (first : Key × Rows) (rest : Table Key Rows) (fresh : Table.Distinct (first :: rest))
    (store : Lru) (distinct : store.entries.Distinct) (bounded : store.entries.length ≤ store.capacity)
    (crowded : store.capacity ≤ rest.length) : first ∉ (store.putAll (first :: rest)).entries := by
  have absent : first ∉ rest.reverse := fun member =>
    ((Table.distinct_cons first.1 first.2 rest).mp fresh).1 (List.mem_map_of_mem (List.mem_reverse.mp member))
  have full : store.capacity ≤ rest.reverse.length := by
    rw [List.length_reverse]
    exact crowded
  rw [put_all_entries _ fresh store distinct bounded, List.reverse_cons, List.append_assoc,
    List.take_append_of_le_length full]
  exact fun member => absent (List.mem_of_mem_take member)

end Lru

namespace Backing

def entries : Backing → Table Key Rows
  | perpetual store => store.entries
  | lru store => store.entries
  | unreachable _ => []

def Fits (count : Nat) (backing : Backing) : Prop := ∀ capacity, backing.capacity? = some capacity → count ≤ capacity

structure Sound (backing : Backing) : Prop where
  distinct : backing.entries.Distinct
  bounded : backing.Fits backing.entries.length

def SamePairs (one other : Backing) : Prop := ∀ entry, entry ∈ one.entries ↔ entry ∈ other.entries

def putAll (entries : Table Key Rows) : Backing → Backing
  | perpetual store => perpetual (store.putAll entries)
  | lru store => lru (store.putAll entries)
  | unreachable cause => unreachable cause

def emptied : Backing → Backing
  | perpetual _ => perpetual {}
  | lru store => lru { store with entries := [] }
  | unreachable cause => unreachable cause

theorem put_all_cons (entry : Key × Rows) (rest : Table Key Rows) (backing : Backing) :
    backing.putAll (entry :: rest) = (backing.putAll [entry]).putAll rest := by
  cases backing <;> rfl

theorem run_put_one (key : Key) (rows : Rows) (backing : Backing) (reachable : backing.Reachable) :
    (Store.put key rows).run backing = (.ok (), backing.putAll [(key, rows)]) ∧
      (backing.putAll [(key, rows)]).Reachable := by
  cases backing with
  | perpetual store => exact ⟨rfl, trivial⟩
  | lru store => exact ⟨rfl, trivial⟩
  | unreachable cause => exact reachable.elim

theorem run_emptied (backing : Backing) (reachable : backing.Reachable) :
    Store.clear.run backing = (.ok (), backing.emptied) ∧ backing.emptied.Reachable := by
  cases backing with
  | perpetual store => exact ⟨rfl, trivial⟩
  | lru store => exact ⟨rfl, trivial⟩
  | unreachable cause => exact reachable.elim

theorem capacity_emptied (backing : Backing) : backing.emptied.capacity? = backing.capacity? := by
  cases backing <;> rfl

theorem sound_emptied (backing : Backing) : backing.emptied.Sound := by
  cases backing with
  | perpetual store => exact ⟨Table.distinct_nil, fun _ _ => Nat.zero_le _⟩
  | lru store => exact ⟨Table.distinct_nil, fun _ _ => Nat.zero_le _⟩
  | unreachable cause => exact ⟨Table.distinct_nil, fun _ _ => Nat.zero_le _⟩

theorem mem_put_all (backing : Backing) (reachable : backing.Reachable) (sound : backing.Sound)
    (entries : Table Key Rows) (fresh : entries.Distinct) (room : backing.Fits entries.length) (entry : Key × Rows)
    (member : entry ∈ entries) : entry ∈ (backing.putAll entries).entries := by
  cases backing with
  | perpetual store =>
      refine (Perpetual.mem_put_all entries fresh store sound.distinct entry).mpr ?_
      rw [(Table.mem_iff_get entry.1 entry.2 entries fresh).mp member, Option.some_or]
  | lru store =>
      exact (Lru.mem_put_all entries fresh store sound.distinct (sound.bounded _ rfl) (room _ rfl) entry).mpr (.inl member)
  | unreachable cause => exact reachable.elim

theorem same_pairs_of_room (backing : Backing) (sound : backing.Sound) (first second : Table Key Rows)
    (perm : first.Perm second) (fresh : first.Distinct) (room : backing.Fits first.length) :
    SamePairs (backing.putAll first) (backing.putAll second) := by
  have other : second.Distinct := (Table.distinct_perm perm).mp fresh
  intro entry
  cases backing with
  | perpetual store =>
      refine (Perpetual.mem_put_all first fresh store sound.distinct entry).trans ?_
      rw [Table.get_perm perm fresh entry.1]
      exact (Perpetual.mem_put_all second other store sound.distinct entry).symm
  | lru store =>
      have bounded := sound.bounded _ rfl
      have enough := room _ rfl
      have keys (key : Key) : key ∈ Table.keys first ↔ key ∈ Table.keys second := (perm.map Prod.fst).mem_iff
      have rest : Table.without (Table.keys first) store.entries = Table.without (Table.keys second) store.entries := by
        apply List.filter_congr
        intro kept _
        rw [decide_eq_decide, keys]
      refine (Lru.mem_put_all first fresh store sound.distinct bounded enough entry).trans ?_
      rw [perm.mem_iff, rest, perm.length_eq]
      rw [perm.length_eq] at enough
      exact (Lru.mem_put_all second other store sound.distinct bounded enough entry).symm
  | unreachable cause => exact Iff.rfl

-- Written last an entry stays, written first it is given up for the others.
theorem differ_without_room (store : Lru) (sound : (lru store).Sound) (entries : Table Key Rows)
    (fresh : entries.Distinct) (crowded : store.capacity < entries.length) :
    ∃ first second : Table Key Rows, first.Perm entries ∧ second.Perm entries ∧
      ¬ SamePairs ((lru store).putAll first) ((lru store).putAll second) := by
  have bounded := sound.bounded _ rfl
  cases entries with
  | nil => exact nomatch crowded
  | cons entry rest =>
      have turned : (rest ++ [entry]).Perm (entry :: rest) := List.perm_append_singleton entry rest
      refine ⟨rest ++ [entry], entry :: rest, turned, List.Perm.refl _, fun same => ?_⟩
      have kept := Lru.mem_put_all_last rest entry ((Table.distinct_perm turned).mpr fresh) store sound.distinct bounded
      exact Lru.not_mem_put_all_first entry rest fresh store sound.distinct bounded (Nat.le_of_lt_succ crowded)
        ((same entry).mp kept)

theorem same_pairs_iff (backing : Backing) (sound : backing.Sound) (entries : Table Key Rows) (fresh : entries.Distinct) :
    (∀ first second : Table Key Rows, first.Perm entries → second.Perm entries →
      SamePairs (backing.putAll first) (backing.putAll second)) ↔ backing.Fits entries.length := by
  constructor
  · intro same capacity limited
    cases backing with
    | perpetual store => exact nomatch limited
    | unreachable cause => exact nomatch limited
    | lru store =>
        cases limited
        apply Nat.le_of_not_lt
        intro crowded
        obtain ⟨first, second, one, other, differ⟩ := differ_without_room store sound entries fresh crowded
        exact differ (same first second one other)
  · intro room first second one other
    have enough : backing.Fits first.length := by
      rw [one.length_eq]
      exact room
    exact same_pairs_of_room backing sound first second (one.trans other.symm) ((Table.distinct_perm one).mpr fresh) enough

end Backing

namespace Region

theorem run_put_all_store (entries : Table Key Rows) (region : Region Backing) (reachable : region.store.Reachable) :
    (putAll entries).run region = (.ok (), { region with store := region.store.putAll entries }) := by
  induction entries generalizing region with
  | nil =>
      have same : region.store.putAll [] = region.store := by cases region.store <;> rfl
      rw [same]
      rfl
  | cons entry rest ih =>
      obtain ⟨wrote, still⟩ := Backing.run_put_one entry.1 entry.2 region.store reachable
      have goes := ih { region with store := region.store.putAll [entry] } still
      rw [Backing.put_all_cons]
      exact (Action.run_bind_ok (run_inStore wrote)).trans goes

def base (clearing : Bool) (region : Region Backing) : Backing := if clearing then region.store.emptied else region.store

theorem run_apply_store (now : Nat) (clearing : Bool) (entries : Table Key Rows) (region : Region Backing)
    (reachable : region.store.Reachable) :
    ∃ after, (apply now clearing entries).run region = (.ok (), after) ∧
      after.store = (region.base clearing).putAll entries := by
  cases clearing with
  | false => exact ⟨_, run_put_all_store entries region reachable, rfl⟩
  | true =>
      obtain ⟨emptied, still⟩ := Backing.run_emptied region.store reachable
      have cleared : (clear now).run region =
          (.ok (), { region with store := region.store.emptied, clearedAt := now }) :=
        (Action.run_bind_ok (run_inStore emptied)).trans rfl
      exact ⟨_, (Action.run_bind_ok cleared).trans (run_put_all_store entries _ still), rfl⟩

theorem sound_base (clearing : Bool) (region : Region Backing) (sound : region.store.Sound) :
    (region.base clearing).Sound := by
  cases clearing with
  | false => exact sound
  | true => exact Backing.sound_emptied region.store

theorem fits_base (clearing : Bool) (region : Region Backing) (count : Nat) :
    (region.base clearing).Fits count ↔ region.store.Fits count := by
  cases clearing with
  | false => exact Iff.rfl
  | true =>
      change (∀ capacity, region.store.emptied.capacity? = some capacity → count ≤ capacity) ↔ _
      rw [Backing.capacity_emptied]
      exact Iff.rfl

theorem reachable_base (clearing : Bool) (region : Region Backing) (reachable : region.store.Reachable) :
    (region.base clearing).Reachable := by
  cases clearing with
  | false => exact reachable
  | true => exact (Backing.run_emptied region.store reachable).2

def applied (now : Nat) (clearing : Bool) (entries : Table Key Rows) (region : Region Backing) : Backing :=
  ((apply now clearing entries).run region).2.store

theorem applied_in_any_order (now : Nat) (clearing : Bool) (region : Region Backing) (reachable : region.store.Reachable)
    (sound : region.store.Sound) (entries : Table Key Rows) (fresh : entries.Distinct) :
    (∀ order : Table Key Rows, order.Perm entries → ((apply now clearing order).run region).1 = .ok () ∧
      (region.store.Fits entries.length → ∀ entry ∈ entries, entry ∈ (region.applied now clearing order).entries)) ∧
    ((∀ first second : Table Key Rows, first.Perm entries → second.Perm entries →
      Backing.SamePairs (region.applied now clearing first) (region.applied now clearing second)) ↔
        region.store.Fits entries.length) := by
  have based := sound_base clearing region sound
  have reached := reachable_base clearing region reachable
  have left (order : Table Key Rows) : region.applied now clearing order = (region.base clearing).putAll order := by
    obtain ⟨after, ran, stored⟩ := run_apply_store now clearing order region reachable
    rw [applied, ran, stored]
  refine ⟨fun order perm => ⟨?_, fun room entry member => ?_⟩, ?_⟩
  · obtain ⟨after, ran, _⟩ := run_apply_store now clearing order region reachable
    rw [ran]
  · have enough : (region.base clearing).Fits order.length := by
      rw [perm.length_eq, fits_base]
      exact room
    rw [left]
    exact Backing.mem_put_all _ reached based order ((Table.distinct_perm perm).mpr fresh) enough entry
      (perm.mem_iff.mpr member)
  · simp only [left]
    rw [← fits_base clearing region]
    exact Backing.same_pairs_iff _ based entries fresh

end Region

namespace Crowded

def entryOf (key value : Int64) : Key × Rows := (⟨[.integer key]⟩, ⟨["v"], [[.integer value]]⟩)

def pending : Table Key Rows := [entryOf 1 10, entryOf 2 20]

def narrow : Region Backing := { id := "users", interval := none, store := .lru ⟨1, [], by decide⟩ }

def full : Region Backing :=
  { id := "users", interval := none, store := .lru ⟨2, [entryOf 3 30, entryOf 1 11], by decide⟩ }

theorem pending_fresh : pending.Distinct := by
  unfold Table.Distinct
  decide

theorem full_sound : full.store.Sound := by
  refine ⟨?_, fun capacity limited => ?_⟩
  · unfold Table.Distinct
    decide
  · cases limited
    decide

theorem order_decides : narrow.store.Reachable ∧ narrow.store.Sound ∧ pending.Distinct ∧ pending.reverse.Perm pending ∧
    ¬ Backing.SamePairs (narrow.applied 0 false pending) (narrow.applied 0 false pending.reverse) := by
  refine ⟨trivial, Backing.sound_emptied narrow.store, pending_fresh, List.reverse_perm _, fun same => ?_⟩
  have kept : entryOf 1 10 ∈ (narrow.applied 0 false pending.reverse).entries := List.mem_singleton.mpr rfl
  have lost : entryOf 1 10 ∉ (narrow.applied 0 false pending).entries := by
    intro member
    exact absurd (List.mem_singleton.mp member) (by decide)
  exact lost ((same (entryOf 1 10)).mpr kept)

theorem full_in_any_order : full.store.Reachable ∧ full.store.Sound ∧ pending.Distinct ∧
    full.store.Fits pending.length ∧ ∀ first second : Table Key Rows, first.Perm pending → second.Perm pending →
      Backing.SamePairs (full.applied 0 false first) (full.applied 0 false second) := by
  have room : full.store.Fits pending.length := by
    intro capacity limited
    cases limited
    decide
  exact ⟨trivial, full_sound, pending_fresh, room,
    (Region.applied_in_any_order 0 false full trivial full_sound pending pending_fresh).2.mpr room⟩

end Crowded

end Cache

end StatementMapper
