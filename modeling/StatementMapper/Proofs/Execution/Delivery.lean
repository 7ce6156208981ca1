import StatementMapper.Execution.Handlers
import StatementMapper.Proofs.Triple

set_option autoImplicit false

/-! A handler is given the rows of the window in order, numbered from 1, up to the first on which it stops. -/

namespace StatementMapper

namespace Rows

theorem window_eq (bounds : Bounds) (rows : Rows) :
    rows.window bounds = ⟨rows.columns, (rows.rows.drop bounds.offset).take bounds.limit⟩ := by
  rw [← window_rows, ← window_columns bounds rows]

def pages (size count : Nat) (rows : Rows) : List (List Value) :=
  (List.range count).flatMap fun page => (rows.window ⟨page * size, size⟩).rows

theorem pages_taken (size count : Nat) (rows : Rows) : rows.pages size count = rows.rows.take (count * size) := by
  induction count with
  | zero => simp [pages]
  | succ count ih =>
      have more : rows.pages size (count + 1) = rows.pages size count ++ (rows.window ⟨count * size, size⟩).rows := by
        simp [pages, List.range_succ]
      rw [more, ih, window_rows, Nat.succ_mul, List.take_add]

theorem pages_all (size count : Nat) (rows : Rows) (positive : 0 < size) (enough : rows.count ≤ count) :
    rows.pages size count = rows.rows := by
  rw [pages_taken]
  exact List.take_of_length_le (Nat.le_trans enough (Nat.le_mul_of_pos_right count positive))

end Rows

structure Handed where
  number : Nat
  columns : List String
  row : List Value
deriving DecidableEq

namespace Handed

def ofRows (columns : List String) (start : Nat) (rows : List (List Value)) : List Handed :=
  (rows.zipIdx start).map fun entry => ⟨entry.2, columns, entry.1⟩

end Handed

namespace RowHandler

variable {S : Type} (handler : RowHandler S)

def stops (handed : Handed) (state : S) : Bool := (handler.receive handed.number handed.columns handed.row state).1

def after (handed : List Handed) (state : S) : S :=
  handed.foldl (fun state one => (handler.receive one.number one.columns one.row state).2) state

def noting : RowHandler (S × List Handed) where
  receive number columns row state :=
    let (stops, after) := handler.receive number columns row state.1
    (stops, after, state.2 ++ [⟨number, columns, row⟩])

-- Of the rows there are, those up to and with the first on which the handler stops; all, if it stops on none.
structure Fed (state : S) (there handed : List Handed) : Prop where
  front : handed <+: there
  going : ∀ before one later, handed = before ++ one :: later → later ≠ [] →
    handler.stops one (handler.after before state) = false
  ended : handed = there ∨ ∃ before one, handed = before ++ [one] ∧ handler.stops one (handler.after before state) = true

theorem fed_none (state : S) : handler.Fed state [] [] :=
  ⟨List.prefix_refl [], fun before _ _ shape => absurd shape.symm (by simp), Or.inl rfl⟩

theorem fed_stop (state : S) (one : Handed) (rest : List Handed) (stops : handler.stops one state = true) :
    handler.Fed state (one :: rest) [one] := by
  refine ⟨⟨rest, rfl⟩, fun before other later shape more => ?_, Or.inr ⟨[], one, rfl, stops⟩⟩
  cases before with
  | nil => exact absurd (List.cons.inj shape).2.symm more
  | cons first front => exact absurd (List.cons.inj shape).2.symm (by simp)

theorem fed_on (state : S) (one : Handed) (rest handed : List Handed) (goes : handler.stops one state = false)
    (later : handler.Fed (handler.after [one] state) rest handed) : handler.Fed state (one :: rest) (one :: handed) := by
  refine ⟨List.cons_prefix_cons.mpr ⟨rfl, later.front⟩, fun before other behind shape more => ?_, ?_⟩
  · cases before with
    | nil =>
        cases shape
        exact goes
    | cons first front =>
        cases shape
        exact later.going front other behind rfl more
  · rcases later.ended with all | ⟨before, last, shape, stops⟩
    · exact Or.inl (congrArg _ all)
    · exact Or.inr ⟨one :: before, last, congrArg _ shape, stops⟩

theorem run_feed_cons (columns : List String) (number : Nat) (row : List Value) (rest : List (List Value)) (state : S) :
    (handler.feed columns number (row :: rest)).run state =
      if handler.stops ⟨number, columns, row⟩ state then (.ok (), handler.after [⟨number, columns, row⟩] state)
      else (handler.feed columns (number + 1) rest).run (handler.after [⟨number, columns, row⟩] state) := by
  rw [RowHandler.after, List.foldl_cons, List.foldl_nil, stops]
  rcases received : handler.receive number columns row state with ⟨stopped, after⟩
  cases stopped <;> simp [feed, Action.run, received]

theorem feed_fed (columns : List String) (number : Nat) (rows : List (List Value)) (state : S) (noted : List Handed) :
    ∃ handed, handler.Fed state (Handed.ofRows columns number rows) handed ∧
      (handler.feed columns number rows).run state = (.ok (), handler.after handed state) ∧
      (handler.noting.feed columns number rows).run (state, noted) = (.ok (), handler.after handed state, noted ++ handed) := by
  induction rows generalizing number state noted with
  | nil => exact ⟨[], handler.fed_none state, rfl, by rw [List.append_nil]; rfl⟩
  | cons row rest ih =>
      have one : Handed.ofRows columns number (row :: rest) =
          ⟨number, columns, row⟩ :: Handed.ofRows columns (number + 1) rest := by
        rw [Handed.ofRows, List.zipIdx_cons, List.map_cons]
        rfl
      rw [one]
      cases answer : handler.stops ⟨number, columns, row⟩ state with
      | true =>
          refine ⟨_, handler.fed_stop state _ _ answer, ?_, ?_⟩
          · rw [run_feed_cons, if_pos answer]
          · rw [run_feed_cons]
            exact if_pos answer
      | false =>
          obtain ⟨handed, fed, ran, ranNoting⟩ :=
            ih (number + 1) (handler.after [⟨number, columns, row⟩] state) (noted ++ [⟨number, columns, row⟩])
          refine ⟨_, handler.fed_on state _ _ handed answer fed, ?_, ?_⟩
          · rw [run_feed_cons, answer, if_neg Bool.false_ne_true, ran]
            rfl
          · have goes : handler.noting.stops ⟨number, columns, row⟩ (state, noted) = false := answer
            rw [run_feed_cons, goes, if_neg Bool.false_ne_true]
            refine ranNoting.trans ?_
            rw [List.append_assoc]
            rfl

end RowHandler

namespace Rows

theorem delivered_in_order (rows : Rows) :
    (∀ bounds, rows.window bounds = ⟨rows.columns, (rows.rows.drop bounds.offset).take bounds.limit⟩) ∧
      (∀ size count, rows.pages size count = rows.rows.take (count * size)) ∧
      (∀ size count, 0 < size → rows.count ≤ count → rows.pages size count = rows.rows) ∧
      ∀ {S : Type} (handler : RowHandler S) (bounds : Bounds) (state : S), ∃ handed,
        handler.Fed state (Handed.ofRows rows.columns 1 ((rows.rows.drop bounds.offset).take bounds.limit)) handed ∧
        (ResultSetHandler.deliver bounds (some handler) rows).run state =
          (.ok ⟨rows.columns, []⟩, handler.after handed state) ∧
        (ResultSetHandler.deliver bounds (some handler.noting) rows).run (state, []) =
          (.ok ⟨rows.columns, []⟩, handler.after handed state, handed) := by
  refine ⟨fun bounds => rows.window_eq bounds, fun size count => rows.pages_taken size count,
    fun size count => rows.pages_all size count, fun {S} handler bounds state => ?_⟩
  obtain ⟨handed, fed, ran, noted⟩ :=
    handler.feed_fed rows.columns 1 ((rows.rows.drop bounds.offset).take bounds.limit) state []
  refine ⟨handed, fed, ?_, ?_⟩
  · rw [ResultSetHandler.deliver, window_eq]
    exact Action.run_bind_ok ran
  · rw [ResultSetHandler.deliver, window_eq]
    exact Action.run_bind_ok noted

end Rows

namespace Counted

def numbers : Rows := ⟨["n"], [[.integer 1], [.integer 2], [.integer 3], [.integer 4], [.integer 5]]⟩

def counting : RowHandler Nat where
  receive number _ _ seen := (number == 2, seen + 1)

def handed : List Handed := [⟨1, ["n"], [.integer 2]⟩, ⟨2, ["n"], [.integer 3]⟩]

theorem numbers_delivered :
    numbers.pages 2 5 = numbers.rows ∧ counting.Fed 0 (Handed.ofRows ["n"] 1 ((numbers.rows.drop 1).take 4)) handed ∧
      (ResultSetHandler.deliver ⟨1, 4⟩ (some counting) numbers).run 0 = (.ok ⟨["n"], []⟩, counting.after handed 0) := by
  obtain ⟨_, _, paged, delivered⟩ := numbers.delivered_in_order
  obtain ⟨given, fed, ran, noted⟩ := delivered counting ⟨1, 4⟩ 0
  have seen : (ResultSetHandler.deliver ⟨1, 4⟩ (some counting.noting) numbers).run (0, []) =
      (.ok ⟨["n"], []⟩, 2, handed) := by rfl
  obtain rfl : given = handed := congrArg (fun outcome => outcome.2.2) (noted.symm.trans seen)
  exact ⟨paged 2 5 (by decide) (by decide), fed, ran⟩

end Counted

end StatementMapper
