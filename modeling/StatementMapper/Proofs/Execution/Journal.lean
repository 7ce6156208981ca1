import StatementMapper.Database

set_option autoImplicit false

namespace StatementMapper

inductive Entry where
  | answered (rows : Rows)
  | wrote
  | committed
  | rolledBack
deriving DecidableEq

abbrev Journal := List Entry

namespace Journal

-- Each write is followed by an end of its transaction.
def Settled : Journal → Prop
  | [] => True
  | .wrote :: later => (Entry.committed ∈ later ∨ Entry.rolledBack ∈ later) ∧ Settled later
  | _ :: later => Settled later

def decideSettled : (journal : Journal) → Decidable journal.Settled
  | [] => .isTrue trivial
  | .wrote :: later => @instDecidableAnd _ _ inferInstance (decideSettled later)
  | .answered _ :: later => decideSettled later
  | .committed :: later => decideSettled later
  | .rolledBack :: later => decideSettled later

instance (journal : Journal) : Decidable journal.Settled := decideSettled journal

theorem settled_cons (entry : Entry) (journal : Journal) :
    Settled (entry :: journal) ↔
      (entry = .wrote → Entry.committed ∈ journal ∨ Entry.rolledBack ∈ journal) ∧ Settled journal := by
  cases entry <;> simp [Settled]

theorem settled_append (journal later : Journal) (settled : journal.Settled) (quiet : later.Settled) :
    Settled (journal ++ later) := by
  induction journal with
  | nil => exact quiet
  | cons entry rest ih =>
      obtain ⟨ended, below⟩ := (settled_cons entry rest).mp settled
      refine (settled_cons entry (rest ++ later)).mpr ⟨fun wrote => ?_, ih below⟩
      rcases ended wrote with committed | rolledBack
      · exact Or.inl (List.mem_append_left later committed)
      · exact Or.inr (List.mem_append_left later rolledBack)

theorem settled_of_unwritten (journal : Journal) (unwritten : ∀ entry ∈ journal, entry ≠ .wrote) : journal.Settled := by
  induction journal with
  | nil => trivial
  | cons entry rest ih =>
      refine (settled_cons entry rest).mpr ⟨fun wrote => absurd wrote (unwritten entry List.mem_cons_self), ih ?_⟩
      exact fun other member => unwritten other (List.mem_cons_of_mem _ member)

theorem settled_ended (journal : Journal) (entry : Entry) (ends : entry = .committed ∨ entry = .rolledBack) :
    Settled (journal ++ [entry]) := by
  induction journal with
  | nil => exact settled_of_unwritten [entry] (by rcases ends with rfl | rfl <;> simp)
  | cons first rest ih =>
      refine (settled_cons first (rest ++ [entry])).mpr ⟨fun _ => ?_, ih⟩
      rcases ends with rfl | rfl
      · exact Or.inl (by simp)
      · exact Or.inr (by simp)

theorem ended_of_settled (past later : Journal) (unsettled : ¬ past.Settled) (settled : Settled (past ++ later)) :
    Entry.committed ∈ later ∨ Entry.rolledBack ∈ later := by
  induction past with
  | nil => exact absurd trivial unsettled
  | cons entry rest ih =>
      obtain ⟨ended, below⟩ := (settled_cons entry (rest ++ later)).mp settled
      by_cases inside : Settled rest
      · -- The write that nothing in the past settles is the first one.
        have first : ¬ (entry = .wrote → Entry.committed ∈ rest ∨ Entry.rolledBack ∈ rest) :=
          fun settles => unsettled ((settled_cons entry rest).mpr ⟨settles, inside⟩)
        obtain ⟨wrote, unended⟩ := Classical.not_imp.mp first
        rcases ended wrote with committed | rolledBack
        · exact Or.inl ((List.mem_append.mp committed).resolve_left fun earlier => unended (Or.inl earlier))
        · exact Or.inr ((List.mem_append.mp rolledBack).resolve_left fun earlier => unended (Or.inr earlier))
      · exact ih inside below

def Grown (allow : Entry → Prop) (past journal : Journal) : Prop :=
  ∃ later, journal = past ++ later ∧ ∀ entry ∈ later, allow entry

-- Rows that are a window of what the driver answered after a past.
def Produced (past journal : Journal) (rows : Rows) : Prop :=
  ∃ later full bounds, journal = past ++ later ∧ Entry.answered full ∈ later ∧ rows = full.window bounds

variable {allow : Entry → Prop} {past middle journal : Journal} {rows : Rows}

theorem grown_refl (allow : Entry → Prop) (journal : Journal) : Grown allow journal journal :=
  ⟨[], (List.append_nil journal).symm, nofun⟩

theorem grown_trans (first : Grown allow past middle) (second : Grown allow middle journal) :
    Grown allow past journal := by
  obtain ⟨early, rfl, allowed⟩ := first
  obtain ⟨late, rfl, others⟩ := second
  refine ⟨early ++ late, List.append_assoc _ _ _, fun entry member => ?_⟩
  rcases List.mem_append.mp member with before | after
  · exact allowed entry before
  · exact others entry after

theorem grown_snoc (journal : Journal) (entry : Entry) (allowed : allow entry) : Grown allow journal (journal ++ [entry]) :=
  ⟨[entry], rfl, fun _ member => List.mem_singleton.mp member ▸ allowed⟩

theorem grown_weaken {wider : Entry → Prop} (grown : Grown allow past journal) (wide : ∀ entry, allow entry → wider entry) :
    Grown wider past journal := by
  obtain ⟨later, same, allowed⟩ := grown
  exact ⟨later, same, fun entry member => wide entry (allowed entry member)⟩

theorem produced_grown (produced : Produced past middle rows) (grown : Grown allow middle journal) :
    Produced past journal rows := by
  obtain ⟨early, full, bounds, rfl, answered, window⟩ := produced
  obtain ⟨late, rfl, _⟩ := grown
  exact ⟨early ++ late, full, bounds, List.append_assoc _ _ _, List.mem_append_left late answered, window⟩

theorem grown_produced (grown : Grown allow past middle) (produced : Produced middle journal rows) :
    Produced past journal rows := by
  obtain ⟨early, rfl, _⟩ := grown
  obtain ⟨late, full, bounds, rfl, answered, window⟩ := produced
  exact ⟨early ++ late, full, bounds, List.append_assoc _ _ _, List.mem_append_right early answered, window⟩

end Journal

structure Journaled (W : Type) where
  world : W
  journal : Journal := []

namespace Journaled

variable {W A : Type}

def inWorld (action : Action W A) : Action (Journaled W) A :=
  Action.within world (fun world journaled => { journaled with world }) action

def note (entry : Entry) (journaled : Journaled W) : Journaled W :=
  { journaled with journal := journaled.journal ++ [entry] }

end Journaled

def Database.journaled {W : Type} (database : Database W) : Database (Journaled W) where
  query request := do
    let rows ← Journaled.inWorld (database.query request)
    Action.change (Journaled.note (.answered rows))
    pure rows
  execute request := do
    Action.change (Journaled.note .wrote)
    Journaled.inWorld (database.execute request)
  commit := do
    Journaled.inWorld database.commit
    Action.change (Journaled.note .committed)
  rollback := do
    Journaled.inWorld database.rollback
    Action.change (Journaled.note .rolledBack)
  close := Journaled.inWorld database.close

end StatementMapper
