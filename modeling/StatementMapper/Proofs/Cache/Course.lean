import StatementMapper.Cache.Exchange
import StatementMapper.Proofs.Cache.Publication

set_option autoImplicit false

namespace StatementMapper.Cache

open Table (assign)

-- A checkpoint is a map or the absence of one; a session may go back to any, as often as it likes.
structure Checkpoint where
  buffer : Option Buffer
  distinct : ∀ kept, buffer = some kept → kept.entries.Distinct

inductive Deed where
  | get (region : String) (key : Key)
  | put (region : String) (key : Key) (rows : Rows)
  | clear (region : String)
  | checkpoint (region : String)
  | restore (region : String) (earlier : Checkpoint)
  | commit
  | rollback

inductive Reply where
  | found (rows : Option Rows)
  | taken (buffer : Option Buffer)
  | done

def Deed.carryOut : Deed → Action (Staging Backing) Reply
  | .get region key => do
    let rows ← Staging.get region key
    pure (.found rows)
  | .put region key rows => do
    Staging.put region key rows
    pure .done
  | .clear region => do
    Staging.clear region
    pure .done
  | .checkpoint region => do
    let buffer ← Action.look (Staging.checkpoint region)
    pure (.taken buffer)
  | .restore region earlier => do
    Action.change (Staging.restore region earlier.buffer)
    pure .done
  | .commit => do
    Staging.commit
    pure .done
  | .rollback => do
    Staging.rollback
    pure .done

abbrev Course := List (String × Deed)

namespace Exchange

def enact (session : String) (deed : Deed) : Action (Exchange Backing) Reply := as session deed.carryOut

def enactAll (exchange : Exchange Backing) (course : Course) : Exchange Backing :=
  course.foldl (fun exchange step => ((enact step.1 step.2).run exchange).2) exchange

end Exchange

-- What a session has not committed yet, told by its own deeds alone.
structure Pending where
  clearing : Bool
  written : Contents

namespace Pending

def empty : Pending := ⟨false, Contents.nothing⟩

def ofBuffer (buffer : Buffer) : Pending := ⟨buffer.clearing, fun key => Table.get? key buffer.entries⟩

def lookup (pending : Pending) (below : Contents) (key : Key) : Option Rows :=
  (pending.written key).or (if pending.clearing then none else below key)

def after (region : String) (pending : Pending) : Deed → Pending
  | .put other key rows => if other = region then { pending with written := assign pending.written (key, rows) } else pending
  | .clear other => if other = region then ⟨true, Contents.nothing⟩ else pending
  | .restore other earlier => if other = region then ofBuffer (earlier.buffer.getD {}) else pending
  | .commit => empty
  | .rollback => empty
  | .get _ _ => pending
  | .checkpoint _ => pending

def extend (session region : String) (pending : Pending) (step : String × Deed) : Pending :=
  if step.1 = session then pending.after region step.2 else pending

theorem of_buffer_put (key : Key) (rows : Rows) (buffer : Buffer) :
    ofBuffer (buffer.put key rows) =
      { ofBuffer buffer with written := assign (ofBuffer buffer).written (key, rows) } := by
  unfold ofBuffer Buffer.put
  congr
  funext query
  by_cases same : query = key
  · simp [same, assign, Table.get_put_same]
  · simp [same, assign, Table.get_put_other same]

theorem lookup_of_buffer (buffer : Buffer) (distinct : buffer.entries.Distinct) (below : Contents) :
    (ofBuffer buffer).lookup below = buffer.overlay below := by
  funext key
  rw [Buffer.overlay_lookup buffer distinct]
  rfl

end Pending

namespace Course

def pending (session region : String) (course : Course) : Pending :=
  course.foldl (Pending.extend session region) Pending.empty

def committed (region : String) (earlier : Course) : Course → List Pending
  | [] => []
  | (session, .commit) :: rest => pending session region earlier :: committed region (earlier ++ [(session, .commit)]) rest
  | step :: rest => committed region (earlier ++ [step]) rest

def contents (region : String) (initial : Contents) (course : Course) : Contents :=
  (committed region [] course).foldl (fun below pending => pending.lookup below) initial

theorem pending_snoc (session region : String) (course : Course) (step : String × Deed) :
    pending session region (course ++ [step]) = Pending.extend session region (pending session region course) step := by
  simp only [pending, List.foldl_append, List.foldl_cons, List.foldl_nil]

theorem committed_snoc_commit (region session : String) (earlier course : Course) :
    committed region earlier (course ++ [(session, .commit)]) =
      committed region earlier course ++ [pending session region (earlier ++ course)] := by
  induction course generalizing earlier with
  | nil => simp [committed]
  | cons step rest ih =>
      rcases step with ⟨other, deed⟩
      cases deed <;> simp [committed, ih]

theorem committed_snoc_other (region : String) (step : String × Deed) (other : step.2 ≠ .commit)
    (earlier course : Course) : committed region earlier (course ++ [step]) = committed region earlier course := by
  induction course generalizing earlier with
  | nil =>
      rcases step with ⟨session, deed⟩
      cases deed with
      | commit => exact absurd rfl other
      | _ => rfl
  | cons first rest ih =>
      rcases first with ⟨session, deed⟩
      cases deed <;> simp [committed, ih]

theorem contents_snoc_commit (region session : String) (initial : Contents) (course : Course) :
    contents region initial (course ++ [(session, .commit)]) =
      (pending session region course).lookup (contents region initial course) := by
  simp [contents, committed_snoc_commit]

theorem contents_snoc_other (region : String) (initial : Contents) (course : Course) (step : String × Deed)
    (other : step.2 ≠ .commit) :
    contents region initial (course ++ [step]) = contents region initial course := by
  simp only [contents, committed_snoc_other region step other]

end Course

namespace Staging

theorem buffer_put (id other : String) (buffer : Buffer) (buffers : Buffers) (shared before : Shared Backing) :
    (Staging.mk (Table.put id buffer buffers) shared).buffer other =
      if other = id then buffer else (Staging.mk buffers before).buffer other := by
  by_cases same : other = id
  · simp [Staging.buffer, same, Table.get_put_same]
  · simp [Staging.buffer, same, Table.get_put_other same]

theorem buffer_erase (id other : String) (buffers : Buffers) (shared : Shared Backing) :
    (Staging.mk (Table.erase id buffers) shared).buffer other =
      if other = id then {} else (Staging.mk buffers shared).buffer other := by
  by_cases same : other = id
  · simp [Staging.buffer, same, Table.get_erase_same]
  · simp [Staging.buffer, same, Table.get_erase_other same]

theorem buffer_emptied (id : String) (buffers : Buffers) (shared : Shared Backing) :
    (Staging.mk (emptied buffers) shared).buffer id = {} := by
  simp only [Staging.buffer, get_emptied]
  cases Table.get? id buffers <;> rfl

-- What a deed of the session leaves: its own buffers follow the deed, and the regions change by a commit only.
structure Carried (deed : Deed) (before after : Staging Backing) : Prop where
  lasting : after.shared.Lasting
  registered : ∀ id, after.shared.Registered id ↔ before.shared.Registered id
  kept : WellKept after.buffers
  pending : ∀ id, Pending.ofBuffer (after.buffer id) = (Pending.ofBuffer (before.buffer id)).after id deed
  commits : deed = .commit → ∀ id, before.shared.Registered id →
    after.shared.contents id = (Pending.ofBuffer (before.buffer id)).lookup (before.shared.contents id)
  quiet : deed ≠ .commit → ∀ id, before.shared.Registered id → after.shared.contents id = before.shared.contents id

theorem carried_put (deed : Deed) (quiet : deed ≠ .commit) (id : String) (buffer : Buffer) (staging : Staging Backing)
    (lasting : staging.shared.Lasting) (kept : WellKept staging.buffers) (distinct : buffer.entries.Distinct)
    (here : Pending.ofBuffer buffer = (Pending.ofBuffer (staging.buffer id)).after id deed)
    (elsewhere : ∀ other pending, other ≠ id → Pending.after other pending deed = pending) :
    Carried deed staging { staging with buffers := Table.put id buffer staging.buffers } := by
  refine ⟨lasting, fun _ => Iff.rfl, well_kept_put _ _ _ kept distinct, ?_, fun commits => absurd commits quiet,
    fun _ _ _ => rfl⟩
  intro other
  rw [buffer_put id other buffer staging.buffers staging.shared staging.shared]
  by_cases same : other = id
  · rw [if_pos same, same, here]
  · rw [if_neg same, elsewhere other _ same]

theorem carried_get (id : String) (key : Key) (staging : Staging Backing) (lasting : staging.shared.Lasting)
    (kept : WellKept staging.buffers) :
    ∃ rows after, (get id key).run staging = (.ok rows, after) ∧ Carried (.get id key) staging after := by
  by_cases registered : staging.shared.Registered id
  · obtain ⟨shared, ran, left⟩ := run_get id key staging (Shared.lasting_reachable _ lasting) registered kept
    obtain ⟨still, same⟩ := left.lasting lasting
    refine ⟨_, _, ran, still, left.registered, well_kept_put _ _ _ kept (well_kept_buffer id staging kept), ?_,
      fun commits => (nomatch commits), fun _ => same⟩
    intro other
    rw [buffer_put id other _ staging.buffers shared staging.shared]
    by_cases here : other = id
    · rw [if_pos here, here]
      rfl
    · rw [if_neg here]
      rfl
  · have missing : Table.get? id staging.shared.regions = none := by
      simpa [Shared.Registered, Table.contains] using registered
    refine ⟨none, alter id (fun buffer => buffer) staging, ?_,
      carried_put (.get id key) nofun id (staging.buffer id) staging lasting kept (well_kept_buffer id staging kept) rfl
        (fun _ _ _ => rfl)⟩
    have asked := Shared.run_in_region_absent id none
      (fun now => ((alter id (fun buffer => buffer) staging).buffer id).get now key) staging.shared missing
    rw [get, Action.run_bind_ok (Action.run_change _ _), Action.run_bind_ok (Action.run_look _ _), inShared,
      Action.run_within]
    simp only [alter] at asked ⊢
    rw [asked]

theorem carry_out_carried (deed : Deed) (staging : Staging Backing) (lasting : staging.shared.Lasting)
    (kept : WellKept staging.buffers) :
    ∃ reply after, deed.carryOut.run staging = (.ok reply, after) ∧ Carried deed staging after := by
  cases deed with
  | get id key =>
      obtain ⟨rows, after, ran, carried⟩ := carried_get id key staging lasting kept
      exact ⟨.found rows, after, Action.run_bind_ok ran, carried⟩
  | put id key rows =>
      refine ⟨.done, _, rfl,
        carried_put (.put id key rows) nofun id ((staging.buffer id).put key rows) staging lasting kept ?_ ?_ ?_⟩
      · exact Table.distinct_put _ _ _ (well_kept_buffer id staging kept)
      · simp only [Pending.of_buffer_put, Pending.after, if_true]
      · intro other pending different
        simp only [Pending.after, if_neg (Ne.symm different)]
  | clear id =>
      refine ⟨.done, _, rfl,
        carried_put (.clear id) nofun id Buffer.cleared staging lasting kept Table.distinct_nil ?_ ?_⟩
      · simp only [Pending.after, if_true]
        rfl
      · intro other pending different
        simp only [Pending.after, if_neg (Ne.symm different)]
  | checkpoint id =>
      exact ⟨_, staging, rfl, lasting, fun _ => Iff.rfl, kept, fun _ => rfl, nofun, fun _ _ _ => rfl⟩
  | restore id earlier =>
      cases found : earlier.buffer with
      | some buffer =>
          refine ⟨.done, { staging with buffers := Table.put id buffer staging.buffers }, ?_,
            carried_put (.restore id earlier) nofun id buffer staging lasting kept (earlier.distinct buffer found) ?_ ?_⟩
          · simp only [Deed.carryOut, found]
            rfl
          · simp [Pending.after, found]
          · intro other pending different
            simp only [Pending.after, if_neg (Ne.symm different)]
      | none =>
          refine ⟨.done, { staging with buffers := Table.erase id staging.buffers }, ?_, lasting, fun _ => Iff.rfl,
            well_kept_erase _ _ kept, ?_, nofun, fun _ _ _ => rfl⟩
          · simp only [Deed.carryOut, found]
            rfl
          · intro other
            rw [buffer_erase]
            by_cases same : other = id
            · simp [Pending.after, found, same]
            · simp only [Pending.after, if_neg same, if_neg (Ne.symm same)]
  | commit =>
      obtain ⟨shared, ran, left⟩ := run_commit staging (Shared.lasting_reachable _ lasting) kept
      obtain ⟨still, same⟩ := left.lasting lasting
      refine ⟨.done, _, Action.run_bind_ok ran, still, left.registered, well_kept_emptied _ kept, ?_, ?_,
        fun quiet => absurd rfl quiet⟩
      · intro id
        rw [buffer_emptied]
        rfl
      · intro _ id registered
        rw [same id registered, Pending.lookup_of_buffer _ (well_kept_buffer id staging kept)]
        rfl
  | rollback =>
      refine ⟨.done, _, rfl, lasting, fun _ => Iff.rfl, well_kept_emptied _ kept, ?_, nofun, fun _ _ _ => rfl⟩
      intro id
      rw [buffer_emptied]
      rfl

end Staging

end StatementMapper.Cache
