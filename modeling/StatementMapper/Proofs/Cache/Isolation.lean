import StatementMapper.Proofs.Cache.Course

set_option autoImplicit false

/-! A region is the overlay of the committed buffers in the order of their commits; a reader sees its own over it. -/

namespace StatementMapper.Cache

-- The state after a course is what its history tells of every session and of every region.
structure Follows (initial : Shared Backing) (exchange : Exchange Backing) (course : Course) : Prop where
  lasting : exchange.shared.Lasting
  registered : ∀ id, exchange.shared.Registered id ↔ initial.Registered id
  kept : ∀ session, Staging.WellKept (exchange.buffersOf session)
  pending : ∀ session id, Pending.ofBuffer ((exchange.stagingOf session).buffer id) = Course.pending session id course
  contents : ∀ id, initial.Registered id →
    exchange.shared.contents id = Course.contents id (initial.contents id) course

theorem follows_initial (initial : Shared Backing) (lasting : initial.Lasting) : Follows initial ⟨initial, [], []⟩ [] :=
  ⟨lasting, fun _ => Iff.rfl, fun _ => Staging.well_kept_nil, fun _ _ => rfl, fun _ _ => rfl⟩

theorem buffers_of_settle (session other : String) (staging : Staging Backing) (exchange : Exchange Backing) :
    (exchange.settle session staging).buffersOf other =
      if other = session then staging.buffers else exchange.buffersOf other := by
  by_cases same : other = session
  · simp [Exchange.settle, Exchange.buffersOf, same, Table.get_put_same]
  · simp [Exchange.settle, Exchange.buffersOf, same, Table.get_put_other same]

theorem run_enact {session : String} {deed : Deed} {exchange : Exchange Backing} {reply : Except Fault Reply}
    {after : Staging Backing} (ran : deed.carryOut.run (exchange.stagingOf session) = (reply, after)) :
    (Exchange.enact session deed).run exchange = (reply, exchange.settle session after) := by
  simp only [Exchange.enact, Exchange.as, Action.run_within, ran]

theorem follows_settle (initial : Shared Backing) (exchange : Exchange Backing) (course : Course) (session : String)
    (deed : Deed) (after : Staging Backing) (follows : Follows initial exchange course)
    (carried : Staging.Carried deed (exchange.stagingOf session) after) :
    Follows initial (exchange.settle session after) (course ++ [(session, deed)]) := by
  refine ⟨carried.lasting, fun id => (carried.registered id).trans (follows.registered id), ?_, ?_, ?_⟩
  · intro other
    rw [buffers_of_settle]
    by_cases same : other = session
    · simpa only [if_pos same] using carried.kept
    · simpa only [if_neg same] using follows.kept other
  · intro other id
    have told := follows.pending other id
    unfold Exchange.stagingOf Staging.buffer at told ⊢
    rw [buffers_of_settle, Course.pending_snoc, ← told, Pending.extend]
    by_cases same : other = session
    · rw [if_pos same, if_pos same.symm, same]
      exact carried.pending id
    · rw [if_neg same, if_neg (Ne.symm same)]
  · intro id registered
    have present := (follows.registered id).mpr registered
    have before := follows.contents id registered
    by_cases commits : deed = .commit
    · have written := carried.commits commits id present
      rw [follows.pending] at written
      subst commits
      rw [Course.contents_snoc_commit, ← before]
      exact written
    · rw [Course.contents_snoc_other id _ course (session, deed) commits, ← before]
      exact carried.quiet commits id present

theorem follows_enact (initial : Shared Backing) (exchange : Exchange Backing) (course : Course) (session : String)
    (deed : Deed) (follows : Follows initial exchange course) :
    ∃ reply after, (Exchange.enact session deed).run exchange = (.ok reply, after) ∧
      Follows initial after (course ++ [(session, deed)]) := by
  obtain ⟨reply, after, ran, carried⟩ :=
    Staging.carry_out_carried deed (exchange.stagingOf session) follows.lasting (follows.kept session)
  exact ⟨reply, _, run_enact ran, follows_settle initial exchange course session deed after follows carried⟩

theorem follows_enact_all (initial : Shared Backing) (exchange : Exchange Backing) (course more : Course)
    (follows : Follows initial exchange course) : Follows initial (exchange.enactAll more) (course ++ more) := by
  induction more generalizing exchange course with
  | nil => simpa [Exchange.enactAll] using follows
  | cons step rest ih =>
      rcases step with ⟨session, deed⟩
      obtain ⟨reply, after, ran, next⟩ := follows_enact initial exchange course session deed follows
      have whole := ih after _ next
      simp only [List.append_assoc, List.singleton_append] at whole
      simpa only [Exchange.enactAll, List.foldl_cons, ran] using whole

theorem enact_get (initial : Shared Backing) (exchange : Exchange Backing) (course : Course)
    (follows : Follows initial exchange course) (session id : String) (key : Key) (registered : initial.Registered id) :
    ((Exchange.enact session (.get id key)).run exchange).1 =
      .ok (.found ((Course.pending session id course).lookup (exchange.shared.contents id) key)) := by
  have present := (follows.registered id).mpr registered
  obtain ⟨shared, ran, left⟩ := Staging.run_get id key (exchange.stagingOf session)
    (Shared.lasting_reachable _ follows.lasting) present (follows.kept session)
  have same : shared.contents id = exchange.shared.contents id := (left.lasting follows.lasting).2 id present
  rw [run_enact (Action.run_bind_ok ran), ← follows.pending,
    Pending.lookup_of_buffer _ (Staging.well_kept_buffer id _ (follows.kept session)), same]

def Course.outcome (initial : Shared Backing) (course : Course) : Exchange Backing :=
  Exchange.enactAll ⟨initial, [], []⟩ course

structure Isolated (initial : Shared Backing) (course : Course) : Prop where
  succeeds : ∀ session deed, ∃ reply, ((Exchange.enact session deed).run (course.outcome initial)).1 = .ok reply
  serial : ∀ id, initial.Registered id →
    (course.outcome initial).shared.contents id = Course.contents id (initial.contents id) course
  quiet : ∀ session deed id, deed ≠ .commit → initial.Registered id →
    ((Exchange.enact session deed).run (course.outcome initial)).2.shared.contents id =
      (course.outcome initial).shared.contents id
  reads : ∀ session id key, initial.Registered id →
    ((Exchange.enact session (.get id key)).run (course.outcome initial)).1 =
      .ok (.found ((Course.pending session id course).lookup ((course.outcome initial).shared.contents id) key))
  checkpoints : ∀ session id, ∃ buffer,
    ((Exchange.enact session (.checkpoint id)).run (course.outcome initial)).1 = .ok (.taken buffer) ∧
      Pending.ofBuffer (buffer.getD {}) = Course.pending session id course
  publishes : ∀ session other id key, initial.Registered id →
    Course.pending other id (course ++ [(session, .commit)]) = Pending.empty →
    ((Exchange.enact other (.get id key)).run
      ((Exchange.enact session .commit).run (course.outcome initial)).2).1 =
        ((Exchange.enact session (.get id key)).run (course.outcome initial)).1

theorem course_isolated (initial : Shared Backing) (lasting : initial.Lasting) (course : Course) :
    Isolated initial course := by
  have follows : Follows initial (course.outcome initial) course :=
    follows_enact_all initial _ [] course (follows_initial initial lasting)
  refine ⟨?_, follows.contents, ?_, fun session id key => enact_get initial _ course follows session id key, ?_, ?_⟩
  · intro session deed
    obtain ⟨reply, after, ran, _⟩ := follows_enact initial _ course session deed follows
    exact ⟨reply, by rw [ran]⟩
  · intro session deed id quiet registered
    obtain ⟨reply, after, ran, next⟩ := follows_enact initial _ course session deed follows
    rw [ran, next.contents id registered, follows.contents id registered]
    exact Course.contents_snoc_other id _ course (session, deed) quiet
  · intro session id
    exact ⟨_, rfl, follows.pending session id⟩
  · intro session other id key registered untouched
    obtain ⟨reply, after, ran, next⟩ := follows_enact initial _ course session .commit follows
    rw [ran, enact_get initial after _ next other id key registered, untouched,
      enact_get initial _ course follows session id key registered, next.contents id registered,
      follows.contents id registered, Course.contents_snoc_commit]
    rfl

namespace Isolated

def empty : Shared Backing := ⟨[("users", { id := "users", interval := none, store := .unbounded })], 0⟩

def one : Rows := ⟨["id"], [[.integer 1]]⟩

-- The reader finds nothing until the writer commits; the writer finds its own rows before that.
def handover : Course := [("writer", .put "users" ⟨[.integer 1]⟩ one)]

theorem handover_isolated : Shared.Lasting empty ∧ Isolated empty handover ∧
    Course.pending "writer" "users" handover ≠ Pending.empty ∧
    Course.pending "reader" "users" (handover ++ [("writer", .commit)]) = Pending.empty := by
  have lasting : Shared.Lasting empty := by
    intro id region found
    by_cases same : id = "users"
    · simp only [empty, Table.get?, if_pos same, Option.some.injEq] at found
      subst found
      exact ⟨rfl, trivial⟩
    · simp [empty, Table.get?, same] at found
  refine ⟨lasting, course_isolated empty lasting handover, ?_, rfl⟩
  intro same
  have written := congrFun (congrArg Pending.written same) ⟨[.integer 1]⟩
  cases written

end Isolated

end StatementMapper.Cache
