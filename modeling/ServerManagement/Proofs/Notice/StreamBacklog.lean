import ServerManagement.Proofs.Notice.StreamRest

/-!
Streams of a closed board. What a stream still has for its reader is then fixed: the events that it
has taken and those that wait in its mailbox. The reader finds them in order, and then the end.
-/

set_option autoImplicit false

namespace ServerManagement

namespace EventStream

/-- The events among some notifications; what cannot be read is skipped. -/
def events (kind : EventKind) (notifications : List Notification) : List ServerEvent :=
  notifications.filterMap fun notification => (kind.decode notification).toOption

/-- What the reader of a stream will still find, if nothing more is posted. -/
def backlog (board : Board) (stream : EventStream) : List ServerEvent :=
  stream.ready.toList ++
    if stream.isLive then
      stream.held.toList ++ events stream.kind (board.mailbox stream.mailbox).unread
    else []

variable {cancelled : List Token} {board : Board} {stream : EventStream}
  {streams : List EventStream} {number : Nat}

/-! ## Taking events -/

theorem events_cons (kind : EventKind) (notification : Notification)
    (notifications : List Notification) :
    events kind (notification :: notifications) =
      (kind.decode notification).toOption.toList ++ events kind notifications := by
  simp only [events, List.filterMap_cons]
  cases (kind.decode notification).toOption <;> rfl

theorem taken_offer (stream : EventStream) :
    stream.offer.ready.toList ++ stream.offer.held.toList =
      stream.ready.toList ++ stream.held.toList := by
  unfold offer
  split
  · rfl
  · rename_i unready
    simp [unready]

/-- To take events out of the mailbox changes neither which there are nor their order. -/
theorem taken_pull (stream : EventStream) (unread : List Notification) :
    (stream.pull unread).1.ready.toList ++ ((stream.pull unread).1.held.toList ++
        events stream.kind (stream.pull unread).2) =
      stream.ready.toList ++ (stream.held.toList ++ events stream.kind unread) := by
  induction unread generalizing stream with
  | nil => rfl
  | cons notification unread ih =>
      unfold pull
      split
      · rfl
      · rename_i free
        have unheld : stream.held = none := by simpa using free
        split
        · rename_i failure skipped
          rw [ih stream, events_cons, skipped]
          rfl
        · rename_i event decoded
          have kind := (offer_frame { stream with held := some event }).1
          have rest := ih ({ stream with held := some event }.offer)
          rw [kind] at rest
          rw [rest, ← List.append_assoc, taken_offer, events_cons, decoded, unheld]
          simp [Except.toOption]

/-- To go on takes nothing from the reader. -/
theorem backlog_pull (board : Board) (live : stream.isLive = true) :
    let pulled := stream.offer.pull (board.mailbox stream.mailbox).unread
    backlog (board.keep pulled.1.mailbox pulled.2) pulled.1 = backlog board stream := by
  intro pulled
  have taken := taken_pull stream.offer (board.mailbox stream.mailbox).unread
  have owner : SameOwner stream pulled.1 := (sameOwner_offer stream).trans
    (pulled_pull (offered_offer stream) (board.mailbox stream.mailbox).unread).owner
  rw [(sameOwner_offer stream).kind, ← List.append_assoc stream.offer.ready.toList,
    taken_offer, List.append_assoc] at taken
  have rest : ((board.keep pulled.1.mailbox pulled.2).mailbox pulled.1.mailbox).unread =
      pulled.2 := unread_pull board stream
  simp only [backlog, owner.isLive, live, if_true, rest, owner.kind]
  exact taken

/-- A stream that has nothing left but what is ready loses nothing when it ends. -/
theorem backlog_retire (held : stream.held = none)
    (unread : (board.mailbox stream.mailbox).unread = []) :
    backlog (retire board stream).1 (retire board stream).2 = backlog board stream := by
  simp [backlog, retire, finish, held, unread, events]

/-! ## Without topics -/

/-- No stream waits for a closed board, so what is at rest there is at rest on any. -/
theorem Rests.anywhere (rests : stream.Rests cancelled board) (tidy : board.Tidy)
    (closed : board.isClosed = true) (other : Board) : stream.Rests cancelled other := by
  cases rests with
  | ended ended => exact .ended ended
  | full live uncancelled present held ready => exact .full live uncancelled present held ready
  | empty live uncancelled present held unread linked =>
      rw [tidy.isLinked_of_closed closed] at linked
      cases linked

theorem rests_advance_anywhere (tidy : board.Tidy) (closed : board.isClosed = true)
    (stream : EventStream) (other : Board) :
    (stream.advance cancelled board).2.Rests cancelled other := by
  have settles := settles_advance cancelled board stream
  cases alive : (stream.advance cancelled board).2.isLive with
  | false => exact .ended alive
  | true =>
      have live : stream.isLive = true := by
        cases settles.fades with
        | cons _ fading _ => exact fading alive
      have rests := (rests_advance (alive.trans live.symm)).1
      exact rests.anywhere (settles.evolves.tidy tidy) (settles.isClosed.trans closed) other

/-- To go on, or to end for want of a topic, takes nothing from the reader. -/
theorem backlog_advance (tidy : board.Tidy) (closed : board.isClosed = true)
    (live : stream.isLive = true) (uncancelled : cancelled.contains stream.token = false)
    (present : stream.isAbandoned = false) :
    backlog (stream.advance cancelled board).1 (stream.advance cancelled board).2 =
      backlog board stream := by
  rw [advance_eq live uncancelled present, ← backlog_pull board live]
  have pulled := pulled_pull (offered_offer stream) (board.mailbox stream.mailbox).unread
  have left := unread_pull board stream
  generalize stream.offer.pull (board.mailbox stream.mailbox).unread = result at *
  have unlinked : (board.keep result.1.mailbox result.2).isLinked result.1.mailbox = false :=
    ((board.evolves_keep _ _).tidy tidy).isLinked_of_closed closed _
  dsimp only at left ⊢
  rw [unlinked]
  cases held : result.1.held with
  | none =>
      have rest := pulled.stuck held
      simpa [rest] using backlog_retire held (left.trans rest)
  | some event => rfl

theorem head?_backlog (rests : stream.Rests cancelled board) :
    (backlog board stream).head? = stream.ready := by
  cases ready : stream.ready with
  | some event => simp [backlog, ready]
  | none =>
      cases rests with
      | ended ended => simp [backlog, ready, ended]
      | full _ _ _ _ offered =>
          rw [ready] at offered
          cases offered
      | empty _ _ _ held unread _ => simp [backlog, ready, held, unread, events]

/-- The reader of a stream at rest finds the first event of the backlog, or the end; the rest of the
backlog is left once the stream has gone on. -/
theorem read_backlog (rests : stream.Rests cancelled board) (tidy : board.Tidy)
    (closed : board.isClosed = true) :
    stream.read.1 = .orEnd (backlog board stream).head? ∧
      backlog (stream.read.2.advance cancelled board).1 (stream.read.2.advance cancelled board).2 =
        (backlog board stream).tail := by
  cases rests with
  | ended ended =>
      have after : stream.read.2.isLive = false := by
        unfold read
        split <;> exact ended
      have still : stream.read.2.Rests cancelled board := .ended after
      rw [still.advance_eq_self]
      cases ready : stream.ready <;> simp [read, ready, backlog, ended, Receipt.orEnd]
  | full live uncancelled present held ready =>
      obtain ⟨event, ready⟩ := Option.isSome_iff_exists.mp ready
      have emptied : stream.read.2 = { stream with ready := none } := by simp only [read, ready]
      have rest : backlog (stream.read.2.advance cancelled board).1
          (stream.read.2.advance cancelled board).2 = backlog board stream.read.2 := by
        rw [emptied]
        exact backlog_advance tidy closed live uncancelled present
      rw [rest]
      simp [read, ready, backlog, Receipt.orEnd]
  | empty live uncancelled present held unread linked =>
      rw [tidy.isLinked_of_closed closed] at linked
      cases linked

/-! ## One stream among those at rest -/

theorem sweep_set (resting : ∀ other ∈ streams, ∀ board, other.Rests cancelled board)
    (within : number < streams.length) :
    sweep cancelled board (streams.set number stream) =
      ((stream.advance cancelled board).1,
        streams.set number (stream.advance cancelled board).2) := by
  induction streams generalizing number with
  | nil => cases within
  | cons first streams ih =>
      have rest : ∀ other ∈ streams, ∀ board, other.Rests cancelled board :=
        fun other member => resting other (List.mem_cons_of_mem _ member)
      cases number with
      | zero =>
          simp only [List.set_cons_zero, sweep,
            sweep_of_rests fun other member => rest other member (stream.advance cancelled board).1]
      | succ number =>
          have still := (resting first (List.mem_cons_self ..) board).advance_eq_self
          have swept := ih rest (Nat.lt_of_succ_lt_succ within)
          simp only [List.set_cons_succ, sweep, still, swept]

/-- When all others are at rest, a single stream goes on, and comes to rest itself. -/
theorem settle_set (tidy : board.Tidy) (closed : board.isClosed = true)
    (resting : ∀ other ∈ streams, ∀ board, other.Rests cancelled board)
    (within : number < streams.length) :
    settle cancelled board (streams.set number stream) =
      ((stream.advance cancelled board).1,
        streams.set number (stream.advance cancelled board).2) := by
  have after : ∀ other ∈ streams.set number (stream.advance cancelled board).2,
      other.Rests cancelled (stream.advance cancelled board).1 := by
    intro other member
    rcases List.mem_or_eq_of_mem_set member with old | rfl
    · exact resting other old _
    · exact rests_advance_anywhere tidy closed stream _
  rw [settle, sweep_set resting within]
  dsimp only
  split
  · exact settle_of_rests after
  · rfl

/-! ## Streams at rest when the board closes -/

def SameUnread (board later : Board) : Prop :=
  ∀ number, (later.mailbox number).unread = (board.mailbox number).unread

theorem SameUnread.close (board : Board) : SameUnread board board.close := by
  intro number
  unfold Board.close
  split <;> rfl

theorem SameUnread.backlog {later : Board} (same : SameUnread board later)
    (stream : EventStream) : stream.backlog later = stream.backlog board := by
  simp only [EventStream.backlog, same stream.mailbox]

theorem sameUnread_retire (empty : (board.mailbox stream.mailbox).unread = []) :
    SameUnread board (retire board stream).1 := by
  intro number
  change ((board.mailboxes.set stream.mailbox .missing).getD number .missing).unread = _
  rw [List.getD_eq_getElem?_getD, List.getElem?_set]
  by_cases own : stream.mailbox = number
  · subst own
    rw [empty]
    simp only [if_true]
    split <;> rfl
  · rw [if_neg own, ← List.getD_eq_getElem?_getD]
    rfl

/-- A stream at rest that loses its topic stays as it is, or ends with nothing left to take. -/
theorem Rests.advance_cases {later : Board} (rests : stream.Rests cancelled board)
    (same : SameUnread board later) :
    stream.advance cancelled later = (later, stream) ∨
      stream.advance cancelled later = retire later stream ∧ stream.held = none ∧
        (later.mailbox stream.mailbox).unread = [] := by
  cases rests with
  | ended ended =>
      have still : stream.Rests cancelled later := .ended ended
      exact .inl still.advance_eq_self
  | full live uncancelled present held ready =>
      have still : stream.Rests cancelled later := .full live uncancelled present held ready
      exact .inl still.advance_eq_self
  | empty live uncancelled present held unread linked =>
      have unreadLater := (same stream.mailbox).trans unread
      cases linkedLater : later.isLinked stream.mailbox with
      | true =>
          have still : stream.Rests cancelled later :=
            .empty live uncancelled present held unreadLater linkedLater
          exact .inl still.advance_eq_self
      | false =>
          refine .inr ⟨?_, held, unreadLater⟩
          have offered : stream.Offered := fun waits => by rw [held] at waits; cases waits
          have kept := keep_self later stream.mailbox
          rw [unreadLater] at kept
          rw [advance_eq live uncancelled present, offered.offer_eq, unreadLater]
          simp [pull, kept, linkedLater, held]

structure Spares (cancelled : List Token) (board : Board) (streams : List EventStream)
    (later : Board) (after : List EventStream) : Prop where
  unread : SameUnread board later
  backlogs : after.map (backlog board) = streams.map (backlog board)
  resting : ∀ stream ∈ after, stream.Rests cancelled board

theorem Rests.spares_advance {later : Board} (rests : stream.Rests cancelled board)
    (same : SameUnread board later) :
    Spares cancelled board [stream] (stream.advance cancelled later).1
      [(stream.advance cancelled later).2] := by
  rcases rests.advance_cases same with stays | ⟨ends, held, unread⟩
  · rw [stays]
    exact ⟨same, rfl, fun other member => List.mem_singleton.mp member ▸ rests⟩
  · rw [ends]
    have kept := sameUnread_retire unread
    have sameLater : SameUnread board (retire later stream).1 :=
      fun number => (kept number).trans (same number)
    have ended : backlog board (retire later stream).2 = backlog board stream := by
      rw [← sameLater.backlog, backlog_retire held unread, same.backlog]
    refine ⟨sameLater, congrArg ([·]) ended, fun other member => ?_⟩
    rw [List.mem_singleton.mp member]
    exact .ended rfl

theorem spares_sweep {later : Board} (rests : ∀ stream ∈ streams, stream.Rests cancelled board)
    (same : SameUnread board later) :
    Spares cancelled board streams (sweep cancelled later streams).1
      (sweep cancelled later streams).2 := by
  induction streams generalizing later with
  | nil => exact ⟨same, rfl, fun _ member => absurd member List.not_mem_nil⟩
  | cons stream streams ih =>
      obtain ⟨restsHead, restsTail⟩ := List.forall_mem_cons.mp rests
      have head := restsHead.spares_advance same
      have tail := ih restsTail head.unread
      refine ⟨tail.unread, ?_, ?_⟩
      · simp only [sweep, List.map_cons, tail.backlogs]
        exact congrArg (· ++ streams.map (backlog board)) head.backlogs
      · exact List.forall_mem_cons.mpr
          ⟨head.resting _ (List.mem_singleton_self _), tail.resting⟩

/-- When a board closes on which all streams are at rest, streams may end, but their readers will
find what they would have found. -/
theorem spares_settle {later : Board} (rests : ∀ stream ∈ streams, stream.Rests cancelled board)
    (same : SameUnread board later) :
    Spares cancelled board streams (settle cancelled later streams).1
      (settle cancelled later streams).2 := by
  fun_induction settle cancelled later streams with
  | case1 later streams swept _ ih =>
      have swept := spares_sweep rests same
      have rest := ih swept.resting swept.unread
      exact ⟨rest.unread, rest.backlogs.trans swept.backlogs, rest.resting⟩
  | case2 later streams swept _ => exact spares_sweep rests same

end EventStream

end ServerManagement
