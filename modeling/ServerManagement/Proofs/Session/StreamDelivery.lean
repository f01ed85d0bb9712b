import ServerManagement.Proofs.Notice.EventReading
import ServerManagement.Proofs.Session.StreamCourse

/-!
What the reader of a stream receives. The events come in the order in which their notifications came
in, each of them once; a notification is lost only when one event is ready, another is held and the
mailbox is full, and then it is the newest that is lost.
-/

set_option autoImplicit false

namespace ServerManagement

namespace Session

/-- Someone else takes the topic of a live stream away in the step, or gets at its mailbox: it is
unsubscribed, or while the board is open another stream of the topic ends. -/
def disturbs (session : Session) (number : Nat) (next : Step) : Bool :=
  let later := (session.step next).2
  (session.streams[number]?).any fun stream =>
    stream.isLive &&
      (next.meddles stream ||
        (!later.board.isClosed &&
          EventStream.endedOn stream.kind.topic (session.streams.eraseIdx number)
            (later.streams.eraseIdx number)))

def disturbances (session : Session) (number : Nat) : List Step → List Step :=
  session.along fun session next _ => if session.disturbs number next then [next] else []

variable {session : Session} {next : Step} {number : Nat} {stream : EventStream}
  {ledger : StreamLedger} {steps : List Step} {notification : Notification}

theorem spares_of_undisturbed (undisturbed : session.disturbs number next = false) :
    session.Spares number next := by
  intro stream here live
  simp only [disturbs, here, Option.any_some, live, Bool.true_and, Bool.or_eq_false_iff,
    Bool.and_eq_false_iff, Bool.not_eq_false'] at undisturbed
  refine ⟨undisturbed.1, fun opened => EventStream.spared_of_endedOn ?_⟩
  rcases undisturbed.2 with closed | lasting
  · rw [opened] at closed
    cases closed
  · exact lasting

theorem undisturbed_of_disturbances (none : session.disturbances number steps = []) :
    Undisturbed number session steps := by
  induction steps generalizing session with
  | nil => trivial
  | cons next steps ih =>
      obtain ⟨here, rest⟩ := List.append_eq_nil_iff.mp none
      refine ⟨spares_of_undisturbed ?_, ih rest⟩
      cases disturbed : session.disturbs number next with
      | false => rfl
      | true => simp [disturbed] at here

theorem Undisturbed.append_iff {before after : List Step} :
    Undisturbed number session (before ++ after) ↔
      Undisturbed number session before ∧ Undisturbed number (session.run before) after := by
  induction before generalizing session with
  | nil => simp [Undisturbed]
  | cons next before ih => simp [Undisturbed, ih, and_assoc]

/-! ## One notification -/

theorem act_of_noticed (noticed : session.noticed? next = some notification) :
    (session.act next).2 = { session with board := (session.board.post notification).2 } := by
  cases next with
  | receive incoming =>
      cases incoming with
      | data frame =>
          simp only [noticed?] at noticed
          split at noticed
          · rename_i running
            split at noticed
            · rename_i decoded
              cases noticed
              simp only [act, receive, running, decoded, ne_eq, not_true_eq_false, if_false]
            · cases noticed
            · cases noticed
          · cases noticed
      | control | farewell | broken | ended => cases noticed
  | _ => cases noticed

/-- When a notification comes in, the streams find it on the board and go on. -/
theorem AtRest.notices_of_noticed (rest : session.AtRest)
    (noticed : session.noticed? next = some notification) :
    ((session.step next).2.board, (session.step next).2.streams) =
        EventStream.settle session.cancelled (session.board.post notification).2
          session.streams ∧
      (session.step next).2.cancelled = session.cancelled := by
  have notices := (session.act next).2.settle_notices
  have found : (session.act next).2.foundBoard = (session.board.post notification).2 := by
    rw [act_of_noticed noticed]
    exact if_neg fun stops => rest.prompt stops.1 stops.2
  rw [found, act_of_noticed noticed] at notices
  rw [step_eq_settle, act_of_noticed noticed]
  exact notices

/-- All that can be kept for the reader is there: one event is ready, another is held, and the
mailbox is full. -/
def Crammed (session : Session) (stream : EventStream) : Prop :=
  stream.ready.isSome = true ∧ stream.held.isSome = true ∧
    (session.board.mailbox stream.mailbox).unread.length = session.board.capacity

/-- A live stream takes in what comes in on its topic, unless there is no more room for it. -/
theorem enters_of_noticed (rests : stream.Rests session.cancelled session.board)
    (tended : stream.Tended session.cancelled ledger session.board)
    (live : stream.isLive = true) (opened : session.board.isClosed = false)
    (room : 0 < session.board.capacity) (noticed : session.noticed? next = some notification)
    (topic : notification.method = ledger.topic) :
    (session.Crammed stream → session.enters ledger.mailbox next = [] ∧
      (session.board.post notification).2 = session.board) ∧
    (¬session.Crammed stream → session.enters ledger.mailbox next = [notification]) := by
  have entering : session.enters ledger.mailbox next =
      session.board.entering ledger.mailbox notification := by
    simp only [enters, noticed, Option.toList_some, List.flatMap_singleton]
  rw [entering, Crammed, tended.mailbox]
  cases tended.tidy.reception (tended.linked live opened) (tended.present live) notification with
  | elsewhere differs spared untouched => exact absurd topic differs
  | lost same full spared unchanged =>
      refine ⟨fun _ => ⟨spared, unchanged⟩, fun spacious => absurd ?_ spacious⟩
      have filled := Nat.le_antisymm (tended.bounded live) full
      -- A stream that holds nothing leaves nothing in its mailbox, let alone as much as fits.
      cases rests with
      | ended ended => exact absurd (ended.symm.trans live) Bool.false_ne_true
      | full _ _ _ held ready => exact ⟨ready, held, filled⟩
      | empty _ _ _ _ unread _ =>
          rw [tended.mailbox] at unread
          rw [unread] at filled
          exact absurd filled (Nat.ne_of_lt room)
  | enters same room entered posted =>
      exact ⟨fun crammed => absurd crammed.2.2 (Nat.ne_of_lt room), fun _ => entered⟩

theorem AtRest.live_of_noticed (rest : session.AtRest)
    (here : session.streams[number]? = some stream) (live : stream.isLive = true)
    (opened : session.board.isClosed = false) (noticed : session.noticed? next = some notification)
    {after : EventStream} (last : (session.step next).2.streams[number]? = some after)
    (tended : after.Tended (session.step next).2.cancelled ledger (session.step next).2.board) :
    after.isLive = true ∧ after.isAbandoned = false := by
  obtain ⟨notices, cancelled⟩ := rest.notices_of_noticed noticed
  obtain ⟨board, streams⟩ := Prod.mk.inj notices
  obtain ⟨uncancelled, present⟩ := (rest.streams stream (List.mem_of_getElem? here)).stays live
  rw [board, cancelled] at tended
  rw [streams] at last
  have still := (session.board.isClosed_post notification).trans opened
  exact EventStream.Tended.live_of_settle here uncancelled present still last tended

theorem backlog_of_tended (here : session.streams[number]? = some stream)
    (tended : stream.Tended session.cancelled ledger session.board) (live : stream.isLive = true)
    (present : stream.isAbandoned = false) :
    ledger.received ++ session.backlog number = ledger.due := by
  simp only [backlog, here]
  exact tended.whole live present

/-- What becomes of a notification on the topic of a live stream. -/
theorem AtRest.receives (rest : session.AtRest) (here : session.streams[number]? = some stream)
    (tended : stream.Tended session.cancelled ledger session.board) (live : stream.isLive = true)
    (opened : session.board.isClosed = false) (room : 0 < session.board.capacity)
    (noticed : session.noticed? next = some notification)
    (topic : notification.method = ledger.topic) (spares : session.Spares number next) :
    (session.Crammed stream → session.enters ledger.mailbox next = [] ∧
        (session.step next).2.board = session.board ∧
        (session.step next).2.streams = session.streams) ∧
      (¬session.Crammed stream → session.enters ledger.mailbox next = [notification]) ∧
      (∃ after, (session.step next).2.streams[number]? = some after ∧ after.isLive = true) ∧
      (session.step next).2.backlog number = session.backlog number ++
        EventStream.events ledger.kind (session.enters ledger.mailbox next) := by
  have rests := rest.streams stream (List.mem_of_getElem? here)
  obtain ⟨lost, entered⟩ := enters_of_noticed rests tended live opened room noticed topic
  obtain ⟨after, last, agrees⟩ := tended_step rest.housed here tended spares
  obtain ⟨alive, present⟩ := rest.live_of_noticed here live opened noticed last agrees
  refine ⟨fun crammed => ?_, entered, ⟨after, last, alive⟩, ?_⟩
  · obtain ⟨notices, _⟩ := rest.notices_of_noticed noticed
    obtain ⟨spared, unchanged⟩ := lost crammed
    rw [unchanged, EventStream.settle_of_rests rest.streams] at notices
    exact ⟨spared, Prod.mk.inj notices⟩
  · have unread : next ≠ .readStream number := by
      rintro rfl
      cases noticed
    -- Both ledgers are complete, and so the backlog grows by what has been entered.
    have before := backlog_of_tended here tended live (rests.stays live).2
    have now := backlog_of_tended last agrees alive present
    simp only [entry, takes_of_unread unread, StreamLedger.receive_nil, ledger.due_deliver,
      ← before, List.append_assoc] at now
    exact List.append_cancel_left now

/-- The reader of a stream is given an event exactly if the backlog begins with it. -/
theorem AtRest.reads_iff (rest : session.AtRest) (number : Nat) (event : ServerEvent) :
    (session.step (.readStream number)).1 = .event (.value event) ↔
      (session.backlog number).head? = some event := by
  simp only [step_answer, act, readStream, backlog]
  cases here : session.streams[number]? with
  | none => simp
  | some stream =>
      have rests := rest.streams stream (List.mem_of_getElem? here)
      simp only [EventStream.head?_backlog rests, EventStream.read]
      cases stream.ready with
      | some ready => simp
      | none => cases stream.isLive <;> simp

/-! ## Runs -/

theorem AtRest.receives_later (rest : session.AtRest)
    (here : session.streams[number]? = some stream)
    (tended : stream.Tended session.cancelled ledger session.board)
    (room : 0 < session.board.capacity) {earlier others : List Step}
    (undisturbed : Undisturbed number session (earlier ++ next :: others)) :
    let now := session.run earlier
    let onwards := (now.step next).2
    ∀ stream, now.streams[number]? = some stream → stream.isLive = true →
      now.board.isClosed = false → ∀ notification, now.noticed? next = some notification →
      notification.method = ledger.topic →
      (now.Crammed stream → now.enters ledger.mailbox next = [] ∧ onwards.board = now.board ∧
          onwards.streams = now.streams) ∧
        (¬now.Crammed stream → now.enters ledger.mailbox next = [notification]) ∧
        (∃ after, onwards.streams[number]? = some after ∧ after.isLive = true) ∧
        onwards.backlog number = now.backlog number ++
          EventStream.events ledger.kind (now.enters ledger.mailbox next) := by
  intro now onwards stream there live opened notification noticed topic
  obtain ⟨quiet, spares, _⟩ := Undisturbed.append_iff.mp undisturbed
  obtain ⟨_, same, found, agrees⟩ := tended_run rest.housed here tended quiet
  obtain rfl := Option.some.inj (there.symm.trans found)
  have spacious : 0 < now.board.capacity := (capacity_run session earlier).symm ▸ room
  have received :=
    (rest.run earlier).receives there agrees live opened spacious noticed topic spares
  exact received

/-- While nobody else takes its topic away, a stream hands its reader the events among the
notifications that have come into its mailbox, in order and each once, and the next one whenever it
is asked for; it ends only when its token is cancelled, its reader goes or the board is closed. What
comes in on its topic meanwhile goes into the mailbox, unless one event is ready, another is held
and the mailbox is full; then it is lost, and nothing else changes. -/
theorem stream_delivers_in_order (settings : Settings) (lineCapacity : Nat) (loggerPanics : Bool)
    (before : List Step) (kind : EventKind) (token : Token) (number : Nat) (steps : List Step)
    (opened : (((create settings lineCapacity loggerPanics).run before).step
      (.openStream kind token)).1 = .stream (.ok number))
    (undisturbed : (((create settings lineCapacity loggerPanics).run before).step
      (.openStream kind token)).2.disturbances number steps = []) :
    let session := (create settings lineCapacity loggerPanics).run before
    let mailbox := session.board.mailboxes.length
    let start := (session.step (.openStream kind token)).2
    let later := start.run steps
    let accepted := start.entered mailbox steps
    let due := EventStream.events kind accepted
    (∀ notification event,
        kind.decode notification = .ok event ↔ kind.Gives notification event) ∧
      accepted.Sublist (start.pushed kind.topic steps) ∧
      start.taken number steps <+: due ∧
      (∃ stream, later.streams[number]? = some stream ∧
        (stream.isLive = true → stream.isAbandoned = false →
          start.taken number steps ++ later.backlog number = due) ∧
        (stream.isLive = false → later.isCancelled token = true ∨ stream.isAbandoned = true ∨
          later.board.isClosed = true)) ∧
      (∀ earlier event,
        let now := start.run earlier
        (now.step (.readStream number)).1 = .event (.value event) ↔
          (now.backlog number).head? = some event) ∧
      ∀ earlier next rest, steps = earlier ++ next :: rest →
        let now := start.run earlier
        let onwards := (now.step next).2
        ∀ stream, now.streams[number]? = some stream → stream.isLive = true →
          now.board.isClosed = false → ∀ notification, now.noticed? next = some notification →
          notification.method = kind.topic →
          now.board.capacity = max settings.noticeCapacity 1 ∧
            (now.Crammed stream → now.enters mailbox next = [] ∧ onwards.board = now.board ∧
              onwards.streams = now.streams) ∧
            (¬now.Crammed stream → now.enters mailbox next = [notification]) ∧
            (∃ after, onwards.streams[number]? = some after ∧ after.isLive = true) ∧
            onwards.backlog number = now.backlog number ++
              EventStream.events kind (now.enters mailbox next) := by
  intro session mailbox start later accepted due
  have rest : session.AtRest := (AtRest.create settings lineCapacity loggerPanics).run before
  obtain ⟨rfl, board, free⟩ := act_openStream_iff.mp opened
  obtain ⟨fresh, placed, empty, _⟩ := rest.tended_open token board free
  have housed := rest.housed.step (.openStream kind token)
  have spared := undisturbed_of_disturbances undisturbed
  obtain ⟨fewer, stream, here, tended⟩ := tended_run housed placed empty spared
  refine ⟨EventKind.decode_eq_ok_iff kind, fewer, ?_, ⟨stream, here, ?_, tended.cause⟩, ?_, ?_⟩
  · exact (List.prefix_append ..).trans tended.ordered
  · exact backlog_of_tended here tended
  · exact fun earlier => ((rest.step _).run earlier).reads_iff session.streams.length
  · intro earlier next others split now onwards stream here live board notification noticed topic
    have capacity : start.board.capacity = max settings.noticeCapacity 1 :=
      (capacity_step _ _).trans (capacity_run _ before)
    have room : 0 < start.board.capacity := capacity ▸ Nat.le_max_right ..
    refine ⟨(capacity_run _ earlier).trans capacity, ?_⟩
    exact (rest.step _).receives_later placed empty room (split ▸ spared) stream here live board
      notification noticed topic

/-- A mailbox for one notification. One that reports an error is skipped, the next two are held and
put into the mailbox, and the last is lost. -/
theorem stream_delivers_in_order_of_full :
    let settings : Settings := ⟨5000, 50, 4, 1⟩
    let frame (text : String) : Step := .receive (.data (Json.bytesOf text))
    let saved := frame r#"{"method":"minecraft:notification/server/saved"}"#
    let failed := frame r#"{"method":"minecraft:notification/server/saved","error":1}"#
    let earlier : List Step := [saved, failed, saved, saved]
    let steps : List Step := earlier ++ [saved, .readStream 0, .readStream 0]
    let start := ((create settings 0 false).step (.openStream .serverSaved "t")).2
    let now := start.run earlier
    let later := start.run steps
    start.disturbances 0 steps = [] ∧
      (now.enters 0 saved = [] ∧ (now.step saved).2.streams = now.streams) ∧
      (start.pushed EventKind.serverSaved.topic steps).length = 5 ∧
      (start.entered 0 steps).length = 4 ∧ start.taken 0 steps = [.signal, .signal] ∧
      start.taken 0 steps ++ later.backlog 0 =
        EventStream.events .serverSaved (start.entered 0 steps) ∧
      later.backlog 0 = [.signal] := by
  intro settings frame saved failed earlier steps start now later
  have opened : (((create settings 0 false).run []).step (.openStream .serverSaved "t")).1 =
      .stream (.ok 0) := rfl
  have undisturbed : start.disturbances 0 steps = [] := by decide +kernel
  have full : now.streams[0]? =
      some ⟨.serverSaved, 0, "t", some .signal, some .signal, false, true⟩ := by decide +kernel
  have last : later.streams[0]? =
      some ⟨.serverSaved, 0, "t", some .signal, none, false, true⟩ := by decide +kernel
  have crammed : (now.board.mailbox 0).unread.length = now.board.capacity := by decide +kernel
  have noticed : now.noticed? saved =
      some ⟨"minecraft:notification/server/saved", none, none⟩ := by decide +kernel
  obtain ⟨_, _, _, ⟨stream, here, whole, _⟩, _, pushes⟩ :=
    stream_delivers_in_order settings 0 false [] .serverSaved "t" 0 steps opened undisturbed
  obtain ⟨_, lost, _⟩ :=
    pushes earlier saved _ rfl _ full rfl (by decide +kernel) _ noticed (by decide +kernel)
  obtain ⟨spared, _, unchanged⟩ := lost ⟨rfl, rfl, crammed⟩
  obtain rfl := Option.some.inj (last.symm.trans here)
  exact ⟨undisturbed, ⟨spared, unchanged⟩, by decide +kernel, by decide +kernel, by decide +kernel,
    whole rfl rfl, by decide +kernel⟩

end Session

end ServerManagement
