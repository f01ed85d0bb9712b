import ServerManagement.Proofs.Session.StreamDelivery

/-!
The topics of streams. If only the streams themselves give their topics up, then each of them holds
its topic exactly while it is live and the board is open, and a topic that has been given up can be
taken again.
-/

set_option autoImplicit false

namespace ServerManagement

namespace Session

/-- The steps in which someone takes the topic of a live stream away, or gets at its mailbox. -/
def meddlings (session : Session) : List Step → List Step :=
  session.along fun session next _ =>
    if session.streams.any fun stream => stream.isLive && next.meddles stream then [next] else []

def AllTended (session : Session) : Prop :=
  ∀ (number : Nat) (stream : EventStream), session.streams[number]? = some stream →
    ∃ ledger, stream.Tended session.cancelled ledger session.board

/-- The stream hands its reader the events among what comes into its mailbox in the run, in order
and each once, and the next one whenever it is asked for; what comes in on its topic and finds room
goes into the mailbox. -/
def Serves (opened : Session) (number mailbox : Nat) (kind : EventKind) (steps : List Step) :
    Prop :=
  let later := opened.run steps
  let accepted := opened.entered mailbox steps
  accepted.Sublist (opened.pushed kind.topic steps) ∧
    opened.taken number steps <+: EventStream.events kind accepted ∧
    (∃ stream, later.streams[number]? = some stream ∧
      (stream.isLive = true → stream.isAbandoned = false →
        opened.taken number steps ++ later.backlog number = EventStream.events kind accepted)) ∧
    (∀ event, (later.step (.readStream number)).1 = .event (.value event) ↔
      (later.backlog number).head? = some event) ∧
    ∀ earlier next rest, steps = earlier ++ next :: rest →
      let now := opened.run earlier
      ∀ stream, now.streams[number]? = some stream → stream.isLive = true →
        now.board.isClosed = false →
        ∀ notification, now.noticed? next = some notification →
        notification.method = kind.topic → ¬now.Crammed stream →
        now.enters mailbox next = [notification]

variable {session : Session} {next : Step} {number : Nat} {stream : EventStream}
  {ledger : StreamLedger} {steps : List Step}

/-! ## No two streams of a topic -/

/-- Two live streams of one topic would have one mailbox. -/
theorem AllTended.spared (all : session.AllTended) (housed : Housed session.board session.streams)
    (here : session.streams[number]? = some stream) (live : stream.isLive = true)
    (opened : session.board.isClosed = false) (later : List EventStream) :
    EventStream.Spared (·.topic = stream.kind.topic) number session.streams later := by
  intro index other after differs there _ same alive
  obtain ⟨ledger, tended⟩ := all number stream here
  obtain ⟨another, agrees⟩ := all index other there
  have mine := tended.linked live opened
  have theirs := agrees.linked alive opened
  rw [StreamLedger.topic, ← tended.kind, ← tended.mailbox] at mine
  rw [StreamLedger.topic, ← agrees.kind, ← agrees.mailbox, same, mine] at theirs
  exact absurd (Option.some.inj theirs).symm (housed.alone here index other differs there)

theorem AllTended.spares (all : session.AllTended) (housed : Housed session.board session.streams)
    (unmeddled : ∀ stream ∈ session.streams, stream.isLive = true → next.meddles stream = false)
    (number : Nat) : session.Spares number next := by
  intro stream here live
  refine ⟨unmeddled stream (List.mem_of_getElem? here) live, fun opened => ?_⟩
  have opened := (session.touches_act next).opened (isClosed_of_settle opened)
  exact all.spared housed here live opened _

/-! ## Steps -/

theorem AllTended.act (all : session.AllTended) (tidy : session.board.Tidy)
    (unmeddled : ∀ stream ∈ session.streams, stream.isLive = true → next.meddles stream = false) :
    (session.act next).2.AllTended := by
  intro number acted found
  cases here : session.streams[number]? with
  | some stream =>
      obtain ⟨ledger, tended⟩ := all number stream here
      obtain ⟨after, last, _, agrees⟩ :=
        tended_act here tended (unmeddled stream (List.mem_of_getElem? here))
      obtain rfl := Option.some.inj (found.symm.trans last)
      exact ⟨_, agrees⟩
  | none =>
      -- The only stream that can be there is one that the step has opened.
      have touches := session.touches_act next
      generalize (session.act next).2.board = board, (session.act next).2.streams = streams,
        (session.act next).2.cancelled = cancelled at touches found
      cases touches with
      | @openStream kind token mailbox board subscribed =>
          rw [List.getElem?_append_right (List.getElem?_eq_none_iff.mp here)] at found
          obtain rfl := List.mem_singleton.mp (List.mem_of_getElem? found)
          exact ⟨_, .create tidy token subscribed⟩
      | readStream other | abandonStream other =>
          rw [List.getElem?_modify, here] at found
          cases found
      | calm | cancel | shut | post | subscribe | unsubscribe | readMailbox | abandonMailbox =>
          rw [here] at found
          cases found

theorem AllTended.settle (all : session.AllTended)
    (housed : Housed session.board session.streams) : session.settle.AllTended := by
  intro number settled found
  have owners := EventStream.owners_settle session.cancelled session.foundBoard session.streams
  rw [← (Prod.mk.inj session.settle_notices.1).2] at owners
  obtain ⟨stream, here, _⟩ := EventStream.owner_of_getElem? owners found
  obtain ⟨ledger, tended⟩ := all number stream here
  obtain ⟨after, last, agrees⟩ := tended_settle housed here tended fun live opened => by
    have spared := all.spared housed here live (isClosed_of_settle opened) session.settle.streams
    rwa [tended.kind] at spared
  obtain rfl := Option.some.inj (found.symm.trans last)
  exact ⟨ledger, agrees⟩

theorem unmeddled_of_meddlings (none : session.meddlings (next :: steps) = []) :
    (∀ stream ∈ session.streams, stream.isLive = true → next.meddles stream = false) ∧
      (session.step next).2.meddlings steps = [] := by
  obtain ⟨here, rest⟩ := List.append_eq_nil_iff.mp none
  refine ⟨fun stream member live => Bool.eq_false_iff.mpr fun meddles => ?_, rest⟩
  have some : (session.streams.any fun stream => stream.isLive && next.meddles stream) = true :=
    List.any_eq_true.mpr ⟨stream, member, by rw [live, meddles]; rfl⟩
  simp only [some, if_true] at here
  cases here

theorem AllTended.step (all : session.AllTended) (rest : session.AtRest)
    (unmeddled : ∀ stream ∈ session.streams, stream.isLive = true → next.meddles stream = false) :
    (session.step next).2.AllTended :=
  (all.act rest.tidy unmeddled).settle (rest.housed.act next)

/-! ## Runs -/

theorem AllTended.run (all : session.AllTended) (rest : session.AtRest)
    (none : session.meddlings steps = []) : (session.run steps).AllTended := by
  induction steps generalizing session with
  | nil => exact all
  | cons next steps ih =>
      obtain ⟨unmeddled, later⟩ := unmeddled_of_meddlings none
      exact ih (all.step rest unmeddled) (rest.step next) later

/-- While nobody else gives topics up, no stream is disturbed. -/
theorem AllTended.undisturbed (all : session.AllTended) (rest : session.AtRest)
    (none : session.meddlings steps = []) (number : Nat) : Undisturbed number session steps := by
  induction steps generalizing session with
  | nil => trivial
  | cons next steps ih =>
      obtain ⟨unmeddled, later⟩ := unmeddled_of_meddlings none
      exact ⟨all.spares rest.housed unmeddled number,
        ih (all.step rest unmeddled) (rest.step next) later⟩

/-! ## Streams that have ended -/

structure EndedAt (number : Nat) (session : Session) : Prop where
  rest : session.AtRest
  ended : ∃ stream, session.streams[number]? = some stream ∧ stream.isLive = false

theorem settle_of_ended (housed : Housed session.board session.streams)
    (here : session.streams[number]? = some stream) (ended : stream.isLive = false) :
    session.settle.streams[number]? = some stream := by
  rw [(Prod.mk.inj session.settle_notices.1).2]
  exact EventStream.settle_of_ended ended here (housed.alone here)

theorem backlog_of_ended (here : session.streams[number]? = some stream)
    (ended : stream.isLive = false) : session.backlog number = stream.ready.toList := by
  simp [backlog, here, EventStream.backlog, ended]

theorem EndedAt.step_readStream (ended : EndedAt number session) :
    EndedAt number (session.step (.readStream number)).2 ∧
      (session.step (.readStream number)).1 = .event (.orEnd (session.backlog number).head?) ∧
      (session.step (.readStream number)).2.backlog number = (session.backlog number).tail := by
  obtain ⟨stream, here, finished⟩ := ended.ended
  have acted : session.act (.readStream number) = (.event stream.read.1,
      { session with streams := session.streams.set number stream.read.2 }) := by
    simp only [act, readStream, here]
  have still : stream.read.2.isLive = false := by
    unfold EventStream.read
    split <;> exact finished
  have found : (session.act (.readStream number)).2.streams[number]? = some stream.read.2 := by
    rw [acted]
    exact List.getElem?_set_self (List.getElem?_eq_some_iff.mp here).1
  have last : (session.step (.readStream number)).2.streams[number]? = some stream.read.2 :=
    settle_of_ended (ended.rest.housed.act (.readStream number)) found still
  refine ⟨⟨ended.rest.step _, _, last, still⟩, ?_, ?_⟩
  · rw [step, acted, backlog_of_ended here finished]
    cases ready : stream.ready <;> simp [EventStream.read, ready, finished, Receipt.orEnd]
  · rw [backlog_of_ended last still, backlog_of_ended here finished]
    cases ready : stream.ready <;> simp [EventStream.read, ready]

/-- A stream that has a reason to end gives its reader what is left, and then the end. -/
theorem AtRest.answers_of_over (rest : session.AtRest)
    (silenced : session.board.isClosed = true → session.Silenced)
    (here : session.streams[number]? = some stream)
    (reason : session.isCancelled stream.token = true ∨ stream.isAbandoned = true ∨
      session.board.isClosed = true) (count : Nat) :
    let left := session.backlog number
    (session.sights (List.replicate (left.length + count) (.readStream number))).map
        Sight.answer =
      left.map (fun event => .event (.value event)) ++ List.replicate count (.event .closed) := by
  cases closed : session.board.isClosed with
  | true =>
      exact answers_of_drain (fun session => session.backlog number)
        (fun found => .event (.orEnd found))
        (fun _ silenced => silenced.step_readStream number) (silenced closed) count
  | false =>
      have rests := rest.streams stream (List.mem_of_getElem? here)
      have ended : stream.isLive = false := by
        cases live : stream.isLive with
        | false => rfl
        | true =>
            obtain ⟨uncancelled, present⟩ := rests.stays live
            rcases reason with cancelled | gone | shut
            · exact absurd (uncancelled.symm.trans cancelled) Bool.false_ne_true
            · exact absurd (present.symm.trans gone) Bool.false_ne_true
            · exact absurd (closed.symm.trans shut) Bool.false_ne_true
      have start : EndedAt number session := ⟨rest, stream, here, ended⟩
      exact answers_of_drain (fun session => session.backlog number)
        (fun found => .event (.orEnd found)) (fun _ ended => ended.step_readStream) start count

/-! ## Topics -/

theorem isLinked_iff_of_tended
    (tended : stream.Tended session.cancelled ledger session.board) :
    session.board.isLinked stream.mailbox = true ↔
      stream.isLive = true ∧ session.board.isClosed = false := by
  rw [tended.mailbox]
  constructor
  · intro linked
    constructor
    · cases live : stream.isLive with
      | true => rfl
      | false => exact absurd ((tended.unlinked live).symm.trans linked) Bool.false_ne_true
    · cases closed : session.board.isClosed with
      | false => rfl
      | true =>
          have unlinked := tended.tidy.isLinked_of_closed closed ledger.mailbox
          exact absurd (unlinked.symm.trans linked) Bool.false_ne_true
  · rintro ⟨live, opened⟩
    exact Board.isLinked_of_find? (tended.linked live opened)

theorem AtRest.isLive_iff (rest : session.AtRest) (here : session.streams[number]? = some stream)
    (tended : stream.Tended session.cancelled ledger session.board)
    (opened : session.board.isClosed = false) :
    stream.isLive = true ↔
      session.isCancelled stream.token = false ∧ stream.isAbandoned = false := by
  constructor
  · exact (rest.streams stream (List.mem_of_getElem? here)).stays
  · rintro ⟨uncancelled, present⟩
    cases ended : stream.isLive with
    | true => rfl
    | false =>
        rcases tended.cause ended with named | gone | shut
        · rw [← tended.token] at named
          exact absurd (uncancelled.symm.trans named) Bool.false_ne_true
        · exact absurd (present.symm.trans gone) Bool.false_ne_true
        · exact absurd (opened.symm.trans shut) Bool.false_ne_true

/-- A free topic of an open board can be taken by a new stream. -/
theorem AllTended.opens (all : session.AllTended) (rest : session.AtRest)
    (room : 0 < session.board.capacity) (kind : EventKind) (token : Token)
    (board : session.board.isClosed = false)
    (free : session.board.topics.find? kind.topic = none) :
    let number := session.streams.length
    let mailbox := session.board.mailboxes.length
    let opened := (session.step (.openStream kind token)).2
    (session.step (.openStream kind token)).1 = .stream (.ok number) ∧
      (session.isCancelled token = false →
        opened.board.topics.find? kind.topic = some mailbox) ∧
      ∀ after, opened.meddlings after = [] → opened.Serves number mailbox kind after := by
  intro number mailbox opened
  obtain ⟨stream, placed, empty, still, live⟩ := rest.tended_open token board free
  have resting : opened.AtRest := rest.step _
  have joined : opened.AllTended := all.step rest fun _ _ _ => rfl
  refine ⟨act_openStream_iff.mpr ⟨rfl, board, free⟩,
    fun uncancelled => empty.linked (live uncancelled) still, fun after none => ?_⟩
  have quiet := joined.undisturbed resting none number
  obtain ⟨fewer, last, found, tended⟩ := tended_run resting.housed placed empty quiet
  refine ⟨fewer, (List.prefix_append ..).trans tended.ordered,
    ⟨last, found, backlog_of_tended found tended⟩, (resting.run after).reads_iff number, ?_⟩
  intro earlier next others split now stream there alive opened notification noticed topic space
  have spacious : 0 < (session.step (.openStream kind token)).2.board.capacity :=
    (capacity_step session _).symm ▸ room
  obtain ⟨_, entered, _⟩ := resting.receives_later placed empty spacious (split ▸ quiet) stream
    there alive opened notification noticed topic
  exact entered space

/-- If topics of streams are given up only by the streams themselves, then a stream has its topic
exactly while it is live and the board is open, and it is live until its token is cancelled, its
reader goes or the board is closed; from then on the reader finds what is left for it and then the
end. The board is closed once the reader of the connection is gone, unless a step has taken that
away, which none does if there is some time for closing. A free topic of an open board can be taken
by a new stream, into whose mailbox comes what is pushed from then on and finds room, and whose
reader is given the events among that in order. -/
theorem streams_hold_topics_until_they_end (settings : Settings) (lineCapacity : Nat)
    (steps : List Step) (unmeddled : (create settings lineCapacity false).meddlings steps = []) :
    let start := create settings lineCapacity false
    let session := start.run steps
    (session.reader ≠ .running →
        (session.board.isClosed = true ↔ start.strandings steps = [])) ∧
      (settings.ioTimeout ≠ 0 → start.strandings steps = []) ∧
      (∀ number stream, session.streams[number]? = some stream →
        (session.board.isLinked stream.mailbox = true ↔
          stream.isLive = true ∧ session.board.isClosed = false) ∧
        (stream.isLive = true → session.board.isClosed = false →
          session.board.topics.find? stream.kind.topic = some stream.mailbox) ∧
        (session.board.isClosed = false → (stream.isLive = true ↔
          session.isCancelled stream.token = false ∧ stream.isAbandoned = false)) ∧
        (session.isCancelled stream.token = true ∨ stream.isAbandoned = true ∨
            session.board.isClosed = true → ∀ count,
          let left := session.backlog number
          (session.sights (List.replicate (left.length + count)
              (.readStream number))).map Sight.answer =
            left.map (fun event => .event (.value event)) ++
              List.replicate count (.event .closed))) ∧
      ∀ kind token, session.board.isClosed = false →
        session.board.topics.find? kind.topic = none →
        let number := session.streams.length
        let mailbox := session.board.mailboxes.length
        let opened := (session.step (.openStream kind token)).2
        (session.step (.openStream kind token)).1 = .stream (.ok number) ∧
          (session.isCancelled token = false →
            opened.board.topics.find? kind.topic = some mailbox) ∧
          ∀ after, opened.meddlings after = [] → opened.Serves number mailbox kind after := by
  intro start session
  have closing : start.Closing := .create settings lineCapacity false
  have fresh : start.AtRest := .create settings lineCapacity false
  have rest : session.AtRest := fresh.run steps
  have nothing : start.AllTended := by
    intro number stream found
    cases found
  have all : session.AllTended := nothing.run fresh unmeddled
  refine ⟨(run_running closing rfl rfl steps).2,
    fun timed => strandings_eq_nil closing rfl timed steps, ?_, ?_⟩
  · intro number stream here
    obtain ⟨ledger, tended⟩ := all number stream here
    refine ⟨isLinked_iff_of_tended tended, fun live opened => ?_, rest.isLive_iff here tended,
      rest.answers_of_over (silenced_run settings lineCapacity false steps) here⟩
    rw [tended.kind, tended.mailbox]
    exact tended.linked live opened
  · intro kind token
    have capacity : session.board.capacity = max settings.noticeCapacity 1 := capacity_run _ steps
    exact all.opens rest (capacity ▸ Nat.le_max_right ..) kind token

/-- A stream with one event ready and one held when its token is cancelled, and another one that
is opened on its topic then. -/
theorem streams_hold_topics_until_they_end_of_reopened :
    let saved : Step := .receive (.data
      (Json.bytesOf r#"{"method":"minecraft:notification/server/saved"}"#))
    let notification : Notification := ⟨"minecraft:notification/server/saved", none, none⟩
    let start := create ⟨5000, 50, 4, 1⟩ 0 false
    let steps : List Step := [.openStream .serverSaved "t", saved, saved, .cancel "t"]
    let session := start.run steps
    let opened := (session.step (.openStream .serverSaved "u")).2
    start.meddlings steps = [] ∧ session.board.isLinked 0 = false ∧ session.backlog 0 = [.signal] ∧
      (session.sights (List.replicate 3 (.readStream 0))).map Sight.answer =
        [.event (.value .signal), .event .closed, .event .closed] ∧
      opened.board.topics.find? EventKind.serverSaved.topic = some 1 ∧
      opened.enters 1 saved = [notification] := by
  intro saved notification start steps session opened
  have unmeddled : start.meddlings steps = [] := by decide +kernel
  have ended : session.streams[0]? =
      some ⟨.serverSaved, 0, "t", some .signal, none, false, false⟩ := by decide +kernel
  have left : session.backlog 0 = [.signal] := by decide +kernel
  have board : session.board.isClosed = false := by decide +kernel
  have free : session.board.topics.find? EventKind.serverSaved.topic = none := by decide +kernel
  have boxes : session.board.mailboxes.length = 1 := by decide +kernel
  have fresh : opened.streams[session.streams.length]? =
      some ⟨.serverSaved, 1, "u", none, none, false, true⟩ := by decide +kernel
  have noticed : opened.noticed? saved = some notification := by decide +kernel
  obtain ⟨_, _, streams, reopens⟩ :=
    streams_hold_topics_until_they_end ⟨5000, 50, 4, 1⟩ 0 steps unmeddled
  obtain ⟨linked, _, _, drained⟩ := streams 0 _ ended
  have unlinked : session.board.isLinked 0 = false :=
    Bool.eq_false_iff.mpr fun named => absurd (linked.mp named).1 Bool.false_ne_true
  have answers := drained (.inl (by decide +kernel)) 2
  rw [left] at answers
  obtain ⟨_, taken, serves⟩ := reopens .serverSaved "u" board free
  rw [boxes] at taken serves
  obtain ⟨_, _, _, _, enters⟩ := serves [saved] (by decide +kernel)
  have entered := enters [] saved [] rfl _ fresh rfl (by decide +kernel) notification noticed rfl
  exact ⟨unmeddled, unlinked, left, answers, taken (by decide +kernel),
    entered fun crammed => absurd crammed.1 Bool.false_ne_true⟩

/-- Without any time for closing the reader of the connection is taken away before it can close the
board: the stream goes on, and its topic stays taken. -/
theorem stream_keeps_topic_at_instant_close :
    let start := create ⟨5000, 0, 100, 1024⟩ 1024 false
    let steps : List Step := [.openStream .serverSaved "t", .close]
    let session := start.run steps
    start.meddlings steps = [] ∧ session.returned = [0] ∧ session.reader = .aborted ∧
      session.streams = [⟨.serverSaved, 0, "t", none, none, false, true⟩] ∧
      session.board.topics.find? EventKind.serverSaved.topic = some 0 ∧
      session.streams.map (fun stream => stream.read.1) = [.empty] ∧
      (session.board.subscribe EventKind.serverSaved.topic).1.toOption = none ∧
      (session.board.subscribe "u").1.toOption = some 1 := by
  decide +kernel

end Session

end ServerManagement
