import ServerManagement.Proofs.Session.EndOfNotices

/-!
The course of one stream in a session. Step by step what comes into its mailbox and what its reader
takes is entered in its ledger, as long as nobody else takes its topic away.
-/

set_option autoImplicit false

namespace ServerManagement

namespace Session

/-- Someone else takes the topic of the stream away, or gets at its mailbox. -/
def Step.meddles (stream : EventStream) : Step → Bool
  | .unsubscribe topic => topic == stream.kind.topic
  | .readMailbox mailbox | .abandonMailbox mailbox => mailbox == stream.mailbox
  | _ => false

/-- The notification that a step puts into the mailbox, if it does. -/
def enters (session : Session) (mailbox : Nat) (next : Step) : List Notification :=
  (session.noticed? next).toList.flatMap (session.board.entering mailbox)

def takes (session : Session) (number : Nat) (next : Step) : List ServerEvent :=
  match next, (session.step next).1 with
  | .readStream other, .event (.value event) => if other = number then [event] else []
  | _, _ => []

def entry (session : Session) (number : Nat) (ledger : StreamLedger) (next : Step) :
    StreamLedger :=
  (ledger.deliver (session.enters ledger.mailbox next)).receive (session.takes number next)

def Spares (session : Session) (number : Nat) (next : Step) : Prop :=
  ∀ stream, session.streams[number]? = some stream → stream.isLive = true →
    next.meddles stream = false ∧
      ((session.step next).2.board.isClosed = false →
        EventStream.Spared (·.topic = stream.kind.topic) number session.streams
          (session.step next).2.streams)

variable {session : Session} {next : Step} {number : Nat} {stream : EventStream}
  {ledger : StreamLedger} {board : Board} {streams later : List EventStream}
  {cancelled : List Token}

/-! ## Acting -/

theorem takes_of_unread (unread : next ≠ .readStream number) : session.takes number next = [] := by
  unfold takes
  split
  · rename_i other event answered
    exact if_neg fun same => unread (congrArg Step.readStream same)
  · rfl

theorem entry_of_unnoticed (unnoticed : session.noticed? next = none)
    (unread : next ≠ .readStream number) : session.entry number ledger next = ledger := by
  simp only [entry, enters, unnoticed, takes_of_unread unread, Option.toList_none,
    List.flatMap_nil, ledger.deliver_nil, ledger.receive_nil]

theorem takes_readStream (here : session.streams[number]? = some stream) :
    session.takes number (.readStream number) = stream.ready.toList := by
  simp only [takes, step, act, readStream, here, EventStream.read]
  cases stream.ready with
  | none => cases stream.isLive <;> rfl
  | some event => simp

theorem Touches.opened (touches : Touches session next board streams cancelled)
    (opened : board.isClosed = false) : session.board.isClosed = false := by
  cases touches with
  | calm | cancel | readStream | abandonStream => exact opened
  | shut =>
      rw [Board.isClosed_close] at opened
      cases opened
  | post => exact (session.board.isClosed_post _).symm.trans opened
  | subscribe topic => exact (session.board.isClosed_subscribe topic).symm.trans opened
  | unsubscribe topic => exact opened
  | readMailbox mailbox => exact (session.board.isClosed_read mailbox).symm.trans opened
  | abandonMailbox mailbox => exact opened
  | openStream kind token subscribed => exact (Board.subscribe_eq_ok_iff.mp subscribed).1

/-- No stream of a topic that is taken comes in. -/
theorem Touches.spared (touches : Touches session next board streams cancelled) {topic : String}
    {mailbox : Nat} (taken : session.board.topics.find? topic = some mailbox)
    (spared : EventStream.Spared (·.topic = topic) number session.streams later) :
    EventStream.Spared (·.topic = topic) number streams later := by
  have modified {other : Nat} {change : EventStream → EventStream}
      (same : ∀ stream, (change stream).kind = stream.kind ∧
        (change stream).isLive = stream.isLive) :
      EventStream.Spared (·.topic = topic) number (session.streams.modify other change) later := by
    intro index before after differs early last kind live
    rw [List.getElem?_modify] at early
    obtain ⟨origin, found, rfl⟩ := Option.map_eq_some_iff.mp early
    have alike : (if other = index then change origin else origin).kind = origin.kind ∧
        (if other = index then change origin else origin).isLive = origin.isLive := by
      split
      · exact same origin
      · exact ⟨rfl, rfl⟩
    exact spared index origin after differs found last (alike.1 ▸ kind) (alike.2 ▸ live)
  cases touches with
  | openStream kind token subscribed =>
      intro index before after differs early last topic live
      rw [List.getElem?_append] at early
      split at early
      · exact spared index before after differs early last topic live
      · obtain rfl := List.mem_singleton.mp (List.mem_of_getElem? early)
        have free := (Board.subscribe_eq_ok_iff.mp subscribed).2.1
        change kind.topic = _ at topic
        rw [topic, taken] at free
        cases free
  | readStream other =>
      refine modified fun stream => ?_
      unfold EventStream.read
      split <;> exact ⟨rfl, rfl⟩
  | abandonStream other => exact modified fun _ => ⟨rfl, rfl⟩
  | calm | cancel | shut | post | subscribe | unsubscribe | readMailbox | abandonMailbox =>
      exact spared

theorem tended_act (here : session.streams[number]? = some stream)
    (tended : stream.Tended session.cancelled ledger session.board)
    (spares : stream.isLive = true → next.meddles stream = false) :
    ∃ after, (session.act next).2.streams[number]? = some after ∧
      after.isLive = stream.isLive ∧
      after.Tended (session.act next).2.cancelled (session.entry number ledger next)
        (session.act next).2.board := by
  have touches := session.touches_act next
  have evolves := session.evolves_act next
  have opens : (session.act next).2.board.isClosed = false → session.board.isClosed = false :=
    touches.opened
  generalize (session.act next).2.board = board, (session.act next).2.streams = streams,
    (session.act next).2.cancelled = cancelled at touches evolves opens
  -- Beside the stream: the ledger stays, and only what a live stream needs has to be checked.
  have beside (unnoticed : session.noticed? next = none) (unread : next ≠ .readStream number)
      (frame : stream.isLive = true →
        Board.Untouched ledger.topic ledger.mailbox session.board board) :
      stream.Tended session.cancelled (session.entry number ledger next) board := by
    rw [entry_of_unnoticed unnoticed unread]
    exact tended.untouched evolves opens frame
  cases touches with
  | calm unnoticed unread =>
      exact ⟨stream, here, rfl, beside unnoticed (unread number) fun _ => .refl ..⟩
  | cancel token =>
      have same := beside rfl (by simp) fun _ => .refl ..
      exact ⟨stream, here, rfl, same.cancel (List.subset_cons_self ..)⟩
  | shut unnoticed unread =>
      exact ⟨stream, here, rfl, beside unnoticed (unread number) fun _ =>
        Board.untouched_close ..⟩
  | @post frame notification noticed =>
      have entered : session.entry number ledger (.receive (.data frame)) =
          ledger.deliver (session.board.entering ledger.mailbox notification) := by
        have untaken : session.takes number (.receive (.data frame)) = [] := rfl
        simp only [entry, enters, noticed, untaken, Option.toList_some, List.flatMap_singleton,
          StreamLedger.receive_nil]
      rw [entered]
      exact ⟨stream, here, rfl, tended.post notification⟩
  | subscribe topic =>
      exact ⟨stream, here, rfl, beside rfl (by simp) fun _ =>
        Board.untouched_subscribe _ _ tended.placed topic⟩
  | unsubscribe topic =>
      refine ⟨stream, here, rfl, beside rfl (by simp) fun live => ?_⟩
      have differs : topic ≠ stream.kind.topic := by simpa [Step.meddles] using spares live
      rw [tended.kind] at differs
      exact Board.untouched_unsubscribe _ _ differs
  | readMailbox mailbox =>
      refine ⟨stream, here, rfl, beside rfl (by simp) fun live => ?_⟩
      have differs : mailbox ≠ stream.mailbox := by simpa [Step.meddles] using spares live
      rw [tended.mailbox] at differs
      exact Board.untouched_read _ _ differs
  | abandonMailbox mailbox =>
      refine ⟨stream, here, rfl, beside rfl (by simp) fun live => ?_⟩
      have differs : mailbox ≠ stream.mailbox := by simpa [Step.meddles] using spares live
      rw [tended.mailbox] at differs
      exact Board.untouched_abandon _ _ differs
  | openStream kind token subscribed =>
      have later : board = (session.board.subscribe kind.topic).2 := by rw [subscribed]
      refine ⟨stream, ?_, rfl, beside rfl (by simp) fun _ => ?_⟩
      · rw [List.getElem?_append_left (List.getElem?_eq_some_iff.mp here).1]
        exact here
      · rw [later]
        exact Board.untouched_subscribe _ _ tended.placed kind.topic
  | readStream other =>
      rw [List.getElem?_modify, here, Option.map_eq_map, Option.map_some]
      by_cases same : other = number
      · subst same
        have entered : session.entry other ledger (.readStream other) =
            ledger.receive stream.ready.toList := by
          have unnoticed : session.enters ledger.mailbox (.readStream other) = [] := rfl
          simp only [entry, unnoticed, takes_readStream here, StreamLedger.deliver_nil]
        refine ⟨_, rfl, ?_, ?_⟩
        · rw [if_pos rfl]
          unfold EventStream.read
          split <;> rfl
        · rw [if_pos rfl, entered]
          exact tended.read
      · refine ⟨stream, by rw [if_neg same], rfl, beside rfl ?_ fun _ => .refl ..⟩
        exact fun equal => same (Step.readStream.inj equal)
  | abandonStream other =>
      rw [List.getElem?_modify, here, Option.map_eq_map, Option.map_some]
      have same := beside rfl (by simp) fun _ => .refl ..
      by_cases mine : other = number
      · exact ⟨_, rfl, by rw [if_pos mine]; rfl, by rw [if_pos mine]; exact same.abandon⟩
      · exact ⟨stream, by rw [if_neg mine], rfl, same⟩

/-! ## Settling and stepping -/

theorem tended_foundBoard (tended : stream.Tended session.cancelled ledger session.board) :
    stream.Tended session.cancelled ledger session.foundBoard :=
  have frame := session.untouched_foundBoard ledger.topic ledger.mailbox
  tended.untouched session.evolves_foundBoard frame.opened fun _ => frame

theorem tended_settle (housed : Housed session.board session.streams)
    (here : session.streams[number]? = some stream)
    (tended : stream.Tended session.cancelled ledger session.board)
    (spared : stream.isLive = true → session.settle.board.isClosed = false →
      EventStream.Spared (·.topic = ledger.topic) number session.streams session.settle.streams) :
    ∃ after, session.settle.streams[number]? = some after ∧
      after.Tended session.settle.cancelled ledger session.settle.board := by
  obtain ⟨notices, cancelled⟩ := session.settle_notices
  obtain ⟨board, streams⟩ := Prod.mk.inj notices
  have closed : session.settle.board.isClosed = session.foundBoard.isClosed := by
    rw [board]
    exact (EventStream.settles_settle ..).isClosed
  rw [streams] at spared
  rw [board, streams, cancelled]
  exact (tended_foundBoard tended).settle here (tended.mailbox ▸ housed.alone here)
    fun live opened => spared live (closed.trans opened)

theorem tended_step (housed : Housed session.board session.streams)
    (here : session.streams[number]? = some stream)
    (tended : stream.Tended session.cancelled ledger session.board)
    (spares : session.Spares number next) :
    ∃ after, (session.step next).2.streams[number]? = some after ∧
      after.Tended (session.step next).2.cancelled (session.entry number ledger next)
        (session.step next).2.board := by
  obtain ⟨acted, found, alive, agrees⟩ :=
    tended_act here tended fun live => (spares stream here live).1
  refine tended_settle (housed.act next) found agrees fun live opened => ?_
  have live := alive.symm.trans live
  have touches := session.touches_act next
  have taken := tended.linked live (touches.opened (isClosed_of_settle opened))
  have spared := (spares stream here live).2 opened
  rw [tended.kind] at spared
  exact touches.spared taken spared

/-! ## Between two steps -/

structure AtRest (session : Session) : Prop where
  tidy : session.board.Tidy
  housed : Housed session.board session.streams
  streams : ∀ stream ∈ session.streams, stream.Rests session.cancelled session.board
  prompt : session.outbound.isStopping = true → session.reader ≠ .running

theorem AtRest.create (settings : Settings) (lineCapacity : Nat) (loggerPanics : Bool) :
    (create settings lineCapacity loggerPanics).AtRest where
  tidy := tidy_create settings lineCapacity loggerPanics
  housed := ⟨.nil, fun _ member => absurd member List.not_mem_nil⟩
  streams := fun _ member => absurd member List.not_mem_nil
  prompt := fun stops => absurd stops Bool.false_ne_true

theorem AtRest.step (rest : session.AtRest) (next : Step) : (session.step next).2.AtRest where
  tidy := (session.evolves_step next).tidy rest.tidy
  housed := rest.housed.step next
  streams := resting_settle _
  prompt := (loopsRest_settle _).reader

theorem AtRest.run (rest : session.AtRest) (steps : List Step) : (session.run steps).AtRest := by
  have preserved : ∀ (session : Session) (next : Step), session.AtRest →
      (session.step next).2.AtRest := fun _ next rest => rest.step next
  exact run_invariant preserved rest steps

/-! ## Opening -/

theorem act_openStream_iff {kind : EventKind} {token : Token} :
    (session.act (.openStream kind token)).1 = .stream (.ok number) ↔
      number = session.streams.length ∧ session.board.isClosed = false ∧
        session.board.topics.find? kind.topic = none := by
  simp only [act, openStream]
  cases subscribed : session.board.subscribe kind.topic with
  | mk result board =>
      cases result with
      | error failure =>
          refine iff_of_false (fun same => by cases same) ?_
          rintro ⟨_, opened, free⟩
          have fresh : session.board.subscribe kind.topic = _ :=
            Board.subscribe_eq_ok_iff.mpr ⟨opened, free, rfl, rfl⟩
          rw [fresh] at subscribed
          cases subscribed
      | ok mailbox =>
          obtain ⟨opened, free, _⟩ := Board.subscribe_eq_ok_iff.mp subscribed
          constructor
          · intro same
            cases same
            exact ⟨rfl, opened, free⟩
          · rintro ⟨rfl, _⟩
            rfl

/-- When a stream is opened on a free topic, it goes on together with all others. -/
theorem AtRest.notices_of_open (rest : session.AtRest) {kind : EventKind} (token : Token)
    (opened : session.board.isClosed = false)
    (free : session.board.topics.find? kind.topic = none) :
    let board := (session.board.subscribe kind.topic).2
    let fresh := EventStream.create kind session.board.mailboxes.length token
    session.board.subscribe kind.topic = (.ok session.board.mailboxes.length, board) ∧
      ((session.step (.openStream kind token)).2.board,
          (session.step (.openStream kind token)).2.streams) =
        EventStream.settle session.cancelled board (session.streams ++ [fresh]) ∧
      (session.step (.openStream kind token)).2.cancelled = session.cancelled := by
  intro board fresh
  have subscribed : session.board.subscribe kind.topic =
      (.ok session.board.mailboxes.length, board) := by
    have done : session.board.subscribe kind.topic = _ :=
      Board.subscribe_eq_ok_iff.mpr ⟨opened, free, rfl, rfl⟩
    simp only [board, done]
  have acted : (session.act (.openStream kind token)).2 =
      { session with board, streams := session.streams ++ [fresh] } := by
    simp only [act, openStream, subscribed, fresh]
  have found : (session.act (.openStream kind token)).2.foundBoard = board := by
    rw [acted]
    exact if_neg fun stops => rest.prompt stops.1 stops.2
  have notices := (session.act (.openStream kind token)).2.settle_notices
  rw [found, acted] at notices
  rw [step_eq_settle, acted]
  exact ⟨subscribed, notices⟩

/-- A stream that has just been opened starts with an empty ledger, and stays unless its token has
been cancelled before. -/
theorem AtRest.tended_open (rest : session.AtRest) {kind : EventKind} (token : Token)
    (opened : session.board.isClosed = false)
    (free : session.board.topics.find? kind.topic = none) :
    ∃ stream,
      (session.step (.openStream kind token)).2.streams[session.streams.length]? = some stream ∧
      stream.Tended (session.step (.openStream kind token)).2.cancelled
        ⟨kind, session.board.mailboxes.length, token, [], []⟩
        (session.step (.openStream kind token)).2.board ∧
      (session.step (.openStream kind token)).2.board.isClosed = false ∧
      (session.isCancelled token = false → stream.isLive = true) := by
  obtain ⟨subscribed, notices, cancelled⟩ := rest.notices_of_open token opened free
  obtain ⟨later, streams⟩ := Prod.mk.inj notices
  let fresh := EventStream.create kind session.board.mailboxes.length token
  have last : (session.streams ++ [fresh])[session.streams.length]? = some fresh :=
    List.getElem?_concat_length ..
  have starts : fresh.Tended session.cancelled
      ⟨kind, session.board.mailboxes.length, token, [], []⟩
      (session.board.subscribe kind.topic).2 := .create rest.tidy token subscribed
  rw [later, streams, cancelled]
  obtain ⟨stream, here, tended⟩ := starts.settle_append
    (fun other member => (rest.streams other member).subscribe kind.topic)
    ((rest.housed.openStream kind token subscribed).alone last)
  have still := (session.board.isClosed_subscribe kind.topic).trans opened
  refine ⟨stream, here, tended, ?_, fun uncancelled => ?_⟩
  · exact (EventStream.settles_settle ..).isClosed.trans still
  · exact (EventStream.Tended.live_of_settle last uncancelled rfl still here tended).1

/-! ## Runs -/

def entered (session : Session) (mailbox : Nat) : List Step → List Notification :=
  session.along fun session next _ => session.enters mailbox next

/-- The events that the reader of the stream is given, in order. -/
def taken (session : Session) (number : Nat) : List Step → List ServerEvent :=
  session.along fun session next _ => session.takes number next

def pushed (session : Session) (topic : String) : List Step → List Notification :=
  session.along fun session next _ =>
    (session.noticed? next).toList.filter fun notification => notification.method == topic

def Undisturbed (number : Nat) : Session → List Step → Prop
  | _, [] => True
  | session, next :: steps =>
    session.Spares number next ∧ Undisturbed number (session.step next).2 steps

theorem enters_sublist (tended : stream.Tended session.cancelled ledger session.board)
    (next : Step) :
    (session.enters ledger.mailbox next).Sublist
      ((session.noticed? next).toList.filter fun notification =>
        notification.method == ledger.topic) := by
  unfold enters
  cases session.noticed? next with
  | none => exact .slnil
  | some notification =>
      rw [Option.toList_some, List.flatMap_singleton]
      unfold Board.entering
      split
      · rename_i enters
        have topic : notification.method = ledger.topic :=
          tended.own _ ((Directory.find?_eq_some_iff ..).mp enters.1) rfl
        simp [topic]
      · exact List.nil_sublist _

theorem tended_run {steps : List Step} (housed : Housed session.board session.streams)
    (here : session.streams[number]? = some stream)
    (tended : stream.Tended session.cancelled ledger session.board)
    (undisturbed : Undisturbed number session steps) :
    (session.entered ledger.mailbox steps).Sublist (session.pushed ledger.topic steps) ∧
      ∃ after, (session.run steps).streams[number]? = some after ∧
        after.Tended (session.run steps).cancelled
          ((ledger.deliver (session.entered ledger.mailbox steps)).receive
            (session.taken number steps)) (session.run steps).board := by
  -- The ledger of the whole run is that of the first step, continued over the others.
  induction steps generalizing session stream ledger with
  | nil =>
      refine ⟨.slnil, stream, here, ?_⟩
      simpa only [entered, taken, along, ledger.deliver_nil, ledger.receive_nil, run_nil]
        using tended
  | cons next steps ih =>
      obtain ⟨spares, rest⟩ := undisturbed
      obtain ⟨middle, found, agrees⟩ := tended_step housed here tended spares
      obtain ⟨fewer, after, last, ends⟩ := ih (housed.step next) found agrees rest
      refine ⟨(enters_sublist tended next).append fewer, after, last, ?_⟩
      have whole : (ledger.deliver (session.entered ledger.mailbox (next :: steps))).receive
          (session.taken number (next :: steps)) =
          ((session.entry number ledger next).deliver
            ((session.step next).2.entered ledger.mailbox steps)).receive
              ((session.step next).2.taken number steps) := by
        simp only [entry, StreamLedger.deliver, StreamLedger.receive, entered, taken, along,
          List.append_assoc]
      rw [whole]
      exact ends

end Session

end ServerManagement
