import ServerManagement.Proofs.Notice.StreamProperties
import ServerManagement.Proofs.Session.CallSteps

/-!
What becomes of a subscription in a step. It is lost when the step itself takes it away, when the
board closes, and when any stream of its topic ends, even one that subscribed before it.
-/

set_option autoImplicit false

namespace ServerManagement

namespace Session

def noticed? (session : Session) : Step → Option Notification
  | .receive (.data frame) =>
    if session.reader = .running then
      match decodeFrame frame with
      | .ok (.notification notification) => some notification
      | .ok (.response _) | .error _ => none
    else none
  | _ => none

/-- The step itself gives the topic up: someone unsubscribes, or a notification finds that the
subscriber has gone. -/
def releases (session : Session) (topic : String) (mailbox : Nat) (next : Step) : Bool :=
  match next with
  | .unsubscribe other => other == topic
  | _ =>
    (session.noticed? next).any (·.method == topic) && (session.board.mailbox mailbox).isAbandoned

variable {session later : Session} {topic : String} {mailbox : Nat}

/-! ## The board over time -/

theorem startCall_board (method : String) (params : Params) (terms : CallTerms) :
    (session.startCall method params terms).board = session.board ∧
      (session.startCall method params terms).streams = session.streams := by
  have enrolled : ∀ (start : Session) number request,
      (start.enroll number request terms).board = start.board ∧
        (start.enroll number request terms).streams = start.streams := by
    intro start number request
    unfold enroll
    split <;> exact ⟨rfl, rfl⟩
  unfold startCall
  dsimp only
  split
  · exact ⟨rfl, rfl⟩
  · split
    · exact ⟨rfl, rfl⟩
    · split
      · exact ⟨rfl, rfl⟩
      · exact enrolled _ _ _

theorem close_board (session : Session) :
    session.close.board = session.board ∧ session.close.streams = session.streams := by
  cases closed : session.isClosed with
  | true =>
      rw [close_of_closed closed]
      exact ⟨rfl, rfl⟩
  | false =>
      have steady := session.withCloser.steady_settleCloser
      rw [close_eq closed]
      exact ⟨steady.board, steady.streams⟩

theorem failReading_board (session : Session) (line : LogLine) :
    ((session.failReading line).board = session.board ∨
      (session.failReading line).board = session.board.close) ∧
      (session.failReading line).streams = session.streams := by
  unfold failReading
  dsimp only
  split
  · exact ⟨.inl rfl, rfl⟩
  · exact ⟨.inr rfl, rfl⟩

def Step.wanted? : Step → Option String
  | .subscribe topic => some topic
  | .openStream kind _ => some kind.topic
  | _ => none

inductive BoardChange (board : Board) : Board → Prop
  | none : BoardChange board board
  | close : BoardChange board board.close
  | post (notification : Notification) : BoardChange board (board.post notification).2
  | unsubscribe (topic : String) : BoardChange board (board.unsubscribe topic)
  | read (number : Nat) : BoardChange board (board.read number).2
  | abandon (number : Nat) : BoardChange board (board.abandon number)

theorem boardChange_failReading (session : Session) (line : LogLine) :
    BoardChange session.board (session.failReading line).board := by
  rcases (session.failReading_board line).1 with same | closed
  · exact same ▸ .none
  · exact closed ▸ .close

theorem boardChange_receive (session : Session) (incoming : Incoming) :
    BoardChange session.board (session.receive incoming).board := by
  unfold receive
  split
  · exact .none
  · cases incoming with
    | control => exact .none
    | broken => exact session.boardChange_failReading _
    | farewell | ended => exact .close
    | data frame =>
        dsimp only
        split
        · exact session.boardChange_failReading _
        · exact .none
        · exact .post _

theorem boardChange_act {next : Step} (session : Session) (plain : next.wanted? = none) :
    BoardChange session.board (session.act next).2.board := by
  cases next with
  | subscribe topic => cases plain
  | openStream kind token => cases plain
  | call method params terms => exact (startCall_board method params terms).1 ▸ .none
  | abandonCall number =>
      simp only [act, abandonCall]
      split <;> exact .none
  | cancel token => exact (session.steady_cancel token).board ▸ .none
  | receive incoming => exact session.boardChange_receive incoming
  | resume =>
      have steady := steady_noteAll (session.withLine session.outbound.line.resume.2)
        (session.outbound.line.resume.1.map .arrived)
      have same : BoardChange session.board session.board := .none
      exact steady.board ▸ same
  | vanish => exact (session.withLine session.outbound.line.vanish).boardChange_receive .broken
  | unsubscribe topic => exact .unsubscribe topic
  | readMailbox number => exact .read number
  | abandonMailbox number => exact .abandon number
  | readStream number =>
      simp only [act, readStream]
      split <;> exact .none
  | close => exact session.close_board.1 ▸ .none
  | abandonClose number =>
      simp only [act, abandonClose]
      split
      · split <;> exact .none
      · exact .none
  | setCallTimeout | advance | pause | abandonStream | release | linger => exact .none

theorem board_act_of_wanted {next : Step} (session : Session) (wanted : next.wanted? = some topic) :
    (session.act next).2.board = (session.board.subscribe topic).2 := by
  cases next with
  | subscribe other =>
      cases wanted
      rfl
  | openStream kind token =>
      cases wanted
      simp only [act, openStream]
      generalize session.board.subscribe kind.topic = subscribed
      obtain ⟨result, board⟩ := subscribed
      cases result <;> rfl
  | _ => cases wanted

theorem BoardChange.evolves {board later : Board} (change : BoardChange board later) :
    Board.Evolves board later := by
  cases change with
  | none => exact .refl board
  | close => exact board.evolves_close
  | post notification => exact board.evolves_post notification
  | unsubscribe topic => exact board.evolves_unsubscribe topic
  | read number => exact board.evolves_read number
  | abandon number => exact board.evolves_abandon number

theorem evolves_act (session : Session) (next : Step) :
    Board.Evolves session.board (session.act next).2.board := by
  cases wanted : next.wanted? with
  | some topic => exact session.board_act_of_wanted wanted ▸ session.board.evolves_subscribe topic
  | none => exact (session.boardChange_act wanted).evolves

/-! ## Acting -/

structure Retains (topic : String) (mailbox : Nat) (releases : Bool) (session later : Session) :
    Prop where
  topics : later.board.topics.find? topic = some mailbox ↔
    releases = false ∧ later.board.isClosed = false
  streams : ∀ after, EventStream.endedOn topic later.streams after =
    EventStream.endedOn topic session.streams after

/-- The topic still leads to the mailbox. -/
theorem Retains.of_found (found : later.board.topics.find? topic = some mailbox)
    (opened : later.board.isClosed = false)
    (streams : ∀ after, EventStream.endedOn topic later.streams after =
      EventStream.endedOn topic session.streams after) :
    Retains topic mailbox false session later :=
  ⟨iff_of_true found ⟨rfl, opened⟩, streams⟩

theorem Retains.of_same (tidy : session.board.Tidy)
    (found : session.board.topics.find? topic = some mailbox)
    (same : later.board = session.board ∧ later.streams = session.streams) :
    Retains topic mailbox false session later := by
  obtain ⟨board, streams⟩ := same
  refine .of_found ?_ ?_ fun _ => by rw [streams]
  · rw [board]
    exact found
  · rw [board]
    exact tidy.isClosed_of_find? found

theorem Retains.of_closed (tidy : session.board.Tidy)
    (same : later.board = session.board.close ∧ later.streams = session.streams) :
    Retains topic mailbox false session later := by
  obtain ⟨board, streams⟩ := same
  refine ⟨iff_of_false ?_ ?_, fun _ => by rw [streams]⟩
  · rw [board]
    exact tidy.find?_close topic mailbox
  · rintro ⟨_, opened⟩
    rw [board, Board.isClosed_close] at opened
    cases opened

theorem retains_unsubscribe (tidy : session.board.Tidy)
    (found : session.board.topics.find? topic = some mailbox) (other : String) :
    Retains topic mailbox (other == topic) session
      { session with board := session.board.unsubscribe other } := by
  refine ⟨(Board.find?_unsubscribe_iff found other).trans ?_, fun _ => rfl⟩
  exact (and_iff_left (tidy.isClosed_of_find? found)).symm

theorem retains_post (tidy : session.board.Tidy)
    (found : session.board.topics.find? topic = some mailbox) (notification : Notification) :
    Retains topic mailbox
      (notification.method == topic && (session.board.mailbox mailbox).isAbandoned) session
      { session with board := (session.board.post notification).2 } := by
  have opened := tidy.isClosed_of_find? found
  refine ⟨(Board.find?_post_iff opened found notification).trans ?_, fun _ => rfl⟩
  exact (and_iff_left ((session.board.isClosed_post notification).trans opened)).symm

theorem retains_failReading (tidy : session.board.Tidy)
    (found : session.board.topics.find? topic = some mailbox) (line : LogLine) :
    Retains topic mailbox false session (session.failReading line) := by
  obtain ⟨same | closed, streams⟩ := session.failReading_board line
  · exact .of_same tidy found ⟨same, streams⟩
  · exact .of_closed tidy ⟨closed, streams⟩

theorem retains_receive (tidy : session.board.Tidy)
    (found : session.board.topics.find? topic = some mailbox) (incoming : Incoming) :
    Retains topic mailbox (session.releases topic mailbox (.receive incoming)) session
      (session.receive incoming) := by
  have flag : session.releases topic mailbox (.receive incoming) =
      ((session.noticed? (.receive incoming)).any (·.method == topic) &&
        (session.board.mailbox mailbox).isAbandoned) := rfl
  rw [flag]
  unfold receive
  split
  · rename_i stopped
    have silent : session.noticed? (.receive incoming) = none := by
      cases incoming with
      | data frame => simp only [noticed?, if_neg stopped]
      | control | farewell | broken | ended => rfl
    rw [silent]
    exact .of_same tidy found ⟨rfl, rfl⟩
  · rename_i running
    have running : session.reader = .running := Classical.not_not.mp running
    cases incoming with
    | control => exact .of_same tidy found ⟨rfl, rfl⟩
    | broken => exact retains_failReading tidy found _
    | farewell | ended => exact .of_closed tidy ⟨rfl, rfl⟩
    | data frame =>
        simp only [noticed?, if_pos running]
        cases decodeFrame frame with
        | error failure => exact retains_failReading tidy found _
        | ok inbound =>
            cases inbound with
            | response response => exact .of_same tidy found ⟨rfl, rfl⟩
            | notification notification => exact retains_post tidy found notification

theorem retains_act (tidy : session.board.Tidy)
    (found : session.board.topics.find? topic = some mailbox) (next : Step) :
    Retains topic mailbox (session.releases topic mailbox next) session (session.act next).2 := by
  have opened := tidy.isClosed_of_find? found
  cases next with
  | call method params terms => exact .of_same tidy found (startCall_board method params terms)
  | abandonCall number =>
      simp only [act, abandonCall]
      split <;> exact .of_same tidy found ⟨rfl, rfl⟩
  | cancel token =>
      have steady := session.steady_cancel token
      exact .of_same tidy found ⟨steady.board, steady.streams⟩
  | receive incoming => exact retains_receive tidy found incoming
  | resume =>
      have steady := steady_noteAll (session.withLine session.outbound.line.resume.2)
        (session.outbound.line.resume.1.map .arrived)
      exact .of_same tidy found ⟨steady.board, steady.streams⟩
  | vanish =>
      have quiet : Retains topic mailbox false session
          ((session.withLine session.outbound.line.vanish).receive .broken) := by
        have same : (session.withLine session.outbound.line.vanish).board.Tidy := tidy
        have retained := retains_receive same found .broken
        exact ⟨retained.topics, retained.streams⟩
      exact quiet
  | subscribe other =>
      obtain ⟨kept, opened, _⟩ := Board.find?_subscribe opened found other
      exact .of_found kept opened fun _ => rfl
  | unsubscribe other => exact retains_unsubscribe tidy found other
  | readMailbox number =>
      have same : (session.board.read number).2.topics = session.board.topics ∧
          (session.board.read number).2.isClosed = session.board.isClosed := by
        unfold Board.read
        dsimp only
        split <;> exact ⟨rfl, rfl⟩
      refine .of_found ?_ ?_ fun _ => rfl
      · exact same.1 ▸ found
      · exact same.2.trans opened
  | abandonMailbox number =>
      exact .of_found found opened fun _ => rfl
  | openStream kind token =>
      obtain ⟨kept, opened, differs⟩ := Board.find?_subscribe opened found kind.topic
      simp only [act, openStream]
      generalize session.board.subscribe kind.topic = subscribed at *
      obtain ⟨result, board⟩ := subscribed
      cases result with
      | error failure => exact .of_found kept opened fun _ => rfl
      | ok number =>
          exact .of_found kept opened
            (EventStream.endedOn_append topic session.streams (differs number rfl))
  | readStream number =>
      simp only [act, readStream]
      split
      · exact .of_same tidy found ⟨rfl, rfl⟩
      · rename_i stream present
        exact .of_found found opened (EventStream.endedOn_read topic present)
  | abandonStream number =>
      exact .of_found found opened
        (EventStream.endedOn_modify topic session.streams number fun _ => ⟨rfl, rfl⟩)
  | close => exact .of_same tidy found session.close_board
  | abandonClose number =>
      simp only [act, abandonClose]
      split
      · split <;> exact .of_same tidy found ⟨rfl, rfl⟩
      · exact .of_same tidy found ⟨rfl, rfl⟩
  | setCallTimeout | advance | pause | release | linger => exact .of_same tidy found ⟨rfl, rfl⟩

/-! ## Settling -/

/-- What the streams find when they go on, and what they leave. -/
theorem settles_settle (session : Session) :
    ∃ board, (board = session.board ∨ board = session.board.close) ∧
      EventStream.Settles board session.streams session.settle.board session.settle.streams := by
  obtain ⟨served, steady, same⟩ := session.steady_settle
  have out := session.steady_settleOutbound
  have streams : served.streams = session.streams := by
    rw [steady.streams, ← out.streams]
    unfold settleReader
    split <;> rfl
  refine ⟨served.board, ?_, ?_⟩
  · rw [steady.board, ← out.board]
    unfold settleReader
    split
    · exact .inr rfl
    · exact .inl rfl
  · rw [same, ← streams]
    exact EventStream.settles_settle served.cancelled served.board served.streams

theorem evolves_settle (session : Session) : Board.Evolves session.board session.settle.board := by
  obtain ⟨board, rfl | rfl, settles⟩ := session.settles_settle
  · exact settles.evolves
  · exact session.board.evolves_close.trans settles.evolves

theorem evolves_step (session : Session) (next : Step) :
    Board.Evolves session.board (session.step next).2.board :=
  (session.evolves_act next).trans (evolves_settle _)

theorem evolves_run (session : Session) (steps : List Step) :
    Board.Evolves session.board (session.run steps).board := by
  induction steps generalizing session with
  | nil => exact .refl _
  | cons next steps ih => exact (session.evolves_step next).trans (ih _)

theorem tidy_create (settings : Settings) (lineCapacity : Nat) (loggerPanics : Bool) :
    (create settings lineCapacity loggerPanics).board.Tidy :=
  ⟨.nil, fun _ member => absurd member List.not_mem_nil, fun _ => rfl⟩

theorem isClosed_of_settle (opened : session.settle.board.isClosed = false) :
    session.board.isClosed = false := by
  obtain ⟨board, origin, settles⟩ := session.settles_settle
  rw [settles.isClosed] at opened
  rcases origin with rfl | rfl
  · exact opened
  · rw [Board.isClosed_close] at opened
    cases opened

/-- A subscription outlives the settling of a session unless the board closes or a stream of its
topic ends. -/
theorem find?_settle_iff (tidy : session.board.Tidy) :
    session.settle.board.topics.find? topic = some mailbox ↔
      session.board.topics.find? topic = some mailbox ∧ session.settle.board.isClosed = false ∧
        EventStream.endedOn topic session.streams session.settle.streams = false := by
  obtain ⟨board, origin, settles⟩ := session.settles_settle
  rw [settles.topics, settles.isClosed]
  cases ended : EventStream.endedOn topic session.streams session.settle.streams with
  | true => simp
  | false =>
      have found : board.topics.find? topic = some mailbox ↔
          session.board.topics.find? topic = some mailbox ∧ board.isClosed = false := by
        rcases origin with rfl | rfl
        · exact ⟨fun found => ⟨found, tidy.isClosed_of_find? found⟩, And.left⟩
        · refine iff_of_false (tidy.find?_close topic mailbox) ?_
          simp [Board.isClosed_close]
      simpa using found

theorem retained_step_iff (tidy : session.board.Tidy)
    (found : session.board.topics.find? topic = some mailbox) (next : Step) :
    (session.step next).2.board.topics.find? topic = some mailbox ↔
      session.releases topic mailbox next = false ∧ (session.step next).2.board.isClosed = false ∧
        EventStream.endedOn topic session.streams (session.step next).2.streams = false := by
  have acted := retains_act tidy found next
  rw [step_eq_settle, find?_settle_iff ((session.evolves_act next).tidy tidy), acted.topics,
    acted.streams]
  constructor
  · rintro ⟨⟨kept, _⟩, opened, lasting⟩
    exact ⟨kept, opened, lasting⟩
  · rintro ⟨kept, opened, lasting⟩
    exact ⟨⟨kept, isClosed_of_settle opened⟩, opened, lasting⟩

/-- A subscription is lost in a step exactly when the step releases its topic, when the board is
closed afterwards, or when a stream of the topic ends, whichever subscription that stream has; and
what is lost never comes back. -/
theorem subscription_kept_iff (settings : Settings) (lineCapacity : Nat) (loggerPanics : Bool)
    (before : List Step) (next : Step) (topic : String) (mailbox : Nat)
    (subscribed :
      ((create settings lineCapacity loggerPanics).run before).board.topics.find? topic =
        some mailbox) :
    let session := (create settings lineCapacity loggerPanics).run before
    let later := (session.step next).2
    (later.board.topics.find? topic = some mailbox ↔
      session.releases topic mailbox next = false ∧ later.board.isClosed = false ∧
        EventStream.endedOn topic session.streams later.streams = false) ∧
      (later.board.topics.find? topic ≠ some mailbox →
        ∀ after, (later.run after).board.isLinked mailbox = false) := by
  intro session later
  have tidy : session.board.Tidy :=
    (evolves_run _ before).tidy (tidy_create settings lineCapacity loggerPanics)
  refine ⟨retained_step_iff tidy subscribed next, ?_⟩
  intro lost after
  have evolves := session.evolves_step next
  have placed : mailbox < session.board.mailboxes.length :=
    tidy.placed _ ((Directory.find?_eq_some_iff ..).mp subscribed)
  have unlinked := evolves.unlinked_of_lost tidy subscribed lost
  exact (evolves_run later after).unlinked (Nat.lt_of_lt_of_le placed evolves.length) unlinked

/-- Someone subscribes to the topic of a stream that still holds an event for its reader; the end of
the stream is the end of that subscription. -/
theorem subscription_kept_iff_of_resubscribed :
    let topic := "minecraft:notification/server/saved"
    let saved : Step := .receive (.data
      (Json.bytesOf r#"{"method":"minecraft:notification/server/saved"}"#))
    let session := (create .standard 1024 false).run
      [.openStream .serverSaved "a", saved, saved, .unsubscribe topic, .subscribe topic]
    let later := (session.step (.cancel "a")).2
    session.board.topics.find? topic = some 1 ∧ later.board.topics.find? topic ≠ some 1 ∧
      ∀ after, (later.run after).board.isLinked 1 = false := by
  intro topic saved session later
  have subscribed : session.board.topics.find? topic = some 1 := by decide +kernel
  have ended : EventStream.endedOn topic session.streams later.streams = true := by decide +kernel
  obtain ⟨kept, lost⟩ := subscription_kept_iff .standard 1024 false
    [.openStream .serverSaved "a", saved, saved, .unsubscribe topic, .subscribe topic]
    (.cancel "a") topic 1 subscribed
  have gone : later.board.topics.find? topic ≠ some 1 := by
    intro found
    have lasting := (kept.mp found).2.2
    rw [ended] at lasting
    cases lasting
  exact ⟨subscribed, gone, lost gone⟩

/-- The stream that ends has the mailbox of its own subscription, which was given up before; the
subscription that it takes away is a newer one. -/
theorem older_stream_takes_subscription :
    let topic := "minecraft:notification/server/saved"
    let saved : Step := .receive (.data
      (Json.bytesOf r#"{"method":"minecraft:notification/server/saved"}"#))
    let session := (create .standard 1024 false).run
      [.openStream .serverSaved "a", saved, saved, .unsubscribe topic, .subscribe topic]
    let later := (session.step (.cancel "a")).2
    session.streams.map (fun stream => (stream.kind.topic, stream.mailbox, stream.isLive)) =
        [(topic, 0, true)] ∧
      session.board.topics.find? topic = some 1 ∧
      later.streams.map (·.isLive) = [false] ∧ later.board.isClosed = false ∧
      later.board.topics.find? topic = none := by
  decide +kernel

end Session

end ServerManagement
