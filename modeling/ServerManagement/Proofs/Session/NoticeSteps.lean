import ServerManagement.Proofs.Notice.StreamLedger
import ServerManagement.Proofs.Session.OmissionMarks
import ServerManagement.Proofs.Session.ReaderEnd

/-!
What a step does to the notices of a session. It does one thing to the board or to one stream; then
the reader may close the board, and the streams go on until none can.
-/

set_option autoImplicit false

namespace ServerManagement

namespace Session

inductive Touches (session : Session) : Step → Board → List EventStream → List Token → Prop
  | calm {next : Step} (unnoticed : session.noticed? next = none)
      (unread : ∀ number, next ≠ .readStream number) :
      Touches session next session.board session.streams session.cancelled
  | cancel (token : Token) :
      Touches session (.cancel token) session.board session.streams (token :: session.cancelled)
  | shut {next : Step} (unnoticed : session.noticed? next = none)
      (unread : ∀ number, next ≠ .readStream number) :
      Touches session next session.board.close session.streams session.cancelled
  | post {frame : Json.Bytes} {notification : Notification}
      (noticed : session.noticed? (.receive (.data frame)) = some notification) :
      Touches session (.receive (.data frame)) (session.board.post notification).2
        session.streams session.cancelled
  | subscribe (topic : String) :
      Touches session (.subscribe topic) (session.board.subscribe topic).2 session.streams
        session.cancelled
  | unsubscribe (topic : String) :
      Touches session (.unsubscribe topic) (session.board.unsubscribe topic) session.streams
        session.cancelled
  | readMailbox (mailbox : Nat) :
      Touches session (.readMailbox mailbox) (session.board.read mailbox).2 session.streams
        session.cancelled
  | abandonMailbox (mailbox : Nat) :
      Touches session (.abandonMailbox mailbox) (session.board.abandon mailbox) session.streams
        session.cancelled
  | openStream (kind : EventKind) (token : Token) {mailbox : Nat} {board : Board}
      (subscribed : session.board.subscribe kind.topic = (.ok mailbox, board)) :
      Touches session (.openStream kind token) board
        (session.streams ++ [.create kind mailbox token]) session.cancelled
  | readStream (number : Nat) :
      Touches session (.readStream number) session.board
        (session.streams.modify number fun stream => stream.read.2) session.cancelled
  | abandonStream (number : Nat) :
      Touches session (.abandonStream number) session.board
        (session.streams.modify number EventStream.abandon) session.cancelled

variable {session middle later : Session} {next : Step} {steps : List Step} {number mailbox : Nat}

/-! ## Acting -/

structure SameNotices (session later : Session) : Prop where
  board : later.board = session.board
  streams : later.streams = session.streams
  cancelled : later.cancelled = session.cancelled

theorem SameNotices.touches (same : SameNotices session later)
    (unnoticed : session.noticed? next = none) (unread : ∀ number, next ≠ .readStream number) :
    Touches session next later.board later.streams later.cancelled := by
  rw [same.board, same.streams, same.cancelled]
  exact .calm unnoticed unread

theorem sameNotices_startCall (method : String) (params : Params) (terms : CallTerms) :
    SameNotices session (session.startCall method params terms) := by
  have noticeless : (session.startCall method params terms).board = session.board ∧
      (session.startCall method params terms).streams = session.streams :=
    startCall_board method params terms
  obtain ⟨board, streams⟩ := noticeless
  refine ⟨board, streams, ?_⟩
  unfold startCall
  dsimp only
  split
  · rfl
  · split
    · rfl
    · split
      · rfl
      · unfold enroll
        split <;> rfl

theorem sameNotices_close (session : Session) : SameNotices session session.close := by
  obtain ⟨board, streams⟩ := session.close_board
  refine ⟨board, streams, ?_⟩
  cases closed : session.isClosed with
  | true =>
      rw [close_of_closed closed]
      rfl
  | false =>
      rw [close_eq closed]
      exact session.withCloser.steady_settleCloser.cancelled

theorem SameNotices.touches_failReading (same : SameNotices session middle)
    (unnoticed : session.noticed? next = none) (unread : ∀ number, next ≠ .readStream number)
    (line : LogLine) :
    Touches session next (middle.failReading line).board (middle.failReading line).streams
      (middle.failReading line).cancelled := by
  have shut : Touches session next session.board.close session.streams session.cancelled :=
    .shut unnoticed unread
  rw [← same.board, ← same.streams, ← same.cancelled] at shut
  have calm := same.touches unnoticed unread
  unfold failReading
  dsimp only
  split
  · exact calm
  · exact shut

theorem touches_receive (session : Session) (incoming : Incoming) :
    Touches session (.receive incoming) (session.receive incoming).board
      (session.receive incoming).streams (session.receive incoming).cancelled := by
  have unread : ∀ number, Step.receive incoming ≠ .readStream number := by simp
  have same : SameNotices session session := ⟨rfl, rfl, rfl⟩
  unfold receive
  split
  · rename_i gone
    refine .calm ?_ unread
    cases incoming with
    | data frame => exact if_neg gone
    | control | farewell | broken | ended => rfl
  · rename_i running
    have running : session.reader = .running := Classical.not_not.mp running
    cases incoming with
    | control => exact .calm rfl unread
    | broken => exact same.touches_failReading rfl unread _
    | farewell | ended => exact .shut rfl unread
    | data frame =>
        dsimp only
        split
        · rename_i failure decoded
          have unnoticed : session.noticed? (.receive (.data frame)) = none := by
            simp only [noticed?, if_pos running, decoded]
          exact same.touches_failReading unnoticed unread _
        · rename_i response decoded
          have unnoticed : session.noticed? (.receive (.data frame)) = none := by
            simp only [noticed?, if_pos running, decoded]
          exact .calm unnoticed unread
        · rename_i notification decoded
          have noticed : session.noticed? (.receive (.data frame)) = some notification := by
            simp only [noticed?, if_pos running, decoded]
          exact .post noticed

theorem touches_act (session : Session) (next : Step) :
    Touches session next (session.act next).2.board (session.act next).2.streams
      (session.act next).2.cancelled := by
  cases next with
  | call method params terms =>
      exact (sameNotices_startCall method params terms).touches rfl (by simp)
  | abandonCall number =>
      simp only [act, abandonCall]
      split <;> exact .calm rfl (by simp)
  | cancel token =>
      have steady := session.steady_cancel token
      simp only [act, steady.board, steady.streams, steady.cancelled]
      exact .cancel token
  | receive incoming => exact session.touches_receive incoming
  | resume =>
      have steady := steady_noteAll (session.withLine session.outbound.line.resume.2)
        (session.outbound.line.resume.1.map .arrived)
      have same : SameNotices session session.resume :=
        ⟨steady.board, steady.streams, steady.cancelled⟩
      exact same.touches rfl (by simp)
  | vanish =>
      have same : SameNotices session (session.withLine session.outbound.line.vanish) :=
        ⟨rfl, rfl, rfl⟩
      simp only [act, vanish, receive]
      split
      · exact .calm rfl (by simp)
      · exact same.touches_failReading rfl (by simp) _
  | subscribe topic => exact .subscribe topic
  | unsubscribe topic => exact .unsubscribe topic
  | readMailbox number => exact .readMailbox number
  | abandonMailbox number => exact .abandonMailbox number
  | openStream kind token =>
      simp only [act, openStream]
      cases subscribed : session.board.subscribe kind.topic with
      | mk result board =>
          cases result with
          | error failure =>
              rw [Board.subscribe_of_error subscribed]
              exact .calm rfl (by simp)
          | ok mailbox => exact .openStream kind token subscribed
  | readStream number =>
      have touched : Touches session (.readStream number) _ _ _ := .readStream number
      simp only [act, readStream]
      cases found : session.streams[number]? with
      | none =>
          rw [List.modify_eq_self (List.getElem?_eq_none_iff.mp found)] at touched
          exact touched
      | some stream =>
          rw [← set_eq_modify_of_present found fun stream => stream.read.2] at touched
          exact touched
  | abandonStream number => exact .abandonStream number
  | close => exact session.sameNotices_close.touches rfl (by simp)
  | abandonClose number =>
      simp only [act, abandonClose]
      split
      · split <;> exact .calm rfl (by simp)
      · exact .calm rfl (by simp)
  | setCallTimeout | advance | pause | release | linger => exact .calm rfl (by simp)

/-! ## Settling -/

def foundBoard (session : Session) : Board :=
  if session.outbound.isStopping ∧ session.reader = .running then session.board.close
  else session.board

theorem settle_notices (session : Session) :
    (session.settle.board, session.settle.streams) =
        EventStream.settle session.cancelled session.foundBoard session.streams ∧
      session.settle.cancelled = session.cancelled := by
  -- Before the streams go on only the reader touches the board.
  obtain ⟨served, steady, same⟩ := session.steady_settle
  have out := session.aside_settleOutbound
  have frame := session.steady_settleOutbound
  have read : session.settleOutbound.settleReader.board = session.foundBoard ∧
      session.settleOutbound.settleReader.streams = session.streams ∧
      session.settleOutbound.settleReader.cancelled = session.cancelled := by
    unfold settleReader foundBoard
    rw [out.isStopping, out.reader]
    split
    · exact ⟨congrArg Board.close frame.board, frame.streams, frame.cancelled⟩
    · exact ⟨frame.board, frame.streams, frame.cancelled⟩
  obtain ⟨board, streams, cancelled⟩ := read
  rw [same]
  refine ⟨?_, steady.cancelled.trans cancelled⟩
  simp only [settleStreams, steady.cancelled, steady.board, steady.streams, board, streams,
    cancelled]

theorem evolves_foundBoard (session : Session) : Board.Evolves session.board session.foundBoard := by
  unfold foundBoard
  split
  · exact session.board.evolves_close
  · exact .refl session.board

theorem untouched_foundBoard (session : Session) (topic : String) (mailbox : Nat) :
    Board.Untouched topic mailbox session.board session.foundBoard := by
  unfold foundBoard
  split
  · exact Board.untouched_close topic mailbox session.board
  · exact .refl topic mailbox session.board

/-! ## Capacity -/

theorem capacity_step (session : Session) (next : Step) :
    (session.step next).2.board.capacity = session.board.capacity := by
  have acted : (session.act next).2.board.capacity = session.board.capacity := by
    have touches := session.touches_act next
    generalize (session.act next).2.board = board, (session.act next).2.streams = streams,
      (session.act next).2.cancelled = cancelled at touches
    cases touches with
    | calm | cancel | unsubscribe | abandonMailbox | readStream | abandonStream => rfl
    | shut => exact session.board.capacity_close
    | post => exact session.board.capacity_post _
    | subscribe topic => exact session.board.capacity_subscribe topic
    | readMailbox mailbox => exact session.board.capacity_read mailbox
    | openStream kind token subscribed =>
        have same := session.board.capacity_subscribe kind.topic
        rwa [subscribed] at same
  have found : (session.act next).2.foundBoard.capacity = (session.act next).2.board.capacity := by
    unfold foundBoard
    split
    · exact (session.act next).2.board.capacity_close
    · rfl
  rw [step_eq_settle, (Prod.mk.inj (session.act next).2.settle_notices.1).1,
    EventStream.capacity_settle, found, acted]

theorem capacity_run (session : Session) (steps : List Step) :
    (session.run steps).board.capacity = session.board.capacity := by
  induction steps generalizing session with
  | nil => rfl
  | cons next steps ih => exact (ih _).trans (session.capacity_step next)

/-! ## Mailboxes of streams -/

structure Housed (board : Board) (streams : List EventStream) : Prop where
  apart : (streams.map EventStream.mailbox).Nodup
  placed : ∀ mailbox ∈ streams.map EventStream.mailbox, mailbox < board.mailboxes.length

namespace Housed

variable {board after : Board} {streams others : List EventStream}

theorem alone (housed : Housed board streams) {stream : EventStream}
    (here : streams[number]? = some stream) :
    EventStream.Alone stream.mailbox number streams := by
  intro index other differs there same
  have within : index < (streams.map EventStream.mailbox).length := by
    rw [List.length_map]
    exact (List.getElem?_eq_some_iff.mp there).1
  refine differs ((List.getElem?_inj within housed.apart).mp ?_)
  rw [List.getElem?_map, List.getElem?_map, here, there, Option.map_some, Option.map_some, same]

/-- The same streams, with mailboxes that are still there. -/
theorem of_same (housed : Housed board streams)
    (same : others.map EventStream.mailbox = streams.map EventStream.mailbox)
    (length : board.mailboxes.length ≤ after.mailboxes.length) : Housed after others where
  apart := same.symm ▸ housed.apart
  placed mailbox member := Nat.lt_of_lt_of_le (housed.placed mailbox (same ▸ member)) length

theorem evolves (housed : Housed board streams) (evolves : Board.Evolves board after) :
    Housed after streams := housed.of_same rfl evolves.length

theorem modify (housed : Housed board streams) {change : EventStream → EventStream}
    (keeps : ∀ stream, (change stream).mailbox = stream.mailbox) (number : Nat) :
    Housed board (streams.modify number change) := by
  refine housed.of_same (List.ext_getElem? fun index => ?_) (Nat.le_refl _)
  simp only [List.getElem?_map, List.getElem?_modify]
  cases streams[index]? with
  | none => rfl
  | some stream =>
      by_cases same : number = index
      · simp [same, keeps]
      · simp [same]

theorem openStream (housed : Housed board streams) (kind : EventKind) (token : Token)
    (subscribed : board.subscribe kind.topic = (.ok mailbox, after)) :
    Housed after (streams ++ [.create kind mailbox token]) := by
  obtain ⟨_, _, rfl, rfl⟩ := Board.subscribe_eq_ok_iff.mp subscribed
  constructor
  · rw [List.map_append, List.nodup_append]
    refine ⟨housed.apart, List.pairwise_singleton .., fun number member fresh new => ?_⟩
    obtain rfl := List.mem_singleton.mp new
    exact Nat.ne_of_lt (housed.placed number member)
  · intro number member
    rw [List.length_append]
    rw [List.map_append] at member
    rcases List.mem_append.mp member with old | new
    · exact Nat.lt_succ_of_lt (housed.placed number old)
    · obtain rfl := List.mem_singleton.mp new
      exact Nat.lt_succ_self _

theorem act (housed : Housed session.board session.streams) (next : Step) :
    Housed (session.act next).2.board (session.act next).2.streams := by
  have touches := session.touches_act next
  have evolved := housed.evolves (session.evolves_act next)
  generalize (session.act next).2.board = board, (session.act next).2.streams = streams,
    (session.act next).2.cancelled = cancelled at touches evolved
  cases touches with
  | openStream kind token subscribed => exact housed.openStream kind token subscribed
  | readStream number =>
      refine housed.modify (fun stream => ?_) number
      unfold EventStream.read
      split <;> rfl
  | abandonStream number =>
      have same (stream : EventStream) : stream.abandon.mailbox = stream.mailbox := rfl
      exact housed.modify same number
  | calm | cancel | shut | post | subscribe | unsubscribe | readMailbox | abandonMailbox =>
      exact evolved

theorem settle (housed : Housed session.board session.streams) :
    Housed session.settle.board session.settle.streams := by
  obtain ⟨notices, _⟩ := session.settle_notices
  obtain ⟨_, streams⟩ := Prod.mk.inj notices
  refine housed.of_same ?_ session.evolves_settle.length
  have owners := congrArg (List.map fun owner => owner.2.1)
    (EventStream.owners_settle session.cancelled session.foundBoard session.streams)
  rw [List.map_map, List.map_map, ← streams] at owners
  exact owners

theorem step (housed : Housed session.board session.streams) (next : Step) :
    Housed (session.step next).2.board (session.step next).2.streams := (housed.act next).settle

end Housed

end Session

end ServerManagement
