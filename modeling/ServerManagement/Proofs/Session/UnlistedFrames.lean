import ServerManagement.Proofs.Envelope.FrameShapes
import ServerManagement.Proofs.Session.EndOfNotices
import ServerManagement.Proofs.Session.InboundEnd

/-!
Frames that are no envelopes. Besides objects a frame may be a list that gives the fields of a
response by position; the reader ends at any other frame, and nobody else notices.
-/

set_option autoImplicit false

namespace ServerManagement

open ServerManagement.Json (Bytes Value)
open ServerManagement.Wire (OpensObject)

namespace Session

variable {session : Session} {frame : Bytes} {failure : Failure}

theorem stopsReader_of_refused (refused : decodeFrame frame = .error failure) :
    Step.stopsReader (.receive (.data frame)) = true := by
  simp [Step.stopsReader, Step.failsReading, refused]

theorem receive_of_refused (running : session.reader = .running)
    (refused : decodeFrame frame = .error failure) :
    session.receive (.data frame) = session.failReading (frameRejected failure) := by
  simp only [receive, running, refused, ne_eq, not_true, if_false]

/-- A failure to read leaves every mailbox as it is. -/
theorem sameUnread_failReading (session : Session) (line : LogLine) :
    EventStream.SameUnread session.board (session.failReading line).board := by
  rcases (session.failReading_board line).1 with same | closed
  · exact same ▸ fun _ => rfl
  · exact closed ▸ .close session.board

theorem history_failReading (session : Session) (line : LogLine) :
    (session.failReading line).history = session.history ++ [.logged line] := by
  unfold failReading
  dsimp only
  split <;> rfl

theorem cancelled_failReading (session : Session) (line : LogLine) :
    (session.failReading line).cancelled = session.cancelled := by
  unfold failReading
  dsimp only
  split <;> rfl

theorem backlog_eq (session : Session) (number : Nat) :
    session.backlog number =
      ((session.streams.map (EventStream.backlog session.board))[number]?).getD [] := by
  unfold backlog
  rw [List.getElem?_map]
  cases session.streams[number]? <;> rfl

/-- Nothing has come out of a message: the calls and the pending table are as they were, and every
subscriber and every stream will find what it would have found. -/
structure Unmoved (session later : Session) : Prop where
  calls : later.calls = session.calls
  correlator : later.correlator = session.correlator
  unread : ∀ number, (later.board.mailbox number).unread = (session.board.mailbox number).unread
  backlogs : ∀ number, later.backlog number = session.backlog number

theorem Unmoved.refl (session : Session) : Unmoved session session :=
  ⟨rfl, rfl, fun _ => rfl, fun _ => rfl⟩

/-- A frame that is refused is logged, and nothing else comes out of it. -/
theorem Listening.refuses (listening : session.Listening)
    (refused : decodeFrame frame = .error failure) :
    let later := (session.step (.receive (.data frame))).2
    later.reader ≠ .running ∧ Unmoved session later ∧
      later.history = session.history ++ [.logged (frameRejected failure)] := by
  intro later
  have stops := stopsReader_of_refused refused
  have settled : later = (session.failReading (frameRejected failure)).settleStreams := by
    rw [← receive_of_refused listening.running refused]
    exact listening.still.step_of_stop listening.idle stops
  obtain ⟨calls, correlator⟩ := listening.still.calls_of_stop listening.idle stops
  have spares := EventStream.spares_settle listening.still.streams
    (session.sameUnread_failReading (frameRejected failure))
  have streams := (session.failReading_board (frameRejected failure)).2
  have board : later.board = (EventStream.settle session.cancelled
      (session.failReading (frameRejected failure)).board session.streams).1 := by
    rw [settled, settleStreams, streams, cancelled_failReading]
  have after : later.streams = (EventStream.settle session.cancelled
      (session.failReading (frameRejected failure)).board session.streams).2 := by
    rw [settled, settleStreams, streams, cancelled_failReading]
  rw [← board, ← after] at spares
  refine ⟨listening.gone_of_stop stops, ⟨calls, correlator, spares.unread, fun number => ?_⟩, ?_⟩
  · rw [backlog_eq, backlog_eq, ← spares.backlogs]
    exact congrArg (fun backlogs : List (List ServerEvent) => (backlogs[number]?).getD [])
      (List.map_congr_left fun stream _ => spares.unread.backlog stream)
  · rw [settled]
    exact session.history_failReading _

/-- Only objects are envelopes, and lists that give the fields of a response by position; those are
dealt with as the messages that they give. Any other frame ends the reader, and no call and no
subscriber notices it. -/
theorem unlisted_frames_end_reader (settings : Settings) (lineCapacity : Nat) (loggerPanics : Bool)
    (before : List Step) (sent : Frame) (frame : Bytes) (carries : sent.incoming = .data frame)
    (few : ((create settings lineCapacity loggerPanics).run before).callCount < 2 ^ 64) :
    let session := (create settings lineCapacity loggerPanics).run before
    let later := (session.step (.receive sent.incoming)).2
    (∀ value, Value.parse frame = .ok value →
      (OpensObject frame ↔ ∃ members, value = .object members)) ∧
      (∀ inbound, decodeFrame frame = .ok inbound →
        OpensObject frame ∨ inbound.ListedIn frame) ∧
      (∀ inbound : Inbound, inbound.ListedIn frame → decodeFrame frame = .ok inbound ∧
        (session.reader = .running → session.Handles inbound later)) ∧
      (¬OpensObject frame → (∀ inbound : Inbound, ¬inbound.ListedIn frame) →
        later.reader ≠ .running ∧ Unmoved session later ∧
          (session.reader = .running → ∃ failure, decodeFrame frame = .error failure ∧
            later.history = session.history ++ [.logged (frameRejected failure)])) := by
  intro session later
  have same : later = (session.step (.receive (.data frame))).2 := by rw [← carries]
  have listening (running : session.reader = .running) : session.Listening :=
    listening_of_running settings lineCapacity loggerPanics few running
  refine ⟨fun value => Wire.opensObject_iff, ?_, ?_, ?_⟩
  · intro inbound decoded
    by_cases foreign : OpensObject frame
    · exact .inl foreign
    · exact .inr ((decodeFrame_iff_listedIn foreign).mp decoded)
  · intro inbound listed
    have decoded := (decodeFrame_iff_listedIn listed.foreign).mpr listed
    refine ⟨decoded, fun running => ?_⟩
    have listening := listening running
    rw [same]
    exact listening.still.handles listening.sound running listening.opened decoded
  · intro foreign unlisted
    obtain ⟨failure, refused⟩ : ∃ failure, decodeFrame frame = .error failure := by
      cases decoded : decodeFrame frame with
      | ok inbound => exact absurd ((decodeFrame_iff_listedIn foreign).mp decoded) (unlisted inbound)
      | error failure => exact ⟨failure, rfl⟩
    by_cases running : session.reader = .running
    · obtain ⟨gone, unmoved, logged⟩ := (listening running).refuses refused
      rw [same]
      exact ⟨gone, unmoved, fun _ => ⟨failure, refused, logged⟩⟩
    · have still : session.Still := still_run settings lineCapacity loggerPanics before few
      have idle : later = session := congrArg Prod.snd (still.step_receive_eq (.inr running))
      rw [idle]
      exact ⟨running, .refl session, fun runs => absurd runs running⟩

/-- A list that gives a number as the method. -/
theorem unlisted_frames_end_reader_of_number :
    let frame := Json.bytesOf "[1,2]"
    let session := (create .standard 1024 false).run [.call "a" .none .standard, .subscribe "t"]
    let later := (session.step (.receive (.data frame))).2
    session.callCount < 2 ^ 64 ∧ ¬OpensObject frame ∧
      (∀ inbound : Inbound, ¬inbound.ListedIn frame) ∧ later.reader ≠ .running ∧
      Unmoved session later ∧ later.correlator.entries.keys = [1] := by
  intro frame session later
  have few : session.callCount < 2 ^ 64 := by decide +kernel
  have list : Value.parse frame = .ok (.array [.ofNat 1, .ofNat 2]) := by decide +kernel
  obtain ⟨kind, _, _, ends⟩ := unlisted_frames_end_reader .standard 1024 false
    [.call "a" .none .standard, .subscribe "t"] (.text "[1,2]") frame rfl few
  have foreign : ¬OpensObject frame := by
    intro opens
    obtain ⟨members, same⟩ := (kind _ list).mp opens
    cases same
  have unlisted : ∀ inbound : Inbound, ¬inbound.ListedIn frame := by
    rintro inbound ⟨items, response, found, listed, _⟩
    obtain rfl := Value.array.inj (Except.ok.inj (list.symm.trans found))
    cases listed.ofValue
  obtain ⟨gone, unmoved, _⟩ := ends foreign unlisted
  have pending : session.correlator.entries.keys = [1] := by decide +kernel
  refine ⟨few, foreign, unlisted, gone, unmoved, ?_⟩
  exact (congrArg (fun correlator => correlator.entries.keys) unmoved.correlator).trans pending

/-- Lists come in: the first completes a call, the second reaches a subscriber, and the reader goes
on. -/
theorem list_completes_call :
    let response := Json.bytesOf r#"[1,"m",null,true]"#
    let notice := Json.bytesOf r#"[null,"t"]"#
    let session := (create .standard 1024 false).run [.call "a" .none .standard, .subscribe "t"]
    let later := session.run [.receive (.data response), .receive (.data notice)]
    Value.parse response = .ok (.array [.ofNat 1, .text "m", .null, .bool true]) ∧
      decodeFrame response = .ok (.response ⟨some 1, "m", none, some (.bool true), none⟩) ∧
      Value.parse notice = .ok (.array [.null, .text "t"]) ∧
      decodeFrame notice = .ok (.notification ⟨"t", none, none⟩) ∧
      session.outcomes 0 = [] ∧
      later.outcomes 0 = [.ok ⟨some 1, "m", none, some (.bool true), none⟩] ∧
      (later.board.mailbox 0).unread = [⟨"t", none, none⟩] ∧ later.reader = .running := by
  decide +kernel

end Session

end ServerManagement
