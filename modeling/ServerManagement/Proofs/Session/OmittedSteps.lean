import ServerManagement.Proofs.Session.OmissionMarks

/-!
Steps of a session with one topic left out. The steps of the subscribers of the topic are taken
away; in the others the mailboxes and streams that move up are called by their new numbers.
-/

set_option autoImplicit false

namespace ServerManagement

namespace Session

def moved? (marks : List Bool) (number : Nat) : Option Nat :=
  if marks[number]? = some false then none else some (rank marks number)

def streamMarks (session : Session) (omission : Omission) : List Bool :=
  EventStream.staying omission.topic session.streams

def left? (session : Session) (omission : Omission) (marks : List Bool) : Step → Option Step
  | .cancel token => if omission.owns token then none else some (.cancel token)
  | .subscribe topic => if topic = omission.topic then none else some (.subscribe topic)
  | .unsubscribe topic => if topic = omission.topic then none else some (.unsubscribe topic)
  | .openStream kind token =>
    if kind.topic = omission.topic then none else some (.openStream kind token)
  | .readMailbox mailbox => (moved? marks mailbox).map .readMailbox
  | .abandonMailbox mailbox => (moved? marks mailbox).map .abandonMailbox
  | .readStream stream => (moved? (session.streamMarks omission) stream).map .readStream
  | .abandonStream stream => (moved? (session.streamMarks omission) stream).map .abandonStream
  | next => some next

def Answer.moved (mailboxes streams : List Bool) : Answer → Answer
  | .mailbox result => .mailbox (result.map (rank mailboxes))
  | .stream result => .stream (result.map (rank streams))
  | answer => answer

variable {session : Session} {omission : Omission} {marks : List Bool} {next : Step}

/-! ## Calls and the peer -/

section

variable (omission : Omission) (marks : List Bool)

theorem oblivious_enroll (number : Nat) (request : Request) (terms : CallTerms) :
    Oblivious omission marks fun session => session.enroll number request terms := by
  intro session
  have correlator : (session.without omission marks).correlator = session.correlator := rfl
  simp only [enroll, correlator]
  split <;> rfl

theorem oblivious_abandonCall (number : Nat) :
    Oblivious omission marks fun session => session.abandonCall number := by
  intro session
  have found : (session.without omission marks).call? number = session.call? number := rfl
  simp only [abandonCall, found]
  split <;> rfl

theorem oblivious_endCancelled (token : Token) (call : Call) :
    Oblivious omission marks fun session =>
      if call.token = some token then session.finish call (.error (.cancelled call.method))
      else session := by
  intro session
  dsimp only
  split <;> rfl

theorem oblivious_failReading (line : LogLine) :
    Oblivious omission marks fun session => session.failReading line := by
  intro session
  have panics : ((session.without omission marks).record (.logged line)).loggerPanics =
      (session.record (.logged line)).loggerPanics := rfl
  simp only [failReading, panics]
  split
  · rfl
  · exact oblivious_stopReader omission marks (session.record (.logged line))

theorem oblivious_resume : Oblivious omission marks resume := by
  intro session
  exact oblivious_noteAll omission marks _ (session.withLine session.outbound.line.resume.2)

theorem oblivious_close : Oblivious omission marks close := by
  intro session
  have closed : (session.without omission marks).isClosed = session.isClosed := rfl
  unfold close
  dsimp only
  rw [closed]
  split
  · rfl
  · exact oblivious_settleCloser omission marks session.withCloser

theorem oblivious_abandonClose (number : Nat) :
    Oblivious omission marks fun session => session.abandonClose number := by
  intro session
  simp only [abandonClose, closer_without]
  split
  · split <;> rfl
  · rfl

end

theorem startCall_without (session : Session) (marks : List Bool) (method : String)
    (params : Params) {terms : CallTerms}
    (foreign : ∀ token ∈ terms.token, omission.owns token = false) :
    (session.without omission marks).startCall method params terms =
      (session.startCall method params terms).without omission marks := by
  have closed : (session.without omission marks).isClosed = session.isClosed := rfl
  have correlator : (session.without omission marks).correlator = session.correlator := rfl
  have number : (session.without omission marks).callCount = session.callCount := rfl
  have cancelled (other : Session) : terms.token.any (other.without omission marks).isCancelled =
      terms.token.any other.isCancelled := by
    cases used : terms.token with
    | none => rfl
    | some token => exact omission.contains_rest other.cancelled (foreign token used)
  unfold startCall
  dsimp only
  rw [closed, correlator, number]
  split
  · rfl
  · split
    · rfl
    · have early := cancelled
        { session with
          callCount := session.callCount + 1
          correlator := session.correlator.nextId.2 }
      simp only [without] at early
      simp only [without, early]
      split
      · rfl
      · exact oblivious_enroll omission marks session.callCount _ terms
          { session with
            callCount := session.callCount + 1
            correlator := session.correlator.nextId.2 }

theorem cancel_without (session : Session) (marks : List Bool) {token : Token}
    (foreign : omission.owns token = false) :
    (session.without omission marks).cancel token =
      (session.cancel token).without omission marks := by
  have rest : omission.rest (token :: session.cancelled) =
      token :: omission.rest session.cancelled := by
    simp [Omission.rest, foreign]
  have folded := Oblivious.foldl (oblivious_endCancelled omission marks token) session.calls
    { session with cancelled := token :: session.cancelled }
  simp only [without, rest] at folded
  exact folded

/-- To cancel a token of the topic's streams ends no call. -/
theorem cancel_without_of_own {token : Token}
    (calls : ∀ call ∈ session.calls, ∀ token ∈ call.token, omission.owns token = false)
    (own : omission.owns token = true) :
    (session.cancel token).without omission marks = session.without omission marks := by
  have spared : session.cancel token =
      { session with cancelled := token :: session.cancelled } := by
    refine foldl_eq_self fun call member => if_neg fun used => ?_
    have foreign := calls call member token used
    rw [own] at foreign
    cases foreign
  rw [spared]
  simp [without, Omission.rest, own]

theorem receive_without (session : Session) (board : session.board.Marked omission.topic marks)
    (incoming : Incoming) :
    (session.without omission marks).receive incoming =
      (session.receive incoming).without omission marks := by
  unfold receive
  rw [reader_without]
  split
  · rfl
  · cases incoming with
    | control => rfl
    | broken => exact oblivious_failReading omission marks readFailed session
    | ended => exact oblivious_stopReader omission marks (session.record (.logged streamEnded))
    | farewell =>
        have stopped := oblivious_stopReader omission marks (session.record (.logged peerClosed))
        have logged : (session.without omission marks).record (.logged peerClosed) =
            (session.record (.logged peerClosed)).without omission marks := rfl
        simp only [logged, stopped, outbound_without]
        rfl
    | data frame =>
        dsimp only
        split
        · exact oblivious_failReading omission marks _ session
        · rfl
        · rename_i notification _
          have posted := Board.post_without board notification
          simp only [without, posted]

/-! ## Subscribers -/

variable {number moved : Nat}

theorem stays_of_moved? (found : moved? marks number = some moved) :
    Stays marks number ∧ moved = rank marks number := by
  unfold moved? at found
  split at found
  · cases found
  · rename_i stays
    exact ⟨stays, (Option.some.inj found).symm⟩

theorem gone_of_moved? (missing : moved? marks number = none) : marks[number]? = some false := by
  unfold moved? at missing
  split at missing
  · assumption
  · cases missing

/-- New mailboxes do not matter to the streams that there are. -/
theorem Fits.without_append (fits : session.Fits omission marks) (board : Board)
    (more : List Bool) :
    { session with board }.without omission (marks ++ more) =
      { session.without omission marks with
        board := board.without omission.topic (marks ++ more) } := by
  simp only [without, EventStream.others_marks_append fits.streams]

theorem subscribe_without (fits : session.Fits omission marks) {topic : String}
    (differs : topic ≠ omission.topic) :
    (session.without omission marks).act (.subscribe topic) =
      (.mailbox ((session.board.subscribe topic).1.map (rank marks)),
        { session with board := (session.board.subscribe topic).2 }.without omission
          (marks ++ Board.handed true (session.board.subscribe topic).1)) := by
  have subscribed := Board.subscribe_without fits.board differs
  have board : (session.without omission marks).board =
      session.board.without omission.topic marks := rfl
  rw [fits.without_append]
  simp only [act, board, subscribed]

theorem moved_readStream (session : Session) (number : Nat) (mailboxes streams : List Bool) :
    (session.readStream number).1.moved mailboxes streams = (session.readStream number).1 := by
  unfold readStream
  split <;> rfl

theorem readStream_without (marks : List Bool)
    (stays : Stays (session.streamMarks omission) number) :
    (session.without omission marks).readStream (rank (session.streamMarks omission) number) =
      ((session.readStream number).1, (session.readStream number).2.without omission marks) := by
  have found := EventStream.getElem?_others stays marks
  have streams : (session.without omission marks).streams =
      EventStream.others omission.topic marks session.streams := rfl
  unfold readStream
  rw [streams]
  cases present : session.streams[number]? with
  | none =>
      rw [present, Option.map_none] at found
      simp only [streamMarks, found]
  | some stream =>
      rw [present, Option.map_some] at found
      have read := EventStream.others_modify EventStream.passes_read stays marks
      rw [← set_eq_modify_of_present present fun stream => stream.read.2,
        ← set_eq_modify_of_present found fun stream => stream.read.2] at read
      have receipt : (stream.without marks).read.1 = stream.read.1 := by
        unfold EventStream.read EventStream.without
        dsimp only
        split <;> rfl
      simp only [streamMarks, found, receipt, without, read]

theorem readStream_without_of_gone (gone : (session.streamMarks omission)[number]? = some false) :
    (session.readStream number).2.without omission marks = session.without omission marks := by
  have unread := EventStream.others_modify_of_gone EventStream.passes_read gone marks
  unfold readStream
  split
  · rfl
  · rename_i stream present
    rw [← set_eq_modify_of_present present fun stream => stream.read.2] at unread
    simp only [without, unread]

theorem openStream_without (fits : session.Fits omission marks) {kind : EventKind}
    (differs : kind.topic ≠ omission.topic) (token : Token) :
    (session.without omission marks).openStream kind token =
      ((session.openStream kind token).1.moved marks (session.streamMarks omission),
        (session.openStream kind token).2.without omission
          (marks ++ Board.handed true (session.board.subscribe kind.topic).1)) := by
  have subscribed := Board.subscribe_without fits.board differs
  have board : (session.without omission marks).board =
      session.board.without omission.topic marks := rfl
  have fresh (number : Nat) (handed : (session.board.subscribe kind.topic).1 = .ok number) :
      number ≤ marks.length :=
    Nat.le_of_eq ((Board.number_of_subscribe handed).trans fits.board.length.symm)
  unfold openStream
  rw [board, subscribed]
  generalize session.board.subscribe kind.topic = result at fresh
  obtain ⟨result, later⟩ := result
  cases result with
  | error failure =>
      rw [fits.without_append]
      rfl
  | ok mailbox =>
      -- The new mailbox is the last, and its own mark does not count for its number.
      have last : rank (marks ++ [true]) mailbox = rank marks mailbox :=
        rank_append (fresh mailbox rfl) _
      have old := EventStream.others_marks_append fits.streams omission.topic [true]
      have length := EventStream.length_others omission.topic marks session.streams
      have opened : EventStream.others omission.topic (marks ++ [true])
          (session.streams ++ [.create kind mailbox token]) =
            EventStream.others omission.topic marks session.streams ++
              [.create kind (rank marks mailbox) token] := by
        rw [← old, ← last]
        simp [EventStream.others, EventStream.create, EventStream.without, bne_iff_ne.mpr differs]
      simp only [without, Board.handed, Except.map, Answer.moved, streamMarks, opened, length]

theorem openStream_without_of_own (fits : session.Fits omission marks) {kind : EventKind}
    (same : kind.topic = omission.topic) (token : Token) :
    (session.openStream kind token).2.without omission
        (marks ++ Board.handed false (session.board.subscribe kind.topic).1) =
      session.without omission marks := by
  have unseen : (session.board.subscribe kind.topic).2.without omission.topic
      (marks ++ Board.handed false (session.board.subscribe kind.topic).1) =
        session.board.without omission.topic marks := by
    rw [same]
    exact Board.subscribe_without_self fits.board
  unfold openStream
  generalize session.board.subscribe kind.topic = result at unseen
  obtain ⟨result, later⟩ := result
  have old := EventStream.others_marks_append fits.streams omission.topic
    (Board.handed false result)
  cases result with
  | error failure => simp only [without, old, unseen]
  | ok mailbox =>
      have dropped : EventStream.others omission.topic (marks ++ Board.handed false (.ok mailbox))
          (session.streams ++ [.create kind mailbox token]) =
            EventStream.others omission.topic marks session.streams := by
        rw [← old]
        simp [EventStream.others, EventStream.create, same]
      simp only [without, dropped, unseen]

/-! ## All steps -/

/-- A step that stays does what it does anyway. -/
theorem act_without (fits : session.Fits omission marks)
    (respects : next.Respects omission)
    {kept : Step} (left : session.left? omission marks next = some kept) :
    (session.without omission marks).act kept =
      ((session.act next).1.moved marks (session.streamMarks omission),
        (session.act next).2.without omission
          (marks ++ session.handed omission next)) := by
  cases next with
  | call method params terms =>
      cases left
      have called := startCall_without session marks method params respects.call
      simp only [act, called, handed, Step.wanted?, List.append_nil, Answer.moved]
      rfl
  | abandonCall number =>
      cases left
      have abandoned := oblivious_abandonCall omission marks number session
      simp only [act, abandoned, handed, Step.wanted?, List.append_nil, Answer.moved]
  | cancel token =>
      simp only [left?] at left
      split at left
      · cases left
      · rename_i other
        cases left
        have cancelled := cancel_without session marks (Bool.eq_false_iff.mpr other)
        simp only [act, cancelled, handed, Step.wanted?, List.append_nil, Answer.moved]
  | receive incoming =>
      cases left
      have received := receive_without session fits.board incoming
      simp only [act, received, handed, Step.wanted?, List.append_nil, Answer.moved]
  | resume =>
      cases left
      have resumed := oblivious_resume omission marks session
      simp only [act, resumed, handed, Step.wanted?, List.append_nil, Answer.moved]
  | vanish =>
      cases left
      have vanished := receive_without (session.withLine session.outbound.line.vanish)
        fits.board .broken
      simp only [act, handed, Step.wanted?, List.append_nil, Answer.moved]
      exact Prod.ext rfl vanished
  | subscribe topic =>
      simp only [left?] at left
      split at left
      · cases left
      · rename_i differs
        cases left
        rw [subscribe_without fits differs]
        simp only [act, handed, Step.wanted?, Answer.moved, bne_iff_ne.mpr differs]
  | unsubscribe topic =>
      simp only [left?] at left
      split at left
      · cases left
      · cases left
        have given := session.board.unsubscribe_without omission.topic topic marks
        simp only [act, without, given, handed, Step.wanted?, List.append_nil, Answer.moved]
  | readMailbox mailbox =>
      obtain ⟨moved, found, rfl⟩ := Option.map_eq_some_iff.mp left
      obtain ⟨stays, rfl⟩ := stays_of_moved? found
      have read := Board.read_without fits.board stays
      simp only [act, without, read, handed, Step.wanted?, List.append_nil, Answer.moved]
  | abandonMailbox mailbox =>
      obtain ⟨moved, found, rfl⟩ := Option.map_eq_some_iff.mp left
      obtain ⟨stays, rfl⟩ := stays_of_moved? found
      have abandoned := session.board.abandon_without omission.topic stays
      simp only [act, without, abandoned, handed, Step.wanted?, List.append_nil, Answer.moved]
  | openStream kind token =>
      simp only [left?] at left
      split at left
      · cases left
      · rename_i differs
        cases left
        have opened := openStream_without fits differs token
        simp only [act, opened, handed, Step.wanted?, bne_iff_ne.mpr differs]
  | readStream stream =>
      obtain ⟨moved, found, rfl⟩ := Option.map_eq_some_iff.mp left
      obtain ⟨stays, rfl⟩ := stays_of_moved? found
      have read := readStream_without marks stays
      simp only [act, read, handed, Step.wanted?, List.append_nil, moved_readStream]
  | abandonStream stream =>
      obtain ⟨moved, found, rfl⟩ := Option.map_eq_some_iff.mp left
      obtain ⟨stays, rfl⟩ := stays_of_moved? found
      have abandoned := EventStream.others_modify EventStream.passes_abandon stays marks
      simp only [act, without, streamMarks, abandoned, handed, Step.wanted?, List.append_nil,
        Answer.moved]
  | close =>
      cases left
      have closed := oblivious_close omission marks session
      simp only [act, closed, handed, Step.wanted?, List.append_nil, Answer.moved]
      rfl
  | abandonClose number =>
      cases left
      have abandoned := oblivious_abandonClose omission marks number session
      simp only [act, abandoned, handed, Step.wanted?, List.append_nil, Answer.moved]
  | setCallTimeout | advance | pause | release | linger =>
      cases left
      simp only [act, handed, Step.wanted?, List.append_nil, Answer.moved]
      rfl

/-- Nobody else sees a step of a subscriber of the topic. -/
theorem act_without_of_gone (fits : session.Fits omission marks)
    (gone : session.left? omission marks next = none) :
    (session.act next).2.without omission (marks ++ session.handed omission next) =
      session.without omission marks := by
  cases next with
  | cancel token =>
      simp only [left?] at gone
      split at gone
      · rename_i own
        simp only [act, handed, Step.wanted?, List.append_nil]
        exact cancel_without_of_own fits.calls own
      · cases gone
  | subscribe topic =>
      simp only [left?] at gone
      split at gone
      · rename_i same
        subst same
        have unseen := Board.subscribe_without_self fits.board
        simp only [act, handed, Step.wanted?, bne_self_eq_false]
        rw [fits.without_append, unseen]
        rfl
      · cases gone
  | unsubscribe topic =>
      simp only [left?] at gone
      split at gone
      · rename_i same
        subst same
        have unseen := session.board.unsubscribe_without_self omission.topic marks
        simp only [act, without, unseen, handed, Step.wanted?, List.append_nil]
      · cases gone
  | readMailbox mailbox =>
      have taken := gone_of_moved? (Option.map_eq_none_iff.mp gone)
      have unseen := session.board.read_without_of_gone omission.topic taken
      simp only [act, without, unseen, handed, Step.wanted?, List.append_nil]
  | abandonMailbox mailbox =>
      have taken := gone_of_moved? (Option.map_eq_none_iff.mp gone)
      have unseen := session.board.abandon_without_of_gone omission.topic taken
      simp only [act, without, unseen, handed, Step.wanted?, List.append_nil]
  | openStream kind token =>
      simp only [left?] at gone
      split at gone
      · rename_i same
        simp only [act, handed, Step.wanted?]
        rw [same, bne_self_eq_false, ← same]
        exact openStream_without_of_own fits same token
      · cases gone
  | readStream stream =>
      have taken := gone_of_moved? (Option.map_eq_none_iff.mp gone)
      simp only [act, handed, Step.wanted?, List.append_nil]
      exact readStream_without_of_gone taken
  | abandonStream stream =>
      have taken := gone_of_moved? (Option.map_eq_none_iff.mp gone)
      have unseen := EventStream.others_modify_of_gone EventStream.passes_abandon taken marks
      simp only [act, without, unseen, handed, Step.wanted?, List.append_nil]
  | _ => cases gone

end Session

end ServerManagement
