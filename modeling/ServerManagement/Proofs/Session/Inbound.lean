import ServerManagement.Proofs.Session.UnmatchedResponses

/-!
What a message from the peer makes of a session. A response ends the one call that waits for it, or
is kept until the letter of that call is admitted; a notification goes to the subscriber of its
topic; whatever else comes in leaves the session as it is.
-/

set_option autoImplicit false

namespace ServerManagement

namespace Board

/-- A notification has been handed to the subscriber of its topic, at most once, and to nobody
else. -/
structure Posted (board : Board) (notification : Notification) (later : Board) : Prop where
  topics : ∀ topic, topic ≠ notification.method →
    later.topics.find? topic = board.topics.find? topic
  others : ∀ number, board.topics.find? notification.method ≠ some number →
    later.mailbox number = board.mailbox number
  own : ∀ number, board.topics.find? notification.method = some number →
    (later.mailbox number).unread = (board.mailbox number).unread ++
      if (board.mailbox number).isAbandoned ∨
          board.capacity ≤ (board.mailbox number).unread.length then []
      else [notification]

theorem mailbox_set (board : Board) (number other : Nat) (box : Mailbox)
    (present : number < board.mailboxes.length) :
    ({ board with mailboxes := board.mailboxes.set number box } : Board).mailbox other =
      if other = number then box else board.mailbox other := by
  simp only [mailbox, List.getD_eq_getElem?_getD, List.getElem?_set]
  by_cases same : other = number
  · subst same
    simp [present]
  · simp [same, Ne.symm same]

theorem posted_post {board : Board} (opened : board.isClosed = false)
    (notification : Notification) :
    board.Posted notification (board.post notification).2 := by
  have up : ¬board.isClosed = true := Bool.eq_false_iff.mp opened
  unfold post
  rw [if_neg up]
  split
  · rename_i nobody
    refine ⟨fun _ _ => rfl, fun _ _ => rfl, fun number found => ?_⟩
    rw [nobody] at found
    cases found
  · rename_i number found
    have same {other : Nat} (foundToo : board.topics.find? notification.method = some other) :
        number = other := Option.some.inj (found.symm.trans foundToo)
    dsimp only
    split
    · rename_i left
      refine ⟨fun topic differs => ?_, fun _ _ => rfl, fun other foundToo => ?_⟩
      · exact Directory.find?_erase_of_ne _ differs
      · obtain rfl := same foundToo
        rw [if_pos (.inl left), List.append_nil]
        rfl
    · rename_i stays
      split
      · rename_i full
        refine ⟨fun _ _ => rfl, fun _ _ => rfl, fun other foundToo => ?_⟩
        obtain rfl := same foundToo
        rw [if_pos (.inr full), List.append_nil]
      · rename_i room
        have present : number < board.mailboxes.length := by
          refine Nat.lt_of_not_le fun beyond => stays ?_
          simp [mailbox, List.getD_eq_getElem?_getD, List.getElem?_eq_none beyond, Mailbox.missing]
        refine ⟨fun _ _ => rfl, fun other elsewhere => ?_, fun other foundToo => ?_⟩
        · rw [mailbox_set _ _ _ _ present, if_neg]
          rintro rfl
          exact elsewhere found
        · obtain rfl := same foundToo
          rw [mailbox_set _ _ _ _ present, if_pos rfl, if_neg]
          rintro (left | full)
          · exact stays left
          · exact room full

end Board

namespace Session

/-- What dealing with a message makes of a session in which nothing else can move. -/
inductive Handles (session : Session) : Inbound → Session → Prop
  | overlooks (response : Response)
      (unlisted : ∀ id, response.id = some id → id ∉ session.correlator.entries.keys) :
      Handles session (.response response) session
  | keeps (response : Response) (call : Call) (member : call ∈ session.calls)
      (own : response.id = some call.id)
      (listed : call.id ∈ session.correlator.entries.keys)
      (waits : session.outbound.isWaiting call.number = true) :
      Handles session (.response response)
        { session with
          correlator.entries := session.correlator.entries.erase call.id
          correlator.slots := session.correlator.slots.set call.ticket (.answered response) }
  | ends (response : Response) (call : Call) (member : call ∈ session.calls)
      (own : response.id = some call.id)
      (listed : call.id ∈ session.correlator.entries.keys)
      (admitted : session.outbound.isWaiting call.number = false) :
      Handles session (.response response) (session.finish call (.ok response))
  | posts (notification : Notification)
      (posted : session.board.Posted notification (session.board.post notification).2) :
      Handles session (.notification notification)
        { session with board := (session.board.post notification).2 }.settleStreams

variable {session : Session} {call : Call} {result : Except Failure Response}
  {response : Response} {frame : Json.Bytes} {inbound : Inbound}

/-- A pass over items only one of which does anything. -/
theorem foldl_eq_once {α : Type} {move : Session → α → Session} {items : List α} {item : α}
    (member : item ∈ items) (once : items.Nodup)
    (before : ∀ other ∈ items, other ≠ item → move session other = session)
    (after : ∀ other ∈ items, other ≠ item → move (move session item) other = move session item) :
    items.foldl move session = move session item := by
  obtain ⟨earlier, rest, rfl⟩ := List.append_of_mem member
  obtain ⟨_, following, apart⟩ := List.nodup_append.mp once
  have first : earlier.foldl move session = session := by
    refine foldl_eq_self fun other among => before other (List.mem_append_left _ among) ?_
    exact apart other among item (List.mem_cons_self ..)
  rw [List.foldl_append, first, List.foldl_cons]
  refine foldl_eq_self fun other among => after other ?_ ?_
  · exact List.mem_append_right _ (List.mem_cons_of_mem _ among)
  · rintro rfl
    exact (List.nodup_cons.mp following).1 among

theorem settleCalls_of_one (sound : session.Sound) (member : call ∈ session.calls)
    (due : session.answer call = some result)
    (others : ∀ other ∈ session.calls, other ≠ call → session.answer other = none)
    (early : ∀ other ∈ session.calls, session.lateness other = none) :
    session.settleCalls = session.finish call result := by
  have collects : session.collect call = session.finish call result := by rw [collect_eq, due]
  have collected : session.calls.foldl collect session = session.finish call result := by
    have once : session.calls.Nodup := sound.accounts.numbered.imp fun lower same =>
      Nat.ne_of_lt lower (congrArg Call.number same)
    refine (foldl_eq_once member once ?_ ?_).trans collects
    · intro other among differs
      rw [collect_eq, others other among differs]
    · intro other among differs
      have apart : other.number ≠ call.number := fun same =>
        differs (sound.accounts.eq_of_number among member same)
      have kept := Keeps.finish sound member among apart result
      have unanswered : (session.finish call result).answer other = none := by
        simp only [answer, kept.waiting, kept.slot]
        exact others other among differs
      rw [collects, collect_eq, unanswered]
  simp only [settleCalls, collected]
  refine foldl_eq_self fun other among => ?_
  have still : (session.finish call result).lateness other = none :=
    early other (List.mem_filter.mp among).1
  rw [expire_eq, still]

def withReply (session : Session) (response : Response) : Session :=
  { session with correlator := (session.correlator.resolve response).2 }

theorem Sound.withReply (sound : session.Sound) (response : Response) :
    (session.withReply response).Sound :=
  ⟨sound.accounts.resolve response, sound.queuing, sound.waiters, sound.fresh⟩

theorem Still.tasks_withReply (still : session.Still) (response : Response) :
    (session.withReply response).TasksRest :=
  ⟨⟨still.outbound, still.reader⟩, still.closer, still.closing⟩

theorem answer_withReply (sound : session.Sound) (member : call ∈ session.calls)
    (own : response.id = some call.id) (awaiting : session.correlator.slot call.ticket = .awaiting)
    {other : Call} (among : other ∈ session.calls) :
    (session.withReply response).answer other =
      if other = call then
        if session.outbound.isWaiting call.number then none else some (.ok response)
      else session.answer other := by
  have slot := sound.accounts.slot_resolve own among
  simp only [answer, withReply, slot]
  by_cases same : other = call
  · subst same
    simp only [awaiting, and_self, if_true]
  · have differs : ¬(other.id = call.id ∧ session.correlator.slot other.ticket = .awaiting) :=
      fun equal => same (sound.accounts.eq_of_id among member equal.1)
    rw [if_neg differs, if_neg same]

/-- A response to a call that waits for it: nothing else goes on in the session. -/
theorem Still.handles_response (still : session.Still) (sound : session.Sound)
    (member : call ∈ session.calls) (own : response.id = some call.id)
    (listed : call.id ∈ session.correlator.entries.keys) :
    Handles session (.response response) (session.withReply response).settle := by
  obtain ⟨ticket, found⟩ := (Directory.mem_keys_iff ..).mp listed
  obtain rfl := sound.accounts.ticket_of_listed member found
  have awaiting := (sound.accounts.find?_eq_some_iff member).mp found
  have rest := still.tasks_withReply response
  have early (other : Call) (among : other ∈ session.calls) :
      (session.withReply response).lateness other = none := (still.calls other among).2
  have others (other : Call) (among : other ∈ session.calls) (differs : other ≠ call) :
      (session.withReply response).answer other = none := by
    rw [answer_withReply sound member own awaiting among, if_neg differs]
    exact (still.calls other among).1
  have due := answer_withReply sound member own awaiting member
  rw [if_pos rfl] at due
  cases waits : session.outbound.isWaiting call.number with
  | true =>
      rw [waits, if_pos rfl] at due
      have calls : (session.withReply response).CallsRest := by
        intro other among
        by_cases same : other = call
        · exact ⟨same ▸ due, early other among⟩
        · exact ⟨others other among same, early other among⟩
      have called := calls.settleCalls_eq
      have streams : (session.withReply response).settleStreams = session.withReply response :=
        settleStreams_of_rests still.streams
      rw [rest.settle_eq (called.symm ▸ rest), called, streams, withReply,
        Correlator.resolve_of_awaiting own found awaiting]
      exact .keeps response call member own listed waits
  | false =>
      rw [waits, if_neg Bool.false_ne_true] at due
      have called := settleCalls_of_one (sound.withReply response) member due others early
      have finished : (session.withReply response).finish call (.ok response) =
          session.finish call (.ok response) := by
        simp only [withReply, finish, dismiss, record,
          Correlator.remove_abandon_resolve own found awaiting]
      have streams : (session.finish call (.ok response)).settleStreams =
          session.finish call (.ok response) := settleStreams_of_rests still.streams
      rw [rest.settle_eq (called.symm ▸ rest.finish call _), called, finished, streams]
      exact .ends response call member own listed waits

theorem receive_of_decoded (running : session.reader = .running)
    (decoded : decodeFrame frame = .ok inbound) :
    session.receive (.data frame) =
      match inbound with
      | .response response => session.withReply response
      | .notification notification =>
        { session with board := (session.board.post notification).2 } := by
  unfold receive
  rw [if_neg fun gone => gone running]
  cases inbound <;> simp only [decoded, withReply]

theorem Still.handles (still : session.Still) (sound : session.Sound)
    (running : session.reader = .running) (opened : session.board.isClosed = false)
    (decoded : decodeFrame frame = .ok inbound) :
    Handles session inbound (session.step (.receive (.data frame))).2 := by
  rw [step_eq_settle]
  change Handles session inbound (session.receive (.data frame)).settle
  rw [receive_of_decoded running decoded]
  cases inbound with
  | response response =>
      by_cases unlisted : ∀ id, response.id = some id → id ∉ session.correlator.entries.keys
      · have same : session.withReply response = session := by
          rw [withReply, resolve_of_unmatched unlisted]
        dsimp only
        rw [same, still.settle_eq]
        exact .overlooks response unlisted
      · simp only [Classical.not_forall, Classical.not_not] at unlisted
        obtain ⟨id, own, listed⟩ := unlisted
        obtain ⟨ticket, found⟩ := (Directory.mem_keys_iff ..).mp listed
        obtain ⟨call, member, rfl, _⟩ := (sound.accounts.listed _ _).mp found
        exact still.handles_response sound member own listed
  | notification notification =>
      have rest : ({ session with board := (session.board.post notification).2 } :
          Session).TasksRest := ⟨⟨still.outbound, still.reader⟩, still.closer, still.closing⟩
      have called : ({ session with board := (session.board.post notification).2 } :
          Session).settleCalls = { session with board := (session.board.post notification).2 } :=
        CallsRest.settleCalls_eq still.calls
      dsimp only
      rw [rest.settle_eq (called.symm ▸ rest), called]
      exact .posts notification (Board.posted_post opened notification)

/-- What comes in and carries no message does nothing, and after the reader has ended nothing that
comes in does. -/
theorem Still.step_receive_eq (still : session.Still) {incoming : Incoming}
    (idle : incoming = .control ∨ session.reader ≠ .running) :
    session.step (.receive incoming) = (.done, session) := by
  have unchanged : session.receive incoming = session := by
    unfold receive
    split
    · rfl
    · rename_i running
      rcases idle with rfl | gone
      · rfl
      · exact absurd gone running
  exact Prod.ext rfl (still.step_eq unchanged)

end Session

end ServerManagement
