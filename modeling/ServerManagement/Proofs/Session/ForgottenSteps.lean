import ServerManagement.Proofs.Session.CallCourse
import ServerManagement.Proofs.Session.ForgottenCall
import ServerManagement.Proofs.Session.History
import ServerManagement.Proofs.Session.PendingTable

/-!
The steps of a session in which one call is forgotten. Every step does and answers the same with and
without the call, but to give the call up is not seen.
-/

set_option autoImplicit false

namespace ServerManagement

namespace Session

def Step.uses (token : Token) : Step → Bool
  | .call _ _ terms => terms.token == some token
  | .openStream _ other => other == token
  | _ => false

variable {session : Session} {call : Call} {own : Option Token} {next : Step}

/-! ## Calls that start -/

theorem Forgettable.enroll (forgettable : session.Forgettable call own) {number : Nat}
    {request : Request} {terms : CallTerms} (numbered : number ≠ call.number)
    (identified : request.id ≠ call.id)
    (unlisted : session.correlator.entries.find? request.id = none)
    (foreign : ∀ token ∈ own, terms.token ≠ some token) :
    (session.enroll number request terms).Forgettable call own ∧
      (session.enroll number request terms).forget call own =
        (session.forget call own).enroll number request terms := by
  have registered := Correlator.register_of_unlisted unlisted
  have alike := Correlator.register_forget forgettable.placed identified unlisted
  have pairs := forgettable.pairs.register forgettable.placed identified
  rw [registered] at alike pairs
  simp only [Session.enroll, correlator_forget, alike, registered]
  refine ⟨⟨?_, forgettable.counted, forgettable.drawn, ?_, pairs, ?_, forgettable.streams⟩, ?_⟩
  · rw [isWaiting_post, forgettable.queued]
    simpa using numbered
  · rw [List.length_append]
    exact Nat.lt_add_right _ forgettable.placed
  · intro other member
    rcases List.mem_append.mp member with old | new
    · exact forgettable.others other old
    · rw [List.mem_singleton.mp new]
      exact .inr ⟨numbered, identified, Ne.symm (Nat.ne_of_lt forgettable.placed), foreign⟩
  · simp [forget, numbered]
    rfl

theorem Forgettable.startCall (forgettable : session.Forgettable call own) (sound : session.Sound)
    (few : session.callCount + 1 < 2 ^ 64) (method : String) (params : Params) {terms : CallTerms}
    (foreign : ∀ token ∈ own, terms.token ≠ some token) :
    (session.startCall method params terms).Forgettable call own ∧
      (session.startCall method params terms).forget call own =
        (session.forget call own).startCall method params terms := by
  have numbered : session.callCount ≠ call.number := Ne.symm (Nat.ne_of_lt forgettable.counted)
  have next := UInt64.lt_of_le_of_lt forgettable.drawn (sound.accounts.lt_nextId few)
  have turnsAway (result : Except Failure Response) :
      Occurrence.isBeside call.number (.ended session.callCount result) = true := by
    simp [Occurrence.isBeside, Occurrence.outcome?, numbered]
  have counted : { session with callCount := session.callCount + 1 }.Forgettable call own :=
    { forgettable with counted := Nat.lt_succ_of_lt forgettable.counted }
  have drawn : session.withDrawn.Forgettable call own :=
    { counted with drawn := UInt64.le_of_lt next }
  have cancelled : terms.token.any (session.forget call own).isCancelled =
      terms.token.any session.isCancelled := by
    cases used : terms.token with
    | none => rfl
    | some token =>
        exact session.contains_forget call fun owned own same => foreign owned own (same ▸ used)
  cases opened : session.isClosed with
  | true =>
      have openedToo : (session.forget call own).isClosed = true := opened
      rw [startCall_of_closed opened, startCall_of_closed openedToo]
      exact overlooks_record _ (turnsAway _) _ counted
  | false =>
      have openedToo : (session.forget call own).isClosed = false := opened
      rw [startCall_of_open opened, startCall_of_open openedToo, correlator_forget,
        Correlator.nextId_forget, cancelled]
      cases created : Request.create session.correlator.nextId.1 method params with
      | error failure => exact overlooks_record _ (turnsAway _) _ drawn
      | ok request =>
          have id := (Request.id_of_create created).1
          have identified : request.id ≠ call.id := id ▸ Ne.symm (UInt64.ne_of_lt next)
          have unlisted := sound.accounts.find?_nextId few
          rw [← id] at unlisted
          dsimp only
          split
          · exact overlooks_record _ (turnsAway _) _ drawn
          · exact drawn.enroll numbered identified unlisted foreign

/-! ## Calls that are given up -/

theorem overlooks_abandonCall (number : Nat) :
    Overlooks call own fun session => session.abandonCall number :=
  overlooks_call? number (fun _ apart => overlooks_dismiss apart) (hidden_dismiss call own)

theorem overlooks_cancellation (token : Token) {other : Call} (apart : call.Apart own other) :
    Overlooks call own fun session =>
      match cancellation token other with
      | some result => session.finish other result
      | none => session :=
  overlooks_verdict apart fun _ _ => rfl

theorem cancel_eq (session : Session) (token : Token) :
    session.cancel token =
      session.calls.foldl (fun session call =>
        match cancellation token call with
        | some result => session.finish call result
        | none => session) { session with cancelled := token :: session.cancelled } := by
  have same : (fun (session : Session) (call : Call) =>
      if call.token = some token then session.finish call (.error (.cancelled call.method))
      else session) = fun session call =>
        match cancellation token call with
        | some result => session.finish call result
        | none => session := by
    funext session call
    unfold cancellation
    split <;> rfl
  rw [← same]
  rfl

theorem Forgettable.cancel_pass (forgettable : session.Forgettable call own) (token : Token) :
    (session.cancel token).Forgettable call own ∧
      (session.cancel token).forget call own =
        (session.calls.filter fun other => other.number ≠ call.number).foldl
          (fun session call =>
            match cancellation token call with
            | some result => session.finish call result
            | none => session)
          ({ session with cancelled := token :: session.cancelled }.forget call own) := by
  have noted : { session with cancelled := token :: session.cancelled }.Forgettable call own :=
    { forgettable with }
  rw [cancel_eq]
  exact noted.pass _ (fun other apart => overlooks_cancellation token apart)
    (hidden_verdict call own fun _ => cancellation token call) forgettable.others

theorem Forgettable.cancel (forgettable : session.Forgettable call own) {token : Token}
    (foreign : own ≠ some token) :
    (session.cancel token).Forgettable call own ∧
      (session.cancel token).forget call own = (session.forget call own).cancel token := by
  obtain ⟨kept, same⟩ := forgettable.cancel_pass token
  refine ⟨kept, same.trans ?_⟩
  rw [cancel_eq]
  simp [forget, foreign]

/-- To cancel the call's own token is not seen. -/
theorem Forgettable.cancel_own (forgettable : session.Forgettable call own) {token : Token}
    (owned : own = some token) :
    (session.cancel token).Forgettable call own ∧
      (session.cancel token).forget call own = session.forget call own := by
  obtain ⟨kept, same⟩ := forgettable.cancel_pass token
  refine ⟨kept, same.trans ?_⟩
  have spared : { session with cancelled := token :: session.cancelled }.forget call own =
      session.forget call own := by
    simp [forget, owned]
  rw [spared]
  refine foldl_eq_self fun other member => ?_
  obtain ⟨before, differs⟩ := List.mem_filter.mp member
  rcases forgettable.others other before with rfl | apart
  · simp at differs
  · have unused := apart.token token owned
    simp [cancellation, unused]

/-! ## What comes in -/

theorem overlooks_failReading (line : LogLine) :
    Overlooks call own fun session => session.failReading line := by
  intro session forgettable
  have crashed : Overlooks call own fun other => { other with reader := .crashed } :=
    fun _ forgettable => ⟨{ forgettable with }, rfl⟩
  have panics : ((session.forget call own).record (.logged line)).loggerPanics =
      (session.record (.logged line)).loggerPanics := rfl
  unfold failReading
  dsimp only
  rw [panics]
  split
  · exact (crashed.comp (overlooks_record _ rfl)) session forgettable
  · exact (overlooks_stopReader.comp (overlooks_record _ rfl)) session forgettable

theorem overlooks_receive (incoming : Incoming) :
    Overlooks call own fun session => session.receive incoming := by
  intro session forgettable
  dsimp only
  unfold receive
  rw [reader_forget]
  split
  · exact ⟨forgettable, rfl⟩
  · cases incoming with
    | control => exact ⟨forgettable, rfl⟩
    | broken => exact overlooks_failReading readFailed session forgettable
    | ended => exact (overlooks_stopReader.comp (overlooks_record _ rfl)) session forgettable
    | farewell =>
        have closes : Overlooks call own fun other =>
            other.withLine { other.outbound.line with isClosing := true } :=
          fun _ forgettable => ⟨{ forgettable with }, rfl⟩
        exact (closes.comp (overlooks_stopReader.comp (overlooks_record _ rfl))) session forgettable
    | data frame =>
        dsimp only
        split
        · exact overlooks_failReading _ session forgettable
        · rename_i response _
          refine ⟨{ forgettable with drawn := ?_, placed := ?_, pairs := ?_ }, ?_⟩
          · rw [lastId_resolve]
            exact forgettable.drawn
          · rw [Correlator.length_resolve]
            exact forgettable.placed
          · exact forgettable.pairs.resolve response
          · have alike := Correlator.resolve_forget forgettable.pairs response
            simp only [correlator_forget, alike]
            rfl
        · exact ⟨{ forgettable with }, rfl⟩

/-! ## All steps -/

theorem overlooks_withLine (line : Line) :
    Overlooks call own fun session => session.withLine line :=
  fun _ forgettable => ⟨{ forgettable with }, rfl⟩

theorem overlooks_resume : Overlooks call own resume := by
  intro session forgettable
  exact ((overlooks_noteAll (session.outbound.line.resume.1.map .arrived)).comp
    (overlooks_withLine session.outbound.line.resume.2)) session forgettable

theorem overlooks_close : Overlooks call own close := by
  intro session forgettable
  cases closed : session.isClosed with
  | true =>
      have closedToo : (session.forget call own).isClosed = true := closed
      have counted : { session with closerCount := session.closerCount + 1 }.Forgettable call own :=
        { forgettable with }
      have answered := overlooks_record (.closed session.closerCount (.ok ())) rfl _ counted
      rw [close_of_closed closed, close_of_closed closedToo]
      exact answered
  | false =>
      have openedToo : (session.forget call own).isClosed = false := closed
      have waits : session.withCloser.Forgettable call own := { forgettable with }
      rw [close_eq closed, close_eq openedToo]
      exact overlooks_settleCloser _ waits

theorem overlooks_abandonClose (number : Nat) :
    Overlooks call own fun session => session.abandonClose number := by
  intro session forgettable
  simp only [abandonClose, closer_forget]
  split
  · split
    · exact ⟨{ forgettable with }, rfl⟩
    · exact ⟨forgettable, rfl⟩
  · exact ⟨forgettable, rfl⟩

theorem Forgettable.openStream (forgettable : session.Forgettable call own) {kind : EventKind}
    {token : Token} (foreign : ∀ owned ∈ own, token ≠ owned) :
    (session.openStream kind token).2.Forgettable call own ∧
      (session.forget call own).openStream kind token =
        ((session.openStream kind token).1, (session.openStream kind token).2.forget call own) := by
  unfold Session.openStream
  rw [board_forget]
  generalize session.board.subscribe kind.topic = subscribed
  obtain ⟨result, board⟩ := subscribed
  cases result with
  | error failure => exact ⟨{ forgettable with }, rfl⟩
  | ok mailbox =>
      refine ⟨{ forgettable with streams := ?_ }, rfl⟩
      intro stream member
      rcases List.mem_append.mp member with old | new
      · exact forgettable.streams stream old
      · rw [List.mem_singleton.mp new]
        exact foreign

/-- To change how far a stream is read gives it no other token. -/
theorem Forgettable.modifyStream (forgettable : session.Forgettable call own) (number : Nat)
    {change : EventStream → EventStream}
    (same : ∀ stream, (change stream).token = stream.token) :
    { session with streams := session.streams.modify number change }.Forgettable call own := by
  refine { forgettable with streams := ?_ }
  intro stream member
  obtain ⟨place, here⟩ := List.getElem?_of_mem member
  rw [List.getElem?_modify, Option.map_eq_map, Option.map_eq_some_iff] at here
  obtain ⟨before, present, rfl⟩ := here
  have old := forgettable.streams before (List.mem_of_getElem? present)
  split
  · exact (same before).symm ▸ old
  · exact old

theorem Forgettable.readStream (forgettable : session.Forgettable call own) (number : Nat) :
    (session.readStream number).2.Forgettable call own ∧
      (session.forget call own).readStream number =
        ((session.readStream number).1, (session.readStream number).2.forget call own) := by
  have token (stream : EventStream) : stream.read.2.token = stream.token := by
    unfold EventStream.read
    split <;> rfl
  have read := forgettable.modifyStream number token
  unfold Session.readStream
  rw [streams_forget]
  cases present : session.streams[number]? with
  | none => exact ⟨forgettable, rfl⟩
  | some stream =>
      rw [← set_eq_modify_of_present present fun stream => stream.read.2] at read
      exact ⟨read, rfl⟩

theorem Forgettable.answered {later other : Session} (answer : Answer)
    (moved : later.Forgettable call own ∧ later.forget call own = other) :
    later.Forgettable call own ∧ (answer, other) = (answer, later.forget call own) :=
  ⟨moved.1, by rw [moved.2]⟩

theorem Forgettable.act (forgettable : session.Forgettable call own) (sound : session.Sound)
    (few : (session.step next).2.callCount < 2 ^ 64)
    (unused : ∀ token ∈ own, next.uses token = false) (uncancelled : next.cancels own = false) :
    (session.act next).2.Forgettable call own ∧
      (session.forget call own).act next =
        ((session.act next).1, (session.act next).2.forget call own) := by
  cases next with
  | call method params terms =>
      have unused : ∀ token ∈ own, terms.token ≠ some token := by
        intro token owned used
        have free := unused token owned
        simp [Step.uses, used] at free
      have counted := session.callCount_startCall method params terms
      have room : session.callCount + 1 < 2 ^ 64 := by
        rw [callCount_step] at few
        exact counted ▸ few
      exact answered _ (forgettable.startCall sound room method params unused)
  | abandonCall number => exact answered _ (overlooks_abandonCall number session forgettable)
  | cancel token =>
      have other : own ≠ some token := by simpa [Step.cancels] using uncancelled
      exact answered _ (forgettable.cancel other)
  | receive incoming => exact answered _ (overlooks_receive incoming session forgettable)
  | pause => exact ⟨{ forgettable with }, rfl⟩
  | resume => exact answered _ (overlooks_resume session forgettable)
  | vanish =>
      exact answered _ (((overlooks_receive .broken).comp
        (overlooks_withLine session.outbound.line.vanish)) session forgettable)
  | openStream kind token =>
      have unused : ∀ owned ∈ own, token ≠ owned := by
        intro owned here same
        have free := unused owned here
        simp [Step.uses, same] at free
      exact forgettable.openStream unused
  | readStream number => exact forgettable.readStream number
  | abandonStream number => exact ⟨forgettable.modifyStream number fun _ => rfl, rfl⟩
  | close => exact answered _ (overlooks_close session forgettable)
  | abandonClose number => exact answered _ (overlooks_abandonClose number session forgettable)
  | setCallTimeout | advance | subscribe | unsubscribe | readMailbox | abandonMailbox | release
  | linger =>
      exact ⟨{ forgettable with }, rfl⟩

end Session

end ServerManagement
