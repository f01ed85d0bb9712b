import ServerManagement.Proofs.Correlation.ForgottenEntry
import ServerManagement.Proofs.Session.Stillness

/-!
Sessions in which one call is forgotten after its letter has entered the queue. Settling does the
same with and without the call; only the end of the call itself is not seen.
-/

set_option autoImplicit false

namespace ServerManagement

structure Call.Apart (call : Call) (own : Option Token) (other : Call) : Prop where
  number : other.number ≠ call.number
  id : other.id ≠ call.id
  ticket : other.ticket ≠ call.ticket
  token : ∀ token ∈ own, other.token ≠ some token

def Occurrence.isBeside (call : Nat) (occurrence : Occurrence) : Bool :=
  (occurrence.outcome? call).isNone

namespace Session

/-- The session without a call, its entry in the table, its end and the cancellation of a token that
it owns. -/
def forget (session : Session) (call : Call) (own : Option Token) : Session :=
  { session with
    calls := session.calls.filter fun other => other.number ≠ call.number
    correlator := session.correlator.forget call.id call.ticket
    cancelled := session.cancelled.filter fun token => own ≠ some token
    history := session.history.filter (Occurrence.isBeside call.number) }

structure Forgettable (call : Call) (own : Option Token) (session : Session) : Prop where
  queued : session.outbound.isWaiting call.number = false
  counted : call.number < session.callCount
  drawn : call.id ≤ session.correlator.lastId
  placed : call.ticket < session.correlator.slots.length
  pairs : session.correlator.Pairs call.id call.ticket
  others : ∀ other ∈ session.calls, other = call ∨ call.Apart own other
  streams : ∀ stream ∈ session.streams, ∀ token ∈ own, stream.token ≠ token

def Overlooks (call : Call) (own : Option Token) (move : Session → Session) : Prop :=
  ∀ session : Session, session.Forgettable call own →
    (move session).Forgettable call own ∧
      (move session).forget call own = move (session.forget call own)

def Hidden (call : Call) (own : Option Token) (move : Session → Session) : Prop :=
  ∀ session : Session, session.Forgettable call own →
    (move session).Forgettable call own ∧ (move session).forget call own = session.forget call own

variable {session : Session} {call other : Call} {own : Option Token}
  {first second move : Session → Session}

@[simp] theorem outbound_forget : (session.forget call own).outbound = session.outbound := rfl

@[simp] theorem reader_forget : (session.forget call own).reader = session.reader := rfl

@[simp] theorem closer_forget : (session.forget call own).closer = session.closer := rfl

@[simp] theorem now_forget : (session.forget call own).now = session.now := rfl

@[simp] theorem board_forget : (session.forget call own).board = session.board := rfl

@[simp] theorem streams_forget : (session.forget call own).streams = session.streams := rfl

@[simp] theorem calls_forget : (session.forget call own).calls =
    session.calls.filter fun other => other.number ≠ call.number := rfl

@[simp] theorem correlator_forget : (session.forget call own).correlator =
    session.correlator.forget call.id call.ticket := rfl

/-! ## Composition -/

theorem Overlooks.id (call : Call) (own : Option Token) :
    Overlooks call own fun session => session :=
  fun _ forgettable => ⟨forgettable, rfl⟩

theorem Overlooks.comp (after : Overlooks call own second) (before : Overlooks call own first) :
    Overlooks call own fun session => second (first session) := by
  intro session forgettable
  obtain ⟨kept, same⟩ := before session forgettable
  obtain ⟨keptToo, sameToo⟩ := after _ kept
  exact ⟨keptToo, sameToo.trans (congrArg second same)⟩

theorem Overlooks.foldl {α : Type} {move : Session → α → Session}
    (overlooks : ∀ item, Overlooks call own fun session => move session item) (items : List α) :
    Overlooks call own fun session => items.foldl move session := by
  induction items with
  | nil => exact .id call own
  | cons item items ih => exact ih.comp (overlooks item)

/-- A pass over calls passes by the call that is forgotten. -/
theorem Forgettable.pass (move : Session → Call → Session)
    (beside : ∀ other, call.Apart own other → Overlooks call own fun session => move session other)
    (here : Hidden call own fun session => move session call)
    (forgettable : session.Forgettable call own) {calls : List Call}
    (others : ∀ other ∈ calls, other = call ∨ call.Apart own other) :
    (calls.foldl move session).Forgettable call own ∧
      (calls.foldl move session).forget call own =
        (calls.filter fun other => other.number ≠ call.number).foldl move
          (session.forget call own) := by
  induction calls generalizing session with
  | nil => exact ⟨forgettable, rfl⟩
  | cons head calls ih =>
      have rest := fun other member => others other (List.mem_cons_of_mem head member)
      rcases others head (List.mem_cons_self ..) with rfl | apart
      · obtain ⟨kept, same⟩ := here session forgettable
        obtain ⟨keptToo, sameToo⟩ := ih kept rest
        refine ⟨keptToo, ?_⟩
        rw [List.foldl_cons, sameToo, same]
        simp
      · obtain ⟨kept, same⟩ := beside head apart session forgettable
        obtain ⟨keptToo, sameToo⟩ := ih kept rest
        refine ⟨keptToo, ?_⟩
        rw [List.foldl_cons, sameToo, same]
        simp [apart.number]

/-! ## Calls that end -/

theorem overlooks_record (occurrence : Occurrence)
    (beside : occurrence.isBeside call.number = true) :
    Overlooks call own fun session => session.record occurrence := by
  intro session forgettable
  refine ⟨{ forgettable with }, ?_⟩
  simp [record, forget, beside]

theorem Forgettable.dismiss (forgettable : session.Forgettable call own) (other : Call) :
    (session.dismiss other).Forgettable call own where
  queued := by
    simp only [Session.dismiss, Outbound.isWaiting, Outbound.withdraw, List.any_filter]
    refine List.any_eq_false.mpr fun letter waits => ?_
    have apart := List.any_eq_false.mp forgettable.queued letter waits
    simp_all
  counted := forgettable.counted
  drawn := by simpa [Session.dismiss] using forgettable.drawn
  placed := by simpa [Session.dismiss] using forgettable.placed
  pairs := forgettable.pairs.remove_abandon other.id other.ticket
  others := fun next member => forgettable.others next (List.mem_filter.mp member).1
  streams := forgettable.streams

theorem overlooks_dismiss (apart : call.Apart own other) :
    Overlooks call own fun session => session.dismiss other := by
  intro session forgettable
  refine ⟨forgettable.dismiss other, ?_⟩
  simp only [dismiss, forget, Correlator.remove_abandon_forget apart.id, List.filter_filter,
    Bool.and_comm]

theorem hidden_dismiss (call : Call) (own : Option Token) :
    Hidden call own fun session => session.dismiss call := by
  intro session forgettable
  have stays : session.outbound.withdraw call.number = session.outbound := by
    have all : session.outbound.waiting.filter (fun letter => letter.call ≠ call.number) =
        session.outbound.waiting := by
      refine List.filter_eq_self.mpr fun letter waits => ?_
      have apart := List.any_eq_false.mp forgettable.queued letter waits
      simpa using apart
    simp only [Outbound.withdraw, all]
  refine ⟨forgettable.dismiss call, ?_⟩
  simp only [dismiss, forget, Correlator.forget_remove_abandon forgettable.pairs, stays,
    List.filter_filter, Bool.and_self]

theorem overlooks_finish (apart : call.Apart own other) (result : Except Failure Response) :
    Overlooks call own fun session => session.finish other result := by
  refine (overlooks_record _ ?_).comp (overlooks_dismiss apart)
  simp [Occurrence.isBeside, Occurrence.outcome?, apart.number]

theorem hidden_finish (call : Call) (own : Option Token) (result : Except Failure Response) :
    Hidden call own fun session => session.finish call result := by
  intro session forgettable
  obtain ⟨kept, same⟩ := hidden_dismiss call own session forgettable
  refine ⟨{ kept with }, ?_⟩
  rw [← same]
  simp [finish, record, forget, Occurrence.isBeside, Occurrence.outcome?]

/-- Whether a call ends is the same with and without the call that is forgotten. -/
theorem overlooks_verdict {judge : Session → Option (Except Failure Response)}
    (apart : call.Apart own other)
    (same : ∀ session : Session, session.Forgettable call own →
      judge (session.forget call own) = judge session) :
    Overlooks call own fun session =>
      match judge session with
      | some result => session.finish other result
      | none => session := by
  intro session forgettable
  dsimp only
  rw [same session forgettable]
  cases judge session with
  | some result => exact overlooks_finish apart result session forgettable
  | none => exact ⟨forgettable, rfl⟩

theorem hidden_verdict (call : Call) (own : Option Token)
    (judge : Session → Option (Except Failure Response)) :
    Hidden call own fun session =>
      match judge session with
      | some result => session.finish call result
      | none => session := by
  intro session forgettable
  dsimp only
  cases judge session with
  | some result => exact hidden_finish call own result session forgettable
  | none => exact ⟨forgettable, rfl⟩

/-! ## The way out -/

theorem call?_forget_self : (session.forget call own).call? call.number = none := by
  refine List.find?_eq_none.mpr fun other member => ?_
  simpa using (List.mem_filter.mp member).2

theorem call?_forget_of_ne {number : Nat} (differs : number ≠ call.number) :
    (session.forget call own).call? number = session.call? number := by
  unfold call?
  rw [calls_forget, List.find?_filter]
  congr 1
  funext other
  by_cases same : other.number = number
  · simp [same, differs]
  · simp [same]

/-- What is done to the call of a number is done to another call, or not seen. -/
theorem overlooks_call? {move : Session → Call → Session} (number : Nat)
    (beside : ∀ other, call.Apart own other → Overlooks call own fun session => move session other)
    (here : Hidden call own fun session => move session call) :
    Overlooks call own fun session =>
      match session.call? number with
      | some other => move session other
      | none => session := by
  intro session forgettable
  dsimp only
  cases found : session.call? number with
  | none =>
      have missing : (session.forget call own).call? number = none := by
        by_cases same : number = call.number
        · rw [same, call?_forget_self]
        · rw [call?_forget_of_ne same, found]
      rw [missing]
      exact ⟨forgettable, rfl⟩
  | some other =>
      obtain ⟨member, rfl⟩ := call?_eq_some found
      rcases forgettable.others other member with rfl | apart
      · rw [call?_forget_self]
        exact here session forgettable
      · rw [call?_forget_of_ne apart.number, found]
        exact beside other apart session forgettable

theorem overlooks_note (effect : Effect) :
    Overlooks call own fun session => session.note effect := by
  cases effect with
  | arrived arrival => exact overlooks_record _ rfl
  | logged line => exact overlooks_record _ rfl
  | admitted number => exact .id call own
  | refused number =>
      exact overlooks_call? number (fun other apart => overlooks_finish apart _)
        (hidden_finish call own _)

theorem overlooks_noteAll (effects : List Effect) :
    Overlooks call own fun session => session.noteAll effects :=
  .foldl overlooks_note effects

theorem Forgettable.withOutbound (forgettable : session.Forgettable call own) {outbound : Outbound}
    (fewer : outbound.waiting.map Letter.call ⊆ session.outbound.waiting.map Letter.call) :
    { session with outbound }.Forgettable call own := by
  refine { forgettable with queued := Bool.eq_false_iff.mpr fun waits => ?_ }
  have waited := Outbound.isWaiting_eq_true_iff.mpr
    (fewer (Outbound.isWaiting_eq_true_iff.mp waits))
  rw [forgettable.queued] at waited
  cases waited

theorem overlooks_settleOutbound : Overlooks call own settleOutbound := by
  intro session forgettable
  have turns := Outbound.turns_settle session.writeTerms session.outbound
  have fewer : (session.outbound.settle session.writeTerms).2.waiting.map Letter.call ⊆
      session.outbound.waiting.map Letter.call := by
    rw [turns.split]
    exact List.Subset.trans (List.subset_append_right _ _) (List.subset_append_right _ _)
  exact overlooks_noteAll (session.outbound.settle session.writeTerms).1 session.withSettled
    (forgettable.withOutbound fewer)

theorem overlooks_stopReader : Overlooks call own stopReader :=
  fun _ forgettable => ⟨{ forgettable with }, rfl⟩

theorem overlooks_settleReader : Overlooks call own settleReader := by
  intro session forgettable
  unfold settleReader
  rw [outbound_forget, reader_forget]
  split
  · exact overlooks_stopReader session forgettable
  · exact ⟨forgettable, rfl⟩

/-! ## Calls -/

theorem answer_forget (apart : call.Apart own other) :
    (session.forget call own).answer other = session.answer other := by
  simp only [answer, outbound_forget, correlator_forget,
    Correlator.slot_forget_of_ne apart.ticket]

theorem overlooks_settleCalls : Overlooks call own settleCalls := by
  intro session forgettable
  have collecting {session : Session} (forgettable : session.Forgettable call own) :=
    forgettable.pass collect
      (fun other apart => by
        simp only [collect_eq]
        exact overlooks_verdict apart fun _ _ => answer_forget apart)
      (by
        simp only [collect_eq]
        exact hidden_verdict call own fun session => session.answer call)
      forgettable.others
  have expiring {session : Session} (forgettable : session.Forgettable call own) :=
    forgettable.pass expire
      (fun other apart => by
        simp only [expire_eq]
        exact overlooks_verdict apart fun _ _ => rfl)
      (by
        simp only [expire_eq]
        exact hidden_verdict call own fun session => session.lateness call)
      forgettable.others
  obtain ⟨collected, same⟩ := collecting forgettable
  obtain ⟨expired, sameToo⟩ := expiring collected
  refine ⟨expired, ?_⟩
  simp only [settleCalls, calls_forget, sameToo, ← same]

/-! ## Closing -/

theorem overlooks_withHalted (writer : Writer) :
    Overlooks call own fun session => session.withHalted writer :=
  fun _ forgettable => ⟨forgettable.withOutbound (List.nil_subset _), rfl⟩

theorem overlooks_cutWriter : Overlooks call own cutWriter := by
  intro session forgettable
  have cut : Overlooks call own fun other =>
      ((other.record (.logged (taskAborted session.ioTimeout))).withHalted .aborted).noteAll
        (session.outbound.halt .aborted).1 :=
    (overlooks_noteAll _).comp ((overlooks_withHalted .aborted).comp (overlooks_record _ rfl))
  unfold cutWriter
  rw [outbound_forget]
  split
  · exact ⟨forgettable, rfl⟩
  · exact cut session forgettable

theorem overlooks_cutReader : Overlooks call own cutReader := by
  intro session forgettable
  have aborted : Overlooks call own fun other => { other with reader := .aborted } :=
    fun _ forgettable => ⟨{ forgettable with }, rfl⟩
  have cut := aborted.comp
    (overlooks_record (.logged (taskAborted session.ioTimeout)) rfl)
  unfold cutReader
  rw [reader_forget]
  split
  · exact cut session forgettable
  · exact ⟨forgettable, rfl⟩

theorem overlooks_leave (line : LogLine) (occurrence : Occurrence)
    (beside : occurrence.isBeside call.number = true) :
    Overlooks call own fun session =>
      { (session.record (.logged line)).record occurrence with closer := none } := by
  have leaves : Overlooks call own fun other => { other with closer := none } :=
    fun _ forgettable => ⟨{ forgettable with }, rfl⟩
  have logged : Overlooks call own fun other => other.record (.logged line) :=
    overlooks_record (.logged line) rfl
  exact leaves.comp ((overlooks_record occurrence beside).comp logged)

theorem overlooks_dischargeCloser (closer : Closer) :
    Overlooks call own fun session => session.dischargeCloser closer :=
  fun session => overlooks_leave connectionClosed (.closed closer.number session.closeResult) rfl
    session

theorem overlooks_loseCloser (closer : Closer) :
    Overlooks call own fun session => session.loseCloser closer :=
  fun session => overlooks_leave (taskAborted session.ioTimeout) (.closerLost closer.number) rfl
    session

theorem overlooks_settleCloser : Overlooks call own settleCloser := by
  intro session forgettable
  have down : (session.forget call own).isDown = session.isDown := rfl
  have panics : (session.forget call own).loggerPanics = session.loggerPanics := rfl
  unfold settleCloser
  rw [closer_forget, now_forget, down, panics]
  split
  · exact ⟨forgettable, rfl⟩
  · rename_i closer _
    split
    · exact overlooks_dischargeCloser closer session forgettable
    · split
      · split
        · exact overlooks_loseCloser closer session forgettable
        · exact ((overlooks_dischargeCloser closer).comp
            (overlooks_cutReader.comp overlooks_cutWriter)) session forgettable
      · exact ⟨forgettable, rfl⟩

theorem overlooks_settleClosing : Overlooks call own settleClosing := by
  intro session forgettable
  unfold settleClosing
  rw [outbound_forget, now_forget]
  split
  · split
    · exact ⟨{ forgettable with }, rfl⟩
    · exact ⟨forgettable, rfl⟩
  · exact ⟨forgettable, rfl⟩

/-! ## Streams -/

theorem contains_forget (session : Session) (call : Call) {token : Token}
    (foreign : ∀ owned ∈ own, token ≠ owned) :
    (session.forget call own).cancelled.contains token = session.cancelled.contains token := by
  have member : token ∈ (session.forget call own).cancelled ↔ token ∈ session.cancelled := by
    refine ⟨fun here => (List.mem_filter.mp here).1, fun here => ?_⟩
    exact List.mem_filter.mpr ⟨here, decide_eq_true fun same => foreign token same rfl⟩
  rw [Bool.eq_iff_iff, List.contains_iff_mem, List.contains_iff_mem, member]

theorem overlooks_settleStreams : Overlooks call own settleStreams := by
  intro session forgettable
  have same := @EventStream.settle_congr _ session.board _ _ fun stream member =>
    session.contains_forget call (forgettable.streams stream member)
  refine ⟨{ forgettable with streams := ?_ }, ?_⟩
  · intro stream member token owned
    obtain ⟨before, here, sameToken⟩ := EventStream.token_of_mem_settle member
    exact sameToken ▸ forgettable.streams before here token owned
  · simp only [settleStreams, board_forget, streams_forget, same]
    rfl

/-! ## Settling as a whole -/

theorem overlooks_settle : Overlooks call own settle :=
  overlooks_settleStreams.comp <| overlooks_settleCloser.comp <| overlooks_settleClosing.comp <|
    overlooks_settleCloser.comp <| overlooks_settleCalls.comp <|
      overlooks_settleReader.comp overlooks_settleOutbound

theorem Still.forget (still : session.Still) (forgettable : session.Forgettable call own) :
    (session.forget call own).Still where
  outbound := still.outbound
  reader := still.reader
  calls := by
    intro other member
    obtain ⟨before, differs⟩ := List.mem_filter.mp member
    rcases forgettable.others other before with rfl | apart
    · simp at differs
    · rw [answer_forget apart]
      exact still.calls other before
  closer := still.closer
  closing := still.closing
  streams := by
    intro stream member
    have same := session.contains_forget call (forgettable.streams stream member)
    cases still.streams stream member with
    | ended ended => exact .ended ended
    | full live uncancelled present held ready =>
        exact .full live (same.trans uncancelled) present held ready
    | empty live uncancelled present held unread linked =>
        exact .empty live (same.trans uncancelled) present held unread linked

end Session

end ServerManagement
