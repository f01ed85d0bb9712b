import ServerManagement.Proofs.Session.ReaderEnd

/-!
The one who closes the connection and waits until it is down: it waits, or it has been told that the
connection is closed, or it has gone. With a logger that does not panic nothing crashes, and it is
told of no failure.
-/

set_option autoImplicit false

namespace ServerManagement

namespace Outbound

variable {terms : WriteTerms} {outbound after : Outbound} {effects : List Effect}

theorem Move.uncrashed (move : Move terms outbound effects after)
    (calm : terms.loggerPanics = false) (running : outbound.writer ≠ .crashed) :
    after.writer ≠ .crashed := by
  cases move with
  | refuse | accept => exact running
  | deliver | send | block | lose => exact nofun
  | crash letter queue hands fails panics => cases calm.symm.trans panics
  | close effects line writer ends closes =>
      change writer ≠ .crashed
      cases closes with
      | deliver | send | block | lose => exact nofun

theorem Hands.isDone {letter : Letter} {queue : List Letter}
    (hands : outbound.Hands letter queue) : outbound.writer.isDone = false := by
  cases hands with
  | next idle => rw [idle]; rfl
  | blocked left blocked => rw [blocked]; rfl

theorem Ends.isDone {deadline : Nat} (ends : outbound.Ends terms deadline) :
    outbound.writer.isDone = false := by
  cases ends with
  | idle idle => rw [idle]; rfl
  | closing left deadline closing => rw [closing]; rfl

theorem Move.writer_of_isDone (move : Move terms outbound effects after)
    (done : outbound.writer.isDone = true) : after.writer = outbound.writer := by
  cases move with
  | refuse | accept => rfl
  | deliver letter queue hands | send letter queue heldBytes hands | block letter queue left hands
  | lose letter queue hands | crash letter queue hands => cases hands.isDone.symm.trans done
  | close effects line writer ends => cases ends.isDone.symm.trans done

theorem writer_settle (terms : WriteTerms) (outbound : Outbound) :
    (terms.loggerPanics = false → outbound.writer ≠ .crashed →
      (outbound.settle terms).2.writer ≠ .crashed) ∧
      (outbound.writer.isDone = true → (outbound.settle terms).2.writer = outbound.writer) := by
  refine settle_induction (fun outbound _ after =>
    (terms.loggerPanics = false → outbound.writer ≠ .crashed → after.writer ≠ .crashed) ∧
      (outbound.writer.isDone = true → after.writer = outbound.writer)) ?_ ?_ outbound
  · intro outbound
    exact ⟨fun _ => id, fun _ => rfl⟩
  · rintro outbound effects middle later settled move ⟨uncrashed, done⟩
    refine ⟨fun calm running => uncrashed calm (move.uncrashed calm running), fun ended => ?_⟩
    have same := move.writer_of_isDone ended
    exact (done (same ▸ ended)).trans same

end Outbound

namespace Session

variable {session later : Session} {next : Step} {number deadline : Nat} {stays : Prop}

/-! ## Steps that close nothing -/

theorem apart_startCall (session : Session) (method : String) (params : Params)
    (terms : CallTerms) : Apart session (session.startCall method params terms) := by
  cases closed : session.isClosed with
  | true => exact (thins_startCall closed method params terms).toApart
  | false =>
      have drawn : Thins [] session session.withDrawn := .beside
      have failed (failure : Failure) : Thins [] session
          (session.withDrawn.record (.ended session.callCount (.error failure))) :=
        drawn.trans (thins_silent _ _ rfl fun _ => rfl)
      rw [startCall_of_open closed]
      split
      · exact (failed _).toApart
      · split
        · exact (failed _).toApart
        · refine drawn.toApart.trans ?_
          unfold enroll
          split
          · rename_i correlator _
            have entered : Thins [] session.withDrawn { session.withDrawn with correlator } :=
              .beside
            exact (entered.trans (thins_silent _ _ rfl fun _ => rfl)).toApart
          · exact ⟨rfl, rfl, rfl, fun _ => rfl, rfl, rfl, fun _ => id⟩

theorem apart_withLine (session : Session) (line : Line) : Apart session (session.withLine line) :=
  ⟨rfl, rfl, rfl, fun _ => rfl, rfl, rfl, fun _ => id⟩

theorem apart_farewell (session : Session) : Apart session (session.receive .farewell) := by
  unfold receive
  split
  · exact .refl session
  · have logged := thins_silent (session.withLine { session.outbound.line with isClosing := true })
      (.logged peerClosed) rfl fun _ => rfl
    exact (session.apart_withLine _).trans (logged.trans (thins_stopReader _)).toApart

def Step.handlesCloser : Step → Bool
  | .close | .abandonClose _ => true
  | _ => false

theorem apart_act (other : next.handlesCloser = false) : Apart session (session.act next).2 := by
  cases spares : next.spares with
  | true => exact (thins_act spares).toApart
  | false =>
      cases next with
      | call method params terms => exact session.apart_startCall method params terms
      | receive incoming =>
          cases incoming with
          | farewell => exact session.apart_farewell
          | _ => cases spares
      | pause => exact session.apart_withLine _
      | resume =>
          by_cases pauses : session.outbound.line.peer = .paused
          · exact (session.apart_withLine _).trans (thins_resume pauses).toApart
          · simp only [act, resume_of_not_paused pauses]
            exact .refl session
      | vanish => exact (session.apart_withLine _).trans session.thins_vanish.toApart
      | advance | release | linger => exact ⟨rfl, rfl, rfl, fun _ => rfl, rfl, rfl, fun _ => id⟩
      | close | abandonClose => cases other
      | _ => cases spares

/-! ## Calm sessions -/

structure Calm (session : Session) : Prop where
  logger : session.loggerPanics = false
  writer : session.outbound.writer ≠ .crashed
  reader : session.reader ≠ .crashed

theorem Apart.calm (apart : Apart session later) (calm : session.Calm) : later.Calm where
  logger := apart.loggerPanics.trans calm.logger
  writer := apart.writer ▸ calm.writer
  reader := fun crashed => calm.reader (apart.reader calm.logger crashed)

theorem Calm.closeResult (calm : session.Calm) : session.closeResult = .ok () := by
  unfold Session.closeResult
  rw [if_neg]
  rintro (crashed | crashed)
  · exact calm.writer crashed
  · exact calm.reader crashed

theorem Calm.settleOutbound (calm : session.Calm) : session.settleOutbound.Calm := by
  have writer := (Outbound.writer_settle session.writeTerms session.outbound).1
  have settled : session.withSettled.Calm :=
    ⟨calm.logger, writer calm.logger calm.writer, calm.reader⟩
  exact (thins_noteAll _ _).toApart.calm settled

theorem Calm.cutWriter (calm : session.Calm) : session.cutWriter.Calm := by
  cases done : session.outbound.writer.isDone with
  | true => exact (cutWriter_of_isDone done).symm ▸ calm
  | false =>
      have halted : (session.withHalted .aborted).Calm := ⟨calm.logger, nofun, calm.reader⟩
      exact (thins_cutWriter done).toApart.calm halted

theorem Calm.discharge (calm : session.Calm) (closer : Closer) :
    (session.dischargeCloser closer).Calm := ⟨calm.logger, calm.writer, calm.reader⟩

theorem Calm.settleCloser (calm : session.Calm) : session.settleCloser.Calm := by
  unfold Session.settleCloser
  split
  · exact calm
  · split
    · exact calm.discharge _
    · split
      · split
        · rename_i panics
          cases panics.symm.trans calm.logger
        · have cut := session.cutWriter.thins_cutReader.toApart.calm calm.cutWriter
          exact cut.discharge _
      · exact calm

theorem Calm.settleClosing (calm : session.Calm) : session.settleClosing.Calm := by
  unfold Session.settleClosing
  split
  · split
    · exact ⟨calm.logger, nofun, calm.reader⟩
    · exact calm
  · exact calm

theorem Calm.settle (calm : session.Calm) : session.settle.Calm :=
  settle_of_phases (fun _ _ thins => thins.toApart.calm) (fun _ => Calm.settleCloser)
    (fun _ => Calm.settleClosing) calm.settleOutbound

theorem Calm.close (calm : session.Calm) : session.close.Calm := by
  cases closed : session.isClosed with
  | true =>
      rw [close_of_closed closed]
      exact ⟨calm.logger, calm.writer, calm.reader⟩
  | false =>
      have stopped : session.withCloser.Calm := ⟨calm.logger, calm.writer, calm.reader⟩
      rw [close_eq closed]
      exact stopped.settleCloser

theorem Calm.abandonClose (calm : session.Calm) (number : Nat) :
    (session.abandonClose number).Calm := by
  unfold Session.abandonClose
  split
  · split
    · exact ⟨calm.logger, calm.writer, calm.reader⟩
    · exact calm
  · exact calm

theorem Calm.act (calm : session.Calm) (next : Step) : (session.act next).2.Calm := by
  cases next with
  | close => exact calm.close
  | abandonClose number => exact calm.abandonClose number
  | _ =>
      refine Apart.calm (apart_act ?_) calm
      rfl

theorem Calm.create (settings : Settings) (lineCapacity : Nat) :
    (Session.create settings lineCapacity false).Calm := ⟨rfl, nofun, nofun⟩

theorem Calm.run (calm : session.Calm) (steps : List Step) : (session.run steps).Calm :=
  run_invariant (fun _ next calm => (calm.act next).settle) calm steps

/-! ## The closer -/

inductive Shuts (number deadline : Nat) (stays : Prop) (session : Session) : Prop
  | waits (closer : session.closer = some ⟨number, deadline⟩)
      (closings : session.closings number = [])
  | told (nobody : session.closer = none) (closings : session.closings number = [.ok ()])
      (done : session.outbound.writer.isDone = true)
  | left (nobody : session.closer = none) (closings : session.closings number = [])
      (goes : ¬stays)

theorem Shuts.congr (shuts : Shuts number deadline stays session)
    (closer : later.closer = session.closer)
    (closings : later.closings number = session.closings number)
    (done : session.outbound.writer.isDone = true → later.outbound.writer.isDone = true) :
    Shuts number deadline stays later := by
  cases shuts with
  | waits waits before => exact .waits (closer.trans waits) (closings.trans before)
  | told nobody before ended =>
      exact .told (closer.trans nobody) (closings.trans before) (done ended)
  | left nobody before goes => exact .left (closer.trans nobody) (closings.trans before) goes

structure Shut (number deadline : Nat) (stays : Prop) (session : Session) : Prop where
  calm : session.Calm
  closed : session.isClosed = true
  older : number < session.closerCount
  shuts : Shuts number deadline stays session

theorem Shut.apart (shut : Shut number deadline stays session) (apart : Apart session later) :
    Shut number deadline stays later where
  calm := apart.calm shut.calm
  closed := apart.isClosed.trans shut.closed
  older := apart.closerCount ▸ shut.older
  shuts := shut.shuts.congr apart.closer (apart.closings number) fun done => apart.writer ▸ done

theorem Shut.settleOutbound (shut : Shut number deadline stays session) :
    Shut number deadline stays session.settleOutbound := by
  have writer := (Outbound.writer_settle session.writeTerms session.outbound).1
  have done := (Outbound.writer_settle session.writeTerms session.outbound).2
  have settled : Shut number deadline stays session.withSettled :=
    ⟨⟨shut.calm.logger, writer shut.calm.logger shut.calm.writer, shut.calm.reader⟩,
      shut.closed, shut.older,
      shut.shuts.congr rfl rfl fun ended => by rwa [withSettled, done ended]⟩
  exact settled.apart (thins_noteAll _ _).toApart

theorem Shut.discharge (shut : Shut number deadline stays session)
    (waits : session.closer = some ⟨number, deadline⟩)
    (done : session.outbound.writer.isDone = true) :
    Shut number deadline stays (session.dischargeCloser ⟨number, deadline⟩) := by
  refine ⟨shut.calm.discharge _, shut.closed, shut.older, .told rfl ?_ done⟩
  have before : session.closings number = [] := by
    cases shut.shuts with
    | waits closer closings => exact closings
    | told nobody | left nobody => cases nobody.symm.trans waits
  have served : (session.dischargeCloser ⟨number, deadline⟩).closings number =
      session.closings number ++ [session.closeResult] := by
    simp [dischargeCloser, record, closings, List.filterMap_cons, Occurrence.closing?]
  rw [served, before, shut.calm.closeResult]
  rfl

theorem Shut.cutWriter (shut : Shut number deadline stays session) :
    Shut number deadline stays session.cutWriter ∧
      session.cutWriter.closer = session.closer ∧
      session.cutWriter.outbound.writer.isDone = true := by
  cases done : session.outbound.writer.isDone with
  | true =>
      rw [cutWriter_of_isDone done]
      exact ⟨shut, rfl, done⟩
  | false =>
      have cut := thins_cutWriter done
      have halted : Shut number deadline stays (session.withHalted .aborted) :=
        ⟨⟨shut.calm.logger, nofun, shut.calm.reader⟩, shut.closed, shut.older,
          shut.shuts.congr rfl rfl fun _ => rfl⟩
      exact ⟨halted.apart cut.toApart, cut.closer, congrArg Writer.isDone cut.writer⟩

theorem Shut.settleCloser (shut : Shut number deadline stays session) :
    Shut number deadline stays session.settleCloser := by
  unfold Session.settleCloser
  split
  · exact shut
  · rename_i closer waits
    -- Later closers do not wait, so whoever waits is the first one.
    have own : closer = ⟨number, deadline⟩ := by
      cases shut.shuts with
      | waits same => exact Option.some.inj (waits.symm.trans same)
      | told nobody | left nobody => cases nobody.symm.trans waits
    subst own
    split
    · rename_i down
      exact shut.discharge waits (Bool.and_eq_true_iff.mp down).1
    · split
      · split
        · rename_i panics
          cases panics.symm.trans shut.calm.logger
        · obtain ⟨cut, same, done⟩ := shut.cutWriter
          have read := session.cutWriter.thins_cutReader
          have waiting : session.cutWriter.cutReader.closer = some ⟨number, deadline⟩ :=
            read.closer.trans (same.trans waits)
          exact (cut.apart read.toApart).discharge waiting (read.writer ▸ done)
      · exact shut

theorem Shut.settleClosing (shut : Shut number deadline stays session) :
    Shut number deadline stays session.settleClosing := by
  unfold Session.settleClosing
  split
  · split
    · exact ⟨⟨shut.calm.logger, nofun, shut.calm.reader⟩, shut.closed, shut.older,
        shut.shuts.congr rfl rfl fun _ => rfl⟩
    · exact shut
  · exact shut

theorem Shut.settle (shut : Shut number deadline stays session) :
    Shut number deadline stays session.settle :=
  settle_of_phases (fun _ _ thins shut => shut.apart thins.toApart) (fun _ => Shut.settleCloser)
    (fun _ => Shut.settleClosing) shut.settleOutbound

/-- Whoever closes the connection later is served at once, and apart from the first closer. -/
theorem Shut.close (shut : Shut number deadline stays session) :
    Shut number deadline stays session.close := by
  have other : session.closerCount ≠ number := Ne.symm (Nat.ne_of_lt shut.older)
  have calm := shut.calm.close
  rw [close_of_closed shut.closed] at calm ⊢
  refine ⟨calm, shut.closed, Nat.lt_succ_of_lt shut.older, shut.shuts.congr rfl ?_ id⟩
  simp [record, Session.closings, Occurrence.closing?, other]

theorem Shut.abandonClose (shut : Shut number deadline stays session) {other : Nat}
    (remains : stays → other ≠ number) :
    Shut number deadline stays (session.abandonClose other) := by
  have calm := shut.calm.abandonClose other
  revert calm
  unfold Session.abandonClose
  split
  · rename_i closer waits
    split
    · rename_i same
      intro calm
      refine ⟨calm, shut.closed, shut.older, ?_⟩
      cases shut.shuts with
      | waits own closings =>
          obtain rfl := Option.some.inj (waits.symm.trans own)
          exact .left rfl closings fun holds => remains holds same.symm
      | told nobody | left nobody => cases nobody.symm.trans waits
    · exact fun _ => shut
  · exact fun _ => shut

theorem Shut.act (shut : Shut number deadline stays session)
    (remains : stays → next ≠ .abandonClose number) :
    Shut number deadline stays (session.act next).2 := by
  cases next with
  | close => exact shut.close
  | abandonClose other =>
      exact shut.abandonClose fun holds same => remains holds (congrArg Step.abandonClose same)
  | _ =>
      refine shut.apart (apart_act ?_)
      rfl

theorem Shut.run {steps : List Step} (shut : Shut number deadline stays session)
    (remains : stays → ∀ next ∈ steps, next ≠ .abandonClose number) :
    Shut number deadline stays (session.run steps) := by
  induction steps generalizing session with
  | nil => exact shut
  | cons next steps ih =>
      have first : stays → next ≠ .abandonClose number :=
        fun holds => remains holds next (List.mem_cons_self ..)
      refine ih (shut.act first).settle fun holds other member => ?_
      exact remains holds other (List.mem_cons_of_mem _ member)

end Session

end ServerManagement
