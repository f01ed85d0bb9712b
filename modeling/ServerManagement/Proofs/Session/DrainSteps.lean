import ServerManagement.Proofs.Session.Drain
import ServerManagement.Proofs.Session.Transmission

/-!
Steps after a connection has been closed. What has reached the peer and what has still to are
together a list to which nothing is added but the letters that get into the queue late; until the
time that closing is given is over it stays as it is, unless a write fails.
-/

set_option autoImplicit false

namespace ServerManagement

namespace Session

def traffic (session : Session) (late : List Letter) : List Arrival :=
  session.arrivals ++ session.outbound.frames late

structure Winding (limit : Nat) (session : Session) : Prop where
  closed : session.isClosed = true
  outbound : session.outbound.Draining limit
  closer : ∀ closer, session.closer = some closer → limit ≤ closer.deadline
  timely : limit ≤ session.now + session.ioTimeout

structure Drains (limit : Nat) (late : List Letter) (session later : Session) : Prop where
  winding : later.Winding limit
  now : session.now ≤ later.now
  enters : session.outbound.Enters late later.outbound
  traffic : ∀ letters, later.outbound.Takes letters →
    (later.traffic letters).Sublist (session.traffic (late ++ letters))
  kept : later.now < limit → later.outbound.Healthy → session.outbound.Healthy ∧
    ∀ letters, later.outbound.Takes letters →
      later.traffic letters = session.traffic (late ++ letters)

variable {limit : Nat} {session middle later : Session} {arrived : List Arrival}
  {late more : List Letter}

theorem Drains.refl (winding : session.Winding limit) : Drains limit [] session session :=
  ⟨winding, Nat.le_refl _, .none (.refl _) id, fun _ _ => .refl _,
    fun _ healthy => ⟨healthy, fun _ _ => rfl⟩⟩

theorem Drains.trans (first : Drains limit late session middle)
    (second : Drains limit more middle later) : Drains limit (late ++ more) session later where
  winding := second.winding
  now := Nat.le_trans first.now second.now
  enters := first.enters.trans second.enters
  traffic letters takes := by
    rw [List.append_assoc]
    exact (second.traffic letters takes).trans (first.traffic _ (second.enters.takes takes))
  kept early healthy := by
    obtain ⟨before, same⟩ := second.kept early healthy
    obtain ⟨start, sameToo⟩ := first.kept (Nat.lt_of_le_of_lt second.now early) before
    refine ⟨start, fun letters takes => ?_⟩
    rw [List.append_assoc, same letters takes, sameToo _ (second.enters.takes takes)]

/-- After those that got in, no other letters do. -/
theorem Drains.extend (first : Drains limit late session middle)
    (second : Drains limit [] middle later) : Drains limit late session later :=
  late.append_nil ▸ first.trans second

theorem Drains.of_traffic (winding : later.Winding limit) (now : session.now ≤ later.now)
    (enters : session.outbound.Enters [] later.outbound)
    (same : later.traffic = session.traffic)
    (healthy : later.outbound.Healthy → session.outbound.Healthy) :
    Drains limit [] session later :=
  ⟨winding, now, enters, fun _ _ => same ▸ .refl _,
    fun _ fine => ⟨healthy fine, fun letters _ => congrFun same letters⟩⟩

theorem Drains.of_past (winding : later.Winding limit) (now : later.now = session.now)
    (past : limit ≤ session.now) (enters : session.outbound.Enters [] later.outbound)
    (traffic : ∀ letters, later.outbound.Takes letters →
      (later.traffic letters).Sublist (session.traffic letters)) :
    Drains limit [] session later :=
  ⟨winding, Nat.le_of_eq now.symm, enters, traffic,
    fun early => absurd (now ▸ early) (Nat.not_lt_of_le past)⟩

theorem Thins.line (thins : Thins arrived session later) :
    later.outbound.line = session.outbound.line := by
  obtain ⟨waiting, _, outbound⟩ := thins.outbound
  rw [outbound]

theorem Thins.enters (thins : Thins arrived session later) :
    session.outbound.Enters [] later.outbound := by
  obtain ⟨waiting, fewer, outbound⟩ := thins.outbound
  rw [outbound]
  exact .none fewer id

theorem Thins.frames (thins : Thins arrived session later) :
    later.outbound.frames = session.outbound.frames := by
  obtain ⟨waiting, _, outbound⟩ := thins.outbound
  rw [outbound]
  rfl

theorem Thins.healthy (thins : Thins arrived session later) (healthy : later.outbound.Healthy) :
    session.outbound.Healthy :=
  ⟨thins.line ▸ healthy.present, thins.line ▸ healthy.unclosed⟩

theorem Thins.traffic (thins : Thins arrived session later) (letters : List Letter) :
    later.traffic letters = session.arrivals ++ (arrived ++ session.outbound.frames letters) := by
  rw [Session.traffic, thins.arrivals, thins.frames, List.append_assoc]

theorem Thins.winding (thins : Thins arrived session later) (winding : session.Winding limit) :
    later.Winding limit where
  closed := thins.isClosed.trans winding.closed
  outbound := by
    have healthy := fun fine => winding.outbound.timely (thins.healthy fine)
    obtain ⟨waiting, _, outbound⟩ := thins.outbound
    rw [outbound] at healthy ⊢
    exact ⟨winding.outbound.stops, winding.outbound.orderly, winding.outbound.last, healthy⟩
  closer := by
    rw [thins.closer]
    exact winding.closer
  timely := by
    rw [thins.now, thins.ioTimeout]
    exact winding.timely

theorem Thins.drains (thins : Thins [] session later) (winding : session.Winding limit) :
    Drains limit [] session later :=
  .of_traffic (thins.winding winding) (Nat.le_of_eq thins.now.symm) thins.enters
    (funext thins.traffic) thins.healthy

/-! ## Settling -/

/-- The letters that get into the queue in time are those that the writer makes room for. -/
theorem drains_settleOutbound (winding : session.Winding limit) :
    ∃ late : List Letter, late.map Letter.call =
        (session.outbound.settle session.writeTerms).1.filterMap Effect.admitted? ∧
      Drains limit late session session.settleOutbound := by
  obtain ⟨draining, late, passes⟩ :=
    Outbound.passes_settle session.writeTerms winding.timely winding.outbound
  have flags := Outbound.flags_settle session.writeTerms session.outbound
  have settled : session.withSettled.Winding limit :=
    ⟨winding.closed, draining, winding.closer, winding.timely⟩
  have noted := session.withSettled.thins_noteAll (session.outbound.settle session.writeTerms).1
  have entered : session.outbound.Enters (late ++ []) session.settleOutbound.outbound :=
    passes.enters.trans noted.enters
  -- Who is refused waits no longer, which leaves what the queue takes as it is.
  have takes {letters : List Letter} (takes : session.settleOutbound.outbound.Takes letters) :
      session.withSettled.outbound.Takes letters := noted.enters.takes takes
  refine ⟨late, passes.admitted, noted.winding settled, Nat.le_of_eq noted.now.symm,
    late.append_nil ▸ entered, fun letters taken => ?_, fun _ fine => ?_⟩
  · have traffic : session.settleOutbound.traffic letters = session.arrivals ++ _ :=
      noted.traffic letters
    rw [traffic]
    exact (passes.frames letters (takes taken)).append_left _
  · have fine := noted.healthy fine
    have before : session.outbound.Healthy :=
      ⟨fun gone => fine.present (flags.2.1.trans gone), flags.2.2.symm.trans fine.unclosed⟩
    refine ⟨before, fun letters taken => ?_⟩
    have traffic : session.settleOutbound.traffic letters = session.arrivals ++ _ :=
      noted.traffic letters
    rw [traffic]
    exact congrArg _ (passes.kept before letters (takes taken))

theorem drains_cutWriter (winding : session.Winding limit) (past : limit ≤ session.now) :
    Drains limit [] session session.cutWriter := by
  cases done : session.outbound.writer.isDone with
  | true => exact (cutWriter_of_isDone done).symm ▸ .refl winding
  | false =>
      have cut : Drains limit [] session (session.withHalted .aborted) := by
        refine .of_past ⟨winding.closed, ?_, winding.closer, winding.timely⟩ rfl past
          (.none (List.nil_sublist _) fun _ => rfl) fun letters takes => ?_
        · exact ⟨winding.outbound.stops, winding.outbound.orderly, nofun, nofun⟩
        · rw [takes rfl]
          refine List.Sublist.append_left ?_ _
          simp [Outbound.frames, withHalted, Outbound.halt, Outbound.closeQueue, Writer.isDone,
            Writer.letters]
      exact cut.trans ((thins_cutWriter done).drains cut.winding)

theorem drains_record (winding : session.Winding limit) (occurrence : Occurrence)
    (silent : occurrence.arrival? = none) :
    Drains limit [] session (session.record occurrence) := by
  refine .of_traffic ⟨winding.closed, winding.outbound, winding.closer, winding.timely⟩
    (Nat.le_refl _) (.none (.refl _) id) ?_ id
  funext letters
  simp [traffic, arrivals, record, silent]

theorem drains_withoutCloser (winding : session.Winding limit) :
    Drains limit [] session { session with closer := none } :=
  .of_traffic ⟨winding.closed, winding.outbound, nofun, winding.timely⟩ (Nat.le_refl _)
    (.none (.refl _) id) rfl id

/-- The closer goes, whatever is reported of the end of closing. -/
theorem drains_leave (winding : session.Winding limit) (line : LogLine) (occurrence : Occurrence)
    (silent : occurrence.arrival? = none) :
    Drains limit [] session
      { (session.record (.logged line)).record occurrence with closer := none } := by
  have logged := drains_record winding (.logged line) rfl
  have reported := logged.extend (drains_record logged.winding occurrence silent)
  exact reported.extend (drains_withoutCloser reported.winding)

theorem drains_settleCloser (winding : session.Winding limit) :
    Drains limit [] session session.settleCloser := by
  unfold settleCloser
  split
  · exact .refl winding
  · rename_i closer waits
    split
    · exact drains_leave winding connectionClosed _ rfl
    · split
      · rename_i late
        split
        · exact drains_leave winding (taskAborted session.ioTimeout) _ rfl
        · have cut := drains_cutWriter winding (Nat.le_trans (winding.closer closer waits) late)
          have read := cut.trans ((thins_cutReader _).drains cut.winding)
          exact read.trans (drains_leave read.winding connectionClosed _ rfl)
      · exact .refl winding

theorem drains_settleClosing (winding : session.Winding limit) :
    Drains limit [] session session.settleClosing := by
  unfold settleClosing
  split
  · rename_i left due closing
    split
    · rename_i late
      refine ⟨⟨winding.closed, ?_, winding.closer, winding.timely⟩, Nat.le_refl _,
        .none (.refl _) id, fun letters _ => ?_, ?_⟩
      · exact ⟨winding.outbound.stops, winding.outbound.orderly, nofun, nofun⟩
      · refine List.Sublist.append_left ?_ _
        simp [Outbound.frames, closing, Writer.isDone, Writer.letters]
      -- The closing frame is given up at its deadline only, which is not before the limit.
      · intro early fine
        have healthy : session.outbound.Healthy := ⟨fine.present, fine.unclosed⟩
        have due := winding.outbound.timely healthy left due closing
        exact absurd early (Nat.not_lt_of_le (Nat.le_trans due late))
    · exact .refl winding
  · exact .refl winding

theorem drains_settle (winding : session.Winding limit) :
    ∃ late : List Letter, late.map Letter.call =
        (session.outbound.settle session.writeTerms).1.filterMap Effect.admitted? ∧
      Drains limit late session session.settle := by
  obtain ⟨late, admitted, out⟩ := drains_settleOutbound winding
  refine ⟨late, admitted, settle_of_phases ?_ ?_ ?_ out⟩
  · exact fun _ _ thins drains => drains.extend (thins.drains drains.winding)
  · exact fun _ drains => drains.extend (drains_settleCloser drains.winding)
  · exact fun _ drains => drains.extend (drains_settleClosing drains.winding)

/-! ## Acting -/

theorem drains_withLine {line : Line} (winding : session.Winding limit)
    (orderly : line.peer ≠ .paused → line.underWay = [])
    (fewer : line.underWay.Sublist session.outbound.line.underWay)
    (fine : line.peer ≠ .gone → line.isClosing = false →
      session.outbound.Healthy ∧ line.underWay = session.outbound.line.underWay) :
    Drains limit [] session (session.withLine line) := by
  refine ⟨⟨winding.closed, ?_, winding.closer, winding.timely⟩, Nat.le_refl _,
    .none (.refl _) id, fun _ _ => ?_, ?_⟩
  · exact ⟨winding.outbound.stops, orderly, winding.outbound.last,
      fun healthy => winding.outbound.timely (fine healthy.present healthy.unclosed).1⟩
  · exact (fewer.append_right _).append_left _
  · intro _ healthy
    obtain ⟨before, same⟩ := fine healthy.present healthy.unclosed
    refine ⟨before, fun _ _ => congrArg (session.arrivals ++ ·) ?_⟩
    exact congrArg (· ++ _) same

theorem drains_pause (winding : session.Winding limit) :
    Drains limit [] session (session.withLine session.outbound.line.pause) := by
  unfold Line.pause
  split
  · rename_i reads
    exact drains_withLine winding (fun moves => absurd rfl moves) (.refl _) fun _ unclosed =>
      ⟨⟨by rw [reads]; decide, unclosed⟩, rfl⟩
  · exact .refl winding

theorem drains_resume (winding : session.Winding limit) :
    Drains limit [] session session.resume := by
  by_cases pauses : session.outbound.line.peer = .paused
  · have thins := thins_resume pauses
    have healthy : session.withResumed.outbound.Healthy → session.outbound.Healthy :=
      fun fine => ⟨by rw [pauses]; decide, fine.unclosed⟩
    have resumed : session.withResumed.Winding limit :=
      ⟨winding.closed, ⟨winding.outbound.stops, fun _ => rfl, winding.outbound.last,
        fun fine => winding.outbound.timely (healthy fine)⟩, winding.closer, winding.timely⟩
    have entered := thins.enters
    exact .of_traffic (thins.winding resumed) (Nat.le_of_eq thins.now.symm)
      ⟨entered.waiting, entered.closed⟩ (funext thins.traffic)
      fun fine => healthy (thins.healthy fine)
  · rw [resume_of_not_paused pauses]
    exact .refl winding

theorem drains_vanish (winding : session.Winding limit) :
    Drains limit [] session session.vanish := by
  have vanished : Drains limit [] session (session.withLine session.outbound.line.vanish) :=
    drains_withLine winding (fun _ => rfl) (List.nil_sublist _) fun present => absurd rfl present
  exact vanished.trans (session.thins_vanish.drains vanished.winding)

theorem drains_farewell (winding : session.Winding limit) :
    Drains limit [] session (session.receive .farewell) := by
  unfold receive
  split
  · exact .refl winding
  · have closing : Drains limit [] session
        (session.withLine { session.outbound.line with isClosing := true }) :=
      drains_withLine winding winding.outbound.orderly (.refl _) fun _ unclosed => by cases unclosed
    have logged := thins_silent (session.withLine { session.outbound.line with isClosing := true })
      (.logged peerClosed) rfl fun _ => rfl
    exact closing.trans ((logged.trans (thins_stopReader _)).drains closing.winding)

theorem drains_close (winding : session.Winding limit) : Drains limit [] session session.close := by
  have counted : Drains limit [] session { session with closerCount := session.closerCount + 1 } :=
    .of_traffic ⟨winding.closed, winding.outbound, winding.closer, winding.timely⟩ (Nat.le_refl _)
      (.none (.refl _) id) rfl id
  rw [close_of_closed winding.closed]
  exact counted.trans (drains_record counted.winding _ rfl)

theorem drains_act (winding : session.Winding limit) (next : Step) :
    Drains limit [] session (session.act next).2 := by
  have same : session.outbound.Enters [] session.outbound := .none (.refl _) id
  cases spares : next.spares with
  | true => exact (thins_act spares).drains winding
  | false =>
      cases next with
      | call method params terms =>
          exact (thins_startCall winding.closed method params terms).drains winding
      | receive incoming =>
          cases incoming with
          | farewell => exact drains_farewell winding
          | _ => cases spares
      | advance milliseconds =>
          have timely : limit ≤ session.now + milliseconds + session.ioTimeout :=
            Nat.le_trans winding.timely (Nat.add_le_add_right (Nat.le_add_right _ _) _)
          exact .of_traffic ⟨winding.closed, winding.outbound, winding.closer, timely⟩
            (Nat.le_add_right _ _) same rfl id
      | pause => exact drains_pause winding
      | resume => exact drains_resume winding
      | vanish => exact drains_vanish winding
      | close => exact drains_close winding
      | abandonClose number =>
          simp only [act, abandonClose]
          split
          · split
            · exact drains_withoutCloser winding
            · exact .refl winding
          · exact .refl winding
      | release =>
          have stopped : session.outbound.stop.Draining limit :=
            ⟨rfl, winding.outbound.orderly, winding.outbound.last,
              fun fine => winding.outbound.timely ⟨fine.present, fine.unclosed⟩⟩
          exact .of_traffic ⟨winding.closed, stopped, winding.closer, winding.timely⟩
            (Nat.le_refl _) (.none (.refl _) id) rfl fun fine => ⟨fine.present, fine.unclosed⟩
      | linger call =>
          have turned : ({ session.outbound with linger := call } : Outbound).Draining limit :=
            ⟨winding.outbound.stops, winding.outbound.orderly, winding.outbound.last,
              fun fine => winding.outbound.timely ⟨fine.present, fine.unclosed⟩⟩
          exact .of_traffic ⟨winding.closed, turned, winding.closer, winding.timely⟩
            (Nat.le_refl _) (.none (.refl _) id) rfl fun fine => ⟨fine.present, fine.unclosed⟩
      | _ => cases spares

/-! ## Runs -/

theorem drains_step (winding : session.Winding limit) (next : Step) :
    ∃ late : List Letter, late.map Letter.call = session.admits next ∧
      Drains limit late session (session.step next).2 := by
  have acted := drains_act winding next
  obtain ⟨late, admitted, settled⟩ := drains_settle acted.winding
  exact ⟨late, admitted, acted.trans settled⟩

theorem drains_run (winding : session.Winding limit) (steps : List Step) :
    ∃ late : List Letter, late.map Letter.call = session.admissions steps ∧
      Drains limit late session (session.run steps) := by
  induction steps generalizing session with
  | nil => exact ⟨[], rfl, .refl winding⟩
  | cons next steps ih =>
      obtain ⟨late, admitted, first⟩ := drains_step winding next
      obtain ⟨more, others, rest⟩ := ih first.winding
      refine ⟨late ++ more, ?_, first.trans rest⟩
      rw [List.map_append, admitted, others]
      rfl

end Session

end ServerManagement
