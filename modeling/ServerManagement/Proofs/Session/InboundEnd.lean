import ServerManagement.Proofs.Session.Inbound
import ServerManagement.Proofs.Session.ReaderEnd
import ServerManagement.Proofs.Session.Replies

/-!
The inbound side of a session up to its end and afterwards. The reader deals with what comes in
piece by piece until a step ends it; what comes in later has no effect, so that calls whose
responses have not come by then end in some other way.
-/

set_option autoImplicit false

namespace ServerManagement

namespace Session

def Step.isInbound : Step → Bool
  | .receive _ => true
  | _ => false

def Step.message? : Step → Option Inbound
  | .receive (.data frame) => (decodeFrame frame).toOption
  | _ => none

def dealt (session : Session) : List Step → List Inbound :=
  session.along fun session next _ =>
    if session.reader = .running then next.message?.toList else []

/-- What a frame makes of a session whose reader goes on. -/
inductive Reads (session : Session) : Frame → Session → Prop
  | text (content : String) (inbound : Inbound) (later : Session)
      (decoded : decodeFrame (Json.bytesOf content) = .ok inbound)
      (handles : session.Handles inbound later) : Reads session (.text content) later
  | binary (content : Json.Bytes) (inbound : Inbound) (later : Session)
      (decoded : decodeFrame content = .ok inbound) (handles : session.Handles inbound later) :
      Reads session (.binary content) later
  | ping (payload : Json.Bytes) : Reads session (.ping payload) session
  | pong (payload : Json.Bytes) : Reads session (.pong payload) session
  | raw (payload : Json.Bytes) : Reads session (.raw payload) session

variable {session start : Session} {next stop : Step} {steps before after : List Step}
  {call : Call} {isQueued : Bool}

/-! ## Until the reader ends -/

theorem decoded_of_going {frame : Json.Bytes}
    (going : Step.stopsReader (.receive (.data frame)) = false) :
    ∃ inbound, decodeFrame frame = .ok inbound := by
  cases decoded : decodeFrame frame with
  | ok inbound => exact ⟨inbound, rfl⟩
  | error failure => simp [Step.stopsReader, Step.failsReading, Step.shutsDown, decoded] at going

theorem Still.reads (still : session.Still) (sound : session.Sound)
    (running : session.reader = .running) (opened : session.board.isClosed = false)
    (frame : Frame) (going : Step.stopsReader (.receive frame.incoming) = false) :
    Reads session frame (session.step (.receive frame.incoming)).2 := by
  have idle : (session.step (.receive .control)).2 = session :=
    congrArg Prod.snd (still.step_receive_eq (.inl rfl))
  cases frame with
  | text content =>
      obtain ⟨inbound, decoded⟩ := decoded_of_going going
      exact .text content inbound _ decoded (still.handles sound running opened decoded)
  | binary content =>
      obtain ⟨inbound, decoded⟩ := decoded_of_going going
      exact .binary content inbound _ decoded (still.handles sound running opened decoded)
  | ping payload => exact idle.symm ▸ .ping payload
  | pong payload => exact idle.symm ▸ .pong payload
  | raw payload => exact idle.symm ▸ .raw payload
  | close => cases going

/-- A message that ends the reader is no message that can be read. -/
theorem message?_of_stopsReader (stops : next.stopsReader = true) : next.message? = none := by
  cases next with
  | receive incoming =>
      cases incoming with
      | data frame =>
          cases decoded : decodeFrame frame with
          | ok inbound =>
              simp [Step.stopsReader, Step.failsReading, Step.shutsDown, decoded] at stops
          | error failure => simp only [Step.message?, decoded, Except.toOption]
      | control | farewell | broken | ended => rfl
  | _ => rfl

theorem heard?_of_unread (unread : next.message? = none) : session.heard? next = none := by
  cases next with
  | receive incoming =>
      cases incoming with
      | data frame =>
          cases decoded : decodeFrame frame with
          | ok inbound => simp [Step.message?, decoded, Except.toOption] at unread
          | error failure => simp [heard?, decoded]
      | control | farewell | broken | ended => rfl
  | _ => rfl

theorem dealt_append (session : Session) (before after : List Step) :
    session.dealt (before ++ after) = session.dealt before ++ (session.run before).dealt after := by
  induction before generalizing session with
  | nil => rfl
  | cons next before ih =>
      have rest := ih (session.step next).2
      simp only [dealt, List.cons_append, along, List.append_assoc] at rest ⊢
      rw [rest]
      rfl

theorem dealt_of_going (closing : session.Closing)
    (prompt : session.outbound.isStopping = true → session.reader ≠ .running)
    (running : session.reader = .running)
    (going : ∀ next ∈ steps, Step.stopsReader next = false) :
    session.dealt steps = steps.filterMap Step.message? := by
  induction steps generalizing session with
  | nil => rfl
  | cons next steps ih =>
      obtain ⟨acts, stopped⟩ := acts_step closing next
      have goesOn := going next (List.mem_cons_self ..)
      have runs := (running_step_iff closing prompt next).mpr ⟨running, goesOn⟩
      have rest := ih (acts.closing closing) stopped runs fun other member =>
        going other (List.mem_cons_of_mem _ member)
      have here : session.dealt (next :: steps) =
          next.message?.toList ++ (session.step next).2.dealt steps := by
        simp only [dealt, along, if_pos running]
      rw [here, rest, List.filterMap_cons]
      cases next.message? <;> rfl

/-! ## When the reader is gone -/

theorem dealt_of_gone (closing : session.Closing) (gone : session.reader ≠ .running)
    (steps : List Step) : session.dealt steps = [] := by
  refine List.eq_nil_iff_forall_not_mem.mpr fun inbound member => ?_
  obtain ⟨before, next, after, rfl, seen⟩ := mem_along_iff.mp member
  rw [if_neg ((run_gone closing gone before).1 ▸ gone)] at seen
  cases seen

/-- What comes in then might as well not. -/
theorem run_without_inbound (sound : session.Sound) (still : session.Still)
    (closing : session.Closing) (gone : session.reader ≠ .running)
    (few : (session.run steps).callCount < 2 ^ 64) :
    session.run steps = session.run (steps.filter fun next => !next.isInbound) := by
  induction steps generalizing session with
  | nil => rfl
  | cons next steps ih =>
      have early := Nat.lt_of_le_of_lt (callCount_run_le _ steps) few
      have later := ih (sound.step early) (still_step sound early)
        ((acts_step closing next).1.closing closing)
        ((run_gone closing gone [next]).1 ▸ gone) few
      cases comes : next.isInbound with
      | false => simpa [comes] using later
      | true =>
          cases next with
          | receive incoming =>
              have same : (session.step (.receive incoming)).2 = session :=
                congrArg Prod.snd (still.step_receive_eq (.inr gone))
              rw [same] at later
              rw [run_cons, same, later]
              simp [comes]
          | _ => cases comes

/-! ## The last message -/

theorem Still.tasks_of_ended {later : Session} (still : session.Still)
    (idle : later.closer = none) (ended : later.reader ≠ .running)
    (stuck : later.outbound.move? later.writeTerms = none)
    (writer : later.outbound.writer = session.outbound.writer)
    (now : later.now = session.now) : later.TasksRest := by
  refine ⟨⟨stuck, fun _ => ended⟩, fun closer waits => ?_, fun left deadline closes => ?_⟩
  · rw [idle] at waits
    cases waits
  · rw [now]
    exact still.closing left deadline (writer.symm.trans closes)

/-- A message that ends the reader gives the other tasks nothing to do. -/
theorem Still.tasks_receive (still : session.Still) (idle : session.closer = none)
    {incoming : Incoming} (stops : Step.stopsReader (.receive incoming) = true) :
    (session.receive incoming).TasksRest := by
  have ended : (session.receive incoming).reader ≠ .running := reader_receive stops
  have failing (line : LogLine) (ended : (session.failReading line).reader ≠ .running) :
      (session.failReading line).TasksRest := by
    revert ended
    unfold failReading
    dsimp only
    split <;> exact fun ended => still.tasks_of_ended idle ended still.outbound rfl rfl
  revert ended
  unfold receive
  split
  · exact fun _ => still.tasks
  · cases incoming with
    | control => cases stops
    | broken => exact failing _
    | ended => exact fun ended => still.tasks_of_ended idle ended still.outbound rfl rfl
    | farewell =>
        intro ended
        refine still.tasks_of_ended idle ended ?_ rfl rfl
        -- Neither those who wait nor the writer mind that the line is closing.
        obtain ⟨stuck, full⟩ := Outbound.move?_eq_none_iff.mp still.outbound
        have why := Outbound.write?_eq_none_iff.mp stuck
        exact Outbound.move?_eq_none_iff.mpr ⟨Outbound.write?_eq_none_iff.mpr why, full⟩
    | data frame =>
        dsimp only
        split
        · exact failing _
        all_goals
          rename_i decoded
          simp [Step.stopsReader, Step.failsReading, Step.shutsDown, decoded] at stops

theorem CallsRest.quiet {later : Session} (rest : session.CallsRest) (quiet : Quiet session later)
    (now : later.now = session.now) : later.CallsRest := by
  intro call member
  rw [quiet.calls] at member
  have kept := quiet.keeps member
  have answers : later.answer call = session.answer call := by
    simp only [answer, kept.waiting, kept.slot]
  have times : later.lateness call = session.lateness call := by simp only [lateness, now]
  rw [answers, times]
  exact rest call member

/-- When a message ends the reader, only the streams go on. -/
theorem Still.step_of_stop (still : session.Still) (idle : session.closer = none)
    {incoming : Incoming} (stops : Step.stopsReader (.receive incoming) = true) :
    (session.step (.receive incoming)).2 = (session.receive incoming).settleStreams := by
  have unheard : session.heard? (.receive incoming) = none :=
    heard?_of_unread (message?_of_stopsReader stops)
  have rest := still.tasks_receive idle stops
  have calls : (session.receive incoming).CallsRest :=
    CallsRest.quiet still.calls (quiet_receive unheard) (session.now_receive incoming)
  have settled := rest.settle_eq (calls.settleCalls_eq.symm ▸ rest)
  rwa [calls.settleCalls_eq] at settled

theorem Still.calls_of_stop (still : session.Still) (idle : session.closer = none)
    {incoming : Incoming} (stops : Step.stopsReader (.receive incoming) = true) :
    (session.step (.receive incoming)).2.calls = session.calls ∧
      (session.step (.receive incoming)).2.correlator = session.correlator := by
  have unheard : session.heard? (.receive incoming) = none :=
    heard?_of_unread (message?_of_stopsReader stops)
  have quiet := quiet_receive unheard
  rw [still.step_of_stop idle stops]
  exact ⟨quiet.calls, quiet.correlator⟩

/-! ## Runs -/

structure Listening (session : Session) : Prop where
  sound : session.Sound
  still : session.Still
  closing : session.Closing
  running : session.reader = .running
  opened : session.board.isClosed = false

theorem listening_of_running (settings : Settings) (lineCapacity : Nat) (loggerPanics : Bool)
    (few : ((create settings lineCapacity loggerPanics).run steps).callCount < 2 ^ 64)
    (running : ((create settings lineCapacity loggerPanics).run steps).reader = .running) :
    ((create settings lineCapacity loggerPanics).run steps).Listening := by
  have closing := Closing.create settings lineCapacity loggerPanics
  exact ⟨(Sound.create settings lineCapacity loggerPanics).run few,
    still_run settings lineCapacity loggerPanics steps few, closing.run steps, running,
    (run_running closing rfl rfl steps).1 running⟩

theorem listening_run (settings : Settings) (lineCapacity : Nat) (loggerPanics : Bool)
    (few : ((create settings lineCapacity loggerPanics).run steps).callCount < 2 ^ 64)
    (going : ∀ next ∈ steps, Step.stopsReader next = false) :
    ((create settings lineCapacity loggerPanics).run steps).Listening :=
  listening_of_running settings lineCapacity loggerPanics few
    (running_run (Closing.create settings lineCapacity loggerPanics)
      (fun stops => absurd stops Bool.false_ne_true) rfl going)

namespace Listening

theorem idle (listening : session.Listening) : session.closer = none := by
  by_cases waits : session.closer = none
  · exact waits
  · exact absurd listening.running (listening.still.reader (listening.closing.closer waits))

theorem gone_of_stop (listening : session.Listening) (stops : stop.stopsReader = true) :
    (session.step stop).2.reader ≠ .running := by
  intro runs
  have goesOn := ((running_step_iff listening.closing listening.still.reader stop).mp runs).2
  exact Bool.false_ne_true (goesOn.symm.trans stops)

theorem closing_of_stop (listening : session.Listening) (stop : Step) :
    (session.step stop).2.Closing :=
  (acts_step listening.closing stop).1.closing listening.closing

theorem reader_of_stop (listening : session.Listening) (stops : stop.stopsReader = true)
    (after : List Step) : (session.run (stop :: after)).reader ≠ .running := by
  have gone := listening.gone_of_stop stops
  exact (run_gone (listening.closing_of_stop stop) gone after).1 ▸ gone

theorem heard_of_stop (listening : session.Listening) (stops : stop.stopsReader = true)
    (after : List Step) : session.heard (stop :: after) = [] := by
  have unheard : session.heard? stop = none := heard?_of_unread (message?_of_stopsReader stops)
  have rest := heard_of_gone (listening.closing_of_stop stop) (listening.gone_of_stop stops) after
  have whole : session.heard (stop :: after) =
      (session.heard? stop).toList ++ (session.step stop).2.heard after := rfl
  rw [whole, unheard, rest]
  rfl

theorem dealt_of_stop (listening : session.Listening) (stops : stop.stopsReader = true)
    (after : List Step) : session.dealt (stop :: after) = [] := by
  have rest := dealt_of_gone (listening.closing_of_stop stop) (listening.gone_of_stop stops) after
  have whole : session.dealt (stop :: after) =
      (if session.reader = .running then stop.message?.toList else []) ++
        (session.step stop).2.dealt after := rfl
  rw [whole, message?_of_stopsReader stops, rest]
  simp

/-- What a call is told after the reader has ended it was told before. -/
theorem repliedIn_of_stop {number : Nat} {response : Response}
    (listening : (start.run before).Listening) (stops : stop.stopsReader = true)
    (replied : start.RepliedIn (before ++ stop :: after) number response) :
    start.RepliedIn before number response := by
  obtain ⟨earlier, next, rest, split, heard, own⟩ := replied
  rcases List.append_eq_append_iff.mp split with
    ⟨passed, rfl, later⟩ | ⟨ahead, rfl, later⟩
  · -- Nothing is heard from the end of the reader on.
    have silent := listening.heard_of_stop stops after
    rw [run_append] at heard
    have member : response ∈ (start.run before).heard (stop :: after) :=
      mem_along_iff.mpr ⟨passed, next, rest, later, by simp [heard]⟩
    rw [silent] at member
    cases member
  · cases ahead with
    | nil =>
        obtain ⟨rfl, _⟩ := List.cons.inj later
        rw [heard?_of_unread (message?_of_stopsReader stops)] at heard
        cases heard
    | cons head ahead =>
        obtain ⟨rfl, _⟩ := List.cons.inj later
        exact ⟨earlier, next, ahead, rfl, heard, own⟩

/-- The end of the reader closes the board, unless the connection is closed without any time to wait
for its tasks. -/
theorem noticesClosed_of_stop (listening : session.Listening) (calm : session.loggerPanics = false)
    (stops : stop.stopsReader = true) (timed : ¬(stop = .close ∧ session.ioTimeout = 0))
    (after : List Step) : (session.run (stop :: after)).board.isClosed = true := by
  have spared : session.strands stop = false := by
    cases closes : stop.closes with
    | false => simp [strands, calm, closes]
    | true =>
        have same : stop = .close := by cases stop <;> first | rfl | cases closes
        have slow : session.ioTimeout ≠ 0 := fun none => timed ⟨same, none⟩
        simp [strands, calm, slow]
  have rest :=
    (run_gone (listening.closing_of_stop stop) (listening.gone_of_stop stops) after).2.2
  refine ((run_running listening.closing listening.running listening.opened (stop :: after)).2
    (listening.reader_of_stop stops after)).mpr ?_
  simpa [strandings, along, spared] using rest

/-- A call whose response has not come is listed until it is given up or its time is up, or it is
turned away while it waits for room. -/
theorem listed_of_stop (listening : session.Listening) (stops : stop.stopsReader = true)
    (few : (session.run (stop :: after)).callCount < 2 ^ 64)
    (stands : Stands call (!session.outbound.isWaiting call.number) none session) :
    let later := session.run (stop :: after)
    let spared := (∀ next ∈ after, Step.givesUp call next = false) ∧ later.now < call.deadline
    (call.id ∈ later.correlator.entries.keys → spared) ∧
      (spared → call.id ∈ later.correlator.entries.keys ∨
        session.outbound.isWaiting call.number = true ∧
          later.outcomes call.number = [.error .queueClosed]) := by
  intro later spared
  have unlisted {results : List (Except Failure Response)} (gone : Gone call.number results later) :
      call.id ∉ later.correlator.entries.keys :=
    unlisted_of_gone listening.sound few stands.mem gone.absent
  have quits : Step.givesUp call stop = false := by
    cases stop <;> first | rfl | cases stops
  -- A step that gives the call up comes after the end of the reader.
  have kept {next : Step} (member : next ∈ stop :: after) (gives : Step.givesUp call next = true) :
      ¬∀ next ∈ after, Step.givesUp call next = false := by
    intro keeps
    rcases List.mem_cons.mp member with rfl | member
    · cases quits.symm.trans gives
    · cases (keeps next member).symm.trans gives
  cases stands.ending listening.sound few with
  | stays keeps stands =>
      have still : later.Still :=
        still_of_run listening.sound few
      rw [listening.heard_of_stop stops after] at stands
      have listed :=
        ((listening.sound.run few).accounts.find?_eq_some_iff stands.mem).mpr stands.slot
      have present : call.id ∈ later.correlator.entries.keys :=
        (Directory.mem_keys_iff ..).mpr ⟨_, listed⟩
      exact ⟨fun _ => ⟨(List.forall_mem_cons.mp keeps).2, still.early stands.mem⟩,
        fun _ => .inl present⟩
  | answered response queued replied gone =>
      rw [listening.heard_of_stop stops after] at replied
      cases replied
  | cancelled cancels gone =>
      obtain ⟨next, member, cancels⟩ := cancels
      have gives : Step.givesUp call next = true := by simp [Step.givesUp, cancels]
      exact ⟨fun listed => absurd listed (unlisted gone), fun spared =>
        absurd spared.1 (kept member gives)⟩
  | abandoned abandons gone =>
      obtain ⟨next, member, abandons⟩ := abandons
      have gives : Step.givesUp call next = true := by simp [Step.givesUp, abandons]
      exact ⟨fun listed => absurd listed (unlisted gone), fun spared =>
        absurd spared.1 (kept member gives)⟩
  | late late gone =>
      exact ⟨fun listed => absurd listed (unlisted gone), fun spared =>
        absurd late (Nat.not_le_of_lt spared.2)⟩
  | turned waits _ gone =>
      exact ⟨fun listed => absurd listed (unlisted gone), fun _ =>
        .inr ⟨by simpa using waits, gone.outcomes⟩⟩

end Listening

/-- What comes in is dealt with piece by piece until a step ends the reader, and has no effect
afterwards. The board is closed then, no response reaches a call any more, and the calls whose
responses have not come stay listed until they are given up or their time is up, or they are turned
away while they wait for room in the queue. -/
theorem inbound_ends_at_stop (settings : Settings) (lineCapacity : Nat) (before : List Step)
    (stop : Step) (after : List Step)
    (few : ((create settings lineCapacity false).run (before ++ stop :: after)).callCount < 2 ^ 64)
    (going : ∀ next ∈ before, Step.stopsReader next = false) (stops : stop.stopsReader = true) :
    let start := create settings lineCapacity false
    let session := start.run before
    let later := start.run (before ++ stop :: after)
    start.dealt (before ++ stop :: after) = before.filterMap Step.message? ∧
      (∀ earlier frame rest, before = earlier ++ .receive (Frame.incoming frame) :: rest →
        Reads (start.run earlier) frame
          ((start.run earlier).step (.receive (Frame.incoming frame))).2) ∧
      (∀ content, (Frame.text content).incoming =
        (Frame.binary (Json.bytesOf content)).incoming) ∧
      (∀ incoming, stop = .receive incoming → (session.step stop).2.calls = session.calls ∧
        (session.step stop).2.correlator = session.correlator) ∧
      (∀ incoming, later.step (.receive incoming) = (.done, later)) ∧
      later = start.run (before ++ stop :: after.filter fun next => !next.isInbound) ∧
      (¬(stop = .close ∧ settings.ioTimeout = 0) → later.board.isClosed = true) ∧
      (∀ number response, .ok response ∈ later.outcomes number →
        start.RepliedIn before number response) ∧
      ∀ call ∈ session.calls, call.id ∈ session.correlator.entries.keys →
        let spared := (∀ next ∈ after, Step.givesUp call next = false) ∧ later.now < call.deadline
        (call.id ∈ later.correlator.entries.keys → spared) ∧
          (spared → call.id ∈ later.correlator.entries.keys ∨
            session.outbound.isWaiting call.number = true ∧
              later.outcomes call.number = [.error .queueClosed]) := by
  intro start session later
  have sound : start.Sound := .create settings lineCapacity false
  have whole : later = session.run (stop :: after) := run_append ..
  have fewLater : (session.run (stop :: after)).callCount < 2 ^ 64 := by
    rw [← whole]
    exact few
  have fewBefore := Nat.lt_of_le_of_lt (callCount_run_le session (stop :: after)) fewLater
  have listening : session.Listening :=
    listening_run settings lineCapacity false fewBefore going
  refine ⟨?_, ?_, fun _ => rfl, ?_, ?_, ?_, ?_, ?_, ?_⟩
  · have dealt : start.dealt before = before.filterMap Step.message? :=
      dealt_of_going (.create settings lineCapacity false)
        (fun stops => absurd stops Bool.false_ne_true) rfl going
    rw [dealt_append, dealt, listening.dealt_of_stop stops after, List.append_nil]
  · rintro earlier frame rest rfl
    have goesOn : ∀ next ∈ earlier, Step.stopsReader next = false :=
      fun next member => going next (List.mem_append_left _ member)
    have fewEarlier : (start.run earlier).callCount < 2 ^ 64 := by
      refine Nat.lt_of_le_of_lt ?_ fewBefore
      change _ ≤ (start.run (earlier ++ _ :: rest)).callCount
      rw [run_append]
      exact callCount_run_le _ _
    have earlier := listening_run settings lineCapacity false fewEarlier goesOn
    exact earlier.still.reads earlier.sound earlier.running earlier.opened frame
      (going _ (List.mem_append_right _ (List.mem_cons_self ..)))
  · rintro incoming rfl
    exact listening.still.calls_of_stop listening.idle stops
  · intro incoming
    have still : later.Still := still_run settings lineCapacity false _ few
    refine still.step_receive_eq (.inr ?_)
    rw [whole]
    exact listening.reader_of_stop stops after
  · rw [whole, run_append]
    have soon := Nat.lt_of_le_of_lt (callCount_run_le _ after) fewLater
    exact run_without_inbound (listening.sound.step soon) (still_step listening.sound soon)
      (listening.closing_of_stop stop) (listening.gone_of_stop stops) fewLater
  · intro timed
    obtain ⟨ioTimeout, calm⟩ := terms_run (.create settings lineCapacity false) before
    rw [whole]
    exact listening.noticesClosed_of_stop calm stops
      (fun ⟨closes, instant⟩ => timed ⟨closes, ioTimeout.symm.trans instant⟩) after
  · intro number response answered
    exact listening.repliedIn_of_stop stops (repliedIn_of_ok sound rfl few answered)
  · intro call member listed
    have stands := stands_of_listed sound rfl fewBefore member listed
    rw [whole]
    exact listening.listed_of_stop stops fewLater stands

/-- Of two calls one is answered before the peer closes its side; the response to the other comes
too late. -/
theorem inbound_ends_at_stop_of_farewell :
    let response (text : String) : Step := .receive (.data (Json.bytesOf text))
    let before : List Step := [.call "a" .none .standard, .call "b" .none .standard,
      response r#"{"id":1,"result":true}"#, .receive .control]
    let after : List Step := [response r#"{"id":2,"result":true}"#, .advance 10]
    let start := create .standard 1024 false
    let later := start.run (before ++ .receive .farewell :: after)
    later.callCount < 2 ^ 64 ∧ (∀ next ∈ before, Step.stopsReader next = false) ∧
      Step.stopsReader (.receive .farewell) = true ∧
      start.dealt (before ++ .receive .farewell :: after) =
        [.response ⟨some 1, "", none, some (.bool true), none⟩] ∧
      later.board.isClosed = true ∧ (2 : UInt64) ∈ later.correlator.entries.keys := by
  intro response before after start later
  have few : later.callCount < 2 ^ 64 := by decide +kernel
  have going : ∀ next ∈ before, Step.stopsReader next = false := by decide +kernel
  obtain ⟨dealt, _, _, _, _, _, closed, _, listed⟩ :=
    inbound_ends_at_stop .standard 1024 before (.receive .farewell) after few going rfl
  refine ⟨few, going, rfl, dealt.trans (by decide +kernel), closed nofun, ?_⟩
  have present : ∃ call ∈ (start.run before).calls, call.id = 2 ∧
      call.id ∈ (start.run before).correlator.entries.keys ∧
      (start.run before).outbound.isWaiting call.number = false ∧
      (∀ next ∈ after, Step.givesUp call next = false) ∧ later.now < call.deadline := by
    decide +kernel
  obtain ⟨call, member, second, entered, admitted, kept, early⟩ := present
  rcases (listed call member entered).2 ⟨kept, early⟩ with still | ⟨waits, _⟩
  · exact second ▸ still
  · exact absurd (admitted.symm.trans waits) Bool.false_ne_true

/-- The third call waits for room in the queue when the connection is closed. It is turned away
before its time is up, though it has not been given up. -/
theorem waiting_call_leaves_table_at_close :
    let before : List Step := [.pause, .call "a" .none .standard, .call "b" .none .standard,
      .call "c" .none .standard]
    let after : List Step := [.advance 50]
    let start := create ⟨5000, 50, 1, 8⟩ 0 false
    let session := start.run before
    let later := start.run (before ++ .close :: after)
    (∀ next ∈ before, Step.stopsReader next = false) ∧
      Step.stopsReader .close = true ∧
      ∃ call ∈ session.calls, call.id ∈ session.correlator.entries.keys ∧
        (∀ next ∈ after, Step.givesUp call next = false) ∧ later.now < call.deadline ∧
        call.id ∉ later.correlator.entries.keys := by
  decide +kernel

end Session

end ServerManagement
