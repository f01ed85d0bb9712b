import ServerManagement.Proofs.Notice.StreamBacklog
import ServerManagement.Proofs.Notice.StreamFollowing

/-!
The ledger of a stream. While nobody else gives its topic up, what its reader has had and what is
left for it are together the events among the notifications that have come into its mailbox, and
the stream holds its topic exactly until it ends.
-/

set_option autoImplicit false

namespace ServerManagement

/-- Whose stream it is, what has come into its mailbox and what its reader has had. -/
structure StreamLedger where
  kind : EventKind
  mailbox : Nat
  token : Token
  delivered : List Notification
  received : List ServerEvent

namespace StreamLedger

def topic (ledger : StreamLedger) : String := ledger.kind.topic

def due (ledger : StreamLedger) : List ServerEvent :=
  EventStream.events ledger.kind ledger.delivered

def deliver (ledger : StreamLedger) (notifications : List Notification) : StreamLedger :=
  { ledger with delivered := ledger.delivered ++ notifications }

def receive (ledger : StreamLedger) (events : List ServerEvent) : StreamLedger :=
  { ledger with received := ledger.received ++ events }

@[simp] theorem deliver_nil (ledger : StreamLedger) : ledger.deliver [] = ledger := by
  simp [deliver]

@[simp] theorem receive_nil (ledger : StreamLedger) : ledger.receive [] = ledger := by
  simp [receive]

theorem due_deliver (ledger : StreamLedger) (notifications : List Notification) :
    (ledger.deliver notifications).due =
      ledger.due ++ EventStream.events ledger.kind notifications := List.filterMap_append

end StreamLedger

namespace EventStream

structure Tended (cancelled : List Token) (ledger : StreamLedger) (board : Board)
    (stream : EventStream) : Prop where
  kind : stream.kind = ledger.kind
  mailbox : stream.mailbox = ledger.mailbox
  token : stream.token = ledger.token
  tidy : board.Tidy
  placed : ledger.mailbox < board.mailboxes.length
  /-- No other topic leads to the mailbox. -/
  own : ∀ entry ∈ board.topics.entries, entry.2 = ledger.mailbox → entry.1 = ledger.topic
  present : stream.isLive = true → (board.mailbox ledger.mailbox).isAbandoned = false
  linked : stream.isLive = true → board.isClosed = false →
    board.topics.find? ledger.topic = some ledger.mailbox
  unlinked : stream.isLive = false → board.isLinked ledger.mailbox = false
  cause : stream.isLive = false →
    cancelled.contains ledger.token = true ∨ stream.isAbandoned = true ∨ board.isClosed = true
  bounded : stream.isLive = true →
    (board.mailbox ledger.mailbox).unread.length ≤ board.capacity
  forgone : stream.isAbandoned = true → stream.ready = none
  ordered : ledger.received ++ stream.ready.toList <+: ledger.due
  whole : stream.isLive = true → stream.isAbandoned = false →
    ledger.received ++ stream.backlog board = ledger.due

variable {cancelled : List Token} {ledger : StreamLedger} {board later : Board}
  {stream other : EventStream} {number : Nat}

theorem sweep_append {streams : List EventStream}
    (resting : ∀ other ∈ streams, other.Rests cancelled board) (stream : EventStream) :
    sweep cancelled board (streams ++ [stream]) =
      ((stream.advance cancelled board).1, streams ++ [(stream.advance cancelled board).2]) := by
  induction streams with
  | nil => rfl
  | cons first streams ih =>
      have still := (resting first (List.mem_cons_self ..)).advance_eq_self
      have rest := ih fun other member => resting other (List.mem_cons_of_mem _ member)
      simp only [List.cons_append, sweep, still, rest]

theorem Rests.subscribe (rests : stream.Rests cancelled board) (topic : String) :
    stream.Rests cancelled (board.subscribe topic).2 := by
  cases rests with
  | ended ended => exact .ended ended
  | full live uncancelled present held ready => exact .full live uncancelled present held ready
  | empty live uncancelled present held unread linked =>
      exact .empty live uncancelled present held ((board.unread_subscribe topic _).trans unread)
        (Board.isLinked_subscribe linked topic)

theorem pull_suffix (stream : EventStream) (unread : List Notification) :
    (stream.pull unread).2 <:+ unread := by
  fun_induction pull stream unread with
  | case1 stream => exact List.suffix_refl _
  | case2 stream notification unread held => exact List.suffix_refl _
  | case3 stream notification unread free failure skipped ih =>
      exact ih.trans (List.suffix_cons ..)
  | case4 stream notification unread free event decoded ih =>
      exact ih.trans (List.suffix_cons ..)

namespace Tended

/-! ## Beside the stream -/

/-- What leaves the subscription of a live stream alone leaves the ledger as it is. -/
theorem untouched (tended : stream.Tended cancelled ledger board)
    (evolves : Board.Evolves board later)
    (opened : later.isClosed = false → board.isClosed = false)
    (frame : stream.isLive = true →
      Board.Untouched ledger.topic ledger.mailbox board later) :
    stream.Tended cancelled ledger later where
  kind := tended.kind
  mailbox := tended.mailbox
  token := tended.token
  tidy := evolves.tidy tended.tidy
  placed := Nat.lt_of_lt_of_le tended.placed evolves.length
  own entry member same := by
    rcases evolves.origin entry member with old | new
    · exact tended.own entry old same
    · exact absurd tended.placed (Nat.not_lt_of_le (same ▸ new))
  present live := by
    rw [(frame live).box]
    exact tended.present live
  linked live still := (frame live).kept still (tended.linked live (opened still))
  unlinked ended := evolves.unlinked tended.placed (tended.unlinked ended)
  cause ended := (tended.cause ended).imp_right (·.imp_right fun closed => by
    cases still : later.isClosed with
    | true => rfl
    | false => exact (opened still).symm.trans closed)
  bounded live := by
    rw [(frame live).box, (frame live).capacity]
    exact tended.bounded live
  forgone := tended.forgone
  ordered := tended.ordered
  whole live here := by
    have same : stream.backlog later = stream.backlog board := by
      simp only [backlog, tended.mailbox, (frame live).box]
    rw [same]
    exact tended.whole live here

/-- Another stream that goes on does not matter, unless it ends and takes the topic. -/
theorem beside (tended : stream.Tended cancelled ledger board)
    (differs : other.mailbox ≠ ledger.mailbox)
    (spared : stream.isLive = true → board.isClosed = false → other.kind.topic = ledger.topic →
      other.isLive = true → (other.advance cancelled board).2.isLive = true) :
    stream.Tended cancelled ledger (other.advance cancelled board).1 := by
  have settles := settles_advance cancelled board other
  exact tended.untouched settles.evolves (fun opened => settles.isClosed.symm.trans opened)
    fun live => untouched_advance differs (spared live)

theorem cancel (tended : stream.Tended cancelled ledger board) {more : List Token}
    (grows : cancelled ⊆ more) : stream.Tended more ledger board :=
  { tended with
    cause := fun ended => (tended.cause ended).imp_left fun named =>
      List.contains_iff_mem.mpr (grows (List.contains_iff_mem.mp named)) }

/-! ## Notifications -/

theorem enter (tended : stream.Tended cancelled ledger board) (live : stream.isLive = true)
    (room : (board.mailbox ledger.mailbox).unread.length < board.capacity)
    (notification : Notification) :
    stream.Tended cancelled (ledger.deliver [notification])
      (board.withUnread ledger.mailbox notification) := by
  have box := Board.mailbox_withUnread tended.placed notification
  have evolves : Board.Evolves board (board.withUnread ledger.mailbox notification) :=
    Board.evolves_of_same (List.length_set ..)
  refine ⟨tended.kind, tended.mailbox, tended.token, evolves.tidy tended.tidy,
    Nat.lt_of_lt_of_le tended.placed evolves.length, tended.own, fun _ => ?_, tended.linked,
    tended.unlinked, tended.cause, fun _ => ?_, tended.forgone, ?_, fun _ here => ?_⟩
  · exact (congrArg Mailbox.isAbandoned box).trans (tended.present live)
  · have longer := congrArg (fun box => box.unread.length) box
    simp only [List.length_append, List.length_singleton] at longer
    exact Nat.le_trans (Nat.le_of_eq longer) room
  · rw [ledger.due_deliver]
    exact tended.ordered.trans (List.prefix_append ..)
  · have more : stream.backlog (board.withUnread ledger.mailbox notification) =
        stream.backlog board ++ events ledger.kind [notification] := by
      have unread := congrArg Mailbox.unread box
      dsimp only at unread
      simp only [backlog, live, if_true, tended.mailbox, unread, tended.kind, events,
        List.filterMap_append, List.append_assoc]
    have whole := tended.whole live here
    rw [ledger.due_deliver, more, ← whole, List.append_assoc]
    rfl

/-- A notification that comes in is delivered exactly if it enters the mailbox. -/
theorem post (tended : stream.Tended cancelled ledger board) (notification : Notification) :
    stream.Tended cancelled (ledger.deliver (board.entering ledger.mailbox notification))
      (board.post notification).2 := by
  have evolves := board.evolves_post notification
  have opened : (board.post notification).2.isClosed = false → board.isClosed = false :=
    fun opened => (board.isClosed_post notification).symm.trans opened
  by_cases found : board.topics.find? ledger.topic = some ledger.mailbox
  · have live : stream.isLive = true := by
      cases live : stream.isLive with
      | true => rfl
      | false =>
          have unlinked := Board.isLinked_eq_false_iff.mp (tended.unlinked live)
          exact absurd rfl (unlinked _ ((Directory.find?_eq_some_iff ..).mp found))
    cases tended.tidy.reception found (tended.present live) notification with
    | elsewhere differs spared frame =>
        rw [spared, ledger.deliver_nil]
        exact tended.untouched evolves opened fun _ => frame
    | lost same full spared unchanged =>
        rw [spared, unchanged, ledger.deliver_nil]
        exact tended
    | enters same room entered posted =>
        rw [entered, posted]
        exact tended.enter live room notification
  · have spared : board.entering ledger.mailbox notification = [] := by
      refine if_neg fun enters => found ?_
      have entry := (Directory.find?_eq_some_iff ..).mp enters.1
      rw [← tended.own _ entry rfl]
      exact enters.1
    rw [spared, ledger.deliver_nil]
    refine tended.untouched evolves opened fun live => ?_
    -- A live stream without its topic is one of a closed board.
    have closed : board.isClosed = true := by
      cases closed : board.isClosed with
      | true => rfl
      | false => exact absurd (tended.linked live closed) found
    have unchanged : (board.post notification).2 = board := by simp [Board.post, closed]
    rw [unchanged]
    exact .refl _ _ board

/-! ## The stream itself -/

theorem retire (tended : stream.Tended cancelled ledger board)
    (cause : cancelled.contains ledger.token = true ∨ stream.isAbandoned = true ∨
      board.isClosed = true) :
    (stream.retire board).2.Tended cancelled ledger (stream.retire board).1 := by
  have evolves := evolves_retire board stream
  refine ⟨tended.kind, tended.mailbox, tended.token, evolves.tidy tended.tidy,
    Nat.lt_of_lt_of_le tended.placed evolves.length, fun entry member => ?_, nofun, nofun,
    fun _ => ?_, fun _ => cause, nofun, tended.forgone, tended.ordered, nofun⟩
  · exact tended.own entry (List.mem_filter.mp member).1
  · refine Board.isLinked_eq_false_iff.mpr fun entry member same => ?_
    obtain ⟨old, kept⟩ := List.mem_filter.mp member
    have topic : entry.1 = stream.kind.topic := tended.kind ▸ tended.own entry old same
    exact of_decide_eq_true kept topic

theorem pull (tended : stream.Tended cancelled ledger board) (live : stream.isLive = true)
    (present : stream.isAbandoned = false) :
    let pulled := stream.offer.pull (board.mailbox stream.mailbox).unread
    pulled.1.Tended cancelled ledger (board.keep pulled.1.mailbox pulled.2) := by
  intro pulled
  have owner : SameOwner stream pulled.1 := sameOwner_pull stream _
  have mine : pulled.1.mailbox = ledger.mailbox := owner.mailbox.trans tended.mailbox
  have evolves := board.evolves_keep pulled.1.mailbox pulled.2
  have box := Board.mailbox_keep_self tended.placed pulled.2
  have shorter : pulled.2.length ≤ (board.mailbox ledger.mailbox).unread.length :=
    tended.mailbox ▸ (pull_suffix stream.offer (board.mailbox stream.mailbox).unread).length_le
  have alive : pulled.1.isLive = true := owner.isLive.trans live
  have here : pulled.1.isAbandoned = false := owner.isAbandoned.trans present
  have whole : ledger.received ++ pulled.1.backlog (board.keep pulled.1.mailbox pulled.2) =
      ledger.due := (backlog_pull board live).symm ▸ tended.whole live present
  rw [mine] at evolves whole ⊢
  refine ⟨owner.kind.trans tended.kind, mine, owner.token.trans tended.token,
    evolves.tidy tended.tidy, Nat.lt_of_lt_of_le tended.placed evolves.length, tended.own,
    fun _ => ?_, fun _ => tended.linked live, ?_, ?_, fun _ => ?_, ?_, ?_, fun _ _ => whole⟩
  · exact (congrArg Mailbox.isAbandoned box).trans (tended.present live)
  · rw [alive]
    exact nofun
  · rw [alive]
    exact nofun
  · rw [box]
    exact Nat.le_trans shorter (tended.bounded live)
  · rw [here]
    exact nofun
  · rw [← whole, backlog, ← List.append_assoc]
    exact List.prefix_append ..

theorem advance (tended : stream.Tended cancelled ledger board) :
    (stream.advance cancelled board).2.Tended cancelled ledger
      (stream.advance cancelled board).1 := by
  cases live : stream.isLive with
  | false =>
      have rests : stream.Rests cancelled board := .ended live
      rw [rests.advance_eq_self]
      exact tended
  | true =>
      cases doomed : cancelled.contains stream.token || stream.isAbandoned with
      | true =>
          rw [advance_of_doomed live doomed]
          rw [tended.token, Bool.or_eq_true] at doomed
          exact tended.retire (doomed.imp_right .inl)
      | false =>
          obtain ⟨uncancelled, present⟩ := Bool.or_eq_false_iff.mp doomed
          have pulled := tended.pull live present
          have alive := (sameOwner_pull stream (board.mailbox stream.mailbox).unread).isLive.trans
            live
          rw [advance_eq live uncancelled present]
          dsimp only at pulled ⊢
          split
          · rename_i ends
            -- The topic of a live stream leads to its mailbox, unless the board is closed.
            refine pulled.retire (.inr (.inr ?_))
            cases closed : Board.isClosed _ with
            | true => rfl
            | false =>
                have linked := Board.isLinked_of_find? (pulled.linked alive closed)
                rw [← pulled.mailbox] at linked
                simp [linked] at ends
          · exact pulled

/-- While streams go on that do not give up the topic, the ledger stays as it is. -/
theorem settle {streams : List EventStream} (tended : stream.Tended cancelled ledger board)
    (here : streams[number]? = some stream) (apart : Alone ledger.mailbox number streams)
    (spared : stream.isLive = true → board.isClosed = false →
      Spared (·.topic = ledger.topic) number streams (settle cancelled board streams).2) :
    ∃ after, (settle cancelled board streams).2[number]? = some after ∧
      after.Tended cancelled ledger (settle cancelled board streams).1 := by
  -- Which streams matter is settled by how the stream and the board are found.
  let concerned (kind : EventKind) : Prop :=
    stream.isLive = true ∧ board.isClosed = false ∧ kind.topic = ledger.topic
  let holds (now : Board) (after : EventStream) : Prop :=
    after.Tended cancelled ledger now ∧ now.isClosed = board.isClosed ∧
      (after.isLive = true → stream.isLive = true)
  have own : ∀ (now : Board) (after : EventStream), after.mailbox = ledger.mailbox →
      holds now after → holds (after.advance cancelled now).1 (after.advance cancelled now).2 := by
    rintro now after _ ⟨agrees, closed, lives⟩
    have settles := settles_advance cancelled now after
    refine ⟨agrees.advance, settles.isClosed.trans closed, fun alive => lives ?_⟩
    cases settles.fades with
    | cons _ fading _ => exact fading alive
  have beside : ∀ (now : Board) (after other : EventStream), other.mailbox ≠ ledger.mailbox →
      (concerned other.kind → other.isLive = true →
        (other.advance cancelled now).2.isLive = true) →
      holds now after → holds (other.advance cancelled now).1 after := by
    rintro now after other differs spared ⟨agrees, closed, lives⟩
    refine ⟨?_, (settles_advance cancelled now other).isClosed.trans closed, lives⟩
    exact agrees.beside differs fun alive opened topic =>
      spared ⟨lives alive, closed.symm.trans opened, topic⟩
  have others : Spared concerned number streams (EventStream.settle cancelled board streams).2 :=
    fun index before after differs early last concerns =>
      spared concerns.1 concerns.2.1 index before after differs early last concerns.2.2
  obtain ⟨after, found, agrees, _⟩ :=
    follow_settle own beside here tended.mailbox apart others ⟨tended, rfl, id⟩
  exact ⟨after, found, agrees⟩

/-- A stream that nothing ends stays live while streams go on. -/
theorem live_of_settle {streams : List EventStream} {after : EventStream}
    (here : streams[number]? = some stream)
    (uncancelled : cancelled.contains stream.token = false) (present : stream.isAbandoned = false)
    (opened : board.isClosed = false)
    (last : (EventStream.settle cancelled board streams).2[number]? = some after)
    (tended : after.Tended cancelled ledger (EventStream.settle cancelled board streams).1) :
    after.isLive = true ∧ after.isAbandoned = false := by
  obtain ⟨before, found, owner⟩ :=
    owner_of_getElem? (owners_settle cancelled board streams) last
  obtain rfl : stream = before := Option.some.inj (here.symm.trans found)
  have token : after.token = stream.token := congrArg (fun owner => owner.2.2.1) owner
  have reader : after.isAbandoned = false :=
    (congrArg (fun owner => owner.2.2.2) owner).trans present
  refine ⟨?_, reader⟩
  cases ended : after.isLive with
  | true => rfl
  | false =>
      rcases tended.cause ended with named | gone | shut
      · rw [← tended.token, token, uncancelled] at named
        exact named
      · rw [reader] at gone
        exact gone
      · rw [(settles_settle cancelled board streams).isClosed, opened] at shut
        exact shut

/-! ## The reader of the stream -/

theorem read (tended : stream.Tended cancelled ledger board) :
    stream.read.2.Tended cancelled (ledger.receive stream.ready.toList) board := by
  cases ready : stream.ready with
  | none =>
      have same : stream.read.2 = stream := by simp only [EventStream.read, ready]
      rw [same, Option.toList_none, ledger.receive_nil]
      exact tended
  | some event =>
      have emptied : stream.read.2 = { stream with ready := none } := by
        simp only [EventStream.read, ready]
      have ordered := tended.ordered
      rw [ready] at ordered
      rw [emptied]
      refine { tended with forgone := fun _ => rfl, ordered := ?_, whole := fun live here => ?_ }
      · rw [Option.toList_none, List.append_nil]
        exact ordered
      · have whole := tended.whole live here
        simp only [backlog, ready, Option.toList_some] at whole
        simpa only [backlog, StreamLedger.receive, StreamLedger.due, Option.toList_some,
          Option.toList_none, List.nil_append, List.append_assoc] using whole

theorem abandon (tended : stream.Tended cancelled ledger board) :
    stream.abandon.Tended cancelled ledger board :=
  { tended with
    cause := fun _ => .inr (.inl rfl)
    forgone := fun _ => rfl
    ordered := by
      rw [show stream.abandon.ready.toList = [] from rfl, List.append_nil]
      exact (List.prefix_append ..).trans tended.ordered
    whole := fun _ => nofun }

theorem create (tidy : board.Tidy) {kind : EventKind} {mailbox : Nat} (token : Token)
    (subscribed : board.subscribe kind.topic = (.ok mailbox, later)) :
    (EventStream.create kind mailbox token).Tended cancelled ⟨kind, mailbox, token, [], []⟩
      later := by
  have evolves := board.evolves_subscribe kind.topic
  rw [subscribed] at evolves
  obtain ⟨opened, free, rfl, rfl⟩ := Board.subscribe_eq_ok_iff.mp subscribed
  refine ⟨rfl, rfl, rfl, evolves.tidy tidy, ?_, ?_, ?_, ?_, nofun, nofun, ?_, nofun,
    List.prefix_refl _, ?_⟩
  · simp
  · intro entry member same
    rcases List.mem_cons.mp member with rfl | old
    · rfl
    · have earlier := tidy.placed entry (List.mem_filter.mp old).1
      exact absurd same (Nat.ne_of_lt earlier)
  · simp [Board.mailbox, List.getD_eq_getElem?_getD]
  · simp [StreamLedger.topic]
  · simp [Board.mailbox, List.getD_eq_getElem?_getD]
  · simp [backlog, EventStream.create, StreamLedger.due, events, Board.mailbox,
      List.getD_eq_getElem?_getD]

/-- A stream that joins streams at rest starts with its ledger. -/
theorem settle_append {streams : List EventStream}
    (resting : ∀ other ∈ streams, other.Rests cancelled board)
    (tended : stream.Tended cancelled ledger board)
    (apart : Alone ledger.mailbox streams.length (streams ++ [stream])) :
    ∃ after, (EventStream.settle cancelled board (streams ++ [stream])).2[streams.length]? =
        some after ∧
      after.Tended cancelled ledger
        (EventStream.settle cancelled board (streams ++ [stream])).1 := by
  have swept := sweep_append resting stream
  have onwards := tended.advance
  have fading : (stream.advance cancelled board).2.isLive = true → stream.isLive = true := by
    cases (settles_advance cancelled board stream).fades with
    | cons _ fading _ => exact fading
  rw [EventStream.settle]
  simp only [swept]
  split
  · rename_i ends
    -- Only the new stream can have ended, and so nothing can take its topic from it.
    refine onwards.settle (List.getElem?_concat_length ..) ?_ fun live => ?_
    · intro index other differs there
      refine apart index other differs ?_
      rw [List.getElem?_append] at there ⊢
      split at there
      · rename_i within
        rwa [if_pos within]
      · rename_i beyond
        have place : index - streams.length ≠ 0 := by omega
        simp [place] at there
    · simp [liveCount, live, fading live] at ends
  · exact ⟨_, List.getElem?_concat_length .., onwards⟩

end Tended

end EventStream

end ServerManagement
