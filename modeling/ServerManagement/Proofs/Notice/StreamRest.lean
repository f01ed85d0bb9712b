import ServerManagement.Proofs.Notice.StreamProperties

/-!
Streams at rest. A stream comes to rest when it has ended, when its reader has to make room, or when
its mailbox is empty; letting all streams go on leaves each of them at rest, and streams at rest
stay as they are.
-/

set_option autoImplicit false

namespace ServerManagement

namespace EventStream

inductive Rests (cancelled : List Token) (board : Board) (stream : EventStream) : Prop
  | ended (ended : stream.isLive = false)
  | full (live : stream.isLive = true) (uncancelled : cancelled.contains stream.token = false)
      (present : stream.isAbandoned = false) (held : stream.held.isSome)
      (ready : stream.ready.isSome)
  | empty (live : stream.isLive = true) (uncancelled : cancelled.contains stream.token = false)
      (present : stream.isAbandoned = false) (held : stream.held = none)
      (unread : (board.mailbox stream.mailbox).unread = [])
      (linked : board.isLinked stream.mailbox = true)

def Offered (stream : EventStream) : Prop := stream.held.isSome → stream.ready.isSome

variable {cancelled : List Token} {board later : Board} {stream : EventStream}
  {streams : List EventStream}

/-! ## Reading a mailbox empty -/

theorem offered_offer (stream : EventStream) : stream.offer.Offered := by
  intro held
  unfold offer at held ⊢
  split at held
  · rename_i event ready
    simp [ready]
  · cases held

theorem Offered.offer_eq (offered : stream.Offered) : stream.offer = stream := by
  unfold offer
  split
  · rfl
  · rename_i unready
    have unheld : stream.held = none := by
      cases held : stream.held with
      | none => rfl
      | some event =>
          have ready := offered (by rw [held]; rfl)
          rw [unready] at ready
          cases ready
    rw [← unready, unheld]
    cases stream
    simp_all

structure SameOwner (stream after : EventStream) : Prop where
  kind : after.kind = stream.kind
  mailbox : after.mailbox = stream.mailbox
  token : after.token = stream.token
  isAbandoned : after.isAbandoned = stream.isAbandoned
  isLive : after.isLive = stream.isLive

theorem SameOwner.refl (stream : EventStream) : SameOwner stream stream :=
  ⟨rfl, rfl, rfl, rfl, rfl⟩

theorem SameOwner.trans {middle after : EventStream} (first : SameOwner stream middle)
    (second : SameOwner middle after) : SameOwner stream after where
  kind := second.kind.trans first.kind
  mailbox := second.mailbox.trans first.mailbox
  token := second.token.trans first.token
  isAbandoned := second.isAbandoned.trans first.isAbandoned
  isLive := second.isLive.trans first.isLive

theorem sameOwner_offer (stream : EventStream) : SameOwner stream stream.offer := by
  unfold offer
  split <;> exact ⟨rfl, rfl, rfl, rfl, rfl⟩

structure Pulled (stream : EventStream) (after : EventStream) (unread : List Notification) :
    Prop where
  owner : SameOwner stream after
  offered : after.Offered
  stuck : after.held = none → unread = []

theorem pulled_pull (offered : stream.Offered) (unread : List Notification) :
    Pulled stream (stream.pull unread).1 (stream.pull unread).2 := by
  induction unread generalizing stream with
  | nil => exact ⟨.refl stream, offered, fun _ => rfl⟩
  | cons notification unread ih =>
      unfold pull
      split
      · rename_i held
        refine ⟨.refl stream, offered, fun unheld => ?_⟩
        rw [unheld] at held
        cases held
      · split
        · exact ih offered
        · rename_i event _
          have rest := ih (offered_offer { stream with held := some event })
          have start : SameOwner stream { stream with held := some event } :=
            ⟨rfl, rfl, rfl, rfl, rfl⟩
          exact ⟨(start.trans (sameOwner_offer _)).trans rest.owner, rest.offered, rest.stuck⟩

theorem pull_of_held (held : stream.held.isSome) (unread : List Notification) :
    stream.pull unread = (stream, unread) := by
  cases unread with
  | nil => rfl
  | cons notification unread =>
      unfold pull
      rw [if_pos held]

/-! ## One stream -/

theorem keep_self (board : Board) (number : Nat) :
    board.keep number (board.mailbox number).unread = board := by
  have same : board.mailboxes.modify number
      (fun box => { box with unread := (board.mailbox number).unread }) = board.mailboxes := by
    refine List.ext_getElem? fun index => ?_
    rw [List.getElem?_modify]
    by_cases here : number = index
    · subst here
      cases found : board.mailboxes[number]? with
      | none => simp
      | some box => simp [Board.mailbox, List.getD_eq_getElem?_getD, found]
    · simp [here]
  rw [Board.keep, same]

/-- A live stream ends whose token is cancelled or whose reader has gone. -/
theorem advance_of_doomed (live : stream.isLive = true)
    (doomed : (cancelled.contains stream.token || stream.isAbandoned) = true) :
    stream.advance cancelled board = retire board stream := by
  simp only [advance, live, doomed, Bool.not_true, Bool.false_eq_true, if_false, if_true]

/-- What a live stream does that has no reason to end at once. -/
theorem advance_eq (live : stream.isLive = true)
    (uncancelled : cancelled.contains stream.token = false)
    (present : stream.isAbandoned = false) :
    stream.advance cancelled board =
      (let pulled := stream.offer.pull (board.mailbox stream.mailbox).unread
       let kept := board.keep pulled.1.mailbox pulled.2
       if pulled.1.held.isNone && pulled.2.isEmpty && !kept.isLinked pulled.1.mailbox then
         retire kept pulled.1
       else (kept, pulled.1)) := by
  simp only [advance, live, uncancelled, present, Bool.not_true, Bool.or_self, Bool.false_eq_true,
    if_false]

theorem Rests.advance_eq_self (rests : stream.Rests cancelled board) :
    stream.advance cancelled board = (board, stream) := by
  cases rests with
  | ended ended => simp [advance, ended]
  | full live uncancelled present held ready =>
      have offered : stream.Offered := fun _ => ready
      rw [advance_eq live uncancelled present, offered.offer_eq, pull_of_held held]
      simp [keep_self, Option.isNone_eq_false_iff.mpr held]
  | empty live uncancelled present held unread linked =>
      have offered : stream.Offered := fun waits => by rw [held] at waits; cases waits
      have kept := keep_self board stream.mailbox
      rw [unread] at kept
      rw [advance_eq live uncancelled present, offered.offer_eq, unread]
      simp [pull, kept, linked]

/-- A stream at rest that is live has no reason to end. -/
theorem Rests.stays (rests : stream.Rests cancelled board) (live : stream.isLive = true) :
    cancelled.contains stream.token = false ∧ stream.isAbandoned = false := by
  cases rests with
  | ended ended => exact absurd (ended.symm.trans live) Bool.false_ne_true
  | full _ uncancelled present | empty _ uncancelled present => exact ⟨uncancelled, present⟩

structure Calm (board later : Board) : Prop where
  topics : later.topics = board.topics
  unread : ∀ number, (board.mailbox number).unread = [] → (later.mailbox number).unread = []

theorem Calm.refl (board : Board) : Calm board board := ⟨rfl, fun _ => id⟩

theorem Calm.trans {middle : Board} (first : Calm board middle) (second : Calm middle later) :
    Calm board later :=
  ⟨second.topics.trans first.topics, fun number empty => second.unread number
    (first.unread number empty)⟩

theorem Rests.calm (rests : stream.Rests cancelled board) (calm : Calm board later) :
    stream.Rests cancelled later := by
  cases rests with
  | ended ended => exact .ended ended
  | full live uncancelled present held ready => exact .full live uncancelled present held ready
  | empty live uncancelled present held unread linked =>
      refine .empty live uncancelled present held (calm.unread _ unread) ?_
      simpa only [Board.isLinked, calm.topics] using linked

theorem mailbox_keep (board : Board) (number other : Nat) (unread : List Notification) :
    ((board.keep number unread).mailbox other).unread =
      if other = number ∧ number < board.mailboxes.length then unread
      else (board.mailbox other).unread := by
  simp only [Board.keep, Board.mailbox, List.getD_eq_getElem?_getD, List.getElem?_modify]
  by_cases same : other = number
  · subst same
    by_cases within : other < board.mailboxes.length <;> simp [within]
  · simp [same, Ne.symm same]

/-- What a stream leaves unread in its mailbox. -/
theorem unread_pull (board : Board) (stream : EventStream) :
    let pulled := stream.offer.pull (board.mailbox stream.mailbox).unread
    ((board.keep pulled.1.mailbox pulled.2).mailbox pulled.1.mailbox).unread = pulled.2 := by
  intro pulled
  have owner : SameOwner stream pulled.1 := (sameOwner_offer stream).trans
    (pulled_pull (offered_offer stream) (board.mailbox stream.mailbox).unread).owner
  rw [mailbox_keep]
  split
  · rfl
  · rename_i outside
    have beyond : board.mailboxes.length ≤ stream.mailbox := by
      rw [← owner.mailbox]
      simpa using outside
    have missing : (board.mailbox stream.mailbox).unread = [] := by
      simp [Board.mailbox, List.getD_eq_getElem?_getD, List.getElem?_eq_none beyond,
        Mailbox.missing]
    simp only [pulled]
    rw [owner.mailbox, missing]
    rfl

/-- A stream that goes on without ending comes to rest. -/
theorem rests_advance (still : (stream.advance cancelled board).2.isLive = stream.isLive) :
    (stream.advance cancelled board).2.Rests cancelled (stream.advance cancelled board).1 ∧
      Calm board (stream.advance cancelled board).1 := by
  cases live : stream.isLive with
  | false =>
      have rests : stream.Rests cancelled board := .ended live
      rw [rests.advance_eq_self]
      exact ⟨rests, .refl board⟩
  | true =>
      rw [live] at still
      cases doomed : cancelled.contains stream.token || stream.isAbandoned with
      | true =>
          rw [advance_of_doomed live doomed] at still
          cases still
      | false =>
          obtain ⟨uncancelled, present⟩ := Bool.or_eq_false_iff.mp doomed
          rw [advance_eq live uncancelled present] at still ⊢
          have pulled := (pulled_pull (offered_offer stream) (board.mailbox stream.mailbox).unread)
          have owner := (sameOwner_offer stream).trans pulled.owner
          have nothing : (board.mailbox stream.mailbox).unread = [] →
              (stream.offer.pull (board.mailbox stream.mailbox).unread).2 = [] := by
            intro empty
            rw [empty]
            rfl
          have left := unread_pull board stream
          generalize stream.offer.pull (board.mailbox stream.mailbox).unread = result at *
          dsimp only at still left ⊢
          have calm : Calm board (board.keep result.1.mailbox result.2) := by
            refine ⟨rfl, fun number empty => ?_⟩
            rw [mailbox_keep]
            split
            · rename_i here
              exact nothing (by rw [← owner.mailbox, ← here.1]; exact empty)
            · exact empty
          split at still
          · simp [retire, finish] at still
          · rename_i stays
            rw [if_neg stays]
            refine ⟨?_, calm⟩
            have alive := owner.isLive.trans live
            have token := owner.token ▸ uncancelled
            have reader := owner.isAbandoned.trans present
            cases held : result.1.held with
            | some event =>
                have waits : result.1.held.isSome := by rw [held]; rfl
                exact .full alive token reader waits (pulled.offered waits)
            | none =>
                have rest := pulled.stuck held
                refine .empty alive token reader held (left.trans rest) ?_
                simpa [held, rest] using stays

/-! ## All streams -/

theorem Fades.liveCount_le {after : List EventStream} (fades : Fades streams after) :
    liveCount after ≤ liveCount streams := by
  induction fades with
  | nil => exact Nat.le_refl _
  | @cons stream next streams after _ fading _ ih =>
      unfold liveCount at ih ⊢
      rw [List.countP_cons, List.countP_cons]
      cases live : next.isLive with
      | false => simpa [live] using Nat.le_trans ih (Nat.le_add_right _ _)
      | true => simpa [live, fading live] using ih

theorem rests_sweep (board : Board)
    (still : ¬liveCount (sweep cancelled board streams).2 < liveCount streams) :
    (∀ stream ∈ (sweep cancelled board streams).2,
      stream.Rests cancelled (sweep cancelled board streams).1) ∧
      Calm board (sweep cancelled board streams).1 := by
  induction streams generalizing board with
  | nil => exact ⟨fun _ member => absurd member List.not_mem_nil, .refl board⟩
  | cons stream streams ih =>
      have first := (settles_advance cancelled board stream).fades.liveCount_le
      have rest := (settles_sweep cancelled (stream.advance cancelled board).1
        streams).fades.liveCount_le
      simp only [sweep, liveCount, List.countP_cons, List.countP_nil] at still first rest ⊢
      have alive : (stream.advance cancelled board).2.isLive = stream.isLive := by
        cases now : (stream.advance cancelled board).2.isLive <;>
          cases before : stream.isLive <;>
          simp only [now, before, if_true, if_false, Bool.false_eq_true] at still first ⊢
        all_goals omega
      obtain ⟨rests, calm⟩ := rests_advance alive
      obtain ⟨others, later⟩ := ih (stream.advance cancelled board).1 (by
        simp only [liveCount]
        rw [alive] at still
        omega)
      refine ⟨?_, calm.trans later⟩
      intro other member
      rcases List.mem_cons.mp member with rfl | member
      · exact rests.calm later
      · exact others other member

theorem sweep_of_rests (rests : ∀ stream ∈ streams, stream.Rests cancelled board) :
    sweep cancelled board streams = (board, streams) := by
  induction streams with
  | nil => rfl
  | cons stream streams ih =>
      have others := ih fun other member => rests other (List.mem_cons_of_mem _ member)
      simp only [sweep, (rests stream (List.mem_cons_self ..)).advance_eq_self, others]

/-- Streams at rest stay as they are. -/
theorem settle_of_rests (rests : ∀ stream ∈ streams, stream.Rests cancelled board) :
    settle cancelled board streams = (board, streams) := by
  rw [settle]
  simp [sweep_of_rests rests]

/-- Letting all streams go on brings each of them to rest. -/
theorem rests_settle (cancelled : List Token) (board : Board) (streams : List EventStream) :
    ∀ stream ∈ (settle cancelled board streams).2,
      stream.Rests cancelled (settle cancelled board streams).1 := by
  fun_induction settle cancelled board streams with
  | case1 board streams swept ends ih => exact ih
  | case2 board streams swept stays => exact (rests_sweep board stays).1

/-! ## Which tokens are cancelled -/

theorem token_advance (cancelled : List Token) (board : Board) (stream : EventStream) :
    (stream.advance cancelled board).2.token = stream.token := by
  have pulled := ((sameOwner_offer stream).trans
    (pulled_pull (offered_offer stream) (board.mailbox stream.mailbox).unread).owner).token
  unfold advance
  split
  · rfl
  · split
    · rfl
    · dsimp only
      split <;> exact pulled

theorem token_of_mem_sweep (member : stream ∈ (sweep cancelled board streams).2) :
    ∃ before ∈ streams, stream.token = before.token := by
  induction streams generalizing board with
  | nil => exact absurd member List.not_mem_nil
  | cons head streams ih =>
      rcases List.mem_cons.mp member with rfl | member
      · exact ⟨head, List.mem_cons_self .., token_advance cancelled board head⟩
      · obtain ⟨before, here, same⟩ := ih member
        exact ⟨before, List.mem_cons_of_mem _ here, same⟩

/-- No stream gets another token. -/
theorem token_of_mem_settle (member : stream ∈ (settle cancelled board streams).2) :
    ∃ before ∈ streams, stream.token = before.token := by
  fun_induction settle cancelled board streams with
  | case1 board streams swept ends ih =>
      obtain ⟨middle, here, same⟩ := ih member
      obtain ⟨before, there, sameToo⟩ := token_of_mem_sweep here
      exact ⟨before, there, same.trans sameToo⟩
  | case2 board streams swept stays => exact token_of_mem_sweep member

theorem sweep_congr {other : List Token}
    (same : ∀ stream ∈ streams, other.contains stream.token = cancelled.contains stream.token) :
    sweep other board streams = sweep cancelled board streams := by
  induction streams generalizing board with
  | nil => rfl
  | cons stream streams ih =>
      have here := same stream (List.mem_cons_self ..)
      have rest (board : Board) := @ih board fun next member =>
        same next (List.mem_cons_of_mem _ member)
      simp only [sweep, advance, here, rest]

/-- Of what has been cancelled only the tokens of the streams matter. -/
theorem settle_congr {other : List Token}
    (same : ∀ stream ∈ streams, other.contains stream.token = cancelled.contains stream.token) :
    settle other board streams = settle cancelled board streams := by
  fun_induction settle cancelled board streams with
  | case1 board streams swept ends ih =>
      rw [settle, sweep_congr same]
      simp only [swept] at ends ih ⊢
      rw [if_pos ends]
      refine ih fun stream member => ?_
      obtain ⟨before, here, token⟩ := token_of_mem_sweep member
      rw [token]
      exact same before here
  | case2 board streams swept stays =>
      rw [settle, sweep_congr same]
      exact if_neg stays

end EventStream

end ServerManagement
