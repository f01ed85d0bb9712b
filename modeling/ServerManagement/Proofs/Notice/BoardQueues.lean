import ServerManagement.Proofs.Notice.SubscriptionLedger

/-!
The board answers every operation as the ledger of its subscriptions says, so that each subscription
is a bounded queue: what is received from it comes in the order in which it was delivered.
-/

set_option autoImplicit false

namespace ServerManagement

namespace NamedBoard

namespace Mirrors

variable {capacity number : Nat} {state : NamedBoard} {ledger : Ledger} {account : Account}
  {topic name : String}

/-! ### Giving up -/

theorem unsubscribe (mirrors : Mirrors capacity state ledger) (topic : String) :
    Mirrors capacity { state with board := state.board.unsubscribe topic }
      (ledger.note (.unsubscribe topic) .done) := by
  let change := Account.note (.unsubscribe topic) .done
  have noted : ledger.note (.unsubscribe topic) .done =
      { ledger with accounts := ledger.accounts.map change } := by
    simp only [Ledger.note, List.append_nil, Bool.or_false]
    rfl
  have ages (account : Account) : account.Ages (change account) := by
    by_cases same : account.topic = topic
    · have changed : change account = { account with isCancelled := true } := if_pos same
      rw [changed]
      exact ⟨rfl, rfl, rfl, fun _ => rfl, .inl⟩
    · have kept : change account = account := if_neg same
      rw [kept]
      exact .refl account
  have entries (account : Account) :
      (change account).entry = Directory.vacate topic account.entry := by
    by_cases same : account.topic = topic
    · simp [change, Account.note, same, Account.entry, Account.isEntered, Directory.vacate]
    · simp [change, Account.note, same, Directory.vacate, Account.entry_eq_some_iff]
  rw [noted]
  refine mirrors.age (fun account _ => ages account) ?_
  rw [map_eq_map fun account _ => entries account]
  exact mirrors.topics.erase topic

theorem close (mirrors : Mirrors capacity state ledger) :
    Mirrors capacity { state with board := state.board.close } (ledger.note .close .done) := by
  let change := Account.note .close .done
  have noted : ledger.note .close .done = ⟨ledger.accounts.map change, true⟩ := by
    simp only [Ledger.note, List.append_nil, Bool.or_true]
    rfl
  have emptied : (ledger.accounts.map change).map Account.entry =
      ledger.accounts.map fun _ => none := by
    rw [List.map_map]
    exact List.map_congr_left fun _ _ => rfl
  have indexes : state.board.close.topics.Indexes
      ((ledger.accounts.map change).map Account.entry) := by
    rw [emptied]
    cases closed : state.board.isClosed with
    | true =>
        -- Every subscription has been cancelled already.
        have cancelled := mirrors.shut (mirrors.closed.symm.trans closed)
        have same : ledger.accounts.map Account.entry = ledger.accounts.map fun _ => none := by
          refine List.map_congr_left fun account member => ?_
          simp [Account.entry, Account.isEntered, cancelled account member]
        rw [Board.close, if_pos closed, ← same]
        exact mirrors.topics
    | false =>
        rw [Board.close, if_neg (Bool.eq_false_iff.mp closed)]
        intro topic number
        refine iff_of_false nofun ?_
        rw [List.getElem?_map]
        cases ledger.accounts[number]? <;> simp
  have ages : ∀ account ∈ ledger.accounts, account.Ages (change account) :=
    fun account _ => ⟨rfl, rfl, rfl, fun _ => rfl, .inl⟩
  have aged := mirrors.age ages indexes
  have kept : state.board.close.capacity = state.board.capacity ∧
      state.board.close.mailboxes = state.board.mailboxes := by
    unfold Board.close
    split <;> exact ⟨rfl, rfl⟩
  rw [noted]
  exact ⟨kept.1.trans aged.bound, state.board.isClosed_close, kept.2.trans aged.mailboxes,
    indexes, aged.holders, aged.sound, fun _ => List.forall_mem_map.mpr fun _ _ => rfl⟩

theorem drop (mirrors : Mirrors capacity state ledger) (name : String) :
    (state.step (.drop name)).1 = ledger.answer capacity (.drop name) ∧
      Mirrors capacity (state.step (.drop name)).2
        (ledger.note (.drop name) (state.step (.drop name)).1) := by
  have stepped : (state.step (.drop name)).2 = state.giveUp name := by
    simp only [step, NamedBoard.giveUp]
    cases held : state.holders.find? name with
    | none => simp only [Directory.erase_of_absent held]
    | some number => rfl
  have noted (answer : Answer) : ledger.note (.drop name) answer =
      { ledger with accounts := ledger.accounts.map (Account.release name) } := by
    simp only [Ledger.note, Bool.or_false, List.append_nil]
    rfl
  rw [stepped, noted]
  refine ⟨?_, mirrors.giveUp name⟩
  simp only [step, Ledger.answer, mirrors.held?_eq]
  cases held : state.holders.find? name with
  | none => rfl
  | some number =>
      obtain ⟨account, here, _⟩ := mirrors.of_held held
      simp [here]

/-! ### Subscribing -/

theorem hold_eq (state : NamedBoard) (name : String) (number : Nat) :
    state.hold name number =
      ⟨(state.giveUp name).board, (state.giveUp name).holders.insert name number⟩ := by
  cases older : state.holders.find? name <;>
    simp only [hold, NamedBoard.giveUp, older, Directory.insert_erase]

theorem refusal_ne_subscribed (strict : Bool) (failure : Failure) :
    refusal strict failure ≠ .subscribed := by
  unfold refusal
  split
  · cases strict <;> intro same <;> cases same
  · intro same
    cases same

/-- A refusal is not noted. -/
theorem note_refused (ledger : Ledger) (topic name : String) (strict : Bool) {answer : Answer}
    (refused : answer ≠ .subscribed) :
    ledger.note (.subscribe topic name strict) answer = ledger := by
  have same : Account.note (.subscribe topic name strict) answer = id := by
    funext account
    cases answer <;> first | rfl | exact absurd rfl refused
  have nobody : (ledger.note (.subscribe topic name strict) answer).accounts =
      ledger.accounts.map (Account.note (.subscribe topic name strict) answer) := by
    cases answer <;> first | exact List.append_nil _ | exact absurd rfl refused
  rw [same, List.map_id] at nobody
  cases ledger
  simp_all [Ledger.note]

theorem subscribe (mirrors : Mirrors capacity state ledger) (topic name : String)
    (strict : Bool) :
    (state.step (.subscribe topic name strict)).1 =
        ledger.answer capacity (.subscribe topic name strict) ∧
      Mirrors capacity (state.step (.subscribe topic name strict)).2
        (ledger.note (.subscribe topic name strict)
          (state.step (.subscribe topic name strict)).1) := by
  simp only [Ledger.answer, ← mirrors.closed, mirrors.isSome_entered?]
  cases closed : state.board.isClosed with
  | true =>
      have stepped : state.step (.subscribe topic name strict) =
          (refusal strict .noticesClosed, state) := by simp [step, Board.subscribe, closed]
      rw [stepped, note_refused _ _ _ _ (refusal_ne_subscribed _ _)]
      exact ⟨rfl, mirrors⟩
  | false =>
      cases taken : state.board.isSubscribed topic with
      | true =>
          have stepped : state.step (.subscribe topic name strict) =
              (refusal strict (.topicTaken topic), state) := by
            simp [step, Board.subscribe, closed, taken]
          rw [stepped, note_refused _ _ _ _ (refusal_ne_subscribed _ _)]
          refine ⟨?_, mirrors⟩
          cases strict <;> rfl
      | false =>
          have untaken : state.board.topics.find? topic = none := by
            simpa [Board.isSubscribed, Directory.contains] using taken
          have stepped : state.step (.subscribe topic name strict) =
              (.subscribed,
                ⟨{ (state.giveUp name).board with
                    topics := (state.giveUp name).board.topics.insert topic
                      (state.giveUp name).board.mailboxes.length
                    mailboxes := (state.giveUp name).board.mailboxes ++ [⟨[], false⟩] },
                  (state.giveUp name).holders.insert name
                    (state.giveUp name).board.mailboxes.length⟩) := by
            simp only [step, Board.subscribe, closed, taken, Bool.false_eq_true, if_false, hold_eq]
            simp only [NamedBoard.giveUp]
            cases held : state.holders.find? name with
            | none => simp [closed]
            | some older =>
                obtain ⟨account, here, _⟩ := mirrors.of_held held
                have within : older < state.board.mailboxes.length := by
                  rw [mirrors.mailboxes, List.length_map]
                  exact (List.getElem?_eq_some_iff.mp here).1
                simp [Board.abandon, List.set_append_left _ _ within, closed]
          have frame : (state.giveUp name).board.topics = state.board.topics := by
            simp only [NamedBoard.giveUp]
            split <;> rfl
          have noted : ledger.note (.subscribe topic name strict) .subscribed =
              { ledger with
                accounts := ledger.accounts.map (Account.release name) ++
                  [⟨topic, some name, false, false, [], []⟩] } := by
            simp only [Ledger.note, Bool.or_false]
            rfl
          rw [stepped, noted]
          refine ⟨rfl, (mirrors.giveUp name).enter topic name (frame ▸ untaken) ?_ ?_⟩
          · exact state.holders.find?_erase_self name
          · exact mirrors.closed.symm.trans closed

/-! ### Reading -/

/-- The topic of a held mailbox leads to it until it is unsubscribed or the board closes. -/
theorem isLinked_eq (mirrors : Mirrors capacity state ledger)
    (here : ledger.accounts[number]? = some account) (held : account.holder ≠ none) :
    state.board.isLinked number = !account.isCancelled := by
  have remembered : account.isForgotten = false := by
    cases forgotten : account.isForgotten with
    | false => rfl
    | true =>
        exact absurd ((mirrors.sound account (List.mem_of_getElem? here)).forgotten forgotten) held
  have entered : account.isEntered = !account.isCancelled := by
    simp [Account.isEntered, remembered]
  cases linked : state.board.isLinked number with
  | true =>
      obtain ⟨⟨topic, place⟩, member, same⟩ := List.any_eq_true.mp linked
      obtain rfl := eq_of_beq same
      have found := (Directory.find?_eq_some_iff ..).mpr member
      obtain ⟨other, there, alive, _⟩ := mirrors.of_entered found
      obtain rfl := Option.some.inj (here.symm.trans there)
      exact alive.symm.trans entered
  | false =>
      cases cancelled : account.isCancelled with
      | true => rfl
      | false =>
          have found := (mirrors.topics account.topic number).mpr
            (by simp [here, Account.entry_eq_some_iff, entered, cancelled])
          have unlinked := Board.isLinked_eq_false_iff.mp linked _
            ((Directory.find?_eq_some_iff ..).mp found)
          exact absurd rfl unlinked

/-- What is read from a mailbox is no longer unread. -/
theorem receive (mirrors : Mirrors capacity state ledger) {notification : Notification}
    {unread : List Notification} (held : state.holders.find? name = some number)
    (here : ledger.accounts[number]? = some account) (same : account.holder = some name)
    (left : account.unread = notification :: unread) :
    Mirrors capacity
      { state with
        board := { state.board with
          mailboxes := state.board.mailboxes.set number ⟨unread, false⟩ } }
      (ledger.note (.read name) (.receipt (.value notification))) := by
  let after : Account := { account with received := account.received ++ [notification] }
  have noted : ledger.note (.read name) (.receipt (.value notification)) =
      { ledger with accounts := ledger.accounts.set number after } := by
    have changed : account.note (.read name) (.receipt (.value notification)) = after :=
      if_pos same
    have once := map_eq_set (Account.note (.read name) (.receipt (.value notification))) id here
      fun place other there differs =>
        if_neg fun reads => differs (mirrors.held_unique held there reads)
    rw [changed, List.map_id] at once
    simp only [Ledger.note, once, List.append_nil, Bool.or_false]
  have rest : after.unread = unread := by
    simp only [after, Account.unread, List.length_append, List.length_singleton] at left ⊢
    rw [← List.drop_drop, left]
    rfl
  have sound : after.Sound capacity := by
    have before := mirrors.sound account (List.mem_of_getElem? here)
    obtain ⟨further, whole⟩ := before.ordered
    have next : further = notification :: unread := by
      rw [← left, Account.unread, ← whole, List.drop_left]
    refine ⟨⟨unread, ?_⟩, ?_, before.forgotten⟩
    · simp only [after, ← whole, next, List.append_assoc, List.singleton_append]
    · have room := before.room
      rw [left] at room
      rw [rest]
      exact Nat.le_of_succ_le room
  rw [noted, ← rest]
  exact mirrors.update here (by rw [same]; exact Option.some_ne_none name) rfl rfl rfl sound

theorem read (mirrors : Mirrors capacity state ledger) (name : String) :
    (state.step (.read name)).1 = ledger.answer capacity (.read name) ∧
      Mirrors capacity (state.step (.read name)).2
        (ledger.note (.read name) (state.step (.read name)).1) := by
  have idle {answer : Answer} (nothing : ∀ notification, answer ≠ .receipt (.value notification)) :
      ledger.note (.read name) answer = ledger := by
    have same : Account.note (.read name) answer = id := by
      funext account
      cases answer with
      | receipt receipt =>
          cases receipt with
          | value notification => exact absurd rfl (nothing notification)
          | empty | closed => rfl
      | _ => rfl
    simp only [Ledger.note, same, List.map_id, List.append_nil, Bool.or_false]
  simp only [Ledger.answer, mirrors.held?_eq]
  cases held : state.holders.find? name with
  | none =>
      have stepped : state.step (.read name) = (.unknownName, state) := by simp only [step, held]
      rw [stepped, idle (by intro notification same; cases same)]
      exact ⟨rfl, mirrors⟩
  | some number =>
      obtain ⟨account, here, same⟩ := mirrors.of_held held
      have box : state.board.mailbox number = ⟨account.unread, false⟩ := by
        rw [mirrors.mailbox_eq here, Account.mailbox, same]
        rfl
      have linked := mirrors.isLinked_eq here (by rw [same]; exact Option.some_ne_none name)
      simp only [Option.bind_some, here]
      cases left : account.unread with
      | cons notification unread =>
          have stepped : state.step (.read name) =
              (.receipt (.value notification),
                { state with
                  board := { state.board with
                    mailboxes := state.board.mailboxes.set number ⟨unread, false⟩ } }) := by
            simp only [step, held, Board.read, box, left]
          rw [stepped]
          exact ⟨rfl, mirrors.receive held here same left⟩
      | nil =>
          have stepped : state.step (.read name) =
              (.receipt (if account.isCancelled then .closed else .empty), state) := by
            simp only [step, held, Board.read, box, left, linked]
            cases account.isCancelled <;> rfl
          rw [stepped, idle]
          · refine ⟨?_, mirrors⟩
            cases account.isCancelled <;> rfl
          · cases account.isCancelled <;> intro notification same <;> cases same

/-! ### Posting -/

/-- What a notification does to an account: nothing, or it finds the mailbox given up, or it is
delivered. -/
theorem note_post_cases (notification : Notification) (answer : Answer) (account : Account) :
    account.note (.post notification) answer = account ∧
        ¬(account.topic = notification.method ∧ account.holder = none) ∨
      account.note (.post notification) answer = { account with isForgotten := true } ∧
        account.topic = notification.method ∧ account.holder = none ∨
      account.note (.post notification) answer =
          { account with delivered := account.delivered ++ [notification] } ∧
        answer = .posted .delivered ∧ account.isEntered = true ∧
        account.topic = notification.method ∧ account.holder ≠ none := by
  simp only [Account.note]
  by_cases same : account.topic = notification.method
  · rw [if_neg (not_not_intro same)]
    by_cases gone : account.holder = none
    · rw [if_pos gone]
      exact .inr (.inl ⟨rfl, same, gone⟩)
    · rw [if_neg gone]
      split
      · rename_i delivers
        exact .inr (.inr ⟨rfl, delivers.1, delivers.2, same, gone⟩)
      · exact .inl ⟨rfl, fun lost => gone lost.2⟩
  · rw [if_pos same]
    exact .inl ⟨rfl, fun lost => same lost.1⟩

/-- The entries when every subscription of the topic that is entered has its mailbox held. -/
theorem entries_kept {notification : Notification} {answer : Answer} {accounts : List Account}
    (held : ∀ account ∈ accounts, account.isEntered = true →
      account.topic = notification.method → account.holder ≠ none) :
    (accounts.map (Account.note (.post notification) answer)).map Account.entry =
      accounts.map Account.entry := by
  refine map_eq_self fun account member => ?_
  rcases note_post_cases notification answer account with
    ⟨same, _⟩ | ⟨same, topic, gone⟩ | ⟨same, _⟩ <;> rw [same]
  · have out : account.isEntered = false :=
      Bool.eq_false_iff.mpr fun entered => held account member entered topic gone
    simp only [Account.isEntered] at out
    simp [Account.entry, Account.isEntered, out]
  · rfl

/-- The entries when every subscription of the topic that is entered has its mailbox given up. -/
theorem entries_vacated {notification : Notification} {answer : Answer} {accounts : List Account}
    (gone : ∀ account ∈ accounts, account.isEntered = true →
      account.topic = notification.method → account.holder = none) :
    (accounts.map (Account.note (.post notification) answer)).map Account.entry =
      (accounts.map Account.entry).map (Directory.vacate notification.method) := by
  refine map_eq_map fun account member => ?_
  rcases note_post_cases notification answer account with
    ⟨same, spared⟩ | ⟨same, topic, _⟩ | ⟨same, _, entered, topic, held⟩
  · rw [same, Directory.vacate, if_neg]
    intro found
    obtain ⟨entered, topic⟩ := Account.entry_eq_some_iff.mp found
    exact spared ⟨topic, gone account member entered topic⟩
  · rw [same]
    simp [Account.entry, Account.isEntered, Directory.vacate, topic]
  · exact absurd (gone account member entered topic) held

theorem ages_note_post {notification : Notification} {answer : Answer}
    (undelivered : answer ≠ .posted .delivered) (account : Account) :
    account.Ages (account.note (.post notification) answer) := by
  rcases note_post_cases notification answer account with
    ⟨same, _⟩ | ⟨same, _, gone⟩ | ⟨_, delivers, _⟩
  · rw [same]
    exact .refl account
  · rw [same]
    exact ⟨rfl, rfl, rfl, id, fun _ => .inr gone⟩
  · exact absurd delivers undelivered

/-- A notification that is not delivered leaves the mailboxes as they are. -/
theorem overlook (mirrors : Mirrors capacity state ledger) (notification : Notification)
    {answer : Answer} (undelivered : answer ≠ .posted .delivered) {topics : Directory String Nat}
    (indexes : topics.Indexes
      ((ledger.accounts.map (Account.note (.post notification) answer)).map Account.entry)) :
    Mirrors capacity { state with board := { state.board with topics } }
      (ledger.note (.post notification) answer) := by
  have noted : ledger.note (.post notification) answer =
      { ledger with
        accounts := ledger.accounts.map (Account.note (.post notification) answer) } := by
    simp only [Ledger.note, List.append_nil, Bool.or_false]
  rw [noted]
  exact mirrors.age (fun account _ => ages_note_post undelivered account) indexes

/-- Only the subscription that is entered is told whether the notification was delivered. -/
theorem note_post_congr (notification : Notification) (answer : Answer)
    (unentered : account.isEntered = true → account.topic ≠ notification.method) :
    account.note (.post notification) answer =
      account.note (.post notification) (.posted .dropped) := by
  have undelivered : Answer.posted .dropped ≠ .posted .delivered := by decide
  rcases note_post_cases notification answer account with
    ⟨same, spared⟩ | ⟨same, topic, gone⟩ | ⟨_, _, entered, topic, _⟩
  · rcases note_post_cases notification (.posted .dropped) account with
      ⟨other, _⟩ | ⟨_, topic, gone⟩ | ⟨_, delivers, _⟩
    · rw [same, other]
    · exact absurd ⟨topic, gone⟩ spared
    · exact absurd delivers undelivered
  · rw [same]
    simp [Account.note, topic, gone]
  · exact absurd topic (unentered entered)

/-- A delivery is as if the notification had been overlooked, but for the subscription that is
entered. -/
theorem deliver (mirrors : Mirrors capacity state ledger) (notification : Notification)
    (found : state.board.topics.find? notification.method = some number)
    (here : ledger.accounts[number]? = some account) (held : account.holder ≠ none)
    (room : account.unread.length < capacity) :
    Mirrors capacity
      { state with
        board := { state.board with
          mailboxes :=
            state.board.mailboxes.set number ⟨account.unread ++ [notification], false⟩ } }
      (ledger.note (.post notification) (.posted .delivered)) := by
  let after : Account := { account with delivered := account.delivered ++ [notification] }
  have undelivered : Answer.posted .dropped ≠ .posted .delivered := by decide
  obtain ⟨_, again, entered, topic⟩ := mirrors.of_entered found
  obtain rfl := Option.some.inj (here.symm.trans again)
  have unique {place : Nat} {other : Account} (there : ledger.accounts[place]? = some other)
      (alive : other.isEntered = true) (same : other.topic = notification.method) :
      place = number := mirrors.entered_unique found there alive same
  have overlooked : Mirrors capacity state
      (ledger.note (.post notification) (.posted .dropped)) := by
    refine mirrors.overlook notification undelivered ?_
    rw [entries_kept]
    · exact mirrors.topics
    · intro other member alive same
      obtain ⟨place, there⟩ := List.getElem?_of_mem member
      obtain rfl := unique there alive same
      exact Option.some.inj (there.symm.trans here) ▸ held
  have passed : account.note (.post notification) (.posted .dropped) = account := by
    simp [Account.note, topic, held]
  have delivers : account.note (.post notification) (.posted .delivered) = after := by
    simp [Account.note, topic, held, entered, after]
  have noted : ledger.note (.post notification) (.posted .delivered) =
      { ledger.note (.post notification) (.posted .dropped) with
        accounts := (ledger.note (.post notification) (.posted .dropped)).accounts.set number
          after } := by
    have once := map_eq_set (Account.note (.post notification) (.posted .delivered))
      (Account.note (.post notification) (.posted .dropped)) here
      fun place other there differs => note_post_congr notification _
        fun alive same => differs (unique there alive same)
    simp only [Ledger.note, once, delivers, List.append_nil]
  have still : (ledger.note (.post notification) (.posted .dropped)).accounts[number]? =
      some account := by
    simp only [Ledger.note, List.append_nil, List.getElem?_map, here, Option.map_some, passed]
  have sound := mirrors.sound account (List.mem_of_getElem? here)
  have unread : after.unread = account.unread ++ [notification] :=
    sound.unread_deliver notification
  rw [noted, ← unread]
  refine overlooked.update still held rfl rfl rfl ⟨?_, ?_, sound.forgotten⟩
  · exact sound.ordered.trans (List.prefix_append _ _)
  · rw [unread, List.length_append]
    exact room

/-- A topic without a subscription is passed over. -/
theorem post_unentered (mirrors : Mirrors capacity state ledger) (notification : Notification)
    {answer : Answer} (undelivered : answer ≠ .posted .delivered)
    (nobody : ∀ account ∈ ledger.accounts, account.isEntered = true →
      account.topic ≠ notification.method) :
    Mirrors capacity state (ledger.note (.post notification) answer) := by
  refine mirrors.overlook notification undelivered ?_
  rw [entries_kept]
  · exact mirrors.topics
  · exact fun account member entered topic => absurd topic (nobody account member entered)

/-- What happens to a notification whose topic leads to a subscription. -/
theorem post_entered (mirrors : Mirrors capacity state ledger) (notification : Notification)
    (opened : state.board.isClosed = false)
    (found : state.board.topics.find? notification.method = some number)
    (here : ledger.accounts[number]? = some account) :
    ∃ posting later, state.step (.post notification) = (.posted posting, later) ∧
      Mirrors capacity later (ledger.note (.post notification) (.posted posting)) ∧
      posting =
        if account.holder = none then .noSubscriber
        else if account.unread.length = capacity then .dropped
        else .delivered := by
  have unique : ∀ other ∈ ledger.accounts, other.isEntered = true →
      other.topic = notification.method → other.holder = account.holder := by
    intro other member alive same
    obtain ⟨place, there⟩ := List.getElem?_of_mem member
    obtain rfl := mirrors.entered_unique found there alive same
    rw [Option.some.inj (there.symm.trans here)]
  have box := mirrors.mailbox_eq here
  by_cases held : account.holder = none
  · have abandoned : (state.board.mailbox number).isAbandoned = true := by
      rw [box, Account.mailbox, held]
      rfl
    have stepped : state.step (.post notification) = (.posted .noSubscriber,
        { state with board := state.board.unsubscribe notification.method }) := by
      simp [step, Board.post, opened, found, abandoned]
    refine ⟨_, _, stepped, mirrors.overlook notification (by decide) ?_, (if_pos held).symm⟩
    rw [entries_vacated]
    · exact mirrors.topics.erase _
    · exact fun other member alive same => (unique other member alive same).trans held
  · have box : state.board.mailbox number = ⟨account.unread, false⟩ := by
      rw [box, Account.mailbox, if_pos (Option.isSome_iff_ne_none.mpr held)]
    have room := (mirrors.sound account (List.mem_of_getElem? here)).room
    rw [if_neg held]
    by_cases full : account.unread.length = capacity
    · have stepped : state.step (.post notification) = (.posted .dropped, state) := by
        simp [step, Board.post, opened, found, box, mirrors.bound, full]
      refine ⟨_, _, stepped, mirrors.overlook notification (by decide) ?_, (if_pos full).symm⟩
      rw [entries_kept]
      · exact mirrors.topics
      · exact fun other member alive same => unique other member alive same ▸ held
    · have free : account.unread.length < capacity := Nat.lt_of_le_of_ne room full
      have stepped : state.step (.post notification) = (.posted .delivered,
          { state with
            board := { state.board with
              mailboxes := state.board.mailboxes.set number
                ⟨account.unread ++ [notification], false⟩ } }) := by
        simp [step, Board.post, opened, found, box, mirrors.bound, Nat.not_le_of_lt free]
      exact ⟨_, _, stepped, mirrors.deliver notification found here held free, (if_neg full).symm⟩

theorem post (mirrors : Mirrors capacity state ledger) (notification : Notification) :
    (state.step (.post notification)).1 = ledger.answer capacity (.post notification) ∧
      Mirrors capacity (state.step (.post notification)).2
        (ledger.note (.post notification) (state.step (.post notification)).1) := by
  simp only [Ledger.answer, ← mirrors.closed, mirrors.entered?_eq]
  cases closed : state.board.isClosed with
  | true =>
      have stepped : state.step (.post notification) = (.posted .closed, state) := by
        simp [step, Board.post, closed]
      have cancelled := mirrors.shut (mirrors.closed.symm.trans closed)
      have undelivered : Answer.posted .closed ≠ .posted .delivered := by decide
      rw [stepped]
      refine ⟨rfl, mirrors.post_unentered notification undelivered ?_⟩
      intro account member entered
      simp [Account.isEntered, cancelled account member] at entered
  | false =>
      rw [if_neg Bool.false_ne_true]
      cases found : state.board.topics.find? notification.method with
      | none =>
          have stepped : state.step (.post notification) = (.posted .noSubscriber, state) := by
            simp [step, Board.post, closed, found]
          have undelivered : Answer.posted .noSubscriber ≠ .posted .delivered := by decide
          rw [stepped]
          refine ⟨rfl, mirrors.post_unentered notification undelivered ?_⟩
          intro account member entered topic
          obtain ⟨number, here⟩ := List.getElem?_of_mem member
          have placed := (mirrors.topics notification.method number).mpr
            (by simp [here, Account.entry_eq_some_iff, entered, topic])
          rw [found] at placed
          cases placed
      | some number =>
          obtain ⟨account, here, _⟩ := mirrors.of_entered found
          obtain ⟨posting, later, stepped, mirrors, outcome⟩ :=
            mirrors.post_entered notification closed found here
          rw [stepped]
          refine ⟨?_, mirrors⟩
          simp only [Option.bind_some, here, outcome]
          split
          · rfl
          · split <;> rfl

end Mirrors

/-! ## Runs -/

theorem Mirrors.step {capacity : Nat} {state : NamedBoard} {ledger : Ledger}
    (mirrors : Mirrors capacity state ledger) (next : Step) :
    (state.step next).1 = ledger.answer capacity next ∧
      Mirrors capacity (state.step next).2 (ledger.note next (state.step next).1) := by
  cases next with
  | subscribe topic name strict => exact mirrors.subscribe topic name strict
  | unsubscribe topic => exact ⟨rfl, mirrors.unsubscribe topic⟩
  | post notification => exact mirrors.post notification
  | read name => exact mirrors.read name
  | drop name => exact mirrors.drop name
  | close => exact ⟨rfl, mirrors.close⟩
  | isSubscribed topic =>
      have noted (answer : Answer) : ledger.note (.isSubscribed topic) answer = ledger := by
        have same : Account.note (.isSubscribed topic) answer = id := rfl
        simp only [Ledger.note, same, List.map_id, List.append_nil, Bool.or_false]
      rw [noted]
      exact ⟨congrArg Answer.flag (mirrors.isSome_entered? topic).symm, mirrors⟩

theorem Mirrors.create (capacity : Nat) :
    Mirrors (max capacity 1) (NamedBoard.create capacity) .empty where
  bound := rfl
  closed := rfl
  mailboxes := rfl
  topics := fun _ _ => iff_of_false (fun found => by cases found) fun found => by cases found
  holders := fun _ _ => iff_of_false (fun found => by cases found) fun found => by cases found
  sound := fun _ member => absurd member List.not_mem_nil
  shut := fun _ _ member => absurd member List.not_mem_nil

theorem Mirrors.run {capacity : Nat} {state : NamedBoard} {ledger : Ledger}
    (mirrors : Mirrors capacity state ledger) (steps : List Step) :
    Mirrors capacity (state.run steps) (state.observe ledger steps) := by
  induction steps generalizing state ledger with
  | nil => exact mirrors
  | cons next steps ih => exact ih (mirrors.step next).2

/-- A mailbox comes to its end when all that was delivered has been received, and only after its
topic was unsubscribed or the board was closed. -/
theorem received_of_closed {capacity : Nat} {state : NamedBoard} {ledger : Ledger}
    (mirrors : Mirrors capacity state ledger) {name : String}
    (ended : (state.step (.read name)).1 = .receipt .closed) :
    ∃ account, ledger.held? name = some account ∧ account.received = account.delivered ∧
      account.isCancelled = true := by
  rw [(mirrors.step (.read name)).1] at ended
  simp only [Ledger.answer] at ended
  cases held : ledger.held? name with
  | none =>
      rw [held] at ended
      cases ended
  | some account =>
      simp only [held] at ended
      refine ⟨account, rfl, ?_⟩
      cases left : account.unread with
      | cons notification unread =>
          rw [left] at ended
          cases ended
      | nil =>
          simp only [left] at ended
          have sound := mirrors.sound account (List.mem_of_find?_eq_some held)
          have all := List.drop_eq_nil_iff.mp left
          refine ⟨sound.ordered.eq_of_length_le all, ?_⟩
          cases cancelled : account.isCancelled with
          | true => rfl
          | false =>
              rw [cancelled] at ended
              cases ended

/-- The board is a bounded queue for each subscription: every operation is answered as the ledger of
the subscriptions says, and what was received from a mailbox is the beginning of what was delivered
to it, all of it when the mailbox comes to its end. -/
theorem board_answers_as_ledger (capacity : Nat) (steps : List Step) (next : Step) :
    let state := (create capacity).run steps
    let ledger := (create capacity).observe .empty steps
    (state.step next).1 = ledger.answer (max capacity 1) next ∧
      (∀ account ∈ ledger.accounts,
        account.received <+: account.delivered ∧ account.unread.length ≤ max capacity 1) ∧
      ∀ name, (state.step (.read name)).1 = .receipt .closed →
        ∃ account, ledger.held? name = some account ∧ account.received = account.delivered ∧
          account.isCancelled = true := by
  intro state ledger
  have mirrors : Mirrors (max capacity 1) state ledger := (Mirrors.create capacity).run steps
  refine ⟨(mirrors.step next).1, fun account member => ?_, fun _ => received_of_closed mirrors⟩
  have sound := mirrors.sound account member
  exact ⟨sound.ordered, sound.room⟩

/-- Of three notifications the last finds the mailbox full; the other two are received after the
topic was unsubscribed and taken by someone else. -/
theorem board_answers_as_ledger_of_full :
    let post (text : String) : Step := .post ⟨"t", some [.text text], none⟩
    let steps : List Step := [.subscribe "t" "a" false, post "1", post "2", post "3",
      .unsubscribe "t", .subscribe "t" "b" true, post "4", .read "a", .read "a"]
    let ledger := (create 2).observe .empty steps
    (((create 2).run steps).step (.read "a")).1 = .receipt .closed ∧
      (∃ account, ledger.held? "a" = some account ∧ account.received = account.delivered ∧
        account.isCancelled = true) ∧
      ledger.accounts.map (fun account => account.received.length) = [2, 0] := by
  intro post steps ledger
  have ended : (((create 2).run steps).step (.read "a")).1 = .receipt .closed := by decide +kernel
  obtain ⟨_, _, ends⟩ := board_answers_as_ledger 2 steps (.read "a")
  exact ⟨ended, ends "a" ended, by decide +kernel⟩

end NamedBoard

end ServerManagement
