import ServerManagement.Notice.Named
import ServerManagement.Proofs.Notice.BoardProperties

/-!
Subscriptions as queues. A ledger keeps one account for each subscription, drawn up from the
operations and their answers alone: what was delivered to it, what was received from it, whether its
mailbox is held and whether its topic was given up. The board answers every operation as its ledger
says.
-/

set_option autoImplicit false

namespace ServerManagement

namespace NamedBoard

def run (state : NamedBoard) (steps : List Step) : NamedBoard :=
  steps.foldl (fun state next => (state.step next).2) state

/-- What is known of a subscription from the operations and their answers. -/
structure Account where
  topic : String
  /-- The name under which its mailbox is held, until it is given up. -/
  holder : Option String
  /-- Someone has unsubscribed its topic, or the board was closed. -/
  isCancelled : Bool
  /-- A notification of its topic has come after its mailbox was given up. -/
  isForgotten : Bool
  /-- The notifications of its topic that were answered as delivered during the subscription. -/
  delivered : List Notification
  /-- The values that were read from its mailbox. -/
  received : List Notification

namespace Account

def isEntered (account : Account) : Bool := !account.isCancelled && !account.isForgotten

def entry (account : Account) : Option String :=
  if account.isEntered then some account.topic else none

/-- What was delivered and has not been received. -/
def unread (account : Account) : List Notification :=
  account.delivered.drop account.received.length

def release (name : String) (account : Account) : Account :=
  if account.holder = some name then { account with holder := none } else account

def note (next : Step) (answer : Answer) (account : Account) : Account :=
  match next, answer with
  | .subscribe _ name _, .subscribed | .drop name, _ => account.release name
  | .unsubscribe topic, _ =>
    if account.topic = topic then { account with isCancelled := true } else account
  | .close, _ => { account with isCancelled := true }
  | .post notification, answer =>
    if account.topic ≠ notification.method then account
    else if account.holder = none then { account with isForgotten := true }
    else if answer = .posted .delivered ∧ account.isEntered then
      { account with delivered := account.delivered ++ [notification] }
    else account
  | .read name, .receipt (.value notification) =>
    if account.holder = some name then
      { account with received := account.received ++ [notification] }
    else account
  | _, _ => account

end Account

structure Ledger where
  accounts : List Account
  isShut : Bool

namespace Ledger

def empty : Ledger := ⟨[], false⟩

def entered? (ledger : Ledger) (topic : String) : Option Account :=
  ledger.accounts.find? fun account => account.entry == some topic

/-- The subscription whose mailbox is held under a name. -/
def held? (ledger : Ledger) (name : String) : Option Account :=
  ledger.accounts.find? fun account => account.holder == some name

def note (ledger : Ledger) (next : Step) (answer : Answer) : Ledger where
  accounts := ledger.accounts.map (Account.note next answer) ++
    match next, answer with
    | .subscribe topic name _, .subscribed => [⟨topic, some name, false, false, [], []⟩]
    | _, _ => []
  isShut := ledger.isShut ||
    match next with
    | .close => true
    | _ => false

/-- The answer that an operation must get when subscriptions are queues of the given capacity. -/
def answer (ledger : Ledger) (capacity : Nat) : Step → Answer
  | .subscribe topic _ strict =>
    if ledger.isShut then .failed .noticesClosed
    else if (ledger.entered? topic).isSome then
      if strict then .subscribedTwice topic else .failed (.topicTaken topic)
    else .subscribed
  | .unsubscribe _ => .done
  | .post notification =>
    if ledger.isShut then .posted .closed
    else
      match ledger.entered? notification.method with
      | none => .posted .noSubscriber
      | some account =>
        if account.holder = none then .posted .noSubscriber
        else if account.unread.length = capacity then .posted .dropped
        else .posted .delivered
  | .read name =>
    match ledger.held? name with
    | none => .unknownName
    | some account =>
      match account.unread with
      | notification :: _ => .receipt (.value notification)
      | [] => if account.isCancelled then .receipt .closed else .receipt .empty
  | .drop name => .flag (ledger.held? name).isSome
  | .close => .done
  | .isSubscribed topic => .flag (ledger.entered? topic).isSome

end Ledger

/-- The ledger after some steps, drawn up from what the board answered. -/
def observe (state : NamedBoard) (ledger : Ledger) : List Step → Ledger
  | [] => ledger
  | next :: steps => (state.step next).2.observe (ledger.note next (state.step next).1) steps

/-! ## Accounts -/

namespace Account

def mailbox (account : Account) : Mailbox :=
  if account.holder.isSome then ⟨account.unread, false⟩ else .missing

/-- What holds of every account: values are received in the order of delivery, at most so many are
unread, and only a mailbox that was given up is forgotten. -/
structure Sound (capacity : Nat) (account : Account) : Prop where
  ordered : account.received <+: account.delivered
  room : account.unread.length ≤ capacity
  forgotten : account.isForgotten = true → account.holder = none

variable {account : Account} {capacity : Nat} {name : String} {notification : Notification}

theorem entry_eq_some_iff {topic : String} :
    account.entry = some topic ↔ account.isEntered = true ∧ account.topic = topic := by
  unfold entry
  split <;> simp_all

theorem entry_release (name : String) (account : Account) :
    (account.release name).entry = account.entry := by
  unfold release
  split <;> rfl

theorem isCancelled_release (name : String) (account : Account) :
    (account.release name).isCancelled = account.isCancelled := by
  unfold release
  split <;> rfl

theorem holder_release (name : String) (account : Account) :
    (account.release name).holder = Directory.vacate name account.holder := by
  unfold release Directory.vacate
  split <;> rfl

theorem release_of_ne (differs : account.holder ≠ some name) : account.release name = account :=
  if_neg differs

theorem Sound.release (sound : account.Sound capacity) (name : String) :
    (account.release name).Sound capacity := by
  unfold Account.release
  split
  · exact ⟨sound.ordered, sound.room, fun _ => rfl⟩
  · exact sound

structure Ages (account later : Account) : Prop where
  holder : later.holder = account.holder
  delivered : later.delivered = account.delivered
  received : later.received = account.received
  cancelled : account.isCancelled = true → later.isCancelled = true
  forgotten : later.isForgotten = true → account.isForgotten = true ∨ account.holder = none

theorem Ages.refl (account : Account) : Ages account account := ⟨rfl, rfl, rfl, id, .inl⟩

theorem Ages.mailbox {later : Account} (ages : Ages account later) :
    later.mailbox = account.mailbox := by
  simp only [Account.mailbox, unread, ages.holder, ages.delivered, ages.received]

theorem Sound.ages {later : Account} (sound : account.Sound capacity) (ages : Ages account later) :
    later.Sound capacity := by
  constructor
  case ordered =>
    rw [ages.received, ages.delivered]
    exact sound.ordered
  case room =>
    rw [unread, ages.received, ages.delivered]
    exact sound.room
  case forgotten =>
    intro forgotten
    rw [ages.holder]
    rcases ages.forgotten forgotten with before | gone
    · exact sound.forgotten before
    · exact gone

theorem Sound.unread_deliver (sound : account.Sound capacity) (notification : Notification) :
    ({ account with delivered := account.delivered ++ [notification] } : Account).unread =
      account.unread ++ [notification] :=
  List.drop_append_of_le_length sound.ordered.length_le

end Account

/-! ## The board and its ledger -/

structure Mirrors (capacity : Nat) (state : NamedBoard) (ledger : Ledger) : Prop where
  bound : state.board.capacity = capacity
  closed : state.board.isClosed = ledger.isShut
  mailboxes : state.board.mailboxes = ledger.accounts.map Account.mailbox
  topics : state.board.topics.Indexes (ledger.accounts.map Account.entry)
  holders : state.holders.Indexes (ledger.accounts.map Account.holder)
  sound : ∀ account ∈ ledger.accounts, account.Sound capacity
  shut : ledger.isShut = true → ∀ account ∈ ledger.accounts, account.isCancelled = true

def giveUp (state : NamedBoard) (name : String) : NamedBoard where
  board :=
    match state.holders.find? name with
    | some number => state.board.abandon number
    | none => state.board
  holders := state.holders.erase name

namespace Mirrors

variable {capacity number : Nat} {state : NamedBoard} {ledger : Ledger} {account : Account}
  {topic name : String}

theorem mailbox_eq (mirrors : Mirrors capacity state ledger)
    (here : ledger.accounts[number]? = some account) :
    state.board.mailbox number = account.mailbox := by
  simp [Board.mailbox, List.getD_eq_getElem?_getD, mirrors.mailboxes, here]

theorem entered?_eq (mirrors : Mirrors capacity state ledger) (topic : String) :
    ledger.entered? topic =
      (state.board.topics.find? topic).bind fun number => ledger.accounts[number]? :=
  mirrors.topics.find?_eq topic

theorem held?_eq (mirrors : Mirrors capacity state ledger) (name : String) :
    ledger.held? name =
      (state.holders.find? name).bind fun number => ledger.accounts[number]? :=
  mirrors.holders.find?_eq name

theorem of_entered (mirrors : Mirrors capacity state ledger)
    (found : state.board.topics.find? topic = some number) :
    ∃ account, ledger.accounts[number]? = some account ∧ account.isEntered = true ∧
      account.topic = topic := by
  have here := (mirrors.topics topic number).mp found
  rw [List.getElem?_map, Option.map_eq_some_iff] at here
  obtain ⟨account, here, entered⟩ := here
  exact ⟨account, here, Account.entry_eq_some_iff.mp entered⟩

theorem isSome_entered? (mirrors : Mirrors capacity state ledger) (topic : String) :
    (ledger.entered? topic).isSome = state.board.isSubscribed topic := by
  rw [mirrors.entered?_eq, Board.isSubscribed, Directory.contains]
  cases found : state.board.topics.find? topic with
  | none => rfl
  | some number =>
      obtain ⟨account, here, _⟩ := mirrors.of_entered found
      simp [here]

theorem of_held (mirrors : Mirrors capacity state ledger)
    (found : state.holders.find? name = some number) :
    ∃ account, ledger.accounts[number]? = some account ∧ account.holder = some name := by
  have here := (mirrors.holders name number).mp found
  rwa [List.getElem?_map, Option.map_eq_some_iff] at here

/-- A topic leads to one subscription only. -/
theorem entered_unique (mirrors : Mirrors capacity state ledger)
    (found : state.board.topics.find? topic = some number) {place : Nat} {other : Account}
    (there : ledger.accounts[place]? = some other) (entered : other.isEntered = true)
    (same : other.topic = topic) : place = number := by
  have placed := (mirrors.topics topic place).mpr
    (by simp [there, Account.entry_eq_some_iff, entered, same])
  exact Option.some.inj (placed.symm.trans found)

/-- A name is used for one mailbox only. -/
theorem held_unique (mirrors : Mirrors capacity state ledger)
    (found : state.holders.find? name = some number) {place : Nat} {other : Account}
    (there : ledger.accounts[place]? = some other) (held : other.holder = some name) :
    place = number := by
  have placed := (mirrors.holders name place).mpr (by simp [there, held])
  exact Option.some.inj (placed.symm.trans found)

/-! ### Changes of accounts -/

/-- Topics are given up: the board loses them, and everything else stays. -/
theorem age (mirrors : Mirrors capacity state ledger) {change : Account → Account}
    (ages : ∀ account ∈ ledger.accounts, account.Ages (change account))
    {topics : Directory String Nat}
    (indexes : topics.Indexes ((ledger.accounts.map change).map Account.entry)) :
    Mirrors capacity { state with board := { state.board with topics } }
      { ledger with accounts := ledger.accounts.map change } where
  bound := mirrors.bound
  closed := mirrors.closed
  mailboxes := by
    rw [map_eq_self fun account member => (ages account member).mailbox]
    exact mirrors.mailboxes
  topics := indexes
  holders := by
    rw [map_eq_self fun account member => (ages account member).holder]
    exact mirrors.holders
  sound := List.forall_mem_map.mpr fun account member =>
    (mirrors.sound account member).ages (ages account member)
  shut shut := List.forall_mem_map.mpr fun account member =>
    (ages account member).cancelled (mirrors.shut shut account member)

/-- The contents of one mailbox that is held change. -/
theorem update (mirrors : Mirrors capacity state ledger) {after : Account}
    (here : ledger.accounts[number]? = some account) (held : account.holder ≠ none)
    (holder : after.holder = account.holder) (entry : after.entry = account.entry)
    (cancelled : after.isCancelled = account.isCancelled) (sound : after.Sound capacity) :
    Mirrors capacity
      { state with
        board := { state.board with
          mailboxes := state.board.mailboxes.set number ⟨after.unread, false⟩ } }
      { ledger with accounts := ledger.accounts.set number after } where
  bound := mirrors.bound
  closed := mirrors.closed
  mailboxes := by
    have shown : after.mailbox = ⟨after.unread, false⟩ :=
      if_pos (holder ▸ Option.isSome_iff_ne_none.mpr held)
    rw [List.map_set, shown, ← mirrors.mailboxes]
  topics := by
    rw [map_set_eq_self here entry]
    exact mirrors.topics
  holders := by
    rw [map_set_eq_self here holder]
    exact mirrors.holders
  sound := by
    intro other member
    rcases List.mem_or_eq_of_mem_set member with old | rfl
    · exact mirrors.sound other old
    · exact sound
  shut := by
    intro shut other member
    rcases List.mem_or_eq_of_mem_set member with old | rfl
    · exact mirrors.shut shut other old
    · rw [cancelled]
      exact mirrors.shut shut account (List.mem_of_getElem? here)

/-- A name is no longer used for the mailbox that was held under it. -/
theorem giveUp (mirrors : Mirrors capacity state ledger) (name : String) :
    Mirrors capacity (state.giveUp name)
      { ledger with accounts := ledger.accounts.map (Account.release name) } := by
  have frame : (state.giveUp name).board.capacity = state.board.capacity ∧
      (state.giveUp name).board.isClosed = state.board.isClosed ∧
      (state.giveUp name).board.topics = state.board.topics := by
    unfold NamedBoard.giveUp
    dsimp only
    split <;> exact ⟨rfl, rfl, rfl⟩
  constructor
  case bound => exact frame.1.trans mirrors.bound
  case closed => exact frame.2.1.trans mirrors.closed
  case mailboxes =>
    unfold NamedBoard.giveUp
    dsimp only
    cases held : state.holders.find? name with
    | none =>
        refine mirrors.mailboxes.trans (map_eq_self fun account member => ?_).symm
        refine congrArg Account.mailbox (Account.release_of_ne fun same => ?_)
        obtain ⟨number, here⟩ := List.getElem?_of_mem member
        have found := (mirrors.holders name number).mpr (by simp [here, same])
        rw [held] at found
        cases found
    | some number =>
        obtain ⟨account, here, same⟩ := mirrors.of_held held
        have missing : (account.release name).mailbox = .missing := by
          simp [Account.release, same, Account.mailbox]
        have released : ledger.accounts.map (Account.mailbox ∘ Account.release name) =
            (ledger.accounts.map Account.mailbox).set number .missing := by
          refine missing ▸ map_eq_set _ _ here fun place other there differs => ?_
          refine congrArg Account.mailbox (Account.release_of_ne fun same => ?_)
          exact differs (mirrors.held_unique held there same)
        rw [List.map_map, released, ← mirrors.mailboxes]
        rfl
  case topics =>
    rw [frame.2.2, map_eq_self fun account _ => account.entry_release name]
    exact mirrors.topics
  case holders =>
    rw [map_eq_map fun account _ => account.holder_release name]
    exact mirrors.holders.erase name
  case sound =>
    exact List.forall_mem_map.mpr fun account member => (mirrors.sound account member).release _
  case shut =>
    intro shut
    refine List.forall_mem_map.mpr fun account member => ?_
    rw [Account.isCancelled_release]
    exact mirrors.shut shut account member

/-- A new subscription has an empty mailbox. -/
theorem enter (mirrors : Mirrors capacity state ledger) (topic name : String)
    (untaken : state.board.topics.find? topic = none)
    (unused : state.holders.find? name = none) (opened : ledger.isShut = false) :
    Mirrors capacity
      ⟨{ state.board with
          topics := state.board.topics.insert topic state.board.mailboxes.length
          mailboxes := state.board.mailboxes ++ [⟨[], false⟩] },
        state.holders.insert name state.board.mailboxes.length⟩
      { ledger with
        accounts := ledger.accounts ++ [⟨topic, some name, false, false, [], []⟩] } := by
  have length : state.board.mailboxes.length = ledger.accounts.length := by
    rw [mirrors.mailboxes, List.length_map]
  constructor
  case bound => exact mirrors.bound
  case closed => exact mirrors.closed
  case mailboxes =>
    rw [List.map_append, mirrors.mailboxes]
    rfl
  case topics =>
    have inserted := mirrors.topics.insert topic
    rw [mirrors.topics.of_find?_none untaken, List.length_map, ← length] at inserted
    rw [List.map_append]
    exact inserted
  case holders =>
    have inserted := mirrors.holders.insert name
    rw [mirrors.holders.of_find?_none unused, List.length_map, ← length] at inserted
    rw [List.map_append]
    exact inserted
  case sound =>
    intro account member
    rcases List.mem_append.mp member with old | new
    · exact mirrors.sound account old
    · obtain rfl := List.mem_singleton.mp new
      exact ⟨List.prefix_rfl, Nat.zero_le _, fun forgotten => absurd forgotten Bool.false_ne_true⟩
  case shut =>
    intro shut
    rw [opened] at shut
    cases shut

end Mirrors

end NamedBoard

end ServerManagement
