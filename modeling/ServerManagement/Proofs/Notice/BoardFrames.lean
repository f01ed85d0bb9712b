import ServerManagement.Proofs.Notice.BoardProperties

/-!
What leaves a subscription as it is. Its mailbox and its topic are its own: what is done to other
topics and other mailboxes does not matter to it, and closing the board takes the topic away but
nothing of what has come.
-/

set_option autoImplicit false

namespace ServerManagement

namespace Board

structure Untouched (topic : String) (mailbox : Nat) (board later : Board) : Prop where
  box : later.mailbox mailbox = board.mailbox mailbox
  capacity : later.capacity = board.capacity
  opened : later.isClosed = false → board.isClosed = false
  kept : later.isClosed = false → board.topics.find? topic = some mailbox →
    later.topics.find? topic = some mailbox

variable {topic other : String} {mailbox number : Nat} {board later : Board}

theorem Untouched.refl (topic : String) (mailbox : Nat) (board : Board) :
    Untouched topic mailbox board board := ⟨rfl, rfl, id, fun _ => id⟩

theorem isLinked_of_find? (found : board.topics.find? topic = some number) :
    board.isLinked number = true := by
  rw [Directory.find?_eq_some_iff] at found
  exact List.any_eq_true.mpr ⟨_, found, beq_self_eq_true number⟩

theorem subscribe_eq_ok_iff : board.subscribe topic = (.ok number, later) ↔
    board.isClosed = false ∧ board.topics.find? topic = none ∧ number = board.mailboxes.length ∧
      later = { board with
        topics := board.topics.insert topic number
        mailboxes := board.mailboxes ++ [⟨[], false⟩] } := by
  unfold subscribe
  split
  · rename_i closed
    simp [closed]
  · rename_i opened
    split
    · rename_i taken
      refine iff_of_false (fun same => by cases same) fun fresh => ?_
      simp [isSubscribed, Directory.contains, fresh.2.1] at taken
    · rename_i free
      have free : board.topics.find? topic = none := by
        simpa [isSubscribed, Directory.contains] using free
      constructor
      · intro same
        cases same
        exact ⟨Bool.eq_false_iff.mpr opened, free, rfl, rfl⟩
      · rintro ⟨_, _, rfl, rfl⟩
        rfl

theorem subscribe_of_error {failure : Failure}
    (refused : board.subscribe topic = (.error failure, later)) : later = board := by
  unfold subscribe at refused
  split at refused
  · exact (Prod.mk.inj refused).2.symm
  · split at refused
    · exact (Prod.mk.inj refused).2.symm
    · cases refused

theorem isLinked_subscribe (linked : board.isLinked number = true) (topic : String) :
    (board.subscribe topic).2.isLinked number = true := by
  unfold subscribe
  split
  · exact linked
  · split
    · exact linked
    · rename_i free
      obtain ⟨entry, member, same⟩ := List.any_eq_true.mp linked
      have kept : entry.1 ≠ topic := by
        rintro rfl
        have found : board.topics.find? entry.1 = some entry.2 :=
          (Directory.find?_eq_some_iff ..).mpr member
        simp [isSubscribed, Directory.contains, found] at free
      refine List.any_eq_true.mpr ⟨entry, List.mem_cons_of_mem _ ?_, same⟩
      exact List.mem_filter.mpr ⟨member, decide_eq_true kept⟩

theorem unread_subscribe (board : Board) (topic : String) (number : Nat) :
    ((board.subscribe topic).2.mailbox number).unread = (board.mailbox number).unread := by
  unfold subscribe
  split
  · rfl
  · split
    · rfl
    · simp only [Board.mailbox, List.getD_eq_getElem?_getD, List.getElem?_append]
      split
      · rfl
      · rename_i beyond
        rw [List.getElem?_eq_none (Nat.le_of_not_lt beyond)]
        cases place : number - board.mailboxes.length <;> simp [Mailbox.missing]

/-! ## Capacity -/

theorem capacity_subscribe (board : Board) (topic : String) :
    (board.subscribe topic).2.capacity = board.capacity := by
  unfold subscribe
  split
  · rfl
  · split <;> rfl

theorem capacity_read (board : Board) (number : Nat) :
    (board.read number).2.capacity = board.capacity := by
  unfold read
  dsimp only
  split <;> rfl

theorem capacity_close (board : Board) : board.close.capacity = board.capacity := by
  unfold close
  split <;> rfl

theorem capacity_post (board : Board) (notification : Notification) :
    (board.post notification).2.capacity = board.capacity := by
  unfold post
  split
  · rfl
  · split
    · rfl
    · dsimp only
      split
      · rfl
      · split <;> rfl

/-! ## Other mailboxes -/

theorem mailbox_abandon (board : Board) (differs : number ≠ mailbox) :
    (board.abandon number).mailbox mailbox = board.mailbox mailbox := by
  simp [abandon, Board.mailbox, List.getD_eq_getElem?_getD, differs]

theorem mailbox_keep_of_ne (board : Board) (differs : number ≠ mailbox)
    (unread : List Notification) :
    (board.keep number unread).mailbox mailbox = board.mailbox mailbox := by
  simp [keep, Board.mailbox, List.getD_eq_getElem?_getD, differs]

theorem mailbox_keep_self (placed : mailbox < board.mailboxes.length)
    (unread : List Notification) :
    (board.keep mailbox unread).mailbox mailbox = { board.mailbox mailbox with unread } := by
  simp [keep, Board.mailbox, List.getD_eq_getElem?_getD, placed]

theorem untouched_abandon (topic : String) (board : Board) (differs : number ≠ mailbox) :
    Untouched topic mailbox board (board.abandon number) :=
  ⟨board.mailbox_abandon differs, rfl, id, fun _ => id⟩

theorem untouched_read (topic : String) (board : Board) (differs : number ≠ mailbox) :
    Untouched topic mailbox board (board.read number).2 := by
  unfold read
  dsimp only
  split
  · refine ⟨?_, rfl, id, fun _ => id⟩
    simp [Board.mailbox, List.getD_eq_getElem?_getD, differs]
  · exact .refl topic mailbox board

/-! ## Other topics -/

theorem untouched_unsubscribe (mailbox : Nat) (board : Board) (differs : other ≠ topic) :
    Untouched topic mailbox board (board.unsubscribe other) :=
  ⟨rfl, rfl, id, fun _ found =>
    (find?_unsubscribe_iff found other).mpr (beq_eq_false_iff_ne.mpr differs)⟩

theorem untouched_subscribe (topic : String) (board : Board)
    (placed : mailbox < board.mailboxes.length) (other : String) :
    Untouched topic mailbox board (board.subscribe other).2 := by
  refine ⟨?_, ?_, fun opened => (board.isClosed_subscribe other).symm.trans opened, ?_⟩
  · unfold subscribe
    split
    · rfl
    · split
      · rfl
      · simp [Board.mailbox, List.getD_eq_getElem?_getD, List.getElem?_append_left placed]
  · exact board.capacity_subscribe other
  · intro opened found
    have before := (board.isClosed_subscribe other).symm.trans opened
    exact (find?_subscribe before found other).1

theorem untouched_close (topic : String) (mailbox : Nat) (board : Board) :
    Untouched topic mailbox board board.close := by
  unfold close
  split
  · exact .refl topic mailbox board
  · exact ⟨rfl, rfl, nofun, nofun⟩

/-! ## Notifications -/

def entering (board : Board) (mailbox : Nat) (notification : Notification) : List Notification :=
  if board.topics.find? notification.method = some mailbox ∧
      (board.post notification).1 = .delivered then [notification] else []

def withUnread (board : Board) (number : Nat) (notification : Notification) : Board :=
  let box := board.mailbox number
  { board with
    mailboxes := board.mailboxes.set number { box with unread := box.unread ++ [notification] } }

inductive Reception (topic : String) (mailbox : Nat) (board : Board)
    (notification : Notification) : Prop
  | elsewhere (differs : notification.method ≠ topic)
      (spared : board.entering mailbox notification = [])
      (untouched : Untouched topic mailbox board (board.post notification).2)
  | lost (same : notification.method = topic)
      (full : board.capacity ≤ (board.mailbox mailbox).unread.length)
      (spared : board.entering mailbox notification = [])
      (unchanged : (board.post notification).2 = board)
  | enters (same : notification.method = topic)
      (room : (board.mailbox mailbox).unread.length < board.capacity)
      (entered : board.entering mailbox notification = [notification])
      (posted : (board.post notification).2 = board.withUnread mailbox notification)

theorem Tidy.number_ne (tidy : board.Tidy) (found : board.topics.find? topic = some mailbox)
    (there : board.topics.find? other = some number) (differs : other ≠ topic) :
    number ≠ mailbox := by
  rintro rfl
  rw [Directory.find?_eq_some_iff] at found there
  exact differs (congrArg Prod.fst (eq_of_separate tidy.separate there found rfl))

theorem Tidy.untouched_post (tidy : board.Tidy)
    (found : board.topics.find? topic = some mailbox) {notification : Notification}
    (differs : notification.method ≠ topic) :
    Untouched topic mailbox board (board.post notification).2 := by
  unfold post
  split
  · exact .refl topic mailbox board
  · split
    · exact .refl topic mailbox board
    · rename_i number there
      have elsewhere := tidy.number_ne found there differs
      dsimp only
      split
      · exact board.untouched_unsubscribe mailbox differs
      · split
        · exact .refl topic mailbox board
        · refine ⟨?_, rfl, id, fun _ => id⟩
          simp [Board.mailbox, List.getD_eq_getElem?_getD, elsewhere]

theorem Tidy.reception (tidy : board.Tidy) (found : board.topics.find? topic = some mailbox)
    (present : (board.mailbox mailbox).isAbandoned = false) (notification : Notification) :
    Reception topic mailbox board notification := by
  by_cases same : notification.method = topic
  · have opened := tidy.isClosed_of_find? found
    subst same
    by_cases full : board.capacity ≤ (board.mailbox mailbox).unread.length
    · have posted : board.post notification = (.dropped, board) := by
        simp [post, opened, found, present, full]
      refine .lost rfl full ?_ (congrArg Prod.snd posted)
      simp [entering, posted]
    · have posted : board.post notification =
          (.delivered, board.withUnread mailbox notification) := by
        simp [post, opened, found, present, full, withUnread]
      refine .enters rfl (Nat.lt_of_not_le full) ?_ (congrArg Prod.snd posted)
      simp [entering, posted, found]
  · refine .elsewhere same (if_neg fun enters => ?_) (tidy.untouched_post found same)
    exact tidy.number_ne found enters.1 same rfl

theorem mailbox_withUnread (placed : mailbox < board.mailboxes.length)
    (notification : Notification) :
    (board.withUnread mailbox notification).mailbox mailbox =
      { board.mailbox mailbox with
        unread := (board.mailbox mailbox).unread ++ [notification] } := by
  simp [withUnread, Board.mailbox, List.getD_eq_getElem?_getD, placed]

end Board

end ServerManagement
