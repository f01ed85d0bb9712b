import ServerManagement.Proofs.Notice.StreamRest

/-!
The board and its streams with one topic left out: the mailboxes and the streams of the topic are
taken away, and those behind them move up. Whatever happens to the board and to the other streams
happens just so when the topic is left out, and what happens to the topic is not seen.
-/

set_option autoImplicit false

namespace ServerManagement

/-- What is left out of a session: a topic, and the tokens that serve its streams alone. -/
structure Omission where
  topic : String
  owns : Token → Bool

namespace Board

def without (board : Board) (topic : String) (marks : List Bool) : Board :=
  { board with
    topics := (board.topics.erase topic).map (rank marks)
    mailboxes := pick marks board.mailboxes }

structure Marked (topic : String) (marks : List Bool) (board : Board) : Prop where
  length : marks.length = board.mailboxes.length
  marked : ∀ entry ∈ board.topics.entries, marks[entry.2]? = some (entry.1 != topic)

def handed (mark : Bool) : Except Failure Nat → List Bool
  | .ok _ => [mark]
  | .error _ => []

variable {board later : Board} {topic other : String} {marks : List Bool} {number : Nat}

/-! ## Marks -/

theorem Marked.of_subset (marked : board.Marked topic marks)
    (fewer : later.topics.entries ⊆ board.topics.entries)
    (length : later.mailboxes.length = board.mailboxes.length) : later.Marked topic marks :=
  ⟨marked.length.trans length.symm, fun entry member => marked.marked entry (fewer member)⟩

theorem Marked.unsubscribe (marked : board.Marked topic marks) (other : String) :
    (board.unsubscribe other).Marked topic marks :=
  marked.of_subset List.filter_sublist.subset rfl

theorem Marked.abandon (marked : board.Marked topic marks) (number : Nat) :
    (board.abandon number).Marked topic marks :=
  marked.of_subset (List.Subset.refl _) (List.length_set ..)

theorem Marked.keep (marked : board.Marked topic marks) (number : Nat)
    (unread : List Notification) : (board.keep number unread).Marked topic marks :=
  marked.of_subset (List.Subset.refl _) (List.length_modify ..)

theorem Marked.close (marked : board.Marked topic marks) : board.close.Marked topic marks := by
  unfold Board.close
  split
  · exact marked
  · exact marked.of_subset (List.nil_subset _) rfl

theorem Marked.read (marked : board.Marked topic marks) (number : Nat) :
    (board.read number).2.Marked topic marks := by
  unfold Board.read
  dsimp only
  split
  · exact marked.of_subset (List.Subset.refl _) (List.length_set ..)
  · exact marked

theorem Marked.post (marked : board.Marked topic marks) (notification : Notification) :
    (board.post notification).2.Marked topic marks := by
  unfold Board.post
  split
  · exact marked
  · split
    · exact marked
    · dsimp only
      split
      · exact marked.unsubscribe _
      · split
        · exact marked
        · exact marked.of_subset (List.Subset.refl _) (List.length_set ..)

theorem Marked.lt_length (marked : board.Marked topic marks) {entry : String × Nat}
    (member : entry ∈ board.topics.entries) : entry.2 < marks.length :=
  (List.getElem?_eq_some_iff.mp (marked.marked entry member)).1

theorem Marked.subscribe (marked : board.Marked topic marks) (other : String) :
    (board.subscribe other).2.Marked topic
      (marks ++ handed (other != topic) (board.subscribe other).1) := by
  unfold Board.subscribe
  split
  · simpa [handed] using marked
  · split
    · simpa [handed] using marked
    · refine ⟨by simp [handed, marked.length], fun entry member => ?_⟩
      rcases List.mem_cons.mp member with rfl | kept
      · simp [handed, ← marked.length]
      · have old := (List.mem_filter.mp kept).1
        rw [List.getElem?_append_left (marked.lt_length old)]
        exact marked.marked entry old

/-- The mailbox of another topic stays. -/
theorem Marked.mark (marked : board.Marked topic marks)
    (found : board.topics.find? other = some number) : marks[number]? = some (other != topic) :=
  marked.marked (other, number) ((Directory.find?_eq_some_iff ..).mp found)

/-! ## What stays -/

theorem mailbox_without (stays : Stays marks number) :
    (board.without topic marks).mailbox (rank marks number) = board.mailbox number := by
  simp only [mailbox, without, List.getD_eq_getElem?_getD, getElem?_pick stays]

theorem find?_without (differs : other ≠ topic) :
    (board.without topic marks).topics.find? other =
      (board.topics.find? other).map (rank marks) := by
  simp only [without, Directory.find?_map, Directory.find?_erase_of_ne _ differs]

theorem find?_without_self : (board.without topic marks).topics.find? topic = none := by
  simp only [without, Directory.find?_map, Directory.find?_erase_self, Option.map_none]

theorem isLinked_without (marked : board.Marked topic marks) (stays : Stays marks number) :
    (board.without topic marks).isLinked (rank marks number) = board.isLinked number := by
  rw [Bool.eq_iff_iff]
  simp only [isLinked, without, Directory.map, List.any_map, List.any_eq_true,
    Directory.mem_entries_erase, Function.comp_apply, beq_iff_eq]
  constructor
  · rintro ⟨entry, ⟨member, differs⟩, same⟩
    have mark := marked.marked entry member
    rw [bne_iff_ne.mpr differs] at mark
    exact ⟨entry, member, (rank_eq_rank_iff (stays_of_mark mark) stays).mp same⟩
  · rintro ⟨entry, member, rfl⟩
    refine ⟨entry, ⟨member, ?_⟩, rfl⟩
    -- The topic that is left out leads to a mailbox that does not stay.
    rintro rfl
    exact stays (by simpa using marked.marked entry member)

theorem close_without (board : Board) (topic : String) (marks : List Bool) :
    board.close.without topic marks = (board.without topic marks).close := by
  cases closed : board.isClosed with
  | true => simp [close, without, closed]
  | false =>
      simp only [close, without, closed, Bool.false_eq_true, if_false]
      rfl

theorem unsubscribe_without (board : Board) (topic other : String) (marks : List Bool) :
    (board.unsubscribe other).without topic marks =
      (board.without topic marks).unsubscribe other := by
  simp only [unsubscribe, without, Directory.erase_comm _ other topic, Directory.map_erase]

/-- Nobody else sees that the topic is given up. -/
theorem unsubscribe_without_self (board : Board) (topic : String) (marks : List Bool) :
    (board.unsubscribe topic).without topic marks = board.without topic marks := by
  have once := Directory.erase_of_absent (board.topics.find?_erase_self topic)
  simp only [unsubscribe, without, once]

theorem abandon_without (board : Board) (topic : String)
    (stays : Stays marks number) :
    (board.abandon number).without topic marks =
      (board.without topic marks).abandon (rank marks number) := by
  simp only [abandon, without, pick_set stays]

theorem abandon_without_of_gone (board : Board) (topic : String)
    (gone : marks[number]? = some false) :
    (board.abandon number).without topic marks = board.without topic marks := by
  simp only [abandon, without, pick_set_of_gone gone]

theorem keep_without (board : Board) (topic : String)
    (stays : Stays marks number) (unread : List Notification) :
    (board.keep number unread).without topic marks =
      (board.without topic marks).keep (rank marks number) unread := by
  simp only [keep, without, pick_modify stays]

theorem keep_without_of_gone (board : Board) (topic : String)
    (gone : marks[number]? = some false) (unread : List Notification) :
    (board.keep number unread).without topic marks = board.without topic marks := by
  simp only [keep, without, pick_modify_of_gone gone]

theorem read_without (marked : board.Marked topic marks) (stays : Stays marks number) :
    (board.without topic marks).read (rank marks number) =
      ((board.read number).1, (board.read number).2.without topic marks) := by
  unfold read
  rw [mailbox_without stays, isLinked_without marked stays]
  dsimp only
  split
  · simp only [without, pick_set stays]
  · rfl

theorem read_without_of_gone (board : Board) (topic : String)
    (gone : marks[number]? = some false) :
    (board.read number).2.without topic marks = board.without topic marks := by
  unfold read
  dsimp only
  split
  · simp only [without, pick_set_of_gone gone]
  · rfl

/-- A notification of the topic reaches nobody else, whatever becomes of it. -/
theorem post_without (marked : board.Marked topic marks) (notification : Notification) :
    ((board.without topic marks).post notification).2 =
      (board.post notification).2.without topic marks := by
  have closed : (board.without topic marks).isClosed = board.isClosed := rfl
  have capacity : (board.without topic marks).capacity = board.capacity := rfl
  unfold post
  rw [closed]
  split
  · rfl
  · by_cases same : notification.method = topic
    · rw [same, find?_without_self]
      cases found : board.topics.find? topic with
      | none => rfl
      | some number =>
          have gone : marks[number]? = some false := by simpa using marked.mark found
          dsimp only
          split
          · exact (board.unsubscribe_without_self topic marks).symm
          · split
            · rfl
            · simp only [without, pick_set_of_gone gone]
    · rw [find?_without same]
      cases found : board.topics.find? notification.method with
      | none => rfl
      | some number =>
          have mark := marked.mark found
          rw [bne_iff_ne.mpr same] at mark
          have stays := stays_of_mark mark
          dsimp only [Option.map_some]
          rw [mailbox_without stays, capacity]
          split
          · exact (board.unsubscribe_without topic _ marks).symm
          · split
            · rfl
            · simp only [without, pick_set stays]

/-! ## Subscriptions -/

/-- A mark more does not matter to the mailboxes that there are. -/
theorem Marked.map_rank (marked : board.Marked topic marks) (more : List Bool) :
    (board.topics.erase topic).map (rank (marks ++ more)) =
      (board.topics.erase topic).map (rank marks) := by
  refine Directory.map_congr fun entry member => ?_
  rw [Directory.mem_entries_erase] at member
  exact rank_append (Nat.le_of_lt (marked.lt_length member.1)) more

theorem number_of_subscribe (subscribed : (board.subscribe other).1 = .ok number) :
    number = board.mailboxes.length := by
  unfold subscribe at subscribed
  split at subscribed
  · cases subscribed
  · split at subscribed
    · cases subscribed
    · exact (Except.ok.inj subscribed).symm

theorem isSubscribed_without (differs : other ≠ topic) :
    (board.without topic marks).isSubscribed other = board.isSubscribed other := by
  simp only [isSubscribed, Directory.contains, find?_without differs, Option.isSome_map]

theorem subscribe_without (marked : board.Marked topic marks) (differs : other ≠ topic) :
    (board.without topic marks).subscribe other =
      ((board.subscribe other).1.map (rank marks),
        (board.subscribe other).2.without topic
          (marks ++ handed true (board.subscribe other).1)) := by
  have closed : (board.without topic marks).isClosed = board.isClosed := rfl
  unfold subscribe
  rw [closed, isSubscribed_without differs]
  split
  · simp [handed, Except.map]
  · split
    · simp [handed, Except.map]
    · have number : (pick marks board.mailboxes).length = rank marks board.mailboxes.length :=
        length_pick marked.length
      have last : rank (marks ++ [true]) board.mailboxes.length =
          rank marks board.mailboxes.length :=
        rank_append (Nat.le_of_eq marked.length.symm) _
      simp only [without, handed, Except.map, Directory.erase_insert_of_ne _ _ differs,
        Directory.map_insert, marked.map_rank, pick_append marked.length, if_true, number, last]

/-- Nobody else sees that the topic gets a subscriber. -/
theorem subscribe_without_self (marked : board.Marked topic marks) :
    (board.subscribe topic).2.without topic (marks ++ handed false (board.subscribe topic).1) =
      board.without topic marks := by
  unfold subscribe
  split
  · simp [handed]
  · split
    · simp [handed]
    · simp only [without, handed, Directory.erase_insert_self, marked.map_rank,
        pick_append marked.length, Bool.false_eq_true, if_false, List.append_nil]

end Board

end ServerManagement
