import ServerManagement.Notice.Stream
import ServerManagement.Proofs.DirectoryProperties

/-!
The notice board over time. Mailboxes belong to one subscription each, so a topic that loses its
mailbox never gets it back. A stream that ends takes its topic from whoever holds it.
-/

set_option autoImplicit false

namespace ServerManagement

def Receipt.orEnd {α : Type} : Option α → Receipt α
  | some found => .value found
  | none => .closed

namespace Board

structure Tidy (board : Board) : Prop where
  separate : board.topics.entries.Pairwise fun entry other => entry.2 ≠ other.2
  placed : ∀ entry ∈ board.topics.entries, entry.2 < board.mailboxes.length
  closed : board.isClosed = true → board.topics.entries = []

structure Evolves (board later : Board) : Prop where
  tidy : board.Tidy → later.Tidy
  length : board.mailboxes.length ≤ later.mailboxes.length
  origin : ∀ entry ∈ later.topics.entries,
    entry ∈ board.topics.entries ∨ board.mailboxes.length ≤ entry.2

variable {board middle later : Board} {topic : String} {number : Nat}

theorem Evolves.refl (board : Board) : Evolves board board :=
  ⟨id, Nat.le_refl _, fun _ => .inl⟩

theorem Evolves.trans (first : Evolves board middle) (second : Evolves middle later) :
    Evolves board later where
  tidy := fun tidy => second.tidy (first.tidy tidy)
  length := Nat.le_trans first.length second.length
  origin := by
    intro entry member
    rcases second.origin entry member with old | new
    · exact first.origin entry old
    · exact .inr (Nat.le_trans first.length new)

/-- Topics may be given up at any time. -/
theorem Evolves.of_sublist (fewer : later.topics.entries.Sublist board.topics.entries)
    (length : board.mailboxes.length ≤ later.mailboxes.length)
    (closed : board.Tidy → later.isClosed = true → later.topics.entries = []) :
    Evolves board later where
  tidy tidy := by
    refine ⟨tidy.separate.sublist fewer, ?_, closed tidy⟩
    intro entry member
    exact Nat.lt_of_lt_of_le (tidy.placed entry (fewer.subset member)) length
  length := length
  origin entry member := .inl (fewer.subset member)

theorem evolves_unsubscribe (board : Board) (topic : String) :
    Evolves board (board.unsubscribe topic) := by
  refine .of_sublist List.filter_sublist (Nat.le_refl _) ?_
  intro tidy closed
  exact List.eq_nil_of_sublist_nil (tidy.closed closed ▸ List.filter_sublist)

/-- What is in the mailboxes does not matter to the topics. -/
theorem evolves_of_same {mailboxes : List Mailbox}
    (same : mailboxes.length = board.mailboxes.length) :
    Evolves board { board with mailboxes } :=
  .of_sublist (.refl _) (Nat.le_of_eq same.symm) fun tidy => tidy.closed

theorem evolves_close (board : Board) : Evolves board board.close := by
  unfold close
  split
  · exact .refl board
  · exact .of_sublist (List.nil_sublist _) (Nat.le_refl _) fun _ _ => rfl

theorem evolves_read (board : Board) (number : Nat) : Evolves board (board.read number).2 := by
  unfold read
  dsimp only
  split
  · exact evolves_of_same (List.length_set ..)
  · exact .refl board

theorem evolves_keep (board : Board) (number : Nat) (unread : List Notification) :
    Evolves board (board.keep number unread) :=
  evolves_of_same (List.length_modify ..)

theorem evolves_abandon (board : Board) (number : Nat) : Evolves board (board.abandon number) :=
  evolves_of_same (List.length_set ..)

theorem evolves_post (board : Board) (notification : Notification) :
    Evolves board (board.post notification).2 := by
  unfold post
  split
  · exact .refl board
  · split
    · exact .refl board
    · dsimp only
      split
      · exact board.evolves_unsubscribe _
      · split
        · exact .refl board
        · exact evolves_of_same (List.length_set ..)

theorem evolves_subscribe (board : Board) (topic : String) :
    Evolves board (board.subscribe topic).2 := by
  unfold subscribe
  split
  · exact .refl board
  · rename_i opened
    split
    · exact .refl board
    · refine ⟨fun tidy => ⟨?_, ?_, fun closed => absurd closed opened⟩, ?_, ?_⟩
      · refine List.pairwise_cons.mpr ⟨?_, tidy.separate.filter _⟩
        intro entry kept
        exact Ne.symm (Nat.ne_of_lt (tidy.placed entry (List.mem_filter.mp kept).1))
      · intro entry member
        rcases List.mem_cons.mp member with rfl | kept
        · simp
        · simpa using Nat.lt_succ_of_lt (tidy.placed entry (List.mem_filter.mp kept).1)
      · simp
      · intro entry member
        rcases List.mem_cons.mp member with rfl | kept
        · exact .inr (Nat.le_refl _)
        · exact .inl (List.mem_filter.mp kept).1

/-! ## What a topic outlives -/

theorem Tidy.isClosed_of_find? (tidy : board.Tidy)
    (found : board.topics.find? topic = some number) : board.isClosed = false := by
  cases closed : board.isClosed with
  | false => rfl
  | true =>
      rw [Directory.find?_eq_some_iff, tidy.closed closed] at found
      cases found

theorem isClosed_close (board : Board) : board.close.isClosed = true := by
  unfold close
  split
  · assumption
  · rfl

theorem Tidy.isLinked_of_closed (tidy : board.Tidy) (closed : board.isClosed = true)
    (number : Nat) : board.isLinked number = false := by
  simp [isLinked, tidy.closed closed]

/-- The mailboxes of a closed board are read until they are empty. -/
theorem Tidy.read_of_closed (tidy : board.Tidy) (closed : board.isClosed = true) (number : Nat) :
    (board.read number).1 = .orEnd (board.mailbox number).unread.head? ∧
      ((board.read number).2.mailbox number).unread = (board.mailbox number).unread.tail := by
  unfold read
  dsimp only
  split
  · rename_i notification unread found
    have within : number < board.mailboxes.length := by
      refine Nat.lt_of_not_le fun beyond => ?_
      simp [mailbox, List.getD_eq_getElem?_getD, List.getElem?_eq_none beyond, Mailbox.missing]
        at found
    rw [found]
    exact ⟨rfl, by simp [mailbox, List.getD_eq_getElem?_getD, within]⟩
  · rename_i empty
    simp [empty, tidy.isLinked_of_closed closed number, Receipt.orEnd]

theorem Tidy.find?_close (tidy : board.Tidy) (topic : String) (number : Nat) :
    board.close.topics.find? topic ≠ some number := by
  rw [ne_eq, Directory.find?_eq_some_iff,
    (board.evolves_close.tidy tidy).closed board.isClosed_close]
  exact List.not_mem_nil

theorem find?_unsubscribe_iff (found : board.topics.find? topic = some number) (other : String) :
    (board.unsubscribe other).topics.find? topic = some number ↔ (other == topic) = false := by
  change (board.topics.erase other).find? topic = some number ↔ _
  rw [Directory.find?_erase]
  by_cases same : topic = other
  · simp [same]
  · simp [same, Ne.symm same, found]

theorem isClosed_post (board : Board) (notification : Notification) :
    (board.post notification).2.isClosed = board.isClosed := by
  unfold post
  split
  · rfl
  · split
    · rfl
    · dsimp only
      split
      · rfl
      · split <;> rfl

theorem isClosed_subscribe (board : Board) (topic : String) :
    (board.subscribe topic).2.isClosed = board.isClosed := by
  unfold subscribe
  split
  · rfl
  · split <;> rfl

theorem isClosed_read (board : Board) (number : Nat) :
    (board.read number).2.isClosed = board.isClosed := by
  unfold read
  dsimp only
  split <;> rfl

/-- Only a notification that finds its subscriber gone takes a topic away. -/
theorem find?_post_iff (opened : board.isClosed = false)
    (found : board.topics.find? topic = some number) (notification : Notification) :
    (board.post notification).2.topics.find? topic = some number ↔
      (notification.method == topic && (board.mailbox number).isAbandoned) = false := by
  unfold post
  rw [if_neg (Bool.eq_false_iff.mp opened)]
  by_cases same : notification.method = topic
  · subst same
    rw [found, beq_self_eq_true, Bool.true_and]
    dsimp only
    split
    · rename_i abandoned
      rw [find?_unsubscribe_iff found, beq_self_eq_true, abandoned]
    · rename_i present
      have kept : (board.mailbox number).isAbandoned = false := Bool.eq_false_iff.mpr present
      split <;> exact iff_of_true found kept
  · have differs : (notification.method == topic) = false := beq_eq_false_iff_ne.mpr same
    rw [differs, Bool.false_and]
    refine iff_of_true ?_ rfl
    split
    · exact found
    · dsimp only
      split
      · exact (find?_unsubscribe_iff found _).mpr differs
      · split <;> exact found

/-- Who subscribes takes nothing from those who have, and is refused a topic that is taken. -/
theorem find?_subscribe (opened : board.isClosed = false)
    (found : board.topics.find? topic = some number) (other : String) :
    (board.subscribe other).2.topics.find? topic = some number ∧
      (board.subscribe other).2.isClosed = false ∧
      ∀ fresh, (board.subscribe other).1 = .ok fresh → other ≠ topic := by
  unfold subscribe
  rw [if_neg (Bool.eq_false_iff.mp opened)]
  split
  · exact ⟨found, opened, fun _ failed => by cases failed⟩
  · rename_i untaken
    have differs : other ≠ topic := by
      rintro rfl
      simp [isSubscribed, Directory.contains, found] at untaken
    refine ⟨?_, opened, fun _ _ => differs⟩
    rw [Directory.find?_insert, if_neg (Ne.symm differs)]
    exact found

/-! ## A mailbox that no topic leads to -/

theorem isLinked_eq_false_iff :
    board.isLinked number = false ↔ ∀ entry ∈ board.topics.entries, entry.2 ≠ number := by
  simp [isLinked]

/-- No topic will ever lead to a mailbox again that was handed out and that none leads to. -/
theorem Evolves.unlinked (evolves : Evolves board later) (old : number < board.mailboxes.length)
    (unlinked : board.isLinked number = false) : later.isLinked number = false := by
  rw [isLinked_eq_false_iff] at unlinked ⊢
  intro entry member
  rcases evolves.origin entry member with known | new
  · exact unlinked entry known
  · exact Ne.symm (Nat.ne_of_lt (Nat.lt_of_lt_of_le old new))

/-- A topic that loses its mailbox loses it for good. -/
theorem Evolves.unlinked_of_lost (evolves : Evolves board later) (tidy : board.Tidy)
    (found : board.topics.find? topic = some number)
    (lost : later.topics.find? topic ≠ some number) : later.isLinked number = false := by
  rw [Directory.find?_eq_some_iff] at found
  rw [ne_eq, Directory.find?_eq_some_iff] at lost
  rw [isLinked_eq_false_iff]
  intro entry member same
  rcases evolves.origin entry member with known | new
  · have equal : entry = (topic, number) := eq_of_separate tidy.separate known found same
    exact lost (equal ▸ member)
  · exact absurd (tidy.placed _ found) (Nat.not_lt.mpr (same ▸ new))

end Board

end ServerManagement
