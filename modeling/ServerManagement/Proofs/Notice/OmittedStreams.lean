import ServerManagement.Proofs.Notice.Omission

/-!
Event streams going on with one topic left out. The other streams do what they do anyway, and once
the board and the streams have settled, nothing tells how often those of the topic went on.
-/

set_option autoImplicit false

namespace ServerManagement

namespace EventStream

def without (stream : EventStream) (marks : List Bool) : EventStream :=
  { stream with mailbox := rank marks stream.mailbox }

def others (topic : String) (marks : List Bool) (streams : List EventStream) : List EventStream :=
  (streams.filter fun stream => stream.kind.topic != topic).map fun stream => stream.without marks

def staying (topic : String) (streams : List EventStream) : List Bool :=
  streams.map fun stream => stream.kind.topic != topic

structure Placed (omission : Omission) (marks : List Bool) (stream : EventStream) : Prop where
  mark : marks[stream.mailbox]? = some (stream.kind.topic != omission.topic)
  token : stream.kind.topic ≠ omission.topic → omission.owns stream.token = false

end EventStream

def Omission.rest (omission : Omission) (tokens : List Token) : List Token :=
  tokens.filter fun token => !omission.owns token

theorem Omission.contains_rest (omission : Omission) (tokens : List Token) {token : Token}
    (foreign : omission.owns token = false) :
    (omission.rest tokens).contains token = tokens.contains token := by
  rw [Bool.eq_iff_iff]
  simp [rest, List.mem_filter, foreign]

namespace EventStream

variable {omission : Omission} {marks : List Bool} {cancelled : List Token} {board : Board}
  {stream : EventStream} {streams : List EventStream}

theorem Placed.stays (placed : stream.Placed omission marks)
    (differs : stream.kind.topic ≠ omission.topic) : Stays marks stream.mailbox := by
  refine stays_of_mark ?_
  rw [placed.mark, bne_iff_ne.mpr differs]

theorem Placed.gone (placed : stream.Placed omission marks)
    (same : stream.kind.topic = omission.topic) : marks[stream.mailbox]? = some false := by
  rw [placed.mark, same, bne_self_eq_false]

structure SamePlace (stream after : EventStream) : Prop where
  kind : after.kind = stream.kind
  mailbox : after.mailbox = stream.mailbox
  token : after.token = stream.token

theorem Placed.samePlace {after : EventStream} (placed : stream.Placed omission marks)
    (same : SamePlace stream after) : after.Placed omission marks := by
  constructor
  · rw [same.mailbox, same.kind]
    exact placed.mark
  · rw [same.kind, same.token]
    exact placed.token

/-! ## Lists of streams -/

theorem others_eq (topic : String) (marks : List Bool) (streams : List EventStream) :
    others topic marks streams =
      (pick (staying topic streams) streams).map fun stream => stream.without marks := by
  rw [others, staying, pick_map_eq_filter]

theorem length_others (topic : String) (marks : List Bool) (streams : List EventStream) :
    (others topic marks streams).length = rank (staying topic streams) streams.length := by
  have length : (staying topic streams).length = streams.length := List.length_map ..
  rw [others_eq, List.length_map, length_pick length]

theorem getElem?_others {topic : String} {number : Nat}
    (stays : Stays (staying topic streams) number) (marks : List Bool) :
    (others topic marks streams)[rank (staying topic streams) number]? =
      streams[number]?.map fun stream => stream.without marks := by
  rw [others_eq, List.getElem?_map, getElem?_pick stays]

structure Passes (change : EventStream → EventStream) : Prop where
  place : ∀ stream, SamePlace stream (change stream)
  without : ∀ stream marks, (change stream).without marks = change (stream.without marks)

theorem staying_modify {change : EventStream → EventStream} (passes : Passes change)
    (topic : String) (streams : List EventStream) (number : Nat) :
    staying topic (streams.modify number change) = staying topic streams := by
  have same (stream : EventStream) : ((change stream).kind.topic != topic) =
      id (stream.kind.topic != topic) := by rw [(passes.place stream).kind, id_eq]
  rw [staying, staying, map_modify same, List.modify_id]

theorem others_modify {topic : String} {number : Nat} {change : EventStream → EventStream}
    (passes : Passes change) (stays : Stays (staying topic streams) number) (marks : List Bool) :
    others topic marks (streams.modify number change) =
      (others topic marks streams).modify (rank (staying topic streams) number) change := by
  rw [others_eq, others_eq, staying_modify passes, pick_modify stays,
    map_modify fun stream => passes.without stream marks]

theorem others_modify_of_gone {topic : String} {number : Nat}
    {change : EventStream → EventStream} (passes : Passes change)
    (gone : (staying topic streams)[number]? = some false) (marks : List Bool) :
    others topic marks (streams.modify number change) = others topic marks streams := by
  rw [others_eq, others_eq, staying_modify passes, pick_modify_of_gone gone]

theorem placed_modify {change : EventStream → EventStream} (passes : Passes change)
    (placed : ∀ stream ∈ streams, stream.Placed omission marks) (number : Nat) :
    ∀ stream ∈ streams.modify number change, stream.Placed omission marks := by
  intro stream member
  obtain ⟨index, here⟩ := List.getElem?_of_mem member
  rw [List.getElem?_modify, Option.map_eq_map, Option.map_eq_some_iff] at here
  obtain ⟨before, present, rfl⟩ := here
  have old := placed before (List.mem_of_getElem? present)
  split
  · exact old.samePlace (passes.place before)
  · exact old

theorem passes_read : Passes fun stream => stream.read.2 := by
  constructor
  · intro stream
    unfold read
    split <;> exact ⟨rfl, rfl, rfl⟩
  · intro stream marks
    unfold read without
    dsimp only
    split <;> rfl

theorem passes_abandon : Passes abandon := ⟨fun _ => ⟨rfl, rfl, rfl⟩, fun _ _ => rfl⟩

/-- A mark more does not matter to a stream that has a mailbox. -/
theorem Placed.without_append (placed : stream.Placed omission marks) (more : List Bool) :
    stream.without (marks ++ more) = stream.without marks := by
  obtain ⟨within, _⟩ := List.getElem?_eq_some_iff.mp placed.mark
  rw [without, without, rank_append (Nat.le_of_lt within)]

theorem Placed.append (placed : stream.Placed omission marks) (more : List Bool) :
    stream.Placed omission (marks ++ more) := by
  obtain ⟨within, _⟩ := List.getElem?_eq_some_iff.mp placed.mark
  refine ⟨?_, placed.token⟩
  rw [List.getElem?_append_left within]
  exact placed.mark

theorem others_marks_append (placed : ∀ stream ∈ streams, stream.Placed omission marks)
    (topic : String) (more : List Bool) :
    others topic (marks ++ more) streams = others topic marks streams :=
  List.map_congr_left fun stream member =>
    (placed stream (List.mem_filter.mp member).1).without_append more

/-! ## One stream -/

theorem samePlace_pull (stream : EventStream) (unread : List Notification) :
    SamePlace stream (stream.offer.pull unread).1 := by
  have owner := (sameOwner_offer stream).trans
    (pulled_pull (offered_offer stream) unread).owner
  exact ⟨owner.kind, owner.mailbox, owner.token⟩

theorem samePlace_advance (cancelled : List Token) (board : Board) (stream : EventStream) :
    SamePlace stream (stream.advance cancelled board).2 := by
  have pulled := samePlace_pull stream (board.mailbox stream.mailbox).unread
  unfold advance
  split
  · exact ⟨rfl, rfl, rfl⟩
  · split
    · exact ⟨rfl, rfl, rfl⟩
    · dsimp only
      split <;> exact ⟨pulled.kind, pulled.mailbox, pulled.token⟩

theorem marked_advance {topic : String} (cancelled : List Token) (stream : EventStream)
    (marked : board.Marked topic marks) :
    (stream.advance cancelled board).1.Marked topic marks := by
  unfold advance
  split
  · exact marked
  · split
    · exact (marked.unsubscribe _).abandon _
    · dsimp only
      split
      · exact ((marked.keep _ _).unsubscribe _).abandon _
      · exact marked.keep _ _

theorem offer_without (stream : EventStream) (marks : List Bool) :
    (stream.without marks).offer = stream.offer.without marks := by
  unfold offer without
  dsimp only
  split <;> rfl

theorem pull_without (stream : EventStream) (marks : List Bool) (unread : List Notification) :
    (stream.without marks).pull unread =
      ((stream.pull unread).1.without marks, (stream.pull unread).2) := by
  induction unread generalizing stream with
  | nil => rfl
  | cons notification unread ih =>
      have held : (stream.without marks).held = stream.held := rfl
      have kind : (stream.without marks).kind = stream.kind := rfl
      unfold pull
      rw [held, kind]
      split
      · rfl
      · split
        · exact ih stream
        · rename_i event _
          have offered := offer_without { stream with held := some event } marks
          exact (congrArg (pull · unread) offered).trans (ih _)

theorem retire_without (stays : Stays marks stream.mailbox) (board : Board) (topic : String) :
    (stream.without marks).retire (board.without topic marks) =
      ((stream.retire board).1.without topic marks, (stream.retire board).2.without marks) := by
  have left := (board.unsubscribe stream.kind.topic).abandon_without topic stays
  rw [Board.unsubscribe_without] at left
  exact Prod.ext left.symm rfl

theorem retire_without_of_gone (gone : marks[stream.mailbox]? = some false) (board : Board) :
    (stream.retire board).1.without stream.kind.topic marks =
      board.without stream.kind.topic marks :=
  ((board.unsubscribe _).abandon_without_of_gone _ gone).trans
    (board.unsubscribe_without_self _ marks)

/-- A stream of another topic goes on as it does anyway. -/
theorem advance_without (cancelled : List Token) (marked : board.Marked omission.topic marks)
    (placed : stream.Placed omission marks) (differs : stream.kind.topic ≠ omission.topic) :
    (stream.without marks).advance (omission.rest cancelled) (board.without omission.topic marks) =
      ((stream.advance cancelled board).1.without omission.topic marks,
        (stream.advance cancelled board).2.without marks) := by
  have stays := placed.stays differs
  have live : (stream.without marks).isLive = stream.isLive := rfl
  have reader : (stream.without marks).isAbandoned = stream.isAbandoned := rfl
  have token : (omission.rest cancelled).contains (stream.without marks).token =
      cancelled.contains stream.token := omission.contains_rest cancelled (placed.token differs)
  have unread :
      ((board.without omission.topic marks).mailbox (stream.without marks).mailbox).unread =
        (board.mailbox stream.mailbox).unread := congrArg _ (Board.mailbox_without stays)
  have place := samePlace_pull stream (board.mailbox stream.mailbox).unread
  unfold advance
  rw [live, reader, token, unread, offer_without, pull_without]
  split
  · rfl
  · split
    · exact retire_without stays board _
    · dsimp only
      generalize stream.offer.pull (board.mailbox stream.mailbox).unread = pulled at place
      have stays : Stays marks pulled.1.mailbox := place.mailbox ▸ stays
      have kept := board.keep_without omission.topic stays pulled.2
      have linked := Board.isLinked_without (marked.keep pulled.1.mailbox pulled.2) stays
      have held : (pulled.1.without marks).held = pulled.1.held := rfl
      have mailbox : (pulled.1.without marks).mailbox = rank marks pulled.1.mailbox := rfl
      rw [held, mailbox, ← kept, linked]
      split
      · exact retire_without stays _ _
      · rfl

/-- What a stream of the topic does is not seen. -/
theorem advance_without_of_gone (placed : stream.Placed omission marks)
    (same : stream.kind.topic = omission.topic) :
    (stream.advance cancelled board).1.without omission.topic marks =
      board.without omission.topic marks := by
  have gone := placed.gone same
  have place := samePlace_pull stream (board.mailbox stream.mailbox).unread
  unfold advance
  split
  · rfl
  · split
    · exact same ▸ retire_without_of_gone gone board
    · dsimp only
      generalize stream.offer.pull (board.mailbox stream.mailbox).unread = pulled at place
      have gone : marks[pulled.1.mailbox]? = some false := place.mailbox ▸ gone
      have same : pulled.1.kind.topic = omission.topic := by rw [place.kind, same]
      split
      · rw [← same, retire_without_of_gone gone, Board.keep_without_of_gone _ _ gone]
      · exact board.keep_without_of_gone _ gone _

/-! ## All streams -/

theorem marked_sweep {topic : String} (cancelled : List Token) (streams : List EventStream)
    (marked : board.Marked topic marks) :
    (sweep cancelled board streams).1.Marked topic marks := by
  induction streams generalizing board with
  | nil => exact marked
  | cons stream streams ih => exact ih (marked_advance cancelled stream marked)

theorem placed_sweep (cancelled : List Token) (board : Board)
    (placed : ∀ stream ∈ streams, stream.Placed omission marks) :
    ∀ stream ∈ (sweep cancelled board streams).2, stream.Placed omission marks := by
  induction streams generalizing board with
  | nil => exact placed
  | cons stream streams ih =>
      intro other member
      rcases List.mem_cons.mp member with rfl | member
      · exact (placed stream (List.mem_cons_self ..)).samePlace (samePlace_advance ..)
      · exact ih _ (fun next here => placed next (List.mem_cons_of_mem _ here)) other member

theorem sweep_without (cancelled : List Token) (marked : board.Marked omission.topic marks)
    (placed : ∀ stream ∈ streams, stream.Placed omission marks) :
    sweep (omission.rest cancelled) (board.without omission.topic marks)
        (others omission.topic marks streams) =
      ((sweep cancelled board streams).1.without omission.topic marks,
        others omission.topic marks (sweep cancelled board streams).2) := by
  induction streams generalizing board with
  | nil => rfl
  | cons stream streams ih =>
      have here := placed stream (List.mem_cons_self ..)
      have rest := ih (marked_advance cancelled stream marked)
        fun other member => placed other (List.mem_cons_of_mem _ member)
      have kind := (samePlace_advance cancelled board stream).kind
      by_cases same : stream.kind.topic = omission.topic
      -- Without the topic, the streams behind this one find the board as it was before.
      · rw [advance_without_of_gone here same] at rest
        simpa [sweep, others, kind, same] using rest
      · have first := advance_without cancelled marked here same
        simp only [others] at rest
        simp [sweep, others, kind, bne_iff_ne.mpr same, first, rest]

theorem settle_of_sweep_eq (still : sweep cancelled board streams = (board, streams)) :
    settle cancelled board streams = (board, streams) := by
  rw [settle]
  simp [still]

/-- Letting the streams go on once before they settle makes no difference. -/
theorem settle_sweep (cancelled : List Token) (board : Board) (streams : List EventStream) :
    settle cancelled (sweep cancelled board streams).1 (sweep cancelled board streams).2 =
      settle cancelled board streams := by
  by_cases ends : liveCount (sweep cancelled board streams).2 < liveCount streams
  · rw [settle.eq_def cancelled board streams]
    simp only [if_pos ends]
  · rw [settle.eq_def cancelled board streams]
    simp only [if_neg ends]
    exact settle_of_rests (rests_sweep board ends).1

theorem marked_settle {topic : String} (cancelled : List Token) (streams : List EventStream)
    (marked : board.Marked topic marks) :
    (settle cancelled board streams).1.Marked topic marks := by
  fun_induction settle cancelled board streams with
  | case1 board streams swept ends ih => exact ih (marked_sweep cancelled streams marked)
  | case2 board streams swept stays => exact marked_sweep cancelled streams marked

theorem placed_settle (cancelled : List Token) (board : Board)
    (placed : ∀ stream ∈ streams, stream.Placed omission marks) :
    ∀ stream ∈ (settle cancelled board streams).2, stream.Placed omission marks := by
  fun_induction settle cancelled board streams with
  | case1 board streams swept ends ih => exact ih (placed_sweep cancelled board placed)
  | case2 board streams swept stays => exact placed_sweep cancelled board placed

/-- The streams of the topic may need more rounds than the others, in which these stay as they
are. -/
theorem settle_without (cancelled : List Token) (marked : board.Marked omission.topic marks)
    (placed : ∀ stream ∈ streams, stream.Placed omission marks) :
    settle (omission.rest cancelled) (board.without omission.topic marks)
        (others omission.topic marks streams) =
      ((settle cancelled board streams).1.without omission.topic marks,
        others omission.topic marks (settle cancelled board streams).2) := by
  fun_induction settle cancelled board streams with
  | case1 board streams swept ends ih =>
      -- Perhaps only a stream of the topic has ended, and the others are at rest after one round.
      have once := sweep_without cancelled marked placed
      have later := ih (marked_sweep cancelled streams marked) (placed_sweep cancelled board placed)
      rw [← settle_sweep, once]
      exact later
  | case2 board streams swept stays =>
      have once := sweep_without cancelled marked placed
      -- Another round would change nothing, and so without the topic it does not either.
      have again := sweep_without cancelled (marked_sweep cancelled streams marked)
        (placed_sweep cancelled board placed)
      rw [sweep_of_rests (rests_sweep board stays).1] at again
      rw [← settle_sweep, once]
      exact settle_of_sweep_eq again

end EventStream

end ServerManagement
