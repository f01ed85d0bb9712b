import ServerManagement.Proofs.Notice.BoardFrames
import ServerManagement.Proofs.Notice.StreamRest

/-!
One stream among others. When streams go on together each of them takes from its own mailbox only,
so that one of them can be followed while the others go on beside it.
-/

set_option autoImplicit false

namespace ServerManagement

namespace EventStream

def owner (stream : EventStream) : EventKind × Nat × Token × Bool :=
  (stream.kind, stream.mailbox, stream.token, stream.isAbandoned)

variable {cancelled : List Token} {board : Board} {stream other : EventStream}
  {streams later : List EventStream} {number mailbox : Nat} {topic : String}

/-! ## What stays -/

theorem SameOwner.owner_eq {after : EventStream} (same : SameOwner stream after) :
    after.owner = stream.owner := by
  simp only [owner, same.kind, same.mailbox, same.token, same.isAbandoned]

theorem sameOwner_pull (stream : EventStream) (unread : List Notification) :
    SameOwner stream (stream.offer.pull unread).1 :=
  (sameOwner_offer stream).trans (pulled_pull (offered_offer stream) unread).owner

theorem owner_advance (cancelled : List Token) (board : Board) (stream : EventStream) :
    (stream.advance cancelled board).2.owner = stream.owner := by
  have pulled :=
    (sameOwner_pull stream (board.mailbox stream.mailbox).unread).owner_eq
  unfold advance
  split
  · rfl
  · split
    · rfl
    · dsimp only
      split <;> exact pulled

theorem owners_sweep (cancelled : List Token) (board : Board) (streams : List EventStream) :
    (sweep cancelled board streams).2.map owner = streams.map owner := by
  induction streams generalizing board with
  | nil => rfl
  | cons stream streams ih => simp only [sweep, List.map_cons, owner_advance, ih]

theorem owners_settle (cancelled : List Token) (board : Board) (streams : List EventStream) :
    (settle cancelled board streams).2.map owner = streams.map owner := by
  fun_induction settle cancelled board streams with
  | case1 board streams swept ends ih => exact ih.trans (owners_sweep cancelled board streams)
  | case2 board streams swept stays => exact owners_sweep cancelled board streams

theorem owner_of_getElem? (same : later.map owner = streams.map owner) {after : EventStream}
    (here : later[number]? = some after) :
    ∃ before, streams[number]? = some before ∧ after.owner = before.owner := by
  have there : (streams.map owner)[number]? = some after.owner := by
    rw [← same, List.getElem?_map, here]
    rfl
  rw [List.getElem?_map, Option.map_eq_some_iff] at there
  obtain ⟨before, found, equal⟩ := there
  exact ⟨before, found, equal.symm⟩

theorem Fades.live (fades : Fades streams later) {before after : EventStream}
    (there : streams[number]? = some before) (here : later[number]? = some after)
    (live : after.isLive = true) : before.isLive = true := by
  induction fades generalizing number with
  | nil => cases there
  | cons kind fading rest ih =>
      cases number with
      | zero =>
          cases there
          cases here
          exact fading live
      | succ number => exact ih there here

/-! ## What a stream does to the board -/

theorem capacity_advance (cancelled : List Token) (board : Board) (stream : EventStream) :
    (stream.advance cancelled board).1.capacity = board.capacity := by
  unfold advance
  split
  · rfl
  · split
    · rfl
    · dsimp only
      split <;> rfl

theorem capacity_sweep (cancelled : List Token) (board : Board) (streams : List EventStream) :
    (sweep cancelled board streams).1.capacity = board.capacity := by
  induction streams generalizing board with
  | nil => rfl
  | cons stream streams ih => exact (ih _).trans (capacity_advance cancelled board stream)

theorem capacity_settle (cancelled : List Token) (board : Board) (streams : List EventStream) :
    (settle cancelled board streams).1.capacity = board.capacity := by
  fun_induction settle cancelled board streams with
  | case1 board streams swept ends ih => exact ih.trans (capacity_sweep cancelled board streams)
  | case2 board streams swept stays => exact capacity_sweep cancelled board streams

/-- A stream has no part in the subscriptions of others, unless it ends and takes their topic. -/
theorem untouched_advance (differs : other.mailbox ≠ mailbox)
    (spared : board.isClosed = false → other.kind.topic = topic → other.isLive = true →
      (other.advance cancelled board).2.isLive = true) :
    Board.Untouched topic mailbox board (other.advance cancelled board).1 := by
  have settles := settles_advance cancelled board other
  have box : (other.advance cancelled board).1.mailbox mailbox = board.mailbox mailbox := by
    have pulled := (sameOwner_pull other (board.mailbox other.mailbox).unread).mailbox
    unfold advance
    split
    · rfl
    · split
      · exact Board.mailbox_abandon _ differs
      · dsimp only
        rw [← pulled] at differs
        have kept := board.mailbox_keep_of_ne differs
        split
        · exact (Board.mailbox_abandon _ differs).trans (kept _)
        · exact kept _
  refine ⟨box, capacity_advance cancelled board other,
    fun opened => settles.isClosed.symm.trans opened, ?_⟩
  intro opened found
  have opened := settles.isClosed.symm.trans opened
  have lasts : endedOn topic [other] [(other.advance cancelled board).2] = false := by
    simp only [endedOn, Bool.or_false, Bool.and_eq_false_iff, beq_eq_false_iff_ne,
      Bool.not_eq_false']
    by_cases same : other.kind.topic = topic
    · cases live : other.isLive with
      | true => exact .inr (spared opened same live)
      | false => exact .inl (.inr rfl)
    · exact .inl (.inl same)
  rw [settles.topics, lasts]
  exact found

/-! ## Following one stream -/

def Spared (concerned : EventKind → Prop) (number : Nat) (streams later : List EventStream) :
    Prop :=
  ∀ (index : Nat) (stream after : EventStream), index ≠ number → streams[index]? = some stream →
    later[index]? = some after → concerned stream.kind → stream.isLive = true →
    after.isLive = true

theorem live_of_endedOn (lasting : endedOn topic streams later = false)
    {index : Nat} {stream after : EventStream} (there : streams[index]? = some stream)
    (last : later[index]? = some after) (same : stream.kind.topic = topic)
    (live : stream.isLive = true) : after.isLive = true := by
  induction streams generalizing later index with
  | nil => cases there
  | cons first streams ih =>
      cases later with
      | nil => cases last
      | cons next later =>
          simp only [endedOn, Bool.or_eq_false_iff] at lasting
          cases index with
          | zero =>
              cases there
              cases last
              simpa [same, live] using lasting.1
          | succ index => exact ih lasting.2 there last

/-- The other streams of a topic are spared if none of them ends. -/
theorem spared_of_endedOn
    (lasting : endedOn topic (streams.eraseIdx number) (later.eraseIdx number) = false) :
    Spared (·.topic = topic) number streams later := by
  intro index stream after differs there last same live
  have placed {items : List EventStream} {item : EventStream} (here : items[index]? = some item) :
      (items.eraseIdx number)[if index < number then index else index - 1]? = some item := by
    rw [List.getElem?_eraseIdx]
    by_cases before : index < number
    · simp only [before, if_true, here]
    · have beyond : ¬index - 1 < number := by omega
      have back : index - 1 + 1 = index := by omega
      simp only [before, beyond, if_false, back, here]
  exact live_of_endedOn lasting (placed there) (placed last) same live

def Alone (mailbox number : Nat) (streams : List EventStream) : Prop :=
  ∀ (index : Nat) (other : EventStream), index ≠ number → streams[index]? = some other →
    other.mailbox ≠ mailbox

section Following

variable {concerned : EventKind → Prop} {holds : Board → EventStream → Prop}
  (own : ∀ (board : Board) (stream : EventStream), stream.mailbox = mailbox → holds board stream →
    holds (stream.advance cancelled board).1 (stream.advance cancelled board).2)
  (beside : ∀ (board : Board) (stream other : EventStream), other.mailbox ≠ mailbox →
    (concerned other.kind → other.isLive = true →
      (other.advance cancelled board).2.isLive = true) →
    holds board stream → holds (other.advance cancelled board).1 stream)

include beside in
theorem beside_sweep (apart : ∀ other ∈ streams, other.mailbox ≠ mailbox)
    (spared : ∀ (index : Nat) (before after : EventStream), streams[index]? = some before →
      (sweep cancelled board streams).2[index]? = some after → concerned before.kind →
      before.isLive = true → after.isLive = true)
    (start : holds board stream) : holds (sweep cancelled board streams).1 stream := by
  induction streams generalizing board with
  | nil => exact start
  | cons first streams ih =>
      have passed := beside board stream first (apart first (List.mem_cons_self ..))
        (spared 0 first _ rfl rfl) start
      exact ih (fun other member => apart other (List.mem_cons_of_mem _ member))
        (fun index before after there here => spared (index + 1) before after there here) passed

include own beside in
theorem follow_sweep (here : streams[number]? = some stream) (same : stream.mailbox = mailbox)
    (apart : Alone mailbox number streams)
    (spared : Spared concerned number streams (sweep cancelled board streams).2)
    (start : holds board stream) :
    ∃ after, (sweep cancelled board streams).2[number]? = some after ∧
      holds (sweep cancelled board streams).1 after := by
  induction streams generalizing board number with
  | nil => cases here
  | cons first streams ih =>
      -- The streams before the place go on beside it, and those after it do so at the end.
      cases number with
      | zero =>
          obtain rfl : first = stream := Option.some.inj here
          refine ⟨(first.advance cancelled board).2, rfl, ?_⟩
          change holds (sweep cancelled (first.advance cancelled board).1 streams).1 _
          refine beside_sweep beside ?_ ?_ (own board first same start)
          · intro other member
            obtain ⟨index, found⟩ := List.getElem?_of_mem member
            exact apart (index + 1) other (Nat.succ_ne_zero _) found
          · intro index before after there now
            exact spared (index + 1) before after (Nat.succ_ne_zero _) there now
      | succ number =>
          have first := beside board stream first
            (apart 0 first (Nat.succ_ne_zero _).symm rfl)
            (spared 0 first _ (Nat.succ_ne_zero _).symm rfl rfl) start
          refine ih here (fun index other differs => ?_) (fun index before after differs => ?_)
            first
          · exact apart (index + 1) other fun equal => differs (Nat.succ.inj equal)
          · exact spared (index + 1) before after fun equal => differs (Nat.succ.inj equal)

include own beside in
/-- What a stream keeps while it goes on, and while others go on that do not give up its topic, it
keeps until nothing can move. -/
theorem follow_settle (here : streams[number]? = some stream) (same : stream.mailbox = mailbox)
    (apart : Alone mailbox number streams)
    (spared : Spared concerned number streams (settle cancelled board streams).2)
    (start : holds board stream) :
    ∃ after, (settle cancelled board streams).2[number]? = some after ∧
      holds (settle cancelled board streams).1 after := by
  fun_induction settle cancelled board streams generalizing stream with
  | case2 board streams stays =>
      exact follow_sweep own beside here same apart spared start
  | case1 board streams swept ends =>
      rename_i ih
      have owners : swept.2.map owner = streams.map owner := owners_sweep cancelled board streams
      have fades : Fades streams swept.2 := (settles_sweep cancelled board streams).fades
      have onwards := settles_settle cancelled swept.1 swept.2
      have lasts {index : Nat} {between : EventStream} (there : swept.2[index]? = some between) :
          ∃ after, (settle cancelled swept.1 swept.2).2[index]? = some after := by
        have length := congrArg List.length (owners_settle cancelled swept.1 swept.2)
        simp only [List.length_map] at length
        have within := (List.getElem?_eq_some_iff.mp there).1
        exact ⟨_, List.getElem?_eq_getElem (length ▸ within)⟩
      -- A stream that is live at the end was live in between.
      obtain ⟨middle, there, held⟩ := follow_sweep own beside here same apart
        (fun index before between differs early now kind live => by
          obtain ⟨after, last⟩ := lasts now
          exact onwards.fades.live now last
            (spared index before after differs early last kind live)) start
      obtain ⟨before, found, owned⟩ := owner_of_getElem? owners there
      obtain rfl : stream = before := Option.some.inj (here.symm.trans found)
      refine ih there ?_ ?_ ?_ held
      · exact (congrArg (fun owner => owner.2.1) owned).trans same
      · intro index other differs found
        obtain ⟨before, early, owned⟩ := owner_of_getElem? owners found
        have mine : other.mailbox = before.mailbox := congrArg (fun owner => owner.2.1) owned
        exact mine ▸ apart index before differs early
      · intro index between after differs found last kind live
        obtain ⟨before, early, owned⟩ := owner_of_getElem? owners found
        have same : between.kind = before.kind := congrArg Prod.fst owned
        exact spared index before after differs early last (same ▸ kind)
          (fades.live early found live)

end Following

/-- A stream that has ended stays as it is, whatever the others do. -/
theorem settle_of_ended (ended : stream.isLive = false) (here : streams[number]? = some stream)
    (apart : Alone stream.mailbox number streams) :
    (settle cancelled board streams).2[number]? = some stream := by
  let holds (_ : Board) (after : EventStream) : Prop := after = stream
  have own : ∀ (now : Board) (after : EventStream), after.mailbox = stream.mailbox →
      holds now after → holds (after.advance cancelled now).1 (after.advance cancelled now).2 := by
    intro now after _ same
    have rests : after.Rests cancelled now := .ended (same ▸ ended)
    rw [rests.advance_eq_self]
    exact same
  have unconcerned : Spared (fun _ => False) number streams (settle cancelled board streams).2 :=
    fun _ _ _ _ _ _ concerned => concerned.elim
  have beside : ∀ (now : Board) (after other : EventStream), other.mailbox ≠ stream.mailbox →
      (False → other.isLive = true → (other.advance cancelled now).2.isLive = true) →
      holds now after → holds (other.advance cancelled now).1 after := fun _ _ _ _ _ => id
  obtain ⟨after, found, same⟩ := follow_settle own beside here rfl apart unconcerned rfl
  exact same ▸ found

end EventStream

end ServerManagement
