import ServerManagement.Proofs.Client.Arguments
import ServerManagement.Proofs.Client.Performance

/-!
How the operations that take an argument go: an argument that is refused is not sent, any other is
sent once as the one parameter of a request, and comes back from a server that answers with it.
-/

set_option autoImplicit false

namespace ServerManagement

open ServerManagement.Json
open ServerManagement.Wire

namespace Endpoint

variable {endpoint : Endpoint} {argument : endpoint.Argument} {terms : CallTerms}
  {session : Session} {steps : List Session.Step} {turns : List Turn}
  {result : Option (Except Failure endpoint.Result)}

theorem performs_of_refuses {failure : Failure} (refused : endpoint.Refuses argument failure)
    (performs : (endpoint.operation argument).Performs terms session steps turns result) :
    turns = [] ∧ result = some (.error failure) := by
  rw [operation_of_refuses refused] at performs
  cases performs with
  | done => exact ⟨rfl, rfl⟩

theorem performs_of_accepted (accepted : ∀ failure, ¬endpoint.Refuses argument failure)
    (performs : (endpoint.operation argument).Performs terms session steps turns result) :
    ∃ turn, turns = [turn] ∧ turn.method = endpoint.method ∧
      turn.params = .ok (.array [endpoint.element argument]) ∧
      result = turn.outcome.map (decodeOutcome endpoint.decoder) := by
  rw [operation_of_accepted accepted] at performs
  exact performs.single

theorem decodeOutcome_echo {expected : endpoint.Result} {response : Response}
    (echoed : endpoint.echo? argument = some expected) (accepted : response.error = none)
    (same : response.result = some (endpoint.element argument)) :
    decodeOutcome endpoint.decoder (.ok response) = .ok expected := by
  simp only [decodeOutcome, Response.decodeResult, checkError, accepted, same, decodePart,
    ofValue_element echoed]

/-- In every session and whatever happens to it, a refused argument ends the operation without a
call, and any other argument makes one call, for which at most one letter goes out. What goes out is
read as a request whose one parameter carries the argument. When a list is set or added to and the
server answers with that same parameter, its answer is read as such and the result is the list that
was given, of bans without the players named with them. -/
theorem argument_carried (settings : Settings) (lineCapacity : Nat) (loggerPanics : Bool)
    (before : List Session.Step) (terms : CallTerms) (endpoint : Endpoint)
    (argument : endpoint.Argument) :
    let start := Session.create settings lineCapacity loggerPanics
    (∀ others : List Session.Step, ∃ steps turns result,
      (endpoint.operation argument).Performs terms (start.run before) steps turns result ∧
        others.Sublist steps) ∧
    ∀ steps turns result,
      (endpoint.operation argument).Performs terms (start.run before) steps turns result →
      (∀ failure, endpoint.Refuses argument failure → turns = [] ∧ result = some (.error failure) ∧
        start.lettersFor turns (before ++ steps) = []) ∧
      ((∀ failure, ¬endpoint.Refuses argument failure) → ∃ turn element,
        turns = [turn] ∧ turn.method = endpoint.method ∧ turn.params = .ok (.array [element]) ∧
        endpoint.Carries argument element ∧
        (start.lettersFor turns (before ++ steps)).length ≤ 1 ∧
        (∀ letter ∈ start.lettersFor turns (before ++ steps),
          Request.record.decoder.parse (bytesOf letter.text) = .ok letter.request ∧
          letter.request.method = endpoint.method ∧ letter.request.params = some [element]) ∧
        ∀ expected, endpoint.echo? argument = some expected →
          (∀ id ≠ 0, decodeFrame (bytesOf (Response.record.render (.success id element))) =
            .ok (.response (.success id element))) ∧
          ∀ response, turn.outcome = some (.ok response) → response.error = none →
            response.result = some element → result = some (.ok expected)) := by
  intro start
  have flowing : start.Flowing := .create settings lineCapacity loggerPanics
  refine ⟨Exchange.exists_performs terms _ _, fun steps turns result performs => ⟨?_, ?_⟩⟩
  · intro failure refused
    obtain ⟨rfl, rfl⟩ := performs_of_refuses refused performs
    exact ⟨rfl, rfl, List.filter_eq_nil_iff.mpr fun _ _ => Bool.false_ne_true⟩
  · intro accepted
    obtain ⟨turn, rfl, method, params, rfl⟩ := performs_of_accepted accepted performs
    obtain ⟨plain, shallow⟩ := endpoint.isPlain_element argument
    have shallow : (endpoint.element argument).depth ≤ 8 := Nat.le_trans shallow (by decide)
    refine ⟨turn, endpoint.element argument, rfl, method, params, carries_element accepted, ?_,
      fun letter member => ?_, fun expected echoed => ⟨fun id nonzero => ?_, ?_⟩⟩
    · have once := (performs.letters_in_order flowing rfl).length_le
      simpa using once
    · obtain ⟨sent, _, called, same⟩ := Session.mem_lettersFor_iff.mp member
      obtain ⟨id, created⟩ := performs.request_of_letter flowing rfl called sent same
      rw [List.mem_singleton.mp called, params] at created
      obtain ⟨parsed, kept, params⟩ := Request.parse_render_one created plain shallow
      exact ⟨parsed, kept.trans method, params⟩
    · exact Response.decodeFrame_success nonzero plain shallow
    · intro response ended succeeded same
      rw [ended, Option.map_some, decodeOutcome_echo echoed succeeded same]

/-- A ban of an address that names a player goes out in one letter and comes back without the player;
a player without identifier keeps the allowlist from being sent. -/
theorem argument_carried_of_address_ban :
    let start := Session.create .standard 1000 false
    let request : NewAddressBan := ⟨"spam", "", "10.0.0.1", "admin", .named "Ann"⟩
    let element := addressBansAdd.element [request]
    let response := Response.success 1 element
    let steps : List Session.Step := [.call "minecraft:ip_bans/add" (.one element) .standard,
      .receive (.data (bytesOf (Response.record.render response)))] ++ []
    let turns : List Turn := [⟨0, "minecraft:ip_bans/add", .one element, some (.ok response)⟩]
    ((addressBansAdd.operation [request]).Performs .standard start steps turns
        (some (.ok [⟨"spam", "", "10.0.0.1", "admin"⟩])) ∧
      ∃ letter, start.lettersFor turns steps = [letter] ∧
        Request.record.decoder.parse (bytesOf letter.text) = .ok letter.request ∧
        letter.request.method = "minecraft:ip_bans/add" ∧
        letter.request.params = some [element]) ∧
    ((allowlistSet.operation [.named "Ann"]).Performs .standard start [] []
        (some (.error (.invalidArgument "玩家 'Ann' 必须带有 UUID"))) ∧
      start.lettersFor [] [] = []) := by
  intro start request element response steps turns
  have back : decodeOutcome addressBansAdd.decoder (.ok response) =
      .ok [⟨"spam", "", "10.0.0.1", "admin"⟩] := by decide +kernel
  have performs : (addressBansAdd.operation [request]).Performs .standard start steps turns
      (some (.ok [⟨"spam", "", "10.0.0.1", "admin"⟩])) := by
    refine .answered rfl (by decide +kernel) ?_
    rw [← back]
    exact .done
  have refused : (allowlistSet.operation [.named "Ann"]).Performs .standard start [] []
      (some (.error (.invalidArgument "玩家 'Ann' 必须带有 UUID"))) := .done
  obtain ⟨turn, carried, same, _, params, _, _, out, _⟩ :=
    ((argument_carried .standard 1000 false [] .standard addressBansAdd [request]).2 _ _ _
      performs).2 fun _ => id
  obtain rfl : element = carried := by
    obtain rfl := (List.cons.inj same).1
    cases params
    rfl
  have once : (start.lettersFor turns steps).length = 1 := by decide +kernel
  obtain ⟨letter, single⟩ := List.length_eq_one_iff.mp once
  have read := out letter (single ▸ List.mem_singleton_self letter)
  refine ⟨⟨performs, letter, single, read⟩, refused, ?_⟩
  exact (((argument_carried .standard 1000 false [] .standard allowlistSet [.named "Ann"]).2 _ _ _
    refused).1 _ ⟨[], .named "Ann", [], rfl, nofun, rfl, rfl⟩).2.2

end Endpoint

end ServerManagement
