import ServerManagement.Proofs.Calendar.ExpiryReading
import ServerManagement.Proofs.Client.ArgumentCourse

/-!
Bans of addresses know their address: one that was made for an address is read as banning it, also
after it has been written and read; and whatever text a ban has for its address, lifting the ban of
that address names it.
-/

set_option autoImplicit false

namespace ServerManagement

open ServerManagement.Json
open ServerManagement.Wire
open Calendar (Moment)

variable {address : Address} {now moment : Moment} {reason source text : String} {player : Player}

theorem banAddress_eq_ok_iff : banAddress text = .ok address ↔
    Address.parse? text.toList = some address := by
  unfold banAddress
  cases Address.parse? text.toList <;> simp

theorem banAddress_render (address : Address) : banAddress address.render = .ok address :=
  banAddress_eq_ok_iff.mpr address.parse?_render

/-! ## Made bans -/

theorem AddressBan.address_of_create {ban : AddressBan}
    (created : create now address moment reason source = .ok ban) : ban.address = .ok address := by
  rw [create_eq_map] at created
  exact eq_of_map_futureExpiry created ▸ banAddress_render address

theorem NewAddressBan.address_of_create {ban : NewAddressBan}
    (created : create now address player moment reason source = .ok ban) :
    ban.address = .ok address := by
  rw [create_eq_map] at created
  exact eq_of_map_futureExpiry created ▸ banAddress_render address

theorem AddressBan.parse_of_mem_texts {ban : AddressBan} (member : text ∈ record.texts ban) :
    record.decoder.parse (bytesOf text) = .ok ban :=
  RecordType.parse_of_mem_texts .addressBan trivial (writesPlain_addressBan 0) (by decide) member

theorem NewAddressBan.parse_of_mem_texts {ban : NewAddressBan} (member : text ∈ record.texts ban) :
    record.decoder.parse (bytesOf text) = .ok ban :=
  RecordType.parse_of_mem_texts .newAddressBan trivial (writesPlain_newAddressBan 0) (by decide)
    member

/-! ## Lifted bans -/

def liftedBan (address : Address) : Value := .array [.text address.render]

theorem performs_addressBansRemove {terms : CallTerms} {session : Session}
    {steps : List Session.Step} {turns : List Turn}
    {result : Option (Except Failure (List AddressBan))}
    (performs : (Client.addressBansRemove [address]).Performs terms session steps turns result) :
    ∃ turn, turns = [turn] ∧ turn.method = "minecraft:ip_bans/remove" ∧
      turn.params = .ok (.array [liftedBan address]) := by
  have accepted (failure : Failure) : ¬Endpoint.Refuses .addressBansRemove [address] failure := id
  obtain ⟨turn, once, method, params, _⟩ := Endpoint.performs_of_accepted accepted performs
  exact ⟨turn, once, method, params⟩

/-- A letter that goes out to lift a ban is read as a request with that parameter. -/
theorem read_lifted_ban {start : Session} (flowing : start.Flowing)
    (blank : start.outbound.unwritten = []) {before steps : List Session.Step} {terms : CallTerms}
    {turns : List Turn} {result : Option (Except Failure (List AddressBan))}
    (performs : (Client.addressBansRemove [address]).Performs terms (start.run before) steps turns
      result) {letter : Letter} (sent : letter ∈ start.lettersFor turns (before ++ steps)) :
    Request.record.decoder.parse (bytesOf letter.text) = .ok letter.request ∧
      letter.request.method = "minecraft:ip_bans/remove" ∧
      letter.request.params = some [liftedBan address] := by
  obtain ⟨turn, rfl, method, params⟩ := performs_addressBansRemove performs
  obtain ⟨out, _, called, same⟩ := Session.mem_lettersFor_iff.mp sent
  obtain ⟨id, created⟩ := performs.request_of_letter flowing blank called out same
  rw [List.mem_singleton.mp called, method, params] at created
  obtain ⟨plain, shallow⟩ := Endpoint.isPlain_element .addressBansRemove [address]
  exact Request.parse_render_one created plain (Nat.le_trans shallow (by decide))

/-- Every ban that is made for an address is read as banning it, as it is and when it is read from
a text in which it was written; one is made whenever its end has not passed. Whatever text an
address was read from, its canonical text is read as that address; and the operation that lifts its
ban makes one call, whose letter carries this text and nothing else. -/
theorem banned_addresses_known :
    (∀ now address moment reason source ban,
      AddressBan.create now address moment reason source = .ok ban →
        ban.address = .ok address ∧ ∀ text ∈ AddressBan.record.texts ban,
          AddressBan.record.decoder.parse (bytesOf text) = .ok ban) ∧
    (∀ now address player moment reason source ban,
      NewAddressBan.create now address player moment reason source = .ok ban →
        ban.address = .ok address ∧ ∀ text ∈ NewAddressBan.record.texts ban,
          NewAddressBan.record.decoder.parse (bytesOf text) = .ok ban) ∧
    (∀ now moment : Moment, moment.isBefore now = false → ∀ address player reason source,
      (∃ ban, AddressBan.create now address moment reason source = .ok ban) ∧
        ∃ ban, NewAddressBan.create now address player moment reason source = .ok ban) ∧
    ∀ text address, banAddress text = .ok address →
      banAddress address.render = .ok address ∧
      ∀ (settings : Settings) (lineCapacity : Nat) (loggerPanics : Bool)
        (before steps : List Session.Step) (terms : CallTerms) (turns : List Turn)
        (result : Option (Except Failure (List AddressBan))),
        let start := Session.create settings lineCapacity loggerPanics
        (Client.addressBansRemove [address]).Performs terms (start.run before) steps turns result →
          (∃ turn, turns = [turn] ∧ turn.method = "minecraft:ip_bans/remove" ∧
            turn.params = .ok (.array [.array [.text address.render]])) ∧
          ∀ letter ∈ start.lettersFor turns (before ++ steps),
            Request.record.decoder.parse (bytesOf letter.text) = .ok letter.request ∧
            letter.request.method = "minecraft:ip_bans/remove" ∧
            letter.request.params = some [.array [.text address.render]] := by
  refine ⟨?_, ?_, ?_, ?_⟩
  · intro now address moment reason source ban created
    exact ⟨AddressBan.address_of_create created, fun _ => AddressBan.parse_of_mem_texts⟩
  · intro now address player moment reason source ban created
    exact ⟨NewAddressBan.address_of_create created, fun _ => NewAddressBan.parse_of_mem_texts⟩
  · intro now moment ahead address player reason source
    have future : futureExpiry now moment = .ok moment.expiryText :=
      futureExpiry_eq_ok_iff.mpr ⟨ahead, rfl⟩
    simp [AddressBan.create_eq_map, NewAddressBan.create_eq_map, future, Except.map]
  · intro text address _
    refine ⟨banAddress_render address, ?_⟩
    intro settings lineCapacity loggerPanics before steps terms turns result start performs
    exact ⟨performs_addressBansRemove performs,
      fun letter => read_lifted_ban (.create settings lineCapacity loggerPanics) rfl performs⟩

/-- An address that embeds four octets, read from a longer spelling. -/
theorem banned_addresses_known_of_embedded :
    let address : Address := .v6 #v[0, 0, 0, 0, 0, 0xFFFF, 0x0A00, 0x0001]
    let ban : AddressBan := ⟨"spam", "Thu Jan  1 00:00:01 1970", "::ffff:10.0.0.1", "admin"⟩
    let start := Session.create .standard 1000 false
    let steps : List Session.Step :=
      [.call "minecraft:ip_bans/remove" (.one (liftedBan address)) .standard]
    let turns : List Turn := [⟨0, "minecraft:ip_bans/remove", .one (liftedBan address), none⟩]
    let letter : Letter := ⟨0, 1, "minecraft:ip_bans/remove", some [liftedBan address]⟩
    (AddressBan.create ⟨0, 0⟩ address ⟨1, 0⟩ "spam" "admin" = .ok ban ∧
      ban.address = .ok address) ∧
    (banAddress "0:0::FFFF:0a00:0001" = .ok address ∧
      banAddress address.render = .ok address) ∧
    (Client.addressBansRemove [address]).Performs .standard start steps turns none ∧
    start.lettersFor turns ([] ++ steps) = [letter] ∧
    letter.request.params = some [.array [.text address.render]] ∧
    letter.text = r#"{"id":1,"method":"minecraft:ip_bans/remove","# ++
      r#""params":[["::ffff:10.0.0.1"]]}"# := by
  intro address ban start steps turns letter
  have created : AddressBan.create ⟨0, 0⟩ address ⟨1, 0⟩ "spam" "admin" = .ok ban := by
    decide +kernel
  have known : banAddress "0:0::FFFF:0a00:0001" = .ok address := by decide +kernel
  have performs : (Client.addressBansRemove [address]).Performs .standard start steps turns none :=
    .waiting rfl (by decide +kernel)
  have sent : start.lettersFor turns ([] ++ steps) = [letter] := by decide +kernel
  obtain ⟨again, lifted⟩ := banned_addresses_known.2.2.2 _ address known
  have carried := (lifted .standard 1000 false [] steps .standard turns none performs).2 letter
    (sent ▸ List.mem_singleton_self letter)
  have bans := (banned_addresses_known.1 _ _ _ _ _ _ created).1
  exact ⟨⟨created, bans⟩, ⟨known, again⟩, performs, sent, carried.2.2, by decide +kernel⟩

end ServerManagement
