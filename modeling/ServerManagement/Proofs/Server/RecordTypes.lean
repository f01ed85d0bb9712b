import ServerManagement.Envelope.Basic
import ServerManagement.Proofs.Server.UuidReading
import ServerManagement.Proofs.Wire.ReadingBack
import ServerManagement.Proofs.Wire.RecordAgreement
import ServerManagement.Server.Ban
import ServerManagement.Server.GameRule
import ServerManagement.Server.Message
import ServerManagement.Server.State

/-!
The record types that travel, as one family. Their fields have names of their own and change parts of
their own; what is written for a canonical record is read back; and whatever is read is canonical.
-/

set_option autoImplicit false

namespace ServerManagement

open ServerManagement.Json
open ServerManagement.Wire

inductive RecordType where
  | player
  | operator
  | gameRule
  | message
  | kick
  | systemMessage
  | playerBan
  | addressBan
  | newAddressBan
  | version
  | serverState
  | remoteError
  | request
  | response
  | notification
deriving DecidableEq, Repr

namespace RecordType

abbrev Carrier : RecordType → Type
  | .player => Player
  | .operator => Operator
  | .gameRule => GameRule
  | .message => Message
  | .kick => Kick
  | .systemMessage => SystemMessage
  | .playerBan => PlayerBan
  | .addressBan => AddressBan
  | .newAddressBan => NewAddressBan
  | .version => Version
  | .serverState => ServerState
  | .remoteError => RemoteError
  | .request => Request
  | .response => Response
  | .notification => Notification

def record : (type : RecordType) → Record type.Carrier
  | .player => Player.record
  | .operator => Operator.record
  | .gameRule => GameRule.record
  | .message => Message.record
  | .kick => Kick.record
  | .systemMessage => SystemMessage.record
  | .playerBan => PlayerBan.record
  | .addressBan => AddressBan.record
  | .newAddressBan => NewAddressBan.record
  | .version => Version.record
  | .serverState => ServerState.record
  | .remoteError => RemoteError.record
  | .request => Request.record
  | .response => Response.record
  | .notification => Notification.record

end RecordType

/-- The other names are none of those that have a type of their own. -/
def GameRuleType.IsCanonical : GameRuleType → Prop
  | .other name => name ≠ "" ∧ name ≠ "integer" ∧ name ≠ "boolean"
  | .untyped | .integer | .boolean => True

/-- What reading makes: rule types by their names, and null for what is absent. A null result is
present. -/
def RecordType.IsCanonical : (type : RecordType) → type.Carrier → Prop
  | .gameRule => fun rule : GameRule => rule.type.IsCanonical
  | .remoteError => fun error : RemoteError => error.data ≠ some .null
  | .response => fun response : Response => response.error ≠ some .null
  | .notification => fun notification : Notification => notification.error ≠ some .null
  | .player | .operator | .message | .kick | .systemMessage | .playerBan | .addressBan
  | .newAddressBan | .version | .serverState | .request => fun _ => True

/-! ## Fields -/

theorem RecordType.isIndependent (type : RecordType) : type.record.IsIndependent := by
  constructor
  · cases type <;> decide
  · cases type <;>
      simp only [record, Player.record, Operator.record, GameRule.record, Message.record,
        Kick.record, SystemMessage.record, PlayerBan.record, AddressBan.record,
        NewAddressBan.record, Version.record, ServerState.record, RemoteError.record,
        Request.record, Response.record, Notification.record, List.pairwise_cons,
        List.forall_mem_cons, List.not_mem_nil, false_imp_iff, implies_true, List.Pairwise.nil,
        and_true] <;>
      (repeat' apply And.intro) <;>
      exact Field.Commutes.of_puts fun _ _ _ => rfl

theorem agrees_uuid : Uuid.codec.Agrees := agrees_scalar _ _

theorem agrees_ruleType : GameRuleType.codec.Agrees := agrees_text.map _

theorem Player.fieldsAgree : FieldsAgree Player.record.fields :=
  .cons agrees_text (.cons agrees_uuid.option .nil)

theorem Message.fieldsAgree : FieldsAgree Message.record.fields :=
  .cons agrees_text (.cons agrees_text.list (.cons agrees_text .nil))

theorem Version.fieldsAgree : FieldsAgree Version.record.fields :=
  .cons agrees_int32 (.cons agrees_text .nil)

theorem agrees_player : Player.record.decoder.Agrees :=
  agrees_record (RecordType.isIndependent .player) Player.fieldsAgree

theorem agrees_message : Message.record.decoder.Agrees :=
  agrees_record (RecordType.isIndependent .message) Message.fieldsAgree

theorem agrees_version : Version.record.decoder.Agrees :=
  agrees_record (RecordType.isIndependent .version) Version.fieldsAgree

theorem RecordType.fieldsAgree : (type : RecordType) → FieldsAgree type.record.fields
  | .player => Player.fieldsAgree
  | .operator => .cons agrees_int32 (.cons agrees_bool (.cons agrees_player .nil))
  | .gameRule => .cons agrees_ruleType (.cons agrees_text (.cons agrees_text .nil))
  | .message => Message.fieldsAgree
  | .kick => .cons agrees_player (.cons agrees_message .nil)
  | .systemMessage =>
    .cons (Decoder.Agrees.listOrNull agrees_player) (.cons agrees_bool (.cons agrees_message .nil))
  | .playerBan =>
    .cons agrees_text (.cons agrees_text (.cons agrees_text (.cons agrees_player .nil)))
  | .addressBan =>
    .cons agrees_text (.cons agrees_text (.cons agrees_text (.cons agrees_text .nil)))
  | .newAddressBan =>
    .cons agrees_text (.cons agrees_text (.cons agrees_text (.cons agrees_text
      (.cons agrees_player .nil))))
  | .version => Version.fieldsAgree
  | .serverState =>
    .cons (Decoder.Agrees.listOrNull agrees_player) (.cons agrees_bool (.cons agrees_version .nil))
  | .remoteError => .cons agrees_int32 (.cons agrees_text (.cons agrees_value.option .nil))
  | .request => .cons agrees_uint64 (.cons agrees_text (.cons agrees_value.list.option .nil))
  | .response =>
    .cons agrees_uint64.option (.cons agrees_text (.cons agrees_value.list.option
      (.cons (agrees_value.map some) (.cons agrees_value.option .nil))))
  | .notification =>
    .cons agrees_text (.cons agrees_value.list.option (.cons agrees_value.option .nil))

theorem RecordType.agrees (type : RecordType) : type.record.decoder.Agrees :=
  agrees_record type.isIndependent type.fieldsAgree

/-! ## What is written is read back -/

theorem readsBack_uuid : Uuid.codec.ReadsBack := by
  intro uuid
  simp only [Uuid.codec, Decoder.scalar, Value.sight, scalarOfSight, Uuid.parse?_render]

theorem GameRuleType.ofName_name {type : GameRuleType} (canonical : type.IsCanonical) :
    GameRuleType.ofName type.name = type := by
  cases type with
  | untyped | integer | boolean => rfl
  | other label =>
      obtain ⟨filled, notInteger, notBoolean⟩ := canonical
      simp [name, ofName, filled, notInteger, notBoolean]

theorem GameRuleType.isCanonical_ofName (name : String) :
    (GameRuleType.ofName name).IsCanonical := by
  unfold ofName
  split
  · trivial
  split
  · trivial
  split
  · trivial
  · exact ⟨‹_›, ‹_›, ‹_›⟩

theorem Player.restores (player : Player) :
    Record.Restores player Player.record.fields Player.record.blank :=
  .required (readsBack_text _)
    (.optional (fun uuid _ => ⟨nofun, readsBack_uuid uuid⟩) (by decide) rfl .done)

theorem Message.restores (message : Message) :
    Record.Restores message Message.record.fields Message.record.blank :=
  .defaulted (readsBack_text _)
    (.defaulted (readsBack_text.list _) (.defaulted (readsBack_text _) .done))

theorem Version.restores (version : Version) :
    Record.Restores version Version.record.fields Version.record.blank :=
  .required (readsBack_int32 _) (.required (readsBack_text _) .done)

theorem readsBack_player : Player.record.codec.ReadsBack := fun player =>
  Record.ofValue_toValue (RecordType.isIndependent .player) player.restores

theorem readsBack_message : Message.record.codec.ReadsBack := fun message =>
  Record.ofValue_toValue (RecordType.isIndependent .message) message.restores

theorem readsBack_version : Version.record.codec.ReadsBack := fun version =>
  Record.ofValue_toValue (RecordType.isIndependent .version) version.restores

theorem GameRule.restores {rule : GameRule} (canonical : rule.type.IsCanonical) :
    Record.Restores rule GameRule.record.fields GameRule.record.blank := by
  have named : GameRuleType.codec.ofValue (GameRuleType.codec.toValue rule.type) = .ok rule.type :=
    Decoder.ofValue_map_eq_ok.mpr ⟨_, readsBack_text _, GameRuleType.ofName_name canonical⟩
  by_cases untyped : rule.isUntyped = true
  · obtain ⟨type, value, key⟩ := rule
    obtain rfl : type = .untyped := eq_of_beq untyped
    refine .omitted rfl (by decide) ?_
    exact .required (readsBack_text _) (.required (readsBack_text _) .done)
  · refine .written (if_neg untyped) (Decoder.ofValue_map_eq_ok.mpr ⟨_, named, rfl⟩) ?_
    exact .required (readsBack_text _) (.required (readsBack_text _) .done)

/-- A present value that is not null is read back. -/
theorem readsBack_present {part : Option Value} (canonical : part ≠ some .null) (value : Value)
    (present : part = some value) :
    Codec.value.toValue value ≠ .null ∧ Codec.value.ofValue (Codec.value.toValue value) = .ok value :=
  ⟨fun null => canonical (present.trans (congrArg some null)), rfl⟩

theorem readsBack_params {params : Option (List Value)} (values : List Value)
    (_ : params = some values) : (Codec.list Codec.value).toValue values ≠ .null ∧
      (Codec.list Codec.value).ofValue ((Codec.list Codec.value).toValue values) = .ok values :=
  ⟨nofun, readsBack_value.list values⟩

theorem Response.restores {response : Response} (canonical : response.error ≠ some .null) :
    Record.Restores response Response.record.fields Response.record.blank := by
  obtain ⟨id, method, params, result, error⟩ := response
  refine .optional (fun id _ => ⟨nofun, readsBack_uint64 id⟩) (by decide) rfl
    (.defaulted (readsBack_text _) (.optional readsBack_params (by decide) rfl ?_))
  have failure := readsBack_present canonical
  cases result with
  | none => exact .omitted rfl (by decide) (.optional failure (by decide) rfl .done)
  | some result => exact .written rfl rfl (.optional failure (by decide) rfl .done)

theorem RecordType.restores : (type : RecordType) → (goal : type.Carrier) → type.IsCanonical goal →
    Record.Restores goal type.record.fields type.record.blank
  | .player, x, _ => Player.restores x
  | .operator, _, _ =>
    .required (readsBack_int32 _) (.required (readsBack_bool _) (.required (readsBack_player _) .done))
  | .gameRule, _, canonical => GameRule.restores canonical
  | .message, x, _ => Message.restores x
  | .kick, _, _ => .required (readsBack_player _) (.required (readsBack_message _) .done)
  | .systemMessage, _, _ =>
    .defaulted (readsBack_player.listOrNull _)
      (.required (readsBack_bool _) (.required (readsBack_message _) .done))
  | .playerBan, _, _ =>
    .defaulted (readsBack_text _) (.defaulted (readsBack_text _) (.defaulted (readsBack_text _)
      (.required (readsBack_player _) .done)))
  | .addressBan, _, _ =>
    .defaulted (readsBack_text _) (.defaulted (readsBack_text _) (.required (readsBack_text _)
      (.defaulted (readsBack_text _) .done)))
  | .newAddressBan, _, _ =>
    .defaulted (readsBack_text _) (.defaulted (readsBack_text _) (.required (readsBack_text _)
      (.defaulted (readsBack_text _) (.defaulted (readsBack_player _) .done))))
  | .version, x, _ => Version.restores x
  | .serverState, _, _ =>
    .defaulted (readsBack_player.listOrNull _)
      (.required (readsBack_bool _) (.defaulted (readsBack_version _) .done))
  | .remoteError, _, canonical =>
    .required (readsBack_int32 _) (.required (readsBack_text _)
      (.optional (readsBack_present canonical) (by decide) rfl .done))
  | .request, _, _ =>
    .required (readsBack_uint64 _) (.required (readsBack_text _)
      (.optional readsBack_params (by decide) rfl .done))
  | .response, _, canonical => Response.restores canonical
  | .notification, _, canonical =>
    .required (readsBack_text _) (.optional readsBack_params (by decide) rfl
      (.optional (readsBack_present canonical) (by decide) rfl .done))

theorem RecordType.readsBack (type : RecordType) (canonical : ∀ x, type.IsCanonical x) :
    type.record.codec.ReadsBack := fun x =>
  Record.ofValue_toValue type.isIndependent (type.restores x (canonical x))

/-! ## What is read is canonical -/

open Record (FieldsKeep)

theorem ofValue_option_ne_null {value : Value} {part : Option Value}
    (read : Codec.value.toDecoder.option.ofValue value = .ok part) : part ≠ some .null := by
  cases value with
  | null =>
      obtain rfl := Except.ok.inj read
      nofun
  | bool | number | text | array | object =>
      obtain rfl := Except.ok.inj read
      nofun

theorem GameRule.fieldsKeep :
    FieldsKeep (fun rule : GameRule => rule.type.IsCanonical) GameRule.record.fields := by
  refine .cons ?_ (.cons (fun _ _ _ _ same => same) (.cons (fun _ _ _ _ same => same) .nil))
  intro value type found state _
  obtain ⟨name, _, rfl⟩ := Decoder.ofValue_map_eq_ok.mp found
  exact GameRuleType.isCanonical_ofName name

theorem RemoteError.fieldsKeep :
    FieldsKeep (fun error : RemoteError => error.data ≠ some .null) RemoteError.record.fields :=
  .cons (fun _ _ _ _ same => same) (.cons (fun _ _ _ _ same => same)
    (.cons (fun _ _ found _ _ => ofValue_option_ne_null found) .nil))

theorem Response.fieldsKeep :
    FieldsKeep (fun response : Response => response.error ≠ some .null) Response.record.fields :=
  .cons (fun _ _ _ _ same => same) (.cons (fun _ _ _ _ same => same)
    (.cons (fun _ _ _ _ same => same) (.cons (fun _ _ _ _ same => same)
      (.cons (fun _ _ found _ _ => ofValue_option_ne_null found) .nil))))

theorem Notification.fieldsKeep :
    FieldsKeep (fun notification : Notification => notification.error ≠ some .null)
      Notification.record.fields :=
  .cons (fun _ _ _ _ same => same) (.cons (fun _ _ _ _ same => same)
    (.cons (fun _ _ found _ _ => ofValue_option_ne_null found) .nil))

theorem RecordType.isCanonical_of_ofValue : (type : RecordType) → {value : Value} →
    {x : type.Carrier} → type.record.ofValue value = .ok x → type.IsCanonical x
  | .gameRule, _, _, read => by
      refine Record.ofValue_invariant ?_ GameRule.fieldsKeep read
      trivial
  | .remoteError, _, _, read => by
      refine Record.ofValue_invariant ?_ RemoteError.fieldsKeep read
      nofun
  | .response, _, _, read => by
      refine Record.ofValue_invariant ?_ Response.fieldsKeep read
      nofun
  | .notification, _, _, read => by
      refine Record.ofValue_invariant ?_ Notification.fieldsKeep read
      nofun
  | .player, _, _, _ | .operator, _, _, _ | .message, _, _, _ | .kick, _, _, _
  | .systemMessage, _, _, _ | .playerBan, _, _, _ | .addressBan, _, _, _
  | .newAddressBan, _, _, _ | .version, _, _, _ | .serverState, _, _, _ | .request, _, _, _ => trivial

/-- What is written for a canonical record is read back, in every spelling; whatever is read is
canonical, so that writing it and reading it again changes nothing. -/
theorem RecordType.reads_back (type : RecordType) :
    (∀ x : type.Carrier, type.IsCanonical x →
      type.record.ofValue (type.record.codec.toValue x) = .ok x ∧
        ∀ text tree, Denotes text tree → tree.hasDistinctKeys = true → tree.depth ≤ frameBudget →
          tree.sorted = type.record.codec.toValue x → type.record.decoder.parse text = .ok x) ∧
      ∀ value x, type.record.ofValue value = .ok x →
        type.IsCanonical x ∧ type.record.ofValue (type.record.codec.toValue x) = .ok x := by
  have back (x : type.Carrier) (canonical : type.IsCanonical x) :
      type.record.ofValue (type.record.codec.toValue x) = .ok x :=
    Record.ofValue_toValue type.isIndependent (type.restores x canonical)
  refine ⟨fun x canonical => ⟨back x canonical, ?_⟩, fun value x read => ?_⟩
  · intro text tree denotes distinct shallow sorted
    exact type.agrees.parse_eq_ok denotes distinct shallow (sorted ▸ back x canonical)
  · have canonical := type.isCanonical_of_ofValue read
    exact ⟨canonical, back x canonical⟩

theorem RecordType.reads_back_response :
    Response.record.ofValue (Response.record.codec.toValue ⟨some 7, "m", none, some .null, none⟩) =
        .ok ⟨some 7, "m", none, some .null, none⟩ ∧
      Response.record.ofValue (.array [.ofNat 7, .text "m"]) = .ok ⟨some 7, "m", none, none, none⟩ ∧
      Response.record.ofValue (Response.record.codec.toValue ⟨some 7, "m", none, none, none⟩) =
        .ok ⟨some 7, "m", none, none, none⟩ :=
  ⟨((reads_back .response).1 ⟨some 7, "m", none, some .null, none⟩ nofun).1, rfl,
    ((reads_back .response).2 (.array [.ofNat 7, .text "m"]) ⟨some 7, "m", none, none, none⟩ rfl).2⟩

end ServerManagement
