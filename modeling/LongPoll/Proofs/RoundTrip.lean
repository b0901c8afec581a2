/-
# Messages there and back

Writer and reader of a message are apart: a position is written as a string and may be read as a
number, members are read in any order and may be missing, and a timeout loses what it has beyond
whole milliseconds. All the same, what is written is read back. The text of a message spells the
draft of its members (`Draft.spelling_object`), and is decoded as that draft is; so all that is left
is that each field reads its own draft.

Key theorems: `Wire.decode_request`, `Wire.decode_response`, `Wire.decode_connId`,
`wire_round_trip`.
-/
import LongPoll.Proofs.Fields
import LongPoll.Proofs.Reading
import LongPoll.Proofs.Writing

namespace LongPoll

open Draft

namespace Wire

/-! ### Fields -/

theorem asString_of (s : String) : asString (string (.of s)) = .ok s :=
  asString_eq_ok_iff.mpr ⟨_, rfl, Quoted.read_of s⟩

theorem asPosition_text (p : Position) : asPosition (string (.of p.text)) = .ok p :=
  asPosition_string_iff.mpr ⟨_, Quoted.read_of p.text, Position.parse?_text p⟩

theorem asMillis_ofInt {n : Nat} (hn : n < wordLimit) :
    asMillis (number (.ofInt n)) = .ok (.ofMillis n) := by
  have hlimit : wordLimit = 2 ^ 64 := by decide
  rw [hlimit] at hn
  have hread : (Numeral.ofInt n).read = .ok (.int n) :=
    Numeral.read_ofInt (by omega) (by omega)
  exact asMillis_number_iff.mpr ⟨n, hread, rfl⟩

/-! ### Messages -/

section

variable {α : Type} {write : α → Json} {read : Draft → Except DecodeError α} {d : Draft}

/-- A request whose body is read back is read back, its timeout in whole milliseconds. -/
theorem decode_request {r : Request α} (hd : Spelling (.value d) (write r.body).chars)
    (hread : read d = .ok r.body) :
    decode (asRequest read) (request write r).text
      = .ok { r with timeout := .ofMillis r.timeout.millis } := by
  let members : List (Quoted × Draft) :=
    [(.of "pos", string (.of r.position.text)), (.of "body", d),
     (.of "txn_id", string (.of r.txnId)), (.of "timeout_ms", number (.ofInt r.timeout.millis))]
  have hspelling : Spelling (.value (object members none)) (request write r).chars :=
    spelling_object (.cons ⟨rfl, spelling_str _⟩ (.cons ⟨rfl, hd⟩ (.cons ⟨rfl, spelling_str _⟩
      (.cons ⟨rfl, spelling_int _⟩ .nil))))
  rw [decode_eq (isText_text hspelling)]
  simp [members, asRequest, Wire.members, RequestFields.add, RequestFields.finish, once, need,
    ofBreak, bind, Except.bind, pure, Except.pure, Except.map, asPosition_text, asString_of, hread,
    asMillis_ofInt r.timeout.millis_lt]

theorem decode_response {r : Response α} (hd : Spelling (.value d) (write r.payload).chars)
    (hread : read d = .ok r.payload) :
    decode (asResponse read) (response write r).text = .ok r := by
  let members : List (Quoted × Draft) :=
    [(.of "pos", string (.of r.position.text)), (.of "txn_id", string (.of r.txnId)),
     (.of "payload", d)]
  have hspelling : Spelling (.value (object members none)) (response write r).chars :=
    spelling_object (.cons ⟨rfl, spelling_str _⟩ (.cons ⟨rfl, spelling_str _⟩
      (.cons ⟨rfl, hd⟩ .nil)))
  rw [decode_eq (isText_text hspelling)]
  simp [members, asResponse, Wire.members, ResponseFields.add, ResponseFields.finish, once, need,
    ofBreak, bind, Except.bind, pure, Except.pure, Except.map, asPosition_text, asString_of, hread]

end

theorem decode_connId (id : ConnId) : decode asConnId (connId id).text = .ok id := by
  let members : List (Quoted × Draft) := [(.of "device_id", string (.of id.deviceId))]
  have hspelling : Spelling (.value (object members none)) (connId id).chars :=
    spelling_object (.cons ⟨rfl, spelling_str _⟩ .nil)
  rw [decode_eq (isText_text hspelling)]
  simp [members, asConnId, Wire.members, addDevice, once, need, ofBreak, bind, Except.bind, pure,
    Except.pure, Except.map, asString_of]

theorem depth_response (r : Response Json) :
    (response id r).depth = r.payload.depth + 1 := by
  simp [response, position, Json.depth, Json.depthMembers]

end Wire

/-- **Messages there and back.** A request whose body is a string, whatever its characters, is read
back from its text with the same position, body and transaction id, and with its timeout rounded
down to whole milliseconds and held to the largest 64-bit word of them; and what was read back is
written as the same text. A response is read back as it was, if its payload is a string, or a value
without floats, with integers of 64 bits and with sorted members, that is not nested deeper in the
response than the reader goes. A connection id is read back as it was. -/
theorem wire_round_trip :
    (∀ r : Request String, ∃ q,
        decode (Wire.asRequest asString) (Wire.request .str r).text = .ok q ∧
          q.position = r.position ∧ q.body = r.body ∧ q.txnId = r.txnId ∧
          q.timeout.nanos = min (r.timeout.nanos / 1000000) (2 ^ 64 - 1) * 1000000 ∧
          (Wire.request .str q).text = (Wire.request .str r).text) ∧
      (∀ r : Response String,
        decode (Wire.asResponse asString) (Wire.response .str r).text = .ok r) ∧
      (∀ r : Response Json, r.payload.Plain → (Wire.response id r).depth < depthLimit →
        decode (Wire.asResponse Wire.asJson) (Wire.response id r).text = .ok r) ∧
      ∀ id : ConnId, decode Wire.asConnId (Wire.connId id).text = .ok id := by
  refine ⟨fun r => ?_, fun r => ?_, fun r hplain hdepth => ?_, Wire.decode_connId⟩
  · refine ⟨_, Wire.decode_request (spelling_str r.body) (Wire.asString_of r.body), rfl, rfl, rfl,
      rfl, ?_⟩
    simp only [Wire.request, Duration.millis_ofMillis r.timeout.millis_lt]
  · exact Wire.decode_response (spelling_str r.payload) (Wire.asString_of r.payload)
  · obtain ⟨d, hspelling, hvalue⟩ := hplain.exists_draft
    have hwritten : Spelling (.value d) (id r.payload).chars := hspelling
    rw [Wire.depth_response] at hdepth
    have hread : Wire.asJson d = .ok r.payload := by
      rw [Wire.asJson, hvalue (depthLimit - 1) (by omega)]
      rfl
    exact Wire.decode_response hwritten hread

/-- The largest position, the least and the largest integer two levels down, and strings that need
escapes. -/
theorem wire_round_trip_of_nested :
    let payload : Json :=
      .obj [("", .arr [.int (-9223372036854775808), .int 18446744073709551615]),
        ("\n", .str "\x07\"\\")]
    let r : Response Json := { position := .last, txnId := "\t", payload }
    payload.Plain ∧ (Wire.response id r).depth < depthLimit ∧
      decode (Wire.asResponse Wire.asJson) (Wire.response id r).text = .ok r := by
  intro payload r
  have hplain : payload.Plain := by
    refine .obj (by decide +kernel) fun m hm => ?_
    rcases List.mem_pair.mp hm with rfl | rfl
    · refine .arr fun v hv => ?_
      rcases List.mem_pair.mp hv with rfl | rfl
      · exact .int (by decide) (by decide)
      · exact .int (by decide) (by decide)
    · exact .str _
  have hdepth : (Wire.response id r).depth < depthLimit := by decide
  exact ⟨hplain, hdepth, wire_round_trip.2.2.1 r hplain hdepth⟩

end LongPoll
