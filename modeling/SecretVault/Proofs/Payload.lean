import SecretVault.Payload
import SecretVault.Proofs.Text.Utf8

/-!
What goes in comes out. Byte strings survive the way to the vault as text or as raw bytes, and a
response that carries the field of a request is read as the payload of that request, whatever other
fields it has.
-/

namespace SecretVault.Payload

theorem toBytes_ofBytes (b : Bytes) : (ofBytes b).toBytes = b := by
  unfold ofBytes
  split
  · rename_i s hs
    exact Utf8.ofString_of_toString? hs
  · rfl

/-- A response that has the field by which the payload travels and not the other one. -/
structure Carried (p : Payload) (fields : Entries) : Prop where
  text_eq : fields.named? textField = p.request.named? textField
  binary_eq : fields.named? binaryField = p.request.named? binaryField

theorem carried_request (p : Payload) : p.Carried p.request :=
  ⟨rfl, rfl⟩

theorem Carried.cons {p : Payload} {fields : Entries} (h : p.Carried fields) {name : String}
    (value : Value) (htext : name ≠ textField) (hbinary : name ≠ binaryField) :
    p.Carried ((.str name, value) :: fields) := by
  have skip {field : String} (hne : name ≠ field) :
      Entries.named? field ((.str name, value) :: fields) = fields.named? field := by
    simp [Entries.named?, Entries.find?, Scalar.key, hne]
  exact ⟨(skip htext).trans h.text_eq, (skip hbinary).trans h.binary_eq⟩

theorem ofResponse_carried {p : Payload} {fields : Entries} (h : p.Carried fields) :
    ofResponse (.map fields) = .ok p := by
  obtain ⟨htext, hbinary⟩ := h
  cases p with
  | text s =>
      have found : fields.named? textField = some (.str s) := by
        simpa [request, Entries.named?, Entries.find?, Scalar.key] using htext
      simp only [ofResponse, found, Option.getD_some, CodePoints.toString?_ofString,
        Option.elim_some]
  | binary b =>
      have missing : fields.named? textField = none := by
        simpa [request, Entries.named?, Entries.find?, Scalar.key, textField, binaryField]
          using htext
      have found : fields.named? binaryField = some (.bytes b) := by
        simpa [request, Entries.named?, Entries.find?, Scalar.key] using hbinary
      -- no bytes count as not given, and are read as the empty byte string all the same
      have read : bytesOf ((Value.bytes b).orElse (.bytes [])) = .ok b := by
        cases b <;> rfl
      simp only [ofResponse, missing, found, Option.getD_some, Option.getD_none, read]
      rfl

def decoded (fields : Entries) : Except Fault Bytes :=
  (ofResponse (.map fields)).map toBytes

theorem decoded_carried {b : Bytes} {fields : Entries} (h : (ofBytes b).Carried fields) :
    decoded fields = .ok b := by
  rw [decoded, ofResponse_carried h]
  exact congrArg Except.ok (toBytes_ofBytes b)

/-! ## Round trips -/

theorem isText_ofBytes {b : Bytes} : (ofBytes b).isText = true ↔ Utf8.WellFormed b := by
  rw [← Utf8.isSome_toString?_iff]
  unfold ofBytes
  split
  · rename_i s hs
    simp only [isText, hs, Option.isSome_some]
  · rename_i hs
    simp only [isText, hs, Option.isSome_none]

theorem ofBytes_ofString (s : String) : ofBytes (Utf8.ofString s) = .text s := by
  simp only [ofBytes, Utf8.toString?_ofString]

theorem keys_request (p : Payload) :
    p.request.keys = [.str (if p.isText then textField else binaryField)] := by
  cases p <;> rfl

/-- The fields by which bytes travel: as text, what the bytes spell. -/
def fieldsFor (isText : Bool) (b : Bytes) : Option Entries :=
  if isText then (Utf8.toString? b).map fun s : String => [(.str textField, .str s)]
  else some [(.str binaryField, .bytes b)]

theorem fieldsFor_payload (p : Payload) : fieldsFor p.isText p.toBytes = some p.request := by
  cases p with
  | text s => simp only [fieldsFor, isText, toBytes, Utf8.toString?_ofString, request, if_true,
      Option.map_some]
  | binary b => rfl

/-- Bytes travel in one field, as text exactly if they are well-formed, and a response that carries
the request is read as the payload that was sent. What a response holds, as text or as bytes, is
sent again in the field in which it came; and a text is so too when it is sent as new bytes. -/
theorem travels_both_ways :
    (∀ p : Payload, fieldsFor p.isText p.toBytes = some p.request) ∧
    (∀ b : Bytes,
      ((ofBytes b).request.keys = [.str textField] ↔ Utf8.WellFormed b) ∧
      ((ofBytes b).request.keys = [.str binaryField] ↔ ¬ Utf8.WellFormed b) ∧
      (Utf8.WellFormed b ↔ b.toByteArray.IsValidUTF8) ∧
      ofResponse (.map (ofBytes b).request) = .ok (ofBytes b) ∧
      (ofBytes b).toBytes = b ∧
      ∃ p, ofResponse (.map [(.str binaryField, .bytes b)]) = .ok p ∧
        p.request = [(.str binaryField, .bytes b)]) ∧
    ∀ s : String, ∃ p, ofResponse (.map [(.str textField, .str s)]) = .ok p ∧
      p.request = [(.str textField, .str s)] ∧
      (ofBytes p.toBytes).request = [(.str textField, .str s)] := by
  refine ⟨fieldsFor_payload, fun b => ⟨?_, ?_, Utf8.wellFormed_iff_isValidUTF8,
    ofResponse_carried (carried_request (ofBytes b)), toBytes_ofBytes b, ?_⟩, fun s => ?_⟩
  · rw [← isText_ofBytes, keys_request]
    cases (ofBytes b).isText <;> decide
  · rw [← isText_ofBytes, keys_request]
    cases (ofBytes b).isText <;> decide
  · exact ⟨.binary b, ofResponse_carried (carried_request (.binary b)), rfl⟩
  · refine ⟨.text s, ofResponse_carried (carried_request (.text s)), rfl, ?_⟩
    rw [toBytes, ofBytes_ofString]
    rfl

end SecretVault.Payload
