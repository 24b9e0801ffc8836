import JudgingServer.External.Submission
import JudgingServer.External.WebhookDelivery
import JudgingServer.Proofs.Cursors

/-! What is hashed or signed determines what it was made from: the hash of a request, the
signature of a webhook and the cursor of a list. -/

namespace JudgingServer.Proofs
open Go Library External

variable {hash : Bytes} {digests : Digests} {cursor : JobCursor} {request : JudgeJobRequest}

/-! ### Request hashes -/

private theorem encodeHex_valid (data : Bytes) : validString (encodeHex data) = true := by
  have ascii : ∀ digit < 16, (hexDigit digit).toNat < 0x80 := by decide
  apply validString_ascii
  intro byte member
  obtain ⟨pair, inside, place⟩ := List.mem_flatten.mp member
  obtain ⟨source, -, rfl⟩ := List.mem_map.mp inside
  have := source.toNat_lt
  simp only [List.mem_cons, List.not_mem_nil, or_false] at place
  obtain rfl | rfl := place
  · exact ascii _ (by omega)
  · exact ascii _ (by omega)

private theorem matchesLanguageID_valid {id : GoString} (named : matchesLanguageID id = true) : validString id = true := by
  apply validString_ascii
  cases id with
  | nil => nofun
  | cons first rest =>
    simp only [matchesLanguageID, Bool.and_eq_true, List.all_eq_true, Bool.or_eq_true, beq_iff_eq, isLower, isDigit,
      between_iff] at named
    intro byte member
    cases List.mem_cons.mp member with
    | inl same =>
      subst same
      omega
    | inr inside =>
      obtain ((((range | range) | rfl) | rfl) | rfl) := named.2 byte inside
      · omega
      · omega
      all_goals decide

/-- A request whose hash was computed has passed the checks on its fields. -/
structure Hashable (digests : Digests) (request : JudgeJobRequest) (hash : Bytes) : Prop where
  bundleID : validString request.bundleID = true
  language : validString request.language = true
  callbackID : validString request.callbackID = true
  clientReference : validString request.clientReference = true
  hash : hash = digests.sha256 (canonicalRequestJSON digests request).marshal

private theorem canonicalJobRequestHash_hashable (hashed : canonicalJobRequestHash digests request limit = .ok hash) :
    Hashable digests request hash := by
  unfold canonicalJobRequestHash at hashed
  split_ifs at hashed with bundle language source callback reference
  refine ⟨?_, ?_, ?_, ?_, (Except.ok.inj hashed).symm⟩
  · exact matchesExternalID_valid (by simpa using bundle)
  · exact matchesLanguageID_valid (by simpa using language)
  · by_cases absent : request.callbackID = []
    · rw [absent]
      rfl
    · exact matchesExternalID_valid (by simpa [absent] using callback)
  · have checked : ¬ 255 < request.clientReference.length ∧ validString request.clientReference = true := by simpa using reference
    exact checked.2

private theorem canonicalRequestJSON_printable (digests : Digests) (request : JudgeJobRequest) :
    Printable Json.maxDepth (canonicalRequestJSON digests request) := by
  unfold canonicalRequestJSON jsonOptionalText
  split_ifs <;> simp [Printable, PrintableMembers, Json.maxDepth]

theorem Hashable.replaced (hashable : Hashable digests request hash) :
    replaced (canonicalRequestJSON digests request) = canonicalRequestJSON digests request := by
  obtain ⟨bundleID, language, callbackID, clientReference, -⟩ := hashable
  have names : ∀ name ∈ [lit "bundleId", lit "language", lit "sourceSha256", lit "sourceSizeBytes", lit "stopOnFailure",
      lit "callbackId", lit "clientReference"], replaceInvalid name = name := by decide +kernel
  simp only [List.forall_mem_cons] at names
  unfold canonicalRequestJSON jsonOptionalText
  split_ifs <;>
    simp [Proofs.replaced, replacedMembers, names, replaceInvalid_valid, bundleID, language, callbackID, clientReference,
      encodeHex_valid]

private theorem optionalText_inj {second : GoString} (different : first ≠ second)
    (same : jsonOptionalText first left ++ jsonOptionalText second right =
      jsonOptionalText first left' ++ jsonOptionalText second right') : left = left' ∧ right = right' := by
  cases left <;> cases right <;> cases left' <;> cases right' <;> simp_all [jsonOptionalText]

private theorem canonicalRequestJSON_inj (noCollisions : Function.Injective digests.sha256)
    (same : canonicalRequestJSON digests left = canonicalRequestJSON digests right) : left = right := by
  unfold canonicalRequestJSON at same
  rw [List.append_assoc, List.append_assoc] at same
  obtain ⟨fixed, optional⟩ := List.append_inj (Json.object.inj same) rfl
  obtain ⟨callbacks, references⟩ := optionalText_inj (by decide +kernel) optional
  simp only [List.cons.injEq, Prod.mk.injEq, Json.string.injEq, Json.bool.injEq, true_and, and_true] at fixed
  obtain ⟨bundles, languages, sources, -, flags⟩ := fixed
  obtain ⟨⟩ := left
  obtain ⟨⟩ := right
  simp only [JudgeJobRequest.mk.injEq]
  exact ⟨bundles, languages, noCollisions (encodeHex_inj sources), flags, callbacks, references⟩

/-- Two requests have the same hash only if they ask for the same. -/
theorem request_hash_identifies (digests : Digests) (noCollisions : Function.Injective digests.sha256)
    (left right : JudgeJobRequest) (leftLimit rightLimit : Int) (leftHash rightHash : Bytes)
    (leftHashed : canonicalJobRequestHash digests left leftLimit = .ok leftHash)
    (rightHashed : canonicalJobRequestHash digests right rightLimit = .ok rightHash) :
    leftHash = rightHash ↔ left.bundleID = right.bundleID ∧ left.language = right.language ∧
      left.sourceCode = right.sourceCode ∧ left.stopOnFailure = right.stopOnFailure ∧
      left.callbackID = right.callbackID ∧ left.clientReference = right.clientReference := by
  have leftHashable := canonicalJobRequestHash_hashable leftHashed
  have rightHashable := canonicalJobRequestHash_hashable rightHashed
  rw [leftHashable.hash, rightHashable.hash]
  constructor
  · intro same
    have printed := marshal_inj (canonicalRequestJSON_printable digests left) (canonicalRequestJSON_printable digests right)
      (noCollisions same)
    rw [leftHashable.replaced, rightHashable.replaced] at printed
    obtain rfl := canonicalRequestJSON_inj noCollisions printed
    exact ⟨rfl, rfl, rfl, rfl, rfl, rfl⟩
  · rintro ⟨bundles, languages, sources, flags, callbacks, references⟩
    obtain rfl : left = right := by
      cases left
      cases right
      simp_all
    rfl

/-- A callback and a client reference of the same text are told apart. -/
theorem request_hash_identifies_sample :
    ∃ leftHash rightHash, canonicalJobRequestHash ⟨id, fun _ _ => []⟩
        ⟨List.replicate 26 97, lit "cpp17", lit "1", true, List.replicate 26 98, []⟩ 10 = .ok leftHash ∧
      canonicalJobRequestHash ⟨id, fun _ _ => []⟩
        ⟨List.replicate 26 97, lit "cpp17", lit "1", true, [], List.replicate 26 98⟩ 10 = .ok rightHash ∧
      leftHash ≠ rightHash := by
  refine ⟨_, _, rfl, rfl, fun same => ?_⟩
  have equal := (request_hash_identifies ⟨id, fun _ _ => []⟩ Function.injective_id
    ⟨List.replicate 26 97, lit "cpp17", lit "1", true, List.replicate 26 98, []⟩
    ⟨List.replicate 26 97, lit "cpp17", lit "1", true, [], List.replicate 26 98⟩ 10 10 _ _ rfl rfl).mp same
  exact absurd equal.2.2.2.2.1 (by decide)

/-! ### Webhook signatures -/

private theorem decimal_append_inj (ends : isDigit byte = false ∧ byte ≠ 46 ∧ byte ≠ 101 ∧ byte ≠ 69)
    (same : decimal left ++ byte :: leftRest = decimal right ++ byte :: rightRest) : left = right ∧ leftRest = rightRest := by
  have read := digits_append (decimal_isDigit left) (endsNumber_of ends leftRest)
  rw [same, digits_append (decimal_isDigit right) (endsNumber_of ends rightRest)] at read
  obtain ⟨numbers, rests⟩ := Prod.mk.inj read
  have values := congrArg Json.digitsValue numbers
  rw [digitsValue_decimal, digitsValue_decimal] at values
  exact ⟨values.symm, (List.cons.inj rests).2.symm⟩

private theorem formatInt_plain (value : Int) : (10 : UInt8) ∉ formatInt value := by
  have plain : ∀ n, (10 : UInt8) ∉ decimal n := by
    intro n member
    exact absurd (decimal_isDigit n 10 member) (by decide)
  cases value with
  | ofNat n =>
    rw [Int.ofNat_eq_natCast, formatInt_natCast]
    exact plain n
  | negSucc n =>
    rw [formatInt_negSucc, List.mem_cons, not_or]
    exact ⟨by decide, plain (n + 1)⟩

/-- What is signed for a webhook determines the event, the timestamp and the body. -/
theorem signature_framing (eventID eventID' timestamp timestamp' : GoString) (body body' : Bytes) (plain : 10 ∉ timestamp)
    (plain' : 10 ∉ timestamp') :
    webhookSignedContent eventID timestamp body = webhookSignedContent eventID' timestamp' body' ↔
      eventID = eventID' ∧ timestamp = timestamp' ∧ body = body' := by
  constructor
  · intro same
    have newline : lit "\n" = [10] := by decide +kernel
    simp only [webhookSignedContent, newline, List.append_assoc, List.singleton_append, List.append_cancel_left_eq,
      formatInt_natCast] at same
    -- The length tells where the identifier ends, so that its own newlines do not matter.
    obtain ⟨lengths, same⟩ := decimal_append_inj (by decide) same
    obtain ⟨ids, same⟩ := List.append_inj same lengths
    obtain ⟨timestamps, bodies⟩ := append_mark_inj plain plain' (List.cons.inj same).2
    exact ⟨ids, timestamps, bodies⟩
  · rintro ⟨rfl, rfl, rfl⟩
    rfl

/-- A newline in the identifier does not move the fields. -/
theorem signature_framing_sample :
    webhookSignedContent [49] (formatInt 1700000000) [10] ≠ webhookSignedContent [49, 10] (formatInt 1700000000) [] := by
  rw [ne_eq, signature_framing _ _ _ _ _ _ (formatInt_plain _) (formatInt_plain _)]
  decide

/-! ### Cursors -/

def yearOf (time : Time) : Nat := (Day.civil (time / Day.millis)).1

/-- The calendar repeats every 400 years. -/
theorem yearOf_bound {time : Nat} (year : yearOf time ≤ 9999) : time < 25 * 146097 * 86400000 := by
  have eras : (time / 86400000 + 306) / 146097 * 400 ≤ yearOf time := by
    unfold yearOf Day.civil Day.millis
    dsimp only
    exact Nat.le_trans (Nat.le_add_left _ _) (Nat.le_add_right _ _)
  omega

private theorem statusFilter_length (known : validJobStatusFilter status = true) : status.length ≤ 9 := by
  simp only [validJobStatusFilter, decide_eq_true_eq, List.any_eq_true] at known
  obtain rfl | ⟨status, -, rfl⟩ := known
  · exact Nat.zero_le 9
  · cases status <;> decide +kernel

private theorem payload_length (valid : validJobCursor cursor = true) (small : cursor.internalID < 2 ^ 64)
    (dated : (unixMilli cursor.createdAt).natAbs < 10 ^ 15) : (cursorPayload cursor).json.marshal.length ≤ 320 := by
  obtain ⟨tenant, -, -, filter⟩ := validJobCursor_iff.mp valid
  have tenants : cursor.tenantID.length = 26 := by
    simp only [matchesExternalID, Bool.and_eq_true, beq_iff_eq] at tenant
    exact tenant.1
  have named := quote_length_le cursor.tenantID
  have filtered := quote_length_le cursor.status
  have filters := statusFilter_length filter
  have millis := formatInt_length (by decide) dated
  have number := @formatInt_length cursor.internalID 20 (by decide) (by omega)
  have names : ∀ name ∈ [lit "v", lit "t", lit "s", lit "c", lit "i"], name.length = 1 := by decide +kernel
  have one : (formatInt 1).length = 1 := by decide +kernel
  simp only [List.forall_mem_cons] at names
  unfold JobCursorPayload.json
  rw [Json.marshal, List.length_append, List.length_cons, List.length_singleton]
  have members := marshalMembers_length ([(lit "v", .int (cursorPayload cursor).version),
    (lit "t", .string (cursorPayload cursor).tenantID)] ++ jsonOptionalText (lit "s") (cursorPayload cursor).status ++
    [(lit "c", .int (cursorPayload cursor).createdMS), (lit "i", .int (cursorPayload cursor).internalID)])
  have total : ((jsonOptionalText (lit "s") cursor.status).map memberLength).sum ≤ 66 := by
    unfold jsonOptionalText
    split_ifs
    · exact Nat.zero_le _
    · simp only [List.map_cons, List.map_nil, List.sum_cons, List.sum_nil, memberLength, Json.marshal, names]
      omega
  simp only [cursorPayload, List.map_append, List.sum_append, List.map_cons, List.map_nil, List.sum_cons, List.sum_nil,
    memberLength, Json.marshal, names, one] at members total ⊢
  omega

/-- The text carries a payload with its signature under the codec's key. -/
def CarriesSigned (codec : JobCursorCodec) (text : GoString) (payload : Bytes) : Prop :=
  ∃ first second, split 46 text = [first, second] ∧ decodeBase64URL first = some payload ∧
    decodeBase64URL second = some (codec.digests.hmac codec.key payload)

/-- Whoever presents the text cannot forge: its signature was made for one of the cursors that
were encoded. -/
def Unforged (codec : JobCursorCodec) (issued : List JobCursor) (text : GoString) : Prop :=
  ∀ payload, CarriesSigned codec text payload →
    ∃ cursor ∈ issued, codec.encode cursor = some (JobCursorCodec.signed codec payload)

private theorem signed_inj (same : JobCursorCodec.signed codec left = JobCursorCodec.signed codec right) : left = right := by
  have parts := congrArg (split 46) same
  unfold JobCursorCodec.signed at parts
  rw [split_signed, split_signed] at parts
  have read := congrArg decodeBase64URL (List.cons.inj parts).1
  rw [decodeBase64URL_encode, decodeBase64URL_encode] at read
  exact Option.some.inj read

/-- The text of a cursor carries no other payload than its own. -/
theorem encode_unforged (encoded : codec.encode cursor = some text) : Unforged codec [cursor] text := by
  rintro payload ⟨first, second, parts, body, -⟩
  obtain ⟨-, -, rfl⟩ := encode_ok encoded
  unfold JobCursorCodec.signed at parts
  rw [split_signed] at parts
  rw [← (List.cons.inj parts).1, decodeBase64URL_encode] at body
  obtain rfl := Option.some.inj body
  exact ⟨cursor, List.mem_singleton.mpr rfl, encoded⟩

private theorem decode_carries (decoded : codec.decode text tenantID status = some cursor) :
    ∃ payload read, CarriesSigned codec text payload ∧ decodeJobCursorPayload payload = some read ∧
      read.cursor tenantID status = some cursor := by
  unfold JobCursorCodec.decode at decoded
  split_ifs at decoded with rejected
  split at decoded
  next first second parts =>
    simp only [Option.bind_eq_bind, Option.bind_eq_some_iff] at decoded
    obtain ⟨payload, body, signature, signed, decoded⟩ := decoded
    split_ifs at decoded with forged
    obtain ⟨read, found, decoded⟩ := Option.bind_eq_some_iff.mp decoded
    exact ⟨payload, read, ⟨first, second, parts, body, by rw [signed, not_not.mp forged]⟩, found, decoded⟩
  next => cases decoded

private theorem cursor_owner {payload : JobCursorPayload} (read : payload.cursor tenantID status = some cursor) :
    payload.tenantID = tenantID ∧ payload.status = status := by
  unfold JobCursorPayload.cursor at read
  simp only at read
  split_ifs at read with rejected
  simp only [ne_eq, not_or, not_not] at rejected
  exact ⟨rejected.2.1, rejected.2.2.1⟩

/-- Cursors are read back by the tenant and for the status that they were made for, by no others,
and no other payloads are accepted. -/
theorem cursor_codec (codec : JobCursorCodec) (long : 32 ≤ codec.key.length)
    (sized : ∀ message, (codec.digests.hmac codec.key message).length = 32) :
    (∀ cursor (time : Nat), validJobCursor cursor = true → cursor.internalID < 2 ^ 64 → cursor.createdAt = Time.instant time →
      1000 ≤ yearOf time → yearOf time ≤ 9999 →
      ∃ text, codec.encode cursor = some text ∧ text.length ≤ 512 ∧
        codec.decode text cursor.tenantID cursor.status = some cursor ∧
        ∀ tenantID status, ¬ (cursor.tenantID = tenantID ∧ cursor.status = status) → codec.decode text tenantID status = none) ∧
    ∀ issued text tenantID status cursor, Unforged codec issued text → codec.decode text tenantID status = some cursor →
      ∃ payload, CarriesSigned codec text payload ∧
        ∃ original ∈ issued, codec.encode original = some (JobCursorCodec.signed codec payload) ∧
          original.tenantID = tenantID ∧ original.status = status := by
  constructor
  · intro cursor time valid small created _ year
    have bound := yearOf_bound year
    have millis : unixMilli cursor.createdAt = time - 62135596800000 := by
      rw [created, instant_whole, unixMilli_fromUnixMilli]
    have short : (JobCursorCodec.signed codec (cursorPayload cursor).json.marshal).length ≤ 512 := by
      have payload := payload_length valid small (by omega)
      have body := encodeBase64URL_length (cursorPayload cursor).json.marshal
      have signature := encodeBase64URL_length (codec.digests.hmac codec.key (cursorPayload cursor).json.marshal)
      have dot : (lit ".").length = 1 := by decide +kernel
      rw [sized] at signature
      unfold JobCursorCodec.signed
      rw [List.length_append, List.length_append, dot]
      omega
    have encoded : codec.encode cursor = some (JobCursorCodec.signed codec (cursorPayload cursor).json.marshal) := by
      unfold JobCursorCodec.encode
      rw [if_neg (by simp [valid]; omega)]
      rfl
    have fits : Json.inInt64 (unixMilli cursor.createdAt) = true := by
      rw [millis, Json.inInt64, Bool.and_eq_true, decide_eq_true_eq, decide_eq_true_eq]
      omega
    have read := decode_encode encoded (created.trans (instant_whole time))
    refine ⟨_, encoded, short, ?_, ?_⟩
    · rw [read, if_pos ⟨short, ⟨fits, small⟩, rfl, rfl⟩]
    · intro tenantID status other
      rw [read, if_neg (fun all => other all.2.2)]
  · intro issued text tenantID status cursor unforged decoded
    obtain ⟨payload, read, carries, found, own⟩ := decode_carries decoded
    obtain ⟨original, member, encoded⟩ := unforged payload carries
    refine ⟨payload, carries, original, member, encoded, ?_⟩
    obtain ⟨-, valid, signed⟩ := encode_ok encoded
    obtain rfl := signed_inj signed
    obtain ⟨tenant, -, -, filter⟩ := validJobCursor_iff.mp valid
    rw [@decodeJobCursorPayload_marshal (cursorPayload original) tenant filter, decodeStruct_payload] at found
    split_ifs at found
    obtain rfl := Option.some.inj found
    exact cursor_owner own

def sampleCodec : JobCursorCodec := ⟨⟨id, fun _ message => List.replicate 32 message.length.toUInt8⟩, List.replicate 32 1⟩

def sampleCursor : JobCursor := ⟨List.replicate 26 97, lit "QUEUED", Time.instant 63800000000000, 5⟩

theorem cursor_codec_sample : ∃ text payload, sampleCodec.encode sampleCursor = some text ∧ Unforged sampleCodec [sampleCursor] text ∧
    sampleCodec.decode text sampleCursor.tenantID sampleCursor.status = some sampleCursor ∧ CarriesSigned sampleCodec text payload ∧
    sampleCodec.encode sampleCursor = some (JobCursorCodec.signed sampleCodec payload) := by
  obtain ⟨reads, bound⟩ := cursor_codec sampleCodec (by decide) (fun _ => List.length_replicate)
  obtain ⟨text, encoded, -, decoded, -⟩ := reads sampleCursor 63800000000000 (by decide +kernel) (by decide) rfl
    (by decide +kernel) (by decide +kernel)
  have unforged := encode_unforged encoded
  obtain ⟨payload, carries, original, issued, signed, -⟩ := bound _ _ _ _ _ unforged decoded
  exact ⟨text, payload, encoded, unforged, decoded, carries, List.mem_singleton.mp issued ▸ signed⟩

end JudgingServer.Proofs
