import JudgingServer.External.JobCursor
import JudgingServer.Proofs.JsonText

/-! The cursors of the job list. A cursor that was signed is read back as it was written, by
the tenant and for the status that it was made for. -/

namespace JudgingServer.Proofs
open Go Library External

variable {cursor : JobCursor} {codec : JobCursorCodec}

/-! ### Base64 -/

private theorem base64URLValue_digit : ∀ digit < 64, base64URLValue (base64URLDigit digit) = some digit := by decide

private theorem base64URLDigit_plain : ∀ digit < 64, base64URLDigit digit ∉ [(9 : UInt8), 10, 13, 32, 46] := by decide

def base64Digits : Bytes → List Nat
  | [] => []
  | [first] => [first.toNat / 4, first.toNat % 4 * 16]
  | [first, second] => [first.toNat / 4, first.toNat % 4 * 16 + second.toNat / 16, second.toNat % 16 * 4]
  | first :: second :: third :: rest =>
    first.toNat / 4 :: (first.toNat % 4 * 16 + second.toNat / 16) :: (second.toNat % 16 * 4 + third.toNat / 64) ::
      third.toNat % 64 :: base64Digits rest

variable (data : Bytes)

private theorem encodeBase64URL_digits : encodeBase64URL data = (base64Digits data).map base64URLDigit := by
  fun_induction base64Digits data with
  | case1 => rfl
  | case2 => rfl
  | case3 => rfl
  | case4 first second third rest ih => rw [encodeBase64URL, ih]; rfl

private theorem base64Digits_small : ∀ digit ∈ base64Digits data, digit < 64 := by
  fun_induction base64Digits data with
  | case1 => simp
  | case2 first =>
    have := first.toNat_lt
    simp; omega
  | case3 first second =>
    have := first.toNat_lt
    have := second.toNat_lt
    simp; omega
  | case4 first second third rest ih =>
    have := first.toNat_lt
    have := second.toNat_lt
    have := third.toNat_lt
    simp only [List.forall_mem_cons]
    exact ⟨by omega, by omega, by omega, by omega, ih⟩

theorem encodeBase64URL_length : 3 * (encodeBase64URL data).length ≤ 4 * data.length + 2 := by
  rw [encodeBase64URL_digits, List.length_map]
  fun_induction base64Digits data with
  | case1 => decide
  | case2 first => exact Nat.le_refl 6
  | case3 first second => exact Nat.le_succ 9
  | case4 first second third rest ih =>
    simp only [List.length_cons] at ih ⊢
    omega

private theorem base64Bytes_digits : base64Bytes (base64Digits data) = some data := by
  fun_induction base64Digits data with
  | case1 => rfl
  | case2 first =>
    have := first.toNat_lt
    simp only [base64Bytes]
    rw [@toUInt8_of_toNat first _ (by omega)]
  | case3 first second =>
    have := first.toNat_lt
    have := second.toNat_lt
    simp only [base64Bytes]
    rw [@toUInt8_of_toNat first _ (by omega), @toUInt8_of_toNat second _ (by omega)]
  | case4 first second third rest ih =>
    have := first.toNat_lt
    have := second.toNat_lt
    have := third.toNat_lt
    rw [base64Bytes, ih, @toUInt8_of_toNat first _ (by omega), @toUInt8_of_toNat second _ (by omega),
      @toUInt8_of_toNat third _ (by omega)]
    rfl

theorem encodeBase64URL_plain : ∀ byte ∈ encodeBase64URL data, byte ∉ [(9 : UInt8), 10, 13, 32, 46] := by
  intro byte member
  rw [encodeBase64URL_digits] at member
  obtain ⟨digit, inside, rfl⟩ := List.mem_map.mp member
  exact base64URLDigit_plain digit (base64Digits_small data digit inside)

private theorem mapM_digits {values : List Nat} (small : ∀ digit ∈ values, digit < 64) :
    (values.map base64URLDigit).mapM base64URLValue = some values := by
  induction values with
  | nil => rfl
  | cons digit values ih =>
    obtain ⟨first, rest⟩ := List.forall_mem_cons.mp small
    rw [List.map_cons, List.mapM_cons, base64URLValue_digit digit first, ih rest]
    rfl

theorem decodeBase64URL_encode : decodeBase64URL (encodeBase64URL data) = some data := by
  have kept : (encodeBase64URL data).filter (fun byte => !(byte == 10 || byte == 13)) = encodeBase64URL data := by
    apply List.filter_eq_self.mpr
    intro byte member
    have plain := encodeBase64URL_plain data byte member
    simp only [List.mem_cons, List.not_mem_nil, or_false, not_or] at plain
    simp [plain]
  have read : (encodeBase64URL data).mapM base64URLValue = some (base64Digits data) := by
    rw [encodeBase64URL_digits]
    apply mapM_digits
    exact base64Digits_small data
  unfold decodeBase64URL
  rw [kept, read]
  exact base64Bytes_digits data

/-! ### Payloads -/

theorem matchesExternalID_valid {id : GoString} (named : matchesExternalID id = true) : validString id = true := by
  apply validString_ascii
  intro byte member
  simp only [matchesExternalID, Bool.and_eq_true, List.all_eq_true, Bool.or_eq_true, isLower, between_iff] at named
  have range := named.2 byte member
  omega

private theorem statusFilter_valid (known : validJobStatusFilter status = true) : validString status = true := by
  simp only [validJobStatusFilter, decide_eq_true_eq, List.any_eq_true] at known
  obtain rfl | ⟨status, -, rfl⟩ := known
  · rfl
  · cases status <;> decide +kernel

private theorem payload_printable (payload : JobCursorPayload) : Printable Json.maxDepth payload.json := by
  unfold JobCursorPayload.json jsonOptionalText
  split_ifs <;> simp [Printable, PrintableMembers, Json.maxDepth]

private theorem payload_replaced {payload : JobCursorPayload} (tenant : validString payload.tenantID = true)
    (status : validString payload.status = true) : replaced payload.json = payload.json := by
  have names : ∀ name ∈ [lit "v", lit "t", lit "s", lit "c", lit "i"], replaceInvalid name = name := by decide +kernel
  simp only [List.forall_mem_cons] at names
  unfold JobCursorPayload.json jsonOptionalText
  split_ifs <;> simp [replaced, replacedMembers, names, replaceInvalid_valid tenant, replaceInvalid_valid status]

/-- A field of the payload under its name, with what it decodes. -/
def CursorField (name : GoString) (decode : Json → JobCursorPayload → Option JobCursorPayload) : Prop :=
  ∃ field, Json.findField jobCursorFields name = some field ∧ field.decode = decode

theorem CursorField.decodeMembers (known : CursorField name decode) (value : Json) (rest : List (GoString × Json))
    (payload : JobCursorPayload) :
    Json.decodeMembers jobCursorFields ((name, value) :: rest) payload =
      (decode value payload).bind (Json.decodeMembers jobCursorFields rest) := by
  obtain ⟨field, found, rfl⟩ := known
  rw [Json.decodeMembers, found]
  rfl

private theorem cursorField_version : CursorField (lit "v") fun value payload =>
    (Json.decodeInt value payload.version).map fun version => { payload with version } := ⟨_, rfl, rfl⟩

private theorem cursorField_tenant : CursorField (lit "t") fun value payload =>
    (Json.decodeString value payload.tenantID).map fun tenantID => { payload with tenantID } := ⟨_, rfl, rfl⟩

private theorem cursorField_status : CursorField (lit "s") fun value payload =>
    (Json.decodeString value payload.status).map fun status => { payload with status } := ⟨_, rfl, rfl⟩

private theorem cursorField_created : CursorField (lit "c") fun value payload =>
    (Json.decodeInt value payload.createdMS).map fun createdMS => { payload with createdMS } := ⟨_, rfl, rfl⟩

private theorem cursorField_internal : CursorField (lit "i") fun value payload =>
    (decodeUint64 value payload.internalID).map fun internalID => { payload with internalID } := ⟨_, rfl, rfl⟩

private theorem decodeInt_int (value current : Int) :
    Json.decodeInt (.int value) current = if Json.inInt64 value then some value else none := rfl

private theorem decodeUint64_natCast (n current : Nat) : decodeUint64 (.int n) current = if n < 2 ^ 64 then some n else none := by
  have range : (0 : Int) ≤ n ∧ (n : Int) < 2 ^ 64 ↔ n < 2 ^ 64 := by omega
  simp only [decodeUint64, range, Int.toNat_natCast]

theorem decodeStruct_payload (payload : JobCursorPayload) :
    Json.decodeStruct jobCursorFields payload.json ⟨0, [], [], 0, 0⟩ =
      if Json.inInt64 payload.version ∧ Json.inInt64 payload.createdMS ∧ payload.internalID < 2 ^ 64 then some payload
      else none := by
  obtain ⟨number, tenantID, filter, createdMS, internalID⟩ := payload
  unfold JobCursorPayload.json jsonOptionalText
  by_cases known : Json.inInt64 number <;> by_cases dated : Json.inInt64 createdMS <;> by_cases small : internalID < 2 ^ 64 <;>
  cases filter <;>
  · simp only [List.isEmpty_nil, List.isEmpty_cons, if_true, Bool.false_eq_true, if_false, List.cons_append, List.nil_append,
      Json.decodeStruct, cursorField_version.decodeMembers, cursorField_tenant.decodeMembers, cursorField_status.decodeMembers,
      cursorField_created.decodeMembers, cursorField_internal.decodeMembers, decodeInt_int, decodeUint64_natCast,
      Json.decodeString, known, dated, small]
    simp [Json.decodeMembers]

/-! ### The codec -/

theorem unixMilli_fromUnixMilli (millis : Int) : unixMilli (fromUnixMilli millis) = millis := by
  rw [unixMilli, fromUnixMilli, add_sub_cancel_left]
  exact Int.mul_ediv_cancel _ (by decide)

theorem instant_whole (time : Time) : time.instant = fromUnixMilli (time - 62135596800000) := by
  have scaled (n : Int) : n * 1000000 = 62135596800 * (1000 * 1000000) + (n - 62135596800000) * 1000000 := by omega
  exact scaled time

theorem validJobCursor_iff : validJobCursor cursor = true ↔
    matchesExternalID cursor.tenantID = true ∧ cursor.createdAt ≠ 0 ∧ cursor.internalID ≠ 0 ∧
      validJobStatusFilter cursor.status = true := by
  simp [validJobCursor]

theorem decodeJobCursorPayload_marshal {payload : JobCursorPayload} (tenant : matchesExternalID payload.tenantID = true)
    (status : validJobStatusFilter payload.status = true) :
    decodeJobCursorPayload payload.json.marshal = Json.decodeStruct jobCursorFields payload.json ⟨0, [], [], 0, 0⟩ := by
  unfold decodeJobCursorPayload
  rw [parseValue_marshal (payload_printable payload),
    payload_replaced (matchesExternalID_valid tenant) (statusFilter_valid status)]
  rfl

theorem split_signed (payload signature : Bytes) :
    split 46 (encodeBase64URL payload ++ lit "." ++ encodeBase64URL signature) =
      [encodeBase64URL payload, encodeBase64URL signature] := by
  have plain : ∀ data, (46 : UInt8) ∉ encodeBase64URL data := by
    intro data member
    exact encodeBase64URL_plain data 46 member (by decide)
  have dot : encodeBase64URL payload ++ lit "." ++ encodeBase64URL signature =
      encodeBase64URL payload ++ 46 :: encodeBase64URL signature := by
    rw [List.append_assoc]
    rfl
  unfold split
  rw [dot, List.splitOn_append_cons_self_of_not_mem (plain payload), List.splitOn_eq_singleton (plain signature)]

/-- What `encode` signs. -/
def JobCursorCodec.signed (codec : JobCursorCodec) (payload : Bytes) : GoString :=
  encodeBase64URL payload ++ lit "." ++ encodeBase64URL (codec.digests.hmac codec.key payload)

private theorem decode_signed (long : 32 ≤ codec.key.length) (short : (JobCursorCodec.signed codec payload).length ≤ 512)
    (tenantID status : GoString) :
    codec.decode (JobCursorCodec.signed codec payload) tenantID status =
      (decodeJobCursorPayload payload).bind fun decoded => decoded.cursor tenantID status := by
  have nonempty : (JobCursorCodec.signed codec payload).length ≠ 0 := by simp [JobCursorCodec.signed, lit]
  have accepted : ¬ (codec.key.length < 32 ∨ (JobCursorCodec.signed codec payload).length = 0 ∨
      512 < (JobCursorCodec.signed codec payload).length) := by omega
  unfold JobCursorCodec.decode
  rw [if_neg accepted]
  unfold JobCursorCodec.signed
  simp only [split_signed, decodeBase64URL_encode, Option.bind_eq_bind, Option.bind_some, ne_eq, not_true_eq_false, if_false]

def cursorPayload (cursor : JobCursor) : JobCursorPayload :=
  ⟨1, cursor.tenantID, cursor.status, unixMilli cursor.createdAt, cursor.internalID⟩

private theorem payload_cursor (valid : validJobCursor cursor = true) (whole : cursor.createdAt = fromUnixMilli millis)
    (tenantID status : GoString) :
    (cursorPayload cursor).cursor tenantID status =
      if cursor.tenantID = tenantID ∧ cursor.status = status then some cursor else none := by
  obtain ⟨tenant, filter, createdAt, internalID⟩ := cursor
  unfold JobCursorPayload.cursor cursorPayload
  simp only [show createdAt = fromUnixMilli millis from whole, unixMilli_fromUnixMilli] at valid ⊢
  simp only [valid]
  by_cases owned : tenant = tenantID <;> by_cases filtered : filter = status <;> simp [owned, filtered]

section

variable (encoded : codec.encode cursor = some text)
include encoded

theorem encode_ok :
    32 ≤ codec.key.length ∧ validJobCursor cursor = true ∧
      text = JobCursorCodec.signed codec (cursorPayload cursor).json.marshal := by
  unfold JobCursorCodec.encode at encoded
  split_ifs at encoded with rejected
  rw [not_or] at rejected
  exact ⟨Nat.le_of_not_lt rejected.1, by simpa using rejected.2, (Option.some.inj encoded).symm⟩

/-- A cursor that was signed is read back by its tenant under its status, and by no other. -/
theorem decode_encode (whole : cursor.createdAt = fromUnixMilli millis) (tenantID status : GoString) :
    codec.decode text tenantID status =
      if text.length ≤ 512 ∧ (Json.inInt64 (unixMilli cursor.createdAt) ∧ cursor.internalID < 2 ^ 64) ∧
        cursor.tenantID = tenantID ∧ cursor.status = status then some cursor else none := by
  obtain ⟨long, valid, rfl⟩ := encode_ok encoded
  obtain ⟨tenant, -, -, filter⟩ := validJobCursor_iff.mp valid
  by_cases short : (JobCursorCodec.signed codec (cursorPayload cursor).json.marshal).length ≤ 512
  · have known : Json.inInt64 (cursorPayload cursor).version = true := rfl
    have read := @decodeJobCursorPayload_marshal (cursorPayload cursor) tenant filter
    rw [decode_signed long short, read, decodeStruct_payload]
    by_cases fits : Json.inInt64 (unixMilli cursor.createdAt) ∧ cursor.internalID < 2 ^ 64
    · rw [if_pos ⟨known, fits⟩, Option.bind_some, payload_cursor valid whole]
      simp only [short, fits, true_and]
    · rw [if_neg (fun all => fits all.2), if_neg (fun all => fits all.2.1), Option.bind_none]
  · rw [if_neg (fun all => short all.1)]
    unfold JobCursorCodec.decode
    rw [if_pos (.inr (.inr (Nat.lt_of_not_le short)))]

theorem decode_encode_some (whole : cursor.createdAt = fromUnixMilli millis)
    (decoded : codec.decode text tenantID status = some found) : cursor = found := by
  rw [decode_encode encoded whole] at decoded
  split_ifs at decoded
  exact Option.some.inj decoded

end

end JudgingServer.Proofs
