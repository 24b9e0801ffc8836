import JudgingServer.External.APIKey
import JudgingServer.Proofs.Cursors

/-! A key that was issued is parsed back whole, whatever its entropy is, and authenticates
its tenant; no other key text does. -/

namespace JudgingServer.Proofs
open Go Library External

variable {entropy pepper : Bytes} {authorization key lookup secret scheme : GoString} {credential : Credential}

/-! ### The lookup prefix -/

private theorem foldl_bits_lt (bits : List Bool) (start : Nat) :
    bits.foldl (fun value bit => 2 * value + bit.toNat) start < (start + 1) * 2 ^ bits.length := by
  induction bits generalizing start with
  | nil => simp
  | cons bit bits ih =>
    have step : 2 * start + bit.toNat + 1 ≤ 2 * (start + 1) := by
      have := bit.toNat_le
      omega
    calc (bit :: bits).foldl _ start
        < (2 * start + bit.toNat + 1) * 2 ^ bits.length := ih _
      _ ≤ 2 * (start + 1) * 2 ^ bits.length := Nat.mul_le_mul_right _ step
      _ = (start + 1) * 2 ^ (bits.length + 1) := by rw [Nat.pow_succ]; grind

private theorem base32Groups_small (fuel : Nat) (bits : List Bool) : ∀ group ∈ base32Groups fuel bits, group < 32 := by
  fun_induction base32Groups fuel bits with
  | case1 => simp
  | case2 => simp
  | case3 fuel bits _ group ih =>
    refine List.forall_mem_cons.mpr ⟨?_, ih⟩
    have small := foldl_bits_lt (bits.take 5 ++ List.replicate (5 - bits.length) false) 0
    rwa [List.length_append, List.length_take, List.length_replicate, show min 5 bits.length + (5 - bits.length) = 5 by omega]
      at small

private theorem base32Groups_length (fuel : Nat) (bits : List Bool) (enough : bits.length ≤ fuel) :
    (base32Groups fuel bits).length = (bits.length + 4) / 5 := by
  fun_induction base32Groups fuel bits with
  | case1 => simp_all
  | case2 => rfl
  | case3 fuel bits some group ih =>
    have := List.length_pos_of_ne_nil some
    rw [List.length_cons, ih (by rw [List.length_drop]; omega), List.length_drop]
    omega

private theorem base32Digit_plain : ∀ digit < 32, isLower (base32Digit digit) || isDigit (base32Digit digit) := by decide

private theorem encodeBase32Lower_plain (data : Bytes) : ∀ byte ∈ encodeBase32Lower data, isLower byte || isDigit byte := by
  intro byte member
  obtain ⟨digit, inside, rfl⟩ := List.mem_map.mp member
  exact base32Digit_plain digit (base32Groups_small _ _ digit inside)

private theorem encodeBase32Lower_length (data : Bytes) : (encodeBase32Lower data).length = (8 * data.length + 4) / 5 := by
  have bits : (data.map bitsOf).flatten.length = 8 * data.length := by
    simp [List.length_flatten, Function.comp_def, bitsOf, Nat.mul_comm]
  rw [encodeBase32Lower, List.length_map, base32Groups_length _ _ (Nat.le_refl _), bits]

private theorem lookup_unbroken : [(95 : UInt8), 32, 9, 13, 10].all
    (fun byte => !(isLower byte || isDigit byte)) = true := by decide

/-! ### Parsing -/

private theorem splitN_append {first : GoString} (plain : separator ∉ first) (count : Nat) (rest : GoString) :
    splitN separator (count + 2) (first ++ separator :: rest) = first :: splitN separator (count + 1) rest := by
  have passes : ∀ byte ∈ first, (byte != separator) = true := by
    intro byte member
    exact bne_iff_ne.mpr (ne_of_mem_of_not_mem member plain)
  rw [splitN, if_pos (by simp), List.takeWhile_append_of_pos passes, List.dropWhile_append_of_pos passes]
  simp

/-- A lookup prefix and a secret of the form that keys are issued with. -/
structure IssuedKey (lookup secret : GoString) : Prop where
  named : matchesKeyPrefix lookup = true
  unbroken : ∀ byte ∈ [(95 : UInt8), 32, 9, 13, 10], byte ∉ lookup
  sized : (decodeBase64URL secret).map List.length = some 32
  plain : ∀ byte ∈ secret, byte ∉ [(9 : UInt8), 10, 13, 32, 46]

private theorem issuedKey (drawn : entropy.length = 41) :
    IssuedKey (encodeBase32Lower (entropy.take apiKeyPrefixBytes)) (encodeBase64URL (entropy.drop apiKeyPrefixBytes)) := by
  have lower := encodeBase32Lower_plain (entropy.take apiKeyPrefixBytes)
  have size : (encodeBase32Lower (entropy.take apiKeyPrefixBytes)).length = 15 := by
    rw [encodeBase32Lower_length, List.length_take, drawn]
    rfl
  refine ⟨?_, ?_, ?_, encodeBase64URL_plain _⟩
  · simp only [matchesKeyPrefix, size, decide_eq_true_eq, List.all_eq_true]
    refine ⟨by decide, by decide, fun byte member => ?_⟩
    rw [Bool.or_assoc, lower byte member, Bool.or_true]
  · intro byte breaks member
    have other := List.all_eq_true.mp lookup_unbroken byte breaks
    rw [lower byte member] at other
    cases other
  · rw [decodeBase64URL_encode, Option.map_some, List.length_drop, drawn]
    rfl

private def keyText (lookup secret : GoString) : GoString := lit "croj_" ++ lookup ++ lit "_" ++ secret

private theorem generateAPIKey_ok (digests : Digests) (drawn : entropy.length = 41) (long : 32 ≤ pepper.length) :
    ∃ lookup secret, IssuedKey lookup secret ∧ generateAPIKey digests entropy pepper =
      .ok ⟨keyText lookup secret, lookup, digests.hmac pepper (keyText lookup secret)⟩ := by
  refine ⟨_, _, issuedKey drawn, ?_⟩
  have whole : entropy.take apiKeyRandomBytes = entropy := List.take_of_length_le (by rw [drawn]; decide)
  unfold generateAPIKey
  rw [rejectIf_pass (by omega), rejectIf_pass (by rw [drawn]; decide), whole]
  rfl

private theorem keyText_parts (lookup secret : GoString) : keyText lookup secret = lit "croj" ++ 95 ::
    (lookup ++ 95 :: secret) := by
  have first : lit "croj_" = lit "croj" ++ [95] := by decide
  have second : lit "_" = [95] := by decide
  rw [keyText, first, second]
  simp only [List.append_assoc, List.cons_append, List.nil_append]

private theorem IssuedKey.unblank (issued : IssuedKey lookup secret) :
    ∀ byte ∈ keyText lookup secret, byte ∉ [(32 : UInt8), 9, 13, 10] := by
  rw [keyText_parts]
  intro byte member blank
  simp only [List.mem_append, List.mem_cons] at member
  obtain member | rfl | member | rfl | member := member
  · have scheme : (lit "croj").all (fun byte => byte ∉ [(32 : UInt8), 9, 13, 10]) = true := by decide
    exact of_decide_eq_true (List.all_eq_true.mp scheme byte member) blank
  · revert blank; decide
  · exact issued.unbroken byte (List.mem_cons_of_mem _ blank) member
  · revert blank; decide
  · have plain := issued.plain byte member
    simp_all

private theorem equalFold_bearer (fold : equalFold scheme (lit "Bearer") = true) : scheme ≠ [] ∧ 32 ∉ scheme := by
  constructor
  · rintro rfl
    revert fold; decide
  · intro member
    have blank := eq_of_beq fold ▸ List.mem_map_of_mem member
    revert blank; decide

private theorem parseBearerKey_issued (issued : IssuedKey lookup secret) (fold : equalFold scheme (lit "Bearer") = true)
    (spaced : 0 < blanks) : parseBearerKey (scheme ++ (List.replicate blanks 32 ++ keyText lookup secret)) =
      some (keyText lookup secret, lookup) := by
  obtain ⟨named, unblank⟩ := equalFold_bearer fold
  obtain ⟨blanks, rfl⟩ := Nat.exists_eq_add_of_le' spaced
  have passes : ∀ byte ∈ scheme, (byte != 32) = true := fun byte member => bne_iff_ne.mpr (ne_of_mem_of_not_mem member unblank)
  have found : (scheme ++ (List.replicate (blanks + 1) 32 ++ keyText lookup secret)).takeWhile (· != 32) = scheme := by
    rw [List.takeWhile_append_of_pos passes]
    simp [List.replicate_succ]
  have skipped : (List.replicate (blanks + 1) 32 ++ keyText lookup secret).dropWhile (· == 32) = keyText lookup secret := by
    rw [List.dropWhile_append_of_pos (by simp), keyText_parts]
    rfl
  have split : splitN 95 3 (keyText lookup secret) = [lit "croj", lookup, secret] := by
    rw [keyText_parts, splitN_append (by decide), splitN_append (issued.unbroken 95 (by decide))]
    rfl
  have filled : keyText lookup secret ≠ [] := by
    rw [keyText_parts]
    simp
  unfold parseBearerKey
  simp only [found, List.take_left, List.drop_left, skipped, split, fold]
  rw [if_neg (by simp [named]), if_neg (by simpa [filled] using issued.unblank), if_neg (by simp [issued.named, issued.sized])]

/-! ### Authentication -/

private theorem authenticate_iff {authenticator : Authenticator} (parsed : parseBearerKey authorization = some (key, lookup))
    (found : authenticator.findCredentialByPrefix lookup = .ok (some credential)) :
    authenticator.authenticate authorization = .ok principal ↔
      (credential.digest.length = 32 ∧ authenticator.digests.hmac authenticator.pepper key = credential.digest) ∧
      (credential.tenantID ≠ [] ∧ credential.revokedAt = none ∧
        ∀ expiry, credential.expiresAt = some expiry → authenticator.now < expiry) ∧
      principal = ⟨credential.tenantID, credential.scopes⟩ := by
  unfold Authenticator.authenticate
  rw [parsed]
  simp only [found, checked_iff, rejectIf_iff]
  have unexpired : ¬ credential.expiresAt.any (· ≤ authenticator.now) = true ↔
      ∀ expiry, credential.expiresAt = some expiry → authenticator.now < expiry := by
    cases credential.expiresAt <;> simp
  simp only [not_or, not_not, Option.not_isSome_iff_eq_none, unexpired]
  constructor
  · rintro ⟨-, matched, -, stands, answered⟩
    exact ⟨matched, stands, (Except.ok.inj answered).symm⟩
  · rintro ⟨matched, stands, rfl⟩
    exact ⟨(), matched, (), stands, rfl⟩

/-- Every key that is issued is parsed whole and authenticates its tenant while its credential
stands, and no other key text is accepted for that credential. -/
theorem issued_key_authenticates (digests : Digests) (entropy pepper : Bytes) (drawn : entropy.length = 41)
    (long : 32 ≤ pepper.length) :
    ∃ material, generateAPIKey digests entropy pepper = .ok material ∧
      ∀ store now credential, credential.digest = material.digest →
        (∀ scheme blanks, equalFold scheme (lit "Bearer") = true → 0 < blanks →
          parseBearerKey (scheme ++ (List.replicate blanks 32 ++ material.plaintext)) =
            some (material.plaintext, material.lookupPrefix) ∧
          (material.digest.length = 32 → store material.lookupPrefix = .ok (some credential) → credential.tenantID ≠ [] →
            credential.revokedAt = none → (∀ expiry, credential.expiresAt = some expiry → now < expiry) →
            (Authenticator.mk digests store pepper now).authenticate
              (scheme ++ (List.replicate blanks 32 ++ material.plaintext)) = .ok ⟨credential.tenantID, credential.scopes⟩)) ∧
        ((∀ text, digests.hmac pepper text = digests.hmac pepper material.plaintext → text = material.plaintext) →
          ∀ authorization key lookup principal, parseBearerKey authorization = some (key, lookup) →
            store lookup = .ok (some credential) →
            (Authenticator.mk digests store pepper now).authenticate authorization = .ok principal →
            key = material.plaintext) := by
  obtain ⟨lookup, secret, issued, generated⟩ := generateAPIKey_ok digests drawn long
  refine ⟨_, generated, fun store now credential digest => ⟨?_, ?_⟩⟩
  · intro scheme blanks fold spaced
    have parsed := parseBearerKey_issued issued fold spaced
    refine ⟨parsed, fun sized found tenant unrevoked unexpired => ?_⟩
    exact (authenticate_iff parsed found).mpr ⟨⟨digest ▸ sized, digest.symm⟩, ⟨tenant, unrevoked, unexpired⟩, rfl⟩
  · intro free authorization key lookup principal parsed found accepted
    obtain ⟨⟨-, matched⟩, -⟩ := (authenticate_iff parsed found).mp accepted
    exact free key (matched.trans digest)

/-- A key with underscores in its secret. -/
def underscoreKey : GoString := lit "croj_77777777777777y_" ++ List.replicate 42 95 ++ lit "8"

/-- No other text has the digest of the key. -/
def sampleAuthenticator : Authenticator where
  digests := ⟨id, fun _ text => List.replicate 32 (if text = underscoreKey then 7 else 8)⟩
  findCredentialByPrefix _ := .ok (some ⟨lit "tenant", List.replicate 32 7, [], none, none⟩)
  pepper := List.replicate 32 0
  now := 0

theorem issued_key_authenticates_underscores :
    generateAPIKey sampleAuthenticator.digests (List.replicate 41 255) sampleAuthenticator.pepper =
      .ok ⟨underscoreKey, lit "77777777777777y", List.replicate 32 7⟩ ∧
    sampleAuthenticator.authenticate (lit "bEARER" ++ (List.replicate 2 32 ++ underscoreKey)) = .ok ⟨lit "tenant", []⟩ ∧
    ∀ authorization key lookup principal, parseBearerKey authorization = some (key, lookup) →
      sampleAuthenticator.authenticate authorization = .ok principal → key = underscoreKey := by
  have drawn : generateAPIKey sampleAuthenticator.digests (List.replicate 41 255) sampleAuthenticator.pepper =
      .ok ⟨underscoreKey, lit "77777777777777y", List.replicate 32 7⟩ := by decide +kernel
  obtain ⟨material, generated, holds⟩ := issued_key_authenticates sampleAuthenticator.digests (List.replicate 41 255)
    sampleAuthenticator.pepper (by decide) (by decide)
  obtain rfl := Except.ok.inj (drawn.symm.trans generated)
  obtain ⟨accepts, refuses⟩ := holds sampleAuthenticator.findCredentialByPrefix 0 ⟨lit "tenant", _, [], none, none⟩ rfl
  obtain ⟨-, accepted⟩ := accepts (lit "bEARER") 2 (by decide) (by decide)
  refine ⟨drawn, accepted (by decide) rfl (by decide) rfl (by simp), fun authorization key lookup principal parsed => ?_⟩
  refine refuses (fun text same => ?_) authorization key lookup principal parsed rfl
  by_contra other
  simp [sampleAuthenticator, other] at same

end JudgingServer.Proofs
