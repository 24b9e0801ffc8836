import JudgingServer.External.BundleStore
import JudgingServer.External.JobCursor

/-! API keys: how one is made for a tenant, and how a request that sends one is authenticated. -/

namespace JudgingServer.External
open Go Library

def apiKeyPrefixBytes : Nat := 9

def apiKeyRandomBytes : Nat := apiKeyPrefixBytes + 32

structure APIKeyMaterial where
  plaintext : GoString
  lookupPrefix : GoString
  digest : Bytes
deriving DecidableEq

/-- `random` is what the random source delivers before it fails. -/
def generateAPIKey (digests : Digests) (random pepper : Bytes) : Except String APIKeyMaterial := do
  rejectIf (pepper.length < 32) "API key pepper must contain at least 256 bits"
  rejectIf (random.length < apiKeyRandomBytes) "generate API key entropy"
  let randomBytes := random.take apiKeyRandomBytes
  let lookup := encodeBase32Lower (randomBytes.take apiKeyPrefixBytes)
  let secret := encodeBase64URL (randomBytes.drop apiKeyPrefixBytes)
  let plaintext := lit "croj_" ++ lookup ++ lit "_" ++ secret
  return ⟨plaintext, lookup, digests.hmac pepper plaintext⟩

/-- `strings.SplitN` at a one-byte separator. -/
def splitN (separator : UInt8) : Nat → GoString → List GoString
  | 0, _ => []
  | 1, text => [text]
  | count + 2, text =>
    if separator ∈ text then
      text.takeWhile (· != separator) :: splitN separator (count + 1) (text.dropWhile (· != separator)).tail
    else [text]

/-- `^[A-Za-z0-9]{8,24}$`. -/
def matchesKeyPrefix (text : GoString) : Bool :=
  8 ≤ text.length ∧ text.length ≤ 24 ∧ text.all fun byte => isUpper byte || isLower byte || isDigit byte

/-- The key that a request sends, and the part of it that the credential is looked up by. -/
def parseBearerKey (authorization : GoString) : Option (GoString × GoString) :=
  -- `separator` is the place of the first blank, or the end of a text without one.
  let separator := (authorization.takeWhile (· != 32)).length
  if separator = authorization.length ∨ separator = 0 ∨ !equalFold (authorization.take separator) (lit "Bearer") then none
  else
    let key := (authorization.drop separator).dropWhile (· == 32)
    if key = [] ∨ key.any ([32, 9, 13, 10].contains ·) then none
    else
      match splitN 95 3 key with
      | [scheme, lookup, secret] =>
        if scheme ≠ lit "croj" ∨ !matchesKeyPrefix lookup ∨ (decodeBase64URL secret).map List.length ≠ some 32 then none
        else some (key, lookup)
      | _ => none

structure Credential where
  tenantID : GoString
  digest : Bytes
  scopes : List GoString
  expiresAt : Option Instant
  revokedAt : Option Instant

structure Principal where
  tenantID : GoString
  scopes : List GoString
deriving DecidableEq

inductive AuthenticationError where
  | unauthenticated
  | unavailable (cause : String)
deriving DecidableEq

structure Authenticator where
  digests : Digests
  findCredentialByPrefix : GoString → Except String (Option Credential)
  pepper : Bytes
  now : Instant

def Authenticator.authenticate (authenticator : Authenticator) (authorization : GoString) :
    Except AuthenticationError Principal :=
  match parseBearerKey authorization with
  | none => .error .unauthenticated
  | some (key, lookup) =>
    let want := authenticator.digests.hmac authenticator.pepper key
    match authenticator.findCredentialByPrefix lookup with
    | .error cause => .error (.unavailable cause)
    | .ok none => .error .unauthenticated
    | .ok (some credential) => do
      rejectIf (credential.digest.length ≠ 32 ∨ want ≠ credential.digest) .unauthenticated
      rejectIf (credential.tenantID = [] ∨ credential.revokedAt.isSome ∨ credential.expiresAt.any (· ≤ authenticator.now))
        .unauthenticated
      return ⟨credential.tenantID, credential.scopes⟩

end JudgingServer.External
