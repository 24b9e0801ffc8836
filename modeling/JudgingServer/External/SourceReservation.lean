import JudgingServer.External.Submission
import Mathlib.Data.List.Lex
import Mathlib.Data.Prod.Lex

/-! The claim of a stale source reservation by the sweeper. -/

namespace JudgingServer.External
open Go Bundle Library Transaction

def sourceReservationSweepLease : Duration := 15 * minute

def validSourceObjectKey (key : GoString) : Bool :=
  match split 47 key with
  | [first, second, third, fourth] =>
    key ≠ [] ∧ cleanPath key = key ∧ !key.contains 92 ∧ first = lit "external" ∧ matchesExternalID second ∧
      third = lit "sources" ∧ (lit ".bin").isSuffixOf fourth ∧ matchesExternalID (fourth.take (fourth.length - 4))
  | _ => false

/-- `INTERVAL ? MICROSECOND`, with `Duration.Microseconds` as the argument. -/
def microseconds (duration : Duration) : Duration := duration.tdiv 1000 * 1000

def ReservationRow.stale (now : Time) (minimumAge : Duration) (reservation : ReservationRow) : Bool :=
  reservation.leaseUntil ≤ now ∧ reservation.createdAt.instant ≤ now.instant - microseconds minimumAge

/-- `ORDER BY created_at, object_key`. -/
def reservationOrder (reservation : ReservationRow) : Nat ×ₗ List Nat :=
  toLex (reservation.createdAt, reservation.objectKey.map UInt8.toNat)

/-- The sweeper's lease; unlike that of a submission it leaves the age of the row alone. -/
def ReservationRow.sweep (ownerToken : Bytes) (now : Time) (reservation : ReservationRow) : ReservationRow :=
  { reservation with ownerToken, leaseUntil := now.add sourceReservationSweepLease }

/-- `claimSourceReservation`; rows that another transaction has locked are skipped. -/
def claimSourceReservation (locked : List GoString) (ownerToken : Bytes) (minimumAge : Duration) :
    Tx (Option SourceReservationClaim) := do
  let now ← query Db.now
  match ← query (fun db => Table.first (fun row => row.stale now minimumAge && !locked.contains row.objectKey) reservationOrder
      db.reservations) with
  | none => return none
  | some reservation =>
    let expired := expiredReservation reservation.objectKey now
    let affected ← query fun db => Table.affected expired (ReservationRow.sweep ownerToken now) db.reservations
    if affected ≠ 1 then return none
    else
      execute fun db => { db with reservations := Table.update expired (ReservationRow.sweep ownerToken now) db.reservations }
      return some ⟨reservation.objectKey, ownerToken⟩

end JudgingServer.External
