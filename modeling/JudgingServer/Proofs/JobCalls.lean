import JudgingServer.External.JobService
import JudgingServer.Proofs.Announcements

/-! How the calls of the job API end, and what they leave of the world. -/

namespace JudgingServer.Proofs
open Go External Library Transaction

def changesNothing : JobCall → Bool
  | .now | .contextDone | .findReplayRecord .. | .getExternalJob .. | .selectJobs .. | .preflightTenant .. | .countQueuedJobs ..
  | .bundleExists .. | .callbackExists .. | .beginSubmit | .countSources .. | .sourceRetentionCandidates .. => true
  | _ => false

section Calls

variable {α : Type}

theorem Executes.world_cases (executed : Executes effect world answer next) : next = world ∨ next = (effect world).2 := by
  rcases executed with returned | ⟨-, same⟩
  · exact returned.world_cases
  · exact .inl same

theorem Executes.ok (executed : Executes effect world (.ok value) next) :
    (effect world).1 = .ok value ∧ next = (effect world).2 := by
  rcases executed with returned | ⟨⟨error, -, given⟩, -⟩
  · exact returned.ok
  · cases given

theorem changesNothing_same (read : changesNothing request = true) (performed : request.performs repository world answer next) :
    next = world := by
  cases request with
  | now => exact performed.2
  | contextDone => exact performed
  | findReplayRecord => exact or_self_iff.mp (Executes.world_cases performed)
  | getExternalJob => exact or_self_iff.mp (Executes.world_cases performed)
  | selectJobs => exact or_self_iff.mp (Executes.world_cases performed)
  | preflightTenant => exact or_self_iff.mp (Executes.world_cases performed)
  | countQueuedJobs => exact or_self_iff.mp (Executes.world_cases performed)
  | bundleExists => exact or_self_iff.mp (Executes.world_cases performed)
  | callbackExists => exact or_self_iff.mp (Executes.world_cases performed)
  | beginSubmit => exact or_self_iff.mp (Executes.world_cases performed)
  | countSources => exact or_self_iff.mp (Executes.world_cases performed)
  | sourceRetentionCandidates => exact or_self_iff.mp (Executes.world_cases performed)
  | _ => cases read

def attendCall (repository : JobRepository) (request : JobCall) (world : JobWorld) : request.Answer × JobWorld :=
  match request with
  | .now => (world.clock, world)
  | .contextDone => (false, world)
  | .findReplayRecord submission => world.reads fun db => .ok (External.findReplayRecord submission db)
  | .getExternalJob tenantExternalID jobExternalID => world.reads (External.getExternalJob tenantExternalID jobExternalID)
  | .selectJobs query => world.reads fun db => .ok (External.selectJobs query db)
  | .preflightTenant tenantExternalID => world.reads (External.preflightTenant tenantExternalID)
  | .countQueuedJobs tenantID => world.reads fun db => .ok (queuedJobs db tenantID)
  | .bundleExists tenantID externalID => world.reads fun db => .ok (db.bundles.any (BundleRow.available tenantID externalID))
  | .callbackExists tenantID externalID => world.reads fun db => .ok (db.callbacks.any (CallbackRow.available tenantID externalID))
  | .insertReservation objectKey ownerToken lease => world.inserts objectKey ownerToken lease
  | .takeOverReservation objectKey ownerToken lease => world.takesOver objectKey ownerToken lease
  | .deleteReservations claims => world.releases claims
  | .admission submission => (.ok (), { world with admitted := submission :: world.admitted })
  | .createObject key ciphertext => world.creates key ciphertext
  | .deleteObject key => world.deletes key
  | .beginSubmit => (.ok (), world)
  | .submitTransaction submission assigned => world.submits repository submission assigned
  | .cancel eventEntropy tenantExternalID jobExternalID => world.runs (External.cancel repository eventEntropy tenantExternalID jobExternalID)
  | .claimSourceReservation ownerToken minimumAge => world.runs (External.claimSourceReservation [] ownerToken minimumAge)
  | .countSources objectKey => world.reads fun db => .ok (db.sources.countP fun source => source.objectKey = objectKey)
  | .sourceRetentionCandidates retention limit => world.reads fun db => .ok (External.sourceRetentionCandidates retention limit db)
  | .claimSourceRetentionCandidate candidate token retention leaseDuration =>
    world.retains (External.claimSourceRetentionCandidate candidate token retention leaseDuration)
  | .recordSourceRetentionFailure claim retryDelay => world.retains (External.recordSourceRetentionFailure claim retryDelay)
  | .finalizeSourceRetention claim => world.retains (External.finalizeSourceRetention claim)

theorem attendCall_performs (request : JobCall) (world : JobWorld) :
    request.performs repository world (attendCall repository request world).1 (attendCall repository request world).2 := by
  cases request with
  | now => exact ⟨rfl, rfl⟩
  | contextDone => rfl
  | admission => rfl
  | createObject => exact .answered
  | deleteObject => exact .answered
  | cancel => exact .answered
  | claimSourceReservation => exact ⟨[], .answered⟩
  | recordSourceRetentionFailure => exact .answered
  | finalizeSourceRetention => exact .answered
  | _ => exact .inl .answered

end Calls

abbrev Proceeds {ι α : Type} [DecidableEq ι] (repository : JobRepository) (pool later : Pool ι JobWorld JobCall JobCall.Answer α) : Prop :=
  Relation.ReflTransGen (Pool.Step (JobCall.performs repository) JobWorld.Passes) pool later

end JudgingServer.Proofs
