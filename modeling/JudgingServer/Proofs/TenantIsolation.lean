import JudgingServer.Proofs.Frames
import JudgingServer.Proofs.JobCalls
import JudgingServer.Proofs.LeaseFencing
import JudgingServer.Proofs.TenantTransactions

/-! The calls of a tenant, in any number and interleaving: they see and change nothing that
belongs to another tenant. -/

namespace JudgingServer.Proofs
open Go External Library Table Transaction

/-- Two worlds that agree on everything a tenant's calls can get to see. -/
structure TwinWorlds (tenant : Tenant) (drawn : Identifiers) (world twin : JobWorld) : Prop where
  clock : twin.clock = world.clock
  rows : Twins tenant drawn world.db twin.db
  objects : ∀ key, Under tenant.externalID key → twin.objects key = world.objects key

def BoundTo (tenant : Tenant) (drawn : Identifiers) : JobCall → Prop
  | .now | .contextDone | .beginSubmit | .admission _ => True
  | .findReplayRecord submission => submission.tenantExternalID = tenant.externalID
  | .getExternalJob tenantExternalID _ => tenantExternalID = tenant.externalID
  | .selectJobs query => query.tenantExternalID = tenant.externalID
  | .preflightTenant tenantExternalID => tenantExternalID = tenant.externalID
  | .countQueuedJobs tenantID => tenantID = tenant.id
  | .bundleExists tenantID _ => tenantID = tenant.id
  | .callbackExists tenantID _ => tenantID = tenant.id
  | .insertReservation objectKey _ _ => Under tenant.externalID objectKey
  | .takeOverReservation objectKey _ _ => Under tenant.externalID objectKey
  | .deleteReservations claims => ∀ claim ∈ claims, Under tenant.externalID claim.objectKey
  | .createObject key _ => Under tenant.externalID key
  | .deleteObject key => Under tenant.externalID key
  | .submitTransaction submission assigned => SubmittedBy tenant drawn submission assigned
  | .cancel eventEntropy tenantExternalID _ =>
    tenantExternalID = tenant.externalID ∧ ∀ buffer ∈ eventEntropy, drawn.eventIDs (encodeBase32Lower buffer)
  | _ => False

/-! ### What a tenant's calls see -/

section Coupling

variable {tenant : Tenant} {drawn : Identifiers}

theorem Executes.coupled {α : Type} {effect : JobWorld → Except RepositoryError α × JobWorld} {related : JobWorld → JobWorld → Prop}
    {answer : Except RepositoryError α} (executed : Executes effect world answer next) (before : related world twin)
    (same : (effect twin).1 = (effect world).1) (after : related (effect world).2 (effect twin).2) :
    ∃ final, Executes effect twin answer final ∧ related next final := by
  rcases executed with returned | ⟨transient, rfl⟩
  · obtain ⟨final, returns, known⟩ := returned.coupled before same after
    exact ⟨final, .inl returns, known⟩
  · exact ⟨twin, .inr ⟨transient, rfl⟩, before⟩

theorem TwinWorlds.reads {α : Type} {read : Db → Except RepositoryError α} {answer : Except RepositoryError α}
    (twins : TwinWorlds tenant drawn world twin) (same : read twin.db = read world.db)
    (executed : Executes (JobWorld.reads read) world answer next) :
    ∃ final, Executes (JobWorld.reads read) twin answer final ∧ TwinWorlds tenant drawn next final :=
  Executes.coupled executed twins same twins

/-- The call does the same in worlds that agree on the tenant, and they still agree. -/
private def SameEffect {α ε : Type} (tenant : Tenant) (drawn : Identifiers) (effect : JobWorld → Except ε α × JobWorld) : Prop :=
  ∀ world twin, TwinWorlds tenant drawn world twin →
    (effect twin).1 = (effect world).1 ∧ TwinWorlds tenant drawn (effect world).2 (effect twin).2

private theorem TwinWorlds.withDb (twins : TwinWorlds tenant drawn world twin) (rows : Twins tenant drawn db db') :
    TwinWorlds tenant drawn { world with db, reserved, committed }
      { twin with db := db', reserved := reserved', committed := committed' } :=
  ⟨twins.clock, rows, twins.objects⟩

private theorem TwinWorlds.withObject (twins : TwinWorlds tenant drawn world twin) (key : GoString) (content : Option Bytes) :
    TwinWorlds tenant drawn { world with objects := Function.update world.objects key content }
      { twin with objects := Function.update twin.objects key content } := by
  refine ⟨twins.clock, twins.rows, fun other under => ?_⟩
  change Function.update twin.objects key content other = Function.update world.objects key content other
  by_cases same : other = key
  · rw [same, Function.update_self, Function.update_self]
  · rw [Function.update_of_ne same, Function.update_of_ne same]
    exact twins.objects other under

private theorem inserts_same (under : Under tenant.externalID objectKey) :
    SameEffect tenant drawn (JobWorld.inserts objectKey ownerToken lease) := by
  intro world twin twins
  have taken : reservationTaken objectKey twin.db = reservationTaken objectKey world.db :=
    twins.rows.any_reservation fun row holds => of_decide_eq_true holds ▸ under
  unfold JobWorld.inserts
  rw [taken]
  split
  · exact ⟨rfl, twins⟩
  next free =>
    have fresh {db : Db} (free : reservationTaken objectKey db = false) (other : ReservationRow) (member : other ∈ db.reservations) :
        other.objectKey ≠ objectKey := by
      have clear := List.any_eq_false.mp free other member
      simpa using clear
    have row : (⟨objectKey, ownerToken, twin.db.now.add lease, twin.db.now⟩ : ReservationRow) =
        ⟨objectKey, ownerToken, world.db.now.add lease, world.db.now⟩ := by rw [twins.rows.now]
    refine ⟨rfl, twins.withDb ?_⟩
    unfold External.insertReservation
    rw [row]
    refine twins.rows.withReservations (twins.rows.reservations.append _) ?_ ?_
    · exact twins.rows.keys.reservations.insert (fresh (by simpa using free))
    · exact twins.rows.keysTwin.reservations.insert (fresh (by rw [taken]; simpa using free))

private theorem takesOver_same (under : Under tenant.externalID objectKey) :
    SameEffect tenant drawn (JobWorld.takesOver objectKey ownerToken lease) := by
  intro world twin twins
  have owned (row : ReservationRow) (holds : expiredReservation objectKey world.db.now row = true) : Under tenant.externalID row.objectKey :=
    (of_decide_eq_true holds).1 ▸ under
  have changed : affected (expiredReservation objectKey world.db.now) (takeOver ownerToken lease world.db.now) twin.db.reservations =
      affected (expiredReservation objectKey world.db.now) (takeOver ownerToken lease world.db.now) world.db.reservations :=
    twins.rows.countP_reservation fun row holds => owned row (Bool.and_elim_left holds)
  have written : update (expiredReservation objectKey twin.db.now) (takeOver ownerToken lease twin.db.now) twin.db.reservations =
      update (expiredReservation objectKey world.db.now) (takeOver ownerToken lease world.db.now) twin.db.reservations := by
    rw [twins.rows.now]
  constructor
  · change Except.ok (affected (expiredReservation objectKey twin.db.now) (takeOver ownerToken lease twin.db.now) twin.db.reservations == 1) =
      Except.ok _
    rw [twins.rows.now, changed]
  · refine twins.withDb ?_
    unfold External.takeOverReservation
    rw [written]
    refine twins.rows.withReservations (twins.rows.reservations.update fun row holds _ => owned row holds) ?_ ?_
    · exact twins.rows.keys.reservations.update fun _ _ => rfl
    · exact twins.rows.keysTwin.reservations.update fun _ _ => rfl

private theorem releases_same {claims : List SourceReservationClaim}
    (under : ∀ claim ∈ claims, Under tenant.externalID claim.objectKey) :
    SameEffect tenant drawn (JobWorld.releases claims) := by
  intro world twin twins
  have owned (row : ReservationRow) (holds : ownedByAny claims row = true) : Under tenant.externalID row.objectKey := by
    obtain ⟨claim, member, owns⟩ := List.any_eq_true.mp holds
    exact owns_under (under claim member) owns
  refine ⟨?_, twins.withDb (twins.rows.deleteReservations _)⟩
  unfold JobWorld.releases
  rw [twins.rows.countP_reservation owned]

private theorem creates_same (under : Under tenant.externalID key) : SameEffect tenant drawn
    (JobWorld.creates key ciphertext) := by
  intro world twin twins
  unfold JobWorld.creates
  rw [twins.objects key under]
  split_ifs
  · exact ⟨rfl, twins⟩
  · exact ⟨rfl, twins⟩
  · exact ⟨rfl, twins.withObject key _⟩

private theorem deletes_same : SameEffect tenant drawn (JobWorld.deletes key) := by
  intro world twin twins
  unfold JobWorld.deletes
  split_ifs
  · exact ⟨rfl, twins⟩
  · exact ⟨rfl, twins.withObject key _⟩

private theorem submits_same (of : SubmittedBy tenant drawn submission assigned) :
    SameEffect tenant drawn (JobWorld.submits repository submission assigned) := by
  intro world twin twins
  obtain ⟨same, rows⟩ := (submitTransaction_couples of).commit twins.rows
  unfold JobWorld.submits
  generalize (submitTransaction repository submission assigned).commit world.db = outcome at same rows
  generalize (submitTransaction repository submission assigned).commit twin.db = outcomeTwin at same rows
  obtain ⟨answer, db⟩ := outcome
  obtain ⟨answerTwin, dbTwin⟩ := outcomeTwin
  obtain rfl : answerTwin = answer := same
  cases answerTwin with
  | ok result => exact ⟨rfl, twins.withDb rows⟩
  | error abort => exact ⟨rfl, twins⟩

private theorem performs_coupled (bound : BoundTo tenant drawn request) (twins : TwinWorlds tenant drawn world twin)
    (performed : request.performs repository world answer next) :
    ∃ final, request.performs repository twin answer final ∧ TwinWorlds tenant drawn next final := by
  cases request with
  | now =>
    obtain ⟨rfl, rfl⟩ := performed
    exact ⟨twin, ⟨twins.clock.symm, rfl⟩, twins⟩
  | contextDone =>
    obtain rfl := performed
    exact ⟨twin, rfl, twins⟩
  | beginSubmit => exact Executes.coupled performed twins rfl twins
  | admission submission =>
    obtain rfl := performed
    exact ⟨_, rfl, ⟨twins.clock, twins.rows, twins.objects⟩⟩
  | findReplayRecord submission => exact twins.reads (congrArg _ (twins.rows.findReplayRecord bound)) performed
  | getExternalJob tenantExternalID jobExternalID =>
    obtain rfl := bound
    exact twins.reads (twins.rows.getExternalJob _) performed
  | selectJobs query => exact twins.reads (congrArg _ (twins.rows.selectJobs bound)) performed
  | preflightTenant tenantExternalID =>
    obtain rfl := bound
    refine twins.reads ?_ performed
    unfold External.preflightTenant
    rw [twins.rows.find?_tenant fun row holds => (of_decide_eq_true holds).1]
  | countQueuedJobs tenantID =>
    obtain rfl := bound
    exact twins.reads (congrArg _ twins.rows.queuedJobs) performed
  | bundleExists tenantID externalID =>
    obtain rfl := bound
    refine twins.reads (congrArg _ (twins.rows.rows.bundles.any ?_ ?_)) performed
    · exact fun row _ holds => (of_decide_eq_true holds).1
    · exact fun row _ holds => (of_decide_eq_true holds).1
  | callbackExists tenantID externalID =>
    obtain rfl := bound
    refine twins.reads (congrArg _ (twins.rows.rows.callbacks.any ?_ ?_)) performed
    · exact fun row _ holds => (of_decide_eq_true holds).1
    · exact fun row _ holds => (of_decide_eq_true holds).1
  | insertReservation objectKey ownerToken lease =>
    obtain ⟨same, after⟩ := inserts_same bound world twin twins
    exact Executes.coupled performed twins same after
  | takeOverReservation objectKey ownerToken lease =>
    obtain ⟨same, after⟩ := takesOver_same bound world twin twins
    exact Executes.coupled performed twins same after
  | deleteReservations claims =>
    obtain ⟨same, after⟩ := releases_same bound world twin twins
    exact Executes.coupled performed twins same after
  | createObject key ciphertext =>
    obtain ⟨same, after⟩ := creates_same bound world twin twins
    exact Returns.coupled performed twins same after
  | deleteObject key =>
    obtain ⟨same, after⟩ := deletes_same world twin twins
    exact Returns.coupled performed twins same after
  | submitTransaction submission assigned =>
    rcases performed with returned | ⟨aborted, rfl⟩
    · obtain ⟨same, after⟩ := submits_same bound world twin twins
      obtain ⟨final, returns, known⟩ := returned.coupled twins same after
      exact ⟨final, .inl returns, known⟩
    · exact ⟨twin, .inr ⟨aborted, rfl⟩, twins⟩
  | cancel eventEntropy tenantExternalID jobExternalID =>
    obtain ⟨rfl, events⟩ := bound
    obtain ⟨same, rows⟩ := (cancel_couples events).commit twins.rows
    exact Returns.coupled performed twins same (twins.withDb rows)
  | _ => exact bound.elim

end Coupling

/-! ### What a tenant's calls change -/

def OthersKept (tenantID : Nat) (db db' : Db) : Prop := ∀ other, other ≠ tenantID → AgreeOn other db db'

section Frame

variable {tenant : Tenant} {drawn : Identifiers} {db : Db}

theorem OthersKept.refl (tenantID : Nat) (db : Db) : OthersKept tenantID db db := fun other _ => .refl other db

theorem OthersKept.trans (first : OthersKept tenantID db db') (second : OthersKept tenantID db' last) :
    OthersKept tenantID db last := by
  intro other different
  have early := first other different
  have late := second other different
  exact ⟨early.tenant.trans late.tenant, early.bundles.trans late.bundles, early.callbacks.trans late.callbacks,
    early.sources.trans late.sources, early.jobs.trans late.jobs, early.idempotency.trans late.idempotency⟩

private theorem OthersKept.aside (now : Time) (reservations : List ReservationRow) (outbox : List OutboxRow)
    (kept : OthersKept tenantID db db') : OthersKept tenantID db { db' with now, reservations, outbox } := by
  intro other different
  obtain ⟨tenants, bundles, callbacks, sources, jobs, idempotency⟩ := kept other different
  exact ⟨tenants, bundles, callbacks, sources, jobs, idempotency⟩

private theorem submitTransaction_others (keys : UniqueKeys db) (registered : tenant.Registered db)
    (named : submission.tenantExternalID = tenant.externalID)
    (committed : submitTransaction repository submission assigned db = .ok (result, db')) : OthersKept tenant.id db db' := by
  obtain ⟨row, policy, bundleID, callbackID, submits⟩ := submitTransaction_ok committed
  obtain ⟨member, holds⟩ := find?_row submits.found
  have owner : row.id = tenant.id := (registered.named keys member).mp (holds.trans named)
  intro other different
  have foreign : row.id ≠ other := fun same => different (same.symm.trans owner)
  have expired : Shared (fun record => record.tenantID = other) db.idempotency
      (expireIdempotency row.id submission.keyDigest db.now db).idempotency := by
    refine .delete_others fun record expires => ?_
    have isFor := of_decide_eq_true (of_decide_eq_true expires).1
    rw [isFor.1]
    exact foreign
  rw [submits.written]
  exact ⟨.refl _ _, .refl _ _, .refl _ _, .insert_other foreign, .insert_other foreign, expired.trans (.insert_other foreign)⟩

private theorem updateJobs_others {p : JobRow → Bool} {f : JobRow → JobRow}
    (owned : ∀ row ∈ db.jobs, p row = true → row.tenantID = tenant.id)
    (keeps : KeepsIdentity f) : OthersKept tenant.id db { db with jobs := update p f db.jobs } := by
  intro other different
  refine ⟨.refl _ _, .refl _ _, .refl _ _, .refl _ _, .update_others fun row member holds => ?_, .refl _ _⟩
  rw [keeps.tenantID, owned row member holds]
  exact ⟨fun same => different same.symm, fun same => different same.symm⟩

private theorem cancel_others (keys : UniqueKeys db) (registered : tenant.Registered db)
    (committed : cancel repository entropy tenant.externalID jobExternalID db = .ok (record, db')) :
    OthersKept tenant.id db db' := by
  unfold cancel at committed
  obtain ⟨-, committed⟩ := after_ensure committed
  obtain ⟨_, -, committed⟩ := after_require committed
  obtain ⟨job, _, read, committed⟩ := bind_ok committed
  obtain ⟨scanned, rfl⟩ := attempt_ok (wrap_ok read)
  obtain ⟨now, _, clock, committed⟩ := bind_ok committed
  obtain ⟨-, rfl⟩ := query_ok clock
  have owns := getExternalJob_ownsJob keys registered scanned
  have updated {p : JobRow → Bool} {f : JobRow → JobRow} (bound : ∀ row, p row = true → row.id = job.internalID) (keeps : KeepsIdentity f) :
      OthersKept tenant.id db { db with jobs := update p f db.jobs } :=
    updateJobs_others (fun row member holds => owns.tenantID keys member (bound row holds)) keeps
  cases stage : job.status with
  | queued =>
    simp only [stage] at committed
    obtain ⟨_, _, change, committed⟩ := bind_ok committed
    obtain ⟨-, rfl⟩ := Prod.mk.inj (Except.ok.inj change)
    obtain ⟨closed, _, read, committed⟩ := bind_ok committed
    obtain ⟨-, rfl⟩ := unavailableOn_ok read
    obtain ⟨_, _, announced, committed⟩ := bind_ok committed
    obtain ⟨-, rfl⟩ := pure_ok committed
    have writes : Keeps (OthersKept tenant.id db) (insertTerminalWebhookEvent repository.webhookDeliveryWindow entropy now closed) :=
      insertTerminalWebhookEvent_keeps fun next outbox kept => kept.aside next.now next.reservations outbox
    refine writes _ _ _ announced (updated (fun row holds => ?_) ⟨fun _ => rfl, fun _ => rfl, fun _ => rfl⟩)
    exact (of_decide_eq_true holds).1
  | running =>
    simp only [stage] at committed
    split at committed
    · obtain ⟨_, _, change, committed⟩ := bind_ok committed
      obtain ⟨-, rfl⟩ := Prod.mk.inj (Except.ok.inj change)
      obtain ⟨-, rfl⟩ := unavailableOn_ok committed
      exact updated (fun row holds => (of_decide_eq_true holds).1) ⟨fun _ => rfl, fun _ => rfl, fun _ => rfl⟩
    · obtain ⟨-, rfl⟩ := unavailableOn_ok committed
      exact .refl _ _
  | succeeded | failed | cancelled =>
    simp only [stage] at committed
    obtain ⟨-, rfl⟩ := unavailableOn_ok committed
    exact .refl _ _

private theorem commit_others {ε α : Type} {tx : Transaction Db ε α}
    (committed : ∀ value db', tx db = .ok (value, db') → OthersKept tenant.id db db') :
    OthersKept tenant.id db (tx.commit db).2 := by
  obtain ⟨value, next, run, same⟩ | ⟨error, run, same⟩ := commit_cases tx db
  · rw [same]
    exact committed value next run
  · rw [same]
    exact .refl _ _

private theorem performs_others (bound : BoundTo tenant drawn request) (keys : UniqueKeys world.db)
    (registered : tenant.Registered world.db) (performed : request.performs repository world answer next) :
    OthersKept tenant.id world.db next.db := by
  have same := OthersKept.refl tenant.id world.db
  cases request with
  | admission submission =>
    obtain rfl := performed
    exact same
  | insertReservation objectKey ownerToken lease =>
    rcases Executes.world_cases performed with rfl | rfl
    · exact same
    · unfold JobWorld.inserts
      split
      · exact same
      · exact same.aside _ _ _
  | takeOverReservation objectKey ownerToken lease =>
    rcases Executes.world_cases performed with rfl | rfl
    · exact same
    · exact same.aside _ _ _
  | deleteReservations claims =>
    rcases Executes.world_cases performed with rfl | rfl
    · exact same
    · exact same.aside _ _ _
  | createObject key ciphertext =>
    rcases Returns.world_cases performed with rfl | rfl
    · exact same
    · unfold JobWorld.creates
      split_ifs <;> exact same
  | deleteObject key =>
    rcases Returns.world_cases performed with rfl | rfl
    · exact same
    · unfold JobWorld.deletes
      split_ifs <;> exact same
  | submitTransaction submission assigned =>
    rcases performed with returned | ⟨-, rfl⟩
    · rcases returned.world_cases with rfl | rfl
      · exact same
      · unfold JobWorld.submits
        split
        next result db committed =>
          have kept : OthersKept tenant.id world.db ((submitTransaction repository submission assigned).commit world.db).2 :=
            commit_others fun _ _ run => submitTransaction_others keys registered bound.named run
          rw [committed] at kept
          exact kept
        next => exact same
    · exact same
  | cancel eventEntropy tenantExternalID jobExternalID =>
    obtain ⟨rfl, -⟩ := bound
    rcases Returns.world_cases performed with rfl | rfl
    · exact same
    · exact commit_others fun record db' run => cancel_others keys registered run
  | now | contextDone | beginSubmit | findReplayRecord | getExternalJob | selectJobs | preflightTenant | countQueuedJobs | bundleExists
  | callbackExists =>
    rw [changesNothing_same rfl performed]
    exact same
  | _ => exact bound.elim

end Frame

/-! ### Every run of a tenant's calls -/

/-- The call is one of the tenant, and draws its identifiers from the given ones. -/
def MadeBy (repository : JobRepository) (tenant : Tenant) (drawn : Identifiers) : JobRequest → Prop
  | .submit call => call.tenantExternalID = tenant.externalID ∧
    ∀ submission, MySQLJobRepository.prepare repository call = .ok submission → DrawnFrom drawn submission call.assigned
  | .cancel eventEntropy tenantExternalID _ =>
    tenantExternalID = tenant.externalID ∧ ∀ buffer ∈ eventEntropy, drawn.eventIDs (encodeBase32Lower buffer)
  | .get tenantExternalID _ => tenantExternalID = tenant.externalID
  | .list tenantExternalID _ => tenantExternalID = tenant.externalID

section Runs

variable {tenant : Tenant} {drawn : Identifiers} {db : Db}

theorem Hosts.twins (hosts : Hosts tenant drawn db) : Twins tenant drawn db db :=
  hosts.twinsOf hosts rfl (.refl _ _) (.refl _ _) (.refl _ _)

theorem Hosts.tick (hosts : Hosts tenant drawn db) (elapsed : Nat) : Hosts tenant drawn { db with now := db.now + elapsed } :=
  { hosts with keys := { hosts.keys with }, apart := { hosts.apart with } }

theorem Twins.tick (twins : Twins tenant drawn db twin) (elapsed : Nat) :
    Twins tenant drawn { db with now := db.now + elapsed } { twin with now := twin.now + elapsed } :=
  (twins.hosts.tick elapsed).twinsOf (twins.hostsTwin.tick elapsed) (congrArg (· + elapsed) twins.now) { twins.rows with }
    twins.outbox twins.reservations

theorem TwinWorlds.passes {twin next : JobWorld} (twins : TwinWorlds tenant drawn world twin) (passes : JobWorld.Passes world next) :
    ∃ final, JobWorld.Passes twin final ∧ TwinWorlds tenant drawn next final := by
  cases passes with
  | tick elapsed => exact ⟨_, .tick elapsed, ⟨congrArg (· + (elapsed : Instant)) twins.clock, twins.rows, twins.objects⟩⟩
  | databaseTick elapsed => exact ⟨_, .databaseTick elapsed, ⟨twins.clock, twins.rows.tick elapsed, twins.objects⟩⟩

/-- The rules of a tenant's calls: each of them is bound to the tenant. -/
def tenantRules (ι : Type) (repository : JobRepository) (tenant : Tenant) (drawn : Identifiers) :
    Discipline ι JobWorld JobCall JobCall.Answer where
  performs := JobCall.performs repository
  drifts := JobWorld.Passes
  valid world := Hosts tenant drawn world.db
  evolves world next := OthersKept tenant.id world.db next.db
  spares _ _ _ := True
  permits _ request _ := BoundTo tenant drawn request
  evolves_refl world := .refl _ _
  evolves_trans := OthersKept.trans
  spares_refl _ _ := trivial
  spares_trans _ _ := trivial
  keeps hosts bound performed := by
    obtain ⟨_, -, twins⟩ := performs_coupled bound ⟨rfl, hosts.twins, fun _ _ => rfl⟩ performed
    exact ⟨twins.rows.hosts, performs_others bound hosts.keys hosts.registered performed, fun _ _ => trivial⟩
  drift {world next} hosts passes := by
    have twins : TwinWorlds tenant drawn world world := ⟨rfl, hosts.twins, fun _ _ => rfl⟩
    obtain ⟨_, -, after⟩ := twins.passes passes
    refine ⟨after.rows.hosts, ?_, fun _ => trivial⟩
    cases passes with
    | tick => exact .refl _ _
    | databaseTick => exact (OthersKept.refl _ _).aside _ _ _

abbrev Bound {ι α : Type} (i : ι) (repository : JobRepository) (tenant : Tenant) (drawn : Identifiers) (process : JobProcess α) : Prop :=
  (tenantRules ι repository tenant drawn).Compliant i process

/-! ### The walk through a submission -/

section Submission

open MySQLJobRepository

variable {ι : Type}
private theorem findSubmitReplay_bound (named : submission.tenantExternalID = tenant.externalID) :
    Bound i repository tenant drawn (findSubmitReplay submission) := by
  refine .ask (fun _ => named) fun _ answer _ _ _ => ?_
  rcases answer with error | _ | record
  · exact .done
  · exact .done
  · dsimp only
    split_ifs
    · exact .done
    · refine .ask (fun _ => named) fun _ answer _ _ _ => ?_
      cases answer <;> exact .done

private theorem preflightReferences_bound : Bound i repository tenant drawn (preflightReferences submission tenant.id) := by
  refine .ask (fun _ => rfl) fun _ answer _ _ _ => ?_
  rcases answer with error | _ | _
  · exact .done
  · exact .done
  · dsimp only
    split_ifs
    · exact .done
    · refine .ask (fun _ => rfl) fun _ answer _ _ _ => ?_
      rcases answer with error | _ | _ <;> exact .done

private theorem preflightTenant_named (hosts : Hosts tenant drawn db)
    (found : External.preflightTenant tenant.externalID db = .ok (tenantID, policy)) : tenantID = tenant.id := by
  unfold External.preflightTenant at found
  split at found
  next row present =>
    obtain ⟨rfl, -⟩ := Prod.mk.inj (Except.ok.inj found)
    obtain ⟨member, holds⟩ := find?_row present
    exact (hosts.registered.named hosts.keys member).mp holds.1
  next => cases found

private theorem preflightSubmit_bound (named : submission.tenantExternalID = tenant.externalID) :
    Bound i repository tenant drawn (preflightSubmit submission) := by
  refine .ask (fun _ => named) fun world answer next hosts performed => ?_
  rcases answer with error | ⟨tenantID, encodedPolicy⟩
  · exact .done
  · have found := (Executes.ok performed).1
    rw [named] at found
    obtain rfl := preflightTenant_named hosts found
    dsimp only
    split
    · exact .done
    · split_ifs
      · exact .done
      · refine .ask (fun _ => rfl) fun _ answer _ _ _ => ?_
        rcases answer with error | queued
        · exact .done
        · dsimp only
          split_ifs
          · exact .done
          · exact preflightReferences_bound

private theorem tryAcquireSourceReservation_bound (under : Under tenant.externalID claim.objectKey) :
    Bound i repository tenant drawn (tryAcquireSourceReservation claim lease) := by
  refine .ask (fun _ => under) fun _ answer _ _ _ => ?_
  rcases answer with error | _ | _
  · exact .done
  · exact Discipline.Compliant.ask (fun _ => under) fun _ _ _ _ _ => .done
  · exact .done

private theorem acquireSubmissionCoordination_bound (of : SubmittedBy tenant drawn submission assigned) (deadline : Instant)
    (polls : Nat) :
    Bound i repository tenant drawn (acquireSubmissionCoordination submission deadline polls) := by
  have round {wait : JobProcess (Except RepositoryError (Option SubmitJobResult))}
      (waits : Bound i repository tenant drawn wait) :
      Bound i repository tenant drawn (pollCoordination submission deadline wait) := by
    refine .bind (findSubmitReplay_bound of.named) fun replay => ?_
    rcases replay with error | _ | replay
    · exact .done
    · refine .ask (fun _ => trivial) fun _ now _ _ _ => ?_
      refine .bind (tryAcquireSourceReservation_bound of.coordinationKey) fun taken => ?_
      rcases taken with error | _ | _
      · dsimp only
        split_ifs
        · exact waits
        · exact .done
      · exact waits
      · exact .done
    · exact .done
  induction polls with
  | zero => exact round .done
  | succ polls ih => exact round ih

private theorem acquireSourceReservation_bound (under : Under tenant.externalID submission.sourceReservation.objectKey)
    (polls : Nat) :
    Bound i repository tenant drawn (acquireSourceReservation submission polls) := by
  have round {wait : String → JobProcess (Except RepositoryError Unit)}
      (waits : ∀ operation, Bound i repository tenant drawn (wait operation)) :
      Bound i repository tenant drawn (pollSourceReservation submission wait) := by
    refine .bind (tryAcquireSourceReservation_bound under) fun taken => ?_
    rcases taken with error | _ | _
    · dsimp only
      split_ifs
      · exact waits _
      · exact .done
    · exact waits _
    · exact .done
  induction polls with
  | zero => exact round fun _ => .done
  | succ polls ih => exact round fun _ => ih

private theorem releaseAllReservations_bound {claims : List SourceReservationClaim}
    (under : ∀ claim ∈ claims, Under tenant.externalID claim.objectKey) :
    Bound i repository tenant drawn (releaseAllReservations claims) := by
  refine .ask (fun _ => trivial) fun _ ended _ _ _ => ?_
  cases ended
  · exact .ask (fun _ => under) fun _ _ _ _ _ => .done
  · exact .done

section

variable (of : SubmittedBy tenant drawn submission assigned)
include of

theorem SubmittedBy.releases :
    Bound i repository tenant drawn
      (releaseAllReservations [submission.sourceReservation, submission.coordination]) := by
  apply releaseAllReservations_bound
  simp only [List.forall_mem_cons]
  exact ⟨of.sourceKey, of.coordinationKey, by simp⟩

private theorem publishSubmission_bound : Bound i repository tenant drawn (publishSubmission submission assigned) := by
  refine .ask (fun _ => of) fun _ answer _ _ _ => ?_
  rcases answer with abort | result
  · dsimp only
    split_ifs
    · exact .done
    · refine .ask (fun _ => of.sourceKey) fun _ answer _ _ _ => ?_
      rcases answer with error | _
      · exact .done
      · exact .bind of.releases fun _ => .done
  · exact .done

private theorem storeSubmission_bound : Bound i repository tenant drawn (storeSubmission submission assigned) := by
  refine .ask (fun _ => of.sourceKey) fun _ answer _ _ _ => ?_
  rcases answer with (_ | text) | _
  · refine .bind (findSubmitReplay_bound of.named) fun replay => ?_
    rcases replay with error | _ | replay
    · exact .done
    · exact .done
    · exact .bind of.releases fun _ => .done
  · exact .done
  · refine .ask (fun _ => trivial) fun _ answer _ _ _ => ?_
    rcases answer with error | _
    · refine .ask (fun _ => of.sourceKey) fun _ answer _ _ _ => ?_
      rcases answer with failure | _
      · exact .done
      · exact .bind of.releases fun _ => .done
    · exact publishSubmission_bound of

private theorem submitCoordinated_bound (sourcePolls : Nat) :
    Bound i repository tenant drawn (submitCoordinated submission assigned sourcePolls) := by
  have gives {result : Except RepositoryError SubmitJobResult} : Bound i repository tenant drawn
      (releaseAllReservations [submission.coordination] >>= fun _ => .done result) := by
    refine .bind (releaseAllReservations_bound ?_) fun _ => .done
    exact List.forall_mem_singleton.mpr of.coordinationKey
  refine .bind (findSubmitReplay_bound of.named) fun replay => ?_
  rcases replay with error | _ | replay
  · exact gives
  · refine .ask (fun _ => trivial) fun _ answer _ _ _ => ?_
    rcases answer with error | _
    · exact gives
    · refine .bind (acquireSourceReservation_bound of.sourceKey sourcePolls) fun taken => ?_
      rcases taken with error | _
      · exact gives
      · exact storeSubmission_bound of
  · exact gives

end

private theorem submitPrepared_bound (of : SubmittedBy tenant drawn submission call.assigned) :
    Bound i repository tenant drawn (submitPrepared submission call) := by
  refine .bind (findSubmitReplay_bound of.named) fun replay => ?_
  rcases replay with error | _ | replay
  · exact .done
  · refine .bind (preflightSubmit_bound of.named) fun passed => ?_
    rcases passed with error | _
    · exact .done
    · refine .bind (acquireSubmissionCoordination_bound of call.deadline call.coordinationPolls) fun taken => ?_
      rcases taken with error | _ | replay
      · exact .done
      · exact submitCoordinated_bound of call.sourcePolls
      · exact .done
  · exact .done

private theorem submit_bound (made : MadeBy repository tenant drawn (.submit call)) :
    Bound i repository tenant drawn (MySQLJobRepository.submit repository call) := by
  unfold MySQLJobRepository.submit
  split
  next => exact .done
  next submission prepared =>
    have known := prepareSubmission_ok prepared
    have coordinationKey := sourceObjectKey_under known.coordinationKey
    have sourceKey := sourceObjectKey_under known.sourceKey
    rw [made.1] at coordinationKey sourceKey
    exact submitPrepared_bound ⟨made.2 submission prepared, known.tenant.trans made.1, coordinationKey, sourceKey⟩

end Submission

private theorem request_bound {ι : Type} {i : ι} {request : JobRequest} (made : MadeBy repository tenant drawn request) :
    Bound i repository tenant drawn (request.process repository codec) := by
  cases request with
  | submit call => exact .bind (submit_bound made) fun _ => .done
  | cancel eventEntropy tenantExternalID jobExternalID => exact .ask (fun _ => made) fun _ _ _ _ _ => .done
  | get tenantExternalID jobExternalID =>
    refine .bind ?_ fun _ => .done
    unfold MySQLJobRepository.get
    split_ifs
    · exact .done
    · exact .ask (fun _ => made) fun _ _ _ _ _ => .done
  | list tenantExternalID options =>
    refine .bind ?_ fun _ => .done
    unfold MySQLJobRepository.list
    split
    next => exact .done
    next query queried =>
      refine .ask (fun _ => (listQuery_tenant queried).trans made) fun _ answer _ _ _ => ?_
      cases answer <;> exact .done

end Runs

/-- The calls of a tenant before any of them has taken a step. -/
def apiPool {ι : Type} (repository : JobRepository) (codec : JobCursorCodec) (requests : ι → JobRequest) (world : JobWorld) :
    Pool ι JobWorld JobCall JobCall.Answer JobResponse :=
  ⟨world, fun i => (requests i).process repository codec⟩

/-- Tenant isolation. The reads of a tenant find the same in any two states that agree on its
rows. The calls of another tenant, whatever they ask for and however they interleave, leave
its rows alone, and all they return can be returned as well in every world that agrees on the
rows of the calling tenant only. -/
theorem tenant_isolation (repository : JobRepository) (codec : JobCursorCodec) (a b : Tenant) (distinct : a.id ≠ b.id) :
    (∀ db twin, Beside a db twin →
      (∀ jobExternalID, External.get a.externalID jobExternalID twin = External.get a.externalID jobExternalID db) ∧
      (∀ options, External.list codec a.externalID options twin = External.list codec a.externalID options db) ∧
      ∀ submission : Submission, submission.tenantExternalID = a.externalID →
        External.findSubmitReplay submission twin = External.findSubmitReplay submission db) ∧
    ∀ (ι : Type) [DecidableEq ι] (requests : ι → JobRequest) (drawn : Identifiers) (world : JobWorld),
      (∀ i, MadeBy repository b drawn (requests i)) → Hosts b drawn world.db →
      ∀ pool, Proceeds repository (apiPool repository codec requests world) pool →
        AgreeOn a.id world.db pool.world.db ∧
        ∀ twin, TwinWorlds b drawn world twin →
          ∃ final, Proceeds repository (apiPool repository codec requests twin) ⟨final, pool.processes⟩ := by
  refine ⟨fun db twin beside => ⟨?_, ?_, ?_⟩, fun ι _ requests drawn world made hosts pool reached => ?_⟩
  · exact fun jobExternalID => beside.get jobExternalID
  · exact fun options => beside.list codec options
  · exact fun submission named => beside.findSubmitReplay named
  · have start : (tenantRules ι repository b drawn).AllSafe (fun _ _ _ => True) (apiPool repository codec requests world) :=
      ⟨hosts, fun i => request_bound (made i) _ hosts⟩
    obtain ⟨-, evolved⟩ := start.reaches reached
    refine ⟨evolved a.id distinct, fun twin twins => ?_⟩
    have drifting {world twin next : JobWorld} (twins : TwinWorlds b drawn world twin)
        (passes : (tenantRules ι repository b drawn).drifts world next) :
        ∃ final, (tenantRules ι repository b drawn).drifts twin final ∧ TwinWorlds b drawn next final := twins.passes passes
    obtain ⟨final, followed, -⟩ := start.followed performs_coupled drifting reached twins
    exact ⟨final, followed⟩

/-! ### A tenant that asks for another one's job -/

def neighbour : TenantRow := ⟨2, lit "gggggggggggggggggggggggggg", .active, samplePolicy, none⟩

def sharedDb : Db := { sampleDb with tenants := [sampleTenant, neighbour] }

def lonelyDb : Db := { sampleDb with tenants := [neighbour], bundles := [], sources := [], jobs := [] }

def quietWorld (db : Db) : JobWorld := ⟨0, db, [], fun _ => none, [], [], []⟩

def curiousRequests (cancels : Bool) : JobRequest :=
  if cancels then .cancel [] neighbour.externalID sampleJob.externalID else .get neighbour.externalID sampleJob.externalID

def curiousPool (db : Db) : Pool Bool JobWorld JobCall JobCall.Answer JobResponse :=
  apiPool sampleRepository ⟨sampleRepository.digests, []⟩ curiousRequests (quietWorld db)

def refusedPool : Pool Bool JobWorld JobCall JobCall.Answer JobResponse :=
  let carried := ((curiousPool sharedDb).processes true).carry (attendCall sampleRepository) 1 (quietWorld sharedDb)
  ⟨carried.2, Function.update (curiousPool sharedDb).processes true carried.1⟩

private def noIdentifiers : Identifiers := ⟨fun _ => False, fun _ => False, fun _ => False, fun _ => False, fun _ => False, fun _ => False⟩

private theorem noIdentifiers_apart (tenantID : Nat) (db : Db) : Apart tenantID noIdentifiers db :=
  ⟨fun _ _ taken => by simp [noIdentifiers] at taken, fun _ _ taken => by simp [noIdentifiers] at taken, fun _ _ taken => taken.elim⟩

theorem tenant_isolation_sample :
    (∃ outcome, refusedPool.processes true = .done (.job (.error outcome))) ∧
    AgreeOn sampleTenant.id sharedDb refusedPool.world.db ∧
    ∃ final, Proceeds sampleRepository (curiousPool lonelyDb) ⟨final, refusedPool.processes⟩ := by
  have made (cancels : Bool) : MadeBy sampleRepository ⟨2, neighbour.externalID⟩ noIdentifiers (curiousRequests cancels) := by
    cases cancels with
    | true => exact ⟨rfl, fun _ member => absurd member (List.not_mem_nil)⟩
    | false => exact rfl
  have keys : UniqueKeys sharedDb := by constructor <;> decide
  have keysTwin : UniqueKeys lonelyDb := by constructor <;> decide
  have registered : Tenant.Registered ⟨2, neighbour.externalID⟩ sharedDb := ⟨neighbour, by simp [sharedDb], rfl, rfl⟩
  have rows : AgreeOn 2 sharedDb lonelyDb := by
    constructor <;> intro row owned <;>
      simp only [sharedDb, lonelyDb, sampleDb, List.mem_cons, List.not_mem_nil, or_false, iff_false]
    · refine ⟨fun member => member.resolve_left ?_, .inr⟩
      rintro rfl
      exact absurd owned (by decide)
    · rintro rfl
      exact absurd owned (by decide)
    · rintro rfl
      exact absurd owned (by decide)
    · rintro rfl
      exact absurd owned (by decide)
  have twins : TwinWorlds ⟨2, neighbour.externalID⟩ noIdentifiers (quietWorld sharedDb) (quietWorld lonelyDb) :=
    { clock := rfl
      rows :=
        { keys, keysTwin, registered, now := rfl, rows, outbox := .refl _ _, reservations := .refl _ _
          apart := noIdentifiers_apart _ _, apartTwin := noIdentifiers_apart _ _
          announced := fun _ member => absurd member List.not_mem_nil, announcedTwin := fun _ member => absurd member List.not_mem_nil }
      objects := fun _ _ => rfl }
  have reached : Proceeds sampleRepository (curiousPool sharedDb) refusedPool :=
    Pool.carry_reaches attendCall_performs 1 (curiousPool sharedDb) true
  obtain ⟨kept, follows⟩ := (tenant_isolation sampleRepository ⟨sampleRepository.digests, []⟩ ⟨sampleTenant.id, sampleTenant.externalID⟩
    ⟨2, neighbour.externalID⟩ (by decide)).2 Bool curiousRequests noIdentifiers (quietWorld sharedDb) made twins.rows.hosts refusedPool reached
  exact ⟨⟨.externalJobNotFound, rfl⟩, kept, follows (quietWorld lonelyDb) twins⟩

end JudgingServer.Proofs
