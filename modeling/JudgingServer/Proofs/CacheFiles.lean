import JudgingServer.Bundle.Cache
import JudgingServer.Library.Runs
import JudgingServer.Library.Owners
import Mathlib.Algebra.Order.BigOperators.Group.List
import Mathlib.Algebra.Order.Ring.Int

/-! What the bundle cache keeps: the files are genuine, the least recently used ones
go first, and every flight has one leader. -/

namespace JudgingServer.Proofs
open Go Library Library.Table Bundle CacheSystem

variable {backing : Backing} {event : CacheEvent} {size : Int} {bytes : Bytes} {cache : Cache} {metadata : Metadata}

/-- The bytes are those of an object with the digest. -/
def Genuine (backing : Backing) (checksum : GoString) (bytes : Bytes) : Prop :=
  backing.digest bytes = checksum ∧ ∃ key, backing.objects key = some bytes

section Eviction

variable {maxBytes : Int} {protectedChecksum : GoString} {order : GoString → Nat} {entries : List CacheEntry} {entry : CacheEntry}

theorem totalBytes_sublist (sublist : kept.Sublist entries) (sizes : ∀ entry ∈ entries, 0 ≤ entry.size) :
    totalBytes kept ≤ totalBytes entries := by
  refine (sublist.map CacheEntry.size).sum_le_sum fun size member => ?_
  obtain ⟨entry, inside, rfl⟩ := List.mem_map.mp member
  exact sizes entry inside

theorem totalBytes_nonneg (sizes : ∀ entry ∈ entries, 0 ≤ entry.size) : 0 ≤ totalBytes entries := by
  refine List.sum_nonneg fun size member => ?_
  obtain ⟨entry, inside, rfl⟩ := List.mem_map.mp member
  exact sizes entry inside

/-- A sum that has wrapped around is too small, never too large. -/
theorem totalBytesLocked_le (sizes : ∀ entry ∈ entries, 0 ≤ entry.size) : totalBytesLocked entries ≤ totalBytes entries := by
  have := totalBytes_nonneg sizes
  unfold totalBytesLocked Int.bmod
  dsimp only
  split <;> omega

theorem oldestOther_some {visited : List CacheEntry} {start : Option CacheEntry} {oldest : CacheEntry}
    (found : oldestOther protectedChecksum visited start = some oldest) :
    (start = some oldest ∨ oldest ∈ visited ∧ oldest.checksum ≠ protectedChecksum) ∧
    (∀ entry ∈ visited, entry.checksum ≠ protectedChecksum → oldest.lastUsed ≤ entry.lastUsed) ∧
    ∀ entry, start = some entry → oldest.lastUsed ≤ entry.lastUsed := by
  induction visited generalizing start with
  | nil =>
    simp only [oldestOther] at found
    refine ⟨.inl found, fun entry member => absurd member (List.not_mem_nil), fun entry same => ?_⟩
    rw [Option.some.inj (same.symm.trans found)]
  | cons entry rest ih =>
    unfold oldestOther at found
    split at found
    · rename_i spared
      obtain ⟨origin, least, bound⟩ := ih found
      refine ⟨origin.imp id fun ⟨member, other⟩ => ⟨List.mem_cons_of_mem _ member, other⟩, fun other member different => ?_, bound⟩
      rcases List.mem_cons.mp member with rfl | member
      · exact absurd spared different
      · exact least other member different
    · rename_i candidate
      split at found
      · obtain ⟨origin, least, bound⟩ := ih found
        refine ⟨.inr ?_, fun other member different => ?_, fun _ impossible => by cases impossible⟩
        · rcases origin with same | ⟨member, other⟩
          · obtain rfl := Option.some.inj same
            exact ⟨List.mem_cons_self .., candidate⟩
          · exact ⟨List.mem_cons_of_mem _ member, other⟩
        · rcases List.mem_cons.mp member with rfl | member
          · exact bound other rfl
          · exact least other member different
      · rename_i best
        obtain ⟨origin, least, bound⟩ := ih found
        have below := bound _ rfl
        refine ⟨?_, fun other member different => ?_, fun other same => ?_⟩
        · rcases origin with same | ⟨member, other⟩
          · split at same
            · obtain rfl := Option.some.inj same
              exact .inr ⟨List.mem_cons_self .., candidate⟩
            · exact .inl same
          · exact .inr ⟨List.mem_cons_of_mem _ member, other⟩
        · rcases List.mem_cons.mp member with rfl | member
          · split at below
            · exact below
            · rename_i newer
              exact below.trans (not_lt.mp newer)
          · exact least other member different
        · obtain rfl := Option.some.inj same
          split at below
          · rename_i older
            exact below.trans older.le
          · exact below

/-- The entries used no earlier than the entry, with the protected one. -/
def recent (protectedChecksum : GoString) (entry other : CacheEntry) : Bool :=
  decide (other.checksum = protectedChecksum ∨ entry.lastUsed ≤ other.lastUsed)

theorem evictLRU_sublist (rounds : Nat) : (evictLRU maxBytes protectedChecksum order rounds entries).Sublist entries := by
  induction rounds generalizing entries with
  | zero => exact List.Sublist.refl _
  | succ rounds ih =>
    unfold evictLRU
    split
    · split
      · exact List.Sublist.refl _
      · exact ih.trans List.filter_sublist
    · exact List.Sublist.refl _

theorem evictLRU_protected (rounds : Nat) (member : entry ∈ entries) (protected_ : entry.checksum = protectedChecksum) :
    entry ∈ evictLRU maxBytes protectedChecksum order rounds entries := by
  induction rounds generalizing entries with
  | zero => exact member
  | succ rounds ih =>
    unfold evictLRU
    split
    · split
      · exact member
      · rename_i oldest found
        obtain ⟨origin, _⟩ := oldestOther_some found
        rcases origin with impossible | ⟨_, different⟩
        · cases impossible
        · refine ih (List.mem_filter.mpr ⟨member, ?_⟩)
          simpa [protected_] using different.symm
    · exact member

private theorem evictLRU_keeps (rounds : Nat) (keyed : Keyed CacheEntry.checksum entries)
    (sizes : ∀ entry ∈ entries, 0 ≤ entry.size)
    (member : entry ∈ entries) (fits : totalBytes (entries.filter (recent protectedChecksum entry)) ≤ maxBytes) :
    entry ∈ evictLRU maxBytes protectedChecksum order rounds entries := by
  induction rounds generalizing entries with
  | zero => exact member
  | succ rounds ih =>
    unfold evictLRU
    split
    · rename_i over_
      split
      · exact member
      · rename_i oldest found
        obtain ⟨origin, least, _⟩ := oldestOther_some found
        rcases origin with impossible | ⟨visited, different⟩
        · cases impossible
        have inside : oldest ∈ entries := (List.mem_insertionSort _).mp visited
        -- if the entry were the oldest, everything left would count as used since
        have spared : entry.checksum ≠ oldest.checksum := by
          intro same
          obtain rfl := keyed.eq member inside same
          have all : entries.filter (recent protectedChecksum entry) = entries := by
            refine List.filter_eq_self.mpr fun other member => ?_
            by_cases spared : other.checksum = protectedChecksum
            · simp [recent, spared]
            · have later := least other ((List.mem_insertionSort _).mpr member) spared
              simp [recent, later]
          rw [all] at fits
          have := totalBytesLocked_le sizes
          omega
        refine ih (keyed.sublist (List.filter_sublist.map _)) (fun other kept => sizes other (List.mem_filter.mp kept).1)
          (List.mem_filter.mpr ⟨member, by simpa using spared⟩) ?_
        exact (totalBytes_sublist (List.filter_sublist.filter _) fun other kept => sizes other (List.mem_filter.mp kept).1).trans fits
    · exact member

end Eviction

/-- A leader moves on without touching the directory or the map. -/
inductive StageTurn (backing : Backing) (system : CacheSystem) (call : CacheCall) : FlightStage → FlightStage → Prop
  | hit (found : verifyCachedFile backing system.files call.checksum call.metadata.sizeBytes = true) :
      StageTurn backing system call .verify .record
  | miss (missed : verifyCachedFile backing system.files call.checksum call.metadata.sizeBytes = false) :
      StageTurn backing system call .verify .remove
  | fetched {bytes : Bytes} (downloaded : download backing call.metadata call.checksum sized = .ok bytes) :
      StageTurn backing system call .fetch (.rename bytes)
  | refused (failed : download backing call.metadata call.checksum sized = .error error) :
      StageTurn backing system call .fetch (.settle (.error error))

inductive CacheTurn (backing : Backing) (system : CacheSystem) (caller : Nat) (call : CacheCall) : CacheSystem → Prop
  | refused (phase : call.phase = .resolving)
      (reason : call.manifestJSON = some [] ∨ system.cache.validateMetadata call.metadata = .error error) :
      CacheTurn backing system caller call (system.move caller call (.returned (.error error)))
  | joined (phase : call.phase = .resolving)
      (valid : system.cache.validateMetadata call.metadata = .ok ()) (member : flight ∈ system.cache.flights)
      (same : flight.checksum = call.checksum) :
      CacheTurn backing system caller call (system.pruneExpiredLocked.move caller call (.waiting flight.id))
  | launched (phase : call.phase = .resolving) (valid : system.cache.validateMetadata call.metadata = .ok ())
      (none : ∀ flight ∈ system.cache.flights, flight.checksum ≠ call.checksum) :
      CacheTurn backing system caller call
        ({ system.pruneExpiredLocked with
          cache := { system.pruneExpiredLocked.cache with
            flights := { checksum := call.checksum, id := system.cache.launched } :: system.cache.flights
            launched := system.cache.launched + 1 } }.move caller call (.leading system.cache.launched .verify))
  | failed (phase : call.phase = .waiting flight)
      (result : system.results flight = some (.error error)) :
      CacheTurn backing system caller call (system.move caller call (.returned (.error error)))
  | landed (phase : call.phase = .waiting flight) (result : system.results flight = some (.ok ())) :
      CacheTurn backing system caller call (system.move caller call .checking)
  | checked (phase : call.phase = .checking)
      (found : verifyCachedFile backing system.files call.checksum call.metadata.sizeBytes = true) :
      CacheTurn backing system caller call (system.move caller call .recording)
  | disagreed (phase : call.phase = .checking)
      (missed : verifyCachedFile backing system.files call.checksum call.metadata.sizeBytes = false) :
      CacheTurn backing system caller call (system.move caller call (.returned (.error .disagrees)))
  | recorded {order : GoString → Nat} (phase : call.phase = .recording) :
      CacheTurn backing system caller call
        ((system.record call.checksum call.metadata.sizeBytes order).move caller call (resolvedPhase call (.ok ())))
  | staged (phase : call.phase = .leading flight stage)
      (turn : StageTurn backing system call stage stage') :
      CacheTurn backing system caller call (system.move caller call (.leading flight stage'))
  | removed (phase : call.phase = .leading flight .remove) :
      CacheTurn backing system caller call
        ({ system with files := Function.update system.files call.checksum none }.move caller call (.leading flight .fetch))
  | renamed {bytes : Bytes} (phase : call.phase = .leading flight (.rename bytes)) :
      CacheTurn backing system caller call
        ({ system with files := Function.update system.files call.checksum (some bytes) }.move caller call (.leading flight .record))
  | leaderRecorded {order : GoString → Nat} (phase : call.phase = .leading flight .record) :
      CacheTurn backing system caller call
        ((system.record call.checksum call.metadata.sizeBytes order).move caller call (.leading flight (.settle (.ok ()))))
  | settled (phase : call.phase = .leading flight (.settle result)) :
      CacheTurn backing system caller call
        ({ system with
          results := Function.update system.results flight (some result)
          cache := { system.cache with flights := delete (fun flight => flight.checksum == call.checksum) system.cache.flights }
          }.move caller call (resolvedPhase call result))
  | opened (phase : call.phase = .opening) :
      CacheTurn backing system caller call
        (system.move caller call (.returned (openArchive backing system.files call.checksum (call.manifestJSON.getD []))))

inductive AbortTurn (system : CacheSystem) (caller : Nat) (call : CacheCall) : CacheSystem → Prop
  | gaveUp (phase : call.phase = .waiting flight) :
      AbortTurn system caller call (system.move caller call (.returned (.error .context)))
  | interrupted (phase : call.phase = .leading flight .fetch) :
      AbortTurn system caller call (system.move caller call (.leading flight (.settle (.error .openFailed))))

inductive CacheStep (backing : Backing) (system : CacheSystem) : CacheEvent → CacheSystem → Prop
  | stayed {event : CacheEvent} : CacheStep backing system event system
  | elapsed (duration : Nat) : CacheStep backing system (.elapse duration) { system with now := system.now + duration }
  | begun {metadata : Metadata} (unused : system.calls caller = none) :
      CacheStep backing system (.call caller metadata manifestJSON)
        (system.move caller { metadata, manifestJSON, phase := .resolving } .resolving)
  | cancelled (caller : Nat) :
      CacheStep backing system (.cancel caller) { system with cancelled := Function.update system.cancelled caller true }
  | aborted (cancelled : system.cancelled caller = true)
      (calling : system.calls caller = some call) (turn : AbortTurn system caller call next) :
      CacheStep backing system (.abort caller) next
  | turned {order : GoString → Nat}
      (calling : system.calls caller = some call) (turn : CacheTurn backing system caller call next) :
      CacheStep backing system (.advance caller order sized) next

section Turns

variable {backing : Backing} {system : CacheSystem} {caller : Nat} {call : CacheCall}

private theorem resolve_turn (phase : call.phase = .resolving) : CacheTurn backing system caller call
    (system.resolve caller call) := by
  unfold resolve
  split
  · rename_i missing
    exact .refused phase (.inl missing)
  · cases valid : system.cache.validateMetadata call.metadata with
    | error error => exact .refused phase (.inr valid)
    | ok =>
      dsimp only
      split
      · rename_i flight found
        have same := List.find?_some found
        exact .joined phase valid (List.mem_of_find?_eq_some found) (by simpa using same)
      · rename_i missing
        refine .launched phase valid fun flight member => ?_
        simpa using List.find?_eq_none.mp missing flight member

private theorem lead_turn (phase : call.phase = .leading flight stage) (order : GoString → Nat) (sized : Bool) :
    CacheTurn backing system caller call (lead backing system caller call flight order sized stage) := by
  cases stage with
  | verify =>
    dsimp only [lead]
    split
    · rename_i found
      exact .staged phase (.hit found)
    · rename_i missed
      exact .staged phase (.miss (by simpa using missed))
  | remove => exact .removed phase
  | fetch =>
    dsimp only [lead]
    split
    · rename_i error failed
      exact .staged phase (.refused failed)
    · rename_i bytes downloaded
      exact .staged phase (.fetched downloaded)
  | rename bytes => exact .renamed phase
  | record => exact .leaderRecorded phase
  | settle result => exact .settled phase

private theorem advance_turn (order : GoString → Nat) (sized : Bool) :
    system.advance backing caller call order sized call.phase = system ∨
      CacheTurn backing system caller call (system.advance backing caller call order sized call.phase) := by
  obtain ⟨phase, here⟩ : ∃ phase, call.phase = phase := ⟨_, rfl⟩
  rw [here]
  cases phase with
  | resolving => exact .inr (resolve_turn here)
  | waiting flight =>
    dsimp only [CacheSystem.advance]
    split
    · exact .inl rfl
    · rename_i error result
      exact .inr (.failed here result)
    · rename_i result
      exact .inr (.landed here result)
  | checking =>
    dsimp only [CacheSystem.advance]
    split
    · rename_i found
      exact .inr (.checked here found)
    · rename_i missed
      exact .inr (.disagreed here (by simpa using missed))
  | recording => exact .inr (.recorded here)
  | leading flight stage => exact .inr (lead_turn here order sized)
  | opening => exact .inr (.opened here)
  | returned result => exact .inl rfl

private theorem abort_turn : system.abort caller call call.phase = system ∨
    AbortTurn system caller call (system.abort caller call call.phase) := by
  unfold CacheSystem.abort
  split
  · rename_i flight here
    exact .inr (.gaveUp here)
  · rename_i flight here
    exact .inr (.interrupted here)
  · exact .inl rfl

theorem step_taken (backing : Backing) (event : CacheEvent) (system : CacheSystem) :
    CacheStep backing system event (step backing event system) := by
  cases event with
  | elapse duration => exact .elapsed duration
  | call caller metadata manifestJSON =>
    dsimp only [step]
    split
    · rename_i unused
      exact .begun unused
    · exact .stayed
  | cancel caller => exact .cancelled caller
  | abort caller =>
    dsimp only [step]
    split
    · exact .stayed
    · rename_i call calling
      split
      · rename_i cancelled
        rcases abort_turn with same | turn
        · rw [same]
          exact .stayed
        · exact .aborted cancelled calling turn
      · exact .stayed
  | advance caller order sized =>
    dsimp only [step]
    split
    · exact .stayed
    · rename_i call calling
      rcases advance_turn order sized with same | turn
      · rw [same]
        exact .stayed
      · exact .turned calling turn

end Turns

section Files

variable {backing : Backing} {files : Files} {entries kept : List CacheEntry} {checksum : GoString}

theorem without_some (found : files.without entries kept checksum = some bytes) : files checksum = some bytes := by
  unfold Files.without at found
  split at found
  · cases found
  · exact found

private theorem without_kept (stays : checksum ∈ entries.map CacheEntry.checksum → checksum ∈ kept.map CacheEntry.checksum) :
    files.without entries kept checksum = files checksum := by
  unfold Files.without
  rw [if_neg fun gone => gone.2 (stays gone.1)]

private theorem download_ok (downloaded : download backing metadata checksum sized = .ok bytes) :
    Genuine backing checksum bytes ∧ (bytes.length : Int) = metadata.sizeBytes := by
  unfold download at downloaded
  split at downloaded
  · cases downloaded
  · rename_i whole found
    split at downloaded
    · cases downloaded
    · dsimp only at downloaded
      split at downloaded
      · cases downloaded
      · rename_i size
        split at downloaded
        · cases downloaded
        · rename_i digest
          cases downloaded
          have all : whole.take (metadata.sizeBytes + 1).toNat = whole := by
            refine List.take_of_length_le ?_
            simp only [List.length_take] at size
            omega
          rw [all] at digest size ⊢
          exact ⟨⟨not_not.mp digest, metadata.objectKey, found⟩, not_not.mp size⟩

theorem download_accurate (object : backing.objects metadata.objectKey = some bytes)
    (size : (bytes.length : Int) = metadata.sizeBytes) (digest : backing.digest bytes = checksum) (sized : Bool) :
    download backing metadata checksum sized = .ok bytes := by
  have all : bytes.take (metadata.sizeBytes + 1).toNat = bytes := List.take_of_length_le (by omega)
  simp [download, object, size, all, digest]

end Files

/-- Past the check of its metadata a call asks for a size within the limit, and what it is
about to publish is genuine and has that size. -/
structure Fit (genuine : GoString → Bytes → Prop) (limit : Int) (call : CacheCall) : Prop where
  size : call.phase = .resolving ∨ (∃ result, call.phase = .returned result) ∨
    0 ≤ call.metadata.sizeBytes ∧ call.metadata.sizeBytes ≤ limit
  bytes : ∀ flight bytes, call.phase = .leading flight (.rename bytes) →
    genuine call.checksum bytes ∧ (bytes.length : Int) = call.metadata.sizeBytes

/-- The directory holds genuine files only. -/
structure Stocked (genuine : GoString → Bytes → Prop) (system : CacheSystem) : Prop where
  files : ∀ checksum bytes, system.files checksum = some bytes → genuine checksum bytes
  keyed : Keyed CacheEntry.checksum system.cache.entries
  sizes : ∀ entry ∈ system.cache.entries, 0 ≤ entry.size
  calls : ∀ caller call, system.calls caller = some call → Fit genuine system.cache.maxBytes call

section Stock

variable {backing : Backing} {system next : CacheSystem} {caller : Nat} {call : CacheCall} {phase : CachePhase}
  {genuine : GoString → Bytes → Prop} {limit : Int}

private theorem validateMetadata_size (valid : cache.validateMetadata metadata = .ok ()) :
    0 ≤ metadata.sizeBytes ∧ metadata.sizeBytes ≤ cache.maxBytes := by
  unfold Cache.validateMetadata at valid
  split at valid
  · cases valid
  · rename_i sound
    simp only [not_or, not_le] at sound
    omega

section

variable (stocked : Stocked genuine system)
include stocked

theorem Stocked.moved (files : ∀ checksum bytes, next.files checksum = some bytes →
      genuine checksum bytes) (keyed : Keyed CacheEntry.checksum next.cache.entries)
    (sizes : ∀ entry ∈ next.cache.entries, 0 ≤ entry.size) (same : next.calls = system.calls)
    (bound : next.cache.maxBytes = system.cache.maxBytes) (fit : Fit genuine system.cache.maxBytes { call with phase }) :
    Stocked genuine (next.move caller call phase) := by
  refine ⟨files, keyed, sizes, fun other otherCall calling => ?_⟩
  simp only [move, same, bound] at calling ⊢
  rcases update_cases calling with ⟨_, rfl⟩ | ⟨_, old⟩
  · exact fit
  · exact stocked.calls other otherCall old

theorem Stocked.quiet (fit : Fit genuine system.cache.maxBytes { call with phase }) :
    Stocked genuine (system.move caller call phase) :=
  stocked.moved stocked.files stocked.keyed stocked.sizes rfl rfl fit

theorem Stocked.pruned : Stocked genuine system.pruneExpiredLocked :=
  ⟨fun checksum bytes found => stocked.files checksum bytes (without_some found),
    stocked.keyed.sublist (List.filter_sublist.map _), fun entry member => stocked.sizes entry (List.mem_filter.mp member).1,
    stocked.calls⟩

private theorem recorded_keyed (checksum : GoString) (size : Int) : Keyed CacheEntry.checksum
    (system.recorded checksum size) := by
  refine List.nodup_cons.mpr ⟨fun member => ?_, stocked.keyed.sublist (List.filter_sublist.map _)⟩
  obtain ⟨other, inside, same⟩ := List.mem_map.mp member
  have different := (List.mem_filter.mp inside).2
  simp [same] at different

theorem recorded_sizes (checksum : GoString) (positive : 0 ≤ size) : ∀ entry ∈ system.recorded checksum size, 0 ≤ entry.size := by
  intro entry member
  rcases List.mem_cons.mp member with rfl | member
  · exact positive
  · exact stocked.sizes entry (List.mem_filter.mp member).1

theorem Stocked.record (checksum : GoString) (positive : 0 ≤ size) (order : GoString → Nat) :
    Stocked genuine (system.record checksum size order) := by
  have kept : (evictLRU system.cache.maxBytes checksum order (system.recorded checksum size).length
      (system.recorded checksum size)).Sublist (system.recorded checksum size) := evictLRU_sublist _
  exact ⟨fun checksum bytes found => stocked.files checksum bytes (without_some found),
    (recorded_keyed stocked checksum size).sublist (kept.map _),
    fun entry member => recorded_sizes stocked checksum positive entry (kept.subset member), stocked.calls⟩

end

/-- The phases between the check of the metadata and the return. -/
def midway : CachePhase → Bool
  | .resolving | .returned _ => false
  | _ => true

def publishes : CachePhase → Bool
  | .leading _ (.rename _) => true
  | _ => false

theorem Fit.sized (fit : Fit genuine limit call) (here : call.phase = phase) (between : midway phase = true) :
    0 ≤ call.metadata.sizeBytes ∧ call.metadata.sizeBytes ≤ limit := by
  subst here
  rcases fit.size with same | ⟨result, same⟩ | size
  · simp [same, midway] at between
  · simp [same, midway] at between
  · exact size

private theorem Fit.of_size (size : 0 ≤ call.metadata.sizeBytes ∧ call.metadata.sizeBytes ≤ limit)
    (plain : publishes phase = false) : Fit genuine limit { call with phase } := by
  refine ⟨.inr (.inr size), fun flight bytes same => ?_⟩
  subst same
  cases plain

theorem Fit.returned (call : CacheCall) (result : Except CacheError Unit) : Fit genuine limit { call with phase := .returned result } :=
  ⟨.inr (.inl ⟨result, rfl⟩), fun _ _ impossible => by cases impossible⟩

private theorem Fit.resolved (call : CacheCall) (size : 0 ≤ call.metadata.sizeBytes ∧ call.metadata.sizeBytes ≤ limit)
    (result : Except CacheError Unit) :
    Fit genuine limit { call with phase := resolvedPhase call result } := by
  unfold resolvedPhase
  cases result with
  | error error => exact .returned call _
  | ok =>
    dsimp only
    split
    · exact .of_size size rfl
    · exact .returned call _

private theorem turn_stocked (delivers : ∀ checksum bytes, Genuine backing checksum bytes → genuine checksum bytes)
    (stocked : Stocked genuine system) (calling : system.calls caller = some call)
    (turn : CacheTurn backing system caller call next) : Stocked genuine next := by
  have fit := stocked.calls caller call calling
  cases turn with
  | refused here reason => exact stocked.quiet (.returned call _)
  | joined here valid member same =>
    exact stocked.pruned.quiet (.of_size (validateMetadata_size valid) rfl)
  | launched here valid none =>
    exact stocked.pruned.moved stocked.pruned.files stocked.pruned.keyed stocked.pruned.sizes rfl rfl
      (.of_size (validateMetadata_size valid) rfl)
  | failed here result => exact stocked.quiet (.returned call _)
  | landed here result =>
    exact stocked.quiet (.of_size (fit.sized here rfl) rfl)
  | checked here found =>
    exact stocked.quiet (.of_size (fit.sized here rfl) rfl)
  | disagreed here missed => exact stocked.quiet (.returned call _)
  | recorded here =>
    have size := fit.sized here rfl
    exact (stocked.record _ size.1 _).quiet (.resolved call size _)
  | staged here turn =>
    have size := fit.sized here rfl
    cases turn with
    | fetched downloaded =>
      refine stocked.quiet ⟨.inr (.inr size), fun flight bytes same => ?_⟩
      obtain ⟨_, same⟩ := CachePhase.leading.inj same
      obtain ⟨delivered, size⟩ := download_ok downloaded
      exact FlightStage.rename.inj same ▸ ⟨delivers _ _ delivered, size⟩
    | hit | miss | refused => exact stocked.quiet (.of_size size rfl)
  | removed here =>
    refine stocked.moved (fun checksum bytes found => ?_) stocked.keyed stocked.sizes rfl rfl
      (.of_size (fit.sized here rfl) rfl)
    dsimp only at found
    by_cases same : checksum = call.checksum
    · simp [same] at found
    · rw [Function.update_of_ne same] at found
      exact stocked.files checksum bytes found
  | renamed here =>
    refine stocked.moved (fun checksum bytes found => ?_) stocked.keyed stocked.sizes rfl rfl
      (.of_size (fit.sized here rfl) rfl)
    rcases update_cases found with ⟨rfl, rfl⟩ | ⟨_, old⟩
    · exact (fit.bytes _ _ here).1
    · exact stocked.files checksum bytes old
  | leaderRecorded here =>
    have size := fit.sized here rfl
    exact (stocked.record _ size.1 _).quiet (.of_size size rfl)
  | settled here =>
    exact stocked.moved stocked.files stocked.keyed stocked.sizes rfl rfl (.resolved call (fit.sized here rfl) _)
  | opened here => exact stocked.quiet (.returned call _)

private theorem abort_stocked (stocked : Stocked genuine system) (calling : system.calls caller = some call)
    (turn : AbortTurn system caller call next) : Stocked genuine next := by
  cases turn with
  | gaveUp here => exact stocked.quiet (.returned call _)
  | interrupted here =>
    have size := (stocked.calls caller call calling).sized here rfl
    exact stocked.quiet (.of_size size rfl)

theorem step_stocked (delivers : ∀ checksum bytes, Genuine backing checksum bytes → genuine checksum bytes)
    (taken : CacheStep backing system event next) (stocked : Stocked genuine system) : Stocked genuine next := by
  cases taken with
  | stayed => exact stocked
  | elapsed | cancelled => exact { stocked with }
  | begun unused => exact stocked.quiet ⟨.inl rfl, fun _ _ impossible => by cases impossible⟩
  | aborted cancelled calling turn => exact abort_stocked stocked calling turn
  | turned calling turn => exact turn_stocked delivers stocked calling turn

end Stock

def ledFlight : CachePhase → Option Nat
  | .leading flight _ => some flight
  | _ => none

/-- Every flight in the map has one leader, and its channel is open. -/
structure Led (system : CacheSystem) : Prop where
  keyed : Keyed CacheFlight.checksum system.cache.flights
  opened : ∀ flight ∈ system.cache.flights, flight.id < system.cache.launched ∧ system.results flight.id = none
  unused : ∀ id, system.cache.launched ≤ id → system.results id = none
  leads : ∀ caller call id, system.calls caller = some call → ledFlight call.phase = some id →
    ⟨call.checksum, id⟩ ∈ system.cache.flights
  led : ∀ flight ∈ system.cache.flights, ∃ caller call, system.calls caller = some call ∧ call.checksum = flight.checksum ∧
    ledFlight call.phase = some flight.id
  single : Exclusive (fun call => ledFlight call.phase) system.calls

section Flights

variable {backing : Backing} {system next : CacheSystem} {caller : Nat} {call : CacheCall} {phase : CachePhase}

namespace Led

variable (led : Led system)
include led

theorem moved (calling : ∀ before, system.calls caller = some before →
      before.checksum = call.checksum ∧ ledFlight before.phase = ledFlight phase)
    (new : system.calls caller = none → ledFlight phase = none) : Led (system.move caller call phase) := by
  refine ⟨led.keyed, led.opened, led.unused, ?_, ?_, ?_⟩
  · intro other otherCall id calling' leads
    rcases update_cases calling' with ⟨rfl, rfl⟩ | ⟨_, old⟩
    · cases here : system.calls other with
      | none => rw [new here] at leads; cases leads
      | some before =>
        obtain ⟨checksum, stays⟩ := calling before here
        have old := led.leads other before id here (stays.trans leads)
        rwa [checksum] at old
    · exact led.leads other otherCall id old leads
  · intro flight member
    obtain ⟨leader, leading, calling', checksum, leads⟩ := led.led flight member
    by_cases same : leader = caller
    · subst same
      obtain ⟨equal, stays⟩ := calling leading calling'
      exact ⟨leader, _, Function.update_self .., equal.symm.trans checksum, stays.symm.trans leads⟩
    · exact ⟨leader, leading, (Function.update_of_ne same ..).trans calling', checksum, leads⟩
  · refine led.single.update fun id leads other otherCall different calling' leads' => ?_
    cases here : system.calls caller with
    | none => rw [new here] at leads; cases leads
    | some before =>
      refine different (led.single other caller otherCall before id calling' here leads' ?_)
      exact (calling before here).2.trans leads

section

variable (calling : system.calls caller = some call)
include calling

theorem quiet (stays : ledFlight call.phase = ledFlight phase) : Led (system.move caller call phase) :=
  led.moved (fun before here => by rw [calling] at here; obtain rfl := Option.some.inj here; exact ⟨rfl, stays⟩)
    (fun none => by rw [calling] at none; cases none)

private theorem launch (free : ledFlight call.phase = none)
    (none : ∀ flight ∈ system.cache.flights, flight.checksum ≠ call.checksum) :
    Led ({ system with
      cache := { system.cache with
        flights := { checksum := call.checksum, id := system.cache.launched } :: system.cache.flights
        launched := system.cache.launched + 1 } }.move caller call (.leading system.cache.launched .verify)) := by
  refine ⟨List.nodup_cons.mpr ⟨fun member => ?_, led.keyed⟩, ?_, ?_, ?_, ?_, ?_⟩
  · obtain ⟨flight, inside, same⟩ := List.mem_map.mp member
    exact none flight inside same
  · intro flight member
    rcases List.mem_cons.mp member with rfl | member
    · exact ⟨Nat.lt_succ_self _, led.unused _ le_rfl⟩
    · exact ⟨(led.opened flight member).1.trans (Nat.lt_succ_self _), (led.opened flight member).2⟩
  · exact fun id late => led.unused id ((Nat.le_succ _).trans late)
  · intro other otherCall id calling' leads
    rcases update_cases calling' with ⟨rfl, rfl⟩ | ⟨_, old⟩
    · obtain rfl := Option.some.inj leads
      exact List.mem_cons_self ..
    · exact List.mem_cons_of_mem _ (led.leads other otherCall id old leads)
  · intro flight member
    rcases List.mem_cons.mp member with rfl | member
    · exact ⟨caller, _, Function.update_self .., rfl, rfl⟩
    · obtain ⟨leader, leading, calling', checksum, leads⟩ := led.led flight member
      refine ⟨leader, leading, (Function.update_of_ne ?_ ..).trans calling', checksum, leads⟩
      rintro rfl
      obtain rfl := Option.some.inj (calling.symm.trans calling')
      simp [free] at leads
  · refine led.single.update fun id leads other otherCall _ calling' leads' => ?_
    obtain rfl := Option.some.inj leads
    exact (led.opened _ (led.leads other otherCall _ calling' leads')).1.ne rfl

theorem settle {id : Nat}
    (leads : ledFlight call.phase = some id) (result : Except CacheError Unit) (after : ledFlight phase = none) :
    Led ({ system with
      results := Function.update system.results id (some result)
      cache := { system.cache with flights := delete (fun flight => flight.checksum == call.checksum) system.cache.flights }
      }.move caller call phase) := by
  have mine := led.leads caller call id calling leads
  have members : ∀ flight, flight ∈ delete (fun flight => flight.checksum == call.checksum) system.cache.flights ↔
      flight ∈ system.cache.flights ∧ flight.checksum ≠ call.checksum := by
    intro flight
    simp [delete, List.mem_filter]
  have apart : ∀ flight ∈ system.cache.flights, flight.checksum ≠ call.checksum → flight.id ≠ id := by
    intro flight member different same
    obtain ⟨leader, leading, calling', checksum, leads'⟩ := led.led flight member
    obtain rfl := led.single leader caller leading call id calling' calling (leads'.trans (congrArg some same)) leads
    obtain rfl := Option.some.inj (calling.symm.trans calling')
    exact different checksum.symm
  refine ⟨led.keyed.sublist (List.filter_sublist.map _), ?_, ?_, ?_, ?_, ?_⟩
  · intro flight member
    obtain ⟨inside, different⟩ := (members flight).mp member
    refine ⟨(led.opened flight inside).1, ?_⟩
    exact (Function.update_of_ne (apart flight inside different) ..).trans (led.opened flight inside).2
  · intro other late
    have before : id < system.cache.launched := (led.opened _ mine).1
    have late : system.cache.launched ≤ other := late
    exact (Function.update_of_ne (by omega) ..).trans (led.unused other late)
  · intro other otherCall other_id calling' leads'
    rcases update_cases calling' with ⟨rfl, rfl⟩ | ⟨different, old⟩
    · rw [after] at leads'; cases leads'
    · have inside := led.leads other otherCall other_id old leads'
      refine (members _).mpr ⟨inside, fun same => different ?_⟩
      have equal := led.keyed.eq inside mine same
      exact led.single other caller otherCall call id old calling (leads'.trans (congrArg some (congrArg CacheFlight.id equal))) leads
  · intro flight member
    obtain ⟨inside, different⟩ := (members flight).mp member
    obtain ⟨leader, leading, calling', checksum, leads'⟩ := led.led flight inside
    refine ⟨leader, leading, (Function.update_of_ne ?_ ..).trans calling', checksum, leads'⟩
    rintro rfl
    obtain rfl := Option.some.inj (calling.symm.trans calling')
    exact different checksum.symm
  · exact led.single.update fun other leads' => by rw [after] at leads'; cases leads'

end

end Led

theorem resolvedPhase_free (call : CacheCall) (result : Except CacheError Unit) : ledFlight (resolvedPhase call result) = none := by
  unfold resolvedPhase
  cases result with
  | error error => rfl
  | ok => dsimp only; split <;> rfl

private theorem turn_led (led : Led system) (calling : system.calls caller = some call)
    (turn : CacheTurn backing system caller call next) :
    Led next := by
  have pruned : Led system.pruneExpiredLocked := { led with }
  have recorded : ∀ order, Led (system.record call.checksum call.metadata.sizeBytes order) := fun _ => { led with }
  have written : ∀ files, Led { system with files } := fun _ => { led with }
  cases turn with
  | refused here | failed here | landed here | checked here | disagreed here | opened here =>
    exact led.quiet calling (by rw [here]; rfl)
  | joined here => exact pruned.quiet calling (by rw [here]; rfl)
  | launched here valid none => exact pruned.launch calling (by rw [here]; rfl) none
  | recorded here => exact (recorded _).quiet calling (by rw [here, resolvedPhase_free]; rfl)
  | staged here => exact led.quiet calling (by rw [here]; rfl)
  | removed here | renamed here => exact (written _).quiet calling (by rw [here]; rfl)
  | leaderRecorded here => exact (recorded _).quiet calling (by rw [here]; rfl)
  | settled here => exact led.settle calling (by rw [here]; rfl) _ (resolvedPhase_free call _)

private theorem abort_led (led : Led system) (calling : system.calls caller = some call)
    (turn : AbortTurn system caller call next) :
    Led next := by
  cases turn with
  | gaveUp here | interrupted here => exact led.quiet calling (by rw [here]; rfl)

private theorem step_led (taken : CacheStep backing system event next) (led : Led system) : Led next := by
  cases taken with
  | stayed => exact led
  | elapsed | cancelled => exact { led with }
  | begun unused => exact led.moved (fun before here => by rw [unused] at here; cases here) (fun _ => rfl)
  | aborted cancelled calling turn => exact abort_led led calling turn
  | turned calling turn => exact turn_led led calling turn

end Flights

/-- The entry, everything used since and the entry that is being recorded fit into the cache. -/
def FitsWith (system : CacheSystem) (checksum : GoString) (size : Int) (entry : CacheEntry) : Prop :=
  totalBytes ((system.recorded checksum size).filter (recent checksum entry)) ≤ system.cache.maxBytes

section Keeping

variable {backing : Backing} {system : CacheSystem} {checksum other : GoString} {size : Int} {order : GoString → Nat}

theorem pruned_keeps (young : ∀ entry ∈ system.cache.entries, entry.checksum = other →
      expired system.cache.ttl system.now entry = false) : system.pruneExpiredLocked.files other = system.files other := by
  refine without_kept fun member => ?_
  obtain ⟨entry, inside, same⟩ := List.mem_map.mp member
  exact List.mem_map.mpr ⟨entry, List.mem_filter.mpr ⟨inside, by simp [young entry inside same]⟩, same⟩

theorem record_keeps_own : (system.record checksum size order).files checksum = system.files checksum := by
  refine without_kept fun _ => List.mem_map.mpr ⟨_, evictLRU_protected _ (List.mem_cons_self ..) rfl, rfl⟩

theorem record_keeps (stocked : Stocked genuine system) (positive : 0 ≤ size)
    (fits : ∀ entry ∈ system.cache.entries, entry.checksum = other → entry.checksum ≠ checksum →
      FitsWith system checksum size entry) : (system.record checksum size order).files other = system.files other := by
  by_cases own : other = checksum
  · subst own
    exact record_keeps_own
  · refine without_kept fun member => ?_
    obtain ⟨entry, inside, same⟩ := List.mem_map.mp member
    have kept : entry ∈ system.cache.entries := by
      rcases List.mem_cons.mp inside with rfl | inside
      · exact absurd same.symm own
      · exact (List.mem_filter.mp inside).1
    refine List.mem_map.mpr ⟨entry, ?_, same⟩
    exact evictLRU_keeps _ (recorded_keyed stocked checksum size) (recorded_sizes stocked checksum positive) inside
      (fits entry kept same (same ▸ own))

end Keeping

def SameBounds (cache next : Cache) : Prop :=
  next.maxBytes = cache.maxBytes ∧ next.maxObjectBytes = cache.maxObjectBytes

theorem SameBounds.valid (same : SameBounds cache next) (metadata : Metadata) :
    next.validateMetadata metadata = cache.validateMetadata metadata := by
  unfold Cache.validateMetadata
  rw [same.1, same.2]

theorem step_bounds (taken : CacheStep backing system event next) : SameBounds system.cache next.cache := by
  cases taken with
  | stayed | elapsed | begun | cancelled => exact ⟨rfl, rfl⟩
  | aborted cancelled calling turn => cases turn <;> exact ⟨rfl, rfl⟩
  | turned calling turn => cases turn <;> exact ⟨rfl, rfl⟩

/-- The metadata passes the checks of the cache and is that of the object under its key. -/
def Accurate (backing : Backing) (cache : Cache) (metadata : Metadata) : Prop :=
  cache.validateMetadata metadata = .ok () ∧ ∃ bytes, backing.objects metadata.objectKey = some bytes ∧
    (bytes.length : Int) = metadata.sizeBytes ∧ backing.digest bytes = toLowerHex metadata.sha256

structure SoundCache (backing : Backing) (cache : Cache) (system : CacheSystem) : Prop where
  stocked : Stocked (Genuine backing) system
  led : Led system
  bounds : SameBounds cache system.cache

theorem step_soundCache (system : CacheSystem) (event : CacheEvent) (sound : SoundCache backing cache system) :
    SoundCache backing cache (step backing event system) := by
  have taken := step_taken backing event system
  exact ⟨step_stocked (fun _ _ => id) taken sound.stocked, step_led taken sound.led,
    (step_bounds taken).1.trans sound.bounds.1, (step_bounds taken).2.trans sound.bounds.2⟩

theorem newCache_soundCache (backing : Backing) (made : newCache directory maxBytes maxObjectBytes ttl = some cache)
    (now : Instant) : SoundCache backing cache (start cache now) := by
  unfold newCache at made
  split at made
  · cases made
  · obtain rfl := Option.some.inj made
    refine ⟨⟨?_, ?_, ?_, ?_⟩, ⟨?_, ?_, ?_, ?_, ?_, ?_⟩, rfl, rfl⟩ <;> simp [start, Keyed, Exclusive]

end JudgingServer.Proofs
