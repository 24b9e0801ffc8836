import JudgingServer.Proofs.CacheOpens
import Mathlib.Data.List.Induction

/-! The bytes that the cache accounts for: what is recorded fits into it after every
eviction, and every path that it returns was checked or written for that call. -/

namespace JudgingServer.Proofs
open Go Library Library.Table Bundle CacheSystem

variable {system next : CacheSystem} {call : CacheCall} {entries : List CacheEntry} {order : GoString → Nat}

/-! ### Eviction -/

private theorem oldestOther_none {visited : List CacheEntry} {start : Option CacheEntry}
    (missing : oldestOther protectedChecksum visited start = none) :
    start = none ∧ ∀ entry ∈ visited, entry.checksum = protectedChecksum := by
  induction visited generalizing start with
  | nil => exact ⟨missing, by simp⟩
  | cons entry rest ih =>
    unfold oldestOther at missing
    split at missing
    next same =>
      obtain ⟨none, all⟩ := ih missing
      exact ⟨none, List.forall_mem_cons.mpr ⟨same, all⟩⟩
    next => split at missing <;> cases (ih missing).1

private theorem length_evicted (found : oldestOther protectedChecksum (visitedEntries order entries) none = some oldest) :
    (delete (fun entry => entry.checksum == oldest.checksum) entries).length < entries.length := by
  obtain ⟨impossible | ⟨visited, -⟩, -⟩ := oldestOther_some found
  · cases impossible
  · apply List.length_filter_lt_length_iff_exists.mpr
    exact ⟨oldest, (List.mem_insertionSort _).mp visited, by simp⟩

private theorem evictLRU_rounds (first second : Nat) (enough : entries.length ≤ first) (more : entries.length ≤ second) :
    evictLRU maxBytes protectedChecksum order first entries = evictLRU maxBytes protectedChecksum order second entries := by
  induction first generalizing second entries with
  | zero =>
    obtain rfl := List.length_eq_zero_iff.mp (Nat.le_zero.mp enough)
    exact (List.sublist_nil.mp (evictLRU_sublist second)).symm
  | succ first ih =>
    cases second with
    | zero =>
      obtain rfl := List.length_eq_zero_iff.mp (Nat.le_zero.mp more)
      exact List.sublist_nil.mp (evictLRU_sublist (first + 1))
    | succ second =>
      unfold evictLRU
      split
      next =>
        split
        next => rfl
        next found =>
          have := length_evicted found
          exact ih second (by omega) (by omega)
      next => rfl

private theorem evictLRU_over (rounds : Nat) (enough : entries.length ≤ rounds) :
    totalBytesLocked (evictLRU maxBytes protectedChecksum order rounds entries) ≤ maxBytes ∨
      ∀ entry ∈ evictLRU maxBytes protectedChecksum order rounds entries, entry.checksum = protectedChecksum := by
  induction rounds generalizing entries with
  | zero =>
    obtain rfl := List.length_eq_zero_iff.mp (Nat.le_zero.mp enough)
    exact .inr (by simp [evictLRU])
  | succ rounds ih =>
    unfold evictLRU
    split
    next =>
      split
      next missing =>
        refine .inr fun entry member => (oldestOther_none missing).2 entry ?_
        exact (List.mem_insertionSort _).mpr member
      next found =>
        have := length_evicted found
        exact ih (by omega)
    next within => exact .inl (Int.not_lt.mp within)

private theorem totalBytesLocked_eq (nonneg : 0 ≤ totalBytes entries) (small : totalBytes entries < 2 ^ 63) :
    totalBytesLocked entries = totalBytes entries := by
  unfold totalBytesLocked Int.bmod
  dsimp only
  split <;> omega

private theorem record_fits (stocked : Stocked genuine system) (fits : totalBytes system.cache.entries ≤ system.cache.maxBytes)
    (small : system.cache.maxBytes < 2 ^ 62) (size : 0 ≤ bytes ∧ bytes ≤ system.cache.maxBytes) :
    totalBytes (system.record checksum bytes order).cache.entries ≤ system.cache.maxBytes := by
  have sizes := recorded_sizes stocked checksum size.1
  have kept : (system.record checksum bytes order).cache.entries.Sublist (system.recorded checksum bytes) := evictLRU_sublist _
  obtain within | alone : totalBytesLocked (system.record checksum bytes order).cache.entries ≤ system.cache.maxBytes ∨
      ∀ entry ∈ (system.record checksum bytes order).cache.entries, entry.checksum = checksum := evictLRU_over _ (Nat.le_refl _)
  · have others : totalBytes (delete (fun entry => entry.checksum == checksum) system.cache.entries) ≤ _ :=
      totalBytes_sublist List.filter_sublist stocked.sizes
    have whole : totalBytes (system.recorded checksum bytes) = bytes + totalBytes (delete _ system.cache.entries) := List.sum_cons
    have below := totalBytes_sublist kept sizes
    rwa [totalBytesLocked_eq (totalBytes_nonneg fun entry member => sizes entry (kept.subset member)) (by omega)] at within
  · -- Only the recorded entry has its checksum.
    have only := kept.filter (·.checksum == checksum)
    rw [List.filter_eq_self.mpr (by simpa using alone)] at only
    have single : (system.recorded checksum bytes).filter (·.checksum == checksum) = [⟨checksum, bytes, system.now⟩] := by
      simp [recorded, delete, List.filter_filter]
    rw [single] at only
    have below := totalBytes_sublist only (by simpa using size.1)
    simp only [totalBytes, List.map_cons, List.map_nil, List.sum_cons, List.sum_nil] at below ⊢
    omega

/-! ### Runs over a store that may change -/

abbrev StoreEvent := (GoString → Option Bytes) × CacheEvent

def served (digest : Bytes → GoString) (opens : Bytes → GoString → Bool) (events : List StoreEvent) (system : CacheSystem) :
    CacheSystem :=
  run (fun last => step ⟨last.1, digest, opens⟩ last.2) events system

private theorem served_append (first second : List StoreEvent) :
    served digest opens (first ++ second) system = served digest opens second (served digest opens first system) := run_append ..

/-- The entries of a cache that was made small enough fit into it. -/
structure Accounted (digest : Bytes → GoString) (maxBytes : Int) (system : CacheSystem) : Prop where
  stocked : Stocked (fun checksum bytes => digest bytes = checksum) system
  bound : system.cache.maxBytes = maxBytes
  fits : totalBytes system.cache.entries ≤ maxBytes

private theorem turn_entries (turn : CacheTurn backing system caller call next) :
    next.cache.entries.Sublist system.cache.entries ∨ midway call.phase = true ∧ ∃ order,
      next.cache.entries = (system.record call.checksum call.metadata.sizeBytes order).cache.entries := by
  cases turn with
  | joined | launched => exact .inl List.filter_sublist
  | recorded here => exact .inr ⟨by rw [here]; rfl, _, rfl⟩
  | leaderRecorded here => exact .inr ⟨by rw [here]; rfl, _, rfl⟩
  | refused | failed | landed | checked | disagreed | staged | removed | renamed | settled | opened =>
    exact .inl (List.Sublist.refl _)

theorem Accounted.step (accounted : Accounted digest maxBytes system) (small : maxBytes < 2 ^ 62)
    (taken : CacheStep ⟨objects, digest, opens⟩ system event next) : Accounted digest maxBytes next := by
  obtain ⟨stocked, rfl, fits⟩ := accounted
  have bound := (step_bounds taken).1
  refine ⟨step_stocked (fun _ _ => And.left) taken stocked, bound, ?_⟩
  have shrinks : next.cache.entries.Sublist system.cache.entries → totalBytes next.cache.entries ≤ system.cache.maxBytes :=
    fun sublist => (totalBytes_sublist sublist stocked.sizes).trans fits
  cases taken with
  | stayed | elapsed | begun | cancelled => exact fits
  | aborted cancelled calling turn => cases turn <;> exact fits
  | turned calling turn =>
    rcases turn_entries turn with sublist | ⟨between, order, same⟩
    · exact shrinks sublist
    · rw [same]
      exact record_fits stocked fits small ((stocked.calls _ _ calling).sized rfl between)

/-! ### What a returned path was checked against -/

/-- The phases in which `Resolve` is bound to return a path, or has returned one. -/
def vouched : CachePhase → Bool
  | .recording | .opening | .leading _ .record | .leading _ (.settle (.ok _)) | .returned (.ok _) => true
  | _ => false

/-- The call is about to check or to write bytes with the size and the digest of its metadata. -/
def Vouches (digest : Bytes → GoString) (system : CacheSystem) (call : CacheCall) : Prop :=
  ∃ bytes, ((call.phase = .checking ∨ ∃ flight, call.phase = .leading flight .verify) ∧ system.files call.checksum = some bytes ∨
    ∃ flight, call.phase = .leading flight (.rename bytes)) ∧
    (bytes.length : Int) = call.metadata.sizeBytes ∧ digest bytes = call.checksum

private theorem verifyCachedFile_vouches (here : call.phase = .checking ∨ ∃ flight, call.phase = .leading flight .verify)
    (found : verifyCachedFile backing system.files call.checksum call.metadata.sizeBytes = true) :
    Vouches backing.digest system call := by
  unfold verifyCachedFile at found
  split at found
  next => cases found
  next bytes stored =>
    simp only [Bool.and_eq_true, decide_eq_true_eq, beq_iff_eq] at found
    exact ⟨bytes, .inl ⟨here, stored⟩, found⟩

private theorem turn_vouches (fit : Fit (fun checksum bytes => backing.digest bytes = checksum) limit call)
    (turn : CacheTurn backing system caller call next) :
    ∃ phase, next.calls = Function.update system.calls caller (some { call with phase }) ∧
      (vouched phase = true → vouched call.phase = true ∨ Vouches backing.digest system call) := by
  cases turn with
  | refused | joined | launched | failed | landed | disagreed | removed => exact ⟨_, rfl, fun impossible => by cases impossible⟩
  | checked here found => exact ⟨_, rfl, fun _ => .inr (verifyCachedFile_vouches (.inl here) found)⟩
  | recorded here | leaderRecorded here | opened here => exact ⟨_, rfl, fun _ => .inl (by rw [here]; rfl)⟩
  | staged here turn =>
    refine ⟨_, rfl, fun after => ?_⟩
    cases turn with
    | hit found => exact .inr (verifyCachedFile_vouches (.inr ⟨_, here⟩) found)
    | miss | fetched | refused => cases after
  | renamed here =>
    obtain ⟨digest, size⟩ := fit.bytes _ _ here
    exact ⟨_, rfl, fun _ => .inr ⟨_, .inr ⟨_, here⟩, size, digest⟩⟩
  | @settled flight result here =>
    refine ⟨_, rfl, fun after => .inl ?_⟩
    cases result with
    | error => cases after
    | ok => rw [here]; rfl

/-- During the run the call has checked or written the bytes of its own metadata. -/
def VouchedDuring (digest : Bytes → GoString) (state : List StoreEvent → CacheSystem) (events : List StoreEvent) (caller : Nat)
    (metadata : Metadata) : Prop :=
  ∃ before objects order sized after call, events = before ++ (objects, .advance caller order sized) :: after ∧
    (state before).calls caller = some call ∧ call.metadata = metadata ∧ Vouches digest (state before) call

theorem VouchedDuring.later (vouched : VouchedDuring digest state events caller metadata) (last : StoreEvent) :
    VouchedDuring digest state (events ++ [last]) caller metadata := by
  obtain ⟨before, objects, order, sized, after, call, rfl, evidence⟩ := vouched
  exact ⟨before, objects, order, sized, after ++ [last], call, by simp, evidence⟩

private theorem newCache_accounted {cache : Cache} (digest : Bytes → GoString)
    (made : newCache directory maxBytes maxObjectBytes ttl = some cache)
    (now : Instant) : Accounted digest maxBytes (start cache now) := by
  unfold newCache at made
  split at made
  next => cases made
  next positive =>
    obtain rfl := Option.some.inj made
    refine ⟨⟨?_, ?_, ?_, ?_⟩, rfl, ?_⟩
    · simp [start]
    · exact List.nodup_nil
    · simp [start]
    · simp [start]
    · simp only [start, totalBytes, List.map_nil, List.sum_nil]
      omega

private theorem served_accounted (small : maxBytes < 2 ^ 62) (accounted : Accounted digest maxBytes system)
    (opens : Bytes → GoString → Bool) (events : List StoreEvent) :
    Accounted digest maxBytes (served digest opens events system) := by
  apply run_invariant (fun state last accounted => ?_) events accounted
  exact accounted.step small (step_taken ⟨last.1, digest, opens⟩ last.2 state)

private theorem served_vouched (small : maxBytes < 2 ^ 62) (accounted : Accounted digest maxBytes system)
    (unused : ∀ caller, system.calls caller = none)
    (opens : Bytes → GoString → Bool) (events : List StoreEvent) :
    ∀ caller call, (served digest opens events system).calls caller = some call → vouched call.phase = true →
      VouchedDuring digest (fun before => served digest opens before system) events caller call.metadata := by
  induction events using List.reverseRecOn with
  | nil =>
    intro caller call calling
    cases (unused caller).symm.trans calling
  | append_singleton events last ih =>
    obtain ⟨objects, event⟩ := last
    intro caller call calling returns
    have old : (served digest opens events system).calls caller = some call → VouchedDuring digest
        (fun before => served digest opens before system) (events ++ [(objects, event)]) caller call.metadata :=
      fun calling => (ih caller call calling returns).later _
    have taken := step_taken ⟨objects, digest, opens⟩ event (served digest opens events system)
    rw [served_append] at calling
    change (step _ event (served digest opens events system)).calls caller = some call at calling
    generalize step _ event _ = next at taken calling
    cases taken with
    | stayed | elapsed | cancelled => exact old calling
    | begun unused =>
      rcases update_cases calling with ⟨_, rfl⟩ | ⟨_, before⟩
      · cases returns
      · exact old before
    | aborted cancelled mine turn =>
      cases turn with
      | gaveUp | interrupted =>
        rcases update_cases calling with ⟨_, rfl⟩ | ⟨_, before⟩
        · cases returns
        · exact old before
    | turned mine turn =>
      have fit := (served_accounted small accounted opens events).stocked.calls _ _ mine
      obtain ⟨phase, moved, vouches⟩ := turn_vouches fit turn
      rw [moved] at calling
      rcases update_cases calling with ⟨rfl, rfl⟩ | ⟨_, before⟩
      · rcases vouches returns with already | evidence
        · exact (ih _ _ mine already).later _
        · exact ⟨events, objects, _, _, [], _, rfl, mine, rfl, evidence⟩
      · exact old before

/-- With a limit below two to the 62, what is recorded fits after every step of every run, the
eviction ends within as many rounds as there are entries and keeps the entry just recorded,
and a path is returned only to a call that has checked or written it for its own metadata. -/
theorem cache_accounts (digest : Bytes → GoString) (opens : Bytes → GoString → Bool) (directory : GoString)
    (maxBytes maxObjectBytes : Int) (ttl : Duration) (cache : Cache) (small : maxBytes < 2 ^ 62)
    (made : newCache directory maxBytes maxObjectBytes ttl = some cache) (now : Instant) (events : List StoreEvent) :
    let system := served digest opens events (start cache now)
    totalBytes system.cache.entries ≤ maxBytes ∧
    (∀ checksum size order rounds, (system.recorded checksum size).length ≤ rounds →
      evictLRU maxBytes checksum order rounds (system.recorded checksum size) = (system.record checksum size order).cache.entries ∧
      ⟨checksum, size, system.now⟩ ∈ (system.record checksum size order).cache.entries) ∧
    ∀ caller call, system.calls caller = some call → call.phase = .opening ∨ call.phase = .returned (.ok ()) →
      VouchedDuring digest (fun before => served digest opens before (start cache now)) events caller call.metadata := by
  have begun := newCache_accounted digest made now
  have accounted := served_accounted small begun opens events
  refine ⟨accounted.fits, fun checksum size order rounds enough => ⟨?_, ?_⟩, fun caller call calling returned => ?_⟩
  · rw [← accounted.bound]
    exact evictLRU_rounds _ _ enough (Nat.le_refl _)
  · exact evictLRU_protected _ List.mem_cons_self rfl
  · apply served_vouched small begun (fun _ => rfl) opens events caller call calling
    rcases returned with here | here <;> rw [here] <;> rfl

def twoDownloads : List StoreEvent :=
  (sampleOpen 0 (lit "a") :: downloads 0 ++ sampleOpen 1 (lit "b") :: downloads 1).map fun event => (sampleBacking.objects, event)

def servedByte (events : List StoreEvent) : CacheSystem :=
  served sampleBacking.digest sampleBacking.opens events (start (sampleCache 1) 0)

/-- In a cache for one byte, the second download evicts what the first has recorded. -/
theorem cache_accounts_evicts :
    (servedByte (twoDownloads.take 8)).cache.entries = [⟨(sampleMetadata (lit "a")).sha256, 1, 0⟩] ∧
    (servedByte twoDownloads).cache.entries = [⟨(sampleMetadata (lit "b")).sha256, 1, 0⟩] ∧
    totalBytes (servedByte twoDownloads).cache.entries ≤ 1 ∧
    VouchedDuring sampleBacking.digest servedByte twoDownloads 1 (sampleMetadata (lit "b")) := by
  obtain ⟨fits, -, vouched⟩ := cache_accounts sampleBacking.digest sampleBacking.opens (lit "d") 1 1 hour (sampleCache 1) (by decide)
    (by decide +kernel) 0 twoDownloads
  have opening : ((servedByte twoDownloads).calls 1).map (fun call => (call.metadata, call.phase)) =
      some (sampleMetadata (lit "b"), .opening) := by decide +kernel
  obtain ⟨call, calling, same⟩ := Option.map_eq_some_iff.mp opening
  obtain ⟨own, here⟩ := Prod.mk.inj same
  exact ⟨by decide +kernel, by decide +kernel, fits, own ▸ vouched 1 call calling (.inl here)⟩

/-! ### A limit of two to the 62 -/

def hugeSize : Nat := 2 ^ 62

def hugeObjects (key : GoString) : Option Bytes := some (List.replicate hugeSize (key.headD 48))

def hugeDigest (bytes : Bytes) : GoString := List.replicate 64 (bytes.headD 0)

def hugeMetadata (name : UInt8) : Metadata := ⟨[name], List.replicate 64 name, hugeSize⟩

/-- A call up to the step in which it records the object that it has downloaded. -/
def admission (caller : Nat) (name : UInt8) : List StoreEvent :=
  (hugeObjects, .call caller (hugeMetadata name) none) :: List.replicate 6 (hugeObjects, .advance caller (fun _ => 0) true)

private theorem fetch_step (backing : Backing) (order : GoString → Nat) (sized : Bool)
    (calling : system.calls caller = some call) (here : call.phase = .leading flight .fetch)
    (downloaded : download backing call.metadata call.checksum sized = .ok bytes) :
    step backing (.advance caller order sized) system = system.move caller call (.leading flight (.rename bytes)) := by
  simp only [step, calling, here, CacheSystem.advance, lead, downloaded]

private theorem huge_downloaded (plain : isUpper name = false) :
    download ⟨hugeObjects, hugeDigest, opens⟩ (hugeMetadata name) (toLowerHex (List.replicate 64 name)) true =
      .ok (List.replicate hugeSize name) := by
  apply download_accurate
  · rfl
  · rw [List.length_replicate]
    rfl
  · change List.replicate 64 ((List.replicate hugeSize name).headD 0) = toLowerHex (List.replicate 64 name)
    rw [List.headD_eq_head?_getD, List.head?_replicate, if_neg (by decide), toLowerHex, List.map_replicate, if_neg (by simp [plain])]
    rfl

private theorem admission_served (caller flight : Nat) (name : UInt8) (plain : isUpper name = false)
    (calling : (served hugeDigest opens ((admission caller name).take 4) system).calls caller =
      some ⟨hugeMetadata name, none, .leading flight .fetch⟩) :
    served hugeDigest opens (admission caller name) system =
      served hugeDigest opens ((admission caller name).drop 5)
        ((served hugeDigest opens ((admission caller name).take 4) system).move caller
          ⟨hugeMetadata name, none, .leading flight .fetch⟩ (.leading flight (.rename (List.replicate hugeSize name)))) := by
  rw [← fetch_step ⟨hugeObjects, hugeDigest, opens⟩ (fun _ => 0) true calling rfl (huge_downloaded plain)]
  rfl

/-- Two entries of two to the 62 bytes add up to a negative `int64`, so neither is evicted. -/
theorem cache_overflows : newCache (lit "d") (2 ^ 62) (2 ^ 62) 1 = some ⟨2 ^ 62, 2 ^ 62, 1, [], [], 0⟩ ∧
    2 ^ 62 < totalBytes (served hugeDigest (fun _ _ => true) (admission 0 48 ++ admission 1 49)
      (start ⟨2 ^ 62, 2 ^ 62, 1, [], [], 0⟩ 0)).cache.entries := by
  refine ⟨by decide +kernel, ?_⟩
  rw [served_append, admission_served 0 0 48 rfl (by decide +kernel), admission_served 1 1 49 rfl (by decide +kernel)]
  decide +kernel

end JudgingServer.Proofs
