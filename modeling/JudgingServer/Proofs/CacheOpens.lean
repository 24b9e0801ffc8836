import JudgingServer.Proofs.CacheFiles

/-! Opening bundles through the cache: a call opens its archive unless its file was
evicted or had expired in between. -/

namespace JudgingServer.Proofs
open Go Library Library.Table Bundle CacheSystem

section

variable (backing : Backing)

/-- The call asks for an object that is there, with its manifest. -/
structure Proper (cache : Cache) (metadata : Metadata) (manifestJSON : Option GoString) : Prop where
  valid : cache.validateMetadata metadata = .ok ()
  named : manifestJSON.getD [] ≠ []
  object : ∃ bytes, backing.objects metadata.objectKey = some bytes ∧ (bytes.length : Int) = metadata.sizeBytes ∧
    backing.digest bytes = toLowerHex metadata.sha256 ∧ backing.opens bytes (manifestJSON.getD []) = true

/-- Calls of `OpenMetadata` for different digests, each with correct metadata and a valid
archive, and none of them cancelled. -/
def OpenCalls (cache : Cache) (system : CacheSystem) : CacheEvent → Prop
  | .call _ metadata manifestJSON => Proper backing cache metadata manifestJSON ∧
      ∀ caller call, system.calls caller = some call → call.checksum ≠ toLowerHex metadata.sha256
  | .cancel _ => False
  | _ => True

variable (system : CacheSystem)

/-- A call for the digest has not returned. -/
def Unfinished (checksum : GoString) : Prop :=
  ∃ caller call, system.calls caller = some call ∧ call.checksum = checksum ∧ ∀ result, call.phase ≠ .returned result

/-- The step removes no file that a call still has to open. -/
def SparesUnopened : CacheEvent → Prop
  | .advance caller _ _ => ∀ call, system.calls caller = some call →
      match call.phase with
      | .resolving => ∀ entry ∈ system.cache.entries, Unfinished system entry.checksum →
          expired system.cache.ttl system.now entry = false
      | .leading _ .record => ∀ entry ∈ system.cache.entries, Unfinished system entry.checksum → entry.checksum ≠ call.checksum →
          FitsWith system call.checksum call.metadata.sizeBytes entry
      | _ => True
  | _ => True

def Holds (call : CacheCall) : Prop :=
  ∃ bytes, system.files call.checksum = some bytes ∧ backing.objects call.metadata.objectKey = some bytes

def OnTrack (call : CacheCall) : Prop :=
  match call.phase with
  | .resolving | .leading _ .verify | .leading _ .remove | .leading _ .fetch => system.files call.checksum = none
  | .leading _ (.rename bytes) => backing.objects call.metadata.objectKey = some bytes ∧ system.files call.checksum = none
  | .leading _ .record | .opening => Holds backing system call
  | .leading _ (.settle result) => result = .ok () ∧ Holds backing system call
  | .returned result => result = .ok ()
  | .waiting _ | .checking | .recording => False

structure OpensWell (cache : Cache) (system : CacheSystem) : Prop where
  proper : ∀ caller call, system.calls caller = some call → Proper backing cache call.metadata call.manifestJSON
  live : ∀ caller, system.cancelled caller = false
  distinct : ∀ first second left right, system.calls first = some left → system.calls second = some right →
    left.checksum = right.checksum → first = second
  origin : ∀ checksum bytes, system.files checksum = some bytes → ∃ caller call, system.calls caller = some call ∧ call.checksum = checksum
  onTrack : ∀ caller call, system.calls caller = some call → OnTrack backing system call

end

section Opens

variable {backing : Backing} {cache : Cache} {system next : CacheSystem} {caller : Nat} {call : CacheCall} {phase : CachePhase}

private theorem OnTrack.of_files (onTrack : OnTrack backing system call)
    (same : next.files call.checksum = system.files call.checksum) :
    OnTrack backing next call := by
  unfold OnTrack Holds at *
  rwa [same]

namespace OpensWell

variable (well : OpensWell backing cache system)
include well

theorem moved (calling : system.calls caller = some call)
    (calls : next.calls = system.calls) (cancelled : next.cancelled = system.cancelled)
    (shrinks : ∀ checksum bytes, checksum ≠ call.checksum → next.files checksum = some bytes → system.files checksum = some bytes)
    (stays : ∀ checksum, checksum ≠ call.checksum → Unfinished system checksum → next.files checksum = system.files checksum)
    (onTrack : OnTrack backing (next.move caller call phase) { call with phase }) :
    OpensWell backing cache (next.move caller call phase) := by
  have others : ∀ {other otherCall}, (next.move caller call phase).calls other = some otherCall →
      other = caller ∧ otherCall = { call with phase } ∨ other ≠ caller ∧ system.calls other = some otherCall := by
    intro other otherCall calling'
    rw [← calls]
    exact update_cases calling'
  have again : (next.move caller call phase).calls caller = some { call with phase } := Function.update_self ..
  refine ⟨?_, ?_, ?_, ?_, ?_⟩
  · intro other otherCall calling'
    rcases others calling' with ⟨rfl, rfl⟩ | ⟨_, old⟩
    · exact well.proper other call calling
    · exact well.proper other otherCall old
  · intro other
    exact (congrFun cancelled other).trans (well.live other)
  · intro first second left right one two same
    rcases others one with ⟨rfl, rfl⟩ | ⟨_, old⟩ <;> rcases others two with ⟨rfl, rfl⟩ | ⟨_, old'⟩
    · rfl
    · exact well.distinct first second call right calling old' same
    · exact well.distinct first second left call old calling same
    · exact well.distinct first second left right old old' same
  · intro checksum bytes found
    by_cases own : checksum = call.checksum
    · exact ⟨caller, _, again, own.symm⟩
    · obtain ⟨other, otherCall, old, same⟩ := well.origin checksum bytes (shrinks checksum bytes own found)
      have different : other ≠ caller := by
        rintro rfl
        obtain rfl := Option.some.inj (calling.symm.trans old)
        exact own same.symm
      refine ⟨other, otherCall, (Function.update_of_ne different ..).trans ?_, same⟩
      rwa [calls]
  · intro other otherCall calling'
    rcases others calling' with ⟨rfl, rfl⟩ | ⟨different, old⟩
    · exact onTrack
    · have apart : otherCall.checksum ≠ call.checksum := fun same => different (well.distinct other caller otherCall call old calling same)
      have before := well.onTrack other otherCall old
      by_cases finished : ∃ result, otherCall.phase = .returned result
      · obtain ⟨result, here⟩ := finished
        simpa only [OnTrack, here] using before
      · exact before.of_files (stays _ apart ⟨other, otherCall, old, rfl, fun result here => finished ⟨result, here⟩⟩)

theorem quiet (calling : system.calls caller = some call)
    (onTrack : OnTrack backing (system.move caller call phase) { call with phase }) :
    OpensWell backing cache (system.move caller call phase) :=
  well.moved calling rfl rfl (fun _ _ _ found => found) (fun _ _ _ => rfl) onTrack

/-- The flight of a digest is led by its own call, so nobody joins one. -/
theorem alone (led : Led system) (calling : system.calls caller = some call)
    (free : ledFlight call.phase = none) : ∀ flight ∈ system.cache.flights, flight.checksum ≠ call.checksum := by
  intro flight member same
  obtain ⟨leader, leading, calling', checksum, leads⟩ := led.led flight member
  obtain rfl := well.distinct leader caller leading call calling' calling (checksum.trans same)
  obtain rfl := Option.some.inj (calling.symm.trans calling')
  rw [free] at leads
  cases leads

theorem turn (sound : SoundCache backing cache system)
    (calling : system.calls caller = some call)
    (spares : ∀ order sized, SparesUnopened system (.advance caller order sized))
    (turn : CacheTurn backing system caller call next) : OpensWell backing cache next := by
  have onTrack := well.onTrack caller call calling
  have proper := well.proper caller call calling
  have spares := spares (fun _ => 0) true call calling
  unfold OnTrack at onTrack
  cases turn with
  | refused here reason =>
    rcases reason with missing | invalid
    · exact absurd (by simp [missing]) proper.named
    · rw [sound.bounds.valid, proper.valid] at invalid
      cases invalid
  | joined here valid member same => exact absurd same (well.alone sound.led calling (by rw [here]; rfl) _ member)
  | launched here valid none =>
    simp only [here] at onTrack spares
    refine well.moved calling rfl rfl (fun _ _ _ found => without_some found) (fun checksum _ unfinished => ?_) ?_
    · exact pruned_keeps fun entry member same => spares entry member (same ▸ unfinished)
    · cases found : system.pruneExpiredLocked.files call.checksum with
      | none => exact found
      | some bytes => rw [without_some found] at onTrack; cases onTrack
  | failed here | landed here | checked here | disagreed here | recorded here => simp only [here] at onTrack
  | staged here turn =>
    simp only [here] at onTrack
    cases turn with
    | hit found => simp [verifyCachedFile, onTrack] at found
    | miss => exact well.quiet calling onTrack
    | fetched downloaded =>
      obtain ⟨bytes, object, size, digest, _⟩ := proper.object
      rw [CacheCall.checksum, download_accurate object size digest] at downloaded
      obtain rfl := Except.ok.inj downloaded
      exact well.quiet calling ⟨object, onTrack⟩
    | refused failed =>
      obtain ⟨bytes, object, size, digest, _⟩ := proper.object
      rw [CacheCall.checksum, download_accurate object size digest] at failed
      cases failed
  | removed here =>
    refine well.moved calling rfl rfl (fun checksum bytes different found => ?_) (fun checksum different _ => ?_) (Function.update_self ..)
    · exact (Function.update_of_ne different ..).symm.trans found
    · exact Function.update_of_ne different ..
  | renamed here =>
    simp only [here] at onTrack
    refine well.moved calling rfl rfl (fun checksum bytes different found => ?_) (fun checksum different _ => ?_)
      ⟨_, Function.update_self .., onTrack.1⟩
    · exact (Function.update_of_ne different ..).symm.trans found
    · exact Function.update_of_ne different ..
  | leaderRecorded here =>
    have fit := sound.stocked.calls caller call calling
    simp only [here] at onTrack spares
    refine well.moved calling rfl rfl (fun _ _ _ found => without_some found) (fun checksum _ unfinished => ?_) ⟨rfl, ?_⟩
    · exact record_keeps sound.stocked (fit.sized here rfl).1
        fun entry member same => spares entry member (same ▸ unfinished)
    · obtain ⟨bytes, found, object⟩ := onTrack
      exact ⟨bytes, record_keeps_own.trans found, object⟩
  | settled here =>
    simp only [here] at onTrack
    obtain ⟨rfl, holds⟩ := onTrack
    have opening : resolvedPhase call (.ok ()) = .opening := by
      cases manifest : call.manifestJSON with
      | none => exact absurd (by simp [manifest]) proper.named
      | some text => simp [resolvedPhase, manifest]
    rw [opening]
    exact well.moved calling rfl rfl (fun _ _ _ found => found) (fun _ _ _ => rfl) holds
  | opened here =>
    simp only [here] at onTrack
    obtain ⟨bytes, found, object⟩ := onTrack
    obtain ⟨_, same, _, _, opens⟩ := proper.object
    obtain rfl := Option.some.inj (object.symm.trans same)
    refine well.quiet calling ?_
    simp [OnTrack, openArchive, found, opens]

theorem begin (unused : system.calls caller = none)
    (proper : Proper backing cache metadata manifestJSON)
    (new : ∀ caller call, system.calls caller = some call → call.checksum ≠ toLowerHex metadata.sha256) :
    OpensWell backing cache (system.move caller { metadata, manifestJSON, phase := .resolving } .resolving) := by
  have missing : system.files (toLowerHex metadata.sha256) = none := by
    cases found : system.files (toLowerHex metadata.sha256) with
    | none => rfl
    | some bytes =>
      obtain ⟨other, call, calling, same⟩ := well.origin _ bytes found
      exact absurd same (new other call calling)
  refine ⟨?_, well.live, ?_, ?_, ?_⟩
  · intro other call calling
    rcases update_cases calling with ⟨rfl, rfl⟩ | ⟨_, old⟩
    · exact proper
    · exact well.proper other call old
  · intro first second left right one two same
    rcases update_cases one with ⟨rfl, rfl⟩ | ⟨_, old⟩ <;> rcases update_cases two with ⟨rfl, rfl⟩ | ⟨_, old'⟩
    · rfl
    · exact absurd same.symm (new second right old')
    · exact absurd same (new first left old)
    · exact well.distinct first second left right old old' same
  · intro checksum bytes found
    obtain ⟨other, call, calling, same⟩ := well.origin checksum bytes found
    refine ⟨other, call, (Function.update_of_ne ?_ ..).trans calling, same⟩
    rintro rfl
    rw [unused] at calling
    cases calling
  · intro other call calling
    rcases update_cases calling with ⟨rfl, rfl⟩ | ⟨_, old⟩
    · exact missing
    · exact well.onTrack other call old

end OpensWell

private theorem step_opensWell (sound : SoundCache backing cache system) (well : OpensWell backing cache system)
    (calls : OpenCalls backing cache system event) (spares : SparesUnopened system event)
    (taken : CacheStep backing system event next) : OpensWell backing cache next := by
  cases taken with
  | stayed => exact well
  | elapsed => exact { well with }
  | begun unused => exact well.begin unused calls.1 calls.2
  | cancelled => exact calls.elim
  | aborted cancelled =>
    rw [well.live] at cancelled
    cases cancelled
  | turned calling turn => exact well.turn sound calling (fun _ _ => spares) turn

end Opens

def NoErrors (system : CacheSystem) : Prop :=
  ∀ caller call result, system.calls caller = some call → call.phase = .returned result → result = .ok ()

/-- Whatever calls for different digests interleave, none of them returns an error as long
as no step removes a file that a call still has to open. -/
theorem openMetadata_succeeds (backing : Backing) (directory : GoString) (maxBytes maxObjectBytes : Int) (ttl : Duration) (cache : Cache)
    (made : newCache directory maxBytes maxObjectBytes ttl = some cache) (now : Instant) (events : List CacheEvent)
    (calls : Along (step backing) (OpenCalls backing cache) events (start cache now))
    (spares : Along (step backing) SparesUnopened events (start cache now)) :
    NoErrors (run (step backing) events (start cache now)) := by
  have keeps : ∀ system event, SoundCache backing cache system ∧ OpensWell backing cache system →
      OpenCalls backing cache system event ∧ SparesUnopened system event →
      SoundCache backing cache (step backing event system) ∧ OpensWell backing cache (step backing event system) :=
    fun system event holds allowed =>
      ⟨step_soundCache system event holds.1, step_opensWell holds.1 holds.2 allowed.1 allowed.2 (step_taken backing event system)⟩
  have empty : OpensWell backing cache (start cache now) := by
    refine ⟨?_, ?_, ?_, ?_, ?_⟩ <;> simp [start]
  have holds := run_preserves keeps events ⟨newCache_soundCache backing made now, empty⟩ (along_and calls spares)
  intro caller call result calling returned
  have onTrack := holds.2.onTrack caller call calling
  simpa only [OnTrack, returned] using onTrack

def sampleBacking : Backing where
  objects := fun key => if key = lit "a" ∨ key = lit "b" then some key else none
  digest := fun bytes => (List.replicate 64 bytes).flatten
  opens := fun _ _ => true

def sampleMetadata (key : GoString) : Metadata := { objectKey := key, sha256 := (List.replicate 64 key).flatten, sizeBytes := 1 }

def sampleCache (maxBytes : Int) : Cache :=
  { maxBytes, maxObjectBytes := 1, ttl := hour, entries := [], flights := [], launched := 0 }

def sampleOpen (caller : Nat) (key : GoString) : CacheEvent := .call caller (sampleMetadata key) (some (lit "m"))

def downloads (caller : Nat) : List CacheEvent := List.replicate 7 (.advance caller (fun _ => 0) true)

private theorem sample_proper {cache : Cache} {key : GoString} (known : key = lit "a" ∨ key = lit "b")
    (valid : cache.validateMetadata (sampleMetadata key) = .ok ()) : Proper sampleBacking cache (sampleMetadata key) (some (lit "m")) := by
  refine ⟨valid, by decide, key, by simp [sampleBacking, sampleMetadata, known], ?_, ?_, rfl⟩
  · rcases known with rfl | rfl <;> decide
  · rcases known with rfl | rfl <;> decide +kernel

/-- A cache of one byte: the second call evicts the file of the first before it is opened. -/
theorem evicted_before_open :
    newCache (lit "d") 1 1 hour = some (sampleCache 1) ∧
    Along (step sampleBacking) (OpenCalls sampleBacking (sampleCache 1))
      (sampleOpen 0 (lit "a") :: sampleOpen 1 (lit "b") :: downloads 0 ++ downloads 1 ++ [.advance 0 (fun _ => 0) true])
      (start (sampleCache 1) 0) ∧
    (run (step sampleBacking)
      (sampleOpen 0 (lit "a") :: sampleOpen 1 (lit "b") :: downloads 0 ++ downloads 1 ++ [.advance 0 (fun _ => 0) true])
      (start (sampleCache 1) 0)).calls 0 = some ⟨sampleMetadata (lit "a"), some (lit "m"), .returned (.error .archive)⟩ ∧
    CacheError.archive.isInvalid = true := by
  refine ⟨by decide +kernel, ⟨⟨sample_proper (.inl rfl) (by decide +kernel), ?_⟩, ⟨sample_proper (.inr rfl) (by decide +kernel), ?_⟩, ?_⟩, ?_, rfl⟩
  · intro caller call calling
    cases calling
  · intro caller call calling
    rcases update_cases calling with ⟨rfl, rfl⟩ | ⟨_, old⟩
    · decide +kernel
    · cases old
  · simp [Along, OpenCalls, downloads, List.replicate]
  · decide +kernel

/-- A cache of two bytes keeps both files until they are opened. -/
theorem opened_side_by_side :
    NoErrors (run (step sampleBacking)
      (sampleOpen 0 (lit "a") :: sampleOpen 1 (lit "b") :: downloads 0 ++ downloads 1 ++ [.advance 0 (fun _ => 0) true])
      (start (sampleCache 2) 0)) := by
  refine openMetadata_succeeds sampleBacking (lit "d") 2 1 hour (sampleCache 2) (by decide +kernel) 0 _ ?_ ?_
  · refine ⟨⟨sample_proper (.inl rfl) (by decide +kernel), ?_⟩, ⟨sample_proper (.inr rfl) (by decide +kernel), ?_⟩, ?_⟩
    · intro caller call calling
      cases calling
    · intro caller call calling
      rcases update_cases calling with ⟨rfl, rfl⟩ | ⟨_, old⟩
      · decide +kernel
      · cases old
    · simp [Along, OpenCalls, downloads, List.replicate]
  · refine ⟨trivial, trivial, ?_, ?_, ?_, ?_, ?_, ?_, ?_, ?_, ?_, ?_, ?_, ?_, ?_, ?_, ?_, trivial⟩
    all_goals
      intro call calling
      obtain rfl := Option.some.inj calling
      try exact trivial
    · intro entry member
      cases member
    · intro entry member
      cases member
    · intro entry member unfinished
      clear unfinished
      revert entry
      decide +kernel
    · intro entry member unfinished different
      clear unfinished different
      revert entry
      unfold FitsWith
      decide +kernel

/-- Whatever calls interleave, fail or are cancelled, every file of the directory is an object of
the store under its own digest, and no two calls download one digest at a time. -/
theorem cache_directory_genuine (backing : Backing) {cache : Cache}
    (made : newCache directory maxBytes maxObjectBytes ttl = some cache) (now : Instant) (events : List CacheEvent) :
    (∀ checksum bytes, (run (step backing) events (start cache now)).files checksum = some bytes →
      Genuine backing checksum bytes) ∧
    ∀ first second left right, (run (step backing) events (start cache now)).calls first = some left →
      (run (step backing) events (start cache now)).calls second = some right → (ledFlight left.phase).isSome →
      (ledFlight right.phase).isSome → left.checksum = right.checksum → first = second := by
  have sound : SoundCache backing cache (run (step backing) events (start cache now)) :=
    run_invariant step_soundCache events (newCache_soundCache backing made now)
  refine ⟨sound.stocked.files, fun first second left right one two leads leads' same => ?_⟩
  obtain ⟨id, flying⟩ := Option.isSome_iff_exists.mp leads
  obtain ⟨other, flying'⟩ := Option.isSome_iff_exists.mp leads'
  have shared :=
    sound.led.keyed.eq (sound.led.leads first left id one flying) (sound.led.leads second right other two flying') same
  obtain rfl : id = other := congrArg CacheFlight.id shared
  exact sound.led.single first second left right id one two flying flying'

theorem cache_directory_genuine_sample : Genuine sampleBacking (sampleMetadata (lit "a")).sha256 (lit "a") :=
  have made : newCache (lit "d") 1 1 hour = some (sampleCache 1) := rfl
  (cache_directory_genuine sampleBacking made 0 (sampleOpen 0 (lit "a") :: downloads 0)).1 _ _ (by decide +kernel)

end JudgingServer.Proofs
