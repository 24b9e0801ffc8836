import JudgingServer.Proofs.CacheOpens

/-! Calls that share a flight: an accurate call gets its path as long as the leader it
joins is accurate too and nobody takes away the file it waits for. -/

namespace JudgingServer.Proofs
open Go Library Library.Table Bundle CacheSystem

variable {result : Except CacheError Unit} {flight : Nat}

section

variable (backing : Backing) (cache : Cache) (system : CacheSystem)

/-- A call of `Resolve` with accurate metadata and a live context. -/
structure Deserving (caller : Nat) (call : CacheCall) : Prop where
  calling : system.calls caller = some call
  resolves : call.manifestJSON = none
  accurate : Accurate backing cache call.metadata
  live : system.cancelled caller = false

/-- The leader has checked or published the file. -/
def published : FlightStage → Bool
  | .record | .settle _ => true
  | _ => false

/-- The flight is led by an accurate call with a live context, and what it has published is kept. -/
def LedBy (flight : Nat) (checksum : GoString) (kept : Prop) : Prop :=
  ∃ leader call stage, system.calls leader = some call ∧ call.phase = .leading flight stage ∧ call.checksum = checksum ∧
    Accurate backing cache call.metadata ∧ system.cancelled leader = false ∧ (published stage = true → kept)

def Reliable (flight : Nat) (checksum : GoString) : Prop :=
  LedBy backing cache system flight checksum ((system.files checksum).isSome = true)

/-- The flight is reliable, and what its leader has published has not expired. -/
def Joinable (flight : Nat) (checksum : GoString) : Prop :=
  LedBy backing cache system flight checksum ((system.files checksum).isSome = true ∧
    ∀ entry ∈ system.cache.entries, entry.checksum = checksum → expired system.cache.ttl system.now entry = false)

/-- A deserving call still has to check the file of the digest. -/
def Awaited (checksum : GoString) : Prop :=
  ∃ caller call, Deserving backing cache system caller call ∧ call.checksum = checksum ∧
    (call.phase = .checking ∨ ∃ flight, call.phase = .waiting flight)

/-- The step lets down no deserving call: none joins an unreliable leader, no such leader
is cancelled, and no file is removed that one still has to check. -/
def Considerate : CacheEvent → Prop
  | .cancel leader => ∀ call flight stage, system.calls leader = some call → call.phase = .leading flight stage →
      ∀ caller waiting, Deserving backing cache system caller waiting → waiting.phase ≠ .waiting flight
  | .advance caller _ _ => ∀ call, system.calls caller = some call →
      match call.phase with
      | .resolving =>
        (∀ entry ∈ system.cache.entries, Awaited backing cache system entry.checksum →
          expired system.cache.ttl system.now entry = false) ∧
        (Deserving backing cache system caller call → ∀ flight ∈ system.cache.flights, flight.checksum = call.checksum →
          Joinable backing cache system flight.id call.checksum)
      | .recording | .leading _ .record => ∀ entry ∈ system.cache.entries, Awaited backing cache system entry.checksum →
          entry.checksum ≠ call.checksum → FitsWith system call.checksum call.metadata.sizeBytes entry
      | .leading flight .remove => ∀ other waiting, Deserving backing cache system other waiting → waiting.checksum = call.checksum →
          waiting.phase ≠ .checking ∧ ∀ joined, waiting.phase = .waiting joined → joined = flight
      | _ => True
  | _ => True

/-- Objects with one digest are one object. -/
def Collisionless : Prop :=
  ∀ first second left right, backing.objects first = some left → backing.objects second = some right →
    backing.digest left = backing.digest right → left = right

/-- What a deserving call can count on in each phase. -/
def ServedCall (call : CacheCall) : Prop :=
  match call.phase with
  | .waiting flight => Reliable backing cache system flight call.checksum ∨
      system.results flight = some (.ok ()) ∧ (system.files call.checksum).isSome = true
  | .checking => (system.files call.checksum).isSome = true
  | .opening => False
  | .returned result => result = .ok ()
  | _ => True

structure Served : Prop where
  calls : ∀ caller call, Deserving backing cache system caller call → ServedCall backing cache system call
  steady : ∀ leader call flight result, system.calls leader = some call → Accurate backing cache call.metadata →
    system.cancelled leader = false → call.phase = .leading flight (.settle result) → result = .ok ()

end

section Service

variable {backing : Backing} {cache : Cache} {system next : CacheSystem} {caller : Nat} {call : CacheCall} {phase : CachePhase}

private theorem verify_accurate (stocked : Stocked (Genuine backing) system) (collisionless : Collisionless backing)
    (accurate : Accurate backing cache call.metadata) (present : (system.files call.checksum).isSome = true) :
    verifyCachedFile backing system.files call.checksum call.metadata.sizeBytes = true := by
  obtain ⟨bytes, found⟩ := Option.isSome_iff_exists.mp present
  obtain ⟨digest, key, object⟩ := stocked.files _ bytes found
  obtain ⟨_, own, object', size, digest'⟩ := accurate
  obtain rfl := collisionless key _ bytes own object object' (digest.trans digest'.symm)
  simp [verifyCachedFile, found, size, digest]

/-- A call moves on. The others keep what they count on: their results and files stay,
and if the call leads a flight that they wait for, it goes on leading it or has landed. -/
theorem Served.moved (served : Served backing cache system) (led : Led system) (calling : system.calls caller = some call)
    (calls : next.calls = system.calls) (cancelled : next.cancelled = system.cancelled)
    (results : ∀ flight result, system.results flight = some result → next.results flight = some result)
    (kept : ∀ other waiting, Deserving backing cache system other waiting →
      (waiting.phase = .checking ∨ ∃ flight, waiting.phase = .waiting flight ∧ ledFlight call.phase ≠ some flight) →
      (system.files waiting.checksum).isSome = true → (next.files waiting.checksum).isSome = true)
    (leading : ∀ flight stage, call.phase = .leading flight stage → Accurate backing cache call.metadata →
      system.cancelled caller = false → (published stage = true → (system.files call.checksum).isSome = true) →
      (∃ stage', phase = .leading flight stage' ∧ (published stage' = true → (next.files call.checksum).isSome = true)) ∨
        next.results flight = some (.ok ()) ∧ (next.files call.checksum).isSome = true)
    (steady : Accurate backing cache call.metadata → system.cancelled caller = false →
      ∀ flight result, phase = .leading flight (.settle result) → result = .ok ())
    (own : Deserving backing cache system caller call → ServedCall backing cache (next.move caller call phase) { call with phase }) :
    Served backing cache (next.move caller call phase) := by
  have others : ∀ {other otherCall}, (next.move caller call phase).calls other = some otherCall →
      other = caller ∧ otherCall = { call with phase } ∨ other ≠ caller ∧ system.calls other = some otherCall := by
    intro other otherCall calling'
    rw [← calls]
    exact update_cases calling'
  have live : ∀ {other}, (next.move caller call phase).cancelled other = false → system.cancelled other = false := by
    intro other live
    rwa [← cancelled]
  refine ⟨?_, ?_⟩
  · rintro other waiting ⟨calling', resolves, accurate, live'⟩
    rcases others calling' with ⟨rfl, rfl⟩ | ⟨different, old⟩
    · exact own ⟨calling, resolves, accurate, live live'⟩
    · have deserving : Deserving backing cache system other waiting := ⟨old, resolves, accurate, live live'⟩
      have before := served.calls other waiting deserving
      unfold ServedCall at before ⊢
      split at before
      · rename_i flight here
        rcases before with ⟨leader, lead, stage, at_leader, leads, checksum, reliable, live_leader, present⟩ | ⟨landed, present⟩
        · by_cases mine : leader = caller
          · subst mine
            obtain rfl := Option.some.inj (calling.symm.trans at_leader)
            rcases leading flight stage leads reliable live_leader (checksum ▸ present) with ⟨stage', same, still⟩ | landed
            · refine .inl ⟨leader, _, stage', Function.update_self .., same, checksum, reliable, ?_, checksum ▸ still⟩
              exact (congrFun cancelled leader).trans live_leader
            · exact .inr (checksum ▸ landed)
          · have elsewhere : ledFlight call.phase ≠ some flight := fun leads' =>
              mine (led.single leader caller lead call flight at_leader calling (congrArg ledFlight leads) leads')
            refine .inl ⟨leader, lead, stage, (Function.update_of_ne mine ..).trans ?_, leads, checksum, reliable, ?_, fun done => ?_⟩
            · rwa [calls]
            · exact (congrFun cancelled leader).trans live_leader
            · exact kept other waiting deserving (.inr ⟨flight, here, elsewhere⟩) (present done)
        · have elsewhere : ledFlight call.phase ≠ some flight := by
            intro leads
            have open_ := (led.opened _ (led.leads caller call flight calling leads)).2
            rw [landed] at open_
            cases open_
          exact .inr ⟨results flight _ landed, kept other waiting deserving (.inr ⟨flight, here, elsewhere⟩) present⟩
      · rename_i here
        exact kept other waiting deserving (.inl here) before
      · exact before
      · exact before
      · exact before
  · intro leader lead flight result at_leader accurate live' leads
    rcases others at_leader with ⟨rfl, rfl⟩ | ⟨_, old⟩
    · exact steady accurate (live live') flight result leads
    · exact served.steady leader lead flight result old accurate (live live') leads

theorem Served.quiet (served : Served backing cache system) (led : Led system) (calling : system.calls caller = some call)
    (free : ledFlight call.phase = none) (still : ledFlight phase = none)
    (own : Deserving backing cache system caller call → ServedCall backing cache (system.move caller call phase) { call with phase }) :
    Served backing cache (system.move caller call phase) := by
  refine served.moved led calling rfl rfl (fun _ _ found => found) (fun _ _ _ _ present => present) ?_ ?_ own
  · intro flight stage leads
    rw [leads] at free
    cases free
  · intro _ _ flight result leads
    rw [leads] at still
    cases still

private theorem resolvedPhase_ne : resolvedPhase call result ≠ .leading flight stage := by
  intro same
  have free := resolvedPhase_free call result
  rw [same] at free
  cases free

private theorem resolvedPhase_ok (resolves : call.manifestJSON = none) : resolvedPhase call (.ok ()) = .returned (.ok ()) := by
  simp [resolvedPhase, resolves]

theorem Served.landed (served : Served backing cache system) (led : Led system)
    (deserving : Deserving backing cache system caller call) (waiting : call.phase = .waiting flight)
    (landed : system.results flight = some result) : result = .ok () ∧ (system.files call.checksum).isSome = true := by
  have here := served.calls caller call deserving
  simp only [ServedCall, waiting] at here
  rcases here with ⟨leader, lead, stage, at_leader, leads, _⟩ | ⟨same, present⟩
  · have open_ := (led.opened _ (led.leads leader lead flight at_leader (by rw [leads]; rfl))).2
    rw [landed] at open_
    cases open_
  · exact ⟨Option.some.inj (landed.symm.trans same), present⟩

theorem Served.turn (served : Served backing cache system) (sound : SoundCache backing cache system)
    (collisionless : Collisionless backing) (calling : system.calls caller = some call)
    (considerate : ∀ order sized, Considerate backing cache system (.advance caller order sized))
    (turn : CacheTurn backing system caller call next) : Served backing cache next := by
  have considerate := considerate (fun _ => 0) true call calling
  have awaited : ∀ {other waiting}, Deserving backing cache system other waiting →
      (waiting.phase = .checking ∨ ∃ flight, waiting.phase = .waiting flight ∧ ledFlight call.phase ≠ some flight) →
      Awaited backing cache system waiting.checksum := by
    rintro other waiting deserving awaits
    exact ⟨other, waiting, deserving, rfl, awaits.imp id fun ⟨flight, here, _⟩ => ⟨flight, here⟩⟩
  cases turn with
  | refused here reason =>
    refine served.quiet sound.led calling (by rw [here]; rfl) rfl fun deserving => ?_
    rcases reason with missing | invalid
    · rw [deserving.resolves] at missing
      cases missing
    · rw [sound.bounds.valid, deserving.accurate.1] at invalid
      cases invalid
  | joined here valid member same =>
    simp only [here] at considerate
    have young := considerate.1
    refine served.moved sound.led calling rfl rfl (fun _ _ found => found) ?_ ?_ ?_ ?_
    · intro other waiting deserving awaits present
      rwa [pruned_keeps fun entry member same => young entry member (same ▸ awaited deserving awaits)]
    · intro flight stage leads
      rw [here] at leads
      cases leads
    · intro _ _ flight result impossible
      cases impossible
    · intro deserving
      obtain ⟨leader, lead, stage, at_leader, leads, checksum, accurate, live, present⟩ := considerate.2 deserving _ member same
      have other : leader ≠ caller := by
        rintro rfl
        obtain rfl := Option.some.inj (calling.symm.trans at_leader)
        rw [here] at leads
        cases leads
      refine .inl ⟨leader, lead, stage, (Function.update_of_ne other ..).trans at_leader, leads, checksum, accurate, live, fun done => ?_⟩
      obtain ⟨found, fresh⟩ := present done
      exact (congrArg Option.isSome (pruned_keeps fresh)).trans found
  | launched here valid none =>
    simp only [here] at considerate
    have young := considerate.1
    refine served.moved sound.led calling rfl rfl (fun _ _ found => found) ?_ ?_ ?_ fun _ => trivial
    · intro other waiting deserving awaits present
      exact (congrArg Option.isSome (pruned_keeps fun entry member same => young entry member (same ▸ awaited deserving awaits))).trans
        present
    · intro flight stage leads
      rw [here] at leads
      cases leads
    · intro _ _ flight result impossible
      cases impossible
  | failed here result =>
    refine served.quiet sound.led calling (by rw [here]; rfl) rfl fun deserving => ?_
    cases (served.landed sound.led deserving here result).1
  | landed here result =>
    exact served.quiet sound.led calling (by rw [here]; rfl) rfl fun deserving => (served.landed sound.led deserving here result).2
  | checked here found => exact served.quiet sound.led calling (by rw [here]; rfl) rfl fun _ => trivial
  | disagreed here missed =>
    refine served.quiet sound.led calling (by rw [here]; rfl) rfl fun deserving => ?_
    have present := served.calls caller call deserving
    simp only [ServedCall, here] at present
    rw [verify_accurate sound.stocked collisionless deserving.accurate present] at missed
    cases missed
  | recorded here =>
    have fit := sound.stocked.calls caller call calling
    simp only [here] at considerate
    refine served.moved sound.led calling rfl rfl (fun _ _ found => found) ?_ ?_ ?_ fun deserving => ?_
    · intro other waiting deserving awaits present
      rwa [record_keeps sound.stocked (fit.sized here rfl).1
        fun entry member same => considerate entry member (same ▸ awaited deserving awaits)]
    · intro flight stage leads
      rw [here] at leads
      cases leads
    · exact fun _ _ flight result leads => absurd leads resolvedPhase_ne
    · rw [resolvedPhase_ok deserving.resolves]
      exact rfl
  | staged here turn =>
    refine served.moved sound.led calling rfl rfl (fun _ _ found => found) (fun _ _ _ _ present => present) ?_ ?_ fun _ => ?_
    · intro flight stage leads accurate _ _
      obtain ⟨rfl, rfl⟩ := CachePhase.leading.inj (here.symm.trans leads)
      refine .inl ⟨_, rfl, ?_⟩
      cases turn with
      | hit found =>
        intro _
        cases file : system.files call.checksum with
        | none => simp [verifyCachedFile, file] at found
        | some bytes => rfl
      | miss | fetched => intro impossible; cases impossible
      | refused failed =>
        obtain ⟨_, bytes, object, size, digest⟩ := accurate
        rw [CacheCall.checksum, download_accurate object size digest] at failed
        cases failed
    · intro accurate _ flight result leads
      cases turn with
      | hit | miss | fetched => cases leads
      | refused failed =>
        obtain ⟨_, bytes, object, size, digest⟩ := accurate
        rw [CacheCall.checksum, download_accurate object size digest] at failed
        cases failed
    · exact trivial
  | removed here =>
    simp only [here] at considerate
    refine served.moved sound.led calling rfl rfl (fun _ _ found => found) ?_ ?_ ?_ fun _ => trivial
    · intro other waiting deserving awaits present
      have different : waiting.checksum ≠ call.checksum := by
        intro same
        obtain ⟨unchecked, joined⟩ := considerate other waiting deserving same
        rcases awaits with checking | ⟨flight, waits, elsewhere⟩
        · exact unchecked checking
        · obtain rfl := joined flight waits
          exact elsewhere (by rw [here]; rfl)
      exact (congrArg Option.isSome (Function.update_of_ne different ..)).trans present
    · intro flight stage leads _ _ _
      obtain ⟨rfl, rfl⟩ := CachePhase.leading.inj (here.symm.trans leads)
      exact .inl ⟨_, rfl, fun impossible => by cases impossible⟩
    · intro _ _ flight result impossible
      cases impossible
  | renamed here =>
    refine served.moved sound.led calling rfl rfl (fun _ _ found => found) ?_ ?_ ?_ fun _ => trivial
    · intro other waiting deserving awaits present
      by_cases same : waiting.checksum = call.checksum
      · simp only [same, Function.update_self, Option.isSome_some]
      · exact (congrArg Option.isSome (Function.update_of_ne same ..)).trans present
    · intro flight stage leads _ _ _
      obtain ⟨rfl, rfl⟩ := CachePhase.leading.inj (here.symm.trans leads)
      exact .inl ⟨_, rfl, fun _ => by simp only [Function.update_self, Option.isSome_some]⟩
    · intro _ _ flight result impossible
      cases impossible
  | leaderRecorded here =>
    have fit := sound.stocked.calls caller call calling
    simp only [here] at considerate
    refine served.moved sound.led calling rfl rfl (fun _ _ found => found) ?_ ?_ ?_ fun _ => trivial
    · intro other waiting deserving awaits present
      rwa [record_keeps sound.stocked (fit.sized here rfl).1
        fun entry member same => considerate entry member (same ▸ awaited deserving awaits)]
    · intro flight stage leads _ _ present
      obtain ⟨rfl, rfl⟩ := CachePhase.leading.inj (here.symm.trans leads)
      refine .inl ⟨_, rfl, fun _ => ?_⟩
      rw [record_keeps_own]
      exact present rfl
    · intro _ _ flight result leads
      obtain ⟨_, same⟩ := CachePhase.leading.inj leads
      exact (FlightStage.settle.inj same).symm
  | settled here =>
    refine served.moved sound.led calling rfl rfl ?_ (fun _ _ _ _ present => present) ?_ ?_ fun deserving => ?_
    · intro flight result found
      refine (Function.update_of_ne ?_ ..).trans found
      rintro rfl
      have open_ := (sound.led.opened _ (sound.led.leads caller call flight calling (by rw [here]; rfl))).2
      rw [found] at open_
      cases open_
    · intro flight stage leads accurate live present
      obtain ⟨rfl, rfl⟩ := CachePhase.leading.inj (here.symm.trans leads)
      obtain rfl := served.steady caller call _ _ calling accurate live here
      exact .inr ⟨Function.update_self .., present rfl⟩
    · exact fun _ _ flight result leads => absurd leads resolvedPhase_ne
    · obtain rfl := served.steady caller call _ _ calling deserving.accurate deserving.live here
      rw [resolvedPhase_ok deserving.resolves]
      exact rfl
  | opened here =>
    refine served.quiet sound.led calling (by rw [here]; rfl) rfl fun deserving => ?_
    have impossible := served.calls caller call deserving
    simp only [ServedCall, here] at impossible

end Service
section Runs

variable {backing : Backing} {cache : Cache} {system next : CacheSystem} {caller : Nat} {call : CacheCall}

namespace Served

variable (served : Served backing cache system)
include served

theorem abort (led : Led system) (calling : system.calls caller = some call)
    (cancelled : system.cancelled caller = true) (turn : AbortTurn system caller call next) : Served backing cache next := by
  have undeserving : ¬ system.cancelled caller = false := by simp [cancelled]
  cases turn with
  | gaveUp here =>
    exact served.quiet led calling (by rw [here]; rfl) rfl fun deserving => absurd deserving.live undeserving
  | interrupted here =>
    refine served.moved led calling rfl rfl (fun _ _ found => found) (fun _ _ _ _ present => present) ?_ ?_ ?_
    · exact fun _ _ _ _ live => absurd live undeserving
    · exact fun _ live => absurd live undeserving
    · exact fun deserving => absurd deserving.live undeserving

/-- A cancelled context concerns its own call, and the calls that wait for its flight. -/
theorem cancel (spared : ∀ call flight stage, system.calls caller = some call → call.phase = .leading flight stage →
      ∀ other waiting, Deserving backing cache system other waiting → waiting.phase ≠ .waiting flight) :
    Served backing cache { system with cancelled := Function.update system.cancelled caller true } := by
  have live : ∀ {other}, Function.update system.cancelled caller true other = false →
      other ≠ caller ∧ system.cancelled other = false := by
    intro other live
    have different : other ≠ caller := by
      rintro rfl
      simp at live
    exact ⟨different, (Function.update_of_ne different ..).symm.trans live⟩
  refine ⟨?_, fun leader lead flight result calling accurate alive => served.steady leader lead flight result calling accurate (live alive).2⟩
  rintro other waiting ⟨calling, resolves, accurate, alive⟩
  have deserving : Deserving backing cache system other waiting := ⟨calling, resolves, accurate, (live alive).2⟩
  have before := served.calls other waiting deserving
  unfold ServedCall at before ⊢
  split at before
  · rename_i flight here
    refine before.imp ?_ id
    rintro ⟨leader, lead, stage, at_leader, leads, checksum, reliable, alive, present⟩
    refine ⟨leader, lead, stage, at_leader, leads, checksum, reliable, (Function.update_of_ne ?_ ..).trans alive, present⟩
    rintro rfl
    exact spared lead flight stage at_leader leads other waiting deserving here
  · exact before
  · exact before
  · exact before
  · exact before

theorem begin (unused : system.calls caller = none) :
    Served backing cache (system.move caller { metadata, manifestJSON, phase := .resolving } .resolving) := by
  refine ⟨?_, ?_⟩
  · rintro other waiting ⟨calling, resolves, accurate, live⟩
    rcases update_cases calling with ⟨rfl, rfl⟩ | ⟨_, old⟩
    · exact trivial
    · have before := served.calls other waiting ⟨old, resolves, accurate, live⟩
      unfold ServedCall at before ⊢
      split at before
      · refine before.imp ?_ id
        rintro ⟨leader, lead, stage, at_leader, leads, facts⟩
        refine ⟨leader, lead, stage, (Function.update_of_ne ?_ ..).trans at_leader, leads, facts⟩
        rintro rfl
        rw [unused] at at_leader
        cases at_leader
      · exact before
      · exact before
      · exact before
      · exact before
  · intro leader lead flight result calling accurate live leads
    rcases update_cases calling with ⟨rfl, rfl⟩ | ⟨_, old⟩
    · cases leads
    · exact served.steady leader lead flight result old accurate live leads

end Served

private theorem step_served (sound : SoundCache backing cache system) (collisionless : Collisionless backing)
    (served : Served backing cache system) (considerate : Considerate backing cache system event)
    (taken : CacheStep backing system event next) : Served backing cache next := by
  cases taken with
  | stayed => exact served
  | elapsed => exact ⟨fun caller call deserving => served.calls caller call { deserving with }, served.steady⟩
  | begun unused => exact served.begin unused
  | cancelled => exact served.cancel considerate
  | aborted cancelled calling turn => exact served.abort sound.led calling cancelled turn
  | turned calling turn => exact served.turn sound collisionless calling (fun _ _ => considerate) turn

end Runs

/-- Every deserving call that has returned has its path, and every one that waits waits for
a flight that is led or has landed. -/
def Independent (backing : Backing) (cache : Cache) (system : CacheSystem) : Prop :=
  ∀ caller call, Deserving backing cache system caller call →
    (∀ result, call.phase = .returned result → result = .ok ()) ∧
    ∀ flight, call.phase = .waiting flight → system.results flight = none →
      ∃ leader lead stage, system.calls leader = some lead ∧ lead.phase = .leading flight stage

/-- Whatever calls interleave, with whatever keys, sizes and contexts: an accurate call
of `Resolve` is served as long as no step lets it down. -/
theorem resolve_independent (backing : Backing) (collisionless : Collisionless backing) (directory : GoString)
    (maxBytes maxObjectBytes : Int) (ttl : Duration) (cache : Cache)
    (made : newCache directory maxBytes maxObjectBytes ttl = some cache) (now : Instant) (events : List CacheEvent)
    (considerate : Along (step backing) (Considerate backing cache) events (start cache now)) :
    Independent backing cache (run (step backing) events (start cache now)) := by
  have keeps : ∀ system event, SoundCache backing cache system ∧ Served backing cache system → Considerate backing cache system event →
      SoundCache backing cache (step backing event system) ∧ Served backing cache (step backing event system) :=
    fun system event holds considerate =>
      ⟨step_soundCache system event holds.1, step_served holds.1 collisionless holds.2 considerate (step_taken backing event system)⟩
  have empty : Served backing cache (start cache now) := by
    refine ⟨fun caller call deserving => ?_, fun leader call flight result calling => ?_⟩
    · cases deserving.calling
    · cases calling
  have served := (run_preserves keeps events ⟨newCache_soundCache backing made now, empty⟩ considerate).2
  intro caller call deserving
  have here := served.calls caller call deserving
  refine ⟨fun result returned => ?_, fun flight waiting unsettled => ?_⟩
  · simpa only [ServedCall, returned] using here
  · simp only [ServedCall, waiting] at here
    rcases here with ⟨leader, lead, stage, at_leader, leads, _⟩ | ⟨landed, _⟩
    · exact ⟨leader, lead, stage, at_leader, leads⟩
    · rw [unsettled] at landed
      cases landed

/-- A leader that expects two bytes of an object of one byte. -/
def misled : List CacheEvent :=
  [.call 0 { sampleMetadata (lit "a") with sizeBytes := 2 } none, .call 1 (sampleMetadata (lit "a")) none,
    .advance 0 (fun _ => 0) true, .advance 1 (fun _ => 0) true] ++ List.replicate 4 (.advance 0 (fun _ => 0) true) ++
    [.advance 1 (fun _ => 0) true]

private theorem sample_accurate {cache : Cache} (valid : cache.validateMetadata (sampleMetadata (lit "a")) = .ok ()) :
    Accurate sampleBacking cache (sampleMetadata (lit "a")) :=
  ⟨valid, lit "a", by decide, by decide, by decide +kernel⟩

/-- An accurate call that joins it gets the leader's error. -/
theorem joined_inaccurate_leader :
    newCache (lit "d") 2 2 hour = some { sampleCache 2 with maxObjectBytes := 2 } ∧
    Accurate sampleBacking { sampleCache 2 with maxObjectBytes := 2 } (sampleMetadata (lit "a")) ∧
    (run (step sampleBacking) misled (start { sampleCache 2 with maxObjectBytes := 2 } 0)).cancelled 1 = false ∧
    (run (step sampleBacking) misled (start { sampleCache 2 with maxObjectBytes := 2 } 0)).calls 1 =
      some ⟨sampleMetadata (lit "a"), none, .returned (.error .sizeMismatch)⟩ :=
  ⟨by decide +kernel, sample_accurate (by decide +kernel), by decide +kernel, by decide +kernel⟩

private theorem sample_collisionless : Collisionless sampleBacking := by
  have known : ∀ {key bytes}, sampleBacking.objects key = some bytes → bytes = lit "a" ∨ bytes = lit "b" := by
    intro key bytes found
    simp only [sampleBacking, Option.ite_none_right_eq_some, Option.some.injEq] at found
    exact found.2 ▸ found.1
  intro first second left right one two same
  rcases known one with rfl | rfl <;> rcases known two with rfl | rfl
  · rfl
  · exact absurd same (by decide +kernel)
  · exact absurd same (by decide +kernel)
  · rfl

def shared : List CacheEvent :=
  [.call 0 (sampleMetadata (lit "a")) none, .call 1 (sampleMetadata (lit "a")) none, .advance 0 (fun _ => 0) true,
    .advance 1 (fun _ => 0) true] ++ List.replicate 6 (.advance 0 (fun _ => 0) true) ++ List.replicate 3 (.advance 1 (fun _ => 0) true)

theorem shared_flight_serves : Independent sampleBacking (sampleCache 2) (run (step sampleBacking) shared (start (sampleCache 2) 0)) := by
  refine resolve_independent sampleBacking sample_collisionless (lit "d") 2 1 hour (sampleCache 2) (by decide +kernel) 0 shared ?_
  refine ⟨trivial, trivial, ?_, ?_, ?_, ?_, ?_, ?_, ?_, ?_, ?_, ?_, ?_, trivial⟩
  all_goals
    intro call calling
    obtain rfl := Option.some.inj calling
    try exact trivial
  · refine ⟨fun entry member => (by cases member), fun _ flight member => (by cases member)⟩
  · refine ⟨fun entry member => (by cases member), fun _ flight member _ => ?_⟩
    obtain rfl := List.mem_singleton.mp member
    exact ⟨0, _, .verify, rfl, rfl, rfl, sample_accurate (by decide +kernel), rfl, fun impossible => by cases impossible⟩
  · intro other waiting deserving _
    have calling := deserving.calling
    rcases update_cases calling with ⟨rfl, rfl⟩ | ⟨leader, calling⟩
    · exact ⟨by simp, fun _ impossible => by cases impossible⟩
    rcases update_cases calling with ⟨rfl, rfl⟩ | ⟨joiner, calling⟩
    · exact ⟨by simp, fun joined same => (CachePhase.waiting.inj same).symm⟩
    -- the other callers have not called
    rcases update_cases calling with ⟨rfl, _⟩ | ⟨_, calling⟩
    · exact absurd rfl leader
    rcases update_cases calling with ⟨rfl, _⟩ | ⟨_, calling⟩
    · exact absurd rfl joiner
    rcases update_cases calling with ⟨rfl, _⟩ | ⟨_, calling⟩
    · exact absurd rfl leader
    · cases calling
  · exact fun entry member => by cases member
  · intro entry member _ different
    obtain rfl := List.mem_singleton.mp member
    exact absurd rfl different

end JudgingServer.Proofs
