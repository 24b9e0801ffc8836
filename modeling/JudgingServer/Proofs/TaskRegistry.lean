import JudgingServer.Service.TaskRegistry
import JudgingServer.Library.Runs
import JudgingServer.Library.Owners

/-! Duplicate events share one execution: a key has one owner at a time, and its
result stays until a publish settled it. -/

namespace JudgingServer.Proofs
open Go Library Library.Table Callback Service TaskSystem

variable {caller : Nat} {call : TaskCall} {entry : TaskEntry} {registry : TaskRegistry}

variable {key : GoString} {history : List TaskRecord}

/-- What the history says about the result of a key. -/
inductive Standing where
  | absent
  | unpublished (result : Result)
  | published (result : Result)
deriving DecidableEq, Repr

/-- A success stands until it is published; what was published stands until it is dropped. -/
def standing : List TaskRecord → GoString → Standing
  | [], _ => .absent
  | .executed executed result :: earlier, key => if executed = key then .unpublished result else standing earlier key
  | .published published failure :: earlier, key =>
    match standing earlier key with
    | .unpublished result => if published = key ∧ final failure = true then .published result else .unpublished result
    | other => other
  | .dropped dropped :: earlier, key =>
    match standing earlier key with
    | .published result => if dropped = key then .absent else .published result
    | other => other

private theorem standing_executed (history : List TaskRecord) (key : GoString) (result : Result) :
    standing (.executed key result :: history) key = .unpublished result := by
  simp [standing]

private theorem standing_executed_ne (history : List TaskRecord) (result : Result) (different : other ≠ key) :
    standing (.executed key result :: history) other = standing history other := by
  simp [standing, different.symm]

private theorem standing_published (failure : Option PublishFailure) (stands : standing history key = .unpublished result) :
    standing (.published key failure :: history) key = if final failure then .published result else .unpublished result := by
  simp [standing, stands]

private theorem standing_published_ne (history : List TaskRecord) (failure : Option PublishFailure) (different : other ≠ key) :
    standing (.published key failure :: history) other = standing history other := by
  cases stands : standing history other <;> simp [standing, stands, different.symm]

private theorem standing_drops (entries : List TaskEntry) (history : List TaskRecord) (key : GoString) :
    standing (entries.map (fun entry => .dropped entry.key) ++ history) key =
      match standing history key with
      | .published result => if key ∈ entries.map TaskEntry.key then .absent else .published result
      | other => other := by
  induction entries with
  | nil => cases stands : standing history key <;> simp [stands]
  | cons entry rest ih =>
    simp only [List.map_cons, List.cons_append, standing, ih]
    cases standing history key with
    | absent => rfl
    | unpublished result => rfl
    | published result =>
      by_cases later : key ∈ rest.map TaskEntry.key
      · simp only [later, if_true, List.mem_cons_of_mem]
      · by_cases here : entry.key = key
        · simp only [later, here, if_false, if_true, List.mem_cons_self]
        · simp only [later, here, Ne.symm here, if_false, List.mem_cons, or_self]

def claimedEntry : TaskPhase → Option Nat
  | .executing entry | .failing entry _ | .remembering entry _ | .publishing entry _ | .finishing entry _ => some entry
  | .claiming | .waiting _ | .returned _ => none

/-- What the entry of an owner holds, and what the history says, in each phase. -/
def Accords : TaskPhase → Option Result → Standing → Prop
  | .executing _, held, stands | .failing _ _, held, stands => held = none ∧ stands = .absent
  | .remembering _ result, held, stands => held = none ∧ stands = .unpublished result
  | .publishing _ result, held, stands => held = some result ∧ stands = .unpublished result
  | .finishing _ failure, held, stands =>
    ∃ result, held = some result ∧ stands = if final failure then .published result else .unpublished result
  | _, _, _ => False

/-- The map: one entry to a key, one to an address, and room for all of them. -/
structure Shaped (limit : Nat) (registry : TaskRegistry) : Prop where
  keyed : Keyed TaskEntry.key registry.entries
  addressed : Keyed TaskEntry.address registry.entries
  allocated : ∀ entry ∈ registry.entries, entry.address < registry.allocated
  bounded : registry.entries.length ≤ limit
  capacity : registry.capacity = limit

/-- A result waits in its entry for the next call, or to be dropped. -/
def Rests (entry : TaskEntry) (stands : Standing) : Prop :=
  entry.processing = false ∧
    ∃ result, entry.result = some result ∧ stands = if entry.complete then .published result else .unpublished result

def Owns (entry : TaskEntry) (call : TaskCall) (stands : Standing) : Prop :=
  claimedEntry call.phase = some entry.address ∧ call.key = entry.key ∧ entry.processing = true ∧ entry.complete = false ∧
    Accords call.phase entry.result stands

structure Coalesced (limit : Nat) (registry : TaskRegistry) (calls : Nat → Option TaskCall) (stands : GoString → Standing) : Prop where
  shaped : Shaped limit registry
  absent : ∀ key, (∀ entry ∈ registry.entries, entry.key ≠ key) → stands key = .absent
  settled : ∀ entry ∈ registry.entries,
    Rests entry (stands entry.key) ∨ ∃ caller call, calls caller = some call ∧ Owns entry call (stands entry.key)
  owned : ∀ caller call address, calls caller = some call → claimedEntry call.phase = some address →
    ∃ entry ∈ registry.entries, entry.address = address ∧ Owns entry call (stands entry.key)
  exclusive : Exclusive (fun call => claimedEntry call.phase) calls

theorem Shaped.replaced (shaped : Shaped limit registry) (rows : Replaced entry entry' registry.entries after.entries)
    (same_key : entry'.key = entry.key) (same_address : entry'.address = entry.address)
    (capacity : after.capacity = registry.capacity) (allocated : registry.allocated ≤ after.allocated) : Shaped limit after := by
  refine ⟨rows.keyed shaped.keyed same_key, rows.keyed shaped.addressed same_address, ?_, ?_, capacity.trans shaped.capacity⟩
  · intro other member
    rcases rows.subset member with rfl | old
    · rw [same_address]
      exact (shaped.allocated entry rows.mem_left).trans_le allocated
    · exact (shaped.allocated other old).trans_le allocated
  · rw [rows.length]
    exact shaped.bounded

namespace Coalesced

variable {registry : TaskRegistry} {calls : Nat → Option TaskCall} {stands' : GoString → Standing} {caller : Nat}
  {call : TaskCall} {entry : TaskEntry}
variable (sound : Coalesced limit registry calls stands)
include sound

private theorem owner_unique {other : Nat} {otherCall : TaskCall}
    (calling : calls caller = some call) (owns : claimedEntry call.phase = some entry.address)
    (calling' : calls other = some otherCall) (owns' : claimedEntry otherCall.phase = some entry.address) :
    other = caller :=
  sound.exclusive other caller otherCall call _ calling' calling owns' owns

/-- A call works on the place of one entry, which nobody else has claimed: the entry there is
replaced, inserted or taken out. -/
theorem work (shaped : Shaped limit registry')
    (members : ∀ {other}, other ∈ registry'.entries ↔ place = some other ∨ other ∈ registry.entries ∧ other.address ≠ address)
    (before : ∀ call claimed, calls caller = some call → claimedEntry call.phase = some claimed → claimed = address)
    (alone : ∀ other otherCall, other ≠ caller → calls other = some otherCall → claimedEntry otherCall.phase ≠ some address)
    (others : ∀ entry ∈ registry.entries, entry.address ≠ address → stands' entry.key = stands entry.key)
    (absent : ∀ key, (∀ entry ∈ registry'.entries, entry.key ≠ key) → stands' key = .absent)
    (after : claimedEntry phase = none ∧ (∀ entry, place = some entry → Rests entry (stands' entry.key)) ∨ ∃ entry, place = some entry ∧ entry.address = address ∧ Owns entry { call with phase } (stands' entry.key)) :
    Coalesced limit registry' (Function.update calls caller (some { call with phase })) stands' := by
  refine ⟨shaped, absent, fun entry member => ?_, fun other otherCall claimed calling owns => ?_, ?_⟩
  · rcases members.mp member with placed | ⟨member, different⟩
    · refine after.imp (fun rests => rests.2 entry placed) fun ⟨own, here, _, owns⟩ => ?_
      obtain rfl := Option.some.inj (placed.symm.trans here)
      exact ⟨caller, _, Function.update_self .., owns⟩
    · rw [others entry member different]
      refine (sound.settled entry member).imp_right fun ⟨owner, owning, calling, owns⟩ => ⟨owner, owning, ?_, owns⟩
      rw [Function.update_of_ne]
      · exact calling
      · rintro rfl
        exact different (before owning _ calling owns.1)
  · rcases update_cases calling with ⟨rfl, rfl⟩ | ⟨apart, calling⟩
    · rcases after with ⟨none, _⟩ | ⟨entry, placed, _, own⟩
      · simp [none] at owns
      · exact ⟨entry, members.mpr (.inl placed), Option.some.inj (own.1.symm.trans owns), own⟩
    · obtain ⟨found, member, rfl, own⟩ := sound.owned other otherCall claimed calling owns
      have different : found.address ≠ address := fun here => alone other otherCall apart calling (here ▸ owns)
      refine ⟨found, members.mpr (.inr ⟨member, different⟩), rfl, ?_⟩
      rwa [others found member different]
  · refine sound.exclusive.update fun claimed claims => ?_
    rcases after with ⟨none, _⟩ | ⟨entry, _, here, own⟩
    · simp [none] at claims
    · obtain rfl := (Option.some.inj (claims.symm.trans own.1)).trans here
      exact alone

theorem unclaimed (calling : calls caller = some call) : claimedEntry call.phase ≠ some registry.allocated := by
  intro claims
  obtain ⟨entry, member, here, _⟩ := sound.owned caller call _ calling claims
  exact (sound.shaped.allocated entry member).ne here

theorem quiet (old : ∀ call, calls caller = some call → claimedEntry call.phase = none)
    (new : claimedEntry phase = none) : Coalesced limit registry (Function.update calls caller (some { call with phase })) stands := by
  have members : ∀ {other}, other ∈ registry.entries ↔ none = some other ∨
      other ∈ registry.entries ∧ other.address ≠ registry.allocated := by
    intro other
    simpa using fun member => (sound.shaped.allocated other member).ne
  refine sound.work sound.shaped members (fun call claimed calling claims => ?_) (fun _ _ _ => sound.unclaimed) (fun _ _ _ => rfl)
    sound.absent (.inl ⟨new, fun _ never => by cases never⟩)
  simp [old call calling] at claims

/-- The turn of one call on one entry: the call owns the entry before or claims a
resting one, and owns it after or leaves it resting. -/
theorem turn (calling : calls caller = some call)
    (replaced : Replaced entry entry' registry.entries registry'.entries) (same_key : entry'.key = entry.key)
    (same_address : entry'.address = entry.address) (capacity : registry'.capacity = registry.capacity)
    (allocated : registry.allocated ≤ registry'.allocated) (others : ∀ key, key ≠ entry.key → stands' key = stands key)
    (before : claimedEntry call.phase = some entry.address ∨ claimedEntry call.phase = none ∧ entry.processing = false)
    (after : claimedEntry phase = none ∧ Rests entry' (stands' entry.key) ∨ Owns entry' { call with phase } (stands' entry.key)) :
    Coalesced limit registry' (Function.update calls caller (some { call with phase })) stands' := by
  have members : ∀ {other}, other ∈ registry'.entries ↔ some entry' = some other ∨
      other ∈ registry.entries ∧ other.address ≠ entry.address := by
    intro other
    rw [Option.some.injEq, eq_comm]
    exact replaced.mem_iff sound.shaped.addressed
  refine sound.work (sound.shaped.replaced replaced same_key same_address capacity allocated) members
    (fun own claimed calling' claims => ?_) (fun other otherCall different calling' owns' => ?_)
    (fun other member different => others _ fun same => ?_) (fun key missing => ?_) ?_
  · obtain rfl := Option.some.inj (calling.symm.trans calling')
    rcases before with owns | ⟨none, _⟩
    · exact Option.some.inj (claims.symm.trans owns)
    · simp [none] at claims
  · rcases before with owns | ⟨_, idle⟩
    · exact different (sound.owner_unique calling owns calling' owns')
    · obtain ⟨found, member, address, owns⟩ := sound.owned other otherCall _ calling' owns'
      obtain rfl := sound.shaped.addressed.eq member replaced.mem_left address
      simp [Owns, idle] at owns
  · exact different (congrArg TaskEntry.address (sound.shaped.keyed.eq member replaced.mem_left same))
  · have different : key ≠ entry.key := fun same => missing entry' (members.mpr (.inl rfl)) (same_key.trans same.symm)
    rw [others key different]
    refine sound.absent key fun other member same => missing other (members.mpr (.inr ⟨member, fun here => ?_⟩)) same
    exact different (same.symm.trans (congrArg TaskEntry.key (sound.shaped.addressed.eq member replaced.mem_left here)))
  · rw [← same_key] at after
    refine after.imp (fun rests => ⟨rests.1, fun _ placed => ?_⟩) fun owns => ⟨entry', rfl, same_address, owns⟩
    exact Option.some.inj placed ▸ rests.2

private theorem shed (shaped : Shaped limit registry')
    (kept : ∀ entry ∈ registry'.entries, entry ∈ registry.entries)
    (spent : ∀ entry ∈ registry.entries, entry ∉ registry'.entries → entry.processing = false ∧ stands' entry.key = .absent)
    (others : ∀ key, (∀ entry ∈ registry.entries, entry.key = key → entry ∈ registry'.entries) → stands' key = stands key) :
    Coalesced limit registry' calls stands' := by
  have same : ∀ entry ∈ registry'.entries, stands' entry.key = stands entry.key := by
    intro entry member
    refine others _ fun other inside equal => ?_
    rwa [sound.shaped.keyed.eq inside (kept entry member) equal]
  refine ⟨shaped, ?_, ?_, ?_, sound.exclusive⟩
  · intro key missing
    by_cases old : ∃ entry ∈ registry.entries, entry.key = key
    · obtain ⟨entry, member, rfl⟩ := old
      exact (spent entry member fun inside => missing entry inside rfl).2
    · have never : ∀ entry ∈ registry.entries, entry.key ≠ key := fun entry member equal => old ⟨entry, member, equal⟩
      rw [others key fun entry member equal => absurd equal (never entry member)]
      exact sound.absent key never
  · intro entry member
    rw [same entry member]
    exact sound.settled entry (kept entry member)
  · intro caller call address calling owns
    obtain ⟨entry, member, here, owned⟩ := sound.owned caller call address calling owns
    have inside : entry ∈ registry'.entries := by
      by_contra gone
      simp [Owns, (spent entry member gone).1] at owned
    exact ⟨entry, inside, here, same entry inside ▸ owned⟩

end Coalesced

section Sections

variable {registry after : TaskRegistry} {entry : TaskEntry} {key : GoString} {now : Instant}

private theorem Shaped.find_eq (shaped : Shaped limit registry) (member : entry ∈ registry.entries) :
    registry.find entry.key = some entry := by
  cases found : registry.find entry.key with
  | none => simpa using List.find?_eq_none.mp found entry member
  | some other =>
    have same := List.find?_some found
    rw [shaped.keyed.eq (List.mem_of_find?_eq_some found) member (by simpa using same)]

private theorem find_none (missing : registry.find key = none) : ∀ entry ∈ registry.entries, entry.key ≠ key := by
  intro entry member
  simpa using List.find?_eq_none.mp missing entry member

private theorem Shaped.current_eq (shaped : Shaped limit registry) (member : entry ∈ registry.entries) :
    registry.current entry.key entry.address = true := by
  simp [TaskRegistry.current, shaped.find_eq member]

private theorem Shaped.write_replaced (shaped : Shaped limit registry) (member : entry ∈ registry.entries)
    (change : TaskEntry → TaskEntry) :
    Replaced entry (change entry) registry.entries (registry.write entry.address change).entries :=
  update_replaced shaped.addressed member (by simp) (fun other _ matched => by simpa using matched)

structure Sheds (registry kept : TaskRegistry) : Prop where
  entries : kept.entries.Sublist registry.entries
  spent : ∀ entry ∈ registry.entries, entry ∉ kept.entries → entry.complete = true ∧ entry.processing = false
  capacity : kept.capacity = registry.capacity
  allocated : kept.allocated = registry.allocated

theorem Sheds.shaped (sheds : Sheds registry kept) (shaped : Shaped limit registry) : Shaped limit kept := by
  refine ⟨shaped.keyed.sublist (sheds.entries.map _), shaped.addressed.sublist (sheds.entries.map _), ?_,
    sheds.entries.length_le.trans shaped.bounded, sheds.capacity.trans shaped.capacity⟩
  intro entry member
  rw [sheds.allocated]
  exact shaped.allocated entry (sheds.entries.subset member)

theorem Sheds.refl (registry : TaskRegistry) : Sheds registry registry :=
  ⟨List.Sublist.refl _, fun _ member gone => absurd member gone, rfl, rfl⟩

theorem Sheds.trans (first : Sheds registry middle) (second : Sheds middle kept) : Sheds registry kept := by
  refine ⟨second.entries.trans first.entries, ?_, second.capacity.trans first.capacity, second.allocated.trans first.allocated⟩
  intro entry member gone
  by_cases still : entry ∈ middle.entries
  · exact second.spent entry still gone
  · exact first.spent entry member still

private theorem delete_sheds {p : TaskEntry → Bool}
    (spent : ∀ entry ∈ registry.entries, p entry = true → entry.complete = true ∧ entry.processing = false) :
    Sheds registry { registry with entries := delete p registry.entries } := by
  refine ⟨List.filter_sublist, ?_, rfl, rfl⟩
  intro entry member gone
  apply spent entry member
  by_contra keeps
  exact gone (List.mem_filter.mpr ⟨member, by simpa using keeps⟩)

private theorem pruneCompleted_sheds (registry : TaskRegistry) (now : Instant) : Sheds registry
    (registry.pruneCompleted now) := by
  refine delete_sheds fun entry _ expired => ?_
  simp only [TaskRegistry.expired, Bool.and_eq_true, Bool.not_eq_true'] at expired
  exact expired.1

private theorem oldestCompleted_cases (entries : List TaskEntry) (oldest : GoString × Instant) :
    (TaskRegistry.oldestCompleted entries oldest).1 = oldest.1 ∨
      ∃ entry ∈ entries, entry.key = (TaskRegistry.oldestCompleted entries oldest).1 ∧
        entry.complete = true ∧ entry.processing = false := by
  induction entries generalizing oldest with
  | nil => exact .inl rfl
  | cons entry rest ih =>
    have later := fun oldest => (ih oldest).imp_right fun ⟨found, member, facts⟩ =>
      (⟨found, List.mem_cons_of_mem _ member, facts⟩ : ∃ found ∈ entry :: rest, found.key = _ ∧ found.complete = true ∧
        found.processing = false)
    unfold TaskRegistry.oldestCompleted
    split
    · exact later oldest
    · rename_i finished
      split
      · refine .inr ((later _).elim (fun same => ?_) id)
        exact ⟨entry, List.mem_cons_self .., same.symm, by simpa using finished⟩
      · exact later oldest

private theorem evictOldestCompleted_sheds (shaped : Shaped limit registry) (order : GoString → Nat) :
    Sheds registry (registry.evictOldestCompleted order) := by
  unfold TaskRegistry.evictOldestCompleted
  split
  · exact .refl registry
  · dsimp only
    split
    · rename_i found
      refine delete_sheds fun entry member matched => ?_
      rcases oldestCompleted_cases (TaskRegistry.visited order registry.entries) ([], 0) with none | ⟨oldest, inside, same, facts⟩
      · exact absurd none found
      · have oldest_member := (List.mem_insertionSort _).mp inside
        rwa [shaped.keyed.eq member oldest_member ((by simpa using matched : entry.key = _).trans same.symm)]
    · exact .refl registry

/-- A claim sheds finished entries, then works on the entry of its key or on a new one. -/
theorem claim_cases (shaped : Shaped limit registry) (key : GoString) (now : Instant) (order : GoString → Nat) :
    ∃ kept, Sheds registry kept ∧
      ((∃ entry ∈ kept.entries, entry.key = key ∧ registry.claim key now order = kept.claimExisting entry now) ∨
        (∀ entry ∈ kept.entries, entry.key ≠ key) ∧ registry.claim key now order = kept.claimNew key now) := by
  have pruned := pruneCompleted_sheds registry now
  unfold TaskRegistry.claim
  cases found : (registry.pruneCompleted now).find key with
  | some entry =>
    have same := List.find?_some found
    exact ⟨_, pruned, .inl ⟨entry, List.mem_of_find?_eq_some found, by simpa using same, by simp only [found]⟩⟩
  | none =>
    have evicted := evictOldestCompleted_sheds (pruned.shaped shaped) order
    refine ⟨_, pruned.trans evicted, .inr ⟨fun entry member => ?_, by simp only [found]⟩⟩
    exact find_none found entry (evicted.entries.subset member)

theorem Sheds.coalesced {calls : Nat → Option TaskCall} (sheds : Sheds registry kept)
    (sound : Coalesced limit registry calls (standing history))
    (addresses : ∀ entry ∈ registry.entries, (∃ other ∈ after.entries, other.address = entry.address) ↔ entry ∈ kept.entries) :
    Coalesced limit kept calls (standing (dropped registry after ++ history)) := by
  have gone : ∀ key, key ∈ (registry.entries.filter fun entry => after.entries.all fun other => other.address != entry.address).map
      TaskEntry.key ↔ ∃ entry ∈ registry.entries, entry ∉ kept.entries ∧ entry.key = key := by
    intro key
    simp only [List.mem_map, List.mem_filter, List.all_eq_true, bne_iff_ne, and_assoc]
    refine exists_congr fun entry => and_congr_right fun member => and_congr_left fun _ => ?_
    rw [← addresses entry member]
    exact ⟨fun all ⟨other, inside, same⟩ => all other inside same, fun none other inside same => none ⟨other, inside, same⟩⟩
  refine sound.shed (sheds.shaped sound.shaped) (fun _ member => sheds.entries.subset member) ?_ ?_
  · intro entry member missing
    obtain ⟨complete, idle⟩ := sheds.spent entry member missing
    refine ⟨idle, ?_⟩
    rcases sound.settled entry member with ⟨_, result, _, stands⟩ | ⟨_, _, _, owns⟩
    · simp only [complete, if_true] at stands
      simp only [dropped, standing_drops, stands, (gone _).mpr ⟨entry, member, missing, rfl⟩, if_true]
    · simp [Owns, idle] at owns
  · intro key keeps
    have never : ¬ ∃ entry ∈ registry.entries, entry ∉ kept.entries ∧ entry.key = key :=
      fun ⟨entry, member, missing, same⟩ => missing (keeps entry member same)
    simp only [dropped, standing_drops, (gone key).not.mpr never, if_false]
    cases standing history key <;> rfl

private theorem Sheds.addresses (sheds : Sheds registry kept) (shaped : Shaped limit registry)
    (same : ∀ address < registry.allocated, address ∈ after.entries.map TaskEntry.address ↔ address ∈ kept.entries.map TaskEntry.address) :
    ∀ entry ∈ registry.entries, (∃ other ∈ after.entries, other.address = entry.address) ↔ entry ∈ kept.entries := by
  intro entry member
  rw [← List.mem_map, same _ (shaped.allocated entry member), List.mem_map]
  constructor
  · rintro ⟨other, inside, equal⟩
    rwa [← shaped.addressed.eq (sheds.entries.subset inside) member equal]
  · exact fun inside => ⟨entry, inside, rfl⟩

end Sections

section Calls

variable {registry : TaskRegistry} {calls : Nat → Option TaskCall} {caller : Nat} {call : TaskCall} {entry : TaskEntry}
  {now : Instant}

private theorem write_addresses (registry : TaskRegistry) (address : Nat) {change : TaskEntry → TaskEntry}
    (same : ∀ entry, (change entry).address = entry.address) :
    (registry.write address change).entries.map TaskEntry.address = registry.entries.map TaskEntry.address :=
  map_update (fun entry _ => same entry) registry.entries

private theorem claimExisting_addresses (registry : TaskRegistry) (entry : TaskEntry) (now : Instant) :
    (registry.claimExisting entry now).2.entries.map TaskEntry.address = registry.entries.map TaskEntry.address := by
  unfold TaskRegistry.claimExisting
  split_ifs <;> exact write_addresses registry entry.address fun _ => rfl

/-- A call that finds an entry of its key waits for the owner, returns or takes the
result that is there. -/
theorem Coalesced.claimExisting (sound : Coalesced limit registry calls stands) (calling : calls caller = some call)
    (claiming : call.phase = .claiming) (member : entry ∈ registry.entries) (same : entry.key = call.key) :
    Coalesced limit (registry.claimExisting entry now).2
      (Function.update calls caller (some { call with phase := claimPhase (registry.claimExisting entry now).1 })) stands := by
  have free : claimedEntry call.phase = none := by rw [claiming]; rfl
  unfold TaskRegistry.claimExisting
  rcases sound.settled entry member with ⟨idle, result, held, stood⟩ | ⟨owner, owning, at_owner, owns⟩
  · cases complete : entry.complete with
    | true =>
      simp only [if_true]
      have rows := sound.shaped.write_replaced member fun entry => { entry with lastUsed := now }
      refine sound.turn calling rows rfl rfl rfl le_rfl (fun _ _ => rfl) (.inr ⟨free, idle⟩) ?_
      exact .inl ⟨rfl, idle, result, held, stood⟩
    | false =>
      simp only [idle, Bool.false_eq_true, if_false, held, claimPhase]
      have rows := sound.shaped.write_replaced member
        fun entry => { entry with lastUsed := now, processing := true, done := registry.allocated }
      refine sound.turn calling rows rfl rfl rfl (Nat.le_succ _) (fun _ _ => rfl) (.inr ⟨free, idle⟩) ?_
      simp only [complete, Bool.false_eq_true, if_false] at stood
      exact .inr ⟨rfl, same.symm, rfl, complete, held, stood⟩
  · obtain ⟨claimed, key, busy, incomplete, accords⟩ := owns
    simp only [incomplete, busy, Bool.false_eq_true, if_false, if_true]
    have rows := sound.shaped.write_replaced member fun entry => { entry with lastUsed := now }
    have touched := sound.turn at_owner rows rfl rfl rfl le_rfl (fun _ _ => rfl) (.inl claimed)
      (.inr ⟨claimed, key, busy, incomplete, accords⟩)
    rw [Function.update_eq_self_iff.mpr at_owner.symm] at touched
    exact touched.quiet (fun other calling' => by rw [calling] at calling'; rwa [← Option.some.inj calling']) rfl

theorem Coalesced.claimNew (sound : Coalesced limit registry calls stands) (calling : calls caller = some call)
    (claiming : call.phase = .claiming) (missing : ∀ entry ∈ registry.entries, entry.key ≠ call.key) :
    Coalesced limit (registry.claimNew call.key now).2
      (Function.update calls caller (some { call with phase := claimPhase (registry.claimNew call.key now).1 })) stands := by
  have free : claimedEntry call.phase = none := by rw [claiming]; rfl
  unfold TaskRegistry.claimNew
  split
  · exact sound.quiet (fun other calling' => by rw [calling] at calling'; rwa [← Option.some.inj calling']) rfl
  · rename_i room
    have fresh : ∀ other ∈ registry.entries, other.address ≠ registry.allocated :=
      fun other member => (sound.shaped.allocated other member).ne
    have members (entry other : TaskEntry) : other ∈ entry :: registry.entries ↔ some entry = some other ∨
        other ∈ registry.entries ∧ other.address ≠ registry.allocated := by
      rw [List.mem_cons, Option.some.injEq, eq_comm, and_iff_left_of_imp (fresh other)]
    refine sound.work ?_ (members _ _) (fun own claimed calling' claims => ?_) (fun _ _ _ => sound.unclaimed) (fun _ _ _ => rfl)
      (fun key none => sound.absent key fun other member => none other (List.mem_cons_of_mem _ member))
      (.inr ⟨_, rfl, rfl, rfl, rfl, rfl, rfl, rfl, sound.absent _ missing⟩)
    · refine ⟨List.nodup_cons.mpr ⟨?_, sound.shaped.keyed⟩, List.nodup_cons.mpr ⟨?_, sound.shaped.addressed⟩, ?_, ?_,
        sound.shaped.capacity⟩
      · simpa using missing
      · simpa using fresh
      · intro other member
        rcases List.mem_cons.mp member with rfl | member
        · exact Nat.lt_succ_self _
        · exact (sound.shaped.allocated other member).trans (Nat.lt_succ_self _)
      · simp only [List.length_cons, ← sound.shaped.capacity]
        omega
    · obtain rfl := Option.some.inj (calling.symm.trans calling')
      simp [free] at claims

theorem Coalesced.claim (sound : Coalesced limit registry calls (standing history)) (calling : calls caller = some call)
    (claiming : call.phase = .claiming) (now : Instant) (order : GoString → Nat) :
    Coalesced limit (registry.claim call.key now order).2
      (Function.update calls caller (some { call with phase := claimPhase (registry.claim call.key now order).1 }))
      (standing (dropped registry (registry.claim call.key now order).2 ++ history)) := by
  obtain ⟨kept, sheds, ⟨entry, member, same, result⟩ | ⟨missing, result⟩⟩ := claim_cases sound.shaped call.key now order
  · rw [result]
    refine Coalesced.claimExisting (sheds.coalesced sound (sheds.addresses sound.shaped fun _ _ => ?_)) calling claiming member same
    rw [claimExisting_addresses]
  · rw [result]
    refine Coalesced.claimNew (sheds.coalesced sound (sheds.addresses sound.shaped fun address old => ?_)) calling claiming missing
    unfold TaskRegistry.claimNew
    split
    · exact Iff.rfl
    · have other : address ≠ kept.allocated := by rw [sheds.allocated]; exact old.ne
      simp only [List.map_cons, List.mem_cons, other, false_or]

end Calls

/-- Every entry of the system is at rest or has one owner that the history agrees with. -/
def SoundTasks (limit : Nat) (system : TaskSystem) : Prop := Coalesced limit system.registry system.calls (standing system.history)

section Steps

variable {system : TaskSystem} {caller : Nat} {call : TaskCall}

namespace SoundTasks

variable (sound : SoundTasks limit system) (calling : system.calls caller = some call)
include sound calling

theorem owned (claims : claimedEntry call.phase = some address) :
    ∃ entry ∈ system.registry.entries, entry.address = address ∧ entry.key = call.key ∧
      system.registry.current call.key address = true ∧ Owns entry call (standing system.history entry.key) := by
  obtain ⟨entry, member, here, owns⟩ := Coalesced.owned sound caller call address calling claims
  refine ⟨entry, member, here, owns.2.1.symm, ?_, owns⟩
  rw [owns.2.1, ← here]
  exact sound.shaped.current_eq member

private theorem proceed
    (claims : claimedEntry call.phase = some address) (still : claimedEntry phase = some address)
    (others : ∀ key, key ≠ call.key → standing history key = standing system.history key)
    (accords : ∀ held, Accords call.phase held (standing system.history call.key) → Accords phase held (standing history call.key)) :
    SoundTasks limit ({ system with history }.move caller call phase) := by
  obtain ⟨entry, member, rfl, key, _, owns⟩ := sound.owned calling claims
  refine Coalesced.turn sound calling (.refl member) rfl rfl rfl le_rfl (by rwa [key]) (.inl claims) (.inr ?_)
  rw [key] at owns ⊢
  exact ⟨still, key.symm, owns.2.2.1, owns.2.2.2.1, accords _ owns.2.2.2.2⟩

theorem fail (failing : call.phase = .failing address text) (error : Option TaskError) :
    SoundTasks limit ({ system with registry := system.registry.finishExecutionFailure call.key address }.move caller call
      (.returned error)) := by
  have claims : claimedEntry call.phase = some address := by rw [failing]; rfl
  obtain ⟨entry, member, rfl, key_eq, current, owns⟩ := sound.owned calling claims
  have accords := owns.2.2.2.2
  rw [failing] at accords
  have members : ∀ {other}, other ∈ delete (fun entry => entry.key == call.key) system.registry.entries ↔
      none = some other ∨ other ∈ system.registry.entries ∧ other.address ≠ entry.address := by
    intro other
    simp only [delete, List.mem_filter, Bool.not_eq_true', beq_eq_false_iff_ne, ← key_eq, reduceCtorEq, false_or]
    refine and_congr_right fun inside => not_congr ⟨fun same => ?_, fun same => ?_⟩
    · rw [sound.shaped.keyed.eq inside member same]
    · rw [sound.shaped.addressed.eq inside member same]
  simp only [TaskRegistry.finishExecutionFailure, current, if_true]
  have sublist : (delete (fun entry => entry.key == call.key) system.registry.entries).Sublist system.registry.entries :=
    List.filter_sublist
  refine Coalesced.work sound ?_ members (fun own claimed calling' claims' => ?_)
    (fun other otherCall different calling' claims' => different (sound.owner_unique calling claims calling' claims'))
    (fun _ _ _ => rfl) (fun key missing => ?_) (.inl ⟨rfl, fun _ never => by cases never⟩)
  · exact ⟨sound.shaped.keyed.sublist (sublist.map _), sound.shaped.addressed.sublist (sublist.map _),
      fun other inside => sound.shaped.allocated other (sublist.subset inside), sublist.length_le.trans sound.shaped.bounded,
      sound.shaped.capacity⟩
  · obtain rfl := Option.some.inj (calling.symm.trans calling')
    exact Option.some.inj (claims'.symm.trans claims)
  · by_cases here : key = call.key
    · rw [here, ← key_eq]
      exact accords.2
    · refine sound.absent key fun other inside same => missing other (members.mpr (.inr ⟨inside, fun address => ?_⟩)) same
      exact here (same.symm.trans ((congrArg TaskEntry.key (sound.shaped.addressed.eq inside member address)).trans key_eq))

theorem remember (remembering : call.phase = .remembering address result) :
    SoundTasks limit ({ system with registry := system.registry.rememberResult call.key address result }.move caller call
      (.publishing address result)) := by
  have claims : claimedEntry call.phase = some address := by rw [remembering]; rfl
  obtain ⟨entry, member, rfl, key, current, owns⟩ := sound.owned calling claims
  obtain ⟨_, _, busy, incomplete, accords⟩ := owns
  rw [remembering] at accords
  have rows := sound.shaped.write_replaced member fun entry => { entry with result := some result }
  simp only [TaskRegistry.rememberResult, current, if_true]
  refine Coalesced.turn sound calling rows rfl rfl rfl le_rfl (fun _ _ => rfl) (.inl claims) ?_
  exact .inr ⟨rfl, key.symm, busy, incomplete, rfl, accords.2⟩

theorem finish {failure : Option PublishFailure}
    (finishing : call.phase = .finishing address failure) (error : Option TaskError) :
    SoundTasks limit ({ system with registry := system.registry.finishPublish call.key address (final failure) system.now }.move caller
      call (.returned error)) := by
  have claims : claimedEntry call.phase = some address := by rw [finishing]; rfl
  obtain ⟨entry, member, rfl, key, current, owns⟩ := sound.owned calling claims
  have accords := owns.2.2.2.2
  rw [finishing] at accords
  have rows := sound.shaped.write_replaced member
    fun entry => { entry with processing := false, complete := final failure, lastUsed := system.now }
  simp only [TaskRegistry.finishPublish, current, if_true]
  refine Coalesced.turn sound calling rows rfl rfl rfl le_rfl (fun _ _ => rfl) (.inl claims) ?_
  exact .inl ⟨rfl, rfl, accords⟩

theorem quiet
    (free : claimedEntry call.phase = none) (still : claimedEntry phase = none) : SoundTasks limit (system.move caller call phase) :=
  Coalesced.quiet sound (fun other calling' => by rw [calling] at calling'; rwa [← Option.some.inj calling']) still

theorem advance (event : TaskEvent) : SoundTasks limit (system.advance caller call event call.phase) := by
  obtain ⟨phase, here⟩ : ∃ phase, call.phase = phase := ⟨_, rfl⟩
  have free : claimedEntry phase = none → claimedEntry call.phase = none := by rw [here]; exact id
  have claims : ∀ {address}, claimedEntry phase = some address → claimedEntry call.phase = some address := by rw [here]; exact id
  rw [here]
  unfold TaskSystem.advance
  split
  · exact Coalesced.claim sound calling here system.now _
  · split
    · exact sound.quiet calling (free rfl) rfl
    · exact sound
  · exact sound.quiet calling (free rfl) rfl
  · refine sound.proceed calling (claims rfl) rfl (fun _ different => standing_executed_ne _ _ different) fun held accords => ?_
    rw [here] at accords
    exact ⟨accords.1, standing_executed ..⟩
  · exact sound.proceed calling (claims rfl) rfl (fun _ _ => rfl) (fun held accords => by rwa [here] at accords)
  · exact sound.fail calling here _
  · exact sound.remember calling here
  · refine sound.proceed calling (claims rfl) rfl (fun _ different => standing_published_ne _ _ different) fun held accords => ?_
    rw [here] at accords
    exact ⟨_, accords.1, standing_published _ accords.2⟩
  · exact sound.finish calling here _
  · exact sound

end SoundTasks

private theorem step_sound (system : TaskSystem) (event : TaskEvent) (sound : SoundTasks limit system) : SoundTasks limit
    (step event system) := by
  cases event with
  | elapse duration => exact sound
  | call caller key =>
    simp only [step]
    split
    · rename_i unused
      exact Coalesced.quiet sound (fun call calling => by simp [unused] at calling) rfl
    · exact sound
  | claim | wake | cancel | execute | fail | remember | publish | finish =>
    simp only [step, TaskEvent.caller?]
    split
    · exact sound
    · rename_i call calling
      exact sound.advance calling _

private theorem start_sound (capacity : Int) (ttl : Duration) (now : Instant) : SoundTasks
    (newTaskRegistry capacity ttl).capacity (start capacity ttl now) := by
  refine ⟨⟨List.nodup_nil, List.nodup_nil, ?_, Nat.zero_le _, rfl⟩, fun _ _ => rfl, ?_, ?_, ?_⟩
  · intro entry member
    cases member
  · intro entry member
    cases member
  · intro caller call address calling
    cases calling
  · intro first second left right address calling
    cases calling

private theorem run_sound (capacity : Int) (ttl : Duration) (now : Instant) (events : List TaskEvent) :
    SoundTasks (newTaskRegistry capacity ttl).capacity (run step events (start capacity ttl now)) :=
  run_invariant step_sound events (start_sound capacity ttl now)

end Steps

/-- The call is inside `execute` or `publish`. -/
def working : TaskPhase → Bool
  | .executing _ | .publishing _ _ => true
  | _ => false

private theorem working_claims (works : working phase = true) : ∃ address, claimedEntry phase = some address := by
  cases phase <;> first | exact ⟨_, rfl⟩ | cases works

section Coalescing

variable {system : TaskSystem}

namespace SoundTasks

variable (sound : SoundTasks limit system)
include sound

private theorem works (calling : system.calls caller = some call) (works : working call.phase = true) :
    ∃ entry ∈ system.registry.entries, entry.key = call.key ∧ claimedEntry call.phase = some entry.address ∧
      entry.complete = false := by
  obtain ⟨address, claims⟩ := working_claims works
  obtain ⟨entry, member, rfl, key, _, owns⟩ := sound.owned calling claims
  exact ⟨entry, member, key, claims, owns.2.2.2.1⟩

theorem alone {first second : Nat} {left right : TaskCall}
    (one : system.calls first = some left) (two : system.calls second = some right) (works : working left.phase = true)
    (works' : working right.phase = true) (same : left.key = right.key) : first = second := by
  obtain ⟨entry, member, key, claims, _⟩ := sound.works one works
  obtain ⟨other, inside, key', claims', _⟩ := sound.works two works'
  obtain rfl := sound.shaped.keyed.eq member inside (key.trans (same.trans key'.symm))
  exact sound.exclusive first second left right _ one two claims claims'

private theorem accords (calling : system.calls caller = some call) (claims : claimedEntry call.phase = some address) :
    ∃ held, Accords call.phase held (standing system.history call.key) := by
  obtain ⟨entry, _, _, key, _, owns⟩ := sound.owned calling claims
  rw [key] at owns
  exact ⟨_, owns.2.2.2.2⟩

/-- A result that waits to be published is in its entry, or its owner is about to store it. -/
theorem retains (stands : standing system.history key = .unpublished result) :
    ∃ entry ∈ system.registry.entries, entry.key = key ∧ entry.complete = false ∧
      (entry.result = some result ∨ ∃ caller, system.calls caller = some ⟨key, .remembering entry.address result⟩) := by
  have kept : ∃ entry ∈ system.registry.entries, entry.key = key := by
    by_contra missing
    have none := sound.absent key fun entry member same => missing ⟨entry, member, same⟩
    simp [stands] at none
  obtain ⟨entry, member, rfl⟩ := kept
  refine ⟨entry, member, rfl, ?_⟩
  rcases sound.settled entry member with ⟨_, held, holds, stood⟩ | ⟨caller, ⟨key, phase⟩, calling, claims, same, _, incomplete, accords⟩
  · cases complete : entry.complete with
    | true => simp [stands, complete] at stood
    | false =>
      simp only [stands, complete, Bool.false_eq_true, if_false, Standing.unpublished.injEq] at stood
      exact ⟨rfl, .inl (by rw [holds, stood])⟩
  · refine ⟨incomplete, ?_⟩
    dsimp only at same claims
    subst same
    cases phase with
    | claiming | waiting | returned => cases claims
    | executing | failing => simp [Accords, stands] at accords
    | remembering address held =>
      simp only [Accords, stands, Standing.unpublished.injEq] at accords
      obtain ⟨_, rfl⟩ := accords
      obtain rfl := Option.some.inj claims
      exact .inr ⟨caller, calling⟩
    | publishing address held =>
      simp only [Accords, stands, Standing.unpublished.injEq] at accords
      exact .inl (by rw [accords.1, accords.2])
    | finishing address failure =>
      obtain ⟨held, holds, stood⟩ := accords
      rw [stands] at stood
      split at stood
      · cases stood
      · exact .inl (by rw [holds, Standing.unpublished.inj stood])

end SoundTasks

end Coalescing

/-- Whatever calls share a registry and however they interleave: the calls of a key
execute and publish one at a time; a result that was produced is the one that is
published, and `execute` runs again only after it was published and dropped; a finished
entry keeps everyone from working; a result that is not published keeps its entry; and
the registry holds no more entries than its capacity. -/
theorem tasks_coalesce (capacity : Int) (ttl : Duration) (now : Instant) (events : List TaskEvent) :
    let system := run step events (start capacity ttl now)
    (∀ first second left right, system.calls first = some left → system.calls second = some right →
      working left.phase = true → working right.phase = true → left.key = right.key → first = second) ∧
    (∀ caller key address, system.calls caller = some ⟨key, .executing address⟩ → standing system.history key = .absent) ∧
    (∀ caller key address result, system.calls caller = some ⟨key, .publishing address result⟩ →
      standing system.history key = .unpublished result) ∧
    (∀ entry ∈ system.registry.entries, entry.complete = true →
      ∀ caller call, system.calls caller = some call → call.key = entry.key → working call.phase = false) ∧
    (∀ key result, standing system.history key = .unpublished result →
      ∃ entry ∈ system.registry.entries, entry.key = key ∧ entry.complete = false ∧
        (entry.result = some result ∨ ∃ caller, system.calls caller = some ⟨key, .remembering entry.address result⟩)) ∧
    system.registry.entries.length ≤ (newTaskRegistry capacity ttl).capacity := by
  intro system
  have sound : SoundTasks _ system := run_sound capacity ttl now events
  refine ⟨fun _ _ _ _ => sound.alone, ?_, ?_, ?_, fun _ _ => sound.retains, sound.shaped.bounded⟩
  · intro caller key address calling
    obtain ⟨held, _, none⟩ := sound.accords calling rfl
    exact none
  · intro caller key address result calling
    obtain ⟨held, _, stands⟩ := sound.accords calling rfl
    exact stands
  · intro entry member complete caller call calling same
    cases works : working call.phase with
    | false => rfl
    | true =>
      obtain ⟨other, inside, key, _, incomplete⟩ := sound.works calling works
      obtain rfl := sound.shaped.keyed.eq inside member (key.trans same)
      simp [complete] at incomplete

/-- No call is in progress. -/
def Quiet (system : TaskSystem) : Prop := ∀ caller call, system.calls caller = some call → ∃ error, call.phase = .returned error

/-- Every entry was last used longer ago than the time to live. -/
def Outlived (system : TaskSystem) : Prop :=
  ∀ entry ∈ system.registry.entries, system.registry.ttl < system.now - entry.lastUsed

/-- The entry holds a result that no publish has settled. -/
def pending (system : TaskSystem) (entry : TaskEntry) : Bool :=
  match standing system.history entry.key with
  | .unpublished _ => true
  | _ => false

section Quiescence

variable {system : TaskSystem}

theorem SoundTasks.rests (sound : SoundTasks limit system) (quiet : Quiet system) (member : entry ∈ system.registry.entries) :
    entry.processing = false ∧ pending system entry = !entry.complete := by
  rcases sound.settled entry member with ⟨idle, result, _, stands⟩ | ⟨caller, call, calling, claims, _⟩
  · refine ⟨idle, ?_⟩
    unfold pending
    rw [stands]
    cases entry.complete <;> rfl
  · obtain ⟨error, returned⟩ := quiet caller call calling
    simp [returned, claimedEntry] at claims

/-- With nothing in progress a late claim prunes everything but the pending results. -/
theorem SoundTasks.pruned (sound : SoundTasks limit system) (quiet : Quiet system) (outlived : Outlived system) :
    (system.registry.pruneCompleted system.now).entries = system.registry.entries.filter (pending system) := by
  refine List.filter_congr fun entry member => ?_
  obtain ⟨idle, pending⟩ := sound.rests quiet member
  have late : system.registry.ttl ≤ system.now - entry.lastUsed := (outlived entry member).le
  simp [TaskRegistry.expired, pending, idle, late]

/-- What is still in progress or unpublished cannot be evicted. -/
theorem evictOldestCompleted_none (none : ∀ entry ∈ registry.entries, entry.complete = false) (order : GoString → Nat) :
    registry.evictOldestCompleted order = registry := by
  unfold TaskRegistry.evictOldestCompleted
  rcases oldestCompleted_cases (TaskRegistry.visited order registry.entries) ([], 0) with same | ⟨entry, inside, _, complete, _⟩
  · simp [same]
  · have member := (List.mem_insertionSort _).mp inside
    simp [none entry member] at complete

end Quiescence

/-- In a state in which no call is in progress and every entry is older than the time to
live, a call with a new key is rejected exactly when results that no publish has settled
fill the registry. -/
theorem full_iff_pending (capacity : Int) (ttl : Duration) (now : Instant) (events : List TaskEvent) (caller : Nat)
    (key : GoString) (order : GoString → Nat) :
    let system := run step events (start capacity ttl now)
    Quiet system → Outlived system → system.calls caller = none → (∀ entry ∈ system.registry.entries, entry.key ≠ key) →
    ((run step [.call caller key, .claim caller order] system).calls caller = some ⟨key, .returned (some .full)⟩ ↔
      (newTaskRegistry capacity ttl).capacity ≤ system.registry.entries.countP (pending system)) := by
  intro system quiet outlived unused new
  have sound : SoundTasks _ system := run_sound capacity ttl now events
  have pruned := sound.pruned quiet outlived
  have missing : (system.registry.pruneCompleted system.now).find key = none := by
    refine List.find?_eq_none.mpr fun entry member => ?_
    rw [pruned] at member
    simpa using new entry (List.mem_filter.mp member).1
  have open_ : ∀ entry ∈ (system.registry.pruneCompleted system.now).entries, entry.complete = false := by
    intro entry member
    rw [pruned] at member
    obtain ⟨member, pending⟩ := List.mem_filter.mp member
    rw [(sound.rests quiet member).2] at pending
    simpa using pending
  have claims : system.registry.claim key system.now order = (system.registry.pruneCompleted system.now).claimNew key system.now := by
    simp only [TaskRegistry.claim, missing, evictOldestCompleted_none open_]
  have reached : (run step [.call caller key, .claim caller order] system).calls caller =
      some ⟨key, claimPhase (system.registry.claim key system.now order).1⟩ := by
    simp [run, step, unused, move, TaskEvent.caller?, advance]
  have room : (system.registry.pruneCompleted system.now).capacity = (newTaskRegistry capacity ttl).capacity := sound.shaped.capacity
  rw [reached, claims, List.countP_eq_length_filter, ← pruned, TaskRegistry.claimNew, room]
  split
  · rename_i full
    exact iff_of_true rfl full
  · rename_i free
    refine iff_of_false ?_ free
    simp [claimPhase]

/-- A task whose only publish failed for the moment, two hours later. -/
def strandedTask : List TaskEvent :=
  let result : Result :=
    { resultID := lit "r", submissionID := 1, attemptNo := 1, status := .accepted, exitCode := 0, timeUsedMillis := 1,
      memoryUsedKB := 1, score := none, totalScore := none, stdout := [], stderr := [], compileError := [] }
  [.call 0 (lit "a"), .claim 0 fun _ => 0, .execute 0 (.ok result), .remember 0,
    .publish 0 (some { permanent := false, text := lit "unavailable" }), .finish 0, .elapse (2 * hour).toNat]

private theorem strandedTask_quiet : Quiet (run step strandedTask (start 1 hour 0)) := by
  intro caller call calling
  by_cases same : caller = 0
  · subst same
    obtain rfl := Option.some.inj calling
    exact ⟨_, rfl⟩
  · have untouched : (run step strandedTask (start 1 hour 0)).calls caller = none := by
      iterate 6 refine (Function.update_of_ne same ..).trans ?_
      rfl
    simp [untouched] at calling

theorem pending_task_blocks_key :
    Quiet (run step strandedTask (start 1 hour 0)) ∧ Outlived (run step strandedTask (start 1 hour 0)) ∧
    (∀ entry ∈ (run step strandedTask (start 1 hour 0)).registry.entries, entry.key ≠ lit "b") ∧
    (run step (strandedTask ++ [.call 1 (lit "b"), .claim 1 fun _ => 0]) (start 1 hour 0)).calls 1 =
      some ⟨lit "b", .returned (some .full)⟩ := by
  refine ⟨strandedTask_quiet, ?_, ?_, ?_⟩
  · unfold Outlived; decide
  · decide
  · decide

theorem pending_task_fills_registry :
    (run step [.call 1 (lit "b"), .claim 1 fun _ => 0] (run step strandedTask (start 1 hour 0))).calls 1 =
        some ⟨lit "b", .returned (some .full)⟩ ↔
      (newTaskRegistry 1 hour).capacity ≤
        (run step strandedTask (start 1 hour 0)).registry.entries.countP (pending (run step strandedTask (start 1 hour 0))) :=
  full_iff_pending 1 hour 0 strandedTask 1 (lit "b") (fun _ => 0) strandedTask_quiet (by unfold Outlived; decide) (by decide) (by decide)

/-! ### Success -/

/-- A publish of the key has succeeded or was rejected for good. -/
def PublishSettled (key : GoString) (history : List TaskRecord) : Prop :=
  ∃ failure, .published key failure ∈ history ∧ final failure = true

private theorem settled_of_standing {key : GoString} (history : List TaskRecord)
    (published : standing history key = .published result) :
    PublishSettled key history := by
  induction history with
  | nil => cases published
  | cons record earlier ih =>
    unfold PublishSettled at *
    cases record <;> simp only [standing] at published <;> grind

private theorem claim_completed {registry : TaskRegistry} {now : Instant} (order : GoString → Nat)
    (returned : claimPhase (registry.claim key now order).1 = .returned none) :
    ∃ entry ∈ registry.entries, entry.key = key ∧ entry.complete = true := by
  have completed : (registry.claim key now order).1 = .completed := by
    unfold claimPhase at returned
    split at returned <;> first | assumption | cases returned
  unfold TaskRegistry.claim at completed
  simp only at completed
  split at completed
  next entry found =>
    refine ⟨entry, List.filter_sublist.subset (List.mem_of_find?_eq_some found), by simpa using List.find?_some found, ?_⟩
    unfold TaskRegistry.claimExisting at completed
    split_ifs at completed with complete
    exact complete
  next =>
    unfold TaskRegistry.claimNew at completed
    split at completed <;> cases completed

/-- Every call that has reported success was about a settled result. -/
def Acknowledged (system : TaskSystem) : Prop :=
  ∀ caller call, system.calls caller = some call → call.phase = .returned none → PublishSettled call.key system.history

section Success

variable {system next : TaskSystem} {caller : Nat} {call : TaskCall} {phase : TaskPhase}

theorem Acknowledged.moved (acknowledged : Acknowledged system) (calls : next.calls = system.calls)
    (grows : system.history <:+ next.history) (settled : phase = .returned none → PublishSettled call.key next.history) :
    Acknowledged (next.move caller call phase) := by
  intro other otherCall calling returned
  rcases update_cases calling with ⟨rfl, rfl⟩ | ⟨-, old⟩
  · exact settled returned
  · rw [calls] at old
    obtain ⟨failure, member, settles⟩ := acknowledged other otherCall old returned
    exact ⟨failure, grows.subset member, settles⟩

theorem Acknowledged.advance (acknowledged : Acknowledged system) (sound : SoundTasks limit system)
    (calling : system.calls caller = some call) (event : TaskEvent) :
    Acknowledged (system.advance caller call event call.phase) := by
  have quiet : ∀ {next : TaskSystem} {phase}, next.calls = system.calls → system.history <:+ next.history →
      phase ≠ .returned none → Acknowledged (next.move caller call phase) :=
    fun calls grows returns => acknowledged.moved calls grows fun returned => absurd returned returns
  obtain ⟨phase, here⟩ : ∃ phase, call.phase = phase := ⟨_, rfl⟩
  rw [here]
  unfold TaskSystem.advance
  split
  · rename_i order
    refine acknowledged.moved rfl (List.suffix_append _ _) fun returned => ?_
    obtain ⟨entry, member, same, complete⟩ := claim_completed order returned
    rcases sound.settled entry member with ⟨_, result, _, stands⟩ | ⟨_, _, _, owns⟩
    · rw [complete, same] at stands
      obtain ⟨failure, published, settles⟩ := settled_of_standing _ stands
      exact ⟨failure, List.mem_append_right _ published, settles⟩
    · simp [Owns, complete] at owns
  · split
    · exact quiet rfl (List.suffix_refl _) nofun
    · exact acknowledged
  · exact quiet rfl (List.suffix_refl _) nofun
  · exact quiet rfl (List.suffix_cons _ _) nofun
  · exact quiet rfl (List.suffix_refl _) nofun
  · exact quiet rfl (List.suffix_refl _) nofun
  · exact quiet rfl (List.suffix_refl _) nofun
  · exact quiet rfl (List.suffix_cons _ _) nofun
  · rename_i address failure
    refine acknowledged.moved rfl (List.suffix_refl _) fun returned => ?_
    have claims : claimedEntry call.phase = some address := by rw [here]; rfl
    obtain ⟨held, accords⟩ := sound.accords calling claims
    rw [here] at accords
    obtain ⟨result, -, stands⟩ := accords
    cases failure with
    | none => exact settled_of_standing _ stands
    | some failure => cases returned
  · exact acknowledged

private theorem step_acknowledged (acknowledged : Acknowledged system) (sound : SoundTasks limit system) (event : TaskEvent) :
    Acknowledged (step event system) := by
  cases event with
  | elapse duration => exact acknowledged
  | call caller key =>
    simp only [step]
    split
    · exact acknowledged.moved rfl (List.suffix_refl _) nofun
    · exact acknowledged
  | claim | wake | cancel | execute | fail | remember | publish | finish =>
    simp only [step, TaskEvent.caller?]
    split
    · exact acknowledged
    · rename_i call calling
      exact acknowledged.advance sound calling _

end Success

/-- `Process` reports success only for a key whose result was published or rejected for good, whichever
call has published it. -/
theorem success_acknowledges_publish (capacity : Int) (ttl : Duration) (now : Instant) (events : List TaskEvent) :
    Acknowledged (run step events (start capacity ttl now)) := by
  have keeps : ∀ system event, SoundTasks (newTaskRegistry capacity ttl).capacity system ∧ Acknowledged system →
      SoundTasks (newTaskRegistry capacity ttl).capacity (step event system) ∧ Acknowledged (step event system) :=
    fun system event holds => ⟨step_sound system event holds.1, step_acknowledged holds.2 holds.1 event⟩
  have before : Acknowledged (start capacity ttl now) := by
    intro caller call calling
    cases calling
  exact (run_invariant keeps events ⟨start_sound capacity ttl now, before⟩).2

end JudgingServer.Proofs
