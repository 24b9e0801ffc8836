import JudgingServer.Library.Paging
import JudgingServer.Proofs.Cursors
import JudgingServer.Proofs.LeaseFencing
import JudgingServer.Proofs.TenantRows

/-! The pages of the job list. A client follows the cursors while jobs come, go and change
their status; the list is paged by creation time and id, which a job keeps. -/

namespace JudgingServer.Proofs
open Go Library Library.Paging External Table

/-- Pages of a list, each read from the database of its time, from a cursor on to a page
without one. -/
inductive JobWalk (codec : JobCursorCodec) (tenantExternalID : GoString) (limit : Int) (status : GoString) :
    GoString → List Db → List JobListResult → Prop
  | last {cursor : GoString} (listed : External.list codec tenantExternalID ⟨cursor, limit, status⟩ db = .ok page)
      (ends : page.nextCursor = []) :
      JobWalk codec tenantExternalID limit status cursor [db] [page]
  | more {cursor : GoString} (listed : External.list codec tenantExternalID ⟨cursor, limit, status⟩ db = .ok page)
      (goes : page.nextCursor ≠ []) (rest : JobWalk codec tenantExternalID limit status page.nextCursor dbs pages) :
      JobWalk codec tenantExternalID limit status cursor (db :: dbs) (page :: pages)

def recordOrder (record : ExternalJobRecord) : Nat ×ₗ Nat := toLex (record.createdAt, record.internalID)

/-- The cursor text stands for the place in the list. -/
def CursorAt (codec : JobCursorCodec) (tenantExternalID status : GoString) (after : Option (Nat ×ₗ Nat)) (cursor : GoString) :
    Prop :=
  match after with
  | none => cursor = []
  | some key => codec.encode ⟨tenantExternalID, status, Time.instant (ofLex key).1, (ofLex key).2⟩ = some cursor

/-- The row belongs to the tenant and passes the status filter. -/
def Matches (tenantExternalID status : GoString) (row : ExternalJobRow) : Prop :=
  row.tenant.externalID = tenantExternalID ∧ (status = [] ∨ row.job.status.text = status)

def listedPlaces (tenantExternalID status : GoString) (db : Db) : Set (Nat ×ₗ Nat) :=
  {key | ∃ row ∈ externalJobSelect db, Matches tenantExternalID status row ∧ jobListOrder row = key}

variable {codec : JobCursorCodec} {cursor : GoString} {query : JobListQuery}

/-! ### One page -/

private theorem instant_lt (left right : Nat) : Time.instant left < Time.instant right ↔ left < right := by
  have scaled : (left : Int) * 1000000 < (right : Int) * 1000000 ↔ left < right := by omega
  exact scaled

private theorem instant_eq (left right : Nat) : Time.instant left = Time.instant right ↔ left = right := by
  have scaled : (left : Int) * 1000000 = (right : Int) * 1000000 ↔ left = right := by omega
  exact scaled

private theorem precedes_iff :
    JobCursor.precedes ⟨tenantExternalID, status, Time.instant (ofLex key).1, (ofLex key).2⟩ row.job = true ↔
      jobListOrder row < key := by
  have place : jobListOrder row < key ↔ _ := @Prod.Lex.toLex_lt_toLex Nat Nat _ _ (row.job.createdAt, row.job.id) (ofLex key)
  rw [place, JobCursor.precedes, decide_eq_true_iff, instant_lt, instant_eq]

private theorem selects_iff : query.selects row = true ↔
    Matches query.tenantExternalID query.status row ∧ ∀ cursor ∈ query.after, cursor.precedes row.job = true := by
  cases after : query.after <;> simp [JobListQuery.selects, Matches, and_assoc, after]

private theorem encode_nonempty (encoded : codec.encode place = some cursor) : cursor ≠ [] := by
  unfold JobCursorCodec.encode at encoded
  split at encoded
  · cases encoded
  · intro empty
    rw [empty] at encoded
    have nothing := List.append_eq_nil_iff.mp (List.append_eq_nil_iff.mp (Option.some.inj encoded)).1
    exact absurd nothing.2 (by decide)

private theorem listQuery_after (place : CursorAt codec tenantExternalID status after cursor)
    (queried : listQuery codec tenantExternalID ⟨cursor, limit, status⟩ = .ok query) :
    query.tenantExternalID = tenantExternalID ∧ query.status = status ∧ 0 < query.limit ∧
      ∀ row : ExternalJobRow,
        query.selects row = true ↔ Matches tenantExternalID status row ∧ Below after (jobListOrder row) := by
  unfold listQuery at queried
  split at queried
  · cases queried
  next accepted =>
    have positive : 0 < limit.toNat := by
      simp only [not_or] at accepted
      omega
    cases after with
    | none =>
      obtain rfl : cursor = [] := place
      rw [if_pos rfl] at queried
      obtain rfl := Except.ok.inj queried
      refine ⟨rfl, rfl, positive, fun row => ?_⟩
      simp [selects_iff, Below]
    | some key =>
      rw [if_neg (encode_nonempty place)] at queried
      have placed : codec.encode ⟨tenantExternalID, status, Time.instant (ofLex key).1, (ofLex key).2⟩ = some cursor := place
      cases decoded : codec.decode cursor tenantExternalID status with
      | none =>
        rw [decoded] at queried
        cases queried
      | some found =>
        rw [decoded] at queried
        obtain rfl := Except.ok.inj queried
        obtain rfl := decode_encode_some placed (instant_whole _) decoded
        refine ⟨rfl, rfl, positive, fun row => ?_⟩
        rw [selects_iff]
        refine and_congr_right fun _ => ⟨fun all bound inside => ?_, fun below other inside => ?_⟩
        · obtain rfl := Option.some.inj inside
          exact precedes_iff.mp (all _ rfl)
        · obtain rfl := Option.some.inj inside
          exact precedes_iff.mpr (below key rfl)

private def sortedRows (query : JobListQuery) (db : Db) : List ExternalJobRow :=
  ((externalJobSelect db).filter query.selects).insertionSort fun left right => jobListOrder right ≤ jobListOrder left

private theorem sortedRows_descending (ids : Keyed JobRow.id db.jobs) : ((sortedRows query db).map jobListOrder).Pairwise
    (· > ·) := by
  let order : ExternalJobRow → ExternalJobRow → Prop := fun left right => jobListOrder right ≤ jobListOrder left
  have total : Std.Total order := ⟨fun left right => le_total (jobListOrder right) (jobListOrder left)⟩
  have transitive : IsTrans ExternalJobRow order := ⟨fun _ _ _ first second => le_trans second first⟩
  have selected : (((externalJobSelect db).filter query.selects).map fun row => row.job.id).Nodup :=
    List.Nodup.sublist (List.filter_sublist.map _) (externalJobSelect_keyed ids)
  have distinct : ((sortedRows query db).map fun row => row.job.id).Nodup :=
    ((List.perm_insertionSort order _).map _).nodup_iff.mpr selected
  rw [List.pairwise_map]
  refine (List.pairwise_insertionSort order _).imp₂ ?_ (List.pairwise_map.mp distinct)
  intro left right below other
  refine lt_of_le_of_ne below fun same => other ?_
  exact congrArg (fun key => (ofLex key).2) same.symm

private theorem scanExternalJob_order (scanned : scanExternalJob row = .ok record) : recordOrder record = jobListOrder row := by
  unfold scanExternalJob at scanned
  split_ifs at scanned
  obtain rfl := Except.ok.inj scanned
  rfl

/-- A page holds the first jobs; where more were found, its cursor stands for the last of them. -/
theorem page_ok (positive : 0 < query.limit) (paged : query.page codec jobs = .ok page) :
    page.jobs = jobs.take query.limit ∧
      CursorAt codec query.tenantExternalID query.status
        (if query.limit < jobs.length then ((jobs.take query.limit).map recordOrder).getLast? else none) page.nextCursor := by
  unfold JobListQuery.page at paged
  split at paged
  next last full ended more =>
    have long : query.limit < jobs.length := of_decide_eq_true more
    split at paged
    · cases paged
    next encoded =>
      obtain rfl := Except.ok.inj paged
      refine ⟨rfl, ?_⟩
      rw [if_pos long, List.getLast?_map, ended]
      exact encoded
  next others =>
    obtain rfl := Except.ok.inj paged
    have short : ¬ query.limit < jobs.length := by
      intro long
      cases ended : (jobs.take query.limit).getLast? with
      | none =>
        have width := congrArg List.length (List.getLast?_eq_none_iff.mp ended)
        rw [List.length_take, List.length_nil] at width
        omega
      | some last => exact others last ended (decide_eq_true long)
    rw [if_neg short]
    exact ⟨(List.take_of_length_le (Nat.le_of_not_lt short)).symm, rfl⟩

private theorem list_isPage (ids : Keyed JobRow.id db.jobs) (place : CursorAt codec tenantExternalID status after cursor)
    (listed : External.list codec tenantExternalID ⟨cursor, limit, status⟩ db = .ok page) :
    ∃ next, CursorAt codec tenantExternalID status next page.nextCursor ∧
      IsPage (listedPlaces tenantExternalID status db) after (page.jobs.map recordOrder) next := by
  unfold External.list at listed
  split at listed
  · cases listed
  next query queried =>
    obtain ⟨rfl, rfl, positive, selects⟩ := listQuery_after place queried
    unfold readJobs at listed
    split at listed
    · cases listed
    next jobs scanned =>
      obtain ⟨items, next⟩ := page_ok positive listed
      set keys := (sortedRows query db).map jobListOrder
      have read : jobs.map recordOrder = keys.take (query.limit + 1) := by
        have kept := mapM_map (fun _ _ => scanExternalJob_order) (selectJobs query db) scanned
        rw [kept, ← List.map_take]
        rfl
      have members (key : Nat ×ₗ Nat) :
          key ∈ keys ↔ key ∈ listedPlaces query.tenantExternalID query.status db ∧ Below after key := by
        rw [List.mem_map]
        constructor
        · rintro ⟨row, member, rfl⟩
          obtain ⟨inside, selected⟩ := List.mem_filter.mp ((List.mem_insertionSort _).mp member)
          obtain ⟨fits, below⟩ := (selects row).mp selected
          exact ⟨⟨row, inside, fits, rfl⟩, below⟩
        · rintro ⟨⟨row, inside, fits, rfl⟩, below⟩
          have selected := List.mem_filter.mpr ⟨inside, (selects row).mpr ⟨fits, below⟩⟩
          exact ⟨row, (List.mem_insertionSort _).mpr selected, rfl⟩
      have width : query.limit < jobs.length ↔ query.limit < keys.length := by
        have counted := congrArg List.length read
        rw [List.length_map, List.length_take] at counted
        omega
      have shown : (jobs.take query.limit).map recordOrder = keys.take query.limit := by
        rw [List.map_take, read, List.take_take, Nat.min_eq_left (Nat.le_succ _)]
      refine ⟨_, next, ?_⟩
      rw [items, shown]
      simp only [width]
      exact isPage_take (sortedRows_descending ids) members positive

/-! ### The whole walk -/

theorem JobWalk.walk (walk : JobWalk codec tenantExternalID limit status cursor dbs pages)
    (ids : ∀ db ∈ dbs, Keyed JobRow.id db.jobs) (place : CursorAt codec tenantExternalID status after cursor) :
    Walk after (dbs.map (listedPlaces tenantExternalID status)) (pages.map fun page => page.jobs.map recordOrder) := by
  induction walk generalizing after with
  | last listed ends =>
    obtain ⟨next, following, shown⟩ := list_isPage (ids _ List.mem_cons_self) place listed
    cases next with
    | none => exact .last shown
    | some key => exact absurd ends (encode_nonempty following)
  | more listed goes rest ih =>
    obtain ⟨next, following, shown⟩ := list_isPage (ids _ List.mem_cons_self) place listed
    cases next with
    | none => exact absurd following goes
    | some key => exact .more shown (ih (fun db member => ids db (List.mem_cons_of_mem _ member)) following)

/-- An id stands for one job, which keeps its creation time. -/
def KeepCreation (dbs : List Db) : Prop :=
  ∀ db ∈ dbs, ∀ db' ∈ dbs, ∀ job ∈ db.jobs, ∀ job' ∈ db'.jobs, job.id = job'.id → job.createdAt = job'.createdAt

theorem KeepCreation.place (kept : KeepCreation dbs) (inside : db ∈ dbs) (inside' : db' ∈ dbs)
    (present : key ∈ listedPlaces tenantExternalID status db) (present' : key' ∈ listedPlaces tenantExternalID status db')
    (same : (ofLex key).2 = (ofLex key').2) : key = key' := by
  obtain ⟨row, member, -, rfl⟩ := present
  obtain ⟨row', member', -, rfl⟩ := present'
  have listed := (externalJobSelect_sublist db).subset (List.mem_map_of_mem member)
  have listed' := (externalJobSelect_sublist db').subset (List.mem_map_of_mem member')
  have created := kept db inside db' inside' _ listed _ listed' same
  have id : row.job.id = row'.job.id := same
  unfold jobListOrder
  rw [created, id]

/-- A client that follows the cursors to the end sees the jobs in strictly descending order, no job
twice, and each job that matched at every page exactly once. -/
theorem complete_pagination (walk : JobWalk codec tenantExternalID limit status [] dbs pages)
    (ids : ∀ db ∈ dbs, Keyed JobRow.id db.jobs) (kept : KeepCreation dbs) :
    (pages.flatMap JobListResult.jobs).Pairwise (fun earlier later => later.createdAt < earlier.createdAt ∨
      later.createdAt = earlier.createdAt ∧ later.internalID < earlier.internalID) ∧
    ((pages.flatMap JobListResult.jobs).map ExternalJobRecord.internalID).Nodup ∧
    ∀ id, (∀ db ∈ dbs, ∃ row ∈ externalJobSelect db, row.job.id = id ∧ Matches tenantExternalID status row) →
      ((pages.flatMap JobListResult.jobs).map ExternalJobRecord.internalID).count id = 1 := by
  have start : CursorAt codec tenantExternalID status none [] := rfl
  have walked := walk.walk ids start
  have keys : (pages.map fun page => page.jobs.map recordOrder).flatten =
      (pages.flatMap JobListResult.jobs).map recordOrder := by
    rw [List.map_flatMap, List.flatMap_def]
  have sorted := walked.sorted
  have sound := walked.sound
  rw [keys] at sorted sound
  have present {record : ExternalJobRecord} (member : record ∈ pages.flatMap JobListResult.jobs) :
      ∃ db ∈ dbs, recordOrder record ∈ listedPlaces tenantExternalID status db := by
    obtain ⟨_, listed, inside⟩ := sound _ (List.mem_map_of_mem member)
    obtain ⟨db, mem, rfl⟩ := List.mem_map.mp listed
    exact ⟨db, mem, inside⟩
  have distinct : ((pages.flatMap JobListResult.jobs).map ExternalJobRecord.internalID).Nodup := by
    refine List.pairwise_map.mpr ((List.pairwise_map.mp sorted).imp_of_mem ?_)
    intro earlier later member member' descends same
    obtain ⟨db, inside, shown⟩ := present member
    obtain ⟨db', inside', shown'⟩ := present member'
    exact absurd (kept.place inside inside' shown shown' same) (ne_of_gt descends)
  refine ⟨(List.pairwise_map.mp sorted).imp fun descends => Prod.Lex.toLex_lt_toLex.mp descends, distinct, fun id always => ?_⟩
  apply List.count_eq_one_of_mem distinct
  -- The row of the first page gives the place of the job; the job keeps it on the later pages.
  obtain ⟨first, head⟩ : ∃ db, db ∈ dbs := by
    cases walk with
    | last => exact ⟨_, List.mem_cons_self⟩
    | more => exact ⟨_, List.mem_cons_self⟩
  obtain ⟨row, member, rfl, fits⟩ := always first head
  have here : jobListOrder row ∈ listedPlaces tenantExternalID status first := ⟨row, member, fits, rfl⟩
  have throughout : ∀ set ∈ dbs.map (listedPlaces tenantExternalID status), jobListOrder row ∈ set := by
    intro set listed
    obtain ⟨db, inside, rfl⟩ := List.mem_map.mp listed
    obtain ⟨row', member', same, fits'⟩ := always db inside
    have there : jobListOrder row' ∈ listedPlaces tenantExternalID status db := ⟨row', member', fits', rfl⟩
    rwa [kept.place head inside here there same.symm]
  have shown := walked.complete throughout nofun
  rw [keys] at shown
  obtain ⟨record, listed, same⟩ := List.mem_map.mp shown
  exact List.mem_map.mpr ⟨record, listed, congrArg (fun key => (ofLex key).2) same⟩

def sampleCursors : JobCursorCodec := ⟨⟨id, fun _ => id⟩, List.replicate 32 1⟩

def twoJobs (status : JobStatus) : Db :=
  { sampleDb with jobs := [{ sampleJob with createdAt := 100, status }, { sampleJob with id := 2, createdAt := 100 }] }

def sampleList (cursor : GoString) (db : Db) : JobListResult :=
  (External.list sampleCursors sampleTenant.externalID ⟨cursor, 1, []⟩ db).toOption.getD ⟨[], []⟩

private theorem sampleList_listed
    (answered : (External.list sampleCursors sampleTenant.externalID ⟨cursor, 1, []⟩ db).toOption.isSome = true) :
    External.list sampleCursors sampleTenant.externalID ⟨cursor, 1, []⟩ db = .ok (sampleList cursor db) := by
  unfold sampleList
  cases listed : External.list sampleCursors sampleTenant.externalID ⟨cursor, 1, []⟩ db with
  | error error => simp [listed, Except.toOption] at answered
  | ok page => rfl

/-- The first job fails between the two pages. -/
def samplePages : List JobListResult :=
  [sampleList [] (twoJobs .queued), sampleList (sampleList [] (twoJobs .queued)).nextCursor (twoJobs .failed)]

theorem complete_pagination_sample :
    JobWalk sampleCursors sampleTenant.externalID 1 [] [] [twoJobs .queued, twoJobs .failed] samplePages ∧
      ((samplePages.flatMap JobListResult.jobs).map ExternalJobRecord.internalID).count 1 = 1 := by
  have walk : JobWalk sampleCursors sampleTenant.externalID 1 [] [] [twoJobs .queued, twoJobs .failed] samplePages :=
    .more (sampleList_listed (by decide +kernel)) (by decide +kernel) (.last (sampleList_listed (by decide +kernel)) (by decide +kernel))
  refine ⟨walk, (complete_pagination walk ?_ ?_).2.2 1 ?_⟩
  · decide +kernel
  · unfold KeepCreation
    decide +kernel
  · unfold Matches
    decide +kernel

end JudgingServer.Proofs
