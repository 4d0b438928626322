import ControlPlane.Framework.Fallible
import ControlPlane.Model.Inventory

/-!
# What the inventory lists

`Lists` says which single answers of AWS show a resource of the run. The rows that `collect` returns
are exactly the resources that the answers of this collection list: each row is listed by one of
them, and what the last answer to a question lists has a row (`collect_exact`). Nothing is dropped
silently, since an operation that is denied or that has too many results makes `collect` raise.

An inventory is put together from parts, each with its own stretch of answers. `Exact` is the
relation between the rows and the stretch, closed under appending and under `gather`; `Base` are the
resources of a part that an answer before the part has listed.
-/

namespace ControlPlane.Inventory

open Framework Registry
open Cleanup (Kind)
open Dialogue (Guarded check gather guarded_call guarded_check guarded_pure guarded_gather)

/-! ### Listing -/

/-- The answer lists the resource as one of the run. -/
def Lists (r : Run) (owners : List String) : Exchange → Kind → String → Prop
  | ⟨.describeDbInstances, some pages⟩, kind, id =>
    kind = .database ∧ ∃ db ∈ pages.flatten, db.identifier ∈ r.names ∧ db.identifier = id
  | ⟨.describeDbSnapshots, some pages⟩, kind, id =>
    kind = .snapshot ∧ ∃ snapshot ∈ pages.flatten, snapshot.instance_ ∈ r.names ∧
      snapshot.identifier = id
  | ⟨.describeAutomatedBackups, some pages⟩, kind, id =>
    kind = .backup ∧ ∃ backup ∈ pages.flatten, backup.instance_ ∈ r.names ∧ backup.resource = id
  | ⟨.describeClusters _, some statuses⟩, kind, id =>
    kind = .cluster ∧ id = r.cluster ∧ ∃ status ∈ statuses, status ≠ "INACTIVE"
  | ⟨.listTasks _, some pages⟩, kind, id => kind = .task ∧ id ∈ pages.flatten
  | ⟨.listTaskDefinitions _ _, some pages⟩, kind, id => kind = .taskDefinition ∧ id ∈ pages.flatten
  | ⟨.describeRepositories, some pages⟩, kind, id =>
    kind = .repository ∧ id = r.tag ∧ r.tag ∈ pages.flatten
  | ⟨.listSecrets, some pages⟩, kind, id =>
    kind = .secret ∧ ∃ secret ∈ pages.flatten, (tagged r secret.tags = true ∨ secret.arn ∈ owners) ∧
      secret.arn = id
  | ⟨.describeSecret _, some (.found arn _)⟩, kind, id => kind = .secret ∧ arn = id
  | ⟨.describeLogGroups _, some pages⟩, kind, id =>
    kind = .logGroup ∧ id ∈ pages.flatten ∧ isRunLog r id = true
  | ⟨.listResourceTags key, some tags⟩, kind, id => kind = .key ∧ tagged r tags = true ∧ key = id
  | ⟨.describeNetwork network _, some pages⟩, kind, id =>
    kind = network.kind ∧ ∃ row ∈ pages.flatten, row.identifier = id
  | ⟨.describeDbSubnetGroups, some pages⟩, kind, id =>
    kind = .dbSubnetGroup ∧ id = r.tag ∧ r.tag ∈ pages.flatten
  | ⟨.describeDbParameterGroups, some pages⟩, kind, id =>
    kind = .dbParameterGroup ∧ id = r.tag ∧ r.tag ∈ pages.flatten
  | ⟨.listRoles _, some pages⟩, kind, id => kind = .role ∧ id ∈ pages.flatten
  | _, _, _ => False

/-- The last answer to its question. -/
def Final (history : History) (exchange : Exchange) : Prop :=
  ∃ before later, history = before ++ exchange :: later ∧ ∀ other ∈ later, other.1 ≠ exchange.1

/-- The last answer is one of the answers. -/
theorem Final.mem {history : History} {exchange : Exchange} (h : Final history exchange) :
    exchange ∈ history := by
  obtain ⟨before, later, rfl, -⟩ := h
  exact List.mem_append_right before List.mem_cons_self

/-- It stands in one of two parts. -/
theorem Final.append {first second : History} {exchange : Exchange}
    (h : Final (first ++ second) exchange) : Final first exchange ∨ Final second exchange := by
  obtain ⟨before, later, h_history, h_last⟩ := h
  -- the exchange stands in the second part, or it is the first of what the first part ends with
  rcases List.append_eq_append_iff.mp h_history with ⟨rest, rfl, rfl⟩ | ⟨rest, rfl, h_rest⟩
  · exact .inr ⟨rest, later, rfl, h_last⟩
  · cases rest with
    | nil => exact .inr ⟨[], later, h_rest.symm, h_last⟩
    | cons _ rest =>
      obtain ⟨rfl, rfl⟩ := List.cons.inj h_rest
      refine .inl ⟨before, rest, rfl, fun other h_other => ?_⟩
      exact h_last other (List.mem_append_left _ h_other)

/-- It is the first answer, if that is not asked again, or it stands in the rest. -/
theorem Final.cons {first exchange : Exchange} {rest : History}
    (h : Final (first :: rest) exchange) :
    (exchange = first ∧ ∀ other ∈ rest, other.1 ≠ first.1) ∨ Final rest exchange := by
  obtain ⟨before, later, h_history, h_last⟩ := h
  cases before with
  | nil =>
    obtain ⟨rfl, rfl⟩ := List.cons.inj h_history
    exact .inl ⟨rfl, h_last⟩
  | cons _ before =>
    obtain ⟨rfl, rfl⟩ := List.cons.inj h_history
    exact .inr ⟨before, later, rfl, h_last⟩

/-! ### Exact rows -/

/-- There is such a row. -/
def Has (rows : List Found) (kind : Kind) (id : String) : Prop :=
  ∃ row ∈ rows, row.kind = kind ∧ row.id = id

/-- The question has been answered so. -/
abbrev Answered (stretch : History) (q : Question) (reply : q.Reply) : Prop :=
  (⟨q, some reply⟩ : Exchange) ∈ stretch

/-- A row with all of its attributes as the answers have them. One constructor stands for one way in
which a row is recorded: the answer that shows the resource, and for a retained backup, a repository
and a key the answer to the question about its tags, its images or its metadata. -/
inductive Described (r : Run) (owners : List String) (stretch : History) : Found → Prop
  | database {pages : List (List DbInstance)} {db : DbInstance}
      (h : Answered stretch .describeDbInstances pages) (h_mem : db ∈ pages.flatten) :
      Described r owners stretch
        { kind := .database, id := db.identifier, arn := db.arn, state := db.status,
          protected_ := db.deletionProtection, resource := db.resource,
          ownerSecret := db.ownerSecret }
  | snapshot {pages : List (List Snapshot)} {snapshot : Snapshot}
      (h : Answered stretch .describeDbSnapshots pages) (h_mem : snapshot ∈ pages.flatten) :
      Described r owners stretch
        { kind := .snapshot, id := snapshot.identifier, state := snapshot.status }
  /-- a retained backup is verified exactly if its tags say so -/
  | retained {pages : List (List Backup)} {backup : Backup} {tags : Tags}
      (h : Answered stretch .describeAutomatedBackups pages) (h_mem : backup ∈ pages.flatten)
      (h_status : backup.status = "retained")
      (h_tags : Answered stretch (.listTagsForResource backup.arn) tags) :
      Described r owners stretch
        { kind := .backup, id := backup.resource, state := backup.status, arn := backup.arn,
          runTagVerified := tagged r tags }
  /-- any other backup is not -/
  | active {pages : List (List Backup)} {backup : Backup}
      (h : Answered stretch .describeAutomatedBackups pages) (h_mem : backup ∈ pages.flatten)
      (h_status : backup.status ≠ "retained") :
      Described r owners stretch
        { kind := .backup, id := backup.resource, state := backup.status, arn := backup.arn,
          runTagVerified := false }
  | task {pages : List (List String)} {task : String}
      (h : Answered stretch (.listTasks r.cluster) pages) (h_mem : task ∈ pages.flatten) :
      Described r owners stretch { kind := .task, id := task, cluster := r.cluster }
  | taskDefinition {pages : List (List String)} {family status definition : String}
      (h : Answered stretch (.listTaskDefinitions family status) pages)
      (h_mem : definition ∈ pages.flatten) :
      Described r owners stretch { kind := .taskDefinition, id := definition, state := status }
  | repository {pages : List (List String)} (h : Answered stretch (.describeImages r.tag) pages) :
      Described r owners stretch
        { kind := .repository, id := r.tag, imageDigests := pages.flatten }
  | listedSecret {pages : List (List Secret)} {secret : Secret}
      (h : Answered stretch .listSecrets pages) (h_mem : secret ∈ pages.flatten) :
      Described r owners stretch
        { kind := .secret, id := secret.arn, managed := owners.contains secret.arn,
          state := if secret.deleted then "pending_deletion" else "active" }
  | knownSecret {arn : String} {deleted : Bool}
      (h : Answered stretch (.describeSecret arn) (.found arn deleted)) :
      Described r owners stretch
        { kind := .secret, id := arn, managed := owners.contains arn,
          state := if deleted then "pending_deletion" else "active" }
  | key {key : String} {metadata : KeyMetadata} (h : Answered stretch (.describeKey key) metadata)
      (h_manager : metadata.keyManager = some "CUSTOMER") :
      Described r owners stretch
        { kind := .key, id := key, state := metadata.keyState, arn := metadata.arn }
  /-- a network of the run is never a default one -/
  | network {kind : NetworkKind} {filter : Filter} {pages : List (List NetworkResource)}
      {network : NetworkResource} (h : Answered stretch (.describeNetwork kind filter) pages)
      (h_mem : network ∈ pages.flatten)
      (h_vpc : kind = .vpc → filter = .acceptanceRun r.run ∧ network.isDefault = false) :
      Described r owners stretch
        { kind := kind.kind, id := network.identifier
          state := network.state.getD (network.status.getD "present")
          vpc := network.vpc, associations := network.associations
          requesterManaged := network.requesterManaged
          ingress := network.ingress, egress := network.egress }
  | named {kind : Kind} {name : String}
      (h : kind ∈ [.cluster, .logGroup, .dbSubnetGroup, .dbParameterGroup, .role]) :
      Described r owners stretch { kind := kind, id := name }

/-- The rows are what the answers of the stretch list, and what was listed before it. Their
attributes are as answered, in the stretch or early, in a part of the answers before it. No call was
denied. -/
structure Exact (r : Run) (owners : List String) (early : History) (Base : Kind → String → Prop)
    (rows : List Found) (stretch : History) : Prop where
  sound : ∀ kind id, Has rows kind id →
    Base kind id ∨ ∃ exchange ∈ stretch, Lists r owners exchange kind id
  base : ∀ kind id, Base kind id → Has rows kind id
  complete : ∀ exchange kind id, Final stretch exchange → Lists r owners exchange kind id →
    Has rows kind id
  described : ∀ row ∈ rows, Described r owners (early ++ stretch) row
  answered : ∀ exchange ∈ stretch, exchange.2.isSome = true

variable {r : Run} {owners : List String} {Base Base' : Kind → String → Prop}
  {rows rows' : List Found} {early stretch stretch' : History} {kind : Kind} {id : String}

/-- Nothing was listed before. -/
abbrev Nothing : Kind → String → Prop := fun _ _ => False

/-- No row, no resource. -/
theorem has_nil : ¬ Has [] kind id := by
  rintro ⟨_, h_mem, -⟩
  exact List.not_mem_nil h_mem

/-- The rows of two parts are those of either. -/
theorem has_append : Has (rows ++ rows') kind id ↔ Has rows kind id ∨ Has rows' kind id := by
  simp only [Has, List.mem_append, or_and_right, exists_or]

/-- Every item is a row of its own. -/
theorem has_map {α : Type} {items : List α} {f : α → Found} :
    Has (items.map f) kind id ↔ ∃ item ∈ items, (f item).kind = kind ∧ (f item).id = id := by
  simp only [Has, List.mem_map, exists_exists_and_eq_and]

/-- More answers describe a row no less. -/
theorem Described.mono {row : Found} (h : Described r owners stretch row)
    (h_sub : stretch ⊆ stretch') : Described r owners stretch' row := by
  cases h with
  | database h h_mem => exact .database (h_sub h) h_mem
  | snapshot h h_mem => exact .snapshot (h_sub h) h_mem
  | retained h h_mem h_status h_tags => exact .retained (h_sub h) h_mem h_status (h_sub h_tags)
  | active h h_mem h_status => exact .active (h_sub h) h_mem h_status
  | task h h_mem => exact .task (h_sub h) h_mem
  | taskDefinition h h_mem => exact .taskDefinition (h_sub h) h_mem
  | repository h => exact .repository (h_sub h)
  | listedSecret h h_mem => exact .listedSecret (h_sub h) h_mem
  | knownSecret h => exact .knownSecret (h_sub h)
  | key h h_manager => exact .key (h_sub h) h_manager
  | network h h_mem h_vpc => exact .network (h_sub h) h_mem h_vpc
  | named h => exact .named h

/-- Two exact parts, one after the other. -/
theorem Exact.append (h : Exact r owners early Base rows stretch)
    (h' : Exact r owners early Base' rows' stretch') :
    Exact r owners early (fun kind id => Base kind id ∨ Base' kind id) (rows ++ rows')
      (stretch ++ stretch') where
  sound kind id h_has := by
    rcases has_append.mp h_has with h_has | h_has
    · rcases h.sound kind id h_has with h_base | ⟨exchange, h_mem, h_lists⟩
      · exact .inl (.inl h_base)
      · exact .inr ⟨exchange, List.mem_append_left _ h_mem, h_lists⟩
    · rcases h'.sound kind id h_has with h_base | ⟨exchange, h_mem, h_lists⟩
      · exact .inl (.inr h_base)
      · exact .inr ⟨exchange, List.mem_append_right _ h_mem, h_lists⟩
  base kind id h_base := has_append.mpr (h_base.imp (h.base kind id) (h'.base kind id))
  complete exchange kind id h_final h_lists := has_append.mpr <| h_final.append.imp
    (fun h_final => h.complete exchange kind id h_final h_lists)
    (fun h_final => h'.complete exchange kind id h_final h_lists)
  described row h_row := by
    -- a row of either stretch is described by what was answered up to its end
    rw [← List.append_assoc]
    rcases List.mem_append.mp h_row with h_row | h_row
    · exact (h.described row h_row).mono (List.subset_append_left _ _)
    · refine (h'.described row h_row).mono (List.append_subset.mpr ⟨?_, ?_⟩)
      · rw [List.append_assoc]
        exact List.subset_append_left _ _
      · exact List.subset_append_right _ _
  answered exchange h_mem := by
    rcases List.mem_append.mp h_mem with h_mem | h_mem
    · exact h.answered exchange h_mem
    · exact h'.answered exchange h_mem

/-- What was listed before may be said in another way. -/
theorem Exact.imp (h : Exact r owners early Base rows stretch)
    (h_base : ∀ kind id, Base kind id ↔ Base' kind id) :
    Exact r owners early Base' rows stretch where
  sound kind id h_has := (h.sound kind id h_has).imp (h_base kind id).mp fun h => h
  base kind id h_has := h.base kind id ((h_base kind id).mpr h_has)
  complete := h.complete
  described := h.described
  answered := h.answered

/-- A part that needs no earlier answers. -/
theorem Exact.later (h : Exact r owners [] Base rows stretch) :
    Exact r owners early Base rows stretch where
  sound := h.sound
  base := h.base
  complete := h.complete
  described row h_row := (h.described row h_row).mono (List.subset_append_right early stretch)
  answered := h.answered

/-- An answer that has listed what the part behind it begins with. -/
theorem Exact.behind (first : Exchange) (h : Exact r owners (early ++ [first]) Base rows stretch)
    (h_first : ∀ kind id, Lists r owners first kind id ↔ Base kind id)
    (h_answered : first.2.isSome = true) :
    Exact r owners early Nothing rows (first :: stretch) where
  sound kind id h_has := by
    rcases h.sound kind id h_has with h_base | ⟨exchange, h_mem, h_lists⟩
    · exact .inr ⟨first, List.mem_cons_self, (h_first kind id).mpr h_base⟩
    · exact .inr ⟨exchange, List.mem_cons_of_mem first h_mem, h_lists⟩
  base _ _ := False.elim
  complete exchange kind id h_final h_lists := by
    rcases h_final.cons with ⟨rfl, -⟩ | h_final
    · exact h.base kind id ((h_first kind id).mp h_lists)
    · exact h.complete exchange kind id h_final h_lists
  described row h_row := by
    have h_described := h.described row h_row
    rwa [List.append_assoc] at h_described
  answered exchange h_mem := by
    rcases List.mem_cons.mp h_mem with rfl | h_mem
    · exact h_answered
    · exact h.answered exchange h_mem

/-- An answer to a question that is asked again. -/
theorem Exact.again {first : Exchange} (h : Exact r owners early Base rows stretch)
    (h_again : ∃ later ∈ stretch, later.1 = first.1) (h_answered : first.2.isSome = true) :
    Exact r owners early Base rows (first :: stretch) where
  sound kind id h_has := (h.sound kind id h_has).imp (fun h => h) fun ⟨exchange, h_mem, h_lists⟩ =>
    ⟨exchange, List.mem_cons_of_mem first h_mem, h_lists⟩
  base := h.base
  complete exchange kind id h_final h_lists := by
    obtain ⟨later, h_later, h_same⟩ := h_again
    rcases h_final.cons with ⟨-, h_last⟩ | h_final
    -- the first answer is not the last one to its question
    · exact absurd h_same (h_last later h_later)
    · exact h.complete exchange kind id h_final h_lists
  described row h_row := by
    refine (h.described row h_row).mono (List.append_subset.mpr ⟨?_, ?_⟩)
    · exact List.subset_append_left _ _
    · exact List.Subset.trans (List.subset_cons_self _ _) (List.subset_append_right _ _)
  answered exchange h_mem := by
    rcases List.mem_cons.mp h_mem with rfl | h_mem
    · exact h_answered
    · exact h.answered exchange h_mem

/-- One answer, and its rows. -/
theorem exact_one {answer : Exchange}
    (h : ∀ kind id, Has rows kind id ↔ Lists r owners answer kind id)
    (h_described : ∀ row ∈ rows, Described r owners (early ++ [answer]) row)
    (h_answered : answer.2.isSome = true) : Exact r owners early Nothing rows [answer] where
  sound kind id h_has := .inr ⟨answer, List.mem_cons_self, (h kind id).mp h_has⟩
  base _ _ := False.elim
  complete exchange kind id h_final h_lists := by
    obtain rfl := List.mem_singleton.mp h_final.mem
    exact (h kind id).mpr h_lists
  described := h_described
  answered exchange h_mem := by
    obtain rfl := List.mem_singleton.mp h_mem
    exact h_answered

/-- The answer of a call, which lists nothing. -/
def Silent (r : Run) (owners : List String) (exchange : Exchange) : Prop :=
  exchange.2.isSome = true ∧ ∀ kind id, ¬ Lists r owners exchange kind id

/-- Nothing was answered. -/
theorem silent_nil : ∀ exchange ∈ ([] : History), Silent r owners exchange := fun _ h =>
  absurd h List.not_mem_nil

/-- One answer that lists nothing. -/
theorem silent_one {exchange : Exchange} (h : Silent r owners exchange) :
    ∀ other ∈ [exchange], Silent r owners other := fun _ h_other =>
  List.mem_singleton.mp h_other ▸ h

/-- No rows, behind answers that list nothing. -/
theorem exact_nil (h : ∀ exchange ∈ stretch, Silent r owners exchange) :
    Exact r owners early Nothing [] stretch where
  sound _ _ h_has := absurd h_has has_nil
  base _ _ := False.elim
  complete exchange kind id h_final h_lists := absurd h_lists ((h exchange h_final.mem).2 kind id)
  described _ h_row := absurd h_row List.not_mem_nil
  answered exchange h_mem := (h exchange h_mem).1

/-- The turns of a loop are exact if each of them is. -/
theorem exact_flatten {α : Type} {items : List α} {Base : α → Kind → String → Prop}
    {turns : List (List Found × History)}
    (h : List.Forall₂ (fun item turn => Exact r owners early (Base item) turn.1 turn.2)
      items turns) :
    Exact r owners early (fun kind id => ∃ item ∈ items, Base item kind id)
      (turns.map Prod.fst).flatten (turns.map Prod.snd).flatten := by
  induction h with
  | nil => exact (exact_nil silent_nil).imp fun _ _ => by simp
  | cons h_turn _ ih => exact (h_turn.append ih).imp fun _ _ => by simp

/-! ### Parts -/

/-- The databases are listed once, by the first part. -/
abbrev Later (_ : History) (q : Question) : Prop := q ≠ .describeDbInstances

/-- What a part adds, for the owner secrets that count. -/
abbrev Adds (r : Run) (owners : List String) (early : History) (Base : Kind → String → Prop)
    (x : Controller (List Found)) : Prop :=
  x.Guarded Later (Exact r owners early Base) (fun _ => True) []

/-- So is a loop that gathers rows. -/
theorem adds_gather {α : Type} {items : List α} {Base : α → Kind → String → Prop}
    {body : α → Controller (List Found)}
    (h : ∀ item ∈ items, Adds r owners early (Base item) (body item)) :
    Adds r owners early (fun kind id => ∃ item ∈ items, Base item kind id) (gather body items) := by
  refine (guarded_gather h (fun _ _ _ h => h) fun _ _ h => h).imp (fun _ _ h => h) ?_ fun _ h => h
  rintro _ _ ⟨turns, rfl, rfl, h_turns⟩
  exact exact_flatten h_turns

/-- Behind the budget of `pages` the program goes on with all items. -/
theorem guarded_bounded {α β : Type} {pages : List (List α)} {f : List α → Controller β}
    {Allowed : History → Question → Prop} {Post : β → History → Prop} {history : History}
    (h : (f pages.flatten).Guarded Allowed Post (fun _ => True) history) :
    (bounded pages >>= f).Guarded Allowed Post (fun _ => True) history := by
  have h_pages : (bounded pages).Guarded Allowed
      (fun items after => items = pages.flatten ∧ after = history) (fun _ => True) history :=
    guarded_check trivial fun _ => guarded_pure ⟨rfl, rfl⟩
  refine h_pages.bind ?_
  rintro _ _ ⟨rfl, rfl⟩
  exact h

/-- The parts one after another, each with its own rows. -/
theorem Exact.next (h : Exact r owners early Nothing rows stretch)
    (h' : Exact r owners early Nothing rows' stretch') :
    Exact r owners early Nothing (rows ++ rows') (stretch ++ stretch') :=
  (h.append h').imp fun _ _ => by simp

/-- The rows of one kind that go by what the answer holds of ours. -/
theorem exact_listed {α : Type} {kind : Kind} {items : List α} {ours : α → Bool}
    {row : α → Found} {answer : Exchange}
    (h : ∀ kind' id, Lists r owners answer kind' id ↔
      kind' = kind ∧ ∃ item ∈ items, ours item = true ∧ (row item).id = id)
    (h_kind : ∀ item, (row item).kind = kind)
    (h_described : ∀ item ∈ items, Described r owners [answer] (row item))
    (h_answered : answer.2.isSome = true) :
    Exact r owners early Nothing ((items.filter ours).map row) [answer] := by
  refine exact_one (fun kind' id => ?_) (fun found h_found => ?_) h_answered
  · rw [h, has_map]
    constructor
    · rintro ⟨item, h_item, rfl, h_id⟩
      obtain ⟨h_mem, h_ours⟩ := List.mem_filter.mp h_item
      exact ⟨h_kind item, item, h_mem, h_ours, h_id⟩
    · rintro ⟨rfl, item, h_mem, h_ours, h_id⟩
      exact ⟨item, List.mem_filter.mpr ⟨h_mem, h_ours⟩, h_kind item, h_id⟩
  · obtain ⟨item, h_item, rfl⟩ := List.mem_map.mp h_found
    exact (h_described item (List.mem_of_mem_filter h_item)).mono (List.subset_append_right _ _)

/-- The rows of the databases are exact. -/
theorem databases_adds : (databases r).Guarded (fun _ _ => True) (Exact r owners early Nothing)
    (fun _ => True) [] := by
  refine guarded_call trivial trivial fun pages => guarded_bounded <| guarded_pure ?_
  refine exact_listed (fun kind id => ?_) (fun _ => rfl) (fun db h_db => ?_) rfl
  · simp only [Lists, databaseRow, List.contains_iff_mem]
  · exact .database List.mem_cons_self h_db

/-- So are those of the snapshots. -/
theorem snapshots_adds : Adds r owners early Nothing (snapshots r) := by
  refine guarded_call nofun trivial fun pages => guarded_bounded <| guarded_pure ?_
  refine exact_listed (fun kind id => ?_) (fun _ => rfl) (fun snapshot h_snapshot => ?_) rfl
  · simp only [Lists, snapshotRow, List.contains_iff_mem]
  · exact .snapshot List.mem_cons_self h_snapshot

/-- One row, which the answer behind which it stands has listed. -/
theorem exact_base (row : Found) (h : ∀ exchange ∈ stretch, Silent r owners exchange)
    (h_described : Described r owners (early ++ stretch) row) :
    Exact r owners early (fun kind id => row.kind = kind ∧ row.id = id) [row] stretch where
  sound kind id := by
    rintro ⟨_, h_row, h_is⟩
    obtain rfl := List.mem_singleton.mp h_row
    exact .inl h_is
  base kind id h_is := ⟨row, List.mem_cons_self, h_is⟩
  complete exchange kind id h_final h_lists := absurd h_lists ((h exchange h_final.mem).2 kind id)
  described other h_other := by
    obtain rfl := List.mem_singleton.mp h_other
    exact h_described
  answered exchange h_mem := (h exchange h_mem).1

/-- A backup that the answer before has listed. -/
theorem backup_adds {pages : List (List Backup)} {row : Backup}
    (h : Answered early .describeAutomatedBackups pages) (h_mem : row ∈ pages.flatten) :
    Adds r owners early (fun kind id => .backup = kind ∧ row.resource = id) (backup r row) := by
  unfold backup
  split
  next h_status =>
    refine guarded_call nofun trivial fun tags => guarded_pure ?_
    refine exact_base (backupRow row (tagged r tags)) (silent_one ⟨rfl, fun _ _ h => h⟩) ?_
    exact .retained (List.mem_append_left _ h) h_mem h_status
      (List.mem_append_right _ List.mem_cons_self)
  next h_status =>
    refine guarded_pure (exact_base (backupRow row false) silent_nil ?_)
    exact .active (List.mem_append_left _ h) h_mem h_status

/-- A part behind the answer that has listed what it begins with. -/
theorem adds_behind {x : Controller (List Found)} {first : Exchange}
    (h : Adds r owners (early ++ [first]) Base x)
    (h_first : ∀ kind id, Lists r owners first kind id ↔ Base kind id)
    (h_answered : first.2.isSome = true) :
    x.Guarded Later (Exact r owners early Nothing) (fun _ => True) [first] :=
  h.after (fun _ _ h => h) (fun _ _ h => h.behind _ h_first h_answered) fun _ _ => trivial

/-- The rows of the backups, with the tags of a retained one. -/
theorem backups_adds : Adds r owners early Nothing (backups r) := by
  refine guarded_call nofun trivial fun pages => guarded_bounded ?_
  refine adds_behind (adds_gather fun row h_row => @backup_adds r owners _ pages row ?_
    (List.mem_of_mem_filter h_row)) (fun kind id => ?_) rfl
  · exact List.mem_append_right _ List.mem_cons_self
  simp only [Lists, List.mem_filter, List.contains_iff_mem]
  exact ⟨fun ⟨h_kind, row, h_row, h_name, h_id⟩ => ⟨row, ⟨h_row, h_name⟩, h_kind.symm, h_id⟩,
    fun ⟨row, ⟨h_row, h_name⟩, h_kind, h_id⟩ => ⟨h_kind.symm, row, h_row, h_name, h_id⟩⟩

/-- The rows of one kind that go by the names of the answer. -/
theorem exact_named {kind : Kind} {names : List String} {row : String → Found} {answer : Exchange}
    (h : ∀ kind' id, Lists r owners answer kind' id ↔ kind' = kind ∧ id ∈ names)
    (h_row : ∀ name, (row name).kind = kind ∧ (row name).id = name)
    (h_described : ∀ name ∈ names, Described r owners [answer] (row name))
    (h_answered : answer.2.isSome = true) :
    Exact r owners early Nothing (names.map row) [answer] := by
  refine exact_one (fun kind' id => ?_) (fun row h_mem => ?_) h_answered
  · rw [h, has_map]
    constructor
    · rintro ⟨name, h_name, rfl, rfl⟩
      exact ⟨(h_row name).1, (h_row name).2.symm ▸ h_name⟩
    · rintro ⟨rfl, h_name⟩
      exact ⟨id, h_name, (h_row id).1, (h_row id).2⟩
  · obtain ⟨name, h_name, rfl⟩ := List.mem_map.mp h_mem
    exact (h_described name h_name).mono (List.subset_append_right _ _)

/-- The cluster was described before; its tasks are listed now. -/
theorem cluster_adds (status : String) :
    Adds r owners early (fun kind id => status ≠ "INACTIVE" ∧ .cluster = kind ∧ r.cluster = id)
      (cluster r status) := by
  unfold cluster
  split
  next h_inactive =>
    refine guarded_pure ((exact_nil silent_nil).imp fun kind id => ?_)
    simp [h_inactive]
  next h_active =>
    refine guarded_call nofun trivial fun pages => guarded_bounded <| guarded_pure ?_
    have h_cluster : Exact r owners early _ [namedRow .cluster r.cluster] [] :=
      exact_base _ silent_nil (.named (by decide))
    have h_tasks : Exact r owners early Nothing (pages.flatten.map (taskRow r.cluster))
        [⟨.listTasks r.cluster, some pages⟩] :=
      exact_named (fun _ _ => Iff.rfl) (fun _ => ⟨rfl, rfl⟩)
        (fun _ h_task => .task List.mem_cons_self h_task) rfl
    refine (h_cluster.append h_tasks).imp fun kind id => ?_
    simp [h_active, namedRow]

/-- The rows of the cluster and of its tasks. -/
theorem clusters_adds : Adds r owners early Nothing (clusters r) := by
  refine guarded_call nofun trivial fun statuses => ?_
  refine adds_behind (adds_gather fun status _ => cluster_adds status) (fun kind id => ?_) rfl
  simp only [Lists]
  exact ⟨fun ⟨h_kind, h_id, status, h_status, h_active⟩ =>
      ⟨status, h_status, h_active, h_kind.symm, h_id.symm⟩,
    fun ⟨status, h_status, h_active, h_kind, h_id⟩ =>
      ⟨h_kind.symm, h_id.symm, status, h_status, h_active⟩⟩

/-- The rows of the revisions of one family in one status. -/
theorem taskDefinitionsOf_adds (status family : String) :
    Adds r owners early Nothing (taskDefinitionsOf status family) := by
  refine guarded_call nofun trivial fun pages => guarded_bounded ?_
  refine guarded_check trivial fun _ => guarded_pure ?_
  exact exact_named (fun _ _ => Iff.rfl) (fun _ => ⟨rfl, rfl⟩)
    (fun _ h_mem => .taskDefinition List.mem_cons_self h_mem) rfl

/-- The turns of a loop that begin with nothing. -/
theorem adds_each {α : Type} {items : List α} {body : α → Controller (List Found)}
    (h : ∀ item ∈ items, Adds r owners early Nothing (body item)) :
    Adds r owners early Nothing (gather body items) :=
  (adds_gather h).imp (fun _ _ h => h) (fun _ _ h => h.imp fun _ _ => by simp) fun _ h => h

/-- The rows of all revisions. -/
theorem taskDefinitions_adds : Adds r owners early Nothing (taskDefinitions r) :=
  adds_each fun status _ => adds_each fun family _ => taskDefinitionsOf_adds status family

/-- The repository was described before; its images are listed now. -/
theorem repository_adds (name : String) :
    Adds r owners early (fun kind id => .repository = kind ∧ r.tag = id) (repository r name) := by
  refine guarded_call nofun trivial fun pages => guarded_bounded <| guarded_pure ?_
  exact exact_base (repositoryRow r.tag pages.flatten) (silent_one ⟨rfl, fun _ _ h => h⟩)
    (.repository (List.mem_append_right _ List.mem_cons_self))

/-- The rows of the repository. -/
theorem repositories_adds : Adds r owners early Nothing (repositories r) := by
  refine guarded_call nofun trivial fun pages => guarded_bounded ?_
  refine adds_behind (adds_gather fun name _ => repository_adds name) (fun kind id => ?_) rfl
  simp only [Lists, List.mem_filter, decide_eq_true_eq]
  exact ⟨fun ⟨h_kind, h_id, h_mem⟩ => ⟨r.tag, ⟨h_mem, rfl⟩, h_kind.symm, h_id.symm⟩,
    fun ⟨_, ⟨h_mem, h_name⟩, h_kind, h_id⟩ => ⟨h_kind.symm, h_id.symm, h_name ▸ h_mem⟩⟩

/-- The rows of the secrets that are listed. -/
theorem listedSecrets_adds : Adds r owners early Nothing (listedSecrets r owners) := by
  refine guarded_call nofun trivial fun pages => guarded_bounded <| guarded_pure ?_
  refine exact_listed (fun kind id => ?_) (fun _ => rfl) (fun secret h_secret => ?_) rfl
  · simp only [Lists, secretRow, Bool.or_eq_true, List.contains_iff_mem]
  · exact .listedSecret List.mem_cons_self h_secret

/-- The row of a secret that is known and described. -/
theorem knownSecret_adds (arn : String) : Adds r owners early Nothing (knownSecret owners arn) := by
  refine guarded_call nofun trivial fun described => ?_
  cases described with
  | notFound => exact guarded_pure (exact_nil (silent_one ⟨rfl, fun _ _ h => h⟩))
  | found described deleted =>
    refine guarded_check trivial fun h_same => guarded_pure ?_
    obtain rfl := of_decide_eq_true h_same
    refine exact_one (fun kind id => ?_) (fun row h_row => ?_) rfl
    · constructor
      · rintro ⟨_, h_row, rfl, rfl⟩
        obtain rfl := List.mem_singleton.mp h_row
        exact ⟨rfl, rfl⟩
      · rintro ⟨rfl, rfl⟩
        exact ⟨_, List.mem_cons_self, rfl, rfl⟩
    · obtain rfl := List.mem_singleton.mp h_row
      exact .knownSecret (List.mem_append_right _ List.mem_cons_self)

/-- The rows of the log groups with one beginning. -/
theorem logGroupsOf_adds (beginning : String) :
    Adds r owners early Nothing (logGroupsOf r beginning) := by
  refine guarded_call nofun trivial fun pages => guarded_bounded <| guarded_pure ?_
  refine exact_named (fun kind id => ?_) (fun _ => ⟨rfl, rfl⟩)
    (fun _ _ => .named (by decide)) rfl
  rw [List.mem_filter]
  rfl

/-- The rows of all log groups. -/
theorem logGroups_adds : Adds r owners early Nothing (logGroups r) :=
  adds_each fun beginning _ => logGroupsOf_adds beginning

/-- The row of one key, if it has the tag. -/
theorem key_adds (name : String) : Adds r owners early Nothing (key r name) := by
  refine guarded_call nofun trivial fun metadata => ?_
  split
  next h_manager =>
    refine guarded_call nofun trivial fun tags => guarded_pure ?_
    have h_tags : Exact r owners (early ++ [⟨.describeKey name, some metadata⟩]) Nothing
        (if tagged r tags then [keyRow name metadata] else [])
        [⟨.listResourceTags name, some tags⟩] := by
      refine exact_one (fun kind id => ?_) (fun row h_row => ?_) rfl
      · cases h_tagged : tagged r tags <;>
          simp [Has, Lists, h_tagged, keyRow, eq_comm]
      · split at h_row
        next =>
          obtain rfl := List.mem_singleton.mp h_row
          refine .key (List.mem_append_left _ (List.mem_append_right _ ?_)) h_manager
          exact List.mem_cons_self
        next => exact absurd h_row List.not_mem_nil
    exact h_tags.behind _ (fun _ _ => Iff.rfl) rfl
  next => exact guarded_pure (exact_nil (silent_one ⟨rfl, fun _ _ h => h⟩))

/-- The rows of the keys. -/
theorem keys_adds : Adds r owners early Nothing (keys r) := by
  refine guarded_call nofun trivial fun pages => guarded_bounded ?_
  exact adds_behind (adds_each fun name _ => key_adds name) (fun _ _ => Iff.rfl) rfl

/-- A kind of network resources, and the question that was asked for it. -/
theorem networkOf_adds (owned : List NetworkResource) (kind : NetworkKind) :
    (networkOf r owned kind).Guarded Later
      (fun rows stretch => Exact r owners early Nothing rows stretch ∧
        ∃ exchange ∈ stretch, exchange.1 = .describeNetwork kind (query r owned kind))
      (fun _ => True) [] := by
  refine guarded_call nofun trivial fun pages => guarded_bounded ?_
  refine guarded_check trivial fun h_default => guarded_pure ⟨?_, _, List.mem_cons_self, rfl⟩
  refine exact_one (fun kind id => ?_) (fun row h_row => ?_) rfl
  · simp only [has_map, Lists, networkRow]
    exact ⟨fun ⟨network, h_mem, h_kind, h_id⟩ => ⟨h_kind.symm, network, h_mem, h_id⟩,
      fun ⟨h_kind, network, h_mem, h_id⟩ => ⟨network, h_mem, h_kind.symm, h_id⟩⟩
  · obtain ⟨network, h_mem, rfl⟩ := List.mem_map.mp h_row
    refine .network (List.mem_append_right _ List.mem_cons_self) h_mem ?_
    -- a network that is a default one has stopped the run
    rintro rfl
    have h_none : pages.flatten.any (·.isDefault) = false := by simpa using h_default
    exact ⟨rfl, Bool.eq_false_iff.mpr (List.any_eq_false.mp h_none network h_mem)⟩

/-- The rows of the networks, the owned ones being asked for first and again. -/
theorem network_adds : Adds r owners early Nothing (network r) := by
  refine guarded_call nofun trivial fun pages => guarded_bounded ?_
  refine (guarded_gather (fun kind _ => @networkOf_adds r owners early pages.flatten kind)
    (fun _ _ _ h => h) fun _ _ h => h).after (fun _ _ h => h) ?_ fun _ _ => trivial
  rintro _ _ ⟨turns, rfl, rfl, h_turns⟩
  have h_flat := @exact_flatten r owners early _ _ (fun _ => Nothing) _
    (h_turns.imp fun _ _ h => h.1)
  have h_exact : Exact r owners early Nothing _ _ := h_flat.imp fun _ _ => by simp
  -- the networks are asked for once more, at the end
  refine h_exact.again ?_ rfl
  obtain ⟨turn, h_turn, -, exchange, h_exchange, h_asked⟩ :=
    exists_of_forall₂ h_turns (a := NetworkKind.vpc) (by decide)
  exact ⟨exchange, List.mem_flatten.mpr ⟨_, List.mem_map_of_mem h_turn, h_exchange⟩, h_asked⟩

/-- A group of the run is there if its name is among the names. -/
theorem mem_filter_tag {names : List String} {tag : String} :
    id ∈ names.filter (· = tag) ↔ id = tag ∧ tag ∈ names := by
  rw [List.mem_filter, decide_eq_true_iff]
  constructor
  · rintro ⟨h_mem, rfl⟩
    exact ⟨rfl, h_mem⟩
  · rintro ⟨rfl, h_mem⟩
    exact ⟨h_mem, rfl⟩

/-- The rows of the subnet groups. -/
theorem dbSubnetGroups_adds : Adds r owners early Nothing (dbSubnetGroups r) := by
  refine guarded_call nofun trivial fun pages => guarded_bounded <| guarded_pure ?_
  refine exact_named (fun kind id => ?_) (fun _ => ⟨rfl, rfl⟩)
    (fun _ _ => .named (by decide)) rfl
  exact and_congr_right fun _ => mem_filter_tag.symm

/-- The rows of the parameter groups. -/
theorem dbParameterGroups_adds : Adds r owners early Nothing (dbParameterGroups r) := by
  refine guarded_call nofun trivial fun pages => guarded_bounded <| guarded_pure ?_
  refine exact_named (fun kind id => ?_) (fun _ => ⟨rfl, rfl⟩)
    (fun _ _ => .named (by decide)) rfl
  exact and_congr_right fun _ => mem_filter_tag.symm

/-- The rows of the roles. -/
theorem roles_adds : Adds r owners early Nothing (roles r) := by
  refine guarded_call nofun trivial fun pages => guarded_bounded <| guarded_pure ?_
  exact exact_named (fun _ _ => Iff.rfl) (fun _ => ⟨rfl, rfl⟩)
    (fun _ _ => .named (by decide)) rfl

/-! ### The whole inventory -/

/-- A part behind others. -/
theorem Exact.then {Allowed : History → Question → Prop}
    (h : Exact r owners [] Nothing rows stretch)
    (h_allowed : ∀ history q, Later history q → Allowed history q) {x : Controller (List Found)}
    {f : List Found → Controller (List Found)} (h_x : Adds r owners [] Nothing x)
    (h_f : ∀ rows' history, Exact r owners [] Nothing (rows ++ rows') history →
      (f rows').Guarded Allowed (Exact r owners [] Nothing) (fun _ => True) history) :
    (x >>= f).Guarded Allowed (Exact r owners [] Nothing) (fun _ => True) stretch :=
  h_x.andThen (fun _ q h_q => h_allowed _ q h_q) (fun _ _ => trivial) fun rows' _ h' =>
    h_f rows' _ (h.next h')

/-- The first part, behind which nothing that it asked is asked again. -/
theorem adds_first {x : Controller (List Found)} {f : List Found → Controller (List Found)}
    (h_x : Adds r owners [] Nothing x)
    (h_f : ∀ rows history, Exact r owners [] Nothing rows history →
      (f rows).Guarded Later (Exact r owners [] Nothing) (fun _ => True) history) :
    Adds r owners [] Nothing (x >>= f) := h_x.bind h_f

/-- The rows of all secrets, listed or known. -/
theorem secrets_adds (known : List Entry) : Adds r owners [] Nothing (secrets r known owners) := by
  refine adds_first listedSecrets_adds fun observed _ h => ?_
  refine h.then (fun _ _ h => h) (adds_each fun arn _ => knownSecret_adds arn) fun _ _ h => ?_
  exact guarded_pure h

/-- The rows of what comes behind the secrets. -/
theorem behindSecrets_adds (owners : List String) :
    Adds r owners [] Nothing (behindSecrets r) := by
  have h_later (history : History) (q : Question) (h : Later history q) : Later history q := h
  refine adds_first logGroups_adds fun logs _ h => ?_
  refine h.then h_later keys_adds fun keys _ h => ?_
  refine h.then h_later network_adds fun network _ h => ?_
  refine h.then h_later dbSubnetGroups_adds fun subnets _ h => ?_
  refine h.then h_later dbParameterGroups_adds fun parameters _ h => ?_
  exact h.then h_later roles_adds fun roles _ h => guarded_pure h

/-- The rows of what comes before the secrets. -/
theorem beforeSecrets_adds (owners : List String) :
    (beforeSecrets r).Guarded (fun _ _ => True) (Exact r owners [] Nothing) (fun _ => True) [] := by
  have h_any (history : History) (q : Question) (_ : Later history q) : True := trivial
  have h_databases : (databases r).Guarded (fun _ _ => True) (Exact r owners [] Nothing)
      (fun _ => True) [] := databases_adds
  refine h_databases.bind fun databases _ h => ?_
  refine h.then h_any snapshots_adds fun snapshots _ h => ?_
  refine h.then h_any backups_adds fun backups _ h => ?_
  refine h.then h_any clusters_adds fun clusters _ h => ?_
  refine h.then h_any taskDefinitions_adds fun definitions _ h => ?_
  exact h.then h_any repositories_adds fun repositories _ h => guarded_pure h

/-- Only databases are recorded under this text. -/
theorem kindText_database {kind : Kind} : kindText kind = "database" ↔ kind = .database := by
  cases kind <;> decide

/-- Without their question there are no databases. -/
theorem Exact.no_databases (h : Exact r owners [] Nothing rows stretch)
    (h_later : ∀ exchange ∈ stretch, exchange.1 ≠ .describeDbInstances) :
    ∀ row ∈ rows, row.kind ≠ .database := by
  intro row h_row h_kind
  rcases h.sound .database row.id ⟨row, h_row, h_kind, rfl⟩ with h_none |
    ⟨⟨q, answer⟩, h_mem, h_lists⟩
  · exact h_none
  · have h_other := h_later _ h_mem
    -- no other answer lists a database
    cases answer with
    | none => cases q <;> exact h_lists
    | some answer =>
      cases q with
      | describeDbInstances => exact h_other rfl
      | describeNetwork network filter => cases network <;> cases h_lists.1
      | describeSecret arn => cases answer <;> first | exact h_lists | cases h_lists.1
      | getCallerIdentity | listTagsForResource | describeImages | listKeys | describeKey =>
        exact h_lists
      | _ => cases h_lists.1

/-- Only databases have owner secrets. -/
theorem owners_append {known : List Entry} (h : ∀ row ∈ rows', row.kind ≠ .database) :
    Inventory.owners known (rows ++ rows') = Inventory.owners known rows := by
  have h_none : (rows'.map Found.entry).filter (·.kind = "database") = [] := by
    refine List.filter_eq_nil_iff.mpr fun entry h_entry => ?_
    obtain ⟨row, h_row, rfl⟩ := List.mem_map.mp h_entry
    exact fun h_text => h row h_row (kindText_database.mp (of_decide_eq_true h_text))
  rw [Inventory.owners, Inventory.owners, Watchdog.ownerSecrets, Watchdog.ownerSecrets,
    List.map_append, ← List.append_assoc, List.filter_append, h_none, List.append_nil]

/-- The text of an attribute, if it is one. -/
theorem text_eq_some {value : Option (Json String)} {arn : String} :
    Watchdog.text value = some arn ↔ value = some (.string arn) := by
  unfold Watchdog.text
  split <;> simp_all

/-- The owner secret of a database, as it stands in its document. -/
theorem get_ownerSecret {row : Found} (h : row.kind = .database) {arn : String} :
    row.entry.get "owner_secret" = some (.string arn) ↔ row.ownerSecret = some arn := by
  have h_get : row.entry.get "owner_secret" = some (optional row.ownerSecret) := by
    simp [Entry.get, Found.entry, Found.fields, h, List.lookup_cons]
  rw [h_get]
  cases row.ownerSecret <;> simp [optional]

/-- Whose secrets count as owned: those of the databases, which are known or have been seen, and
those that are known as managed ones. -/
def Owns (known : List Entry) (rows : List Found) (arn : String) : Prop :=
  (∃ row ∈ rows, row.kind = .database ∧ row.ownerSecret = some arn) ∨
  (∃ entry ∈ known, entry.kind = "database" ∧
    entry.get "owner_secret" = some (.string arn)) ∨
  ∃ entry ∈ known, entry.kind = "secret" ∧ entry.get "managed" = some (.bool true) ∧ entry.id = arn

/-- The owners are the secrets of the databases found, and those that the registry says. -/
theorem mem_owners {known : List Entry} {arn : String} :
    arn ∈ Inventory.owners known rows ↔ Owns known rows arn := by
  have h_known : arn ∈ (known.filter (·.kind = "database")).filterMap
      (fun row => Watchdog.text (row.get "owner_secret")) ↔
      ∃ entry ∈ known, entry.kind = "database" ∧ entry.get "owner_secret" = some (.string arn) := by
    simp only [List.mem_filterMap, List.mem_filter, decide_eq_true_eq, text_eq_some, and_assoc]
  have h_rows : arn ∈ ((rows.map Found.entry).filter (·.kind = "database")).filterMap
      (fun row => Watchdog.text (row.get "owner_secret")) ↔
      ∃ row ∈ rows, row.kind = .database ∧ row.ownerSecret = some arn := by
    simp only [List.mem_filterMap, List.mem_filter, List.mem_map, decide_eq_true_eq, text_eq_some]
    constructor
    · rintro ⟨_, ⟨⟨row, h_row, rfl⟩, h_kind⟩, h_arn⟩
      have h_kind : row.kind = .database := kindText_database.mp h_kind
      exact ⟨row, h_row, h_kind, (get_ownerSecret h_kind).mp h_arn⟩
    · rintro ⟨row, h_row, h_kind, h_arn⟩
      exact ⟨row.entry, ⟨⟨row, h_row, rfl⟩, kindText_database.mpr h_kind⟩,
        (get_ownerSecret h_kind).mpr h_arn⟩
  have h_managed : arn ∈ (known.filter Watchdog.isManaged).map (·.id) ↔ ∃ entry ∈ known,
      entry.kind = "secret" ∧ entry.get "managed" = some (.bool true) ∧ entry.id = arn := by
    simp only [List.mem_map, List.mem_filter, Watchdog.isManaged, Bool.and_eq_true,
      decide_eq_true_eq, and_assoc]
  rw [Inventory.owners, Watchdog.ownerSecrets, List.filter_append, List.filterMap_append,
    List.mem_append, List.mem_append, h_known, h_rows, h_managed, Owns]
  exact (or_congr_left or_comm).trans or_assoc

/-- What holds of the inventory of a run, with what was answered. -/
structure Inventoried (r : Run) (known : List Entry) (rows : List Found) (history : History) :
    Prop where
  account : (⟨.getCallerIdentity, some r.account⟩ : Exchange) ∈ history
  owners : ∀ arn, arn ∈ Inventory.owners known rows ↔ Owns known rows arn
  exact : Exact r (Inventory.owners known rows) [] Nothing rows history

/-- A later part adds no database, so that the owners stay. -/
theorem later_adds {x : Controller (List Found)} (h : Adds r owners [] Nothing x) :
    x.Guarded (fun _ _ => True) (fun rows stretch => Exact r owners [] Nothing rows stretch ∧
      ∀ row ∈ rows, row.kind ≠ .database) (fun _ => True) [] := by
  have h_keeps := h.keeps (I := fun history => ∀ exchange ∈ history,
    exchange.1 ≠ .describeDbInstances) (fun _ h => absurd h List.not_mem_nil) ?_
  · exact h_keeps.imp (fun _ _ _ => trivial)
      (fun _ _ h => ⟨h.1, h.1.no_databases h.2⟩) fun _ _ => trivial
  -- a later part never asks for the databases
  · intro history q answer h_q h_history exchange h_mem
    rcases List.mem_append.mp h_mem with h_mem | h_mem
    · exact h_history exchange h_mem
    · obtain rfl := List.mem_singleton.mp h_mem
      exact h_q

/-- The rule of the whole of `collect`. -/
theorem collect_inventoried (known : List Entry) :
    (collect r known).Guarded (fun _ _ => True) (Inventoried r known) (fun _ => True) [] := by
  refine guarded_call trivial trivial fun account => guarded_check trivial fun h_account => ?_
  obtain rfl := of_decide_eq_true h_account
  -- what comes before the secrets does not depend on the owners
  refine (Guarded.all beforeSecrets_adds).andThen (fun _ _ h => h) (fun _ h => h)
    fun before stretch h_before => ?_
  refine (later_adds (secrets_adds known)).andThen (fun _ _ h => h) (fun _ h => h)
    fun secrets stretch' h_secrets => ?_
  refine (later_adds (behindSecrets_adds (Inventory.owners known before))).andThen
    (fun _ _ h => h) (fun _ h => h) fun behind stretch'' h_behind => ?_
  have h_owners : Inventory.owners known (before ++ secrets ++ behind) =
      Inventory.owners known before := by
    rw [owners_append h_behind.2, owners_append h_secrets.2]
  refine guarded_pure ⟨by simp, fun _ => mem_owners, ?_⟩
  rw [h_owners]
  have h_exact := ((h_before _).next h_secrets.1).next h_behind.1
  simpa using h_exact.later.behind ⟨.getCallerIdentity, some _⟩ (fun _ _ => Iff.rfl) rfl

/-- Where `collect` returns, the inventory is right. -/
def Accounts (r : Run) (known : List Entry) : Dialogue.Outcome (List Found) × History → Prop
  | (.returned rows, history) => Inventoried r known rows history
  | _ => True

/-- **The inventory lists what AWS lists**, whatever AWS answers. -/
theorem collect_exact (r : Run) (known : List Entry)
    (env : Framework.Environment Question (Dialogue.Replies Question.Reply)) :
    Accounts r known ((collect r known).outcome env []) := by
  obtain ⟨-, -, h_returned, -⟩ := (collect_inventoried known).outcome env (Prod.eta _).symm
  cases h_outcome : (collect r known).outcome env [] with
  | mk end_ history =>
    rw [h_outcome] at h_returned
    cases end_ with
    | returned rows => exact h_returned rows rfl
    | raised | cut => trivial

end ControlPlane.Inventory
