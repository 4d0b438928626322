import ControlPlane.Model.Feed

/-!
# Reading by cursor

`reading_complete_iff` says which runs of writers and an operator lose no record: those in
which no transaction commits a record whose id the operator has already passed. Ids are given
at the `INSERT` and rows appear at the commit, so a transaction that commits after another
with larger ids, and after a read in between, commits behind the cursor. No record is ever
received twice.

`Awaits` and `Lost` are the two sides for one committed record. A record beyond the cursor
comes with every read nearer to the operator, and one that is behind stays there.
-/

namespace ControlPlane.Feed

open Framework

/-- The identity of a row: its table and its id. -/
def key (row : ℕ × Record) : Endpoint × ℕ := (row.2.endpoint, row.1)

/-! ### Ids -/

/-- The rows at a place: the committed ones, or those of an open transaction. -/
def rows (feed : Feed) : Option ℕ → List (ℕ × Record)
  | none => feed.committed
  | some connection => feed.pending connection

/-- Ids come from the sequences, no row stands twice or in two places, and what the operator
has received is committed and not beyond the cursor. -/
structure Sound (feed : Feed) : Prop where
  le_sequence : ∀ place, ∀ row ∈ feed.rows place, row.1 ≤ feed.sequence row.2.endpoint
  nodup : ∀ place, ((feed.rows place).map key).Nodup
  apart : ∀ place place', place ≠ place' →
    ((feed.rows place).map key).Disjoint ((feed.rows place').map key)
  received : ∀ row ∈ feed.returned,
    row ∈ feed.committed ∧ row.1 ≤ feed.cursor row.2.endpoint
  returned_nodup : (feed.returned.map key).Nodup

/-- In the beginning there is no row. -/
theorem sound_initial : initial.Sound := by
  have h_rows : ∀ place, initial.rows place = [] := by rintro (_ | _) <;> rfl
  refine ⟨?_, ?_, ?_, ?_, List.nodup_nil⟩
  · intro place row h_row
    rw [h_rows] at h_row
    cases h_row
  · intro place
    rw [h_rows]
    exact List.nodup_nil
  · intro place place' _
    rw [h_rows]
    exact List.disjoint_nil_left _
  · intro row h_row
    cases h_row

variable {feed : Feed} {row : ℕ × Record}

/-- The next id of a table is new. -/
theorem Sound.fresh (h : feed.Sound) (record : Record) (place : Option ℕ) :
    key (feed.sequence record.endpoint + 1, record) ∉ (feed.rows place).map key := by
  intro h_mem
  obtain ⟨row, h_row, h_key⟩ := List.mem_map.mp h_mem
  obtain ⟨h_endpoint, h_id⟩ := Prod.mk.inj h_key
  have h_le := h.le_sequence place row h_row
  rw [h_endpoint, h_id] at h_le
  exact absurd h_le (Nat.not_succ_le_self _)

/-- An insert draws the next id, and is seen by its connection only. -/
theorem rows_insert (connection : ℕ) (record : Record) (place : Option ℕ) :
    (feed.step (.insert connection record)).rows place =
      if place = some connection then
        feed.rows place ++ [(feed.sequence record.endpoint + 1, record)]
      else feed.rows place := by
  cases place with
  | none => rfl
  | some c =>
    show Function.update _ _ _ c = _
    rw [Function.update_apply]
    by_cases h_eq : c = connection
    · rw [if_pos h_eq, if_pos (congrArg some h_eq), h_eq]
      rfl
    · rw [if_neg h_eq, if_neg fun h => h_eq (Option.some.inj h)]
      rfl

/-- A commit makes the rows of the connection visible. -/
theorem rows_commit (connection : ℕ) (place : Option ℕ) :
    (feed.step (.commit connection)).rows place =
      match place with
      | none => feed.committed ++ feed.pending connection
      | some c => if c = connection then [] else feed.pending c := by
  cases place with
  | none => rfl
  | some c => exact Function.update_apply ..

/-- An abort drops them. -/
theorem rows_abort (connection : ℕ) (place : Option ℕ) :
    (feed.step (.abort connection)).rows place =
      if place = some connection then [] else feed.rows place := by
  cases place with
  | none => rfl
  | some c =>
    show Function.update _ _ _ c = _
    rw [Function.update_apply]
    simp only [Option.some.injEq]
    rfl

/-- An insert keeps the ids in order. -/
theorem Sound.insert (h : feed.Sound) (connection : ℕ) (record : Record) :
    (feed.step (.insert connection record)).Sound := by
  refine ⟨?_, ?_, ?_, h.received, h.returned_nodup⟩
  · intro place row h_row
    -- sequences of an endpoint only grow, and the new row has the highest
    have h_mono : ∀ e,
        feed.sequence e ≤ (feed.step (.insert connection record)).sequence e := by
      intro e
      show feed.sequence e ≤ Function.update feed.sequence record.endpoint _ e
      rw [Function.update_apply]
      split
      next h_eq => exact h_eq ▸ Nat.le_succ _
      next => exact le_rfl
    rw [rows_insert] at h_row
    split at h_row
    next =>
      rcases List.mem_append.mp h_row with h_row | h_row
      · exact (h.le_sequence place row h_row).trans (h_mono _)
      · obtain rfl := List.mem_singleton.mp h_row
        exact (Function.update_self record.endpoint _ feed.sequence).ge
    next => exact (h.le_sequence place row h_row).trans (h_mono _)
  · intro place
    rw [rows_insert]
    split
    next =>
      rw [List.map_append]
      -- the key is fresh at every place, so that it repeats none
      exact (h.nodup place).append (List.nodup_singleton _)
        (List.disjoint_singleton.mpr (h.fresh record place))
    next => exact h.nodup place
  · intro place place' h_ne
    rw [rows_insert, rows_insert]
    split
    next h_eq =>
      rw [if_neg fun h_eq' => h_ne (h_eq.trans h_eq'.symm), List.map_append]
      exact List.disjoint_append_left.mpr ⟨h.apart place place' h_ne,
        List.singleton_disjoint.mpr (h.fresh record place')⟩
    next =>
      split
      next =>
        rw [List.map_append]
        exact List.disjoint_append_right.mpr ⟨h.apart place place' h_ne,
          List.disjoint_singleton.mpr (h.fresh record place)⟩
      next => exact h.apart place place' h_ne

/-- So does a commit. -/
theorem Sound.commit (h : feed.Sound) (connection : ℕ) :
    (feed.step (.commit connection)).Sound := by
  have h_pending := h.apart none (some connection) nofun
  refine ⟨?_, ?_, ?_, ?_, h.returned_nodup⟩
  -- the rows move, none is new
  · intro place row h_row
    rw [rows_commit] at h_row
    match place with
    | none =>
      rcases List.mem_append.mp h_row with h_row | h_row
      · exact h.le_sequence none row h_row
      · exact h.le_sequence (some connection) row h_row
    | some c =>
      dsimp only at h_row
      split at h_row
      next => cases h_row
      next => exact h.le_sequence (some c) row h_row
  · intro place
    rw [rows_commit]
    match place with
    | none =>
      rw [List.map_append]
      exact (h.nodup none).append (h.nodup (some connection)) h_pending
    | some c =>
      dsimp only
      split
      next => exact List.nodup_nil
      next => exact h.nodup (some c)
  · -- a row of another transaction is neither committed before nor now
    have h_other : ∀ c, c ≠ connection → ((feed.committed ++ feed.pending connection).map
        key).Disjoint ((feed.pending c).map key) := by
      intro c h_ne
      rw [List.map_append]
      exact List.disjoint_append_left.mpr ⟨h.apart none (some c) nofun,
        h.apart (some connection) (some c) fun h_eq => h_ne (Option.some.inj h_eq).symm⟩
    intro place place' h_ne
    rw [rows_commit, rows_commit]
    match place, place' with
    | none, none => exact absurd rfl h_ne
    | none, some c =>
      dsimp only
      split
      next => exact List.disjoint_nil_right _
      next h_c => exact h_other c h_c
    | some c, none =>
      dsimp only
      split
      next => exact List.disjoint_nil_left _
      next h_c => exact List.disjoint_symm (h_other c h_c)
    | some c, some c' =>
      dsimp only
      split
      next => exact List.disjoint_nil_left _
      next =>
        split
        next => exact List.disjoint_nil_right _
        next => exact h.apart (some c) (some c') h_ne
  · intro row h_row
    exact ⟨List.mem_append_left _ (h.received row h_row).1, (h.received row h_row).2⟩

/-- So does an abort. -/
theorem Sound.abort (h : feed.Sound) (connection : ℕ) :
    (feed.step (.abort connection)).Sound := by
  have h_sub : ∀ place,
      ((feed.step (.abort connection)).rows place).Sublist (feed.rows place) := by
    intro place
    rw [rows_abort]
    split
    next => exact List.nil_sublist _
    next => exact List.Sublist.refl _
  refine ⟨?_, ?_, ?_, h.received, h.returned_nodup⟩
  · intro place row h_row
    exact h.le_sequence place row ((h_sub place).subset h_row)
  · intro place
    exact (h.nodup place).sublist ((h_sub place).map key)
  · intro place place' h_ne
    refine List.disjoint_of_subset_left ((h_sub place).map key).subset ?_
    exact List.disjoint_of_subset_right ((h_sub place').map key).subset (h.apart place place' h_ne)

/-- What an endpoint answers: committed rows of its table beyond the cursor. -/
theorem mem_answer {endpoint : Endpoint} (h : row ∈ feed.answer endpoint) :
    row ∈ feed.committed ∧ row.2.endpoint = endpoint ∧ feed.cursor endpoint < row.1 := by
  obtain ⟨h_table, h_beyond⟩ := mem_page h
  obtain ⟨h_committed, h_endpoint⟩ := List.mem_filter.mp h_table
  exact ⟨h_committed, of_decide_eq_true h_endpoint, h_beyond⟩

/-- A read moves the cursor of its endpoint behind what it has answered. -/
theorem cursor_read (endpoint endpoint' : Endpoint) :
    (feed.step (.read endpoint)).cursor endpoint' =
      if endpoint' = endpoint then advance (feed.cursor endpoint) (feed.answer endpoint)
      else feed.cursor endpoint' :=
  Function.update_apply ..

/-- The cursor only moves forward. -/
theorem le_cursor_step (action : Action) (endpoint : Endpoint) :
    feed.cursor endpoint ≤ (feed.step action).cursor endpoint := by
  cases action with
  | insert | commit | abort => exact le_rfl
  | read endpoint' =>
    rw [cursor_read]
    split
    next h_eq => exact h_eq ▸ le_advance
    next => exact le_rfl

/-- So does a read. -/
theorem Sound.read (h : feed.Sound) (endpoint : Endpoint) :
    (feed.step (.read endpoint)).Sound := by
  refine ⟨h.le_sequence, h.nodup, h.apart, ?_, ?_⟩
  · intro row h_row
    rcases List.mem_append.mp h_row with h_row | h_row
    · have h_old := h.received row h_row
      exact ⟨h_old.1, h_old.2.trans (le_cursor_step (.read endpoint) _)⟩
    · obtain ⟨h_committed, h_endpoint, -⟩ := mem_answer h_row
      refine ⟨h_committed, ?_⟩
      rw [cursor_read, if_pos h_endpoint]
      exact le_advance_of_mem h_row
  · show ((feed.returned ++ feed.answer endpoint).map key).Nodup
    have h_table : ((feed.table endpoint).map key).Nodup :=
      (h.nodup none).sublist (List.filter_sublist.map key)
    rw [List.map_append]
    refine h.returned_nodup.append (nodup_map_page h_table) ?_
    -- what was received before is not beyond the cursor
    intro k h_k h_k'
    obtain ⟨old, h_old, rfl⟩ := List.mem_map.mp h_k
    obtain ⟨new, h_new, h_key⟩ := List.mem_map.mp h_k'
    obtain ⟨h_endpoint, h_id⟩ := Prod.mk.inj h_key
    obtain ⟨-, h_new_endpoint, h_beyond⟩ := mem_answer h_new
    have h_le := (h.received old h_old).2
    rw [← h_endpoint, h_new_endpoint, ← h_id] at h_le
    exact absurd h_beyond h_le.not_gt

/-- So does every action. -/
theorem Sound.step (h : feed.Sound) (action : Action) : (feed.step action).Sound := by
  cases action with
  | insert connection record => exact h.insert connection record
  | commit connection => exact h.commit connection
  | abort connection => exact h.abort connection
  | read endpoint => exact h.read endpoint

/-- So the ids are in order in every run. -/
theorem sound_run (actions : List Action) : (initial.run actions).Sound :=
  run_invariant sound_initial (fun _ action h => h.step action) actions

/-! ### A record beyond the cursor, and one behind it -/

/-- The record has been received, or it is committed beyond the cursor and at most `n` reads
of its endpoint away. -/
def Awaits (feed : Feed) (row : ℕ × Record) (n : ℕ) : Prop :=
  row ∈ feed.returned ∨
    (row ∈ feed.committed ∧ feed.cursor row.2.endpoint < row.1 ∧
      row.1 ≤ feed.cursor row.2.endpoint + n)

/-- The record is committed, and the operator has passed its id without receiving it. -/
def Lost (feed : Feed) (row : ℕ × Record) : Prop :=
  row ∈ feed.committed ∧ row.1 ≤ feed.cursor row.2.endpoint ∧ row ∉ feed.returned

/-- What is committed stays. -/
theorem committed_step (action : Action) : feed.committed ⊆ (feed.step action).committed := by
  cases action with
  | insert | abort | read => exact List.Subset.refl _
  | commit => exact List.subset_append_left ..

/-- A row that is lost stays so. -/
theorem Lost.step (h : feed.Lost row) (action : Action) : (feed.step action).Lost row := by
  obtain ⟨h_committed, h_behind, h_missing⟩ := h
  refine ⟨committed_step action h_committed, h_behind.trans (le_cursor_step action _), ?_⟩
  cases action with
  | insert | commit | abort => exact h_missing
  | read endpoint =>
    intro h_row
    rcases List.mem_append.mp h_row with h_row | h_row
    · exact h_missing h_row
    · obtain ⟨-, rfl, h_beyond⟩ := mem_answer h_row
      exact absurd h_beyond h_behind.not_gt

/-- The ids of one table are distinct. -/
theorem Sound.eq_of_id (h : feed.Sound) {other : ℕ × Record}
    (h_row : row ∈ feed.table row.2.endpoint) (h_other : other ∈ feed.table row.2.endpoint)
    (h_id : other.1 = row.1) : other = row := by
  obtain ⟨h_row, -⟩ := List.mem_filter.mp h_row
  obtain ⟨h_other, h_endpoint⟩ := List.mem_filter.mp h_other
  refine List.inj_on_of_nodup_map (h.nodup none) h_other h_row ?_
  exact Prod.ext (of_decide_eq_true h_endpoint) h_id

/-- A row that waits for few pages waits for more. -/
theorem Awaits.mono {n n' : ℕ} (h_waits : feed.Awaits row n) (h_le : n ≤ n') :
    feed.Awaits row n' :=
  h_waits.imp_right fun h => ⟨h.1, h.2.1, h.2.2.trans (Nat.add_le_add_left h_le _)⟩

/-- Only a read reads. -/
theorem eq_read_of_reads {action : Action} {endpoint : Endpoint}
    (h : action.reads endpoint = true) : action = .read endpoint := by
  cases action with
  | insert | commit | abort => cases h
  | read endpoint' => exact congrArg Action.read (of_decide_eq_true h)

/-- A read brings a record that waits for it nearer. -/
theorem Awaits.read {n : ℕ} (h_waits : feed.Awaits row (n + 1)) (h : feed.Sound) :
    (feed.step (.read row.2.endpoint)).Awaits row n := by
  rcases h_waits with h_received | ⟨h_committed, h_beyond, h_near⟩
  · exact .inl (List.mem_append_left _ h_received)
  · have h_table : row ∈ feed.table row.2.endpoint :=
      List.mem_filter.mpr ⟨h_committed, decide_eq_true rfl⟩
    have h_limit : 0 < limit := by decide
    have h_progress := page_progress h_limit h_table h_beyond
      fun other h_other h_id => h.eq_of_id h_table h_other h_id
    rcases h_progress with h_page | ⟨h_closer, h_before⟩
    · exact .inl (List.mem_append_right _ h_page)
    · refine .inr ⟨h_committed, ?_, ?_⟩ <;> rw [cursor_read, if_pos rfl]
      · exact h_before
      · have h_closer : feed.cursor row.2.endpoint <
            advance (feed.cursor row.2.endpoint) (feed.answer row.2.endpoint) := h_closer
        omega

/-- Any other action leaves a record waiting. -/
theorem Awaits.step {n : ℕ} (h_waits : feed.Awaits row n) {action : Action}
    (h_other : action.reads row.2.endpoint = false) : (feed.step action).Awaits row n := by
  rcases h_waits with h_received | ⟨h_committed, h_near⟩
  · left
    cases action with
    | insert | commit | abort => exact h_received
    | read => exact List.mem_append_left _ h_received
  · refine .inr ⟨committed_step action h_committed, ?_⟩
    have h_cursor : (feed.step action).cursor row.2.endpoint = feed.cursor row.2.endpoint := by
      cases action with
      | insert | commit | abort => rfl
      | read endpoint =>
        rw [cursor_read, if_neg]
        rintro rfl
        simp [Action.reads] at h_other
    rwa [h_cursor]

/-- Enough reads bring a record that waits, whatever the writers do in between. -/
theorem Awaits.run (actions : List Action) {n : ℕ} (h_waits : feed.Awaits row n) (h : feed.Sound)
    (h_reads : n ≤ actions.countP (·.reads row.2.endpoint)) :
    row ∈ (feed.run actions).returned := by
  induction actions generalizing feed n with
  | nil =>
    obtain rfl := Nat.le_zero.mp h_reads
    rcases h_waits with h_received | ⟨-, h_beyond, h_near⟩
    · exact h_received
    · exact absurd h_near h_beyond.not_ge
  | cons action actions ih =>
    cases h_action : action.reads row.2.endpoint with
    | false =>
      rw [List.countP_cons_of_neg (by simp [h_action])] at h_reads
      exact ih (h_waits.step h_action) (h.step action) h_reads
    | true =>
      rw [List.countP_cons_of_pos (by simp [h_action])] at h_reads
      obtain rfl := eq_read_of_reads h_action
      have h_waits : feed.Awaits row (n - 1 + 1) := h_waits.mono (by omega)
      exact ih (h_waits.read h) (h.step _) (Nat.sub_le_of_le_add h_reads)

/-! ### Completeness -/

/-- The operator receives the record as soon as it reads its endpoint often enough, whatever
the writers do. -/
def Delivered (feed : Feed) (row : ℕ × Record) : Prop :=
  ∃ n, ∀ actions : List Action, n ≤ actions.countP (·.reads row.2.endpoint) →
    row ∈ (feed.run actions).returned

/-- A commit makes records visible whose ids are beyond what the operator has received. -/
def Ahead (feed : Feed) : Action → Prop
  | .commit connection => ∀ row ∈ feed.pending connection, feed.cursor row.2.endpoint < row.1
  | .insert .. | .abort _ | .read _ => True

/-- A row that is lost was not delivered. -/
theorem Lost.not_delivered (h : feed.Lost row) : ¬ feed.Delivered row := by
  rintro ⟨n, h_delivered⟩
  have h_reads : n ≤ (List.replicate n (Action.read row.2.endpoint)).countP
      (·.reads row.2.endpoint) := by
    rw [List.countP_replicate, if_pos (by simp [Action.reads])]
  have h_row := h_delivered _ h_reads
  have h_lost : (feed.run (List.replicate n (.read row.2.endpoint))).Lost row :=
    run_invariant (I := fun feed : Feed => feed.Lost row) h (fun _ action h => h.step action) _
  exact h_lost.2.2 h_row

/-- A record that a transaction commits behind the cursor is lost. -/
theorem lost_commit (h : feed.Sound) {connection : ℕ} (h_row : row ∈ feed.pending connection)
    (h_behind : row.1 ≤ feed.cursor row.2.endpoint) :
    (feed.step (.commit connection)).Lost row := by
  refine ⟨List.mem_append_right _ h_row, h_behind, fun h_returned => ?_⟩
  have h_committed : row ∈ feed.committed := (h.received row h_returned).1
  exact h.apart none (some connection) nofun (List.mem_map_of_mem h_committed)
    (List.mem_map_of_mem h_row)

/-- Every committed record has been received or is beyond the cursor. -/
def Complete (feed : Feed) : Prop :=
  ∀ row ∈ feed.committed, row ∈ feed.returned ∨ feed.cursor row.2.endpoint < row.1

/-- In the beginning nothing is committed. -/
theorem complete_initial : initial.Complete := by
  intro row h_row
  cases h_row

/-- Where reading is complete, all committed rows were delivered or are ahead. -/
theorem Complete.delivered (h : feed.Complete) (h_sound : feed.Sound)
    (h_row : row ∈ feed.committed) : feed.Delivered row := by
  refine ⟨row.1, fun actions h_reads => ?_⟩
  have h_waits : feed.Awaits row row.1 :=
    (h row h_row).imp_right fun h_beyond => ⟨h_row, h_beyond, Nat.le_add_left _ _⟩
  exact h_waits.run actions h_sound h_reads

/-- A step whose commits are ahead of the cursor keeps it complete. -/
theorem Complete.step (h : feed.Complete) (h_sound : feed.Sound) {action : Action}
    (h_ahead : feed.Ahead action) : (feed.step action).Complete := by
  intro row h_row
  cases action with
  | insert | abort => exact h row h_row
  | commit =>
    rcases List.mem_append.mp h_row with h_row | h_row
    · exact h row h_row
    · exact .inr (h_ahead row h_row)
  | read endpoint =>
    have h_waits : feed.Awaits row (row.1 + 1) :=
      (h row h_row).imp_right fun h_beyond => ⟨h_row, h_beyond, by omega⟩
    by_cases h_endpoint : row.2.endpoint = endpoint
    · subst h_endpoint
      exact (h_waits.read h_sound).imp_right fun h_after => h_after.2.1
    · have h_other : (Action.read endpoint).reads row.2.endpoint = false :=
        decide_eq_false fun h_eq => h_endpoint h_eq.symm
      exact (h_waits.step h_other).imp_right fun h_after => h_after.2.1

/-- **Reading by cursor.** In every run no record is received twice, and every committed record
is received by an operator who keeps reading exactly where no commit so far has been behind
the cursor. -/
theorem reading_complete_iff (actions : List Action) :
    ((initial.run actions).returned.map key).Nodup ∧
      ((∀ row ∈ (initial.run actions).committed, (initial.run actions).Delivered row) ↔
        Meets step Ahead initial actions) := by
  refine ⟨(sound_run actions).returned_nodup, ?_, ?_⟩
  · intro h_delivered
    refine meets_iff.mpr fun pre action h_pre => ?_
    cases action with
    | insert | abort | read => trivial
    | commit connection =>
      intro row h_row
      by_contra h_behind
      have h_lost : (initial.run (pre ++ [.commit connection])).Lost row := by
        rw [run, run_concat]
        exact lost_commit (sound_run pre) h_row (not_lt.mp h_behind)
      have h_end : (initial.run actions).Lost row :=
        run_stable (P := fun feed : Feed => feed.Lost row) (fun _ action h => h.step action)
          h_pre h_lost
      exact h_end.not_delivered (h_delivered row h_end.1)
  · intro h_ahead row h_row
    have h_complete : (initial.run actions).Sound ∧ (initial.run actions).Complete :=
      h_ahead.invariant (I := fun feed : Feed => feed.Sound ∧ feed.Complete)
        ⟨sound_initial, complete_initial⟩
        fun _ action h_ok h => ⟨h.1.step action, h.2.step h.1 h_ok⟩
    exact h_complete.2.delivered h_complete.1 h_row

/-- A dead letter of the job. -/
def deadLetter (job : Uuid) : Record :=
  .exception ⟨.remoteRejected, .id job, .execution .remoteRejected false, .opened, 0⟩

/-- Two workers settle their jobs at the same time. The one whose dead letter has the first id
commits last, after the operator has read the other. -/
def lateCommit : List Action :=
  [.insert 1 (deadLetter 7), .insert 2 (deadLetter 8), .commit 2, .read .exceptions, .commit 1]

/-- The first dead letter is never received. -/
theorem late_commit_lost :
    ¬ ∀ actions : List Action,
      ((initial.run actions).returned.map key).Nodup ∧
        ∀ row ∈ (initial.run actions).committed, (initial.run actions).Delivered row := by
  intro h
  have h_lost : (initial.run lateCommit).Lost (1, deadLetter 7) := by
    unfold Lost
    decide +kernel
  exact h_lost.not_delivered ((h lateCommit).2 _ h_lost.1)

end ControlPlane.Feed
