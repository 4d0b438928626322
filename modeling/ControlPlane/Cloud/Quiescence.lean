import ControlPlane.Model.Rehearsal
import Mathlib

/-!
# Quiescent recovery points

`select_quiescent_point` returns a whole second behind the observation and inside the active
window of the pinned source, which it has read in a turn in which the cluster was drained
(`Selected`). When the service reports no restorable time of the future (`Timely`), such a point
separates the commits that were observed from those of all later tasks (`Separates`).
-/

namespace ControlPlane.Rehearsal

open Framework
open Dialogue (Guarded Replies guarded_call guarded_lastCall guarded_check guarded_lastCheck
  guarded_ofOption guarded_pure guarded_raise guarded_poll)

variable {m : Manifest}

/-! ### The window of a backup -/

/-- The point is in the window of the row; for an active backup, also before the time that the
source itself reports. -/
def InWindow (source : Database) (status : String) (point : ℤ) (row : Backup) : Prop :=
  ∃ earliest latest, row.earliest = .aware earliest ∧ row.latest = .aware latest ∧
    earliest ≤ point ∧ point < latest ∧
    (status = "active" → ∃ reported, source.latestRestorableTime = .aware reported ∧
      point < reported)

/-- One call, in which the only backup of the source is pinned, has the status and has the point
in its window. -/
def Covers (m : Manifest) (source : Database) (status : String) (point : ℤ) (row : Backup)
    (stretch : History) : Prop :=
  ∃ response, stretch = [⟨.describeAutomatedBackups source.resource, some response⟩] ∧
    response.rows = [row] ∧ pinned m source status row = true ∧ row.status = status ∧
    InWindow source status point row

/-- The calls that cannot be undone. -/
def Question.Destructive : Question → Prop
  | deleteDbInstance _ _ | restoreDbInstance _ => True
  | _ => False

/-- A program that destroys and restores nothing, with what it adds. -/
abbrev Harmless {α : Type} (Post : α → History → Prop) (x : Controller α) : Prop :=
  x.Guarded (fun _ q => ¬ q.Destructive) Post (fun _ => True) []

/-- A point before the end of the window is before both times that bound it. -/
theorem lt_of_windowEnd {source : Database} {status : String} {latest last point : ℤ}
    (h : windowEnd source status latest = some last) (h_point : point < last) :
    point < latest ∧
      (status = "active" → ∃ reported, source.latestRestorableTime = .aware reported ∧
        point < reported) := by
  unfold windowEnd at h
  -- only an active backup is bounded by the time of the source too
  split at h
  · split at h
    next reported h_reported =>
      obtain rfl := Option.some.inj h
      exact ⟨(lt_min_iff.mp h_point).1, fun _ => ⟨reported, h_reported, (lt_min_iff.mp h_point).2⟩⟩
    next => cases h
  next h_status =>
    obtain rfl := Option.some.inj h
    exact ⟨h_point, fun h_active => absurd h_active h_status⟩

/-- `window` asks nothing, and a window that it returns has the point in it. -/
theorem window_adds (source : Database) (status : String) (point : ℤ) (row : Backup)
    (requestId : String) :
    Harmless (fun result stretch => stretch = [] ∧ ∀ w ∈ result, w.metadata = row ∧
      InWindow source status point row) (window source status point row requestId) := by
  have h_none : ∀ w ∈ (none : Option Window), w.metadata = row ∧ InWindow source status point row :=
    fun w h_w => absurd h_w (Option.not_mem_none w)
  unfold window
  split
  · exact guarded_pure ⟨rfl, h_none⟩
  · exact guarded_pure ⟨rfl, h_none⟩
  -- both times of the row are aware, else there is no window or the comparison raises
  next earliest latest h_earliest h_latest =>
    refine guarded_ofOption trivial fun last h_last => ?_
    split
    next h_inside =>
      rw [Bool.and_eq_true, decide_eq_true_eq, decide_eq_true_eq] at h_inside
      obtain ⟨h_before, h_reported⟩ := lt_of_windowEnd h_last h_inside.2
      refine guarded_pure ⟨rfl, fun w h_w => ?_⟩
      obtain rfl := Option.mem_some_iff.mp h_w
      exact ⟨rfl, earliest, latest, h_earliest, h_latest, h_inside.1, h_before, h_reported⟩
    next => exact guarded_pure ⟨rfl, h_none⟩
  · exact guarded_raise trivial

/-- What `backup` adds, and what it says if it returns a window. -/
theorem backup_adds (source : Database) (status : String) (point : ℤ) :
    Harmless (fun result stretch => ∀ w ∈ result, Covers m source status point w.metadata stretch)
      (backup m source status point) := by
  refine guarded_call id trivial fun response => ?_
  have h_none (stretch : History) :
      ∀ w ∈ (none : Option Window), Covers m source status point w.metadata stretch :=
    fun w h_w => absurd h_w (Option.not_mem_none w)
  split
  next => exact guarded_pure (h_none _)
  -- exactly one row: it is pinned, or the call raises
  next row h_rows =>
    refine guarded_check trivial fun h_pinned => ?_
    split
    next h_status =>
      refine (window_adds source status point row response.requestId).after (fun _ _ h => h) ?_
        fun _ _ => trivial
      rintro result _ ⟨rfl, h_window⟩ w h_result
      obtain ⟨rfl, h_inside⟩ := h_window w h_result
      exact ⟨response, rfl, h_rows, h_pinned, h_status, h_inside⟩
    next => exact guarded_pure (h_none _)
  next => exact guarded_raise trivial

/-! ### Observations -/

/-- No page of running or pending tasks names a task. -/
def Drained (stretch : History) : Prop :=
  stretch = [⟨.listTasks "RUNNING", some false⟩, ⟨.listTasks "PENDING", some false⟩]

/-- The database was described by its name. -/
def Observed (identifier : String) (db : Database) (stretch : History) : Prop :=
  ∃ rows, stretch = [⟨.describeDbInstance identifier, some (.found (db :: rows))⟩]

/-- The checkpoint was written, stored, and read back from both places. -/
def Durable (document : Checkpoint) (stretch : History) : Prop :=
  stretch = [⟨.now, some document.at_⟩, ⟨.writeCheckpoint document, some (some document)⟩,
    ⟨.putCheckpoint document, some ()⟩,
    ⟨.getCheckpoint document.phase (digest document), some (some document)⟩]

/-- `drained` passes only when both pages are empty. -/
theorem drained_adds : Harmless (fun _ => Drained) drained := by
  refine guarded_call id trivial fun running => ?_
  refine guarded_check trivial fun h_running => ?_
  refine guarded_call id trivial fun pending => ?_
  refine guarded_lastCheck trivial fun h_pending => ?_
  rw [Bool.not_eq_true'] at h_running h_pending
  rw [h_running, h_pending]
  rfl

/-- The database returned is the first row described. -/
theorem describe_adds (identifier : String) :
    Harmless (fun db => Observed identifier db) (describe identifier) := by
  refine guarded_call id trivial fun described => ?_
  split
  next row rows => exact guarded_pure ⟨rows, rfl⟩
  next => exact guarded_raise trivial

/-- The database returned was described and accepted. -/
theorem database_adds (identifier : String) :
    Harmless (fun db stretch => Observed identifier db stretch ∧ accepted identifier db = true)
      (database identifier) := by
  refine (describe_adds identifier).andThen (fun _ _ h => h) (fun _ _ => trivial)
    fun db stretch h => ?_
  refine guarded_check trivial fun h_accepted => ?_
  exact guarded_pure ⟨h, h_accepted⟩

/-- A checkpoint that returns is durable. -/
theorem checkpoint_adds (phase : String) (payload : Payload) :
    Harmless (fun _ stretch => ∃ at_, Durable ⟨phase, at_, payload⟩ stretch)
      (checkpoint phase payload) := by
  refine guarded_call id trivial fun at_ => ?_
  refine guarded_call id trivial fun written => ?_
  refine guarded_check trivial fun h_written => ?_
  refine guarded_call id trivial fun _ => ?_
  refine guarded_call id trivial fun read => ?_
  refine guarded_lastCheck trivial fun h_read => ?_
  rw [of_decide_eq_true h_written, of_decide_eq_true h_read]
  exact ⟨at_, rfl⟩

/-! ### The selection -/

/-- `wholeSecond` gives whole seconds. -/
theorem dvd_wholeSecond (moment : ℤ) : second ∣ wholeSecond moment :=
  Int.dvd_mul_left _ _

/-- It drops less than a second. -/
theorem lt_wholeSecond (moment : ℤ) : moment < wholeSecond moment + second := by
  unfold wholeSecond second
  omega

/-- The turn in which the point was selected for an observation at this time. -/
structure Selected (m : Manifest) (moment point : ℤ) (source : Database) (row : Backup)
    (turn : History) : Prop where
  whole : second ∣ point
  later : moment + second < point
  calls : ∃ drained described seen covered written,
    turn = ⟨.gate, some ()⟩ :: drained ++ described ++
      [⟨.describeAutomatedBackups source.resource, some seen⟩] ++ covered ++ written ∧
    Drained drained ∧ Observed m.control source described ∧ accepted m.control source = true ∧
    Covers m source "active" point row covered

/-- A point that is tried and returned is a whole second, at least the minimum, and covered by the
active backup of the source. -/
theorem tryPoint_adds (observed : Stamp) (minimum : ℤ) (label : String) (source : Database)
    (start : Stamp) (h_minimum : second ∣ minimum) :
    Harmless (fun result stretch => ∀ selected ∈ result, ∃ covered written,
        stretch = covered ++ written ∧ selected.2.1 = source ∧ minimum ≤ selected.1 ∧
          second ∣ selected.1 ∧ Covers m source "active" selected.1 selected.2.2.metadata covered)
      (tryPoint m observed minimum label source start) := by
  unfold tryPoint
  split
  · exact guarded_pure fun _ h => absurd h (Option.not_mem_none _)
  · exact guarded_raise trivial
  next earliest =>
    refine (backup_adds source "active" _).andThen (fun _ _ h => h) (fun _ _ => trivial) ?_
    intro result covered h_covers
    split
    · exact guarded_pure fun _ h => absurd h (Option.not_mem_none _)
    next window =>
      refine (checkpoint_adds _ _).andThen (fun _ _ h => h) (fun _ _ => trivial)
        fun _ written _ => ?_
      refine guarded_pure fun selected h_selected => ?_
      obtain rfl := Option.mem_some_iff.mp h_selected
      refine ⟨covered, written, rfl, rfl, le_max_left _ _, ?_, h_covers window rfl⟩
      show second ∣ max minimum (wholeSecond earliest + second)
      -- both candidates are whole seconds, so the later one is
      rcases max_choice minimum (wholeSecond earliest + second) with h | h
      · rw [h]
        exact h_minimum
      · rw [h]
        exact Int.dvd_add (dvd_wholeSecond earliest) (Int.dvd_refl second)

/-- The point returned was selected in the last turn of the wait. -/
theorem selectQuiescentPoint_adds (observed : Stamp) (label : String) :
    Harmless (fun selected stretch => ∃ moment earlier turn, observed = .aware moment ∧
        stretch = earlier ++ turn ∧
        Selected m moment selected.1 selected.2.1 selected.2.2.metadata turn)
      (selectQuiescentPoint m observed label) := by
  unfold selectQuiescentPoint
  split
  next moment =>
    -- a turn that selects nothing leaves nothing to remember
    refine guarded_poll (I := fun _ => True) trivial (fun _ _ => trivial) fun history _ => ?_
    refine guarded_call id trivial fun _ => ?_
    refine drained_adds.andThen (fun _ _ h => h) (fun _ _ => trivial) fun _ drained h_drained => ?_
    refine (database_adds m.control).andThen (fun _ _ h => h) (fun _ _ => trivial) ?_
    rintro source described ⟨h_described, h_accepted⟩
    refine guarded_call id trivial fun response => ?_
    refine guarded_check trivial fun _ => ?_
    -- two seconds behind the whole second of the observation
    have h_minimum : second ∣ wholeSecond moment + 2 * second :=
      Int.dvd_add (dvd_wholeSecond moment) (Int.dvd_mul_left 2 second)
    refine (tryPoint_adds _ _ label source _ h_minimum).after (fun _ _ h => h) ?_ fun _ _ => trivial
    rintro (_ | ⟨point, source', window⟩) stretch h_tried
    · trivial
    obtain ⟨covered, written, rfl, rfl, h_later, h_whole, h_covers⟩ :=
      h_tried _ (Option.mem_some_iff.mpr rfl)
    refine ⟨moment, history, _, rfl, ?_, h_whole, ?_, drained, described, response, covered,
      written,
      rfl, h_drained, h_described, h_accepted, h_covers⟩
    · simp [List.append_assoc]
    -- the observation is less than a second behind its whole second
    · have h_moment := lt_wholeSecond moment
      have h_point : wholeSecond moment + 2 * second ≤ point := h_later
      omega
  next => exact guarded_raise trivial

/-! ### What a point separates -/

/-- The exchange reports the time as a latest restorable time. -/
def Reports (exchange : Exchange) (moment : ℤ) : Prop :=
  (∃ resource response row, exchange = ⟨.describeAutomatedBackups resource, some response⟩ ∧
    row ∈ response.rows ∧ row.latest = .aware moment) ∨
  (∃ identifier rows db, exchange = ⟨.describeDbInstance identifier, some (.found rows)⟩ ∧
    db ∈ rows ∧ db.latestRestorableTime = .aware moment)

/-- `clock n` is the time when the controller has its `n`th answer. Time does not go back, and no
reported time is later than the answer that reports it. -/
structure Timely (clock : ℕ → ℤ) (history : History) : Prop where
  monotone : Monotone clock
  reports : ∀ before exchange moment, before ++ [exchange] <+: history → Reports exchange moment →
    moment ≤ clock (before.length + 1)

/-- A commit, with the start of the task that makes it. -/
structure Commit where
  at_ : ℤ
  started : ℤ

/-- The state to which the database is restored. -/
def stateAt (commits : List Commit) (point : ℤ) : List Commit :=
  commits.filter fun commit => commit.at_ ≤ point

/-- The point that was selected, when the clock showed `now`, for an observation at `moment`. -/
structure Separates (m : Manifest) (moment now point : ℤ) : Prop where
  /-- It has all commits up to the observation. -/
  includes : ∀ commits, ∀ commit ∈ commits, commit.at_ ≤ moment → commit ∈ stateAt commits point
  /-- It has no commit of a task that started since; tasks commit only while they run. -/
  excludes : ∀ commits, (∀ commit ∈ commits, commit.started ≤ commit.at_) → ∀ commit ∈ commits,
    now ≤ commit.started → commit ∉ stateAt commits point
  /-- A selection for an observation in such a task is later. -/
  increases : ∀ started moment' label env before selected after, now ≤ started → started ≤ moment' →
    (selectQuiescentPoint m (.aware moment') label).outcome env before =
      (.returned selected, after) → point < selected.1

/-- A selected point lies before the answer that reports its window, and so before the end of the
selection. -/
theorem Selected.lt_clock {moment point : ℤ} {source : Database} {row : Backup}
    {earlier turn : History} {clock : ℕ → ℤ} (h : Selected m moment point source row turn)
    (h_timely : Timely clock (earlier ++ turn)) : point < clock (earlier ++ turn).length := by
  obtain ⟨drained, described, seen, _, written, rfl, -, -, -, response, rfl, h_rows, -, -, -,
    latest, -, h_latest, -, h_point, -⟩ := h.calls
  -- the history up to the answer that reports the window
  set before := earlier ++ (⟨.gate, some ()⟩ :: drained ++ described ++
    [⟨.describeAutomatedBackups source.resource, some seen⟩]) with h_before
  have h_before_end : before ++ [⟨.describeAutomatedBackups source.resource, some response⟩] <+:
      earlier ++ (⟨.gate, some ()⟩ :: drained ++ described ++
        [⟨.describeAutomatedBackups source.resource, some seen⟩] ++
        [⟨.describeAutomatedBackups source.resource, some response⟩] ++ written) :=
    ⟨written, by simp [h_before, List.append_assoc]⟩
  -- that answer names a time which is not of its future, and the point is before it
  have h_reported := h_timely.reports before _ latest h_before_end
    (.inl ⟨_, response, row, rfl, by simp [h_rows], h_latest⟩)
  have h_length := h_before_end.length_le
  rw [List.length_append, List.length_singleton] at h_length
  exact h_point.trans_le (h_reported.trans (h_timely.monotone h_length))

/-- A selection that has returned a point, whatever the service answers. -/
structure Quiescent (m : Manifest) (observed : Stamp)
    (end_ : Dialogue.Outcome (ℤ × Database × Window))
    (before after : History) : Prop where
  selected : ∀ point source window, end_ = .returned (point, source, window) →
    ∃ moment earlier turn, observed = .aware moment ∧ after = before ++ earlier ++ turn ∧
      Selected m moment point source window.metadata turn
  separates : ∀ point source window moment clock, end_ = .returned (point, source, window) →
    observed = .aware moment → Timely clock after → Separates m moment (clock after.length) point

/-- A selection that returns a point has selected it, for an aware observation. -/
theorem returned_selected {observed : Stamp} {label : String} {env : Environment}
    {before after : History} {point : ℤ} {source : Database} {window : Window}
    (h : (selectQuiescentPoint m observed label).outcome env before =
      (.returned (point, source, window), after)) :
    ∃ moment earlier turn, observed = .aware moment ∧ after = before ++ earlier ++ turn ∧
      Selected m moment point source window.metadata turn := by
  have h_rule : (selectQuiescentPoint m observed label).Guarded (fun _ _ => True)
      (fun selected after => ∃ moment earlier turn, observed = .aware moment ∧
        after = before ++ earlier ++ turn ∧
        Selected m moment selected.1 selected.2.1 selected.2.2.metadata turn)
      (fun _ => True) before := by
    refine (selectQuiescentPoint_adds observed label).after (fun _ _ _ => trivial) ?_
      fun _ _ => trivial
    rintro selected _ ⟨moment, earlier, turn, h_moment, rfl, h_selected⟩
    exact ⟨moment, earlier, turn, h_moment, (List.append_assoc _ _ _).symm, h_selected⟩
  exact (h_rule.outcome env h).2.2.1 _ rfl

/-- **A selected recovery point separates what came before from what comes after.** -/
theorem selectQuiescentPoint_quiescent (m : Manifest) (observed : Stamp) (label : String)
    (env : Environment) (before : History) :
    Quiescent m observed ((selectQuiescentPoint m observed label).outcome env before).1 before
      ((selectQuiescentPoint m observed label).outcome env before).2 := by
  rcases h_run : (selectQuiescentPoint m observed label).outcome env before with ⟨end_, after⟩
  show Quiescent m observed end_ before after
  refine ⟨?_, ?_⟩
  · rintro point source window rfl
    exact returned_selected h_run
  rintro point source window moment clock rfl h_observed h_timely
  obtain ⟨moment', earlier, turn, h_moment, rfl, h_turn⟩ := returned_selected h_run
  obtain rfl : moment' = moment := Stamp.aware.inj (h_moment.symm.trans h_observed)
  -- the point lies before the end of the turn that selects it
  have h_now := h_turn.lt_clock h_timely
  have h_later := h_turn.later
  have h_second : 0 < second := by decide
  refine ⟨fun commits commit h_mem h_at => ?_,
    fun commits h_inside commit h_mem h_started h_state => ?_,
    ?_⟩
  · exact List.mem_filter.mpr ⟨h_mem, decide_eq_true (by omega)⟩
  · have h_at := of_decide_eq_true (List.mem_filter.mp h_state).2
    have h_task := h_inside commit h_mem
    omega
  -- the second point lies after its observation, which was later than the end of the first
  -- selection
  · rintro started moment'' label' env' before' ⟨point', source', window'⟩ after' h_started
      h_observed' h_run'
    obtain ⟨_, earlier', turn', h_moment', -, h_turn'⟩ := returned_selected h_run'
    obtain rfl := Stamp.aware.inj h_moment'
    have h_later' := h_turn'.later
    show point < point'
    omega

end ControlPlane.Rehearsal
