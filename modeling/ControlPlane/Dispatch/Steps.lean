import ControlPlane.Dispatch.Lease
import ControlPlane.Model.World

/-!
# The steps of the world

`World.stepped` sorts the labels by what they touch. A worker's step is a `PhaseMove`,
which changes nothing but its phase, or a `PhaseCommit`, which commits one transaction
with it; the remaining steps are commands, failure plans, the sending of a POST and its
arrival.

`Evolves` is what every step keeps: intents, effects and sent POSTs are never taken back,
and the log only grows. Whatever a worker has read or been told stays true by it, so an
invariant about phases only has to be shown for the worker that moves.
-/

namespace ControlPlane

open Framework

/-! ### Inversion -/

/-- A step of the worker `n` that touches nothing but its phase. Only the label `get` makes
a lookup. -/
inductive PhaseMove (w : World) (n : ℕ) (label : Label) : Phase → Phase → Prop
  | crashed (phase : Phase) : PhaseMove w n label phase .idle
  | refused (job : Worker.Claimed) (fault : RouteFault) :
      PhaseMove w n label (.claimed job) (.settling job (.routeRefused fault))
  | look (job : Worker.Claimed) (route : Route) (h_uncertain : job.row.uncertain = true)
      (environ : String → Bool) (h_route : Capacity.destination environ job.id w.db = .ok route) :
      PhaseMove w n label (.claimed job) (.acquiring job route .receipt)
  | skip (job : Worker.Claimed) (route : Route) (h_certain : job.row.uncertain = false)
      (environ : String → Bool) (h_route : Capacity.destination environ job.id w.db = .ok route) :
      PhaseMove w n label (.claimed job) (.preparing job route)
  | direct (job : Worker.Claimed) (request : Request) :
      PhaseMove w n label (.acquiring job none request) (.requesting job none none request)
  | looked (job : Worker.Claimed) (route : Route) (permit : Option Held)
      (handling : Receiver.Handling) (h_label : label = .get n handling) :
      PhaseMove w n label (.requesting job route permit .receipt)
        (.answered job route permit (w.remote.answerGet handling job.id)
          (Worker.afterLookup job (w.remote.answerGet handling job.id)))
  | received (job : Worker.Claimed) (route : Route) (permit : Option Held)
      (mutation : Mutation) (ticket : ℕ) (post : Post) (response : Response)
      (h_post : w.sent[ticket]? = some post) (h_response : post.response = some response) :
      PhaseMove w n label (.awaiting job route permit mutation ticket)
        (.answered job route permit response (Worker.afterPost mutation response))
  | unsent (job : Worker.Claimed) (route : Route) (permit : Option Held) (request : Request) :
      PhaseMove w n label (.requesting job route permit request) (.broken job route permit)
  | unanswered (job : Worker.Claimed) (route : Route) (permit : Option Held)
      (mutation : Mutation) (ticket : ℕ) :
      PhaseMove w n label (.awaiting job route permit mutation ticket) (.broken job route permit)

/-- A step of a worker that commits a transaction. -/
inductive PhaseCommit (w : World) (now : Time) : Tx → Phase → Phase → Prop
  | claimed (leaseSeconds : ℤ) (locked : List Uuid) (job : Worker.Claimed) (db' : Db)
      (h_claim : Worker.claim now leaseSeconds locked w.db = .ok (some job, db')) :
      PhaseCommit w now (.claim leaseSeconds locked) .idle (.claimed job)
  | unclaimed (leaseSeconds : ℤ) (locked : List Uuid) :
      PhaseCommit w now (.claim leaseSeconds locked) .idle .idle
  | permitted (job : Worker.Claimed) (name : String) (destination : Destination)
      (request : Request) (token : Uuid) (db' : Db)
      (h_acquire : Capacity.acquire now name destination request.kind w.db =
        .ok (some token, db')) :
      PhaseCommit w now (.acquire name destination request.kind)
        (.acquiring job (some (name, destination)) request)
        (.requesting job (some (name, destination)) (some ⟨name, token⟩) request)
  | postponed (job : Worker.Claimed) (name : String) (destination : Destination)
      (request : Request) (h_acquire : ∀ token db', Capacity.acquire now name destination
        request.kind w.db ≠ .ok (some token, db')) :
      PhaseCommit w now (.acquire name destination request.kind)
        (.acquiring job (some (name, destination)) request) (.deferring job)
  | prepared (utc : Time) (job : Worker.Claimed) (route : Route) :
      PhaseCommit w now (.prepare utc job.id job.row.leaseToken) (.preparing job route)
        (.prepared job route (Worker.prepare now utc job.id job.row.leaseToken w.db).answer)
  | released (job : Worker.Claimed) (route : Route) (held : Held) (failed : Bool)
      (cooldown : ℕ) (next : Worker.Next) (db' : Db)
      (h_release : Capacity.release now held.destination held.token failed cooldown w.db =
        .ok ((), db')) :
      PhaseCommit w now (.release held.destination held.token failed cooldown)
        (.releasing job route held failed cooldown next) (.next job route next)
  | unreleased (job : Worker.Claimed) (route : Route) (held : Held) (failed : Bool)
      (cooldown : ℕ) (next : Worker.Next) (fault : Fault)
      (h_release : Capacity.release now held.destination held.token failed cooldown w.db =
        .error fault) :
      PhaseCommit w now (.release held.destination held.token failed cooldown)
        (.releasing job route held failed cooldown next) .idle
  | finished (jitter : Time) (job : Worker.Claimed) (verdict : Worker.Verdict) :
      PhaseCommit w now (.finish jitter job.id job.row.leaseToken verdict)
        (.settling job verdict) .idle
  | deferred (job : Worker.Claimed) :
      PhaseCommit w now (.defer job.id job.row.leaseToken false) (.deferring job) .idle

/-- What one step of the world may be. Only the label `post` sends, only the label `finish`
commits a `finish`, and only the label `acquire` an `acquire`. -/
inductive Stepped (w : World) (label : Label) : World → Prop
  | stutter : Stepped w label w
  | external (now : Time) (tx : Tx) (h_external : tx.isExternal = true) :
      Stepped w label (w.commit now tx)
  | planned (key : Uuid) (modes : List FailureMode) :
      Stepped w label { w with remote := w.remote.plan key modes }
  | moved (n : ℕ) (phase : Phase) (h : PhaseMove w n label (w.phase n) phase) :
      Stepped w label (w.move n phase)
  | committed (n : ℕ) (now : Time) (tx : Tx) (phase : Phase)
      (h : PhaseCommit w now tx (w.phase n) phase)
      (h_label : ∀ jitter id token verdict, tx = .finish jitter id token verdict →
        label = .finish n now jitter)
      (h_acquire : ∀ name destination kind, tx = .acquire name destination kind →
        label = .acquire n now) : Stepped w label (w.commitMove n now tx phase)
  | sent (n : ℕ) (job : Worker.Claimed) (route : Route) (permit : Option Held)
      (mutation : Mutation) (h : w.phase n = .requesting job route permit (.dispatch mutation))
      (h_label : label = .post n) : Stepped w label (w.send n job route permit mutation)
  | arrived (ticket : ℕ) (post : Post) (handling : Receiver.Handling)
      (h_post : w.sent[ticket]? = some post) (h_waiting : post.response = none) :
      Stepped w label (w.arrive ticket post handling)

/-- **The inversion of one step of the world.** -/
theorem World.stepped (w : World) (label : Label) : Stepped w label (w.step label) := by
  cases label with
  | commit now tx =>
    unfold World.step
    dsimp only
    split
    · rename_i h_external
      exact .external now tx h_external
    · exact .stutter
  | plan key modes => exact .planned key modes
  | claim n now leaseSeconds locked =>
    unfold World.step
    dsimp only
    split
    · rename_i h_phase
      -- `finish` and `acquire` are the transactions the label has to name
      refine .committed n now _ _ ?_ (fun _ _ _ _ h_tx => by cases h_tx)
        fun _ _ _ h_tx => by cases h_tx
      rw [h_phase]
      split
      · rename_i job db' h_claim
        exact .claimed leaseSeconds locked job db' h_claim
      · exact .unclaimed leaseSeconds locked
    · exact .stutter
  | route n environ =>
    unfold World.step
    dsimp only
    split
    · rename_i job h_phase
      refine .moved n _ ?_
      rw [h_phase]
      split
      · exact .refused job _
      · rename_i route h_route
        split
        · rename_i h_uncertain
          exact .look job route h_uncertain environ h_route
        · rename_i h_certain
          exact .skip job route (by simpa using h_certain) environ h_route
    · exact .stutter
  | acquire n now =>
    unfold World.step
    dsimp only
    split
    · rename_i job request h_phase
      refine .moved n _ ?_
      rw [h_phase]
      exact .direct job request
    · rename_i job name destination request h_phase
      refine .committed n now _ _ ?_ (fun _ _ _ _ h_tx => by cases h_tx)
        fun _ _ _ _ => rfl
      rw [h_phase]
      split
      · rename_i token db' h_acquire
        exact .permitted job name destination request token db' h_acquire
      · rename_i h_acquire
        exact .postponed job name destination request h_acquire
    · exact .stutter
  | get n handling =>
    unfold World.step
    dsimp only
    split
    · rename_i job route permit h_phase
      refine .moved n _ ?_
      rw [h_phase]
      exact .looked job route permit handling rfl
    · exact .stutter
  | prepare n now utc =>
    unfold World.step
    dsimp only
    split
    · rename_i job route h_phase
      refine .committed n now _ _ ?_ (fun _ _ _ _ h_tx => by cases h_tx)
        fun _ _ _ h_tx => by cases h_tx
      rw [h_phase]
      exact .prepared utc job route
    · exact .stutter
  | post n =>
    unfold World.step
    dsimp only
    split
    · rename_i job route permit mutation h_phase
      exact .sent n job route permit mutation h_phase rfl
    · exact .stutter
  | deliver ticket handling =>
    unfold World.step
    dsimp only
    split
    · rename_i post h_post
      split
      · rename_i h_waiting
        exact .arrived ticket post handling h_post h_waiting
      · exact .stutter
    · exact .stutter
  | receive n =>
    unfold World.step
    dsimp only
    split
    · rename_i job route permit mutation ticket h_phase
      split
      · rename_i response h_response
        obtain ⟨post, h_post, h_response⟩ := Option.bind_eq_some_iff.mp h_response
        refine .moved n _ ?_
        rw [h_phase]
        exact .received job route permit mutation ticket post response h_post h_response
      · exact .stutter
    · exact .stutter
  -- nothing was sent, or the response does not come
  | timeout n =>
    unfold World.step
    dsimp only
    split
    · rename_i job route permit request h_phase
      refine .moved n _ ?_
      rw [h_phase]
      exact .unsent job route permit request
    · rename_i job route permit mutation ticket h_phase
      refine .moved n _ ?_
      rw [h_phase]
      exact .unanswered job route permit mutation ticket
    · exact .stutter
  | release n now =>
    unfold World.step
    dsimp only
    split
    · rename_i job route held failed cooldown next h_phase
      refine .committed n now _ _ ?_ (fun _ _ _ _ h_tx => by cases h_tx)
        fun _ _ _ h_tx => by cases h_tx
      rw [h_phase]
      split
      · rename_i answered h_release
        obtain ⟨⟨⟩, db'⟩ := answered
        exact .released job route held failed cooldown next db' h_release
      · rename_i fault h_release
        exact .unreleased job route held failed cooldown next fault h_release
    · exact .stutter
  | finish n now jitter =>
    unfold World.step
    dsimp only
    split
    · rename_i job verdict h_phase
      refine .committed n now _ _ ?_ (fun jitter' _ _ _ h_tx => by cases h_tx; rfl)
        fun _ _ _ h_tx => by cases h_tx
      rw [h_phase]
      exact .finished jitter job verdict
    · exact .stutter
  | defer n now =>
    unfold World.step
    dsimp only
    split
    · rename_i job h_phase
      refine .committed n now _ _ ?_ (fun _ _ _ _ h_tx => by cases h_tx)
        fun _ _ _ h_tx => by cases h_tx
      rw [h_phase]
      exact .deferred job
    · exact .stutter
  | crash n => exact .moved n _ (.crashed _)

/-! ### The receiver -/

/-- What the handling of a POST may answer, and the ledger it leaves. -/
inductive Answered (key : Uuid) (mutation : Mutation) (r : Receiver) : Response × Receiver → Prop
  | refused (response : Response) (r' : Receiver) (h_status : response.status ∉ [200, 201, 409])
      (h_effects : r'.effects = r.effects) : Answered key mutation r (response, r')
  | conflict (previous : Effect) (h_previous : r.effects.lookup key = some previous)
      (h_hash : previous.hash ≠ digest mutation) :
      Answered key mutation r (⟨409, .absent, .error⟩, r)
  | repeated (previous : Effect) (h_previous : r.effects.lookup key = some previous)
      (h_hash : previous.hash = digest mutation) :
      Answered key mutation r (⟨200, .absent, .object (Receiver.receipt key previous)⟩, r)
  | committed (effect : Effect) (r' : Receiver) (h_new : r.effects.lookup key = none)
      (h_hash : effect.hash = digest mutation) (h_body : effect.body = mutation)
      (h_effects : r'.effects = r.effects.insert key effect) :
      Answered key mutation r (⟨201, .absent, .object (Receiver.receipt key effect)⟩, r')

theorem consume_effects (key : Uuid) (r : Receiver) : (r.consume key).2.effects = r.effects := by
  unfold Receiver.consume
  split <;> rfl

theorem answerPost_cases (handling : Receiver.Handling) (key : Uuid) (mutation : Mutation)
    (r : Receiver) : Answered key mutation r (r.answerPost handling key mutation) := by
  cases handling with
  | failed => exact .refused _ _ (by decide) rfl
  | served credential now =>
    unfold Receiver.answerPost Receiver.mutate
    dsimp only
    split
    · exact .refused _ _ (by decide) rfl
    split
    · exact .refused _ _ (by decide) rfl
    split
    · rename_i previous h_previous
      split
      · rename_i h_hash
        exact .conflict previous h_previous h_hash
      · rename_i h_hash
        exact .repeated previous h_previous (not_not.mp h_hash)
    · rename_i h_new
      -- to consume a planned failure touches no effect
      have h_commit : (Receiver.commit now key mutation (r.consume key).2).effects =
          r.effects.insert key (Receiver.committed now mutation (r.consume key).2) := by
        rw [← consume_effects key r]
        rfl
      split
      -- the replies that are planned, in the order of the modes
      · exact .refused _ _ (by decide) (consume_effects key r)
      · exact .refused _ _ (by decide) (consume_effects key r)
      · exact .refused _ _ (by decide) (consume_effects key r)
      · exact .refused _ _ (by decide) (consume_effects key r)
      · exact .committed _ _ h_new rfl rfl h_commit
      · exact .committed _ _ h_new rfl rfl h_commit

/-! ### The log -/

/-- A step commits one transaction at most. -/
theorem World.log_step (w : World) (label : Label) :
    (w.step label).log = w.log ∨ ∃ entry, (w.step label).log = w.log ++ [entry] := by
  have h_stepped := w.stepped label
  generalize w.step label = w' at h_stepped ⊢
  cases h_stepped with
  | stutter | planned | moved | sent | arrived => exact .inl rfl
  | external now tx | committed _ now tx => exact .inr ⟨_, rfl⟩

/-- A step commits the transaction that it logs. -/
theorem World.db_step (w : World) (label : Label) :
    (w.step label).db = w.db ∨ ∃ entry, (w.step label).log = w.log ++ [entry] ∧
      (w.step label).db = w.db.step entry := by
  have h_stepped := w.stepped label
  generalize w.step label = w' at h_stepped ⊢
  cases h_stepped with
  | stutter | planned | moved | sent | arrived => exact .inl rfl
  | external now tx | committed _ now tx => exact .inr ⟨_, rfl, rfl⟩

/-- The control database is the run of the log. -/
theorem World.db_eq_run (registry : Table String Destination) (owners : Table String String)
    (labels : List Label) :
    ((World.initial registry owners).run labels).db =
      (Db.migrated registry owners).run ((World.initial registry owners).run labels).log := by
  refine run_invariant (I := fun w : World => w.db = (Db.migrated registry owners).run w.log)
    rfl (fun w label h => ?_) labels
  have h_commit : ∀ now tx, w.db.step ⟨now, tx⟩ =
      (Db.migrated registry owners).run (w.log ++ [⟨now, tx⟩]) := fun now tx => by
    rw [Db.run, run_concat, h]
  have h_stepped := w.stepped label
  generalize w.step label = w' at h_stepped ⊢
  cases h_stepped with
  | stutter | planned | moved | sent | arrived => exact h
  | external now tx | committed _ now tx => exact h_commit now tx

end ControlPlane
