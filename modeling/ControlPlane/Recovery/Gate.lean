import ControlPlane.Recovery.Progress

/-!
# The recovery gate

The gate opens only by a `resume`, and `Reopened` says what such a `resume` rests on: a
session whose `begin` closed the gate last, a safe proof that a `verify` recorded for that
session, an approval of exactly that proof, and observations at approval and at resume
that repeat the proof. The bound fingerprint turns the last point into a statement about
the time in between: from `verify` to `resume` no control row was written
(`closed_unwritten`).

The histories are found with `run_last_switch`: the last step that closed the gate, and
the last step that approved the proof. What keeps sessions and proofs apart is that their
ids are drawn from the supply (`CoordinationSound`), so a session that begins later has an
id no earlier proof can be recorded for. That is why a proof never opens the gate twice
(`proof_opens_once`).
-/

namespace ControlPlane

open Framework

/-! ### The coordinator's steps -/

/-- The transaction begins a session. -/
def Entry.Begins (entry : Entry) (db : Db) (sessionId : Uuid) : Prop :=
  ∃ coordinator db', entry.tx = .begin coordinator ∧
    Recovery.begin entry.now coordinator db = .ok (sessionId, db')

/-- The transaction records a proof for a session. -/
def Entry.Records (entry : Entry) (db : Db) (sessionId proofId : Uuid) (report : Report) : Prop :=
  ∃ coordinator surroundings db', entry.tx = .verify coordinator surroundings sessionId ∧
    Recovery.verify entry.now coordinator surroundings sessionId db =
      .ok ((proofId, report), db')

/-- The transaction approves a proof of a session, on a fresh observation. -/
def Entry.Approves (entry : Entry) (db : Db) (sessionId proofId : Uuid) (fresh : Report) : Prop :=
  ∃ coordinator surroundings db',
    entry.tx = .approveRecovery coordinator surroundings sessionId proofId ∧
      Recovery.approve entry.now coordinator surroundings sessionId proofId db = .ok (fresh, db')

/-- The transaction resumes on a proof of a session, on a fresh observation. -/
def Entry.Resumes (entry : Entry) (db : Db) (sessionId proofId : Uuid) (fresh : Report) : Prop :=
  ∃ coordinator surroundings db',
    entry.tx = .resume coordinator surroundings sessionId proofId ∧
      Recovery.resume entry.now coordinator surroundings sessionId proofId db = .ok (fresh, db')

/-- What a step does to the gate, the sessions and the proofs. -/
inductive CoordinationMove (db : Db) (entry : Entry) : Prop
  | kept (h_same : (db.step entry).coordination = db.coordination)
  | begun (h_begins : entry.Begins db db.supply) (h_open : db.gate.mode = .opened)
      (h_supply : (db.step entry).supply = db.supply + 1)
      (h_gate : (db.step entry).gate =
        ⟨.closed, db.gate.epoch + 1, some db.supply, none, none⟩)
      (h_proofs : (db.step entry).proofs = db.proofs)
  | recorded (sessionId : Uuid) (report : Report)
      (h_records : entry.Records db sessionId db.supply report)
      (h_session : db.gate.sessionId = some sessionId) (h_closed : db.gate.mode = .closed)
      (h_fresh : db.proofs.lookup db.supply = none)
      (h_supply : (db.step entry).supply = db.supply + 1)
      (h_gate : (db.step entry).gate = db.gate)
      (h_proofs : (db.step entry).proofs = db.proofs.insert db.supply
        ⟨sessionId, report, digest report, entry.now⟩)
  | approved (sessionId proofId : Uuid) (fresh : Report) (session : Session) (proof : Proof)
      (h_approves : entry.Approves db sessionId proofId fresh)
      (h_fresh : ∃ coordinator surroundings,
        Recovery.Fresh coordinator surroundings sessionId proofId db session proof fresh)
      (h_gate : (db.step entry).gate =
        { db.gate with approvedProof := some proofId, approvedAt := some entry.now })
      (h_proofs : (db.step entry).proofs = db.proofs)
  | resumed (sessionId proofId : Uuid) (fresh : Report) (session : Session) (proof : Proof)
      (h_resumes : entry.Resumes db sessionId proofId fresh)
      (h_fresh : ∃ coordinator surroundings,
        Recovery.Fresh coordinator surroundings sessionId proofId db session proof fresh)
      (h_approved : db.gate.approvedProof = some proofId)
      (h_gate : (db.step entry).gate = { db.gate with mode := .opened, approvedProof := none })
      (h_proofs : (db.step entry).proofs = db.proofs)

/-- **The inversion of one step, for the coordinator.** -/
theorem coordination_move (db : Db) (entry : Entry) : CoordinationMove db entry := by
  obtain ⟨now, tx⟩ := entry
  cases tx with
  | begin coordinator =>
    cases h : Recovery.begin now coordinator db with
    | error fault =>
      refine .kept ?_
      change ((Recovery.begin now coordinator db).commit db).coordination = _
      rw [h, Outcome.commit_error]
    | ok answer =>
      obtain ⟨key, db'⟩ := answer
      obtain ⟨h_open, -, rfl, rfl⟩ := Recovery.begin_cases h
      have h_step : db.step ⟨now, .begin coordinator⟩ = _ :=
        congrArg (fun outcome => Outcome.commit outcome db) h
      exact .begun ⟨coordinator, _, rfl, h⟩ h_open (by rw [h_step]; rfl) (by rw [h_step]; rfl)
        (by rw [h_step]; rfl)
  | verify coordinator surroundings sessionId =>
    -- a verification records a proof, whatever it has found
    cases h : Recovery.verify now coordinator surroundings sessionId db with
    | error fault =>
      refine .kept ?_
      change ((Recovery.verify now coordinator surroundings sessionId db).commit
        db).coordination = _
      rw [h, Outcome.commit_error]
    | ok answer =>
      obtain ⟨⟨key, report⟩, db'⟩ := answer
      obtain ⟨session, h_current, -, h_fresh, rfl, rfl⟩ := Recovery.verify_cases h
      have h_step : db.step ⟨now, .verify coordinator surroundings sessionId⟩ = _ :=
        congrArg (fun outcome => Outcome.commit outcome db) h
      exact .recorded sessionId report ⟨coordinator, surroundings, _, rfl, h⟩ h_current.h_gate
        h_current.h_closed h_fresh (by rw [h_step]; rfl) (by rw [h_step]; rfl)
        (by rw [h_step]; rfl)
  | approveRecovery coordinator surroundings sessionId proofId =>
    cases h : Recovery.approve now coordinator surroundings sessionId proofId db with
    | error fault =>
      refine .kept ?_
      change ((Recovery.approve now coordinator surroundings sessionId proofId db).commit
        db).coordination = _
      rw [h, Outcome.commit_error]
    | ok answer =>
      obtain ⟨fresh, db'⟩ := answer
      obtain ⟨⟨session, proof, h_fresh⟩, rfl⟩ := Recovery.approve_cases h
      have h_step :
          db.step ⟨now, .approveRecovery coordinator surroundings sessionId proofId⟩ = _ :=
        congrArg (fun outcome => Outcome.commit outcome db) h
      rw [Outcome.commit_ok] at h_step
      obtain ⟨-, -, -, -, -, h_gate, h_proofs⟩ := Recovery.markSession_frame sessionId .approved
        { db with gate := { db.gate with approvedProof := some proofId, approvedAt := some now } }
      exact .approved sessionId proofId fresh session proof ⟨coordinator, surroundings, _, rfl, h⟩
        ⟨coordinator, surroundings, h_fresh⟩ (by rw [h_step, h_gate]) (by rw [h_step, h_proofs])
  | resume coordinator surroundings sessionId proofId =>
    -- a resume needs the approval of this very proof
    cases h : Recovery.resume now coordinator surroundings sessionId proofId db with
    | error fault =>
      refine .kept ?_
      change ((Recovery.resume now coordinator surroundings sessionId proofId db).commit
        db).coordination = _
      rw [h, Outcome.commit_error]
    | ok answer =>
      obtain ⟨fresh, db'⟩ := answer
      obtain ⟨⟨session, proof, h_fresh⟩, h_approved, rfl⟩ := Recovery.resume_cases h
      have h_step : db.step ⟨now, .resume coordinator surroundings sessionId proofId⟩ = _ :=
        congrArg (fun outcome => Outcome.commit outcome db) h
      rw [Outcome.commit_ok] at h_step
      obtain ⟨-, -, -, -, -, h_gate, h_proofs⟩ := Recovery.markSession_frame sessionId .resumed
        { db with gate := { db.gate with mode := .opened, approvedProof := none } }
      exact .resumed sessionId proofId fresh session proof ⟨coordinator, surroundings, _, rfl, h⟩
        ⟨coordinator, surroundings, h_fresh⟩ h_approved (by rw [h_step, h_gate])
        (by rw [h_step, h_proofs])
  | _ => exact .kept (coordination_apply now db rfl)

/-! ### Sessions and proofs -/

/-- The session of the gate and those of the proofs have been drawn from the supply. -/
structure CoordinationSound (db : Db) : Prop where
  session : ∀ s, db.gate.sessionId = some s → s < db.supply
  proof : ∀ p proof, db.proofs.lookup p = some proof → proof.sessionId < db.supply

/-- Every transaction keeps it. -/
theorem CoordinationSound.step {db : Db} (h : CoordinationSound db) (entry : Entry) :
    CoordinationSound (db.step entry) := by
  have h_supply : db.supply ≤ (db.step entry).supply := supply_le_apply entry.now db entry.tx
  -- the gate and the proofs of before stay drawn
  have h_session : ∀ s, db.gate.sessionId = some s → s < (db.step entry).supply := fun s h_s =>
    (h.session s h_s).trans_le h_supply
  have h_proof : ∀ p proof, db.proofs.lookup p = some proof →
      proof.sessionId < (db.step entry).supply := fun p proof h_p =>
    (h.proof p proof h_p).trans_le h_supply
  cases coordination_move db entry with
  | kept h_same =>
    obtain ⟨h_gate, -, h_proofs⟩ := Coordination.mk.inj h_same
    exact ⟨fun s h_s => h_session s (h_gate ▸ h_s), fun p proof h_p =>
      h_proof p proof (h_proofs ▸ h_p)⟩
  -- the session takes a number that is then behind the supply
  | begun _ _ h_next h_gate h_proofs =>
    refine ⟨fun s h_s => ?_, fun p proof h_p => h_proof p proof (h_proofs ▸ h_p)⟩
    rw [h_gate] at h_s
    rw [h_next, ← Option.some.inj h_s]
    exact Nat.lt_succ_self db.supply
  | recorded sessionId report _ h_of _ _ _ h_gate h_proofs =>
    refine ⟨fun s h_s => h_session s (h_gate ▸ h_s), fun p proof h_p => ?_⟩
    rw [h_proofs, Table.lookup_insert] at h_p
    split at h_p
    · rw [← Option.some.inj h_p]
      exact h_session sessionId h_of
    · exact h_proof p proof h_p
  | approved _ _ _ _ _ _ _ h_gate h_proofs | resumed _ _ _ _ _ _ _ _ h_gate h_proofs =>
    refine ⟨fun s h_s => h_session s ?_, fun p proof h_p => h_proof p proof (h_proofs ▸ h_p)⟩
    rw [h_gate] at h_s
    exact h_s

/-- A recorded proof is never written again. -/
theorem proof_persists {db : Db} (entry : Entry) {p : Uuid} {proof : Proof}
    (h : db.proofs.lookup p = some proof) : (db.step entry).proofs.lookup p = some proof := by
  cases coordination_move db entry with
  | kept h_same => exact (Coordination.mk.inj h_same).2.2 ▸ h
  | recorded _ _ _ _ _ h_fresh _ _ h_proofs =>
    rw [h_proofs]
    exact Table.lookup_insert_of_none h_fresh h
  | begun _ _ _ _ h_proofs | approved _ _ _ _ _ _ _ _ h_proofs
  | resumed _ _ _ _ _ _ _ _ _ h_proofs => exact h_proofs ▸ h

section Histories

variable {registry : Table String Destination} {owners : Table String String}

/-- So it holds after every run. -/
theorem coordination_sound (registry : Table String Destination) (owners : Table String String)
    (entries : List Entry) : CoordinationSound ((Db.migrated registry owners).run entries) :=
  run_invariant ⟨fun _ h => (by cases h), fun _ _ h => (by cases h)⟩
    (fun _ entry h => h.step entry) entries

/-- Ids are drawn in order. -/
theorem supply_mono {pre as : List Entry} (h : pre <+: as) :
    ((Db.migrated registry owners).run pre).supply ≤
      ((Db.migrated registry owners).run as).supply :=
  run_stable (P := fun db : Db => ((Db.migrated registry owners).run pre).supply ≤ db.supply)
    (fun db entry h_le => h_le.trans (supply_le_apply entry.now db entry.tx)) h le_rfl

/-- In the run `as`, the proof was recorded, while the gate was closed by its session. -/
inductive RecordedIn (registry : Table String Destination) (owners : Table String String)
    (as : List Entry) (p : Uuid) (proof : Proof) : Prop
  | intro (verified : List Entry) (entry : Entry) (h_step : verified ++ [entry] <+: as)
      (h_records : entry.Records ((Db.migrated registry owners).run verified) proof.sessionId p
        proof.report)
      (h_closed : ((Db.migrated registry owners).run verified).gate.mode = .closed)
      (h_session : ((Db.migrated registry owners).run verified).gate.sessionId =
        some proof.sessionId)

/-- **Every proof was recorded by a `verify` of the run.** -/
theorem proof_origin (as : List Entry) {p : Uuid} {proof : Proof}
    (h_proof : ((Db.migrated registry owners).run as).proofs.lookup p = some proof) :
    RecordedIn registry owners as p proof := by
  refine run_induction Db.step (Db.migrated registry owners)
    (P := fun as db => db.proofs.lookup p = some proof → RecordedIn registry owners as p proof)
    (fun h => by cases h) (fun as entry ih h_after => ?_) as h_proof
  have h_old : (Framework.run Db.step (Db.migrated registry owners) as).proofs.lookup p =
      some proof → RecordedIn registry owners (as ++ [entry]) p proof := fun h => by
    obtain ⟨verified, entry', h_step, h_records, h_closed, h_session⟩ := ih h
    exact ⟨verified, entry', h_step.trans (List.prefix_append as [entry]), h_records, h_closed,
      h_session⟩
  cases coordination_move (Framework.run Db.step (Db.migrated registry owners) as) entry with
  | kept h_same => exact h_old ((Coordination.mk.inj h_same).2.2 ▸ h_after)
  | begun _ _ _ _ h_proofs | approved _ _ _ _ _ _ _ _ h_proofs
  | resumed _ _ _ _ _ _ _ _ _ h_proofs => exact h_old (h_proofs ▸ h_after)
  | recorded sessionId report h_records h_of h_closed _ _ _ h_proofs =>
    rw [h_proofs, Table.lookup_insert] at h_after
    split at h_after
    · rename_i h_p
      obtain rfl := Option.some.inj h_after
      exact ⟨as, entry, List.prefix_refl _, h_p ▸ h_records, h_closed, h_of⟩
    · exact h_old h_after

/-- **A closed gate was closed by the `begin` of its session**, and has been closed under it
since. -/
theorem closing_begin (as : List Entry) {s : Uuid}
    (h_closed : ((Db.migrated registry owners).run as).gate.mode = .closed)
    (h_session : ((Db.migrated registry owners).run as).gate.sessionId = some s) :
    ∃ begun entry, begun ++ [entry] <+: as ∧
      entry.Begins ((Db.migrated registry owners).run begun) s ∧
      s = ((Db.migrated registry owners).run begun).supply ∧
      ((Db.migrated registry owners).run begun).gate.mode = .opened ∧
      ∀ mid, begun ++ [entry] <+: mid → mid <+: as →
        ((Db.migrated registry owners).run mid).gate.mode = .closed ∧
          ((Db.migrated registry owners).run mid).gate.sessionId = some s := by
  obtain ⟨begun, entry, -, h_entry, h_before, h_since⟩ := run_last_switch
    Db.step (Db.migrated registry owners) (P := fun db => db.gate.mode = .closed)
    (List.nil_prefix (l := as)) (fun h => by cases h) h_closed
  -- the step that closed the gate is a `begin`
  obtain ⟨h_begins, h_open, h_first⟩ : entry.Begins ((Db.migrated registry owners).run begun)
      ((Db.migrated registry owners).run begun).supply ∧
      ((Db.migrated registry owners).run begun).gate.mode = .opened ∧
      ((Db.migrated registry owners).run (begun ++ [entry])).gate.sessionId =
        some ((Db.migrated registry owners).run begun).supply := by
    have h_after := h_since _ (List.prefix_refl _) h_entry
    simp only [run_concat] at h_after ⊢
    -- all but a `begin` need a gate that is closed already
    cases coordination_move (Framework.run Db.step (Db.migrated registry owners) begun) entry with
    | begun h_begins h_open _ h_gate => exact ⟨h_begins, h_open, by rw [h_gate]⟩
    | kept h_same =>
      rw [(Coordination.mk.inj h_same).1] at h_after
      exact absurd h_after h_before
    | recorded _ _ _ _ h_closed => exact absurd h_closed h_before
    | approved _ _ _ _ _ _ h_fresh | resumed _ _ _ _ _ _ h_fresh =>
      obtain ⟨_, _, h_fresh⟩ := h_fresh
      exact absurd h_fresh.h_current.h_closed h_before
  -- while it stays closed, its session stays the same
  have h_same : ∀ mid, begun ++ [entry] <+: mid → mid <+: as →
      ((Db.migrated registry owners).run mid).gate.sessionId =
        some ((Db.migrated registry owners).run begun).supply := by
    intro mid h_mid h_as
    rw [← h_first]
    refine run_constant (f := fun db : Db => db.gate.sessionId) h_mid fun later a h_later h_a => ?_
    have h_now := h_since later h_later ((List.prefix_append later [a]).trans (h_a.trans h_as))
    have h_next := h_since (later ++ [a]) (h_later.trans (List.prefix_append later [a]))
      (h_a.trans h_as)
    simp only [run_concat] at h_next
    cases coordination_move (Framework.run Db.step (Db.migrated registry owners) later) a with
    | kept h_same => rw [(Coordination.mk.inj h_same).1]
    | recorded _ _ _ _ _ _ _ h_gate | approved _ _ _ _ _ _ _ h_gate => rw [h_gate]
    | begun _ h_open =>
      rw [h_open] at h_now
      cases h_now
    | resumed _ _ _ _ _ _ _ _ h_gate =>
      rw [h_gate] at h_next
      cases h_next
  obtain rfl : ((Db.migrated registry owners).run begun).supply = s :=
    Option.some.inj ((h_same as h_entry (List.prefix_refl as)).symm.trans h_session)
  exact ⟨begun, entry, h_entry, h_begins, rfl, h_open, fun mid h_mid h_as =>
    ⟨h_since mid h_mid h_as, h_same mid h_mid h_as⟩⟩

/-- **An approved proof was approved by an `approve` of the run**, and has been the approved
one since. -/
theorem approval_switch (as : List Entry) {p : Uuid}
    (h_approved : ((Db.migrated registry owners).run as).gate.approvedProof = some p) :
    ∃ approved entry, approved ++ [entry] <+: as ∧
      (∃ s fresh coordinator surroundings session proof,
        entry.Approves ((Db.migrated registry owners).run approved) s p fresh ∧
        Recovery.Fresh coordinator surroundings s p ((Db.migrated registry owners).run approved)
          session proof fresh) ∧
      ∀ mid, approved ++ [entry] <+: mid → mid <+: as →
        ((Db.migrated registry owners).run mid).gate.approvedProof = some p := by
  obtain ⟨approved, entry, -, h_entry, h_before, h_since⟩ := run_last_switch
    Db.step (Db.migrated registry owners)
    (P := fun db => db.gate.approvedProof = some p)
    (List.nil_prefix (l := as)) (fun h => by cases h) h_approved
  refine ⟨approved, entry, h_entry, ?_, h_since⟩
  have h_after := h_since _ (List.prefix_refl _) h_entry
  simp only [run_concat] at h_after
  -- only an approval sets the proof, and it sets its own
  cases coordination_move (Framework.run Db.step (Db.migrated registry owners) approved) entry with
  | approved s p' fresh session proof h_approves h_fresh h_gate =>
    obtain ⟨coordinator, surroundings, h_fresh⟩ := h_fresh
    rw [h_gate] at h_after
    obtain rfl : p' = p := Option.some.inj h_after
    exact ⟨s, fresh, coordinator, surroundings, session, proof, h_approves, h_fresh⟩
  | kept h_same =>
    rw [(Coordination.mk.inj h_same).1] at h_after
    exact absurd h_after h_before
  | recorded _ _ _ _ _ _ _ h_gate =>
    rw [h_gate] at h_after
    exact absurd h_after h_before
  | begun _ _ _ h_gate | resumed _ _ _ _ _ _ _ _ h_gate =>
    rw [h_gate] at h_after
    cases h_after

/-! ### The opening of the gate -/

/-- A report has the fingerprint of the database it was made of. -/
theorem observe_fingerprint {coordinator : Recovery.Coordinator}
    {surroundings : Recovery.Surroundings} {session : Session} {db : Db} {report : Report}
    (h : Recovery.observe coordinator surroundings session db = .ok report) :
    report.controlFingerprint = Recovery.fingerprint db surroundings.catalog := by
  unfold Recovery.observe at h
  split at h
  · cases h
  split at h
  · cases h
  split at h
  · cases h
  split at h
  · cases h
  · cases h
    rfl

/-- Equal fingerprints are fingerprints of equal rows. -/
theorem fingerprint_rows {db db' : Db} {catalog catalog' : Catalog}
    (h : Recovery.fingerprint db catalog = Recovery.fingerprint db' catalog') :
    db.toBusiness.rows = db'.toBusiness.rows :=
  congrArg Fingerprint.tables (digest_inj.mp h)

/-- The report of a proof is an observation of the rows at its `verify`. -/
theorem Entry.Records.fingerprint {entry : Entry} {db : Db} {s p : Uuid} {report : Report}
    (h : entry.Records db s p report) :
    ∃ catalog, report.controlFingerprint = Recovery.fingerprint db catalog := by
  obtain ⟨coordinator, surroundings, db', -, h_ok⟩ := h
  obtain ⟨session, h_verified⟩ := Recovery.verify_cases h_ok
  exact ⟨_, observe_fingerprint h_verified.h_report⟩

/-- Two reports agree in the members that an approval is bound to. -/
structure SameEvidence (fresh recorded : Report) : Prop where
  controlFingerprint : fresh.controlFingerprint = recorded.controlFingerprint
  snapshotHash : fresh.snapshotHash = recorded.snapshotHash
  bindingHash : fresh.bindingHash = recorded.bindingHash
  policyHash : fresh.policyHash = recorded.policyHash

/-- A fresh approval has the evidence of its proof. -/
theorem Recovery.Fresh.evidence {coordinator : Recovery.Coordinator}
    {surroundings : Recovery.Surroundings} {s p : Uuid} {db : Db} {session : Session}
    {proof : Proof} {fresh : Report}
    (h : Recovery.Fresh coordinator surroundings s p db session proof fresh) :
    SameEvidence fresh proof.report :=
  ⟨h.h_fingerprint, h.h_snapshot, h.h_binding, h.h_policy⟩

variable (registry owners)

/-- What the opening of the gate by `entry` after the run `as` rests on: the session `s`
and its proof `p`. The three earlier steps come in the order of their names. -/
inductive Reopened (as : List Entry) (entry : Entry) (s p : Uuid) : Prop
  | intro (begun verified approved : List Entry) (entry₀ entry₁ entry₂ : Entry)
      (report fresh₁ fresh₂ : Report)
      (h_begun : begun ++ [entry₀] <+: verified) (h_verified : verified ++ [entry₁] <+: approved)
      (h_approved : approved ++ [entry₂] <+: as)
      -- the session closed the open gate, and no other has since
      (h_begins : entry₀.Begins ((Db.migrated registry owners).run begun) s)
      (h_open : ((Db.migrated registry owners).run begun).gate.mode = .opened)
      (h_closed : ∀ mid, begun ++ [entry₀] <+: mid → mid <+: as →
        ((Db.migrated registry owners).run mid).gate.mode = .closed ∧
          ((Db.migrated registry owners).run mid).gate.sessionId = some s)
      -- the proof is a safe one, recorded for the session
      (h_records : entry₁.Records ((Db.migrated registry owners).run verified) s p report)
      (h_safe : report.safeToResume = true)
      -- it was approved on the same evidence, and is the approved one since
      (h_approves : entry₂.Approves ((Db.migrated registry owners).run approved) s p fresh₁)
      (h_safe₁ : fresh₁.safeToResume = true) (h_same₁ : SameEvidence fresh₁ report)
      (h_bound : ∀ mid, approved ++ [entry₂] <+: mid → mid <+: as →
        ((Db.migrated registry owners).run mid).gate.approvedProof = some p)
      -- and the gate opens on the same evidence
      (h_resumes : entry.Resumes ((Db.migrated registry owners).run as) s p fresh₂)
      (h_safe₂ : fresh₂.safeToResume = true) (h_same₂ : SameEvidence fresh₂ report)
      -- no control row has been written since the proof was recorded
      (h_unwritten : ∀ mid, verified <+: mid → mid <+: as →
        ((Db.migrated registry owners).run mid).toBusiness.rows =
          ((Db.migrated registry owners).run verified).toBusiness.rows)

variable {registry owners}

/-- Of two moments of one run, the one with the smaller supply of ids is the earlier. -/
theorem prefix_of_supply_lt {pre mid as : List Entry} {entry : Entry} (h_pre : pre <+: as)
    (h_mid : mid ++ [entry] <+: as)
    (h_lt : ((Db.migrated registry owners).run mid).supply <
      ((Db.migrated registry owners).run pre).supply) : mid ++ [entry] <+: pre := by
  rcases List.prefix_or_prefix_of_prefix h_mid h_pre with h | h
  · exact h
  · rcases prefix_concat_cases h with rfl | h
    · exact List.prefix_refl _
    · exact absurd h_lt (supply_mono h).not_gt

/-- **Every opening is a reopening.** -/
theorem reopened_of_opened {as : List Entry} {entry : Entry}
    (h_closed : ((Db.migrated registry owners).run as).gate.mode = .closed)
    (h_opened : ((Db.migrated registry owners).run (as ++ [entry])).gate.mode = .opened) :
    ∃ s p, Reopened registry owners as entry s p := by
  simp only [run_concat] at h_opened
  -- only a resume opens the gate
  cases coordination_move (Framework.run Db.step (Db.migrated registry owners) as) entry with
  | kept h_same =>
    rw [(Coordination.mk.inj h_same).1, h_closed] at h_opened
    cases h_opened
  | recorded _ _ _ _ _ _ _ h_gate | approved _ _ _ _ _ _ _ h_gate =>
    rw [h_gate] at h_opened
    exact absurd h_closed (by rw [h_opened]; decide)
  | begun _ _ _ h_gate =>
    rw [h_gate] at h_opened
    cases h_opened
  | resumed s p fresh₂ session proof h_resumes h_fresh h_approved =>
    obtain ⟨_, _, h_fresh⟩ := h_fresh
    obtain ⟨begun, entry₀, h_begun, h_begins, h_key, h_open, h_since⟩ :=
      closing_begin as h_closed h_fresh.h_current.h_gate
    obtain ⟨approved, entry₂, h_entry₂, ⟨s', fresh₁, _, _, session', proof', h_approves,
      h_fresh'⟩, h_bound⟩ := approval_switch as h_approved
    have h_approved_as := (List.prefix_append approved [entry₂]).trans h_entry₂
    -- the proof approved is the proof resumed on
    obtain rfl : proof' = proof := Option.some.inj <|
      (run_stable (P := fun db : Db => db.proofs.lookup p = some proof')
        (fun _ e h => proof_persists e h) h_approved_as h_fresh'.h_proof).symm.trans h_fresh.h_proof
    obtain rfl : s' = s := h_fresh'.h_session.symm.trans h_fresh.h_session
    obtain ⟨verified, entry₁, h_entry₁, h_records, h_shut, h_session⟩ :=
      proof_origin approved h_fresh'.h_proof
    rw [h_fresh'.h_session] at h_records h_session
    have h_verified_as := ((List.prefix_append verified [entry₁]).trans h_entry₁).trans
      h_approved_as
    -- the session had begun when the proof was recorded for it
    have h_order : begun ++ [entry₀] <+: verified := prefix_of_supply_lt h_verified_as h_begun
      (h_key ▸ (coordination_sound registry owners verified).session s' h_session)
    -- equal fingerprints at both ends
    have h_ends : ((Db.migrated registry owners).run as).toBusiness.rows =
        ((Db.migrated registry owners).run verified).toBusiness.rows := by
      obtain ⟨catalog, h_catalog⟩ := h_records.fingerprint
      exact fingerprint_rows ((observe_fingerprint h_fresh.h_observed).symm.trans
        (h_fresh.h_fingerprint.trans h_catalog))
    exact ⟨s', p, begun, verified, approved, entry₀, entry₁, entry₂, proof'.report, fresh₁, fresh₂,
      h_order, h_entry₁, h_entry₂, h_begins, h_open, h_since, h_records, h_fresh.h_safe,
      h_approves, h_fresh'.h_freshSafe, h_fresh'.evidence, h_bound, h_resumes,
      h_fresh.h_freshSafe, h_fresh.evidence, fun mid h_mid h_as => closed_unwritten
        (fun later h_later h_end => (h_since later (h_order.trans h_later) h_end).1) h_ends
        h_mid h_as⟩

/-- A `resume` that commits finds the gate closed by its session, with the proof recorded
for the session, and leaves it open. -/
theorem Entry.Resumes.spec {entry : Entry} {db : Db} {s p : Uuid} {fresh : Report}
    (h : entry.Resumes db s p fresh) : db.gate.mode = .closed ∧ db.gate.sessionId = some s ∧
      (∃ proof, db.proofs.lookup p = some proof ∧ proof.sessionId = s) ∧
      (db.step entry).gate.mode = .opened := by
  obtain ⟨coordinator, surroundings, db', h_tx, h_ok⟩ := h
  obtain ⟨now, tx⟩ := entry
  subst h_tx
  obtain ⟨⟨session, proof, h_fresh⟩, -, rfl⟩ := Recovery.resume_cases h_ok
  have h_step := congrArg (fun outcome => Outcome.commit outcome db) h_ok
  refine ⟨h_fresh.h_current.h_closed, h_fresh.h_current.h_gate,
    ⟨proof, h_fresh.h_proof, h_fresh.h_session⟩, ?_⟩
  change ((Recovery.resume now coordinator surroundings s p db).commit db).gate.mode = _
  dsimp only at h_step
  rw [h_step, Outcome.commit_ok, (Recovery.markSession_frame ..).2.2.2.2.2.1]

/-- **A proof opens the gate once.** After a `resume` on a proof, no later `resume` of the
run is on it. -/
theorem proof_opens_once {as bs : List Entry} {entry entry' : Entry} {s s' p : Uuid}
    {fresh fresh' : Report}
    (h_resumes : entry.Resumes ((Db.migrated registry owners).run as) s p fresh)
    (h_later : as ++ [entry] <+: bs) :
    ¬ entry'.Resumes ((Db.migrated registry owners).run bs) s' p fresh' := by
  intro h_resumes'
  obtain ⟨-, h_session, ⟨proof, h_proof, h_of⟩, h_opened⟩ := h_resumes.spec
  obtain ⟨h_closed, h_session', ⟨proof', h_proof', h_of'⟩, -⟩ := h_resumes'.spec
  -- the proof is still the one recorded for the first session
  obtain rfl : proof = proof' := Option.some.inj <|
    (run_stable (P := fun db : Db => db.proofs.lookup p = some proof)
      (fun _ e h => proof_persists e h) ((List.prefix_append as [entry]).trans h_later)
      h_proof).symm.trans h_proof'
  obtain rfl : s = s' := h_of.symm.trans h_of'
  -- but the second session began after the gate was opened, under a newer id
  obtain ⟨begun, entry₀, h_begun, -, h_key, -, h_since⟩ := closing_begin bs h_closed h_session'
  have h_order : begun ++ [entry₀] <+: as := prefix_of_supply_lt
    ((List.prefix_append as [entry]).trans h_later) h_begun
    (h_key ▸ (coordination_sound registry owners as).session s h_session)
  have h_shut := (h_since (as ++ [entry]) (h_order.trans (List.prefix_append as [entry]))
    h_later).1
  simp only [run_concat] at h_shut
  rw [h_opened] at h_shut
  cases h_shut

end Histories

/-- **The recovery gate.** In every run, (1) each opening of the gate is a `resume` that
rests on what `Reopened` says; (2) two `resume`s on the same proof are the same step of
the run, of the same session; (3) while the gate is closed, a `begin` is refused and
changes nothing. -/
theorem recovery_gate (registry : Table String Destination) (owners : Table String String)
    (log : List Entry) :
    (∀ as entry, as ++ [entry] <+: log →
      ((Db.migrated registry owners).run as).gate.mode = .closed →
      ((Db.migrated registry owners).run (as ++ [entry])).gate.mode = .opened →
      ∃ s p, Reopened registry owners as entry s p) ∧
    (∀ as bs entry entry' s s' p fresh fresh', as ++ [entry] <+: log → bs ++ [entry'] <+: log →
      entry.Resumes ((Db.migrated registry owners).run as) s p fresh →
      entry'.Resumes ((Db.migrated registry owners).run bs) s' p fresh' → as = bs ∧ s = s') ∧
    ∀ now coordinator, ((Db.migrated registry owners).run log).gate.mode = .closed →
      Recovery.begin now coordinator ((Db.migrated registry owners).run log) =
        .error .recoveryAlreadyActive ∧
      (Db.migrated registry owners).run (log ++ [⟨now, .begin coordinator⟩]) =
        (Db.migrated registry owners).run log := by
  refine ⟨fun as entry _ h_closed h_opened => reopened_of_opened h_closed h_opened, ?_, ?_⟩
  · intro as bs entry entry' s s' p fresh fresh' h_as h_bs h_resumes h_resumes'
    -- of two resumes on one proof, the later would find the proof used
    have h_same : as = bs := by
      rcases List.prefix_or_prefix_of_prefix h_as h_bs with h | h
      · rcases concat_prefix_concat_cases h with ⟨h_eq, -⟩ | h
        · exact h_eq
        · exact absurd h_resumes' (proof_opens_once h_resumes h)
      · rcases concat_prefix_concat_cases h with ⟨h_eq, -⟩ | h
        · exact h_eq.symm
        · exact absurd h_resumes (proof_opens_once h_resumes' h)
    subst h_same
    obtain ⟨-, h_session, -⟩ := h_resumes.spec
    obtain ⟨-, h_session', -⟩ := h_resumes'.spec
    exact ⟨rfl, Option.some.inj (h_session.symm.trans h_session')⟩
  · intro now coordinator h_closed
    have h_refused : Recovery.begin now coordinator ((Db.migrated registry owners).run log) =
        .error .recoveryAlreadyActive := by
      unfold Recovery.begin
      rw [if_pos h_closed]
    refine ⟨h_refused, ?_⟩
    simp only [run_concat]
    change (Recovery.begin now coordinator ((Db.migrated registry owners).run log)).commit
      ((Db.migrated registry owners).run log) = _
    rw [h_refused, Outcome.commit_error]

end ControlPlane
