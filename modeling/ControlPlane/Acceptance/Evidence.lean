import ControlPlane.Model.Native
import Mathlib.Data.List.Forall2
import Mathlib.Data.List.Nodup

/-!
# Whose output a result is

Every call of `NativeRun.task` that returns appends a record with a reference to the ECS task
whose output it returns. A `Provider` answers a repeated `RunTask` request with the task it
has launched before, so the arguments of the calls decide whose output a result is.

* `Evidence m calls history` is the account of a run: the calls that have returned, and for
  each a launch of its request whose task the record refers to. `task_then` extends it by one
  call, `ask_then` keeps it.
* `Consistent` is what a provider keeps: one launch for a request, and no task in the launches
  of two. With it the references repeat exactly where the calls do (`Evidence.nodup_iff`).
-/

namespace ControlPlane.Native

open Framework
open Dialogue (check ofOption Ensures)

/-! ### Providers -/

/-- The launch with which an exchange answers the request. -/
def launchOf (request : RunTask) : Exchange Question Question.Answer → Option Launch
  | ⟨.runTask request', answer⟩ => if request' = request then answer else none
  | _ => none

/-- The launch that answered a request first. -/
def launched (history : History) (request : RunTask) : Option Launch :=
  history.findSome? (launchOf request)

/-- The history has a launch for the request. -/
abbrev Launches (history : History) (request : RunTask) (launch : Launch) : Prop :=
  (⟨.runTask request, some launch⟩ : Exchange Question Question.Answer) ∈ history

/-- Providers that answer a request made before with the tasks launched for it, and any other
request with tasks of its own. -/
structure Provider where
  answer : Environment Question Question.Answer
  again : ∀ {history request launch earlier}, launched history request = some earlier →
    answer history (.runTask request) = some (some launch) → launch = earlier
  fresh : ∀ {history request launch}, launched history request = none →
    answer history (.runTask request) = some (some launch) →
    ∀ other earlier, Launches history other earlier → launch.tasks.Disjoint earlier.tasks

/-- A launch that is found is one of the history. -/
theorem launches_of_launched {history : History} {request : RunTask} {launch : Launch}
    (h : launched history request = some launch) : Launches history request launch := by
  obtain ⟨exchange, h_mem, h_answer⟩ := List.exists_of_findSome?_eq_some h
  unfold launchOf at h_answer
  split at h_answer
  next request' answer =>
    obtain ⟨rfl, rfl⟩ := Option.ite_none_right_eq_some.mp h_answer
    exact h_mem
  next => cases h_answer

/-- One launch for a request, and no task in the launches of two requests. -/
def Consistent (history : History) : Prop :=
  ∀ request launch request' launch', Launches history request launch →
    Launches history request' launch' →
    (request = request' → launch = launch') ∧
      (request ≠ request' → launch.tasks.Disjoint launch'.tasks)

/-- A launch was there before, or is the last exchange. -/
theorem launches_concat {history : History} {exchange : Exchange Question Question.Answer}
    {request : RunTask} {launch : Launch} :
    Launches (history ++ [exchange]) request launch ↔
      Launches history request launch ∨ exchange = ⟨.runTask request, some launch⟩ := by
  rw [Launches, List.mem_append, List.mem_singleton, eq_comm (b := exchange)]

/-- The new launch of a provider against one of the history. -/
theorem Provider.launch_against (p : Provider) {history : History} (h : Consistent history)
    {request request' : RunTask} {launch launch' : Launch}
    (h_answer : p.answer history (.runTask request) = some (some launch))
    (h_old : Launches history request' launch') :
    (request = request' → launch = launch') ∧
      (request ≠ request' → launch.tasks.Disjoint launch'.tasks) := by
  cases h_launched : launched history request with
  | none =>
    have h_new := p.fresh h_launched h_answer request' launch' h_old
    refine ⟨?_, fun _ => h_new⟩
    rintro rfl
    have h_missing : launchOf request ⟨.runTask request, some launch'⟩ = none :=
      List.findSome?_eq_none_iff.mp h_launched _ h_old
    rw [launchOf, if_pos rfl] at h_missing
    cases h_missing
  | some earlier =>
    obtain rfl := p.again h_launched h_answer
    exact h _ _ _ _ (launches_of_launched h_launched) h_old

/-- A provider answers equal requests with the same launch. -/
theorem Provider.consistent_concat (p : Provider) {history : History} {q : Question}
    {answer : q.Answer} (h : Consistent history) (h_answer : p.answer history q = some answer) :
    Consistent (history ++ [⟨q, answer⟩]) := by
  intro request launch request' launch' h_left h_right
  rw [launches_concat] at h_left h_right
  rcases h_left with h_left | h_left <;> rcases h_right with h_right | h_right
  · exact h _ _ _ _ h_left h_right
  · cases h_right
    obtain ⟨h_same, h_apart⟩ := p.launch_against h h_answer h_left
    exact ⟨fun h_eq => (h_same h_eq.symm).symm, fun h_ne => List.disjoint_symm (h_apart h_ne.symm)⟩
  · cases h_left
    exact p.launch_against h h_answer h_right
  · cases h_left
    cases h_right
    exact ⟨fun _ => rfl, fun h_ne => absurd rfl h_ne⟩

/-- So every run against it is consistent. -/
theorem Provider.consistent {α : Type} (p : Provider) (program : Controller α) :
    Consistent (program.run p.answer []).2 :=
  Dialogue.run_history (fun _ _ _ h h_answer => p.consistent_concat h h_answer) program
    (by intro _ _ _ _ h; cases h)

/-! ### The account of a run -/

/-- The record that is written, if the question writes one. -/
def Question.entry : Question → Option Record
  | .record entry => some entry
  | _ => none

/-- The records of the calls of `task` that have returned. -/
def returned (history : History) : List Record :=
  history.filterMap fun exchange => exchange.1.entry

/-- The tasks whose output the results are, as the records refer to them. -/
def references (history : History) : List (Digest Arn) :=
  (returned history).map Record.taskReference

/-- The call has been answered by a launch of this one task. -/
def Runs (m : Manifest) (history : History) (call : Call) (arn : Arn) : Prop :=
  Launches history (m.request call) ⟨[arn], false⟩

/-- The calls that have returned are `calls`, and each record refers to the task launched for
its call. -/
def Evidence (m : Manifest) (calls : List Call) (history : History) : Prop :=
  ∃ arns, references history = arns.map digest ∧ List.Forall₂ (Runs m history) calls arns

variable {m : Manifest} {calls : List Call} {call : Call} {history : History} {arn : Arn}

/-- A call that runs still runs. -/
theorem Runs.concat {exchange : Exchange Question Question.Answer} (h : Runs m history call arn) :
    Runs m (history ++ [exchange]) call arn :=
  List.mem_append_left _ h

/-- Different calls are different requests. -/
theorem request_inj {call call' : Call} : m.request call = m.request call' ↔ call = call' := by
  refine ⟨fun h => ?_, fun h => h ▸ rfl⟩
  have h_token := digest_inj.mp (congrArg RunTask.clientToken h)
  obtain ⟨-, h_name, -, h_extra, h_exit⟩ := TokenDocument.mk.inj h_token
  cases call
  cases call'
  exact Call.mk.injEq .. ▸ ⟨h_name, h_extra, h_exit⟩

/-- A record that is written adds its reference. -/
theorem references_concat {q : Question} {answer : q.Answer} :
    references (history ++ [⟨q, answer⟩]) =
      references history ++ (q.entry.map Record.taskReference).toList := by
  rw [references, references, returned, returned, List.filterMap_append, List.map_append]
  congr 1
  cases h_entry : q.entry <;> simp [h_entry]

/-- A question that leaves the records as they are. -/
theorem Evidence.concat_of_quiet {q : Question} {answer : q.Answer}
    (h : Evidence m calls history) (h_quiet : q.entry = none) :
    Evidence m calls (history ++ [⟨q, answer⟩]) := by
  obtain ⟨arns, h_references, h_runs⟩ := h
  refine ⟨arns, ?_, h_runs.imp fun _ _ h_run => h_run.concat⟩
  rw [references_concat, h_quiet, h_references]
  exact List.append_nil _

/-- The record of a call whose task is launched. -/
theorem Evidence.concat_record {entry : Record} {answer : Unit} (h : Evidence m calls history)
    (h_runs : Runs m history call arn) (h_entry : entry.taskReference = digest arn) :
    Evidence m (calls ++ [call]) (history ++ [⟨.record entry, answer⟩]) := by
  obtain ⟨arns, h_references, h_all⟩ := h
  refine ⟨arns ++ [arn], ?_, ?_⟩
  · rw [references_concat, h_references, List.map_append]
    show _ ++ [entry.taskReference] = _ ++ [digest arn]
    rw [h_entry]
  · exact List.rel_append (h_all.imp fun _ _ h_run => h_run.concat)
      (.cons h_runs.concat .nil)

/-- Each call has one reference. -/
theorem Evidence.length_eq (h : Evidence m calls history) :
    (references history).length = calls.length := by
  obtain ⟨arns, h_references, h_runs⟩ := h
  rw [h_references, List.length_map, h_runs.length_eq]

/-- The references repeat exactly where the calls do. -/
theorem Evidence.nodup_iff (h : Evidence m calls history) (h_consistent : Consistent history) :
    (references history).Nodup ↔ calls.Nodup := by
  obtain ⟨arns, h_references, h_runs⟩ := h
  have h_unique : Relator.BiUnique (Runs m history) := by
    constructor
    · intro call call' arn h_left h_right
      by_contra h_ne
      have h_apart := (h_consistent _ _ _ _ h_left h_right).2 (request_inj.not.mpr h_ne)
      exact h_apart (List.mem_singleton_self arn) (List.mem_singleton_self arn)
    · intro call arn arn' h_left h_right
      have h_same := (h_consistent _ _ _ _ h_left h_right).1 rfl
      exact List.singleton_injective (Launch.mk.inj h_same).1
  have h_digest : Function.Injective (digest (α := Arn)) := fun _ _ h => digest_inj.mp h
  rw [h_references, List.nodup_map_iff h_digest]
  exact (List.rel_nodup h_unique h_runs).symm

/-! ### The calls of a program -/

/-- The account where a run may stop: calls that meet `ok`. -/
def Stops (m : Manifest) (ok : List Call → Prop) (history : History) : Prop :=
  ∃ calls, Evidence m calls history ∧ ok calls

section Rules

variable {α β : Type} {ok : List Call → Prop} {Post : α → History → Prop}

/-- The workflow may stop here. -/
theorem Evidence.stops (h : Evidence m calls history) (h_ok : ok calls) : Stops m ok history :=
  ⟨calls, h, h_ok⟩

/-- A question other than `records.append` keeps the account. -/
theorem ask_then {q : Question} {f : q.Answer → Controller α} (h_quiet : q.entry = none)
    (h : Evidence m calls history) (h_ok : ok calls)
    (h_next : ∀ answer history, Evidence m calls history →
      (f answer).Ensures Post (Stops m ok) history) :
    (ask q >>= f).Ensures Post (Stops m ok) history :=
  Ensures.bind (Dialogue.ensures_ask.mpr ⟨h.stops h_ok, fun _ => h.concat_of_quiet h_quiet⟩) h_next

/-- A test, behind which the workflow goes on. -/
theorem check_then {test : Bool} {f : Unit → Controller α} (h : Evidence m calls history)
    (h_ok : ok calls) (h_next : (f ()).Ensures Post (Stops m ok) history) :
    (check test >>= f).Ensures Post (Stops m ok) history := by
  have h_check : (check test : Controller Unit).Ensures (fun _ h' => h' = history) (Stops m ok)
      history := Dialogue.ensures_check (h.stops h_ok) fun _ => rfl
  exact h_check.bind fun _ _ h' => h' ▸ h_next

/-- A value, behind which the workflow goes on. -/
theorem ofOption_then {value : Option β} {f : β → Controller α} (h : Evidence m calls history)
    (h_ok : ok calls) (h_next : ∀ result, (f result).Ensures Post (Stops m ok) history) :
    (ofOption value >>= f).Ensures Post (Stops m ok) history := by
  have h_value : (ofOption value : Controller β).Ensures (fun _ h' => h' = history) (Stops m ok)
      history := Dialogue.ensures_ofOption (h.stops h_ok) fun _ _ => rfl
  exact h_value.bind fun result _ h' => h' ▸ h_next result

end Rules

/-! ### One call of `task` -/

section Task

variable {ok : List Call → Prop}

/-- A program that makes no record keeps the account. -/
def Silent {α : Type} (m : Manifest) (program : Controller α) : Prop :=
  ∀ {ok : List Call → Prop} {calls : List Call} {history : History}, Evidence m calls history →
    ok calls → program.Ensures (fun _ => Evidence m calls) (Stops m ok) history

/-- A part that calls no task, behind which the workflow goes on. -/
theorem silent_then {α β : Type} {Post : β → History → Prop} {program : Controller α}
    {f : α → Controller β} (h_silent : Silent m program) (h : Evidence m calls history)
    (h_ok : ok calls) (h_next : ∀ result history, Evidence m calls history →
      (f result).Ensures Post (Stops m ok) history) :
    (program >>= f).Ensures Post (Stops m ok) history :=
  Ensures.bind (h_silent h h_ok) h_next

/-- `drained` calls no task. -/
theorem silent_drained : Silent m drained := by
  intro ok calls history h h_ok
  refine ask_then rfl h h_ok fun _ _ h => check_then h h_ok ?_
  refine ask_then rfl h h_ok fun busy _ h => ?_
  exact Dialogue.ensures_check (h.stops h_ok) fun _ => h

/-- The check of the host calls no task. -/
theorem silent_hostCheck (host : Option String) : Silent m (hostCheck m host) := by
  intro ok calls history h h_ok
  cases host with
  | none => exact h
  | some host =>
    exact ask_then rfl h h_ok fun _ _ h => Dialogue.ensures_check (h.stops h_ok) fun _ => h

/-- The check of the recovery point calls no task. -/
theorem silent_pointCheck (extra : Extra) : Silent m (pointCheck extra) := by
  intro ok calls history h h_ok
  refine ofOption_then h h_ok fun text => ask_then rfl h h_ok fun point _ h => ?_
  exact ask_then rfl h h_ok fun _ _ h => Dialogue.ensures_check (h.stops h_ok) fun _ => h

/-- The checks of the application call no task. -/
theorem silent_applicationChecks : Silent m (applicationChecks m call) := by
  intro ok calls history h h_ok
  unfold applicationChecks
  split
  next =>
    refine check_then h h_ok (silent_then (silent_hostCheck _) h h_ok fun _ _ h => ?_)
    split
    next => exact silent_pointCheck _ h h_ok
    next => exact h
  next => exact h

/-- The wait for the window calls no task. -/
theorem silent_windowWait (baseline : Instant) : Silent m (windowWait m baseline) := by
  intro ok calls history h h_ok
  unfold windowWait
  split
  next => exact Dialogue.ensures_ask.mpr ⟨h.stops h_ok, fun _ => h.concat_of_quiet rfl⟩
  next => exact h

/-- Stopping tasks calls none. -/
theorem silent_stopAll (arns : List Arn) : Silent m (stopAll arns) := by
  intro ok calls history h h_ok
  induction arns generalizing history with
  | nil => exact h
  | cons arn arns ih => exact ask_then rfl h h_ok fun _ _ h => ih h

/-- While a launched task is observed, its launch stays in the history. -/
theorem runs_then {α : Type} {Post : α → History → Prop} {q : Question}
    {f : q.Answer → Controller α} (h_quiet : q.entry = none) (h : Evidence m calls history)
    (h_runs : Runs m history call arn) (h_ok : ok calls)
    (h_next : ∀ answer history, Evidence m calls history → Runs m history call arn →
      (f answer).Ensures Post (Stops m ok) history) :
    (ask q >>= f).Ensures Post (Stops m ok) history := by
  have h_ask : (ask q).Ensures (fun _ h' => Evidence m calls h' ∧ Runs m h' call arn)
      (Stops m ok) history :=
    Dialogue.ensures_ask.mpr
      ⟨h.stops h_ok, fun _ => ⟨h.concat_of_quiet h_quiet, h_runs.concat⟩⟩
  exact h_ask.bind fun answer h' h_mid => h_next answer h' h_mid.1 h_mid.2

/-- A launched task is observed: its result is returned with a record, or the call raises. -/
theorem observe_evidence (h : Evidence m calls history) (h_runs : Runs m history call arn)
    (h_ok : ok calls) :
    (observe m call arn).Ensures (fun _ => Evidence m (calls ++ [call])) (Stops m ok) history := by
  refine runs_then rfl h h_runs h_ok fun _ _ h h_runs => ?_
  refine runs_then rfl h h_runs h_ok fun stopped _ h h_runs => ?_
  split
  next =>
    refine runs_then rfl h h_runs h_ok fun described _ h h_runs => ?_
    refine runs_then rfl h h_runs h_ok fun logged _ h h_runs => ?_
    refine runs_then rfl h h_runs h_ok fun _ _ h h_runs => ?_
    refine runs_then rfl h h_runs h_ok fun _ _ h h_runs => check_then h h_ok ?_
    refine ofOption_then h h_ok fun events => check_then h h_ok ?_
    split
    next result _ =>
      -- the record is made and the call returns
      have h_record : (ask (.record ⟨call.name, digest arn, call.expectedExit, result⟩)).Ensures
          (fun _ => Evidence m (calls ++ [call])) (Stops m ok) _ :=
        Dialogue.ensures_ask.mpr ⟨h.stops h_ok, fun _ => h.concat_record h_runs rfl⟩
      exact h_record.bind fun _ _ h => h
    next => exact h.stops h_ok
  next =>
    refine ask_then rfl h h_ok fun _ _ h => ask_then rfl h h_ok fun _ _ h => ?_
    exact h.stops h_ok

/-- **One call.** A call that returns has made one record, which refers to the task launched
for it; a call that raises has made none. -/
theorem task_evidence {writesFrozen : Bool} (h : Evidence m calls history) (h_ok : ok calls) :
    (task m writesFrozen call).Ensures (fun _ => Evidence m (calls ++ [call])) (Stops m ok)
      history := by
  refine check_then h h_ok (ask_then rfl h h_ok fun _ _ h => ?_)
  refine silent_then silent_drained h h_ok fun _ _ h => ask_then rfl h h_ok fun _ _ h => ?_
  refine check_then h h_ok (silent_then silent_applicationChecks h h_ok fun _ history h => ?_)
  refine check_then h h_ok ?_
  have h_ask : (ask (.runTask (m.request call))).Ensures
      (fun answer h' => Evidence m calls h' ∧
        ∀ launch, answer = some launch → Launches h' (m.request call) launch)
      (Stops m ok) history := by
    refine Dialogue.ensures_ask.mpr ⟨h.stops h_ok, fun _ => ⟨h.concat_of_quiet rfl, ?_⟩⟩
    rintro launch rfl
    exact launches_concat.mpr (.inr rfl)
  refine h_ask.bind fun answer history h_mid => ?_
  obtain ⟨h, h_launch⟩ := h_mid
  split
  next => exact ask_then rfl h h_ok fun _ _ h => h.stops h_ok
  next arn => exact observe_evidence h (h_launch _ rfl) h_ok
  next launch _ =>
    refine ask_then rfl h h_ok fun _ _ h => silent_then (silent_stopAll _) h h_ok fun _ _ h => ?_
    exact h.stops h_ok

/-- The account of a program after a call that returns. -/
theorem task_then {α : Type} {Post : α → History → Prop} {writesFrozen : Bool}
    {f : Json String → Controller α} (h : Evidence m calls history) (h_ok : ok calls)
    (h_next : ∀ result history, Evidence m (calls ++ [call]) history →
      (f result).Ensures Post (Stops m ok) history) :
    (task m writesFrozen call >>= f).Ensures Post (Stops m ok) history :=
  (task_evidence h h_ok).bind h_next

end Task

end ControlPlane.Native
