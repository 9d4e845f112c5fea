import Apex.Lib.Raising
import Apex.Proxy.StoreRuns

/-!
The runtime reconciler: which runtimes it provisioned and still has to clean up.

The provider is outside: every answer it gives is an input of the call, and so is
the order in which the hash map of active runtimes is scanned. Beside the map the
world keeps the runtimes that were provisioned and not terminated since.

A runtime can leave the map, or never enter it, while it is still running: a
readiness check that fails after the provisioning, a replacement under the same
key, and a drain or a termination that fails after the entry was taken out all
lose it (`failedDrain_loses_runtime`). Where none of these happens every running
runtime is in the map (`runtimes_held`).
-/

namespace Apex.Reconciler

open Proxy Raising Runs List KeyMap

/-- `ProxyError::provider_failed`. -/
def providerFailed : ProxyError :=
  ⟨"PROXY_PROVIDER_FAILED", "The proxy runtime provider rejected the requested operation."⟩

structure RuntimeHandle where
  containerName : String
  containerId : String
  proxyId : String
  revisionId : String
  deriving DecidableEq, Repr

inductive Readiness where
  | ready
  | starting
  | failed
  deriving DecidableEq, Repr

structure RuntimeKey where
  proxyId : ProxyId
  revisionId : ProxyRevisionId
  deriving DecidableEq, Repr

/-- The reconciler's map, and the runtimes the provider still runs for it. -/
structure Runtimes where
  active : KeyMap RuntimeKey RuntimeHandle
  running : List RuntimeHandle

def Runtimes.init : Runtimes := ⟨∅, []⟩

/-- What the provider answers to the drains and terminations of one call, by their
position in it. -/
structure CleanupAnswers where
  drain : Nat → Except ProxyError Unit
  terminate : Nat → Except ProxyError Unit

/-- What the provider answers during one `reconcile`. -/
structure ReconcileAnswers where
  /-- The readiness of the runtime already in the map. -/
  existing : Except ProxyError Readiness
  provision : Except ProxyError RuntimeHandle
  /-- The readiness of the runtime just provisioned. -/
  fresh : Except ProxyError Readiness
  scan : Scan RuntimeKey RuntimeHandle
  cleanup : CleanupAnswers

abbrev Reconciling (α : Type) : Type := Raising Runtimes ProxyError α

/-- `provider.provision`: a runtime that was provisioned runs. -/
def provision (answer : Except ProxyError RuntimeHandle) : Reconciling RuntimeHandle := do
  let handle ← Raising.ofExcept answer
  Raising.modify fun w => { w with running := handle :: w.running }
  pure handle

/-- `provider.terminate`: a runtime that was terminated runs no more. -/
def terminate (handle : RuntimeHandle) (answer : Except ProxyError Unit) : Reconciling Unit := do
  Raising.ofExcept answer
  Raising.modify fun w => { w with running := w.running.filter (· ≠ handle) }

/-- `provider.drain` and `provider.terminate` of one runtime. -/
def drainAndTerminate (answers : CleanupAnswers) (entry : RuntimeHandle × Nat) :
    Reconciling Unit := do
  Raising.ofExcept (answers.drain entry.2)
  terminate entry.1 (answers.terminate entry.2)

/-- The runtimes of the same proxy under another revision. -/
def Runtimes.others (w : Runtimes) (scan : Scan RuntimeKey RuntimeHandle) (key : RuntimeKey) :
    List RuntimeHandle :=
  ((scan.order w.active).filter fun entry =>
    entry.1.proxyId = key.proxyId ∧ entry.1.revisionId ≠ key.revisionId).map Prod.snd

/-- The map with the runtime as the only one of its proxy. -/
def Runtimes.replace (w : Runtimes) (key : RuntimeKey) (handle : RuntimeHandle) : Runtimes :=
  { w with
    active := AList.insert key handle (w.active.retain fun candidate _ =>
      candidate.proxyId ≠ key.proxyId ∨ candidate.revisionId = key.revisionId) }

/-- `reconcile` from the provisioning on. -/
def provisionAndReplace (key : RuntimeKey) (answers : ReconcileAnswers) :
    Reconciling RuntimeHandle := do
  let handle ← provision answers.provision
  let readiness ← Raising.ofExcept answers.fresh
  if readiness = .ready then do
    let w ← Raising.read
    Raising.modify fun w => w.replace key handle
    Raising.forEach (drainAndTerminate answers.cleanup)
      (w.others answers.scan key).zipIdx
    pure handle
  else Raising.raise providerFailed

def runtimeKey (revision : McpProxyRevision) : RuntimeKey :=
  ⟨revision.proxyId, revision.revisionId⟩

/-- `reconcile`. -/
def reconcile (revision : McpProxyRevision) (answers : ReconcileAnswers) :
    Reconciling RuntimeHandle := do
  let key := runtimeKey revision
  let w ← Raising.read
  match w.active.lookup key with
  | some handle => do
      let readiness ← Raising.ofExcept answers.existing
      if readiness = .ready then pure handle else provisionAndReplace key answers
  | none => provisionAndReplace key answers

/-- `pause`. -/
def pause (key : RuntimeKey) (answer : Except ProxyError Unit) : Reconciling Unit := do
  let w ← Raising.read
  match w.active.lookup key with
  | some _ => Raising.ofExcept answer
  | none => Raising.raise providerFailed

/-- `retire`. -/
def retire (key : RuntimeKey) (answers : CleanupAnswers) : Reconciling Unit := do
  let w ← Raising.read
  match w.active.lookup key with
  | some handle => do
      Raising.modify fun w => { w with active := AList.erase key w.active }
      drainAndTerminate answers (handle, 0)
  | none => Raising.raise providerFailed

inductive RuntimeCall where
  | reconcile (revision : McpProxyRevision) (answers : ReconcileAnswers)
  | pause (key : RuntimeKey) (answer : Except ProxyError Unit)
  | retire (key : RuntimeKey) (answers : CleanupAnswers)

def runtimeStep (w : Runtimes) : RuntimeCall → Runtimes
  | .reconcile revision answers => (reconcile revision answers w).1
  | .pause key answer => (pause key answer w).1
  | .retire key answers => (retire key answers w).1

/-! ### Running runtimes are held -/

/-- Every runtime that was provisioned and not terminated since is in the map. -/
def Held (w : Runtimes) : Prop :=
  ∀ handle ∈ w.running, ∃ key, w.active.lookup key = some handle

/-- The call gets past the runtime already in the map. -/
def Provisions (w : Runtimes) (key : RuntimeKey) (answers : ReconcileAnswers) : Prop :=
  w.active.lookup key = none ∨ ∃ readiness, answers.existing = .ok readiness ∧ readiness ≠ .ready

/-- The provider drains and terminates the first `count` runtimes of the call. -/
def CleanupAnswers.Succeed (answers : CleanupAnswers) (count : Nat) : Prop :=
  ∀ index < count, answers.drain index = .ok () ∧ answers.terminate index = .ok ()

/-- The provider's answers lose no runtime in this call: what is provisioned becomes
ready or is in the map already, it replaces no other runtime under its key, and
what is taken out of the map is drained and terminated. -/
def Careful (w : Runtimes) : RuntimeCall → Prop
  | .reconcile revision answers =>
      Provisions w (runtimeKey revision) answers → ∀ handle, answers.provision = .ok handle →
        (answers.fresh = .ok .ready →
          (∀ replaced, w.active.lookup (runtimeKey revision) = some replaced → replaced = handle) ∧
          answers.cleanup.Succeed (w.others answers.scan (runtimeKey revision)).length) ∧
        (answers.fresh ≠ .ok .ready → ∃ key, w.active.lookup key = some handle)
  | .pause _ _ => True
  | .retire key answers => key ∈ w.active → answers.Succeed 1

variable {answers : CleanupAnswers} {w : Runtimes} {key : RuntimeKey}

theorem drainAndTerminate_meets {entry : RuntimeHandle × Nat} {active} {P : RuntimeHandle → Prop}
    (drained : answers.drain entry.2 = .ok ()) (terminated : answers.terminate entry.2 = .ok ()) :
    Meets (fun w => w.active = active ∧ ∀ handle ∈ w.running, handle = entry.1 ∨ P handle)
      (drainAndTerminate answers entry)
      (fun _ w => w.active = active ∧ ∀ handle ∈ w.running, P handle) (fun _ => False) := by
  refine meets_iff.mpr fun w before => ?_
  simp only [drainAndTerminate, terminate, drained, terminated]
  refine ⟨before.1, fun handle mem => ?_⟩
  obtain ⟨runs, other⟩ := mem_filter.mp mem
  exact (before.2 handle runs).resolve_left (of_decide_eq_true other)

/-- A cleanup in which nothing fails leaves none of its runtimes running. -/
theorem cleanup_meets {entries active} {P : RuntimeHandle → Prop} (succeed : ∀ entry ∈ entries,
      answers.drain entry.2 = .ok () ∧ answers.terminate entry.2 = .ok ()) :
    Meets
      (fun w => w.active = active ∧
        ∀ handle ∈ w.running, handle ∈ entries.map Prod.fst ∨ P handle)
      (Raising.forEach (drainAndTerminate answers) entries)
      (fun _ w => w.active = active ∧ ∀ handle ∈ w.running, P handle) (fun _ => False) := by
  induction entries with
  | nil =>
    refine .pure fun w before => ⟨before.1, fun handle runs => ?_⟩
    exact (before.2 handle runs).resolve_left (not_mem_nil)
  | cons entry rest ih =>
    obtain ⟨first, later⟩ := forall_mem_cons.mp succeed
    refine .bind (Q := fun _ w => w.active = active ∧
      ∀ handle ∈ w.running, handle ∈ rest.map Prod.fst ∨ P handle) ?_ fun _ => ih later
    refine (drainAndTerminate_meets first.1 first.2).pre fun w before => ?_
    refine ⟨before.1, fun handle runs => ?_⟩
    simpa only [map_cons, mem_cons, or_assoc] using before.2 handle runs

/-- What is in the map after the replacement. -/
theorem lookup_replace {other held} (handle : RuntimeHandle)
    (found : w.active.lookup other = some held) (differs : other ≠ key) :
    (w.replace key handle).active.lookup other = some held ∨
      other.proxyId = key.proxyId ∧ other.revisionId ≠ key.revisionId := by
  rw [Runtimes.replace, lookup_insert_eq, if_neg differs, lookup_retain, found]
  by_cases sibling : other.proxyId = key.proxyId ∧ other.revisionId ≠ key.revisionId
  · exact .inr sibling
  · refine .inl (Option.filter_eq_some_iff.mpr ⟨rfl, ?_⟩)
    rw [decide_eq_true_eq]
    tauto

theorem lookup_replace_self {handle} :
    (w.replace key handle).active.lookup key = some handle := by
  rw [Runtimes.replace, AList.lookup_insert]

/-- A handle that ran before the replacement is in the map after it, or is one of
those to clean up. -/
theorem held_or_others {scan handle held} (known : ∃ other, w.active.lookup other = some held)
    (replaced : ∀ old, w.active.lookup key = some old → old = handle) :
    held ∈ w.others scan key ∨ ∃ other, (w.replace key handle).active.lookup other = some held := by
  obtain ⟨other, found⟩ := known
  by_cases same : other = key
  · subst same
    rw [replaced held found]
    exact .inr ⟨other, lookup_replace_self⟩
  · cases lookup_replace handle found same with
    | inl kept => exact .inr ⟨other, kept⟩
    | inr sibling =>
      refine .inl (mem_map.mpr ⟨(other, held), mem_filter.mpr ⟨?_, ?_⟩, rfl⟩)
      · exact (scan.mem_order w.active).mpr found
      · exact decide_eq_true sibling

theorem provisionAndReplace_held {answers : ReconcileAnswers} (held : Held w)
    (careful : ∀ handle, answers.provision = .ok handle →
      (answers.fresh = .ok .ready →
        (∀ replaced, w.active.lookup key = some replaced → replaced = handle) ∧
        answers.cleanup.Succeed (w.others answers.scan key).length) ∧
      (answers.fresh ≠ .ok .ready → ∃ other, w.active.lookup other = some handle)) :
    Meets (· = w) (provisionAndReplace key answers) (fun _ => Held) Held := by
  have provisioned : Meets (· = w) (provision answers.provision)
      (fun handle w' => answers.provision = .ok handle ∧
        w' = { w with running := handle :: w.running }) Held := by
    refine .bind (Q := fun handle w' => answers.provision = .ok handle ∧ w' = w) ?_ fun handle => ?_
    · refine .ofExcept (fun _ _ answered same => ⟨answered, same⟩) ?_
      rintro _ _ _ rfl
      exact held
    · refine .bind (Q := fun _ w' => answers.provision = .ok handle ∧
        w' = { w with running := handle :: w.running }) (.modify ?_)
        fun _ => .pure fun _ same => same
      rintro _ ⟨answered, rfl⟩
      exact ⟨answered, rfl⟩
  refine .bind provisioned fun handle => .assume (fun _ before => before.1) fun answered => ?_
  obtain ⟨whenReady, otherwise⟩ := careful handle answered
  have lost : answers.fresh ≠ .ok .ready →
      Held { w with running := handle :: w.running } := by
    intro unready other runs
    rcases mem_cons.mp runs with rfl | runs
    · exact otherwise unready
    · exact held other runs
  refine .bind (Q := fun readiness w' => answers.fresh = .ok readiness ∧
    w' = { w with running := handle :: w.running }) ?_ fun readiness => ?_
  · refine .ofExcept (fun _ _ checked before => ⟨checked, before.2⟩) ?_
    rintro e _ failed ⟨-, rfl⟩
    exact lost fun ready => nomatch failed.symm.trans ready
  refine .assume (fun _ before => before.1) fun checked => .ite (fun ready => ?_) fun unready => ?_
  · subst ready
    obtain ⟨replaced, succeed⟩ := whenReady checked
    refine .readBind (fun _ before => before.2) ?_
    rintro _ rfl
    refine .bind (Q := fun _ w' => w'.active = (w.replace key handle).active ∧
      ∀ other ∈ w'.running, other ∈ ((w.others answers.scan key).zipIdx.map Prod.fst) ∨
        ∃ known, (w.replace key handle).active.lookup known = some other) (.modify ?_) fun _ => ?_
    · rintro _ ⟨-, rfl⟩
      refine ⟨rfl, fun other runs => ?_⟩
      rw [zipIdx_map_fst]
      rcases mem_cons.mp runs with rfl | runs
      · exact .inr ⟨key, lookup_replace_self⟩
      · exact held_or_others (held other runs) replaced
    · refine .bind (Q := fun _ => Held) ?_ fun _ => .pure fun _ after => after
      refine (cleanup_meets ?_).mono (fun _ before => before) ?_ fun _ impossible => impossible.elim
      · rintro ⟨old, index⟩ mem
        have within := (mem_zipIdx mem).2.1
        rw [Nat.zero_add] at within
        exact succeed index within
      · rintro _ w' ⟨same, known⟩ other runs
        rw [same]
        exact known other runs
  · refine .raise ?_
    rintro _ ⟨-, rfl⟩
    refine lost fun ready => unready ?_
    exact Except.ok.inj (checked.symm.trans ready)

theorem reconcile_held {revision answers} (held : Held w)
    (careful : Careful w (.reconcile revision answers)) :
    Meets (· = w) (reconcile revision answers) (fun _ => Held) Held := by
  have unchanged : ∀ w', w' = w → Held w' := by
    rintro _ rfl
    exact held
  refine .readBind (fun _ same => same) ?_
  rintro seen rfl
  split
  · rename_i handle found
    refine .bind (Q := fun readiness w' => answers.existing = .ok readiness ∧ w' = seen)
      (.ofExcept (fun _ _ checked same => ⟨checked, same⟩) fun _ _ _ => unchanged _)
      fun readiness => .assume (fun _ before => before.1) fun checked => ?_
    refine .ite (fun _ => .pure fun _ before => unchanged _ before.2) fun unready => ?_
    exact (provisionAndReplace_held held (careful (.inr ⟨readiness, checked, unready⟩))).pre
      fun _ before => before.2
  · rename_i absent
    exact provisionAndReplace_held held (careful (.inl absent))

theorem pause_held {answer} (held : Held w) :
    Meets (· = w) (pause key answer) (fun _ => Held) Held := by
  have unchanged : ∀ w', w' = w → Held w' := by
    rintro _ rfl
    exact held
  refine .readBind (fun _ same => same) fun seen _ => ?_
  split
  · exact .ofExcept (fun _ _ _ => unchanged _) fun _ _ _ => unchanged _
  · exact .raise unchanged

theorem retire_held (held : Held w) (careful : Careful w (.retire key answers)) :
    Meets (· = w) (retire key answers) (fun _ => Held) Held := by
  refine .readBind (fun _ same => same) ?_
  rintro seen rfl
  split
  · rename_i handle found
    obtain ⟨drained, terminated⟩ :=
      careful (mem_of_lookup found) 0 Nat.one_pos
    refine .bind (Q := fun _ w' => w'.active = AList.erase key seen.active ∧
      ∀ other ∈ w'.running, other = handle ∨
        ∃ known, (AList.erase key seen.active).lookup known = some other) (.modify ?_) fun _ => ?_
    · rintro _ rfl
      refine ⟨rfl, fun other runs => ?_⟩
      obtain ⟨known, holds⟩ := held other runs
      by_cases same : known = key
      · subst same
        exact .inl (Option.some.inj (holds.symm.trans found))
      · exact .inr ⟨known, by rw [AList.lookup_erase_ne same, holds]⟩
    · refine (drainAndTerminate_meets drained terminated).mono (fun _ before => before) ?_
        fun _ impossible => impossible.elim
      rintro _ w' ⟨same, known⟩ other runs
      rw [same]
      exact known other runs
  · exact .raise fun _ same => same ▸ held

theorem held_step {call} (held : Held w) (careful : Careful w call) :
    Held (runtimeStep w call) := by
  cases call with
  | reconcile revision answers => exact (reconcile_held held careful).ends rfl
  | pause key answer => exact (pause_held held).ends rfl
  | retire key answers => exact (retire_held held careful).ends rfl

/-- Over every sequence of calls in which the provider loses nothing, every runtime
that was provisioned and not terminated since is in the map. -/
theorem runtimes_held (calls : List RuntimeCall)
    (careful : AllSteps runtimeStep Careful Runtimes.init calls) :
    Always runtimeStep Held Runtimes.init calls := by
  refine always_of_allSteps (fun _ _ held step => held_step held step) ?_ careful
  intro handle runs
  cases runs

/-! ### The portfolio proxy's runtime -/

def portfolioRevision : McpProxyRevision where
  proxyId := portfolioProxyId
  revisionId := portfolioRevisionId
  spec := portfolioSpec
  configHash := portfolioDigest (specJson portfolioSpec)
  lifecycleState := .ready
  redactionStatus := .redacted
  createdBy := "o"
  createdAt := formatRfc3339Micros 1700000000000000

def portfolioHandle : RuntimeHandle :=
  ⟨"apex-mcp-proxy", "id", portfolioProxyId.text, portfolioRevisionId.text⟩

/-- The runtime is provisioned and found ready. -/
def portfolioReconcile : RuntimeCall :=
  .reconcile portfolioRevision
    { existing := .ok .ready
      provision := .ok portfolioHandle
      fresh := .ok .ready
      scan := .stored _ _
      cleanup := ⟨fun _ => .ok (), fun _ => .ok ()⟩ }

def portfolioRetire (drain : Except ProxyError Unit) : RuntimeCall :=
  .retire (runtimeKey portfolioRevision) ⟨fun _ => drain, fun _ => .ok ()⟩

theorem runtimes_held_portfolio :
    AllSteps runtimeStep Careful Runtimes.init [portfolioReconcile, portfolioRetire (.ok ())] ∧
      Always runtimeStep Held Runtimes.init [portfolioReconcile, portfolioRetire (.ok ())] := by
  have careful : AllSteps runtimeStep Careful Runtimes.init
      [portfolioReconcile, portfolioRetire (.ok ())] := by
    refine ⟨?_, fun _ _ _ => ⟨rfl, rfl⟩, trivial⟩
    rintro _ handle answered
    refine ⟨fun _ => ⟨?_, fun _ _ => ⟨rfl, rfl⟩⟩, fun unready => absurd rfl unready⟩
    rintro replaced found
    cases found
  exact ⟨careful, runtimes_held _ careful⟩

/-- A drain that fails while the runtime is retired leaves it running outside the
map. -/
theorem failedDrain_loses_runtime :
    ¬ Always runtimeStep Held Runtimes.init
      [portfolioReconcile, portfolioRetire (.error providerFailed)] := by
  intro always
  have ended := always.last
  obtain ⟨key, found⟩ := ended portfolioHandle (by decide +kernel)
  have empty : (run runtimeStep Runtimes.init
      [portfolioReconcile, portfolioRetire (.error providerFailed)]).active.entries = [] := by
    decide +kernel
  rw [KeyMap.mem_lookup_iff, empty] at found
  cases found

end Apex.Reconciler
