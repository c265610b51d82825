import ChatChain.Proofs.CheckedChains
import ChatChain.Proofs.DataFlow

/-!
# Reports tell the truth

The report on a message is changed in many places, and a chain may fail at each of them, even when
its work is done and only its reply is refused.  Whatever the store, the platform and the tasks do,
the report agrees with itself, with the calls on record and with the tasks on record.

There are four groups.

* The report by itself.  `Report.Coherent` says how its states go with what else it says.
* The payloads.  `payloadsOf` reads them off a record of events.
* The tasks.  `Bot.launch?` says on what the tasks of a message are started, `Bot.Accounts` how the
  tasks on record go with that, and `Bot.recorded_of_executed` what is on record of a message whose
  chain runs.
* The result.  `Bot.Truthful` puts the three together, with one lemma for each way through a
  message, and `reports_tell_the_truth` says that the report on every message is truthful.
-/

namespace ChatChain

variable {σ : Type}

open Step

/-! ## The report by itself -/

namespace ChainState

/-- The states of a chain before it ends, in order. -/
def stages : List ChainState :=
  [.parsed, .resolved, .validated, .executing]

/-- The ways through the states of a chain that is not left alone.  It may fail after any stage, and
it completes after the last one; it never leaves the state in which it ended. -/
inductive Path : List ChainState → Prop
  | failed {n : Nat} (hparsed : 0 < n) : Path (stages.take n ++ [.failed])
  | completed : Path (stages ++ [.completed])

end ChainState

namespace Report

/-- Whether what a report says agrees with the states in it. -/
structure Coherent (r : Report) : Prop where
  /-- A message that is left alone is parsed and nothing else. -/
  ignored : r.ignored?.isSome = true ↔ r.history = [.parsed]
  path : r.ignored? = none → ChainState.Path r.history
  failed : r.failure?.isSome = true ↔ r.state = .failed

@[simp] theorem state_enter (r : Report) (s : ChainState) : (r.enter s).state = s := by
  simp [Report.state, enter]

theorem Coherent.of_ignored {r : Report} (hignored : r.ignored?.isSome = true)
    (hhistory : r.history = [.parsed]) (hfailure : r.failure? = none) : r.Coherent where
  ignored := iff_of_true hignored hhistory
  path hnone := by simp [hnone] at hignored
  failed := by simp [hfailure, Report.state, hhistory]

/-- A report that notes a failure as its last state is coherent. -/
theorem Coherent.of_failed {r r' : Report} {n : Nat} (hparsed : 0 < n)
    (hstages : r.history = ChainState.stages.take n)
    (hhistory : r'.history = (r.enter .failed).history) (hignored : r'.ignored? = none)
    (hfailure : r'.failure?.isSome = true) : r'.Coherent where
  ignored := by
    rw [hignored, hhistory, enter, hstages]
    cases n with
    | zero => simp at hparsed
    | succ n => simp [ChainState.stages]
  path _ := by
    rw [hhistory, enter, hstages]
    exact .failed hparsed
  failed := by
    have hstate : r'.state = .failed := by
      rw [Report.state, hhistory]
      exact r.state_enter .failed
    exact iff_of_true hfailure hstate

/-- A report that notes the completion after all stages is coherent. -/
theorem Coherent.of_completed {r : Report} (hstages : r.history = ChainState.stages)
    (hignored : r.ignored? = none) (hfailure : r.failure? = none) :
    (r.enter .completed).Coherent where
  ignored := by simp [enter, hignored, hstages, ChainState.stages]
  path _ := by
    rw [enter, hstages]
    exact .completed
  failed := by
    rw [state_enter]
    simp [enter, hfailure]

end Report

/-! ## The payloads -/

/-- The payloads that were handed over, in order. -/
def payloadsOf (events : List Event) : List Payload :=
  events.filterMap fun
    | .call record => record.call.payload?
    | .run _ => none

@[simp] theorem payloadsOf_append (events events' : List Event) :
    payloadsOf (events ++ events') = payloadsOf events ++ payloadsOf events' := by
  simp [payloadsOf]

@[simp] theorem payloadsOf_runs (runs : List TaskRun) : payloadsOf (runs.map Event.run) = [] := by
  simp [payloadsOf]

/-- Whether none of some calls hands a payload over. -/
def Silent (records : List CallRecord) : Prop :=
  ∀ record ∈ records, record.call.payload? = none

theorem payloadsOf_of_silent {records : List CallRecord} (h : Silent records) :
    payloadsOf (records.map Event.call) = [] := by
  unfold payloadsOf
  rw [List.filterMap_map, List.filterMap_eq_nil_iff]
  exact h

/-- The last payload is that of a call which comes last and hands one over. -/
theorem getLast?_payloadsOf (events : List Event) {record : CallRecord} {p : Payload}
    (h : record.call.payload? = some p) :
    (payloadsOf (events ++ [.call record])).getLast? = some p := by
  simp [payloadsOf, h]

/-- The work of a chain hands no payload over. -/
theorem Bot.Surrounds.payloadsOf_eq_nil {m : Message} {chain : List ChainStep}
    {ephemeral deferred : Bool} {now : Nat} {before after : List CallRecord}
    (h : Bot.Surrounds m chain ephemeral now deferred before after) (runs : List TaskRun) :
    payloadsOf (before.map Event.call ++ (runs.map Event.run ++ after.map Event.call)) = [] := by
  rw [payloadsOf_append, payloadsOf_append, payloadsOf_runs,
    payloadsOf_of_silent fun record hrecord => h.silent (List.mem_append_left _ hrecord),
    payloadsOf_of_silent fun record hrecord => h.silent (List.mem_append_right _ hrecord)]
  rfl

/-! ## The tasks -/

namespace Bot

variable {b : Bot σ} {chainId : String} {m : Message} {w w' : World σ} {chain : List ChainStep}

/-- Shows the user that something happens, before the work of a chain begins. -/
def announce (b : Bot σ) (m : Message) (chain : List ChainStep) : Step σ Unit := do
  if chain.any fun step => step.definition.deferReply then
    let _ ← b.platform.callAside
      (.deferReply m.id (chain.any fun step => step.definition.ephemeralReply))
  else
    let _ ← b.platform.call (.startTyping m.channel)

/-- What the tasks of a chain are started on: its seed and the scene, if there is a seed. -/
def seeded (b : Bot σ) (chainId : String) (m : Message) (chain : List ChainStep) :
    Step σ (Option (Flow × Routine.Scene)) := do
  match ← b.openStore chainId with
  | .error _ => return none
  | .ok store =>
    b.announce m chain
    match ← b.fetchSeed m chain store with
    | (.error _, _) => return none
    | (.ok seed, store) => return some (seed, (← get).scene store)

/-- The chain of a message and what its tasks are started on, if it comes to that. -/
def launch? (b : Bot σ) (chainId : String) (m : Message) (w : World σ) :
    Option (List ChainStep × Flow × Routine.Scene) :=
  let invocations := Invocation.parse b.grammar m.content
  match b.store.isBanned m.author m.guild?, (b.prepare m invocations (b.firstReport m)).2 with
  | .ok false, .ok chain =>
    if invocations = [] then none
    else (b.seeded chainId m chain w).bind fun done => done.1.map fun start => (chain, start)
  | _, _ => none

theorem launch?_eq_none (hnone : b.Ignores m ∨ (∃ failure, b.store.isBanned m.author m.guild? =
      .error failure) ∨ ∃ e, (b.prepare m (Invocation.parse b.grammar m.content)
        (b.firstReport m)).2 = .error e) : b.launch? chainId m w = none := by
  unfold launch?
  simp only
  split
  · next hbanned hprepared =>
    rcases hnone with (hempty | hban) | ⟨failure, hban⟩ | ⟨e, he⟩
    · rw [if_pos hempty]
    · exact absurd (hban.symm.trans hbanned) (by simp)
    · exact absurd (hban.symm.trans hbanned) (by simp)
    · exact absurd (he.symm.trans hprepared) (by simp)
  · rfl

theorem launch?_eq_seeded (hattended : ¬b.Ignores m)
    (hbanned : b.store.isBanned m.author m.guild? = .ok false) {r₀ : Report}
    (hprepared : Prepared b m (Invocation.parse b.grammar m.content) (b.firstReport m) r₀
      (.ok chain)) :
    b.launch? chainId m w =
      (b.seeded chainId m chain w).bind fun done => done.1.map fun start => (chain, start) := by
  have hsome : Invocation.parse b.grammar m.content ≠ [] := fun hnone => hattended (Or.inl hnone)
  simp only [launch?, hbanned, hprepared.prepare_eq, if_neg hsome]

variable {store store' : TempStore} {deferred : Bool} {outcome : Except ChainError Flow}
  {steps : List StepSummary}

/-- Showing the user that something happens hands no payload over. -/
theorem announce_eq_some {done : Unit} (h : b.announce m chain w = some (done, w')) :
    ∃ records, Silent records ∧ CallsOnly records w w' := by
  unfold announce at h
  split at h
  · simp only [bind_eq_some, pure_eq_some] at h
    obtain ⟨⟨_, _⟩, w₁, haside, -, rfl⟩ := h
    obtain ⟨record, hack, -, -, hrecord⟩ := Platform.callAside_eq_some haside
    exact ⟨[record], by simp [Silent, hack, Call.payload?], hrecord⟩
  · simp only [bind_eq_some, pure_eq_some] at h
    obtain ⟨_, w₁, hcall, -, rfl⟩ := h
    obtain ⟨record, hstart, -, hrecord⟩ := Platform.call_eq_some hcall
    exact ⟨[record], by simp [Silent, hstart, Call.payload?], hrecord⟩

/-- Between the announcement and the last calls lies the work by itself. -/
theorem workVisibly_announced (h : b.workVisibly m chain store
      (chain.any fun step => step.definition.ephemeralReply) w =
        some ((deferred, outcome, steps, store'), w')) :
    ∃ w₁ w₂ after, b.announce m chain w = some ((), w₁) ∧
      Works b m chain store w₁ outcome steps store' w₂ ∧ Silent after ∧ CallsOnly after w₂ w' := by
  unfold workVisibly at h
  split at h
  · next hdefers =>
    unfold workDeferred at h
    simp only [bind_eq_some, pure_eq_some, Prod.mk.injEq] at h
    obtain ⟨⟨result, t⟩, w₁, haside, ⟨_, _, _⟩, w₂, hwork, _, w₃, hwait, ⟨rfl, rfl, rfl, rfl⟩,
      rfl⟩ := h
    refine ⟨w₁, w₂, [], ?_, work_cases hwork, by simp [Silent],
      (Platform.waitUntil_eq_some hwait).1⟩
    simp only [announce, hdefers, if_true, bind_eq_some, pure_eq_some]
    exact ⟨(result, t), w₁, haside, trivial, rfl⟩
  · next hplain =>
    unfold workTyping at h
    simp only [bind_eq_some, pure_eq_some, Prod.mk.injEq] at h
    obtain ⟨⟨_, _, _⟩, _, ⟨started, w₁, hstart, ⟨_, _, _⟩, w₂, hwork, stopped, w₃, hstop, hresult,
      rfl⟩, ⟨rfl, hresult'⟩, rfl⟩ := h
    obtain ⟨rfl, rfl, rfl⟩ := hresult
    obtain ⟨rfl, rfl, rfl⟩ := hresult'
    obtain ⟨stop, hstopped, -, hafter⟩ := Platform.call_eq_some hstop
    refine ⟨w₁, w₂, [stop], ?_, work_cases hwork, by simp [Silent, hstopped, Call.payload?], hafter⟩
    rw [announce, if_neg hplain]
    simp only [bind_eq_some, pure_eq_some]
    exact ⟨started, w₁, hstart, trivial, rfl⟩

/-- How the tasks on record of a chain, its outcome and the summaries of its steps go with what its
tasks were started on. -/
inductive Accounts (b : Bot σ) (m : Message) (chain : List ChainStep) :
    Option (Flow × Routine.Scene) → List TaskRun → Except ChainError Flow → List StepSummary → Prop
  | unlaunched (e : ChainError) : Accounts b m chain none [] (.error e) []
  | launched {seed : Flow} {scene : Routine.Scene} {starts : List Start} {e : Execution}
      {outcome : Except ChainError Flow}
      (hexecution : (b.executor m).execute chain seed scene = e)
      (hstarts : Executor.FlowsFrom (b.executor m) 0 chain seed scene starts e)
      (houtcome : e.ending = .ofOutcome outcome) :
      Accounts b m chain (some (seed, scene)) e.runs outcome e.steps

/-- What is on record of a message whose chain runs, and how it goes with the report: no call around
the tasks hands a payload over, the tasks are accounted for, and a reply is sent at last. -/
inductive Recorded (b : Bot σ) (m : Message) (chain : List ChainStep)
    (start? : Option (Flow × Routine.Scene)) (r : Report) : List Event → Report → Prop
  | intro {before after replies : List CallRecord} {runs : List TaskRun} {deferred : Bool}
      {outcome : Except ChainError Flow} {steps : List StepSummary} {files : FileSystem}
      {r' : Report} (hbefore : Silent before) (hafter : Silent after)
      (haccounts : Accounts b m chain start? runs outcome steps)
      (hseen : ∀ reply ∈ replies, reply.files = files)
      (hdelivered : Delivered b m (executedReport r steps) deferred
        (b.payloadOf m chain files deferred outcome steps) replies r') :
      Recorded b m chain start? r
        (before.map Event.call ++ (runs.map Event.run ++ after.map Event.call) ++
          replies.map Event.call) r'

/-- Opening a store, announcing the chain and fetching its seed is what comes before its tasks. -/
theorem seeded_of_fetchSeed {w₁ w₂ w₃ : World σ} {fetched : Except ChainError Flow}
    (hopen : b.openStore chainId w = some (.ok store, w₁))
    (hannounce : b.announce m chain w₁ = some ((), w₂))
    (hfetch : b.fetchSeed m chain store w₂ = some ((fetched, store'), w₃)) :
    b.seeded chainId m chain w =
      some (fetched.toOption.map fun seed => (seed, w₃.scene store'), w₃) := by
  unfold seeded
  rw [bind_of_eq hopen]
  simp only
  rw [bind_of_eq hannounce, bind_of_eq hfetch]
  cases fetched with
  | error e => rfl
  | ok seed => rfl

/-- The tasks on record of a checked chain are accounted for. -/
theorem workVisibly_accounts {w₁ : World σ}
    (hcheck : (b.executor m).check chain (seedKind? chain m) = .ok ())
    (hopen : b.openStore chainId w = some (.ok store, w₁))
    (hwork : b.workVisibly m chain store (chain.any fun step => step.definition.ephemeralReply) w₁ =
      some ((deferred, outcome, steps, store'), w')) :
    ∃ start? w₂, ∃ before after : List CallRecord, ∃ runs,
      b.seeded chainId m chain w = some (start?, w₂) ∧ Silent before ∧ Silent after ∧
      w'.events = w.events ++
        (before.map Event.call ++ (runs.map Event.run ++ after.map Event.call)) ∧
      Accounts b m chain start? runs outcome steps := by
  obtain ⟨w₂, w₃, after, hannounce, hworks, hsilent, hafter⟩ := workVisibly_announced hwork
  obtain ⟨announced, hannounced, hcalls⟩ := announce_eq_some hannounce
  have hevents := (openStore_eq_some hopen).1.events
  have hbefore : ∀ {fetched : Except ChainError Flow} {store₁ : TempStore} {w₄ : World σ},
      b.fetchSeed m chain store w₂ = some ((fetched, store₁), w₄) →
        ∃ before, Silent before ∧ w₄.events = w.events ++ before.map Event.call := by
    intro fetched store₁ w₄ hfetch
    obtain ⟨downloads, w₀, bounds, routine, hdownloads, hfetched, -, -, rfl, -⟩ :=
      fetchSeed_cases hfetch
    refine ⟨announced ++ downloads, fun record hrecord => ?_, ?_⟩
    · rcases List.mem_append.1 hrecord with hrecord | hrecord
      · exact hannounced record hrecord
      · rw [hdownloads.call_eq hrecord]
        rfl
    · rw [← hevents, ← (hcalls.trans hfetched).events]
      rfl
  cases hworks with
  | unfetched hfetch =>
    obtain ⟨before, hquiet, hrecord⟩ := hbefore hfetch
    refine ⟨_, _, before, after, [], seeded_of_fetchSeed hopen hannounce hfetch, hquiet, hsilent,
      ?_, .unlaunched _⟩
    rw [hafter.events, hrecord, List.append_assoc]
    rfl
  | @executed seed store₁ w₄ e _ hfetch hexecution houtcome =>
    obtain ⟨before, hquiet, hrecord⟩ := hbefore hfetch
    have hseed : Executor.seedKind? seed = seedKind? chain m := by
      obtain ⟨_, _, _, _, -, -, -, -, -, hseed⟩ := fetchSeed_cases hfetch
      obtain ⟨_, hok, hkind⟩ | ⟨_, herror, -⟩ := hseed
      · rw [Except.ok.inj hok, hkind]
      · exact absurd herror (by simp)
    obtain ⟨starts, hstarts⟩ := Executor.execute_flows (hseed ▸ hcheck) (w₄.scene store₁)
    rw [hexecution] at hstarts
    refine ⟨_, _, before, after, e.runs, seeded_of_fetchSeed hopen hannounce hfetch, hquiet,
      hsilent, ?_, .launched hexecution hstarts houtcome⟩
    have hnoted : ((w₄.afterScene e.scene).note (e.runs.map Event.run)).events =
        w₄.events ++ e.runs.map Event.run := rfl
    rw [hafter.events, hnoted, hrecord]
    simp only [List.append_assoc]

/-- What is on record of a message whose chain runs. -/
theorem recorded_of_executed {r r₀ : Report} {w₁ w₂ : World σ} (hattended : ¬b.Ignores m)
    (hbanned : b.store.isBanned m.author m.guild? = .ok false)
    (hprepared : Prepared b m (Invocation.parse b.grammar m.content) (b.firstReport m) r₀
      (.ok chain))
    (hopen : b.openStore chainId w = some (.ok store, w₁))
    (hwork : b.workVisibly m chain store (chain.any fun step => step.definition.ephemeralReply) w₁ =
      some ((deferred, outcome, steps, store'), w₂))
    (hdeliver : b.deliver m (executedReport r₀ steps)
      (b.payloadOf m chain w₂.files deferred outcome steps) deferred w₂ = some (r, w')) :
    ∃ start? new, b.launch? chainId m w = start?.map (fun start => (chain, start)) ∧
      w'.events = w.events ++ new ∧ Recorded b m chain start? r₀ new r := by
  obtain ⟨_, -, -, hcheck⟩ := hprepared.of_ok
  obtain ⟨start?, w₀, before, after, runs, hseeded, hbefore, hafter, hevents, haccounts⟩ :=
    workVisibly_accounts hcheck hopen hwork
  obtain ⟨replies, hreplies, hdelivered⟩ := deliver_eq_some hdeliver
  refine ⟨start?, _, ?_, ?_, .intro hbefore hafter haccounts hreplies.seen hdelivered⟩
  · rw [launch?_eq_seeded hattended hbanned hprepared, hseeded]
    rfl
  · rw [hreplies.events, hevents, List.append_assoc]

/-- The summaries count the tasks that returned data of the declared kind. -/
theorem Accounts.counts {start? : Option (Flow × Routine.Scene)} {runs : List TaskRun}
    (h : Accounts b m chain start? runs outcome steps) :
    (start? = none → runs = [] ∧ steps = []) ∧
      ∀ seed scene, start? = some (seed, scene) →
        ∃ starts, Executor.FlowsFrom (b.executor m) 0 chain seed scene starts
            ((b.executor m).execute chain seed scene) ∧
          runs = starts.map Start.run ∧
          steps.length = starts.countP fun s => (s.output? (b.executor m)).isSome := by
  cases h with
  | unlaunched e => exact ⟨fun _ => ⟨rfl, rfl⟩, by simp⟩
  | @launched seed scene starts e outcome hexecution hstarts houtcome =>
    refine ⟨by simp, ?_⟩
    intro seed' scene' hsame
    obtain ⟨rfl, rfl⟩ := Prod.mk.inj (Option.some.inj hsame)
    exact ⟨starts, hexecution ▸ hstarts, hstarts.runs, hstarts.completed_eq⟩

/-- A chain with an outcome has run all its steps. -/
theorem Accounts.completed {start? : Option (Flow × Routine.Scene)} {runs : List TaskRun}
    {data : Flow} (h : Accounts b m chain start? runs (.ok data) steps) :
    ∃ seed scene, start? = some (seed, scene) ∧
      ((b.executor m).execute chain seed scene).ending = .completed data ∧
      ((b.executor m).execute chain seed scene).steps = steps ∧
      runs.map (fun run => run.definition.name) = chain.map (fun step => step.definition.name) ∧
      steps.length = chain.length := by
  cases h with
  | @launched seed scene starts e _ hexecution hstarts houtcome =>
    have hending : e.ending = .completed data := houtcome
    obtain ⟨hall, hlength, -⟩ := hstarts.of_completed hending
    refine ⟨seed, scene, rfl, hexecution ▸ hending, hexecution ▸ rfl, ?_, hlength⟩
    rw [hstarts.runs, ← hall, List.map_map, List.map_map]
    rfl

/-! ## The result -/

/-- Whether a completed chain did what its report says: it ran the commands of the report in order,
all of them, and the call that comes last handed over exactly what was assembled from its
execution. -/
inductive Completes (b : Bot σ) (chainId : String) (m : Message) (w : World σ) (new : List Event)
    (r : Report) : Prop
  | intro {chain : List ChainStep} {seed data : Flow} {scene : Routine.Scene} {record : CallRecord}
      {deferred : Bool} {payload : Payload}
      (hlaunch : b.launch? chainId m w = some (chain, seed, scene))
      (hending : ((b.executor m).execute chain seed scene).ending = .completed data)
      (hcommands : r.commands = chain.map fun step => step.definition.name)
      (hruns : (runsOf new).map (fun run => run.definition.name) = r.commands)
      (hsteps : r.stepsRun = r.commands.length)
      (hlast : new.getLast? = some (.call record)) (hsent : record.succeeded = true)
      (hcall : record.call = .delivery m deferred payload)
      (hpayload : Reply.assemble b.platform.limits record.files
          ((b.executor m).execute chain seed scene).steps data (replyTarget? m deferred)
          (chain.any (fun step => step.definition.ephemeralReply) && deferred) = .ok payload)

/-- Whether the report on a message tells what is on record of it. -/
structure Truthful (b : Bot σ) (chainId : String) (m : Message) (w : World σ) (new : List Event)
    (r : Report) : Prop where
  coherent : r.Coherent
  /-- The text of a failure is what the user was shown last. -/
  shown : ∀ f, r.failure? = some f →
    (payloadsOf new).getLast?.map Payload.content = some f.message
  idle : .executing ∉ r.history → r.stepsRun = 0
  unlaunched : b.launch? chainId m w = none → runsOf new = [] ∧ r.stepsRun = 0
  /-- The count of finished steps is that of the tasks that returned data of the declared kind. -/
  launched : ∀ chain seed scene, b.launch? chainId m w = some (chain, seed, scene) →
    ∃ starts, Executor.FlowsFrom (b.executor m) 0 chain seed scene starts
        ((b.executor m).execute chain seed scene) ∧
      runsOf new = starts.map Start.run ∧
      r.stepsRun = starts.countP fun s => (s.output? (b.executor m)).isSome
  completed : r.state = .completed → b.Completes chainId m w new r

variable {r r' r₀ : Report}

theorem Unready.stages {e : ChainError} {w₁ : World σ} (h : Unready b chainId m w e r w₁) :
    ∃ n, 0 < n ∧ r.history = ChainState.stages.take n := by
  have hprepared : ∀ {result}, Prepared b m (Invocation.parse b.grammar m.content)
      (b.firstReport m) r result → ∃ n, 0 < n ∧ r.history = ChainState.stages.take n := by
    intro result hprepared
    cases hprepared with
    | unresolved hresolve => exact ⟨1, by decide, rfl⟩
    | unbound hresolve hbind => exact ⟨2, by decide, rfl⟩
    | unfit hresolve hbind hcheck => exact ⟨2, by decide, rfl⟩
    | ready hresolve hbind hcheck => exact ⟨3, by decide, rfl⟩
  cases h with
  | unanswered hbanned => exact ⟨1, by decide, rfl⟩
  | refused h => exact hprepared h
  | homeless h hopen => exact hprepared h

theorem Unready.launch?_eq_none {e : ChainError} {w₁ : World σ}
    (h : Unready b chainId m w e r w₁) : b.launch? chainId m w = none := by
  cases h with
  | unanswered hbanned => exact Bot.launch?_eq_none (Or.inr (Or.inl ⟨_, hbanned⟩))
  | refused hprepared =>
    exact Bot.launch?_eq_none (Or.inr (Or.inr ⟨e, by rw [hprepared.prepare_eq]⟩))
  | @homeless failure chain _ _ hprepared hopen =>
    have hseeded : b.seeded chainId m chain w = some (none, w₁) := by
      unfold seeded
      rw [bind_of_eq hopen]
      rfl
    unfold launch?
    simp only [hprepared.prepare_eq]
    split
    · next hchain =>
      obtain rfl := Except.ok.inj hchain
      simp [hseeded]
    · rfl

/-- What the report on a chain that is ready says. -/
theorem Prepared.ready_report
    (h : Prepared b m (Invocation.parse b.grammar m.content) (b.firstReport m) r₀ (.ok chain)) :
    r₀.history = ChainState.stages.take 3 ∧
      r₀.commands = chain.map fun step => step.definition.name := by
  cases h with
  | @ready resolved _ hresolve hbind hcheck =>
    refine ⟨rfl, ?_⟩
    have hcommands := ResolvedStep.map_command_bindFrom hbind
    calc resolved.map (fun step : ResolvedStep => step.command.name)
        = (resolved.map ResolvedStep.command).map Command.name := by
          rw [List.map_map]
          rfl
      _ = (chain.map ChainStep.command).map Command.name := by rw [hcommands]
      _ = chain.map fun step => step.definition.name := List.map_map

namespace Delivered

variable {payload : Except ChainError Payload} {records : List CallRecord}

/-- Sending a reply leaves the counts as they are. -/
theorem counts (h : Delivered b m r deferred payload records r') :
    r'.stepsRun = r.stepsRun ∧ r'.commands = r.commands := by
  cases h <;> exact ⟨rfl, rfl⟩

/-- A chain that was executed ends with its reply. -/
theorem coherent (h : Delivered b m r deferred payload records r')
    (hstages : r.history = ChainState.stages) (hignored : r.ignored? = none)
    (hfailure : r.failure? = none) : r'.Coherent := by
  cases h with
  | complaint hcall => exact .of_failed (n := 4) (by decide) hstages rfl hignored rfl
  | sent hcall hsent => exact .of_completed hstages hignored hfailure
  | refused hfirst hrefused hsecond =>
    exact .of_failed (n := 4) (by decide) hstages rfl hignored rfl

/-- The text of a failure is what the user is shown last. -/
theorem shown (h : Delivered b m r deferred payload records r') (hfailure : r.failure? = none)
    {f : ChainFailure} (hf : r'.failure? = some f) :
    ∃ earlier record p, records = earlier ++ [record] ∧ record.call.payload? = some p ∧
      p.content = f.message := by
  cases h with
  | @complaint e record hcall =>
    obtain rfl := Option.some.inj hf
    exact ⟨[], record, _, rfl, by rw [hcall, Call.payload?_delivery], rfl⟩
  | sent hcall hsent => exact absurd (hfailure.symm.trans hf) (by simp)
  | @refused _ failure first second hfirst hrefused hsecond =>
    obtain rfl := Option.some.inj hf
    exact ⟨[first], second, _, rfl, by rw [hsecond, Call.payload?_delivery], rfl⟩

/-- A chain completes with a reply that the platform takes. -/
theorem completed (h : Delivered b m r deferred payload records r')
    (hstate : r'.state = .completed) :
    ∃ p record, payload = .ok p ∧ records = [record] ∧ record.call = .delivery m deferred p ∧
      record.succeeded = true := by
  cases h with
  | complaint hcall => exact absurd (hstate.symm.trans (r.state_enter .failed)) (by decide)
  | sent hcall hsent => exact ⟨_, _, rfl, rfl, hcall, hsent⟩
  | refused hfirst hrefused hsecond =>
    exact absurd (hstate.symm.trans (r.state_enter .failed)) (by decide)

end Delivered

/-- The report on a message that is left alone. -/
theorem truthful_of_ignored {reason : IgnoreReason} (hignores : b.Ignores m) :
    b.Truthful chainId m w [] { b.firstReport m with ignored? := some reason } where
  coherent := .of_ignored rfl rfl rfl
  shown _ hf := by simp [firstReport] at hf
  idle _ := rfl
  unlaunched _ := ⟨rfl, rfl⟩
  launched _ _ _ hlaunch := by simp [launch?_eq_none (Or.inl hignores)] at hlaunch
  completed hstate := by simp [Report.state, firstReport] at hstate

/-- The report on a message that fails before its chain may run. -/
theorem truthful_of_unready {e : ChainError} {w₁ : World σ} {record : CallRecord}
    (hunready : Unready b chainId m w e r w₁)
    (hcall : record.call = .delivery m false (b.errorPayload m e false)) :
    b.Truthful chainId m w [.call record] (b.failedReport r e false record.succeeded) := by
  obtain ⟨n, hparsed, hstages⟩ := hunready.stages
  obtain ⟨hfresh, -⟩ := hunready.quiet
  have hlaunch := hunready.launch?_eq_none
  refine ⟨.of_failed hparsed hstages rfl hfresh.ignored? rfl, ?_, fun _ => hfresh.stepsRun,
    fun _ => ⟨rfl, hfresh.stepsRun⟩, by simp [hlaunch], ?_⟩
  · intro f hf
    obtain rfl := Option.some.inj hf
    have hp : record.call.payload? = some (b.errorPayload m e false) := by
      rw [hcall, Call.payload?_delivery]
    exact congrArg (Option.map Payload.content) (getLast?_payloadsOf [] hp)
  · intro hstate
    exact absurd (hstate.symm.trans (r.state_enter .failed)) (by decide)

/-- The report on a message whose chain runs. -/
theorem truthful_of_recorded {start? : Option (Flow × Routine.Scene)} {new : List Event}
    (hprepared : Prepared b m (Invocation.parse b.grammar m.content) (b.firstReport m) r₀
      (.ok chain))
    (hlaunch : b.launch? chainId m w = start?.map fun start => (chain, start))
    (h : Recorded b m chain start? r₀ new r) (cleanup : Cleanup) :
    b.Truthful chainId m w new { r with cleanup := cleanup } := by
  obtain @⟨before, after, replies, runs, deferred, outcome, steps, files, _, -, -, haccounts, hseen,
    hdelivered⟩ := h
  obtain ⟨hready, hnames⟩ := hprepared.ready_report
  have hfresh := hprepared.fresh (fresh_firstReport b m)
  obtain ⟨hstepsRun, hcommands⟩ := hdelivered.counts
  have hstages : (executedReport r₀ steps).history = ChainState.stages := by
    rw [executedReport, Report.enter, hready]
    rfl
  have hcoherent : r.Coherent := hdelivered.coherent hstages hfresh.ignored? hfresh.failure?
  obtain ⟨hunlaunched, hlaunched⟩ := haccounts.counts
  refine ⟨⟨hcoherent.ignored, hcoherent.path, hcoherent.failed⟩, ?_, ?_, ?_, ?_, ?_⟩
  · intro f hf
    obtain ⟨earlier, record, p, rfl, hp, hcontent⟩ := hdelivered.shown hfresh.failure? hf
    rw [List.map_append, ← List.append_assoc]
    have hlast := getLast?_payloadsOf (before.map Event.call ++
      (runs.map Event.run ++ after.map Event.call) ++ earlier.map Event.call) hp
    rw [← hcontent]
    exact congrArg (Option.map Payload.content) hlast
  · intro hquiet
    have hexecuted : .executing ∈ r.history :=
      hdelivered.history (by simp [hstages, ChainState.stages])
    exact absurd hexecuted hquiet
  · intro hnone
    obtain ⟨rfl, rfl⟩ := hunlaunched (by simpa [hlaunch] using hnone)
    exact ⟨by simp, hstepsRun⟩
  · intro chain' seed scene hsome
    obtain ⟨⟨seed', scene'⟩, hstart, hsame⟩ := Option.map_eq_some_iff.1 (hlaunch ▸ hsome)
    obtain ⟨rfl, hstarted⟩ := Prod.mk.inj hsame
    obtain ⟨rfl, rfl⟩ := Prod.mk.inj hstarted
    obtain ⟨starts, hstarts, hruns, hcount⟩ := hlaunched seed' scene' hstart
    exact ⟨starts, hstarts, by simpa using hruns, hstepsRun.trans hcount⟩
  · intro hstate
    obtain ⟨p, record, hpayload, rfl, hcall, hsent⟩ := hdelivered.completed hstate
    obtain ⟨data, houtcome, hassemble⟩ := Fallible.bind_eq_ok_iff.1 hpayload
    subst houtcome
    obtain ⟨seed, scene, rfl, hending, hsteps, hruns, hlength⟩ := haccounts.completed
    have hreported : r.commands = chain.map fun step => step.definition.name :=
      hcommands.trans hnames
    refine .intro (hlaunch.trans rfl) hending hreported ?_ ?_ ?_ hsent hcall ?_
    · rw [runsOf_append, runsOf_calls, List.append_nil]
      simpa [hreported] using hruns
    · show r.stepsRun = r.commands.length
      rw [hreported, List.length_map, ← hlength]
      exact hstepsRun
    · simp
    · rw [hseen record (List.mem_singleton.2 rfl), hsteps]
      exact hassemble

end Bot

/-- Whatever the store, the platform and the tasks do, the report on a message that is handled tells
what is on record of it. -/
theorem reports_tell_the_truth {b : Bot σ} {chainId : String} {m : Message} {w w' : World σ}
    {r : Report} (h : b.handle chainId m w = some (r, w')) :
    ∃ new, w'.events = w.events ++ new ∧ b.Truthful chainId m w new r := by
  cases Bot.handle_course h with
  | ignored hignores => exact ⟨[], by simp, Bot.truthful_of_ignored hignores⟩
  | unready hattended hunready hfail =>
    obtain ⟨record, hcall, hrecord, rfl⟩ := Bot.fail_eq_some hfail
    obtain ⟨-, hquiet⟩ := hunready.quiet
    refine ⟨[.call record], ?_, Bot.truthful_of_unready hunready hcall⟩
    rw [hrecord.events, hquiet.events]
    rfl
  | executed hattended hbanned hprepared hopen hwork hdeliver =>
    obtain ⟨start?, new, hlaunch, hevents, hrecorded⟩ :=
      Bot.recorded_of_executed hattended hbanned hprepared hopen hwork hdeliver
    exact ⟨new, hevents, Bot.truthful_of_recorded hprepared hlaunch hrecorded _⟩

namespace Telling

open Console

def message : Message :=
  plainMessage "%echo hi %upper"

/-- The report on `%echo hi %upper` says that two steps were run, and so they were. -/
theorem tells_the_truth :
    ∃ r w', plainBot.handle "1" message { desk := {} } = some (r, w') ∧ r.stepsRun = 2 ∧
      plainBot.Truthful "1" message { desk := {} } w'.events r ∧
      plainBot.Completes "1" message { desk := {} } w'.events r := by
  have hhandle : (plainBot.handle "1" message { desk := {} }).map
      (fun done => (done.1.stepsRun, done.1.state)) = some (2, .completed) := by decide +kernel
  obtain ⟨⟨r, w'⟩, hrun, hreport⟩ := Option.map_eq_some_iff.1 hhandle
  obtain ⟨hsteps, hstate⟩ := Prod.mk.inj hreport
  obtain ⟨new, hevents, htruthful⟩ := reports_tell_the_truth hrun
  obtain rfl : w'.events = new := hevents
  exact ⟨r, w', hrun, hsteps, htruthful, htruthful.completed hstate⟩

end Telling

end ChatChain
