import ChatChain.Builtin
import ChatChain.Console.Delivery
import ChatChain.Proofs.Reports

/-!
# Answers on a platform that works

A platform that works answers every call, as long as no files are handed over to it.  There a
message whose chain begins with no data, does not get stuck and returns no files is answered with
what the chain came to, whatever its tasks do.

There are three groups.

* The platform.  `Platform.Works` says which calls a platform must answer, and `Console.works` that
  the console does.
* The stages.  The chain gets its store (`exists_openStore`), is worked on
  (`exists_workVisibly_of_execute`), and its reply is delivered (`exists_deliver`).  `Bot.Tells`
  says what the report and the payloads then tell.
* The whole.  `Bot.exists_handle_of_execute` follows a message from its prepared chain to the end;
  what is left to say of a message is how its chain is prepared and what running it comes to.
-/

namespace ChatChain

open Fallible Text

variable {σ : Type}

/-! ## The platform -/

/-- Whether a platform works as long as no files are handed over: then every call returns with
success, and the root of the temporary storage is there. -/
structure Platform.Works (p : Platform σ) : Prop where
  returns : ∀ call files desk, (∀ payload ∈ call.payload?, payload.files = []) →
    ∃ delay, (p.react call files desk).delay? = some delay ∧
      (p.react call files desk).result = .ok ()
  root : ∀ chainId desk, (p.ensureRoot chainId desk).1 = .ok ()

theorem Platform.Works.exists_call {p : Platform σ} (h : p.Works) (call : Call)
    (hcall : ∀ payload ∈ call.payload?, payload.files = []) (w : World σ) :
    ∃ w', p.call call w = some (.ok (), w') := by
  obtain ⟨delay, hdelay, hresult⟩ := h.returns call w.files w.desk hcall
  have haside : ∃ w₁, p.callAside call w = some ((.ok (), w.clock + delay), w₁) := by
    simp [Platform.callAside, hdelay, hresult]
  obtain ⟨w₁, haside⟩ := haside
  unfold Platform.call
  rw [Step.bind_of_eq haside]
  exact ⟨_, rfl⟩

/-- A console without a directory for temporary files works: all it can fail at is copying files. -/
theorem Console.works (limits : Limits) (outputDir? : Option String) :
    (Console.platform limits outputDir? none).Works where
  returns call files desk hcall := by
    have hdeliver : ∀ header payload, payload.files = [] →
        (Console.deliver files outputDir? header payload desk).delay? = some 0 ∧
          (Console.deliver files outputDir? header payload desk).result = .ok () := by
      intro header payload hfiles
      simp [Console.deliver, hfiles, Console.fileLines]
    refine ⟨0, ?_⟩
    cases call with
    | startTyping channel => exact ⟨rfl, rfl⟩
    | stopTyping channel => exact ⟨rfl, rfl⟩
    | createMessage channel payload => exact hdeliver _ payload (hcall payload rfl)
    | deferReply message ephemeral => exact ⟨rfl, rfl⟩
    | reply message payload => exact hdeliver _ payload (hcall payload rfl)
    | download message => exact ⟨rfl, rfl⟩
  root chainId desk := rfl

namespace Bot

variable {b : Bot σ} {chainId : String} {m : Message} {w w₁ : World σ} {r : Report}
  {chain : List ChainStep} {store : TempStore}

/-- Whether a bot with the built-in commands and others can answer a message: its platform works,
the chain gets its store, and nobody is banned and nothing cancelled. -/
structure Serves (b : Bot σ) (others : List Command) (chainId : String) (m : Message)
    (w : World σ) : Prop where
  mark : isBlank b.grammar.commandMark = false
  registry : Builtin.registry b.grammar others = .ok b.registry
  platform : b.platform.Works
  store : ∃ store, (TempStore.openIn [] w.files chainId).1 = .ok store
  admitted : b.store.isBanned m.author m.guild? = .ok false
  uncancelled : b.cancelAt? = none

/-! ## The stages -/

theorem exists_openStore (hworks : b.platform.Works)
    (hstore : (TempStore.openIn [] w.files chainId).1 = .ok store) :
    ∃ w₁, b.openStore chainId w = some (.ok store, w₁) := by
  have hroot := hworks.root chainId w.desk
  unfold openStore
  generalize b.platform.ensureRoot chainId w.desk = answer at hroot
  obtain ⟨root, desk⟩ := answer
  obtain rfl : root = .ok () := hroot
  simp [hstore]

/-- On a platform that works, a chain that begins with no data and does not get stuck is worked on
while the bot is typing.  Nothing but its own run changes the files, its tasks are on record, and no
payload is handed over. -/
theorem exists_workVisibly_of_execute (hworks : b.platform.Works)
    (hplain : (chain.any fun step => step.definition.deferReply) = false)
    (hseed : startsWithAttachments chain m = false) (store : TempStore) (ephemeral : Bool)
    (w : World σ) {P : Execution → Except ChainError Flow → Prop}
    (hexecute : ∀ clock, ∃ e outcome, P e outcome ∧ e.ending = .ofOutcome outcome ∧
      (b.executor m).execute chain .nothing { w.scene store with clock } = e) :
    ∃ e outcome w' new, P e outcome ∧
      b.workVisibly m chain store ephemeral w =
        some ((false, outcome, e.steps, e.scene.store), w') ∧
      w'.files = e.scene.files ∧ w'.handedOut = e.scene.handedOut ∧ w'.events = w.events ++ new ∧
      runsOf new = e.runs ∧ payloadsOf new = [] := by
  obtain ⟨w₁, hstart⟩ := hworks.exists_call (.startTyping m.channel) (by simp [Call.payload?]) w
  obtain ⟨started, hstarted, -, hbefore⟩ := Platform.call_eq_some hstart
  have hscene : w₁.scene store = { w.scene store with clock := w₁.clock } := by
    simp [World.scene, hbefore.files, hbefore.handedOut]
  obtain ⟨e, outcome, he, houtcome, hrun⟩ := hexecute w₁.clock
  rw [← hscene] at hrun
  have hfetch : b.fetchSeed m chain store w₁ = some ((.ok .nothing, store), w₁) := by
    simp only [fetchSeed, hseed]
    rfl
  have hwork := work_of_executed hfetch hrun houtcome
  obtain ⟨w₃, hstop⟩ := hworks.exists_call (.stopTyping m.channel) (by simp [Call.payload?])
    ((w₁.afterScene e.scene).note (e.runs.map Event.run))
  obtain ⟨stopped, hstopped, -, hafter⟩ := Platform.call_eq_some hstop
  have hvisible := workVisibly_of_typing ephemeral hplain hstart hwork hstop
  refine ⟨e, outcome, w₃, _, he, hvisible, hafter.files, hafter.handedOut,
    events_of_work hbefore hafter, ?_, ?_⟩
  · rw [runsOf_append, runsOf_append, runsOf_calls, runsOf_runs, runsOf_calls, List.nil_append,
      List.append_nil]
  · rw [payloadsOf_append, payloadsOf_append, payloadsOf_runs]
    simp [payloadsOf, hstarted, hstopped, Call.payload?]

theorem exists_dispatch (hworks : b.platform.Works) {payload : Payload}
    (hfiles : payload.files = []) (w : World σ) :
    ∃ w', b.dispatch m payload false w = some (.ok .message, w') := by
  have hcall : ∀ p ∈ (Call.createMessage m.channel payload).payload?, p.files = [] := by
    intro p hp
    obtain rfl := Option.some.inj hp
    exact hfiles
  obtain ⟨w', hw'⟩ := hworks.exists_call _ hcall w
  refine ⟨w', ?_⟩
  simp only [dispatch, Bool.false_eq_true, if_false]
  rw [Step.bind_of_eq hw']
  rfl

/-- A platform that works takes a reply without files. -/
theorem exists_deliver_ok (hworks : b.platform.Works) {payload : Payload}
    (hfiles : payload.files = []) (r : Report) (w : World σ) :
    ∃ w' record, b.deliver m r (.ok payload) false w =
        some (Report.enter { r with reply := .message } .completed, w') ∧
      CallsOnly [record] w w' ∧ payloadsOf [.call record] = [payload] := by
  obtain ⟨w', hdispatch⟩ := exists_dispatch (m := m) hworks hfiles w
  obtain ⟨record, hcall, -, -, hrecord⟩ := dispatch_eq_some hdispatch
  refine ⟨w', record, ?_, hrecord, by simp [payloadsOf, hcall]⟩
  show (b.dispatch m payload false >>= _) w = _
  rw [Step.bind_of_eq hdispatch]
  rfl

/-- A platform that works takes the reply for an error. -/
theorem exists_deliver_error (hworks : b.platform.Works) (e : ChainError) (r : Report)
    (w : World σ) :
    ∃ w' record, b.deliver m r (.error e) false w = some (b.failedReport r e false true, w') ∧
      CallsOnly [record] w w' ∧ payloadsOf [.call record] = [b.errorPayload m e false] := by
  have hfiles : (b.errorPayload m e false).files = [] := rfl
  obtain ⟨w', hdispatch⟩ := exists_dispatch (m := m) hworks hfiles w
  obtain ⟨record, hcall, -, -, hrecord⟩ := dispatch_eq_some hdispatch
  refine ⟨w', record, ?_, hrecord, by simp [payloadsOf, hcall]⟩
  show (b.dispatch m (b.errorPayload m e false) false >>= _) w = _
  rw [Step.bind_of_eq hdispatch]
  rfl

/-- Whether a chain came to a result: the one reply shows it, unless it is too long, and then the
chain failed because of that. -/
structure ShowsResult (b : Bot σ) (result : String) (r : Report) (payloads : List Payload) :
    Prop where
  shown : result.length ≤ b.platform.limits.maxText →
    r.state = .completed ∧ ∃ p, payloads = [p] ∧ p.content = Reply.shown result
  refused : b.platform.limits.maxText < result.length →
    r.state = .failed ∧ ∃ f, r.failure? = some f ∧ f.reasonCode = "message_too_long"

/-- Whether the report and the payloads tell what a chain without files came to: the one reply shows
the texts of its steps, or is the one for its error. -/
structure Tells (b : Bot σ) (m : Message) (outcome : Except ChainError Flow)
    (steps : List StepSummary) (r : Report) (payloads : List Payload) : Prop where
  stepsRun : r.stepsRun = steps.length
  shown : ∀ data, outcome = .ok data → b.ShowsResult (Reply.merge steps) r payloads
  failed : ∀ e, outcome = .error e → r.state = .failed ∧ r.failure? = some (b.failureOf e) ∧
    payloads = [b.errorPayload m e false]

/-- On a platform that works the reply tells what a chain without files came to. -/
theorem exists_deliver (hworks : b.platform.Works) {outcome : Except ChainError Flow}
    (hhandles : ∀ data, outcome = .ok data → data.handles = []) (m : Message)
    (chain : List ChainStep) (steps : List StepSummary) (r : Report) (files : FileSystem)
    (w : World σ) :
    ∃ r' w' record, b.deliver m (executedReport r steps)
        (b.payloadOf m chain files false outcome steps) false w = some (r', w') ∧
      CallsOnly [record] w w' ∧ b.Tells m outcome steps r' (payloadsOf [.call record]) := by
  cases outcome with
  | error e =>
    obtain ⟨w', record, hdeliver, hrecord, hpayloads⟩ :=
      exists_deliver_error (m := m) hworks e (executedReport r steps) w
    refine ⟨_, w', record, hdeliver, hrecord, rfl, (nomatch ·, ·), fun e' he => ?_⟩
    obtain rfl := Except.error.inj he
    exact ⟨Report.state_enter _ .failed, rfl, hpayloads⟩
  | ok data =>
    have hnone := hhandles data rfl
    have hassemble : b.payloadOf m chain files false (.ok data) steps =
        Reply.assemble b.platform.limits files steps data (replyTarget? m false)
          (chain.any (fun step => step.definition.ephemeralReply) && false) := rfl
    by_cases hlong : b.platform.limits.maxText < (Reply.merge steps).length
    · rw [hassemble, Reply.assemble_eq_messageTooLong hnone hlong]
      obtain ⟨w', record, hdeliver, hrecord, -⟩ := exists_deliver_error (m := m) hworks
        (.messageTooLong (Reply.merge steps).length b.platform.limits.maxText)
        (executedReport r steps) w
      refine ⟨_, w', record, hdeliver, hrecord, rfl, fun _ _ => ?_, (nomatch ·, ·)⟩
      exact ⟨fun hshort => absurd hlong (Nat.not_lt.2 hshort),
        fun _ => ⟨Report.state_enter _ .failed, _, rfl, rfl⟩⟩
    · obtain ⟨payload, hpayload, hcontent, hfiles⟩ : ∃ payload,
          b.payloadOf m chain files false (.ok data) steps = .ok payload ∧
            payload.content = Reply.shown (Reply.merge steps) ∧ payload.files = [] := by
        rw [hassemble, Reply.assemble_eq_shown hnone hlong]
        exact ⟨_, rfl, rfl, rfl⟩
      rw [hpayload]
      obtain ⟨w', record, hdeliver, hrecord, hpayloads⟩ :=
        exists_deliver_ok (m := m) hworks hfiles (executedReport r steps) w
      refine ⟨_, w', record, hdeliver, hrecord, rfl, fun _ _ => ?_, (nomatch ·, ·)⟩
      exact ⟨fun _ => ⟨Report.state_enter _ _, payload, hpayloads, hcontent⟩,
        fun hlong' => absurd hlong' hlong⟩

/-! ## The whole -/

/-- On a platform that works, a message whose chain begins with no data, does not get stuck and
returns no files is answered.  The report and the payloads tell what the chain came to, its tasks
are on record, and its files are released. -/
theorem exists_handle_of_execute {r₀ : Report} (hworks : b.platform.Works)
    (hadmitted : b.store.isBanned m.author m.guild? = .ok false)
    (hsome : Invocation.parse b.grammar m.content ≠ [])
    (hprepared : Prepared b m (Invocation.parse b.grammar m.content) (b.firstReport m) r₀
      (.ok chain))
    (hopen : b.openStore chainId w = some (.ok store, w₁))
    (hplain : (chain.any fun step => step.definition.deferReply) = false)
    (hseed : startsWithAttachments chain m = false)
    {P : Execution → Except ChainError Flow → Prop}
    (hhandles : ∀ e data, P e (.ok data) → data.handles = [])
    (hexecute : ∀ clock, ∃ e outcome, P e outcome ∧ e.ending = .ofOutcome outcome ∧
      (b.executor m).execute chain .nothing { w₁.scene store with clock } = e) :
    ∃ e outcome r w' new, P e outcome ∧ b.handle chainId m w = some (r, w') ∧
      w'.events = w.events ++ new ∧ runsOf new = e.runs ∧
      r.cleanup = (e.scene.store.cleanUp e.scene.files).1 ∧
      w'.files = (e.scene.store.cleanUp e.scene.files).2 ∧ w'.handedOut = e.scene.handedOut ∧
      b.Tells m outcome e.steps r (payloadsOf new) := by
  have hattended : ¬b.Ignores m := by
    intro hignores
    rcases hignores with hnone | hbanned
    · exact hsome hnone
    · exact absurd (hadmitted.symm.trans hbanned) (by simp)
  have hopened := (openStore_eq_some hopen).1.events
  obtain ⟨e, outcome, w₂, work, he, hwork, hfiles, hhandedOut, hworked, hruns, hsilent⟩ :=
    exists_workVisibly_of_execute hworks hplain hseed store
      (chain.any fun step => step.definition.ephemeralReply) w₁ hexecute
  have hnone : ∀ data, outcome = .ok data → data.handles = [] := by
    intro data hdata
    exact hhandles e data (hdata ▸ he)
  obtain ⟨r, w₃, record, hdeliver, hrecord, hstepsRun, hshown, hfailed⟩ :=
    exists_deliver hworks hnone m chain e.steps r₀ w₂.files w₂
  have hhandle := handle_of_executed hattended hadmitted hprepared hopen hwork hdeliver
  have hfinal := hrecord.files.trans hfiles
  refine ⟨e, outcome, _, _, work ++ [.call record], he, hhandle, ?_, ?_, ?_, ?_,
    hrecord.handedOut.trans hhandedOut, ?_⟩
  · show w₃.events = _
    rw [hrecord.events, hworked, hopened, List.append_assoc]
    rfl
  · rw [runsOf_append, hruns]
    exact List.append_nil _
  · rw [hfinal]
  · exact congrArg (fun files => (e.scene.store.cleanUp files).2) hfinal
  · rw [payloadsOf_append, hsilent, List.nil_append]
    exact ⟨hstepsRun, fun data hdata => ⟨(hshown data hdata).shown, (hshown data hdata).refused⟩,
      hfailed⟩

end Bot

end ChatChain
