import ChatChain.Bot
import ChatChain.Proofs.Fallible

/-!
# What each part of handling a message does

`Bot.handle` is put together from steps in a world.  This module says of every part what it does to
the world and to the report, so that later modules need not look inside.

There are six groups.

* Steps.  `Step.bind_eq_some` takes a step apart that goes on with another one, and
  `Step.bind_of_eq` runs it.
* Calls.  `CallsOnly` is what calls on the platform leave of a world, and `callAside_eq_some` says
  what is on record of one.
* Replies.  `Delivered` lists the ways in which a reply is sent, with the calls and the report of
  each.
* The work.  `work_cases` takes the work of a chain apart.  `Downloads` and `Surrounds` say which
  calls go with it, `Ran` what comes of it, and `Worked` puts them together.
* Before the work.  `Prepared` lists the ways in which a chain is made ready or refused.
* The whole.  `handle_course` lists the ways through a message step by step, and `handle_cases` says
  what each of them does.  `handle_of_executed` goes the other way, from the parts to the whole.
-/

namespace ChatChain

variable {σ α β : Type}

/-! ## Steps -/

namespace Step

theorem bind_apply (x : Step σ α) (f : α → Step σ β) (w : World σ) :
    (x >>= f) w = (x w).bind fun done => f done.1 done.2 := rfl

/-- A step that goes on with another one leaves it the world that it leaves. -/
theorem bind_of_eq {x : Step σ α} {w w₁ : World σ} {a : α} (h : x w = some (a, w₁))
    (f : α → Step σ β) : (x >>= f) w = f a w₁ := by
  rw [bind_apply, h]
  rfl

theorem pure_apply (a : α) (w : World σ) : (pure a : Step σ α) w = some (a, w) := rfl

/-- A step that goes on with another one has an outcome when both have. -/
theorem bind_eq_some {x : Step σ α} {f : α → Step σ β} {w : World σ} {r : β × World σ} :
    (x >>= f) w = some r ↔ ∃ a w₁, x w = some (a, w₁) ∧ f a w₁ = some r := by
  rw [bind_apply, Option.bind_eq_some_iff]
  constructor
  · rintro ⟨⟨a, w₁⟩, hx, hf⟩
    exact ⟨a, w₁, hx, hf⟩
  · rintro ⟨a, w₁, hx, hf⟩
    exact ⟨(a, w₁), hx, hf⟩

@[simp] theorem pure_eq_some {a b : α} {w w' : World σ} :
    (pure a : Step σ α) w = some (b, w') ↔ a = b ∧ w = w' := by
  show some (a, w) = some (b, w') ↔ _
  simp

@[simp] theorem get_eq_some {w w₁ w' : World σ} :
    (get : Step σ (World σ)) w = some (w₁, w') ↔ w = w₁ ∧ w = w' := by
  show some (w, w) = some (w₁, w') ↔ _
  simp

@[simp] theorem set_eq_some {u w w' : World σ} {a : PUnit} :
    (set u : Step σ PUnit) w = some (a, w') ↔ u = w' := by
  show some (_, u) = some (a, w') ↔ _
  simp

@[simp] theorem failure_eq_some {w w' : World σ} {a : α} :
    (failure : Step σ α) w = some (a, w') ↔ False := by
  show none = some (a, w') ↔ False
  simp

end Step

open Step

/-! ## Calls -/

/-- The payload that a call hands over. -/
def Call.payload? : Call → Option Payload
  | createMessage _ payload | reply _ payload => some payload
  | startTyping _ | stopTyping _ | deferReply .. | download _ => none

/-- Whether nothing happened between two worlds but calls, which take time. -/
structure CallsOnly (records : List CallRecord) (w w' : World σ) : Prop where
  files : w'.files = w.files
  handedOut : w'.handedOut = w.handedOut
  dropped : w'.dropped = w.dropped
  events : w'.events = w.events ++ records.map Event.call
  seen : ∀ record ∈ records, record.files = w.files
  clock : w.clock ≤ w'.clock
  later : ∀ record ∈ records, w.clock ≤ record.madeAt

namespace CallsOnly

theorem refl (w : World σ) : CallsOnly [] w w :=
  ⟨rfl, rfl, rfl, by simp, by simp, Nat.le_refl _, by simp⟩

theorem trans {w w₁ w' : World σ} {records records' : List CallRecord}
    (h : CallsOnly records w w₁) (h' : CallsOnly records' w₁ w') :
    CallsOnly (records ++ records') w w' where
  files := h'.files.trans h.files
  handedOut := h'.handedOut.trans h.handedOut
  dropped := h'.dropped.trans h.dropped
  events := by rw [h'.events, h.events, List.map_append, List.append_assoc]
  seen record hrecord := by
    rcases List.mem_append.1 hrecord with hrecord | hrecord
    · exact h.seen record hrecord
    · exact (h'.seen record hrecord).trans h.files
  clock := Nat.le_trans h.clock h'.clock
  later record hrecord := by
    rcases List.mem_append.1 hrecord with hrecord | hrecord
    · exact h.later record hrecord
    · exact Nat.le_trans h.clock (h'.later record hrecord)

end CallsOnly

namespace Platform

variable {p : Platform σ} {w w' : World σ}

/-- What is on record of a call: its outcome, and when it returns. -/
theorem callAside_eq_some {call : Call} {result : Except Failure Unit} {t : Nat}
    (h : p.callAside call w = some ((result, t), w')) :
    ∃ record, record.call = call ∧ record.succeeded = result.isOk ∧ record.returnsAt? = some t ∧
      CallsOnly [record] w w' := by
  unfold callAside at h
  cases hdelay : (p.react call w.files w.desk).delay? with
  | none => simp [hdelay] at h
  | some delay =>
    simp only [hdelay, Option.some.injEq, Prod.mk.injEq] at h
    obtain ⟨⟨rfl, rfl⟩, rfl⟩ := h
    exact ⟨_, rfl, rfl, rfl, rfl, rfl, rfl, rfl, by simp, Nat.le_refl _, by simp⟩

theorem waitUntil_eq_some {t : Nat} {a : Unit} (h : waitUntil t w = some (a, w')) :
    CallsOnly [] w w' ∧ t ≤ w'.clock := by
  obtain ⟨-, rfl⟩ := Prod.mk.inj (Option.some.inj h)
  exact ⟨⟨rfl, rfl, rfl, by simp, by simp, Nat.le_max_left _ _, by simp⟩, Nat.le_max_right _ _⟩

theorem call_eq_some {call : Call} {result : Except Failure Unit}
    (h : p.call call w = some (result, w')) :
    ∃ record, record.call = call ∧ record.succeeded = result.isOk ∧ CallsOnly [record] w w' := by
  unfold Platform.call at h
  simp only [bind_eq_some, pure_eq_some] at h
  obtain ⟨⟨result', t⟩, w₁, haside, _, w₂, hwait, rfl, rfl⟩ := h
  obtain ⟨record, hcall, hsucceeded, -, hrecord⟩ := callAside_eq_some haside
  exact ⟨record, hcall, hsucceeded, by simpa using hrecord.trans (waitUntil_eq_some hwait).1⟩

end Platform

/-! ## Replies -/

/-- The call that hands a payload over: it completes an acknowledgement that succeeded, or sends a
new message. -/
def Call.delivery (m : Message) (deferred : Bool) (payload : Payload) : Call :=
  if deferred then .reply m.id payload else .createMessage m.channel payload

@[simp] theorem Call.payload?_delivery (m : Message) (deferred : Bool) (payload : Payload) :
    (Call.delivery m deferred payload).payload? = some payload := by
  cases deferred <;> rfl

/-- How a reply that was handed over is noted. -/
def ReplyKind.ofDeferred (deferred : Bool) : ReplyKind :=
  if deferred then .deferred else .message

/-- The ending of a chain with an outcome. -/
def ChainEnding.ofOutcome : Except ChainError Flow → ChainEnding
  | .ok data => .completed data
  | .error e => .failed e

theorem ChainEnding.ofOutcome_injective {a b : Except ChainError Flow}
    (h : ofOutcome a = ofOutcome b) : a = b := by
  cases a <;> cases b <;> simp_all [ofOutcome]

namespace Bot

variable {b : Bot σ} {m : Message} {w w' : World σ} {r r' : Report}

theorem dispatch_eq_some {payload : Payload} {deferred : Bool} {result : Except Failure ReplyKind}
    (h : b.dispatch m payload deferred w = some (result, w')) :
    ∃ record, record.call = .delivery m deferred payload ∧ record.succeeded = result.isOk ∧
      (∀ reply, result = .ok reply → reply = .ofDeferred deferred) ∧ CallsOnly [record] w w' := by
  unfold dispatch at h
  cases deferred with
  | true =>
    simp only [if_true, bind_eq_some, pure_eq_some] at h
    obtain ⟨result', w₁, hcall, rfl, rfl⟩ := h
    obtain ⟨record, heq, hsucceeded, hrecord⟩ := Platform.call_eq_some hcall
    exact ⟨record, heq, by cases result' <;> exact hsucceeded,
      by cases result' <;> simp [Except.map, ReplyKind.ofDeferred], hrecord⟩
  | false =>
    simp only [Bool.false_eq_true, if_false, bind_eq_some, pure_eq_some] at h
    obtain ⟨result', w₁, hcall, rfl, rfl⟩ := h
    obtain ⟨record, heq, hsucceeded, hrecord⟩ := Platform.call_eq_some hcall
    exact ⟨record, heq, by cases result' <;> exact hsucceeded,
      by cases result' <;> simp [Except.map, ReplyKind.ofDeferred], hrecord⟩

/-- What the report says of a chain that failed with an error. -/
def failureOf (b : Bot σ) (e : ChainError) : ChainFailure :=
  { reasonCode := e.reasonCode, message := e.reply b.grammar.commandMark }

/-- The reply for an error. -/
def errorPayload (b : Bot σ) (m : Message) (e : ChainError) (deferred : Bool) : Payload :=
  { content := e.reply b.grammar.commandMark, replyTo? := replyTarget? m deferred }

/-- The report on a chain that failed with an error, given whether the reply for it was sent. -/
def failedReport (b : Bot σ) (r : Report) (e : ChainError) (deferred sent : Bool) : Report :=
  { r.enter .failed with
    failure? := some (b.failureOf e)
    reply := if sent then .ofDeferred deferred else r.reply }

/-- Noting an error makes one call, which hands over the reply for it. -/
theorem fail_eq_some {e : ChainError} {deferred : Bool}
    (h : b.fail m r e deferred w = some (r', w')) :
    ∃ record, record.call = .delivery m deferred (b.errorPayload m e deferred) ∧
      CallsOnly [record] w w' ∧ r' = b.failedReport r e deferred record.succeeded := by
  unfold fail at h
  simp only [bind_eq_some] at h
  obtain ⟨result, w₁, hdispatch, h⟩ := h
  obtain ⟨record, hcall, hsucceeded, hreply, hrecord⟩ := dispatch_eq_some hdispatch
  cases result with
  | ok reply =>
    obtain ⟨rfl, rfl⟩ := pure_eq_some.1 h
    obtain rfl := hreply reply rfl
    have hsent : record.succeeded = true := hsucceeded
    exact ⟨record, hcall, hrecord, by simp [failedReport, failureOf, hsent]⟩
  | error failure =>
    obtain ⟨rfl, rfl⟩ := pure_eq_some.1 h
    have hrefused : record.succeeded = false := hsucceeded
    exact ⟨record, hcall, hrecord, by simp [failedReport, failureOf, hrefused, Report.enter]⟩

/-- The ways in which a reply is sent, each with its calls and the report afterwards. -/
inductive Delivered (b : Bot σ) (m : Message) (r : Report) (deferred : Bool) :
    Except ChainError Payload → List CallRecord → Report → Prop
  /-- There is none, and the reply for the error goes out. -/
  | complaint {e : ChainError} {record : CallRecord}
      (hcall : record.call = .delivery m deferred (b.errorPayload m e deferred)) :
      Delivered b m r deferred (.error e) [record] (b.failedReport r e deferred record.succeeded)
  /-- The platform takes it. -/
  | sent {payload : Payload} {record : CallRecord}
      (hcall : record.call = .delivery m deferred payload) (hsent : record.succeeded = true) :
      Delivered b m r deferred (.ok payload) [record]
        ({ r with reply := .ofDeferred deferred }.enter .completed)
  /-- The platform refuses it, and the reply for that goes out. -/
  | refused {payload : Payload} {failure : Failure} {first second : CallRecord}
      (hfirst : first.call = .delivery m deferred payload) (hrefused : first.succeeded = false)
      (hsecond : second.call =
        .delivery m deferred (b.errorPayload m (.platform failure) deferred)) :
      Delivered b m r deferred (.ok payload) [first, second]
        (b.failedReport r (.platform failure) deferred second.succeeded)

/-- Sending a reply goes one of the ways. -/
theorem deliver_eq_some {payload : Except ChainError Payload} {deferred : Bool}
    (h : b.deliver m r payload deferred w = some (r', w')) :
    ∃ records, CallsOnly records w w' ∧ Delivered b m r deferred payload records r' := by
  unfold deliver at h
  cases payload with
  | error e =>
    obtain ⟨record, hcall, hrecord, rfl⟩ := fail_eq_some h
    exact ⟨[record], hrecord, .complaint hcall⟩
  | ok payload =>
    simp only [bind_eq_some] at h
    obtain ⟨result, w₁, hdispatch, h⟩ := h
    obtain ⟨first, hfirst, hsucceeded, hreply, hrecord⟩ := dispatch_eq_some hdispatch
    cases result with
    | ok reply =>
      obtain ⟨rfl, rfl⟩ := pure_eq_some.1 h
      obtain rfl := hreply reply rfl
      exact ⟨[first], hrecord, .sent hfirst hsucceeded⟩
    | error failure =>
      obtain ⟨second, hsecond, hrecord', rfl⟩ := fail_eq_some h
      exact ⟨[first] ++ [second], hrecord.trans hrecord', .refused hfirst hsucceeded hsecond⟩

namespace Delivered

variable {deferred : Bool} {payload : Except ChainError Payload} {records : List CallRecord}

/-- The calls hand over the files of the reply or none. -/
theorem files (h : Delivered b m r deferred payload records r') {record : CallRecord}
    (hrecord : record ∈ records) {p : Payload} (hp : record.call.payload? = some p) :
    p.files = [] ∨ payload = .ok p := by
  have hhanded : ∀ {q : Payload}, record.call = .delivery m deferred q → q = p := by
    intro q hcall
    rw [hcall, Call.payload?_delivery] at hp
    exact Option.some.inj hp
  cases h with
  | complaint hcall =>
    obtain rfl := List.mem_singleton.1 hrecord
    obtain rfl := hhanded hcall
    exact Or.inl rfl
  | sent hcall hsent =>
    obtain rfl := List.mem_singleton.1 hrecord
    obtain rfl := hhanded hcall
    exact Or.inr rfl
  | refused hfirst hrefused hsecond =>
    rcases List.mem_cons.1 hrecord with rfl | hrecord
    · obtain rfl := hhanded hfirst
      exact Or.inr rfl
    · obtain rfl := List.mem_singleton.1 hrecord
      obtain rfl := hhanded hsecond
      exact Or.inl rfl

/-- A failure is noted because there is no reply or because the platform refuses it. -/
theorem failure (h : Delivered b m r deferred payload records r') :
    r'.failure? = r.failure? ∨ ∃ e, r'.failure? = some (b.failureOf e) ∧
      (payload = .error e ∨ ∃ failure, e = .platform failure) := by
  cases h with
  | complaint hcall => exact Or.inr ⟨_, rfl, Or.inl rfl⟩
  | sent hcall hsent => exact Or.inl rfl
  | refused hfirst hrefused hsecond => exact Or.inr ⟨_, rfl, Or.inr ⟨_, rfl⟩⟩

/-- Sending a reply takes no state of the chain back. -/
theorem history (h : Delivered b m r deferred payload records r') {state : ChainState}
    (hstate : state ∈ r.history) : state ∈ r'.history := by
  cases h with
  | complaint hcall => exact List.mem_append_left _ hstate
  | sent hcall hsent => exact List.mem_append_left _ hstate
  | refused hfirst hrefused hsecond => exact List.mem_append_left _ hstate

end Delivered

/-! ## The work -/

/-- The kind of what the chain of a message starts with. -/
def seedKind? (chain : List ChainStep) (m : Message) : Option Kind :=
  if startsWithAttachments chain m then some .files else none

variable {chain : List ChainStep} {store store' : TempStore}

theorem runRoutine_eq_some {bounds : Routine.Bounds} {routine : Routine α}
    {ending : Routine.Ending α}
    (h : runRoutine bounds routine store w = some ((ending, store'), w')) :
    ending = (routine.run bounds (w.scene store)).1 ∧
      store' = (routine.run bounds (w.scene store)).2.store ∧
      w' = w.afterScene (routine.run bounds (w.scene store)).2 := by
  obtain ⟨hpair, rfl⟩ := Prod.mk.inj (Option.some.inj h)
  obtain ⟨rfl, rfl⟩ := Prod.mk.inj hpair
  exact ⟨rfl, rfl, rfl⟩

/-- A download yields files, or an error that is none of a command. -/
theorem seedOf_cases {ending : Routine.Ending (List FileHandle)} {seed : Except ChainError Flow}
    (h : b.seedOf ending = some seed) :
    (∃ handles, seed = .ok (.files handles)) ∨ ∃ e, seed = .error e ∧ ∀ c, e ≠ .command c := by
  cases ending with
  | returned handles => exact Or.inl ⟨handles, (Option.some.inj h).symm⟩
  | failed failure => exact Or.inr ⟨_, (Option.some.inj h).symm, by simp⟩
  | panicked => exact absurd h (by simp [seedOf])
  | timedOut => exact Or.inr ⟨_, (Option.some.inj h).symm, by simp⟩
  | cancelled => exact Or.inr ⟨_, (Option.some.inj h).symm, by simp⟩
  | stuck => exact absurd h (by simp [seedOf])

/-- The calls that fetch the seed of a chain: none, or one download if the chain starts with the
attachments. -/
inductive Downloads (m : Message) (chain : List ChainStep) : List CallRecord → Prop
  | none : Downloads m chain []
  | one {record : CallRecord} (hcall : record.call = .download m.id)
      (hstarts : startsWithAttachments chain m = true) : Downloads m chain [record]

theorem Downloads.call_eq {records : List CallRecord} (h : Downloads m chain records)
    {record : CallRecord} (hrecord : record ∈ records) : record.call = .download m.id := by
  cases h with
  | none => simp at hrecord
  | one hcall => exact List.mem_singleton.1 hrecord ▸ hcall

/-- The routines that fetch the seed of a chain: nothing is done, or the platform downloads. -/
inductive Fetches (b : Bot σ) (m : Message) : Routine (List FileHandle) → Prop
  | nothing : Fetches b m (.done [])
  | download (desk : σ) :
      Fetches b m ((b.platform.download m desk).2.stalling b.downloadStall?)

/-- Fetching the seed makes its calls and then runs a routine.  The seed is of the kind that the
chain was checked for, or the error is none of a command. -/
theorem fetchSeed_cases {seed : Except ChainError Flow}
    (h : b.fetchSeed m chain store w = some ((seed, store'), w')) :
    ∃ records w₁ bounds routine,
      Downloads m chain records ∧ CallsOnly records w w₁ ∧ Fetches b m routine ∧
        store' = (routine.run bounds (w₁.scene store)).2.store ∧
        w' = w₁.afterScene (routine.run bounds (w₁.scene store)).2 ∧
        ((∃ data, seed = .ok data ∧ Executor.seedKind? data = seedKind? chain m) ∨
          ∃ e, seed = .error e ∧ ∀ c, e ≠ .command c) := by
  unfold fetchSeed at h
  split at h
  · next hstarts =>
    unfold downloadSeed at h
    simp only [bind_eq_some, get_eq_some] at h
    obtain ⟨_, _, ⟨rfl, rfl⟩, h⟩ := h
    split at h
    · obtain ⟨hpair, rfl⟩ := pure_eq_some.1 h
      obtain ⟨rfl, rfl⟩ := Prod.mk.inj hpair
      exact ⟨[], w, {}, _, .none, .refl w, .nothing, rfl, rfl, Or.inr ⟨_, rfl, by simp⟩⟩
    · simp only [bind_eq_some, set_eq_some] at h
      obtain ⟨_, w₁, hnote, ⟨ending, store₁⟩, w₂, hrun, h⟩ := h
      cases hseed : b.seedOf ending with
      | none => simp [hseed] at h
      | some result =>
        simp only [hseed, pure_eq_some, Prod.mk.injEq] at h
        obtain ⟨⟨rfl, rfl⟩, rfl⟩ := h
        obtain ⟨-, hstore, hworld⟩ := runRoutine_eq_some hrun
        let record : CallRecord :=
          { call := .download m.id
            files := w.files
            madeAt := w.clock
            returnsAt? := none
            succeeded := true }
        have hcalls : CallsOnly [record] w w₁ := by
          rw [← hnote]
          exact ⟨rfl, rfl, rfl, rfl, by simp [record], Nat.le_refl _, by simp [record]⟩
        refine ⟨_, w₁, _, _, .one rfl hstarts, hcalls, .download w.desk, hstore, hworld, ?_⟩
        rcases seedOf_cases hseed with ⟨handles, rfl⟩ | hfailed
        · refine Or.inl ⟨_, rfl, ?_⟩
          simp [Executor.seedKind?, seedKind?, hstarts, Flow.kind]
        · exact Or.inr hfailed
  · next hstarts =>
    obtain ⟨hpair, rfl⟩ := pure_eq_some.1 h
    obtain ⟨rfl, rfl⟩ := Prod.mk.inj hpair
    refine ⟨[], w, {}, _, .none, .refl w, .nothing, rfl, rfl, Or.inl ⟨_, rfl, ?_⟩⟩
    simp [Executor.seedKind?, seedKind?, hstarts, Flow.kind]

/-- What comes of a chain whose seed was fetched: the scene that it leaves, the tasks that were
started, its outcome and the summaries of its steps. -/
inductive Ran (b : Bot σ) (m : Message) (chain : List ChainStep) (scene : Routine.Scene) :
    Routine.Scene → List TaskRun → Except ChainError Flow → List StepSummary → Prop
  | unfetched {e : ChainError} (he : ∀ c, e ≠ .command c) :
      Ran b m chain scene scene [] (.error e) []
  | executed {seed : Flow} {e : Execution} {outcome : Except ChainError Flow}
      (hseed : Executor.seedKind? seed = seedKind? chain m)
      (hexecution : (b.executor m).execute chain seed scene = e)
      (houtcome : e.ending = .ofOutcome outcome) :
      Ran b m chain scene e.scene e.runs outcome e.steps

/-- The calls around the tasks of a chain, before and after them, at a time when the work is done.
Either the channel shows that the bot is typing, or the message is acknowledged, which may succeed;
the acknowledgement has returned by then. -/
inductive Surrounds (m : Message) (chain : List ChainStep) (ephemeral : Bool) (now : Nat) :
    Bool → List CallRecord → List CallRecord → Prop
  | typing {start stop : CallRecord} {downloads : List CallRecord}
      (hplain : (chain.any fun step => step.definition.deferReply) = false)
      (hstart : start.call = .startTyping m.channel) (hdownloads : Downloads m chain downloads)
      (hstop : stop.call = .stopTyping m.channel) :
      Surrounds m chain ephemeral now false (start :: downloads) [stop]
  | acknowledged {ack : CallRecord} {t : Nat} {downloads : List CallRecord}
      (hdefers : (chain.any fun step => step.definition.deferReply) = true)
      (hack : ack.call = .deferReply m.id ephemeral) (hreturns : ack.returnsAt? = some t)
      (hnow : t ≤ now) (hdownloads : Downloads m chain downloads) :
      Surrounds m chain ephemeral now ack.succeeded (ack :: downloads) []

/-- No call around the tasks hands a payload over. -/
theorem Surrounds.silent {ephemeral deferred : Bool} {now : Nat} {before after : List CallRecord}
    (h : Surrounds m chain ephemeral now deferred before after) {record : CallRecord}
    (hrecord : record ∈ before ++ after) : record.call.payload? = none := by
  cases h with
  | @typing start stop downloads hplain hstart hdownloads hstop =>
    rcases List.mem_cons.1 hrecord with rfl | hrecord
    · rw [hstart]
      rfl
    · rcases List.mem_append.1 hrecord with hrecord | hrecord
      · rw [hdownloads.call_eq hrecord]
        rfl
      · obtain rfl := List.mem_singleton.1 hrecord
        rw [hstop]
        rfl
  | acknowledged hdefers hack hreturns hnow hdownloads =>
    rw [List.append_nil] at hrecord
    rcases List.mem_cons.1 hrecord with rfl | hrecord
    · rw [hack]
      rfl
    · rw [hdownloads.call_eq hrecord]
      rfl

/-- What the work of a chain does to the world.  It makes the calls before the tasks, runs the
routine that fetches the seed, runs the chain, and makes the calls after the tasks. -/
inductive Worked (b : Bot σ) (m : Message) (chain : List ChainStep) (store : TempStore)
    (w : World σ) (ephemeral deferred : Bool) (outcome : Except ChainError Flow)
    (steps : List StepSummary) : TempStore → World σ → Prop
  | intro {before after : List CallRecord} {w₁ w' : World σ} {bounds : Routine.Bounds}
      {routine : Routine (List FileHandle)} {final : Routine.Scene} {runs : List TaskRun}
      (hbefore : CallsOnly before w w₁)
      (hcalls : Surrounds m chain ephemeral w'.clock deferred before after)
      (hfetches : Fetches b m routine)
      (hran : Ran b m chain (routine.run bounds (w₁.scene store)).2 final runs outcome steps)
      (hafter : CallsOnly after ((w₁.afterScene final).note (runs.map Event.run)) w') :
      Worked b m chain store w ephemeral deferred outcome steps final.store w'

/-- What is on record of tasks with calls before and after them. -/
theorem events_of_work {before after : List CallRecord} {w₁ : World σ} {final : Routine.Scene}
    {runs : List TaskRun} (hbefore : CallsOnly before w w₁)
    (hafter : CallsOnly after ((w₁.afterScene final).note (runs.map Event.run)) w') :
    w'.events =
      w.events ++ (before.map Event.call ++ (runs.map Event.run ++ after.map Event.call)) := by
  have hnote : ((w₁.afterScene final).note (runs.map Event.run)).events =
      w₁.events ++ runs.map Event.run := rfl
  rw [hafter.events, hnote, hbefore.events]
  simp only [List.append_assoc]

variable {outcome : Except ChainError Flow} {steps : List StepSummary}

/-- The ways in which the work of a chain goes, each with the outcome, the summaries of the steps,
the store and the world that it leaves. -/
inductive Works (b : Bot σ) (m : Message) (chain : List ChainStep) (store : TempStore)
    (w : World σ) : Except ChainError Flow → List StepSummary → TempStore → World σ → Prop
  /-- There is no seed. -/
  | unfetched {e : ChainError} {store' : TempStore} {w' : World σ}
      (hfetch : b.fetchSeed m chain store w = some ((.error e, store'), w')) :
      Works b m chain store w (.error e) [] store' w'
  /-- The chain is run on its seed. -/
  | executed {seed : Flow} {store₁ : TempStore} {w₁ : World σ} {e : Execution}
      {outcome : Except ChainError Flow}
      (hfetch : b.fetchSeed m chain store w = some ((.ok seed, store₁), w₁))
      (hexecution : (b.executor m).execute chain seed (w₁.scene store₁) = e)
      (houtcome : e.ending = .ofOutcome outcome) :
      Works b m chain store w outcome e.steps e.scene.store
        ((w₁.afterScene e.scene).note (e.runs.map Event.run))

/-- The work of a chain goes one of the ways. -/
theorem work_cases (h : b.work m chain store w = some ((outcome, steps, store'), w')) :
    Works b m chain store w outcome steps store' w' := by
  unfold work at h
  rw [bind_eq_some] at h
  obtain ⟨⟨seed, store₁⟩, w₁, hfetch, h⟩ := h
  cases seed with
  | error e =>
    simp only [pure_eq_some, Prod.mk.injEq] at h
    obtain ⟨⟨rfl, rfl, rfl⟩, rfl⟩ := h
    exact .unfetched hfetch
  | ok data =>
    simp only [bind_eq_some, get_eq_some, set_eq_some] at h
    obtain ⟨_, _, ⟨rfl, rfl⟩, _, w₂, rfl, h⟩ := h
    generalize hresult : (b.executor m).execute chain data _ = result at h
    cases hending : result.ending with
    | completed data' =>
      simp only [hending, pure_eq_some, Prod.mk.injEq] at h
      obtain ⟨⟨rfl, rfl, rfl⟩, rfl⟩ := h
      exact .executed hfetch hresult hending
    | failed e =>
      simp only [hending, pure_eq_some, Prod.mk.injEq] at h
      obtain ⟨⟨rfl, rfl, rfl⟩, rfl⟩ := h
      exact .executed hfetch hresult hending
    | stuck => simp [hending] at h

/-- A chain whose seed is fetched is worked on by running it. -/
theorem work_of_executed {seed : Flow} {store₁ : TempStore} {w₁ : World σ} {e : Execution}
    (hfetch : b.fetchSeed m chain store w = some ((.ok seed, store₁), w₁))
    (hexecution : (b.executor m).execute chain seed (w₁.scene store₁) = e)
    (houtcome : e.ending = .ofOutcome outcome) :
    b.work m chain store w = some ((outcome, e.steps, e.scene.store),
      (w₁.afterScene e.scene).note (e.runs.map Event.run)) := by
  have hworld : (get : Step σ (World σ)) w₁ = some (w₁, w₁) := rfl
  unfold work
  rw [bind_of_eq hfetch]
  simp only
  rw [bind_of_eq hworld, hexecution]
  cases outcome <;> simp only [houtcome, ChainEnding.ofOutcome] <;> rfl

/-- The work by itself makes the calls that fetch the seed, fetches it and runs the chain. -/
theorem work_eq_some (h : b.work m chain store w = some ((outcome, steps, store'), w')) :
    ∃ downloads w₁ bounds routine final runs,
      Downloads m chain downloads ∧ CallsOnly downloads w w₁ ∧ Fetches b m routine ∧
        Ran b m chain (routine.run bounds (w₁.scene store)).2 final runs outcome steps ∧
        store' = final.store ∧ w' = (w₁.afterScene final).note (runs.map Event.run) := by
  cases work_cases h with
  | unfetched hfetch =>
    obtain ⟨downloads, w₀, bounds, routine, hdownloads, hcalls, hfetches, rfl, rfl, hseed⟩ :=
      fetchSeed_cases hfetch
    obtain ⟨_, hok, -⟩ | ⟨_, herror, he⟩ := hseed
    · exact absurd hok (by simp)
    · obtain rfl := Except.error.inj herror
      exact ⟨downloads, w₀, bounds, routine, _, [], hdownloads, hcalls, hfetches, .unfetched he,
        rfl, by simp [World.note]⟩
  | executed hfetch hexecution houtcome =>
    obtain ⟨downloads, w₀, bounds, routine, hdownloads, hcalls, hfetches, rfl, rfl, hseed⟩ :=
      fetchSeed_cases hfetch
    obtain ⟨_, hok, hkind⟩ | ⟨_, herror, -⟩ := hseed
    · obtain rfl := Except.ok.inj hok
      exact ⟨downloads, w₀, bounds, routine, _, _, hdownloads, hcalls, hfetches,
        .executed hkind hexecution houtcome, rfl, rfl⟩
    · exact absurd herror (by simp)

/-- Showing the user that something happens puts calls around the work. -/
theorem workVisibly_eq_some {ephemeral deferred : Bool}
    (h : b.workVisibly m chain store ephemeral w = some ((deferred, outcome, steps, store'), w')) :
    Worked b m chain store w ephemeral deferred outcome steps store' w' := by
  unfold workVisibly at h
  split at h
  · next hdefers =>
    unfold workDeferred at h
    simp only [bind_eq_some, pure_eq_some, Prod.mk.injEq] at h
    obtain ⟨⟨result, t⟩, w₁, haside, ⟨_, _, _⟩, w₂, hwork, _, w₃, hwait, ⟨rfl, rfl, rfl, rfl⟩,
      rfl⟩ := h
    obtain ⟨ack, hack, hsucceeded, hreturns, hrecord⟩ := Platform.callAside_eq_some haside
    obtain ⟨downloads, w₀, bounds, routine, final, runs, hdownloads, hcalls, hfetches, hran, rfl,
      rfl⟩ := work_eq_some hwork
    obtain ⟨hafter, hnow⟩ := Platform.waitUntil_eq_some hwait
    rw [← hsucceeded]
    exact .intro (hrecord.trans hcalls) (.acknowledged hdefers hack hreturns hnow hdownloads)
      hfetches hran hafter
  · next hplain =>
    unfold workTyping at h
    simp only [bind_eq_some, pure_eq_some, Prod.mk.injEq] at h
    obtain ⟨⟨_, _, _⟩, _, ⟨started, w₁, hstart, ⟨_, _, _⟩, w₂, hwork, stopped, w₃, hstop, hresult,
      rfl⟩, ⟨rfl, hresult'⟩, rfl⟩ := h
    obtain ⟨rfl, rfl, rfl⟩ := hresult
    obtain ⟨rfl, rfl, rfl⟩ := hresult'
    obtain ⟨start, hstarted, -, hrecord⟩ := Platform.call_eq_some hstart
    obtain ⟨stop, hstopped, -, hafter⟩ := Platform.call_eq_some hstop
    obtain ⟨downloads, w₀, bounds, routine, final, runs, hdownloads, hcalls, hfetches, hran, rfl,
      rfl⟩ := work_eq_some hwork
    exact .intro (hrecord.trans hcalls)
      (.typing (by simpa using hplain) hstarted hdownloads hstopped) hfetches hran hafter

/-- A chain of which no command asks for an acknowledgement is worked on while the bot is typing. -/
theorem workVisibly_of_typing (ephemeral : Bool) {w₁ w₂ : World σ}
    {started stopped : Except Failure Unit}
    (hplain : (chain.any fun step => step.definition.deferReply) = false)
    (hstart : b.platform.call (.startTyping m.channel) w = some (started, w₁))
    (hwork : b.work m chain store w₁ = some ((outcome, steps, store'), w₂))
    (hstop : b.platform.call (.stopTyping m.channel) w₂ = some (stopped, w')) :
    b.workVisibly m chain store ephemeral w = some ((false, outcome, steps, store'), w') := by
  have htyping : b.workTyping m chain store w = some ((outcome, steps, store'), w') := by
    unfold workTyping
    rw [bind_of_eq hstart, bind_of_eq hwork, bind_of_eq hstop]
    rfl
  simp only [workVisibly, hplain, Bool.false_eq_true, if_false]
  rw [bind_of_eq htyping]
  rfl

/-! ## Before the work -/

/-- The report on a message before anything is known but its text. -/
def firstReport (b : Bot σ) (m : Message) : Report :=
  { history := [.parsed]
    commands := (Invocation.parse b.grammar m.content).map Invocation.name }

/-- The report on a chain whose commands are known. -/
def resolvedReport (r : Report) (steps : List ResolvedStep) : Report :=
  { r with commands := steps.map fun step : ResolvedStep => step.command.name }.enter .resolved

/-- The ways in which a chain is made ready or refused, with the report of each. -/
inductive Prepared (b : Bot σ) (m : Message) (invocations : List Invocation) (r : Report) :
    Report → Except ChainError (List ChainStep) → Prop
  | unresolved {e : ChainError} (hresolve : b.resolver.resolveAll m invocations = .error e) :
      Prepared b m invocations r r (.error e)
  | unbound {steps : List ResolvedStep} {e : CommandError}
      (hresolve : b.resolver.resolveAll m invocations = .ok steps)
      (hbind : ResolvedStep.bindAll steps = .error e) :
      Prepared b m invocations r (resolvedReport r steps) (.error (.command e))
  | unfit {steps : List ResolvedStep} {chain : List ChainStep} {e : ChainError}
      (hresolve : b.resolver.resolveAll m invocations = .ok steps)
      (hbind : ResolvedStep.bindAll steps = .ok chain)
      (hcheck : (b.executor m).check chain (seedKind? chain m) = .error e) :
      Prepared b m invocations r (resolvedReport r steps) (.error e)
  | ready {steps : List ResolvedStep} {chain : List ChainStep}
      (hresolve : b.resolver.resolveAll m invocations = .ok steps)
      (hbind : ResolvedStep.bindAll steps = .ok chain)
      (hcheck : (b.executor m).check chain (seedKind? chain m) = .ok ()) :
      Prepared b m invocations r ((resolvedReport r steps).enter .validated) (.ok chain)

/-- Preparing a chain goes one of the ways. -/
theorem prepare_cases (b : Bot σ) (m : Message) (invocations : List Invocation) (r : Report) :
    Prepared b m invocations r (b.prepare m invocations r).1 (b.prepare m invocations r).2 := by
  unfold prepare
  cases hresolve : b.resolver.resolveAll m invocations with
  | error e => exact .unresolved hresolve
  | ok steps =>
    cases hbind : ResolvedStep.bindAll steps with
    | error e =>
      simp only [hbind]
      exact .unbound hresolve hbind
    | ok chain =>
      simp only [hbind]
      cases hcheck : (b.executor m).check chain (seedKind? chain m) with
      | error e =>
        have hcheck' := hcheck
        unfold seedKind? at hcheck'
        simp only [hcheck']
        exact .unfit hresolve hbind hcheck
      | ok _ =>
        have hcheck' := hcheck
        unfold seedKind? at hcheck'
        simp only [hcheck']
        exact .ready hresolve hbind hcheck

/-- The way in which a chain is made ready or refused is what preparing it comes to. -/
theorem Prepared.prepare_eq {invocations : List Invocation} {r₁ : Report}
    {result : Except ChainError (List ChainStep)} (h : Prepared b m invocations r r₁ result) :
    b.prepare m invocations r = (r₁, result) := by
  cases h with
  | unresolved hresolve => simp [prepare, hresolve]
  | unbound hresolve hbind => simp [prepare, hresolve, hbind, resolvedReport]
  | unfit hresolve hbind hcheck =>
    unfold seedKind? at hcheck
    simp [prepare, hresolve, hbind, hcheck, resolvedReport]
  | ready hresolve hbind hcheck =>
    unfold seedKind? at hcheck
    simp [prepare, hresolve, hbind, hcheck, resolvedReport]

/-- What a report says as long as nothing was done for a message. -/
structure Fresh (r : Report) : Prop where
  history : ∀ state ∈ r.history, state ∈ [ChainState.parsed, .resolved, .validated]
  stepsRun : r.stepsRun = 0
  reply : r.reply = .none
  ignored? : r.ignored? = none
  failure? : r.failure? = none
  cleanup : r.cleanup = {}

theorem fresh_firstReport (b : Bot σ) (m : Message) : Fresh (b.firstReport m) :=
  ⟨by simp [firstReport], rfl, rfl, rfl, rfl, rfl⟩

theorem Fresh.enter (h : Fresh r) {state : ChainState}
    (hstate : state ∈ [ChainState.parsed, .resolved, .validated]) : Fresh (r.enter state) :=
  { h with
    history := fun s hs => by
      rcases List.mem_append.1 hs with hs | hs
      · exact h.history s hs
      · exact List.mem_singleton.1 hs ▸ hstate }

theorem Fresh.resolvedReport (h : Fresh r) (steps : List ResolvedStep) :
    Fresh (resolvedReport r steps) := by
  have hnamed : Fresh { r with commands := steps.map fun s : ResolvedStep => s.command.name } :=
    { h with }
  exact hnamed.enter (by simp)

theorem Fresh.not_executing (h : Fresh r) : .executing ∉ r.history := fun hmem =>
  absurd (h.history _ hmem) (by simp)

/-- Making a chain ready or refusing it does nothing. -/
theorem Prepared.fresh {invocations : List Invocation} {r₁ : Report}
    {result : Except ChainError (List ChainStep)} (h : Prepared b m invocations r r₁ result)
    (hr : Fresh r) : Fresh r₁ := by
  cases h with
  | unresolved hresolve => exact hr
  | unbound hresolve hbind => exact hr.resolvedReport _
  | unfit hresolve hbind hcheck => exact hr.resolvedReport _
  | ready hresolve hbind hcheck => exact (hr.resolvedReport _).enter (by simp)

/-- A chain that is made ready was bound and checked. -/
theorem Prepared.of_ok {invocations : List Invocation} {r₁ : Report} {chain : List ChainStep}
    (h : Prepared b m invocations r r₁ (.ok chain)) :
    ∃ steps, b.resolver.resolveAll m invocations = .ok steps ∧
      ResolvedStep.bindAll steps = .ok chain ∧
      (b.executor m).check chain (seedKind? chain m) = .ok () := by
  cases h with
  | ready hresolve hbind hcheck => exact ⟨_, hresolve, hbind, hcheck⟩

/-! ## The whole -/

/-- The reply of a chain whose work is done, or why there is none. -/
def payloadOf (b : Bot σ) (m : Message) (chain : List ChainStep) (files : FileSystem)
    (deferred : Bool) (outcome : Except ChainError Flow) (steps : List StepSummary) :
    Except ChainError Payload :=
  outcome.bind fun data =>
    Reply.assemble b.platform.limits files steps data (replyTarget? m deferred)
      (chain.any (fun step => step.definition.ephemeralReply) && deferred)

/-- The report with which the reply of a chain is sent. -/
def executedReport (r : Report) (steps : List StepSummary) : Report :=
  { r.enter .executing with stepsRun := steps.length }

/-- Running a chain is its work and the delivery of its reply. -/
theorem runChain_eq_some (h : b.runChain m chain store r w = some ((r', store'), w')) :
    ∃ deferred outcome steps w₁,
      b.workVisibly m chain store (chain.any fun step => step.definition.ephemeralReply) w =
          some ((deferred, outcome, steps, store'), w₁) ∧
        b.deliver m (executedReport r steps)
          (b.payloadOf m chain w₁.files deferred outcome steps) deferred w₁ = some (r', w') := by
  unfold runChain at h
  simp only [bind_eq_some, pure_eq_some, get_eq_some, Prod.mk.injEq] at h
  obtain ⟨⟨deferred, outcome, steps, store₁⟩, w₁, hwork, _, _, ⟨rfl, rfl⟩, r₁, w₂, hdeliver,
    ⟨rfl, rfl⟩, rfl⟩ := h
  exact ⟨deferred, outcome, steps, w₁, hwork, hdeliver⟩

/-- The work of a chain and the delivery of its reply, one after the other, run the chain. -/
theorem runChain_of_work {deferred : Bool} {w₁ : World σ}
    (hwork : b.workVisibly m chain store (chain.any fun step => step.definition.ephemeralReply) w =
      some ((deferred, outcome, steps, store'), w₁))
    (hdeliver : b.deliver m (executedReport r steps)
      (b.payloadOf m chain w₁.files deferred outcome steps) deferred w₁ = some (r', w')) :
    b.runChain m chain store r w = some ((r', store'), w') := by
  have hworld : (get : Step σ (World σ)) w₁ = some (w₁, w₁) := rfl
  unfold runChain
  rw [bind_of_eq hwork]
  show ((get : Step σ (World σ)) >>= _) w₁ = _
  rw [bind_of_eq hworld]
  exact bind_of_eq hdeliver _

/-- Whether nothing that is on record happened between two worlds. -/
structure Quiet (w w' : World σ) : Prop where
  events : w'.events = w.events
  handedOut : w'.handedOut = w.handedOut
  dropped : w'.dropped = w.dropped

theorem Quiet.refl (w : World σ) : Quiet w w :=
  ⟨rfl, rfl, rfl⟩

/-- Opening a store changes nothing on record. -/
theorem openStore_eq_some {chainId : String} {result : Except Failure TempStore}
    (h : b.openStore chainId w = some (result, w')) :
    Quiet w w' ∧
      ∀ store, result = .ok store →
        TempStore.openIn [] w.files chainId = (.ok store, w'.files) := by
  unfold openStore at h
  cases hroot : b.platform.ensureRoot chainId w.desk with
  | mk answer desk =>
    cases answer with
    | error failure =>
      simp only [hroot, Option.some.injEq, Prod.mk.injEq] at h
      obtain ⟨rfl, rfl⟩ := h
      exact ⟨⟨rfl, rfl, rfl⟩, by simp⟩
    | ok _ =>
      simp only [hroot, Option.some.injEq, Prod.mk.injEq] at h
      obtain ⟨rfl, rfl⟩ := h
      refine ⟨⟨rfl, rfl, rfl⟩, fun store hstore => ?_⟩
      cases hopen : (TempStore.openIn [] w.files chainId).1 with
      | error e => simp [hopen] at hstore
      | ok opened =>
        obtain rfl : opened = store := by simpa [hopen] using hstore
        exact Prod.ext hopen rfl

@[simp] theorem events_afterCleanUp (w : World σ) (store : TempStore) :
    (w.afterCleanUp store).events = w.events := rfl

@[simp] theorem handedOut_afterCleanUp (w : World σ) (store : TempStore) :
    (w.afterCleanUp store).handedOut = w.handedOut := rfl

/-- Cleaning up notes the counts in the report. -/
theorem cleanUp_eq_some (h : cleanUp store r w = some (r', w')) :
    r' = { r with cleanup := (store.cleanUp w.files).1 } ∧ w' = w.afterCleanUp store := by
  obtain ⟨rfl, rfl⟩ := Prod.mk.inj (Option.some.inj h)
  exact ⟨rfl, rfl⟩

/-- Whether a message is left alone: it holds no command, or its author or guild is banned. -/
def Ignores (b : Bot σ) (m : Message) : Prop :=
  Invocation.parse b.grammar m.content = [] ∨ b.store.isBanned m.author m.guild? = .ok true

/-- Handling that never reaches a store of its own: the message is left alone, or it fails with one
call that hands over the reply for an error. -/
inductive Early (b : Bot σ) (m : Message) (w : World σ) : World σ → Report → Prop
  | ignored {reason : IgnoreReason} (hignores : b.Ignores m) :
      Early b m w w { b.firstReport m with ignored? := some reason }
  | rejected {e : ChainError} {record : CallRecord} {w₁ w' : World σ} {r₁ : Report}
      (hattended : ¬b.Ignores m) (hfresh : Fresh r₁) (hquiet : Quiet w w₁)
      (hrecord : CallsOnly [record] w₁ w')
      (hcall : record.call = .delivery m false (b.errorPayload m e false)) :
      Early b m w w' (b.failedReport r₁ e false record.succeeded)

theorem Early.of_fail {e : ChainError} {w₁ : World σ} (hattended : ¬b.Ignores m)
    (h : b.fail m r e false w₁ = some (r', w')) (hfresh : Fresh r) (hquiet : Quiet w w₁) :
    Early b m w w' r' := by
  obtain ⟨record, hcall, hrecord, rfl⟩ := fail_eq_some h
  exact .rejected hattended hfresh hquiet hrecord hcall

namespace Early

theorem handedOut (h : Early b m w w' r) : w'.handedOut = w.handedOut := by
  cases h with
  | ignored hignores => rfl
  | rejected hattended hfresh hquiet hrecord hcall =>
    exact hrecord.handedOut.trans hquiet.handedOut

theorem dropped (h : Early b m w w' r) : w'.dropped = w.dropped := by
  cases h with
  | ignored hignores => rfl
  | rejected hattended hfresh hquiet hrecord hcall => exact hrecord.dropped.trans hquiet.dropped

/-- The message is never executed. -/
theorem not_executing (h : Early b m w w' r) : .executing ∉ r.history := by
  cases h with
  | ignored hignores => exact (fresh_firstReport b m).not_executing
  | rejected hattended hfresh hquiet hrecord hcall =>
    simpa [failedReport, Report.enter] using hfresh.not_executing

theorem cleanup (h : Early b m w w' r) : r.cleanup = {} := by
  cases h with
  | ignored hignores => rfl
  | rejected hattended hfresh hquiet hrecord hcall => exact hfresh.cleanup

/-- At most a reply without files is handed over. -/
theorem events (h : Early b m w w' r) :
    ∃ records : List CallRecord, w'.events = w.events ++ records.map Event.call ∧
      ∀ record ∈ records, ∀ p, record.call.payload? = some p → p.files = [] := by
  cases h with
  | ignored hignores => exact ⟨[], by simp, by simp⟩
  | @rejected _ record _ _ _ hattended hfresh hquiet hrecord hcall =>
    refine ⟨[record], by rw [hrecord.events, hquiet.events], fun x hx p hp => ?_⟩
    obtain rfl := List.mem_singleton.1 hx
    rw [hcall, Call.payload?_delivery] at hp
    obtain rfl := Option.some.inj hp
    rfl

end Early

/-- Handling that runs a chain in a store of its own, which is released afterwards. -/
inductive Late (b : Bot σ) (chainId : String) (m : Message) (w : World σ) :
    World σ → Report → Prop
  | intro {chain : List ChainStep} {store store' : TempStore} {r₀ r₁ : Report}
      {w₁ w₂ w₃ : World σ} {deferred : Bool} {outcome : Except ChainError Flow}
      {steps : List StepSummary} {replies : List CallRecord} (hattended : ¬b.Ignores m)
      (hprepared : Prepared b m (Invocation.parse b.grammar m.content) (b.firstReport m) r₀
        (.ok chain))
      (hquiet : Quiet w w₁)
      (hopen : TempStore.openIn [] w.files chainId = (.ok store, w₁.files))
      (hworked : Worked b m chain store w₁
        (chain.any fun step => step.definition.ephemeralReply) deferred outcome steps store' w₂)
      (hreplies : CallsOnly replies w₂ w₃)
      (hdelivered : Delivered b m { r₀.enter .executing with stepsRun := steps.length } deferred
        (b.payloadOf m chain w₂.files deferred outcome steps) replies r₁) :
      Late b chainId m w (w₃.afterCleanUp store')
        { r₁ with cleanup := (store'.cleanUp w₃.files).1 }

/-- The ways in which a message fails before its chain may run, each with the error, the report
until then and the world. -/
inductive Unready (b : Bot σ) (chainId : String) (m : Message) (w : World σ) :
    ChainError → Report → World σ → Prop
  | unanswered {failure : Failure} (hbanned : b.store.isBanned m.author m.guild? = .error failure) :
      Unready b chainId m w (.store failure) (b.firstReport m) w
  | refused {e : ChainError} {r₁ : Report}
      (hprepared : Prepared b m (Invocation.parse b.grammar m.content) (b.firstReport m) r₁
        (.error e)) :
      Unready b chainId m w e r₁ w
  | homeless {failure : Failure} {chain : List ChainStep} {r₁ : Report} {w₁ : World σ}
      (hprepared : Prepared b m (Invocation.parse b.grammar m.content) (b.firstReport m) r₁
        (.ok chain))
      (hopen : b.openStore chainId w = some (.error failure, w₁)) :
      Unready b chainId m w (.storage failure) r₁ w₁

/-- The ways through a message.  It is left alone, it fails before its chain may run, or its chain
runs. -/
inductive Course (b : Bot σ) (chainId : String) (m : Message) (w : World σ) :
    World σ → Report → Prop
  | ignored {reason : IgnoreReason} (hignores : b.Ignores m) :
      Course b chainId m w w { b.firstReport m with ignored? := some reason }
  | unready {e : ChainError} {r₁ r' : Report} {w₁ w' : World σ} (hattended : ¬b.Ignores m)
      (hunready : Unready b chainId m w e r₁ w₁) (hfail : b.fail m r₁ e false w₁ = some (r', w')) :
      Course b chainId m w w' r'
  | executed {chain : List ChainStep} {store store' : TempStore} {r₀ r₁ : Report}
      {w₁ w₂ w₃ : World σ} {deferred : Bool} {outcome : Except ChainError Flow}
      {steps : List StepSummary} (hattended : ¬b.Ignores m)
      (hbanned : b.store.isBanned m.author m.guild? = .ok false)
      (hprepared : Prepared b m (Invocation.parse b.grammar m.content) (b.firstReport m) r₀
        (.ok chain))
      (hopen : b.openStore chainId w = some (.ok store, w₁))
      (hwork : b.workVisibly m chain store (chain.any fun step => step.definition.ephemeralReply) w₁
        = some ((deferred, outcome, steps, store'), w₂))
      (hdeliver : b.deliver m (executedReport r₀ steps)
        (b.payloadOf m chain w₂.files deferred outcome steps) deferred w₂ = some (r₁, w₃)) :
      Course b chainId m w (w₃.afterCleanUp store')
        { r₁ with cleanup := (store'.cleanUp w₃.files).1 }

/-- What becomes of a message that is not left alone. -/
theorem handleInvocations_course {chainId : String} (hattended : ¬b.Ignores m)
    (hbanned : b.store.isBanned m.author m.guild? = .ok false)
    (h : b.handleInvocations chainId m (Invocation.parse b.grammar m.content) (b.firstReport m) w =
      some (r, w')) :
    Course b chainId m w w' r := by
  unfold handleInvocations at h
  have hprepared := prepare_cases b m (Invocation.parse b.grammar m.content) (b.firstReport m)
  generalize b.prepare m (Invocation.parse b.grammar m.content) (b.firstReport m) = prepared
    at h hprepared
  obtain ⟨r₁, result⟩ := prepared
  cases result with
  | error e => exact .unready hattended (.refused hprepared) h
  | ok chain =>
    simp only [bind_eq_some] at h
    obtain ⟨opened, w₁, hopen, h⟩ := h
    cases opened with
    | error failure => exact .unready hattended (.homeless hprepared hopen) h
    | ok store =>
      simp only [bind_eq_some] at h
      obtain ⟨⟨r₂, store'⟩, w₂, hrun, hclean⟩ := h
      obtain ⟨deferred, outcome, steps, w₃, hwork, hdeliver⟩ := runChain_eq_some hrun
      obtain ⟨rfl, rfl⟩ := cleanUp_eq_some hclean
      exact .executed hattended hbanned hprepared hopen hwork hdeliver

/-- Handling a message goes one of the ways. -/
theorem handle_course {chainId : String} (h : b.handle chainId m w = some (r, w')) :
    Course b chainId m w w' r := by
  unfold handle at h
  simp only at h
  split at h
  · next hnone =>
    obtain ⟨rfl, rfl⟩ := pure_eq_some.1 h
    exact .ignored (Or.inl hnone)
  · next hsome =>
    cases hbanned : b.store.isBanned m.author m.guild? with
    | error failure =>
      simp only [hbanned] at h
      exact .unready (by simp [Ignores, hsome, hbanned]) (.unanswered hbanned) h
    | ok banned =>
      cases banned with
      | true =>
        simp only [hbanned] at h
        obtain ⟨rfl, rfl⟩ := pure_eq_some.1 h
        exact .ignored (Or.inr hbanned)
      | false =>
        simp only [hbanned] at h
        exact handleInvocations_course (by simp [Ignores, hsome, hbanned]) hbanned h

/-- A message whose chain is ready and runs in a store of its own is handled by running it, and its
store is released afterwards. -/
theorem handle_of_executed {chainId : String} {r₀ : Report} {w₁ w₂ w₃ : World σ} {deferred : Bool}
    (hattended : ¬b.Ignores m) (hbanned : b.store.isBanned m.author m.guild? = .ok false)
    (hprepared : Prepared b m (Invocation.parse b.grammar m.content) (b.firstReport m) r₀
      (.ok chain))
    (hopen : b.openStore chainId w = some (.ok store, w₁))
    (hwork : b.workVisibly m chain store (chain.any fun step => step.definition.ephemeralReply) w₁ =
      some ((deferred, outcome, steps, store'), w₂))
    (hdeliver : b.deliver m (executedReport r₀ steps)
      (b.payloadOf m chain w₂.files deferred outcome steps) deferred w₂ = some (r, w₃)) :
    b.handle chainId m w =
      some ({ r with cleanup := (store'.cleanUp w₃.files).1 }, w₃.afterCleanUp store') := by
  have hsome : Invocation.parse b.grammar m.content ≠ [] := fun hnone => hattended (Or.inl hnone)
  have hinvocations : b.handle chainId m w =
      b.handleInvocations chainId m (Invocation.parse b.grammar m.content) (b.firstReport m) w := by
    simp only [handle, if_neg hsome, hbanned, firstReport]
  rw [hinvocations, handleInvocations, hprepared.prepare_eq]
  simp only
  rw [bind_of_eq hopen]
  simp only
  rw [bind_of_eq (runChain_of_work hwork hdeliver)]
  rfl

/-- A message that fails before its chain may run fails with nothing done and nothing on record. -/
theorem Unready.quiet {chainId : String} {e : ChainError} {r₁ : Report} {w₁ : World σ}
    (h : Unready b chainId m w e r₁ w₁) :
    Fresh r₁ ∧ Quiet w w₁ := by
  cases h with
  | unanswered hbanned => exact ⟨fresh_firstReport b m, .refl w⟩
  | refused hprepared => exact ⟨hprepared.fresh (fresh_firstReport b m), .refl w⟩
  | homeless hprepared hopen =>
    exact ⟨hprepared.fresh (fresh_firstReport b m), (openStore_eq_some hopen).1⟩

/-- The ways through a message: it ends early, or its chain runs in a store of its own. -/
theorem handle_cases {chainId : String} (h : b.handle chainId m w = some (r, w')) :
    Early b m w w' r ∨ Late b chainId m w w' r := by
  cases handle_course h with
  | ignored hignores => exact Or.inl (.ignored hignores)
  | unready hattended hunready hfail =>
    obtain ⟨hfresh, hquiet⟩ := hunready.quiet
    exact Or.inl (.of_fail hattended hfail hfresh hquiet)
  | executed hattended hbanned hprepared hopen hwork hdeliver =>
    obtain ⟨hquiet, hstore⟩ := openStore_eq_some hopen
    obtain ⟨replies, hreplies, hdelivered⟩ := deliver_eq_some hdeliver
    exact Or.inr (.intro hattended hprepared hquiet (hstore _ rfl)
      (workVisibly_eq_some hwork) hreplies hdelivered)

end Bot

end ChatChain
