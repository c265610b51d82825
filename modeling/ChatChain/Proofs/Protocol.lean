import ChatChain.Console.Bot
import ChatChain.Proofs.Handling

/-!
# The calls for one message

A message leads to a fixed pattern of calls on the platform, however its tasks behave and whichever
calls fail.  A message that is left alone leads to none.  Any other is answered, in one call that
hands a payload over or in two, and the work of a chain comes before its answer.

There are three groups.

* The answer.  `Answered` says which calls hand payloads over, and `Delivered.answered` finds it in
  every way of sending a reply.
* The work.  `Performed` says which calls and tasks are on record of a chain that was executed.
* The result.  `Conversation` puts the two together, and `handling_follows_the_protocol` says that
  the handling of every message is one.
-/

namespace ChatChain

variable {σ : Type}

/-! ## The answer -/

namespace Bot

variable {b : Bot σ} {m : Message} {chainId : String} {w w' : World σ} {r r' : Report}
  {deferred : Bool} {payload : Except ChainError Payload}

/-- The payload that is handed over first: the reply of a completed chain, or that for an error. -/
def firstPayload (b : Bot σ) (m : Message) (deferred : Bool) :
    Except ChainError Payload → Payload
  | .ok payload => payload
  | .error e => b.errorPayload m e deferred

/-- Whether the first call hands the reply of a completed chain over and fails. -/
def RefusedFirst (payload : Except ChainError Payload) (replies : List CallRecord) : Prop :=
  ∃ p first, payload = .ok p ∧ replies.head? = some first ∧ first.call.payload? = some p ∧
    first.succeeded = false

/-- Whether calls answer a message: there are one or two, all of one kind.  The first one hands the
payload over, the second one is there exactly if that was the reply of a completed chain and was
refused, and at most one of them succeeds. -/
structure Answered (b : Bot σ) (m : Message) (deferred : Bool)
    (payload : Except ChainError Payload) (replies : List CallRecord) : Prop where
  deliveries : ∀ record ∈ replies, ∃ p, record.call = .delivery m deferred p
  first : ∃ record, replies.head? = some record ∧
    record.call = .delivery m deferred (b.firstPayload m deferred payload)
  count : replies.length = 1 ∨ replies.length = 2
  second : replies.length = 2 ↔ RefusedFirst payload replies
  once : replies.countP CallRecord.succeeded ≤ 1

theorem Answered.of_error {e : ChainError} {record : CallRecord}
    (hcall : record.call = .delivery m deferred (b.errorPayload m e deferred)) :
    Answered b m deferred (.error e) [record] where
  deliveries x hx := ⟨_, List.mem_singleton.1 hx ▸ hcall⟩
  first := ⟨record, rfl, hcall⟩
  count := Or.inl rfl
  second := by simp [RefusedFirst]
  once := List.countP_le_length

/-- Every way of sending a reply answers the message. -/
theorem Delivered.answered {replies : List CallRecord}
    (h : Delivered b m r deferred payload replies r') : Answered b m deferred payload replies := by
  cases h with
  | complaint hcall => exact .of_error hcall
  | @sent payload record hcall hsent =>
    refine ⟨fun x hx => ⟨_, List.mem_singleton.1 hx ▸ hcall⟩, ⟨record, rfl, hcall⟩, Or.inl rfl, ?_,
      List.countP_le_length⟩
    simp [RefusedFirst, hsent]
  | @refused payload failure first second hfirst hrefused hsecond =>
    refine ⟨fun x hx => ?_, ⟨first, rfl, hfirst⟩, Or.inr rfl, ?_, ?_⟩
    · rcases List.mem_cons.1 hx with rfl | hx
      · exact ⟨_, hfirst⟩
      · exact ⟨_, List.mem_singleton.1 hx ▸ hsecond⟩
    · have hhanded : first.call.payload? = some payload := by rw [hfirst, Call.payload?_delivery]
      exact iff_of_true rfl ⟨payload, first, rfl, rfl, hhanded, hrefused⟩
    · rw [List.countP_cons_of_neg (by simp [hrefused])]
      exact List.countP_le_length

/-! ## The work -/

/-- What is on record of a chain that was executed: its calls around its tasks, none of them after
the first call of the answer was made.  The answer has what came of the chain. -/
inductive Performed (b : Bot σ) (m : Message) (deferred : Bool)
    (payload : Except ChainError Payload) (replies : List CallRecord) : List Event → Prop
  | intro {steps : List ResolvedStep} {chain : List ChainStep} {before after : List CallRecord}
      {runs : List TaskRun} {now : Nat} {scene final : Routine.Scene}
      {outcome : Except ChainError Flow} {summaries : List StepSummary} {files : FileSystem}
      (hresolve : b.resolver.resolveAll m (Invocation.parse b.grammar m.content) = .ok steps)
      (hbind : ResolvedStep.bindAll steps = .ok chain)
      (hcalls : Surrounds m chain (chain.any fun step => step.definition.ephemeralReply) now
        deferred before after)
      (hreplies : ∀ reply ∈ replies, now ≤ reply.madeAt ∧ reply.files = files)
      (hran : Ran b m chain scene final runs outcome summaries)
      (hpayload : payload = b.payloadOf m chain files deferred outcome summaries) :
      Performed b m deferred payload replies
        (before.map Event.call ++ (runs.map Event.run ++ after.map Event.call))

/-- A message is acknowledged with success exactly if an acknowledgement that succeeded is on
record. -/
theorem Surrounds.deferred_iff {chain : List ChainStep} {ephemeral : Bool} {now : Nat}
    {before after : List CallRecord} (h : Surrounds m chain ephemeral now deferred before after) :
    deferred = true ↔ ∃ ack ephemeral, ack ∈ before ++ after ∧
      ack.call = .deferReply m.id ephemeral ∧ ack.succeeded = true := by
  cases h with
  | typing hplain hstart hdownloads hstop =>
    simp only [Bool.false_eq_true, false_iff]
    rintro ⟨ack, _, hack, hcall, -⟩
    simp only [List.cons_append, List.mem_cons, List.mem_append, List.not_mem_nil, or_false] at hack
    rcases hack with rfl | hack | rfl
    · exact absurd (hcall.symm.trans hstart) (by simp)
    · exact absurd (hcall.symm.trans (hdownloads.call_eq hack)) (by simp)
    · exact absurd (hcall.symm.trans hstop) (by simp)
  | @acknowledged ack _ downloads hdefers hack hreturns hnow hdownloads =>
    refine ⟨fun hsucceeded => ⟨ack, _, by simp, hack, hsucceeded⟩, ?_⟩
    rintro ⟨other, _, hother, hcall, hsucceeded⟩
    simp only [List.append_nil, List.mem_cons] at hother
    rcases hother with rfl | hother
    · exact hsucceeded
    · exact absurd (hcall.symm.trans (hdownloads.call_eq hother)) (by simp)

/-! ## The result -/

/-- Whether the events of the work and the calls of the answer are what one message leads to. -/
structure Conversation (b : Bot σ) (m : Message) (r : Report) (work : List Event)
    (replies : List CallRecord) (deferred : Bool) (payload : Except ChainError Payload) :
    Prop where
  /-- A message that is left alone leads to nothing. -/
  silence : b.Ignores m → work = [] ∧ replies = []
  /-- Any other message is answered. -/
  answer : ¬b.Ignores m → Answered b m deferred payload replies
  /-- The answer completes an acknowledgement exactly if one succeeded. -/
  completion : deferred = true ↔ ∃ ack ephemeral, .call ack ∈ work ∧
    ack.call = .deferReply m.id ephemeral ∧ ack.succeeded = true
  /-- A chain that was executed is on record before its answer. -/
  performance : .executing ∈ r.history → Performed b m deferred payload replies work
  /-- Without that there is nothing before the answer, which is for an error. -/
  rejection : .executing ∉ r.history → work = [] ∧ ∀ p, payload ≠ .ok p

theorem Early.conversation (h : Early b m w w' r) :
    ∃ replies payload, w'.events = w.events ++ replies.map Event.call ∧
      Conversation b m r [] replies false payload := by
  have hnever := h.not_executing
  cases h with
  | ignored hignores =>
    exact ⟨[], .error .cancelled, by simp, fun _ => ⟨rfl, rfl⟩, fun hnot => absurd hignores hnot,
      by simp, fun hexecuting => absurd hexecuting hnever, fun _ => ⟨rfl, by simp⟩⟩
  | @rejected e record _ _ _ hattended hfresh hquiet hrecord hcall =>
    exact ⟨[record], .error e, by rw [hrecord.events, hquiet.events],
      fun hignores => absurd hignores hattended, fun _ => .of_error hcall, by simp,
      fun hexecuting => absurd hexecuting hnever, fun _ => ⟨rfl, by simp⟩⟩

theorem Late.conversation (h : Late b chainId m w w' r) :
    ∃ work replies deferred payload,
      w'.events = w.events ++ (work ++ replies.map Event.call) ∧
        Conversation b m r work replies deferred payload := by
  cases h with
  | @intro chain _ _ r₀ r₁ w₁ w₂ w₃ deferred outcome summaries replies hattended hprepared hquiet
      hopen hworked hreplies hdelivered =>
    obtain ⟨steps, hresolve, hbind, -⟩ := hprepared.of_ok
    obtain @⟨before, after, w₀, _, _, _, final, runs, hbefore, hcalls, -, hran, hafter⟩ := hworked
    have hexecuted : .executing ∈ r₁.history := hdelivered.history (by simp [Report.enter])
    refine ⟨_, replies, deferred, _, ?_, fun hignores => absurd hignores hattended,
      fun _ => hdelivered.answered, ?_,
      fun _ => .intro hresolve hbind hcalls
        (fun reply hreply => ⟨hreplies.later reply hreply, hreplies.seen reply hreply⟩) hran rfl,
      fun hnever => absurd hexecuted hnever⟩
    · show w₃.events = _
      rw [hreplies.events, events_of_work hbefore hafter, hquiet.events, List.append_assoc]
    · simpa [or_left_comm, or_comm] using hcalls.deferred_iff

end Bot

/-- The handling of every message is a conversation: whatever is on record of it comes first, and
the calls that hand payloads over come last. -/
theorem handling_follows_the_protocol {b : Bot σ} {chainId : String} {m : Message}
    {w w' : World σ} {r : Report} (h : b.handle chainId m w = some (r, w')) :
    ∃ work replies deferred payload, w'.events = w.events ++ (work ++ replies.map Event.call) ∧
      b.Conversation m r work replies deferred payload := by
  rcases Bot.handle_cases h with hearly | hlate
  · obtain ⟨replies, payload, hevents, hconversation⟩ := hearly.conversation
    exact ⟨[], replies, false, payload, hevents, hconversation⟩
  · exact hlate.conversation

namespace Sulking

/-- A platform that takes seven milliseconds for everything and accepts no reply. -/
def platform : Platform Unit where
  limits := {}
  react call _ desk :=
    { desk
      delay? := some 7
      result := if call.payload?.isSome then .error (.internal "no") else .ok () }
  download _ desk := (desk, .done [])
  ensureRoot _ desk := (.ok (), desk)

/-- A bot on it. -/
def bot : Bot Unit :=
  { Console.plainBot with platform }

def message : Message :=
  Console.plainMessage "%delay hi -ms 5"

/-- The chain of `%delay hi -ms 5` is executed and answered. -/
theorem follows_the_protocol :
    ∃ r w' work replies deferred payload, bot.handle "1" message { desk := () } = some (r, w') ∧
      w'.events = work ++ replies.map Event.call ∧
      bot.Performed message deferred payload replies work ∧
      bot.Answered message deferred payload replies := by
  have hhandle : (bot.handle "1" message { desk := () }).map (fun done => done.1.history) =
      some [.parsed, .resolved, .validated, .executing, .failed] := by decide +kernel
  obtain ⟨⟨r, w'⟩, hrun, hhistory⟩ := Option.map_eq_some_iff.1 hhandle
  obtain ⟨work, replies, deferred, payload, hevents, hconversation⟩ :=
    handling_follows_the_protocol hrun
  have hexecuted : .executing ∈ r.history := by
    rw [show r.history = _ from hhistory]
    simp
  have hattended : ¬bot.Ignores message := by
    rintro (hnone | hbanned)
    · exact absurd hnone (by decide +kernel)
    · exact absurd (Except.ok.inj hbanned) (by decide +kernel)
  exact ⟨r, w', work, replies, deferred, payload, hrun, hevents,
    hconversation.performance hexecuted, hconversation.answer hattended⟩

end Sulking

end ChatChain
