import ChatChain.Console.Bot
import ChatChain.Proofs.ErrorReplies
import ChatChain.Proofs.Protocol

/-!
# Who sees the replies

A message may be acknowledged so that only its author sees the answer.  The reply of a completed
chain then asks for that as well.  The reply for an error does not.

There are three groups.

* The acknowledgement.  `AcknowledgedPrivately` reads off a record of events that there was one for
  the author alone, and `Surrounds.privately_iff` says when the work of a chain leaves it.
* The replies.  `Delivered.ephemeral_iff` says which of the replies are for the author alone, and
  `Delivered.all_ephemeral_iff` when all are.
* The result.  `only_results_stay_ephemeral` puts that together for a whole message.  `Whispering`
  is a bot whose answer is for everybody.
-/

namespace ChatChain

open Fallible

variable {σ : Type}

/-! ## The acknowledgement -/

/-- Whether a message was acknowledged for its author alone, with success. -/
def AcknowledgedPrivately (m : Message) (events : List Event) : Prop :=
  ∃ ack, .call ack ∈ events ∧ ack.call = .deferReply m.id true ∧ ack.succeeded = true

namespace Bot

variable {b : Bot σ} {m : Message} {chainId : String} {w w' : World σ} {r r' : Report}
  {chain : List ChainStep} {deferred ephemeral : Bool} {now : Nat}
  {before after replies : List CallRecord} {payload : Except ChainError Payload}

/-- The only acknowledgement is that of the chain. -/
theorem Surrounds.eq_of_ack (h : Surrounds m chain ephemeral now deferred before after)
    {ack : CallRecord} (hack : ack ∈ before ++ after) {flag : Bool}
    (hcall : ack.call = .deferReply m.id flag) : flag = ephemeral ∧ ack.succeeded = deferred := by
  cases h with
  | typing hplain hstart hdownloads hstop =>
    simp only [List.cons_append, List.mem_cons, List.mem_append, List.not_mem_nil, or_false] at hack
    rcases hack with rfl | hack | rfl
    · exact absurd (hcall.symm.trans hstart) (by simp)
    · exact absurd (hcall.symm.trans (hdownloads.call_eq hack)) (by simp)
    · exact absurd (hcall.symm.trans hstop) (by simp)
  | acknowledged hdefers hown hreturns hnow hdownloads =>
    simp only [List.append_nil, List.mem_cons] at hack
    rcases hack with rfl | hack
    · exact ⟨by simpa using hcall.symm.trans hown, rfl⟩
    · exact absurd (hcall.symm.trans (hdownloads.call_eq hack)) (by simp)

/-- The work of a chain leaves an acknowledgement for the author alone when it makes one and a
command asks for that. -/
theorem Surrounds.privately_iff (h : Surrounds m chain ephemeral now deferred before after)
    (runs : List TaskRun) :
    AcknowledgedPrivately m
        (before.map Event.call ++ (runs.map Event.run ++ after.map Event.call)) ↔
      deferred = true ∧ ephemeral = true := by
  have hmem : ∀ ack, Event.call ack ∈
      before.map Event.call ++ (runs.map Event.run ++ after.map Event.call) ↔
        ack ∈ before ++ after := by
    simp
  constructor
  · rintro ⟨ack, hack, hcall, hsucceeded⟩
    obtain ⟨hflag, hdeferred⟩ := h.eq_of_ack ((hmem ack).1 hack) hcall
    exact ⟨hdeferred ▸ hsucceeded, hflag.symm⟩
  · rintro ⟨hdeferred, hephemeral⟩
    obtain ⟨ack, flag, hack, hcall, hsucceeded⟩ := h.deferred_iff.1 hdeferred
    obtain ⟨rfl, -⟩ := h.eq_of_ack hack hcall
    exact ⟨ack, (hmem ack).2 hack, hephemeral ▸ hcall, hsucceeded⟩

/-! ## The replies -/

theorem ephemeral_errorPayload (b : Bot σ) (m : Message) (e : ChainError) (deferred : Bool) :
    (b.errorPayload m e deferred).ephemeral = false := rfl

theorem ephemeral_of_showsFailure {e : ChainError} {p : Payload} (h : b.ShowsFailure m r e p) :
    p.ephemeral = false := by
  obtain ⟨-, deferred, rfl⟩ := h
  rfl

/-- Every call of a delivery hands a payload over. -/
theorem Delivered.exists_delivery (h : Delivered b m r deferred payload replies r')
    {record : CallRecord} (hrecord : record ∈ replies) :
    ∃ p, record.call = .delivery m deferred p ∧ p ∈ payloadsOf (replies.map Event.call) := by
  have hfound : ∀ p, record.call = .delivery m deferred p →
      p ∈ payloadsOf (replies.map Event.call) := by
    intro p hp
    unfold payloadsOf
    rw [List.filterMap_map, List.mem_filterMap]
    exact ⟨record, hrecord, by simp [hp]⟩
  cases h with
  | complaint hcall =>
    obtain rfl := List.mem_singleton.1 hrecord
    exact ⟨_, hcall, hfound _ hcall⟩
  | sent hcall hsent =>
    obtain rfl := List.mem_singleton.1 hrecord
    exact ⟨_, hcall, hfound _ hcall⟩
  | refused hfirst hrefused hsecond =>
    rcases List.mem_pair.1 hrecord with rfl | rfl
    · exact ⟨_, hfirst, hfound _ hfirst⟩
    · exact ⟨_, hsecond, hfound _ hsecond⟩

/-- A payload is for the author alone when the reply of the chain is and it is no reply for an
error. -/
theorem Delivered.ephemeral_iff (h : Delivered b m r deferred payload replies r') {flag : Bool}
    (hpayload : ∀ p, payload = .ok p → p.ephemeral = flag) {p : Payload}
    (hp : p ∈ payloadsOf (replies.map Event.call)) :
    p.ephemeral = true ↔ flag = true ∧ ¬∃ e, b.ShowsFailure m r' e p := by
  rcases h.payloads p hp with hresult | ⟨e, he⟩
  · rw [hpayload p hresult]
    refine ⟨fun hflag => ⟨hflag, ?_⟩, And.left⟩
    rintro ⟨e, he⟩
    have hpublic := ephemeral_of_showsFailure he
    rw [hpayload p hresult, hflag] at hpublic
    cases hpublic
  · rw [ephemeral_of_showsFailure he]
    exact ⟨nofun, fun h => absurd ⟨e, he⟩ h.2⟩

/-- All payloads are for the author alone when the chain completes. -/
theorem Delivered.all_ephemeral_iff (h : Delivered b m r deferred payload replies r')
    (hpayload : ∀ p, payload = .ok p → p.ephemeral = true) :
    (∀ p ∈ payloadsOf (replies.map Event.call), p.ephemeral = true) ↔ r'.state = .completed := by
  cases h with
  | @complaint e record hcall =>
    simp [payloadsOf, hcall, ephemeral_errorPayload, failedReport, Report.state, Report.enter]
  | @sent p record hcall hsent =>
    simp [payloadsOf, hcall, hpayload p rfl, Report.state, Report.enter]
  | @refused p failure first second hfirst hrefused hsecond =>
    simp [payloadsOf, hfirst, hsecond, ephemeral_errorPayload, failedReport, Report.state,
      Report.enter]

/-- The reply of a completed chain is for the author alone when a command asks for that and an
acknowledgement succeeded. -/
theorem ephemeral_of_payloadOf {files : FileSystem} {outcome : Except ChainError Flow}
    {steps : List StepSummary} {p : Payload}
    (h : b.payloadOf m chain files deferred outcome steps = .ok p) :
    p.ephemeral = (chain.any (fun step => step.definition.ephemeralReply) && deferred) := by
  obtain ⟨data, -, hassemble⟩ := bind_eq_ok_iff.1 h
  exact (Reply.assemble_eq_ok_iff.1 hassemble).ephemeral

/-! ## The result -/

/-- How the payloads for a message go with its acknowledgement and its report. -/
structure Visible (b : Bot σ) (m : Message) (r : Report) (work : List Event)
    (replies : List CallRecord) : Prop where
  /-- Nothing is handed over before the work is done. -/
  quiet : payloadsOf work = []
  /-- A payload is for the author alone exactly if the acknowledgement was, and the payload is not
  the reply for the error that the report notes. -/
  private_iff : ∀ p ∈ payloadsOf (replies.map Event.call),
    p.ephemeral = true ↔ AcknowledgedPrivately m work ∧ ¬∃ e, b.ShowsFailure m r e p
  /-- After such an acknowledgement, all that follows completes it. -/
  answers : AcknowledgedPrivately m work → ∀ record ∈ replies, ∃ p, record.call = .reply m.id p
  /-- After such an acknowledgement, nothing is for everybody exactly if the chain completed. -/
  all_iff : AcknowledgedPrivately m work →
    ((∀ p ∈ payloadsOf (replies.map Event.call), p.ephemeral = true) ↔ r.state = .completed)

theorem not_acknowledgedPrivately_nil : ¬AcknowledgedPrivately m [] := by
  rintro ⟨ack, hack, -⟩
  exact List.not_mem_nil hack

theorem Early.visible (h : Early b m w w' r) :
    ∃ replies, w'.events = w.events ++ ([] ++ replies.map Event.call) ∧
      b.Visible m r [] replies := by
  cases h with
  | ignored hignores =>
    exact ⟨[], by simp, rfl, by simp [payloadsOf], by simp, fun hack =>
      absurd hack not_acknowledgedPrivately_nil⟩
  | @rejected e record _ _ _ hattended hfresh hquiet hrecord hcall =>
    refine ⟨[record], by simp [hrecord.events, hquiet.events], rfl, fun p hp => ?_, fun hack =>
      absurd hack not_acknowledgedPrivately_nil, fun hack =>
      absurd hack not_acknowledgedPrivately_nil⟩
    obtain rfl : p = _ := by simpa [payloadsOf, hcall] using hp
    simp [ephemeral_errorPayload, not_acknowledgedPrivately_nil]

theorem Late.visible (h : Late b chainId m w w' r) :
    ∃ work replies, w'.events = w.events ++ (work ++ replies.map Event.call) ∧
      b.Visible m r work replies := by
  cases h with
  | @intro chain _ _ r₀ r₁ w₁ w₂ w₃ deferred outcome summaries replies hattended hprepared hquiet
      hopen hworked hreplies hdelivered =>
    obtain @⟨before, after, w₀, _, _, _, final, runs, hbefore, hcalls, -, hran, hafter⟩ := hworked
    have hprivately := hcalls.privately_iff runs
    refine ⟨before.map Event.call ++ (runs.map Event.run ++ after.map Event.call), replies, ?_, ?_,
      fun p hp => ?_, fun hack record hrecord => ?_, fun hack => ?_⟩
    · show w₃.events = _
      rw [hreplies.events, events_of_work hbefore hafter, hquiet.events, List.append_assoc]
    · exact hcalls.payloadsOf_eq_nil runs
    · rw [hdelivered.ephemeral_iff (fun p hp => ephemeral_of_payloadOf hp) hp, hprivately,
        Bool.and_eq_true, and_comm (a := deferred = true)]
      rfl
    · obtain ⟨p, hp, -⟩ := hdelivered.exists_delivery hrecord
      rw [(hprivately.1 hack).1] at hp
      exact ⟨p, hp⟩
    · obtain ⟨hdeferred, hephemeral⟩ := hprivately.1 hack
      refine hdelivered.all_ephemeral_iff fun p hp => ?_
      rw [ephemeral_of_payloadOf hp, hephemeral, hdeferred]
      rfl

end Bot

/-- After an acknowledgement for the author alone, only the reply of a completed chain stays for the
author alone.  The reply for an error is for everybody, so something is unless the chain
completes. -/
theorem only_results_stay_ephemeral {b : Bot σ} {chainId : String} {m : Message} {w w' : World σ}
    {r : Report} (h : b.handle chainId m w = some (r, w')) :
    ∃ work replies, w'.events = w.events ++ (work ++ replies.map Event.call) ∧
      b.Visible m r work replies := by
  rcases Bot.handle_cases h with hearly | hlate
  · obtain ⟨replies, hevents, hvisible⟩ := hearly.visible
    exact ⟨[], replies, hevents, hvisible⟩
  · exact hlate.visible

namespace Whispering

open Console

/-- A command that answers its author alone, and fails. -/
def secretCommand : Command where
  definition :=
    { name := "secret", input := .nothing, output := .text, deferReply := true,
      ephemeralReply := true }
  task := fun _ _ _ => .fail (.internal "no")

/-- A bot on a console that knows it. -/
def bot : Bot Desk :=
  { plainBot with registry := { commands := Dict.ofList [("secret", secretCommand)] } }

def message : Message :=
  plainMessage "%secret"

/-- The reply for the failure. -/
def complaint : Payload :=
  { content := "Something went wrong while running `%secret`." }

theorem calls_of_secret :
    (bot.handle "1" message { desk := {} }).map (fun done => done.2.calls.map fun record =>
      (record.call, record.succeeded)) =
        some [(.deferReply "1" true, true), (.reply "1" complaint, true)] := by
  decide +kernel

/-- `%secret` is acknowledged for its author alone and answered for everybody. -/
theorem secret_is_answered_for_everybody :
    ∃ r w', bot.handle "1" message { desk := {} } = some (r, w') ∧
      AcknowledgedPrivately message w'.events ∧
      ∃ record, .call record ∈ w'.events ∧ record.call = .reply message.id complaint ∧
        complaint.ephemeral = false := by
  obtain ⟨⟨r, w'⟩, hrun, hcalls⟩ := Option.map_eq_some_iff.1 calls_of_secret
  have hevent : ∀ record ∈ w'.calls, Event.call record ∈ w'.events := by
    intro record hrecord
    obtain ⟨event, hevent, hrecord⟩ := List.mem_filterMap.1 hrecord
    cases event with
    | call other =>
      obtain rfl := Option.some.inj hrecord
      exact hevent
    | run task => cases hrecord
  have hlisted : ∀ call succeeded, (call, succeeded) ∈
      [(Call.deferReply "1" true, true), (.reply "1" complaint, true)] →
        ∃ record ∈ w'.calls, (record.call, record.succeeded) = (call, succeeded) := by
    intro call succeeded hmem
    exact List.mem_map.1 (hcalls ▸ hmem)
  obtain ⟨ack, hack, hacked⟩ := hlisted _ _ List.mem_cons_self
  obtain ⟨record, hrecord, hreply⟩ := hlisted _ _ (List.mem_cons_of_mem _ List.mem_cons_self)
  obtain ⟨hcall, hsucceeded⟩ := Prod.mk.inj hacked
  exact ⟨r, w', hrun, ⟨ack, hevent ack hack, hcall, hsucceeded⟩, record, hevent record hrecord,
    (Prod.mk.inj hreply).1, rfl⟩

/-- What is on record of `%secret` goes with its acknowledgement. -/
theorem secret_is_visible :
    ∃ r w' work replies, bot.handle "1" message { desk := {} } = some (r, w') ∧
      w'.events = work ++ replies.map Event.call ∧ bot.Visible message r work replies := by
  obtain ⟨⟨r, w'⟩, hrun, -⟩ := Option.map_eq_some_iff.1 calls_of_secret
  obtain ⟨work, replies, hevents, hvisible⟩ := only_results_stay_ephemeral hrun
  exact ⟨r, w', work, replies, hrun, hevents, hvisible⟩

end Whispering

end ChatChain
