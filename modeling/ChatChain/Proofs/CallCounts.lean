import ChatChain.Console.Bot
import ChatChain.Proofs.Protocol
import Mathlib.Data.List.Nodup

/-!
# How often each call is made

While a message is handled, every kind of call is made once at most, with one exception: where the
reply of a completed chain is refused, the reply for that is a second call of the same kind.

There are three groups.

* Kinds of calls.  `kindsOf` lists the kinds of the calls on record.
* The work and the answer.  `Performed.kinds` says that no kind of call comes twice in the work of a
  chain, and `Answered.kinds` that all calls of the answer are of one kind.
* The result.  `Counts` says how often each kind comes, and `calls_are_repeated_after_a_refusal`
  that this holds of every message.  `Fussy` is a platform on which a call is repeated.
-/

namespace ChatChain

variable {σ : Type}

/-! ## Kinds of calls -/

/-- The operations of a platform. -/
inductive CallKind where
  | startTyping
  | stopTyping
  | createMessage
  | deferReply
  | reply
  | download
  deriving DecidableEq, Repr

/-- The operation that a call asks for. -/
def Call.kind : Call → CallKind
  | startTyping _ => .startTyping
  | stopTyping _ => .stopTyping
  | createMessage .. => .createMessage
  | deferReply .. => .deferReply
  | reply .. => .reply
  | download _ => .download

/-- The operation that hands a payload over. -/
def CallKind.delivery (deferred : Bool) : CallKind :=
  if deferred then .reply else .createMessage

theorem Call.kind_delivery (m : Message) (deferred : Bool) (payload : Payload) :
    (Call.delivery m deferred payload).kind = .delivery deferred := by
  cases deferred <;> rfl

/-- The kinds of the calls on record, in order. -/
def kindsOf (events : List Event) : List CallKind :=
  events.filterMap fun
    | .call record => some record.call.kind
    | .run _ => none

theorem kindsOf_append (events events' : List Event) :
    kindsOf (events ++ events') = kindsOf events ++ kindsOf events' :=
  List.filterMap_append

theorem kindsOf_runs (runs : List TaskRun) : kindsOf (runs.map Event.run) = [] := by
  simp [kindsOf]

theorem kindsOf_calls (records : List CallRecord) :
    kindsOf (records.map Event.call) = records.map fun record => record.call.kind := by
  simp [kindsOf, List.filterMap_map]

/-! ## The work and the answer -/

namespace Bot

variable {b : Bot σ} {m : Message} {chainId : String} {w w' : World σ} {r : Report}
  {deferred : Bool} {payload : Except ChainError Payload} {replies : List CallRecord}
  {work : List Event}

/-- Whether some kinds of calls are those of the work of a chain: none comes twice, and none hands a
payload over. -/
structure WorkKinds (kinds : List CallKind) : Prop where
  nodup : kinds.Nodup
  silent : ∀ deferred, CallKind.delivery deferred ∉ kinds

namespace WorkKinds

variable {kinds : List CallKind}

theorem nil : WorkKinds [] := ⟨List.nodup_nil, fun _ => List.not_mem_nil⟩

/-- The calls that hand payloads over are those of the answer. -/
theorem count_delivery (h : WorkKinds kinds) (deferred : Bool) (n : Nat) :
    (kinds ++ List.replicate n (CallKind.delivery deferred)).count (.delivery deferred) = n := by
  rw [List.count_append, List.count_eq_zero.2 (h.silent deferred), Nat.zero_add,
    List.count_replicate_self]

/-- All other calls are those of the work. -/
theorem count_le_one (h : WorkKinds kinds) {kind : CallKind} (hkind : kind ≠ .delivery deferred)
    (n : Nat) : (kinds ++ List.replicate n (CallKind.delivery deferred)).count kind ≤ 1 := by
  rw [List.count_append, List.count_replicate, if_neg (by simpa using Ne.symm hkind)]
  exact List.nodup_iff_count_le_one.1 h.nodup kind

end WorkKinds

theorem Surrounds.kinds {chain : List ChainStep} {ephemeral : Bool} {now : Nat}
    {before after : List CallRecord} (h : Surrounds m chain ephemeral now deferred before after) :
    WorkKinds ((before ++ after).map fun record => record.call.kind) := by
  cases h with
  | typing hplain hstart hdownloads hstop =>
    cases hdownloads with
    | none =>
      simp only [List.cons_append, List.nil_append, List.map_cons, List.map_nil, hstart, hstop,
        Call.kind]
      exact ⟨by decide, by decide⟩
    | one hdownload hstarts =>
      simp only [List.cons_append, List.nil_append, List.map_cons, List.map_nil, hstart, hdownload,
        hstop, Call.kind]
      exact ⟨by decide, by decide⟩
  | acknowledged hdefers hack hreturns hnow hdownloads =>
    cases hdownloads with
    | none =>
      simp only [List.append_nil, List.map_cons, List.map_nil, hack, Call.kind]
      exact ⟨by decide, by decide⟩
    | one hdownload hstarts =>
      simp only [List.append_nil, List.map_cons, List.map_nil, hack, hdownload, Call.kind]
      exact ⟨by decide, by decide⟩

/-- No kind of call comes twice in the work of a chain. -/
theorem Performed.kinds (h : Performed b m deferred payload replies work) :
    WorkKinds (kindsOf work) := by
  cases h with
  | @intro _ _ before after _ _ _ _ _ _ _ hresolve hbind hcalls hreplies hran hpayload =>
    rw [kindsOf_append, kindsOf_append, kindsOf_runs, List.nil_append, kindsOf_calls,
      kindsOf_calls, ← List.map_append]
    exact hcalls.kinds

/-- All calls of an answer are of one kind. -/
theorem Answered.kinds (h : Answered b m deferred payload replies) :
    kindsOf (replies.map Event.call) = List.replicate replies.length (.delivery deferred) := by
  rw [kindsOf_calls, List.eq_replicate_iff, List.length_map]
  refine ⟨rfl, fun kind hkind => ?_⟩
  obtain ⟨record, hrecord, rfl⟩ := List.mem_map.1 hkind
  obtain ⟨p, hp⟩ := h.deliveries record hrecord
  rw [hp, Call.kind_delivery]

/-! ## The result -/

/-- How often each kind of call comes in a conversation. -/
structure Counts (deferred : Bool) (payload : Except ChainError Payload)
    (replies : List CallRecord) (kinds : List CallKind) : Prop where
  /-- No kind but that of the answer comes twice. -/
  once : ∀ kind, kind ≠ .delivery deferred → kinds.count kind ≤ 1
  /-- Nothing comes a third time. -/
  twice : kinds.count (.delivery deferred) ≤ 2
  /-- Something comes twice exactly if the reply of a completed chain was refused. -/
  repeated : (∃ kind, 1 < kinds.count kind) ↔ RefusedFirst payload replies

theorem Conversation.counts (h : Conversation b m r work replies deferred payload) :
    Counts deferred payload replies (kindsOf (work ++ replies.map Event.call)) := by
  have hwork : WorkKinds (kindsOf work) := by
    by_cases hexecuting : .executing ∈ r.history
    · exact (h.performance hexecuting).kinds
    · rw [(h.rejection hexecuting).1]
      exact .nil
  by_cases hignores : b.Ignores m
  · obtain ⟨rfl, rfl⟩ := h.silence hignores
    exact ⟨by simp [kindsOf], by simp [kindsOf], by simp [kindsOf, RefusedFirst]⟩
  · have hanswer := h.answer hignores
    have hdelivery := hwork.count_delivery deferred replies.length
    rw [kindsOf_append, hanswer.kinds]
    refine ⟨fun kind hkind => hwork.count_le_one hkind _, ?_, ?_⟩
    · rw [hdelivery]
      rcases hanswer.count with hone | htwo <;> omega
    · -- Only a delivery can come twice.
      rw [← hanswer.second]
      constructor
      · rintro ⟨kind, hmany⟩
        by_cases hkind : kind = CallKind.delivery deferred
        · rw [hkind, hdelivery] at hmany
          rcases hanswer.count with hone | htwo
          · omega
          · exact htwo
        · exact absurd hmany (Nat.not_lt_of_le (hwork.count_le_one hkind _))
      · intro htwo
        exact ⟨_, by rw [hdelivery]; omega⟩

end Bot

/-- Every operation of the platform is called once at most while a message is handled, but for the
one that hands payloads over: that is called twice exactly if it is first called for the reply of a
completed chain and fails. -/
theorem calls_are_repeated_after_a_refusal {b : Bot σ} {chainId : String} {m : Message}
    {w w' : World σ} {r : Report} (h : b.handle chainId m w = some (r, w')) :
    ∃ work replies deferred payload, w'.events = w.events ++ (work ++ replies.map Event.call) ∧
      b.Conversation m r work replies deferred payload ∧
      Bot.Counts deferred payload replies (kindsOf (work ++ replies.map Event.call)) := by
  rcases Bot.handle_cases h with hearly | hlate
  · obtain ⟨replies, payload, hevents, hconversation⟩ := hearly.conversation
    exact ⟨[], replies, false, payload, hevents, hconversation, hconversation.counts⟩
  · obtain ⟨work, replies, deferred, payload, hevents, hconversation⟩ := hlate.conversation
    exact ⟨work, replies, deferred, payload, hevents, hconversation, hconversation.counts⟩

namespace Fussy

/-- A platform that refuses the first payload it is handed, and no other.  The desk says whether
that has happened. -/
def platform : Platform Bool where
  limits := {}
  react call _ refused :=
    if call.payload?.isSome && !refused then
      { desk := true, result := .error (.internal "no") }
    else { desk := refused }
  download _ refused := (refused, .done [])
  ensureRoot _ refused := (.ok (), refused)

/-- A bot on it. -/
def bot : Bot Bool :=
  { Console.plainBot with platform }

def message : Message :=
  Console.plainMessage "%echo hi"

theorem kinds_of_calls :
    (bot.handle "1" message { desk := false }).map (fun done => kindsOf done.2.events) =
      some [.startTyping, .stopTyping, .createMessage, .createMessage] := by decide +kernel

/-- For `%echo hi`, two messages are created. -/
theorem message_is_created_twice :
    ∃ r w', bot.handle "1" message { desk := false } = some (r, w') ∧
      1 < (kindsOf w'.events).count .createMessage := by
  obtain ⟨⟨r, w'⟩, hrun, hkinds⟩ := Option.map_eq_some_iff.1 kinds_of_calls
  have hcalls : kindsOf w'.events = _ := hkinds
  exact ⟨r, w', hrun, by rw [hcalls]; decide⟩

/-- The reply of `%echo hi` is refused first. -/
theorem reply_is_refused_first :
    ∃ r w' work replies deferred payload,
      bot.handle "1" message { desk := false } = some (r, w') ∧
      w'.events = work ++ replies.map Event.call ∧
      bot.Conversation message r work replies deferred payload ∧
      Bot.RefusedFirst payload replies := by
  obtain ⟨⟨r, w'⟩, hrun, hkinds⟩ := Option.map_eq_some_iff.1 kinds_of_calls
  obtain ⟨work, replies, deferred, payload, hevents, hconversation, hcounts⟩ :=
    calls_are_repeated_after_a_refusal hrun
  have hnew : w'.events = work ++ replies.map Event.call := hevents
  have hcalls : kindsOf (work ++ replies.map Event.call) = _ := hnew ▸ hkinds
  refine ⟨r, w', work, replies, deferred, payload, hrun, hnew, hconversation, ?_⟩
  exact hcounts.repeated.1 ⟨.createMessage, by rw [hcalls]; decide⟩

end Fussy

end ChatChain
