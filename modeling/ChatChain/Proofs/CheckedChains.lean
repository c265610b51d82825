import ChatChain.Console.Bot
import ChatChain.Proofs.Execution
import ChatChain.Proofs.Expansion
import ChatChain.Proofs.Handling
import ChatChain.Proofs.Reply

/-!
# Checked chains do not go wrong

A chain that was bound and checked runs every task on what its command declares, whatever the tasks
do.  The only complaint that is left about a command is that the output of its predecessor is no
value for its default key.

There are two groups.

* Reports.  `runsOf` reads the tasks off a record of events, and `reasonCode_of_invalidArgument`
  says which reason codes are left for a report.
* The result.  `runs_of_late` follows a message to the tasks of its chain and to its report, and
  `checked_chains_run_as_declared` puts the two sides together.
-/

namespace ChatChain

open Fallible

variable {σ : Type}

/-! ## Reports -/

/-- The tasks on a record of events, in order. -/
def runsOf (events : List Event) : List TaskRun :=
  events.filterMap fun
    | .run task => some task
    | .call _ => none

@[simp] theorem runsOf_append (events events' : List Event) :
    runsOf (events ++ events') = runsOf events ++ runsOf events' := by
  simp [runsOf]

@[simp] theorem runsOf_calls (records : List CallRecord) :
    runsOf (records.map Event.call) = [] := by
  simp [runsOf]

@[simp] theorem runsOf_runs (runs : List TaskRun) : runsOf (runs.map Event.run) = runs := by
  simp [runsOf]

/-- The reason codes of the complaints that the check of a chain rules out. -/
def ruledOutCodes : List String :=
  ["missing_argument", "input_required", "incompatible_chain", "missing_input", "chain_too_long"]

/-- When the only complaint about a command is about a value, the ruled out codes do not occur. -/
theorem reasonCode_of_invalidArgument {e : ChainError}
    (h : ∀ c, e = .command c → ∃ name key value kind, c = .invalidArgument name key value kind) :
    e.reasonCode ∉ ruledOutCodes := by
  cases e with
  | command c =>
    obtain ⟨name, key, value, kind, rfl⟩ := h c rfl
    simp [ChainError.reasonCode, ruledOutCodes]
  | task => simp [ChainError.reasonCode, ruledOutCodes]
  | stepTimeout => simp [ChainError.reasonCode, ruledOutCodes]
  | cancelled => simp [ChainError.reasonCode, ruledOutCodes]
  | outputMismatch => simp [ChainError.reasonCode, ruledOutCodes]
  | messageTooLong => simp [ChainError.reasonCode, ruledOutCodes]
  | tooManyFiles => simp [ChainError.reasonCode, ruledOutCodes]
  | fileTooLarge => simp [ChainError.reasonCode, ruledOutCodes]
  | platform => simp [ChainError.reasonCode, ruledOutCodes]
  | store => simp [ChainError.reasonCode, ruledOutCodes]
  | storage => simp [ChainError.reasonCode, ruledOutCodes]

/-! ## The result -/

/-- Whether tasks were started as their commands declare: the first one on data that fits where its
command requires it, the others on data that fits, and all with their required arguments. -/
def RunAsDeclared (runs : List TaskRun) : Prop :=
  ∀ (k : Nat) (run : TaskRun), runs[k]? = some run →
    Fits run.definition k run.input ∧ Complete run.definition run.binding

theorem RunAsDeclared.of_sound {chain : List ChainStep} {e : Execution}
    (h : Executor.SoundFrom 0 chain e) : RunAsDeclared e.runs := by
  intro k run hrun
  obtain ⟨s, -, hdefinition, hfits, hcomplete⟩ := h.runs k run hrun
  rw [Nat.zero_add] at hfits
  rw [hdefinition]
  exact ⟨hfits, hcomplete⟩

namespace Bot

variable {b : Bot σ} {m : Message} {chainId : String} {w w' : World σ} {r : Report}

/-- What the work of a checked chain starts, and how it may fail. -/
theorem Ran.as_declared {steps : List ResolvedStep} {chain : List ChainStep}
    (haccepted : b.registry.Accepted) {invocations : List Invocation}
    (hresolve : b.resolver.resolveAll m invocations = .ok steps)
    (hbind : ResolvedStep.bindAll steps = .ok chain)
    (hcheck : (b.executor m).check chain (seedKind? chain m) = .ok ()) {scene final : Routine.Scene}
    {runs : List TaskRun} {outcome : Except ChainError Flow} {summaries : List StepSummary}
    (h : Ran b m chain scene final runs outcome summaries) :
    RunAsDeclared runs ∧ ∀ c, outcome = .error (.command c) →
      ∃ name key value kind, c = .invalidArgument name key value kind := by
  cases h with
  | unfetched he =>
    refine ⟨fun k run hrun => by simp at hrun, fun c hc => ?_⟩
    exact absurd (Except.error.inj hc) (he c)
  | executed hseed hexecution houtcome =>
    rw [← hseed] at hcheck
    have hsound := Executor.execute_sound (Resolver.check_of_resolveAll haccepted hresolve) hbind
      hcheck scene
    rw [hexecution] at hsound
    refine ⟨.of_sound hsound, fun c hc => ?_⟩
    rw [hc] at houtcome
    obtain ⟨k, s, -, a, v, -, -, -, -, rfl⟩ := hsound.ending c houtcome
    exact ⟨_, _, _, _, rfl⟩

/-- What a message that reached its own store starts, and how its report may say that it failed. -/
theorem runs_of_late (haccepted : b.registry.Accepted) (h : Late b chainId m w w' r) :
    ∃ new, w'.events = w.events ++ new ∧ RunAsDeclared (runsOf new) ∧
      ∀ f, r.failure? = some f → f.reasonCode ∉ ruledOutCodes := by
  cases h with
  | @intro chain _ _ r₀ _ w₁ w₂ _ _ outcome _ replies hattended hprepared hquiet hopen
      hworked hreplies hdelivered =>
    obtain ⟨steps, hresolve, hbind, hcheck⟩ := hprepared.of_ok
    obtain @⟨before, after, _, _, _, _, final, runs, hbefore, -, -, hran, hafter⟩ := hworked
    obtain ⟨hdeclared, hcommand⟩ := hran.as_declared haccepted hresolve hbind hcheck
    refine ⟨before.map Event.call ++ (runs.map Event.run ++ after.map Event.call) ++
      replies.map Event.call, ?_, by simpa using hdeclared, fun f hf => ?_⟩
    · rw [events_afterCleanUp, hreplies.events, events_of_work hbefore hafter, hquiet.events,
        List.append_assoc]
    · rcases hdelivered.failure with hnone | ⟨e, hsome, herror⟩
      · have hfresh : r₀.failure? = none := (hprepared.fresh (fresh_firstReport b m)).failure?
        exact absurd (hf.symm.trans (hnone.trans hfresh)) (by simp)
      · obtain rfl := Option.some.inj (hsome.symm.trans hf)
        refine reasonCode_of_invalidArgument fun c hc => ?_
        subst hc
        rcases herror with herror | ⟨failure, hplatform⟩
        · rcases bind_eq_error_iff.1 herror with houtcome | ⟨data, -, hassemble⟩
          · exact hcommand c houtcome
          · exact absurd hassemble (Reply.assemble_ne_command c)
        · exact absurd hplatform (by simp)

end Bot

/-- A chain that is bound and checked runs its tasks as declared, and ends with no complaint about a
command except that a piped value is none for the default key of a step.  Where such values are read
back from their text there is no complaint at all.  Handling a message runs chains that way only. -/
theorem checked_chains_run_as_declared :
    (∀ (x : Executor) (steps : List ResolvedStep) (chain : List ChainStep) (seed : Flow)
        (scene : Routine.Scene), (∀ s ∈ steps, s.definition.check = .ok ()) →
      ResolvedStep.bindAll steps = .ok chain →
      x.check chain (Executor.seedKind? seed) = .ok () →
      let e := x.execute chain seed scene
      (∀ (k : Nat) (run : TaskRun), e.runs[k]? = some run →
        ∃ s, chain[k]? = some s ∧ Executor.RunsWell s k run) ∧
      (∀ error, e.ending = .failed (.command error) →
        ∃ (k : Nat) (s : ChainStep), chain[k]? = some s ∧ RefusesPiped s.definition k error) ∧
      ((∀ (k : Nat) (s : ChainStep), chain[k]? = some s → Chain.isPiped s.definition k = true →
          ∀ a, s.definition.defaultArgument? = some a →
            a.kind = s.definition.input ∧ s.definition.input.isFaithful = true) →
        ∀ error, e.ending ≠ .failed (.command error))) ∧
    (∀ (b : Bot σ) (commands : List Command) (chainId : String) (m : Message) (w w' : World σ)
        (r : Report), Registry.ofList commands = .ok b.registry →
      b.handle chainId m w = some (r, w') →
      ∃ new, w'.events = w.events ++ new ∧ RunAsDeclared (runsOf new) ∧
        (.executing ∈ r.history → ∀ f, r.failure? = some f → f.reasonCode ∉ ruledOutCodes)) := by
  constructor
  · intro x steps chain seed scene hcheck hbind hfit
    have hsound := Executor.execute_sound hcheck hbind hfit scene
    simp only
    refine ⟨fun k run hrun => ?_, fun error herror => ?_, fun hfaithful error herror => ?_⟩
    · simpa using hsound.runs k run hrun
    · simpa using hsound.ending error herror
    · obtain ⟨k, s, hs, hrefuses⟩ := hsound.ending error herror
      rw [Nat.zero_add] at hrefuses
      exact Executor.not_refusesPiped (hfaithful k s hs) hrefuses
  · intro b commands chainId m w w' r hregistry h
    have haccepted := Registry.accepted_of_ofList hregistry
    rcases Bot.handle_cases h with hearly | hlate
    · obtain ⟨records, hevents, -⟩ := hearly.events
      refine ⟨_, hevents, fun k run hrun => ?_, fun hexecuting => ?_⟩
      · simp at hrun
      · exact absurd hexecuting hearly.not_executing
    · obtain ⟨new, hevents, hdeclared, hcodes⟩ := Bot.runs_of_late haccepted hlate
      exact ⟨new, hevents, hdeclared, fun _ => hcodes⟩

namespace Shout

open Console

/-- The steps of `%echo hi %upper`. -/
def steps : List ResolvedStep :=
  [{ invocation := { name := "echo", positional := "hi" }, command := Builtin.echoCommand },
    { invocation := { name := "upper" }, command := Builtin.upperCommand }]

/-- The steps with their bindings.  That of `upper` leaves its default key open. -/
def chain : List ChainStep :=
  [{ command := Builtin.echoCommand
     binding :=
      { values := Dict.ofList [("text", .text "hi")], explicit := Dict.ofList [("text", ())] } },
    { command := Builtin.upperCommand, binding := {} }]

def message : Message :=
  plainMessage "%echo hi %upper"

/-- The chain of `%echo hi %upper`, by itself and out of a message. -/
theorem runs_as_declared :
    (∀ s ∈ steps, s.definition.check = .ok ()) ∧
      ResolvedStep.bindAll steps = .ok chain ∧
      (plainBot.executor message).check chain (Executor.seedKind? .nothing) = .ok () ∧
      Builtin.registry {} [] = .ok plainBot.registry ∧
      ∃ r w', plainBot.handle "1" message { desk := {} } = some (r, w') ∧
        RunAsDeclared (runsOf w'.events) ∧
        ∀ scene error, ((plainBot.executor message).execute chain .nothing scene).ending ≠
          .failed (.command error) := by
  have hcheck : ∀ s ∈ steps, s.definition.check = .ok () := by
    intro s hs
    simp only [steps, List.mem_cons, List.not_mem_nil, or_false] at hs
    rcases hs with rfl | rfl <;> decide
  have hbind : ResolvedStep.bindAll steps = .ok chain := by rfl
  have hfit : (plainBot.executor message).check chain (Executor.seedKind? .nothing) = .ok () := by
    rfl
  have hhandle : (plainBot.handle "1" message { desk := {} }).isSome = true := by
    decide +kernel
  obtain ⟨⟨r, w'⟩, hrun⟩ := Option.isSome_iff_exists.1 hhandle
  obtain ⟨new, hevents, hdeclared, -⟩ := checked_chains_run_as_declared.2 plainBot
    _ "1" message { desk := {} } w' r registry_plainBot hrun
  refine ⟨hcheck, hbind, hfit, registry_plainBot, r, w', hrun, by rw [hevents]; exact hdeclared, ?_⟩
  intro scene
  have hexecute := (@checked_chains_run_as_declared Desk).1 (plainBot.executor message) steps chain
    .nothing scene hcheck hbind hfit
  refine hexecute.2.2 fun k s hs hpiped a ha => ?_
  match k, hs with
  | 0, hs => simp [Chain.isPiped] at hpiped
  | 1, hs =>
    obtain rfl := Option.some.inj hs
    obtain rfl := Option.some.inj ha
    exact ⟨rfl, rfl⟩

end Shout

end ChatChain
