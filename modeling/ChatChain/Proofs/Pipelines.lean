import ChatChain.Proofs.Answering
import ChatChain.Proofs.Spelling
import ChatChain.Proofs.Text.Words
import ChatChain.Proofs.WrittenSteps

/-!
# Pipelines compose functions

A message that echoes a text and sends it through built-in commands on text is answered with what
the functions of the commands, one after the other, make of the text.

There are two groups.

* The text.  `parse_echo` reads `echo` with its text and the steps behind it, and `pipes_written`
  writes them.
* The whole.  `Bot.exists_prepared` comes to the pipeline, `Bot.exists_handle` follows the message
  to its answer, and `pipelines_compose` is the result.
-/

namespace ChatChain

open Builtin Fallible Text

/-! ## The text -/

variable {g : Grammar}

/-- A plain text with blanks behind it is the positional text of an invocation. -/
theorem ofRegion_behindSpace (head : CommandHead) {text : String}
    (hplain : Invocation.IsPlain g text) {p : List Char} (hp : ∀ c ∈ p, isBlank c = true) :
    Invocation.ofRegion g head ((Binding.behindSpace text).toList ++ p) =
      { name := head.name, entity? := head.entity?, positional := text } := by
  have harguments := Grammar.marksWords_argumentKey? g
  have hnone : ∀ s ∈ stretches p, g.argumentWord? s = none := fun s hs =>
    harguments.gap s (List.all_eq_true.2 fun c hc => hp c (mem_of_mem_stretches hs hc))
  have hcut : cutAtMarks g.argumentKey? true p = (p, []) := harguments.cutAtMarks_eq_self hnone
  rw [Binding.ofRegion_behindSpace_append head hplain
    (fun c hc => hp c (List.mem_of_mem_head? hc)) (by rwa [hcut])]
  simp only [Invocation.ofRegion, hcut]
  rfl

/-- `echo` with a plain text in front of other invocations reads as itself, and they read as they do
alone. -/
theorem parse_echo (hmark : isBlank g.commandMark = false) {text rest : String} (htext : text ≠ "")
    (hplain : Invocation.IsPlain g text) (hgap : ∀ c ∈ rest.toList.head?, isBlank c = true)
    (hfirst : ∀ w ∈ (words rest.toList).head?, (g.commandWord? w).isSome = true) :
    Invocation.parse g (String.singleton g.commandMark ++ "echo " ++ text ++ rest) =
      .echo text :: Invocation.parse g rest := by
  have hcommands := Grammar.marksWords_commandHead? hmark
  have hname : isCommandName echoCommand.definition.name = true := onText_echoCommand.name
  have hsplit : String.singleton g.commandMark ++ "echo " ++ text ++ rest =
      Binding.spelledHead g echoCommand.definition none ++ (Binding.behindSpace text ++ rest) := by
    refine String.toList_inj.1 ?_
    simp [Binding.spelledHead, Binding.toList_behindSpace, htext, echoCommand]
  have htail : ∀ c ∈ (Binding.behindSpace text ++ rest).toList.head?, isBlank c = true :=
    Binding.isBlank_head?_behindSpace text hgap
  have hblank := hcommands.forall_isBlank_iff.2 hfirst
  rw [hsplit, Binding.parse_spelledHead_append hmark hname (by simp) htail, String.toList_append,
    Binding.cutAtMarks_behindSpace hcommands (fun s hs => (hplain.2 s hs).1) hgap]
  simp only [ofRegion_behindSpace _ hplain hblank]
  rfl

/-- Whether a content is `echo` with a plain text, and behind it invocations that are written for
the steps of a pipeline. -/
inductive Pipes (g : Grammar) (text : String) (steps : List TextStep) : String → Prop
  | intro {rest : String} (htext : text ≠ "") (hplain : Invocation.IsPlain g text)
      (hgap : ∀ c ∈ rest.toList.head?, isBlank c = true)
      (hfirst : ∀ word ∈ (words rest.toList).head?, (g.commandWord? word).isSome = true)
      (hsteps : List.Forall₂ Invocation.Means (Invocation.parse g rest) steps) :
      Pipes g text steps (String.singleton g.commandMark ++ "echo " ++ text ++ rest)

/-- Whatever plain text is echoed and whatever steps are written behind it, there is a content for
them. -/
theorem pipes_written (hcommand : isBlank g.commandMark = false)
    (hargument : isBlank g.argumentMark = false) (hdistinct : g.commandMark ≠ g.argumentMark)
    {text : String} (htext : text ≠ "") (hplain : Invocation.IsPlain g text)
    {steps : List TextStep} (hsteps : ∀ s ∈ steps, s.IsWritable g) :
    Pipes g text steps (String.singleton g.commandMark ++ "echo " ++ text ++
      Invocation.spaced ((steps.map TextStep.written).map (Invocation.print g))) := by
  have hwell : ∀ i ∈ steps.map TextStep.written, i.WellFormed g := by
    intro i hi
    obtain ⟨s, hs, rfl⟩ := List.mem_map.1 hi
    exact TextStep.wellFormed_written (hsteps s hs)
  obtain ⟨hblank, hparse⟩ :=
    Invocation.cutAtMarks_spaced_print hcommand hargument hdistinct hwell
  have hcommands := Grammar.marksWords_commandHead? hcommand
  refine .intro htext hplain (Invocation.isBlank_head?_spaced _)
    (hcommands.forall_isBlank_iff.1 hblank) ?_
  have hread : Invocation.parse g
      (Invocation.spaced ((steps.map TextStep.written).map (Invocation.print g))) =
        steps.map TextStep.written := hparse
  rw [hread, List.forall₂_map_left_iff, List.forall₂_same]
  exact fun s hs => TextStep.means_written (hsteps s hs)

/-! ## The whole -/

variable {σ : Type}

namespace Bot

variable {b : Bot σ} {chainId : String} {m : Message} {w : World σ} {text : String}
  {steps : List TextStep}

/-- Preparing the chain of a message that pipes a text through steps comes to the pipeline. -/
theorem exists_prepared {others : List Command} {content : String}
    (hregistry : Builtin.registry b.grammar others = .ok b.registry)
    (hmark : isBlank b.grammar.commandMark = false) (h : Pipes b.grammar text steps content)
    (hlimit : steps.length + 1 ≤ b.chainLimit) (m : Message) (r : Report) :
    Invocation.parse b.grammar content ≠ [] ∧
      ∃ r₀ chain, Prepared b m (Invocation.parse b.grammar content) r r₀ (.ok chain) ∧
        IsPipeline text steps chain ∧ (b.executor m).check chain none = .ok () := by
  obtain @⟨rest, htext, hplain, hgap, hfirst, hsteps⟩ := h
  have hfound := Registry.find?_of_ofList hregistry
  have hecho : b.registry.find? echoCommand.name = some echoCommand :=
    hfound _ (by simp [Builtin.commands, scheduledCommands])
  have hknown : b.registry.KnowsTextCommands := by
    intro o
    refine hfound _ (List.mem_append_left _ ?_)
    cases o <;> simp [Builtin.commands, scheduledCommands, TextOperation.command]
  obtain ⟨resolved, chain, hresolve, hbind, hpipeline⟩ :=
    exists_pipeline (r := b.resolver) hecho hknown m htext hsteps
  have hcheck : (b.executor m).check chain none = .ok () := hpipeline.check_eq_ok hlimit
  rw [parse_echo hmark htext hplain hgap hfirst]
  refine ⟨by simp, _, chain, .ready hresolve hbind ?_, hpipeline, hcheck⟩
  simpa [seedKind?, hpipeline.startsWithAttachments_eq m] using hcheck

/-- A message that pipes a text through steps is answered with what the pipeline makes of it. -/
theorem exists_handle {others : List Command} (hserves : b.Serves others chainId m w)
    (hmessage : Pipes b.grammar text steps m.content) (hlimit : steps.length + 1 ≤ b.chainLimit) :
    ∃ r w' new, b.handle chainId m w = some (r, w') ∧ w'.events = w.events ++ new ∧
      b.ShowsResult (pipeline text steps) r (payloadsOf new) := by
  obtain ⟨hsome, r₀, chain, hprepared, hpipeline, hcheck⟩ :=
    exists_prepared hserves.registry hserves.mark hmessage hlimit m (b.firstReport m)
  obtain ⟨store, hstore⟩ := hserves.store
  obtain ⟨w₁, hopen⟩ := exists_openStore hserves.platform hstore
  have hplain : (chain.any fun step => step.definition.deferReply) = false := by
    rw [List.any_eq_false]
    intro c hc
    simp [(hpipeline.onText c hc).deferReply]
  have hhandles : ∀ (e : Execution) data, (Except.ok data : Except ChainError Flow) =
      .ok (.text (pipeline text steps)) ∧ Reply.merge e.steps = pipeline text steps →
        data.handles = [] := by
    intro e data h
    rw [Except.ok.inj h.1]
    rfl
  obtain ⟨e, outcome, r, w', new, ⟨houtcome, hmerge⟩, hhandle, hevents, -, -, -, -, htells⟩ :=
    exists_handle_of_execute hserves.platform hserves.admitted hsome hprepared hopen hplain
      (hpipeline.startsWithAttachments_eq m)
      (P := fun e outcome => outcome = .ok (.text (pipeline text steps)) ∧
        Reply.merge e.steps = pipeline text steps) hhandles fun clock => by
      have hyields := hpipeline.execute_yields hserves.uncancelled hcheck
        { w₁.scene store with clock }
      exact ⟨_, _, ⟨rfl, hyields.shown⟩, hyields.ending, rfl⟩
  have hresult := htells.shown _ houtcome
  rw [hmerge] at hresult
  exact ⟨r, w', new, hhandle, hevents, hresult⟩

end Bot

/-- A pipeline composes functions.  Whatever text is echoed, and whatever steps on text are written
behind it, as long as the chain is not too long the message is answered with what the pipeline makes
of the text.  Where no step has a text of its own, that is the composition of the operations; and a
step with a text of its own begins anew, whatever comes before it. -/
theorem pipelines_compose {b : Bot σ} {others : List Command} {chainId : String} {m : Message}
    {w : World σ} {text : String} {steps : List TextStep} (hserves : b.Serves others chainId m w)
    (hmessage : Pipes b.grammar text steps m.content) (hlimit : steps.length + 1 ≤ b.chainLimit) :
    (∃ r w' new, b.handle chainId m w = some (r, w') ∧ w'.events = w.events ++ new ∧
        b.ShowsResult (pipeline text steps) r (payloadsOf new)) ∧
      ((∀ s ∈ steps, s.own? = none) →
        pipeline text steps = compose text (steps.map TextStep.operation)) ∧
      ∀ before s after own, steps = before ++ s :: after → s.own? = some own →
        pipeline text steps = pipeline own ({ s with own? := none } :: after) := by
  refine ⟨Bot.exists_handle hserves hmessage hlimit, pipeline_eq_compose text, ?_⟩
  rintro before s after own rfl hown
  exact pipeline_eq_of_own text before after hown

namespace Stressed

open Console

def message : Message :=
  plainMessage "%echo hi there %upper %reverse stressed %repeat -times 2 -separator -"

/-- The steps behind `echo`.  The second one has a text of its own. -/
def steps : List TextStep :=
  [{ operation := .upper }, { own? := some "stressed", operation := .backwards },
    { operation := .copies 2 "-" }]

/-- Nothing is left of the text that is echoed. -/
theorem pipeline_shows_its_result :
    plainBot.Serves [] "1" message { desk := {} } ∧
      Pipes plainBot.grammar "hi there" steps message.content ∧
      steps.length + 1 ≤ plainBot.chainLimit ∧
      (∃ r w' p, plainBot.handle "1" message { desk := {} } = some (r, w') ∧ r.state = .completed ∧
        payloadsOf w'.events = [p] ∧ p.content = "desserts-desserts") ∧
      pipeline "hi there" steps = pipeline "stressed" (({ operation := .backwards } : TextStep) ::
        steps.drop 2) := by
  have hserves : plainBot.Serves [] "1" message { desk := {} } :=
    { mark := by decide
      registry := registry_plainBot
      platform := Console.works {} none
      store := ⟨_, rfl⟩
      admitted := rfl
      uncancelled := rfl }
  have hcontent : message.content =
      String.singleton plainBot.grammar.commandMark ++ "echo " ++ "hi there" ++
        " %upper %reverse stressed %repeat -times 2 -separator -" := by decide +kernel
  have hmessage : Pipes plainBot.grammar "hi there" steps message.content := by
    rw [hcontent]
    refine .intro (by decide) (by decide +kernel) ?_ (by decide +kernel) (by decide +kernel)
    intro c hc
    obtain rfl : ' ' = c := Option.some.inj hc
    decide
  have hlimit : steps.length + 1 ≤ plainBot.chainLimit := by decide
  obtain ⟨⟨r, w', new, hhandle, hevents, hresult⟩, -, hown⟩ :=
    pipelines_compose hserves hmessage hlimit
  obtain rfl : w'.events = new := hevents
  have htext : pipeline "hi there" steps = "desserts-desserts" := by decide +kernel
  obtain ⟨hstate, p, hpayload, hshown⟩ := hresult.shown (by rw [htext]; decide)
  refine ⟨hserves, hmessage, hlimit, ⟨r, w', p, hhandle, hstate, hpayload, ?_⟩, ?_⟩
  · rw [hshown, htext]
    decide +kernel
  · exact hown [{ operation := .upper }] _ _ "stressed" rfl rfl

end Stressed

end ChatChain
