import ChatChain.Proofs.FileSteps
import ChatChain.Proofs.Pipelines

/-!
# Pipelines of files

A message that writes a text into a file, copies the file step by step and shows the copies is
answered with the text as often as there are copies, and every file on the way is released.  Here
all requests are answered, and when a copy fails, nothing that was begun for another one is under
way any more.

There are three groups.

* The text.  `filePipelineText` is the content of such a message, and `parse_filePipelineText` reads
  it.
* The chain.  `exists_fileChain` says that its invocations resolve and bind to a chain on files.
* The whole.  `exists_handle_files` follows a message through all stages, and
  `file_pipelines_keep_their_text` is the result.  It all depends on whether there is room for the
  names of the copies, each of which is longer than that of its original.
-/

namespace ChatChain

open Builtin Fallible Number TempStore Text

/-! ## The text -/

variable {g : Grammar} {text : String} {counts : List Nat}

/-- The content that writes a text into a file, copies the file so many times, step by step, and
shows the copies. -/
def filePipelineText (g : Grammar) (text : String) (counts : List Nat) : String :=
  let mark := String.singleton g.commandMark
  let copying (count : Nat) :=
    mark ++ "duplicate " ++ String.singleton g.argumentMark ++ "count " ++ writeNat count
  " ".intercalate ((mark ++ "write " ++ text) :: counts.map copying ++ [mark ++ "cat"])

namespace Invocation

/-- `write` with a text. -/
def writing (text : String) : Invocation :=
  { name := writeCommand.name, positional := text }

/-- `duplicate` with a number of copies. -/
def copying (count : Nat) : Invocation :=
  { name := (duplicateCommand []).name, named := Dict.ofList [("count", writeNat count)] }

/-- `cat`. -/
def showing : Invocation :=
  { name := catCommand.name }

theorem print_writing (g : Grammar) (htext : text ≠ "") :
    (writing text).print g = String.singleton g.commandMark ++ "write " ++ text := by
  have hparts : (writing text).parts g =
      [String.singleton g.commandMark ++ "write" ++ "", text] := by
    show headWord g (writing text) :: textPart text ++ [] = _
    rw [textPart, if_neg htext]
    rfl
  rw [print, hparts]
  simp [String.append_assoc]

theorem print_copying (g : Grammar) (count : Nat) :
    (copying count).print g = String.singleton g.commandMark ++ "duplicate " ++
      String.singleton g.argumentMark ++ "count " ++ writeNat count := by
  have hparts : (copying count).parts g = [String.singleton g.commandMark ++ "duplicate" ++ "",
      String.singleton g.argumentMark ++ "count", writeNat count] := by
    show headWord g (copying count) ::
      ((String.singleton g.argumentMark ++ "count") :: textPart (writeNat count) ++ []) = _
    rw [textPart, if_neg (writeNat_ne_empty count)]
    rfl
  rw [print, hparts]
  refine String.toList_inj.1 ?_
  simp

theorem print_showing (g : Grammar) :
    showing.print g = String.singleton g.commandMark ++ "cat" := by
  show " ".intercalate [String.singleton g.commandMark ++ "cat" ++ ""] = _
  simp

/-- The content is the canonical text of its invocations. -/
theorem filePipelineText_eq_printAll (g : Grammar) (htext : text ≠ "") (counts : List Nat) :
    filePipelineText g text counts =
      printAll g (writing text :: counts.map copying ++ [showing]) := by
  have hcopies : counts.map (fun count => String.singleton g.commandMark ++ "duplicate " ++
      String.singleton g.argumentMark ++ "count " ++ writeNat count) =
        (counts.map copying).map (print g) := by
    rw [List.map_map]
    exact List.map_congr_left fun count _ => (print_copying g count).symm
  rw [printAll, List.map_append, List.map_cons, List.map_singleton, print_writing g htext,
    print_showing, ← hcopies]
  rfl

theorem wellFormed_copying (g : Grammar) (count : Nat) : (copying count).WellFormed g where
  name := show isCommandName (duplicateCommand []).name = true by decide
  entity id hid := absurd hid (by simp [copying])
  positional := isPlain_empty g
  keys e he := by
    obtain rfl : e = ("count", writeNat count) := List.mem_singleton.1 he
    exact (by decide : isArgumentKey "count" = true)
  values e he := by
    obtain rfl : e = ("count", writeNat count) := List.mem_singleton.1 he
    exact isPlain_writeNat g count

/-- The content reads as what it was written for. -/
theorem parse_filePipelineText (hcommand : isBlank g.commandMark = false)
    (hargument : isBlank g.argumentMark = false) (hdistinct : g.commandMark ≠ g.argumentMark)
    (htext : text ≠ "") (hplain : IsPlain g text) (counts : List Nat) :
    parse g (filePipelineText g text counts) =
      writing text :: counts.map copying ++ [showing] := by
  rw [filePipelineText_eq_printAll g htext]
  refine parse_printAll_of_wellFormed hcommand hargument hdistinct fun i hi => ?_
  simp only [List.cons_append, List.mem_cons, List.mem_append, List.mem_map,
    List.not_mem_nil, or_false] at hi
  obtain rfl | ⟨count, -, rfl⟩ | rfl := hi
  · exact wellFormed_of_plain (by decide) hplain
  · exact wellFormed_copying g count
  · exact wellFormed_of_plain (by decide) (isPlain_empty g)

end Invocation

/-! ## The chain -/

variable {schedule : List Nat}

/-- `write` binds its text and the name of the file, for which there is a default. -/
theorem Binding.exists_writing {i : Invocation} (hunnamed : i.named.get? "text" = none)
    (htext : i.positional ≠ "") :
    ∃ b, ofInvocation i writeCommand.definition false = .ok b ∧
      b.text? "text" = some i.positional ∧
      b.text? "name" = some ((i.named.get? "name").getD defaultFileName) := by
  have hread : readValue? i writeCommand.definition textArgument = some (.text i.positional) := by
    have hsupplied : suppliedText? i writeCommand.definition textArgument = some i.positional := by
      rw [suppliedText?, show i.named.get? textArgument.key = none from hunnamed]
      exact if_pos ⟨by decide, htext⟩
    rw [readValue?, hsupplied]
    rfl
  obtain ⟨b, hb⟩ : ∃ b, ofInvocation i writeCommand.definition false = .ok b := by
    refine exists_ofInvocation fun a ha => ?_
    obtain rfl | ha := List.mem_cons.1 ha
    · exact ⟨fun _ _ hnone => absurd hnone (by simp [textArgument, Value.coerce?]),
        fun hnone => absurd hnone (by simp [hread])⟩
    · obtain rfl := List.mem_singleton.1 ha
      exact ⟨fun _ _ _ => rfl, fun hnone => absurd hnone (by simp)⟩
  have hsettled := (binds_of_ofInvocation (by decide) hb).settled
  refine ⟨b, hb, ?_, ?_⟩
  · have hvalue : b.get? "text" = some (.text i.positional) := by
      have hown := (hsettled textArgument List.mem_cons_self).value
      rwa [hread] at hown
    simp [text?, hvalue, Value.asText?]
  · have hvalue : b.get? "name" =
        some (.text ((i.named.get? "name").getD defaultFileName)) := by
      rw [(hsettled _ (List.mem_cons_of_mem _ List.mem_cons_self)).value, readValue?, suppliedText?]
      cases i.named.get? "name" <;> rfl
    simp [text?, hvalue, Value.asText?]

/-- `duplicate` binds its number. -/
theorem Binding.exists_copying (schedule : List Nat) {count : Nat}
    (hhigh : count ≤ maxDuplicates) :
    ∃ b, ofInvocation (.copying count) (duplicateCommand schedule).definition false = .ok b ∧
      b.whole? "count" = some (count : Int) := by
  have hcopies : count ≤ maxCopies := Nat.le_trans hhigh (by decide)
  obtain ⟨b, hb⟩ :
      ∃ b, ofInvocation (.copying count) (duplicateCommand schedule).definition false = .ok b := by
    refine exists_ofInvocation fun a ha => ?_
    obtain rfl := List.mem_singleton.1 ha
    exact ⟨fun _ _ _ => rfl, fun hnone => absurd hnone (by simp)⟩
  have hvalue : b.get? "count" = some (.integer (.ofInt count)) :=
    get?_of_named (by simp [duplicateCommand, argumentKeys]) hb List.mem_cons_self rfl
      (coerce?_writeNat hcopies _)
  exact ⟨b, hb, by simp [whole?, hvalue, Value.asWhole?, toInt_copies hcopies]⟩

/-- A command on files takes no value from its predecessor. -/
theorem Chain.isPiped_of_files {d : Definition} (h : d.input = .files) (index : Nat) :
    isPiped d index = false := by
  simp [isPiped, h, Kind.isValue]

/-- Copying steps resolve and bind wherever they stand. -/
theorem exists_copyingChain {r : Resolver}
    (hduplicate : r.registry.find? (duplicateCommand schedule).name =
      some (duplicateCommand schedule))
    (hcat : r.registry.find? catCommand.name = some catCommand) (m : Message)
    (hcounts : ∀ count ∈ counts, 1 ≤ count ∧ count ≤ maxDuplicates) :
    ∃ resolved chain,
      r.resolveAll m (counts.map Invocation.copying ++ [.showing]) = .ok resolved ∧
        (∀ index, ResolvedStep.bindFrom index resolved = .ok chain) ∧
        IsCopying schedule counts chain := by
  induction counts generalizing r with
  | nil =>
    obtain ⟨b, hb⟩ : ∃ b, Binding.ofInvocation .showing catCommand.definition false = .ok b :=
      ⟨_, rfl⟩
    have hresolve := Resolver.resolve_of_registered (r := r) (m := m) (i := .showing) rfl hcat rfl
      0
    refine ⟨_, _, Resolver.resolveAll_cons hresolve rfl, fun index => ?_,
      .cat (b := b)⟩
    refine ResolvedStep.bindFrom_cons ?_ rfl
    rw [Chain.isPiped_of_files rfl]
    exact ResolvedStep.bind_of_ofInvocation hb
  | cons count counts ih =>
    obtain ⟨⟨hlow, hhigh⟩, hothers⟩ := List.forall_mem_cons.1 hcounts
    obtain ⟨resolved, chain, hresolved, hbind, hcopying⟩ :=
      ih (r := r.later) hduplicate hcat hothers
    obtain ⟨b, hb, hcount⟩ := Binding.exists_copying schedule hhigh
    have hresolve := Resolver.resolve_of_registered (r := r) (m := m) (i := .copying count) rfl
      hduplicate rfl 0
    refine ⟨_, _, Resolver.resolveAll_cons hresolve hresolved, fun index => ?_,
      .duplicate hcount hlow hhigh hcopying⟩
    refine ResolvedStep.bindFrom_cons ?_ (hbind (index + 1))
    rw [Chain.isPiped_of_files rfl]
    exact ResolvedStep.bind_of_ofInvocation hb

/-- The invocations of the content resolve and bind to a chain on files. -/
theorem exists_fileChain {r : Resolver}
    (hwrite : r.registry.find? writeCommand.name = some writeCommand)
    (hduplicate : r.registry.find? (duplicateCommand schedule).name =
      some (duplicateCommand schedule))
    (hcat : r.registry.find? catCommand.name = some catCommand) (m : Message) (htext : text ≠ "")
    (hcounts : ∀ count ∈ counts, 1 ≤ count ∧ count ≤ maxDuplicates) :
    ∃ resolved chain,
      r.resolveAll m (.writing text :: counts.map Invocation.copying ++ [.showing]) =
          .ok resolved ∧
        ResolvedStep.bindAll resolved = .ok chain ∧ IsFileChain schedule text counts chain := by
  obtain ⟨resolved, chain, hresolved, hbind, hcopying⟩ :=
    exists_copyingChain (r := r.later) hduplicate hcat m hcounts
  obtain ⟨b, hb, hbound, hname⟩ := Binding.exists_writing (i := .writing text) rfl htext
  have hresolve := Resolver.resolve_of_registered (r := r) (m := m) (i := .writing text) rfl hwrite
    rfl 0
  exact ⟨_, _, Resolver.resolveAll_cons hresolve hresolved,
    ResolvedStep.bindFrom_cons (n := 0) (ResolvedStep.bind_of_ofInvocation hb) (hbind 1),
    .intro hbound hname hcopying⟩

/-! ## The whole -/

variable {σ : Type}

/-- A chain on files never gets stuck and returns no files. -/
theorem Execution.Concludes.exists_outcome {fs₀ : FileSystem} {base : List Path} {d result : String}
    {total : Nat} {room : Prop} {e : Execution} (h : e.Concludes fs₀ base d result total room) :
    ∃ outcome, e.ending = .ofOutcome outcome ∧ ∀ data, outcome = .ok data → data.handles = [] := by
  by_cases hroom : room
  · refine ⟨.ok (.text result), (h.completed hroom).1, fun data hdata => ?_⟩
    rw [← Except.ok.inj hdata]
    rfl
  · obtain ⟨⟨name, failure, hending⟩, -⟩ := h.failed hroom
    exact ⟨.error (.task name failure), hending, (nomatch ·, ·)⟩

namespace Bot

variable {b : Bot σ} {others : List Command} {chainId : String} {m : Message} {w : World σ}
  {r : Report}

/-- Whether a bot with the built-in commands and others, which treats files side by side in the
order of a schedule, can answer a message with a chain on files: its platform works, the chain gets
a store where nothing stands, nobody is banned, and nothing is cancelled or stalls. -/
structure ServesFiles (b : Bot σ) (schedule : List Nat) (others : List Command) (chainId : String)
    (m : Message) (w : World σ) : Prop where
  commandMark : isBlank b.grammar.commandMark = false
  argumentMark : isBlank b.grammar.argumentMark = false
  distinct : b.grammar.commandMark ≠ b.grammar.argumentMark
  registry :
    Registry.ofList (Builtin.scheduledCommands b.grammar schedule ++ others) = .ok b.registry
  platform : b.platform.Works
  store : ∃ store, (TempStore.openIn [] w.files chainId).1 = .ok store
  vacant : ∀ names, w.files.node? (FileName.sanitize chainId :: names) = none
  admitted : b.store.isBanned m.author m.guild? = .ok false
  uncancelled : b.cancelAt? = none
  answered : ∀ index, b.stalls index = none

/-- Whether the report says that a chain failed in a task. -/
def FailsInTask (r : Report) : Prop :=
  r.state = .failed ∧ ∃ f, r.failure? = some f ∧ f.reasonCode = "task_failed"

/-- Preparing the chain of the message comes to a chain on files. -/
theorem exists_prepared_files (hserves : b.ServesFiles schedule others chainId m w)
    (htext : text ≠ "") (hplain : Invocation.IsPlain b.grammar text)
    (hcounts : ∀ count ∈ counts, 1 ≤ count ∧ count ≤ maxDuplicates)
    (hlimit : counts.length + 2 ≤ b.chainLimit)
    (hcontent : m.content = filePipelineText b.grammar text counts) (r : Report) :
    Invocation.parse b.grammar m.content ≠ [] ∧
      ∃ r₀ chain, Prepared b m (Invocation.parse b.grammar m.content) r r₀ (.ok chain) ∧
        IsFileChain schedule text counts chain ∧ (b.executor m).check chain none = .ok () := by
  have hfound := Registry.find?_of_ofList hserves.registry
  have hknown : ∀ c ∈ scheduledCommands b.grammar schedule,
      b.registry.find? c.name = some c := fun c hc => hfound c (List.mem_append_left _ hc)
  obtain ⟨resolved, chain, hresolve, hbind, hchain⟩ :=
    exists_fileChain (r := b.resolver) (hknown writeCommand (by simp [scheduledCommands]))
      (hknown (duplicateCommand schedule) (by simp [scheduledCommands]))
      (hknown catCommand (by simp [scheduledCommands])) m htext hcounts
  have hcheck : (b.executor m).check chain none = .ok () := hchain.check_eq_ok hlimit
  rw [hcontent, Invocation.parse_filePipelineText hserves.commandMark hserves.argumentMark
    hserves.distinct htext hplain]
  refine ⟨by simp, _, chain, .ready hresolve hbind ?_, hchain, hcheck⟩
  simpa [seedKind?, hchain.startsWithAttachments_eq m] using hcheck

/-- The chain on files gets a store that holds nothing yet. -/
theorem exists_openStore_files (hserves : b.ServesFiles schedule others chainId m w) :
    ∃ store w₁, b.openStore chainId w = some (.ok store, w₁) ∧ w₁.events = w.events ∧
      ∀ clock, Shelved w.files w.handedOut (FileName.sanitize chainId) 0
        { w₁.scene store with clock } := by
  obtain ⟨store, hstore⟩ := hserves.store
  obtain ⟨w₁, hopen⟩ := exists_openStore hserves.platform hstore
  obtain ⟨hquiet, hopened⟩ := openStore_eq_some hopen
  refine ⟨store, w₁, hopen, hquiet.events, fun clock => ?_⟩
  show Shelved w.files w.handedOut (FileName.sanitize chainId) 0
    { files := w₁.files, store, clock, handedOut := w₁.handedOut }
  rw [hquiet.handedOut]
  exact Shelved.of_openIn hserves.vacant (hopened store rfl) clock w.handedOut

/-- A message with a chain on files is answered with the text of all copies, if there is room for
them, and leaves the files as they were before. -/
theorem exists_handle_files (hserves : b.ServesFiles schedule others chainId m w)
    (htext : text ≠ "") (hplain : Invocation.IsPlain b.grammar text)
    (hcounts : ∀ count ∈ counts, 1 ≤ count ∧ count ≤ maxDuplicates)
    (hlimit : counts.length + 2 ≤ b.chainLimit)
    (hcontent : m.content = filePipelineText b.grammar text counts) :
    ∃ r w' new, b.handle chainId m w = some (r, w') ∧ w'.events = w.events ++ new ∧
      (∀ q, w'.files.node? q = w.files.node? q) ∧
      (HasRoom (Path.nameSize defaultFileName + 2 * counts.length) (filesMade counts) →
        b.ShowsResult (copiesOf text counts.prod) r (payloadsOf new) ∧
          r.cleanup = { created := filesMade counts, released := filesMade counts, failed := 0 }) ∧
      (¬HasRoom (Path.nameSize defaultFileName + 2 * counts.length) (filesMade counts) →
        FailsInTask r ∧ r.cleanup.created = r.cleanup.released + r.cleanup.failed) := by
  obtain ⟨hsome, r₀, chain, hprepared, hchain, hcheck⟩ :=
    exists_prepared_files hserves htext hplain hcounts hlimit hcontent (b.firstReport m)
  obtain ⟨store, w₁, hopen, -, hshelved⟩ := exists_openStore_files hserves
  obtain ⟨e, outcome, r, w', new, ⟨he, houtcome, -⟩, hhandle, hevents, -, hcleanup, hfiles, -,
      htells⟩ :=
    exists_handle_of_execute hserves.platform hserves.admitted hsome hprepared hopen
      hchain.deferReply (hchain.startsWithAttachments_eq m)
      (P := fun e outcome => e.Concludes w.files w.handedOut (FileName.sanitize chainId)
        (copiesOf text counts.prod) (filesMade counts)
        (HasRoom (Path.nameSize defaultFileName + 2 * counts.length) (filesMade counts)) ∧
          e.ending = .ofOutcome outcome ∧ ∀ data, outcome = .ok data → data.handles = [])
      (fun _ data h => h.2.2 data rfl) fun clock => by
      have he := Executor.execute_concludes ⟨hserves.uncancelled, hserves.answered⟩ hchain hcheck
        (hshelved clock)
      obtain ⟨outcome, houtcome, hnone⟩ := he.exists_outcome
      exact ⟨_, outcome, ⟨he, houtcome, hnone⟩, houtcome, rfl⟩
  refine ⟨r, w', new, hhandle, hevents, ?_, fun hroom => ?_, fun hfull => ?_⟩
  · rw [hfiles]
    exact he.stocked.node?_cleanUp
  · obtain ⟨hending, hshown, hshelf⟩ := he.completed hroom
    have hresult := htells.shown (.text (copiesOf text counts.prod))
      (ChainEnding.ofOutcome_injective (houtcome.symm.trans hending))
    rw [show Reply.merge e.steps = _ from hshown ""] at hresult
    exact ⟨hresult, hcleanup.trans hshelf.counts⟩
  · obtain ⟨⟨name, failure, hending⟩, -⟩ := he.failed hfull
    obtain ⟨hstate, hfailure, -⟩ := htells.failed (.task name failure)
      (ChainEnding.ofOutcome_injective (houtcome.symm.trans hending))
    refine ⟨⟨hstate, _, hfailure, rfl⟩, ?_⟩
    rw [hcleanup]
    exact he.stocked.cleaned.balanced

/-- What the user and the report are told about a chain on files for which there was room: the reply
shows the text of all copies, unless it is too long, and every file that was made is released. -/
structure KeepsText (b : Bot σ) (text : String) (counts : List Nat) (r : Report)
    (payloads : List Payload) : Prop where
  shown : (copiesOf text counts.prod).length ≤ b.platform.limits.maxText →
    r.state = .completed ∧ ∃ p, payloads = [p] ∧ p.content = copiesOf text counts.prod
  refused : b.platform.limits.maxText < (copiesOf text counts.prod).length →
    r.state = .failed ∧ ∃ f, r.failure? = some f ∧ f.reasonCode = "message_too_long"
  cleanup : r.cleanup = { created := filesMade counts, released := filesMade counts, failed := 0 }

/-- A chain that failed in a task is no such chain. -/
theorem FailsInTask.not_keepsText {payloads : List Payload} (h : FailsInTask r) :
    ¬b.KeepsText text counts r payloads := by
  obtain ⟨hstate, f, hfailure, hreason⟩ := h
  intro hkeeps
  rcases Nat.lt_or_ge b.platform.limits.maxText (copiesOf text counts.prod).length with
    hlong | hfits
  · obtain ⟨-, f', hfailure', hreason'⟩ := hkeeps.refused hlong
    obtain rfl : f = f' := Option.some.inj (hfailure.symm.trans hfailure')
    exact absurd (hreason.symm.trans hreason') (by decide)
  · exact absurd (hstate.symm.trans (hkeeps.shown hfits).1) (by decide)

end Bot

/-- A reply shows the copies of a text that is not blank as they are. -/
theorem shown_copiesOf {n : Nat} (hn : 0 < n) (htext : isBlankText text = false) :
    Reply.shown (copiesOf text n) = copiesOf text n := by
  obtain ⟨rest, hrest⟩ : ∃ rest, copiesOf text n = text ++ rest := by
    obtain ⟨k, rfl⟩ := Nat.exists_eq_succ_of_ne_zero (Nat.ne_of_gt hn)
    cases k with
    | zero => exact ⟨"", by simp [copiesOf]⟩
    | succ k =>
      refine ⟨"\n" ++ copiesOf text (k + 1), ?_⟩
      simp only [copiesOf, List.replicate_succ, String.intercalate_cons_cons, String.append_assoc]
  have hblank : isBlankText (copiesOf text n) = false := by
    rw [hrest, isBlankText, String.toList_append, List.all_append, Bool.and_eq_false_iff]
    exact Or.inl htext
  simp [Reply.shown, hblank]

/-- A pipeline of files keeps its text and leaves nothing behind.  Whatever plain text is written
and however often the file is copied, and in whatever order the copies are made, the message is
handled and all files are as before.  The reply shows the text of all copies, and all files are
accounted for, exactly when there is room for the name of the last copy: every step puts two more
characters in front of a name.  No request stalls, so that no write takes effect after the work on
the files. -/
theorem file_pipelines_keep_their_text {b : Bot σ} {others : List Command} {chainId : String}
    {m : Message} {w : World σ} (hserves : b.ServesFiles schedule others chainId m w)
    (htext : text ≠ "") (hplain : Invocation.IsPlain b.grammar text)
    (hcounts : ∀ count ∈ counts, 1 ≤ count ∧ count ≤ maxDuplicates)
    (hlimit : counts.length + 2 ≤ b.chainLimit)
    (hcontent : m.content = filePipelineText b.grammar text counts) :
    ∃ r w' new, b.handle chainId m w = some (r, w') ∧ w'.events = w.events ++ new ∧
      (∀ q, w'.files.node? q = w.files.node? q) ∧
      (b.KeepsText text counts r (payloadsOf new) ↔
        HasRoom (Path.nameSize defaultFileName + 2 * counts.length) (filesMade counts)) ∧
      (¬HasRoom (Path.nameSize defaultFileName + 2 * counts.length) (filesMade counts) →
        Bot.FailsInTask r ∧ r.cleanup.created = r.cleanup.released + r.cleanup.failed) := by
  obtain ⟨r, w', new, hhandle, hevents, hfiles, hroom, hfull⟩ :=
    Bot.exists_handle_files hserves htext hplain hcounts hlimit hcontent
  have hcopies : 0 < counts.prod :=
    Nat.pos_of_ne_zero (List.prod_ne_zero fun hzero => absurd (hcounts 0 hzero).1 (by decide))
  have hshown := shown_copiesOf hcopies (Invocation.isBlankText_eq_false htext hplain)
  refine ⟨r, w', new, hhandle, hevents, hfiles, ⟨fun hkeeps => ?_, fun hfits => ?_⟩, hfull⟩
  · by_contra hno
    exact (hfull hno).1.not_keepsText hkeeps
  · obtain ⟨hresult, hcleanup⟩ := hroom hfits
    refine ⟨fun hshort => ?_, hresult.refused, hcleanup⟩
    rw [← hshown]
    exact hresult.shown hshort

namespace Spread

/-- When two files are copied, the second one is read first. -/
def order : List Nat := [1, 0, 1]

open Console

def registry : Registry :=
  (Registry.ofList (Builtin.scheduledCommands {} order ++ [])).toOption.getD {}

/-- A bot on a console that takes long chains. -/
def bot : Bot Desk :=
  { plainBot with registry, chainLimit := 200 }

theorem servesFiles (content : String) :
    bot.ServesFiles order [] "1" (plainMessage content) { desk := {} } where
  commandMark := by decide
  argumentMark := by decide
  distinct := by decide
  registry := eq_ok_of_isOk {} (by decide +kernel)
  platform := Console.works {} none
  store := ⟨_, rfl⟩
  vacant _ := rfl
  admitted := rfl
  uncancelled := rfl
  answered _ := rfl

/-- Two copies, and three of each of them. -/
theorem six_lines_are_shown :
    let content := "%write one two %duplicate -count 2 %duplicate -count 3 %cat"
    bot.ServesFiles order [] "1" (plainMessage content) { desk := {} } ∧ "one two" ≠ "" ∧
      Invocation.IsPlain bot.grammar "one two" ∧
      (∀ count ∈ [2, 3], 1 ≤ count ∧ count ≤ maxDuplicates) ∧ [2, 3].length + 2 ≤ bot.chainLimit ∧
      content = filePipelineText bot.grammar "one two" [2, 3] ∧
      ∃ r w' p, bot.handle "1" (plainMessage content) { desk := {} } = some (r, w') ∧
        r.state = .completed ∧ payloadsOf w'.events = [p] ∧
        p.content = "one two\none two\none two\none two\none two\none two" ∧
        r.cleanup = { created := 9, released := 9, failed := 0 } ∧
        ∀ q, w'.files.node? q = ({} : FileSystem).node? q := by
  have hplain : Invocation.IsPlain bot.grammar "one two" := by decide +kernel
  have hcounts : ∀ count ∈ [2, 3], 1 ≤ count ∧ count ≤ maxDuplicates := by decide
  have hcontent : "%write one two %duplicate -count 2 %duplicate -count 3 %cat" =
      filePipelineText bot.grammar "one two" [2, 3] := by decide +kernel
  refine ⟨servesFiles _, by decide, hplain, hcounts, by decide, hcontent, ?_⟩
  obtain ⟨r, w', new, hhandle, hevents, hfiles, hkeeps, -⟩ :=
    file_pipelines_keep_their_text (servesFiles _) (by decide) hplain hcounts (by decide) hcontent
  obtain rfl : w'.events = new := hevents
  have hkept := hkeeps.2 (by decide +kernel)
  have htext : copiesOf "one two" [2, 3].prod =
      "one two\none two\none two\none two\none two\none two" := by decide +kernel
  obtain ⟨hstate, p, hpayload, hshown⟩ := hkept.shown (by rw [htext]; decide)
  exact ⟨r, w', p, hhandle, hstate, hpayload, hshown.trans htext, hkept.cleanup, hfiles⟩

/-- After 121 steps the name of the one copy has 257 characters.  There is no room for it, although
the reply would hold two characters only. -/
theorem last_name_has_no_room :
    let counts := List.replicate 121 1
    Invocation.IsPlain bot.grammar "hi" ∧ (∀ count ∈ counts, 1 ≤ count ∧ count ≤ maxDuplicates) ∧
      counts.length + 2 ≤ bot.chainLimit ∧
      (copiesOf "hi" counts.prod).length ≤ bot.platform.limits.maxText ∧
      ∃ r w', bot.handle "1" (plainMessage (filePipelineText bot.grammar "hi" counts))
          { desk := {} } = some (r, w') ∧
        r.state = .failed ∧ ∃ f, r.failure? = some f ∧ f.reasonCode = "task_failed" := by
  have hplain : Invocation.IsPlain bot.grammar "hi" := by decide +kernel
  have hcounts : ∀ count ∈ List.replicate 121 1, 1 ≤ count ∧ count ≤ maxDuplicates := by
    intro count hcount
    obtain rfl := List.eq_of_mem_replicate hcount
    decide
  have hlimit : (List.replicate 121 1).length + 2 ≤ bot.chainLimit := by
    rw [List.length_replicate]
    decide
  have hfull : ¬HasRoom (Path.nameSize defaultFileName + 2 * (List.replicate 121 1).length)
      (filesMade (List.replicate 121 1)) := by
    intro hroom
    exact absurd (hroom.mono (Nat.le_refl _) (Nat.zero_le _)) (by decide +kernel)
  obtain ⟨r, w', new, hhandle, -, -, -, hfailed⟩ :=
    Bot.exists_handle_files (servesFiles _) (by decide) hplain hcounts hlimit rfl
  obtain ⟨hstate, hreason⟩ := (hfailed hfull).1
  exact ⟨hplain, hcounts, hlimit, by decide +kernel, r, w', hhandle, hstate, hreason⟩

end Spread

end ChatChain
