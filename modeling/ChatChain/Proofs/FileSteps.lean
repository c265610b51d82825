import ChatChain.Proofs.StoredFiles
import ChatChain.Proofs.TextSteps
import Mathlib.Algebra.BigOperators.Ring.List
import Mathlib.Algebra.Group.Action.Defs
import Mathlib.Algebra.Ring.Nat

/-!
# Steps on files

`write` puts a text into a file, `duplicate` copies the files of the step before, and `cat` shows
their texts.  This module follows a chain of these steps through its run.

There are four groups.

* Numbers.  `filesMade` counts the files of a chain, and `copiesOf` is the text in the last ones.
* Tasks.  `keeps_writeTask`, `keeps_duplicateTask` and `keeps_catTask` say what the tasks do under
  the terms of the store.
* Steps.  `IsFileChain` says what a chain of these steps is, and `IsFileChain.check_eq_ok` that it
  passes the check.
* Chains.  `runFrom_of_keeps` runs a step that stores files, `runFrom_copying` is the induction over
  the copying steps, and `execute_concludes` is what a chain comes to.
-/

namespace ChatChain

open Builtin Fallible FileName FileSystem Number Routine TempStore

/-! ## Numbers -/

/-- How many files there are when one is written and every step makes so many copies of each file of
the step before. -/
def filesMade (counts : List Nat) : Nat :=
  (counts.inits.map List.prod).sum

/-- So many copies of a text, line after line. -/
def copiesOf (text : String) (n : Nat) : String :=
  "\n".intercalate (List.replicate n text)

@[simp] theorem filesMade_nil : filesMade [] = 1 := rfl

/-- Behind the first file, everything is made once for each copy of the first step. -/
@[simp] theorem filesMade_cons (count : Nat) (counts : List Nat) :
    filesMade (count :: counts) = 1 + count * filesMade counts := by
  simp [filesMade, List.sum_map_mul_left, Function.comp_def]

theorem filesMade_pos (counts : List Nat) : 0 < filesMade counts := by
  cases counts with
  | nil => simp
  | cons count counts => rw [filesMade_cons]; omega

/-! ## Tasks -/

variable {fs₀ : FileSystem} {base : List Path} {d : String} {s : Routine.Scene}
  {m size total n : Nat} {content : ByteArray} {text : String} {handles : List FileHandle}
  {b : Binding}

theorem AllFiled.flatten {groups : List (List FileHandle)} {count : Nat}
    (hlength : groups.length = n) (h : ∀ hs ∈ groups, AllFiled content size count s hs) :
    AllFiled content size (n * count) s groups.flatten := by
  refine ⟨?_, fun handle hhandle => ?_⟩
  · have hlengths : groups.map List.length = List.replicate n count := by
      rw [List.eq_replicate_iff]
      refine ⟨by rw [List.length_map, hlength], fun k hk => ?_⟩
      obtain ⟨hs, hmem, rfl⟩ := List.mem_map.1 hk
      exact (h hs hmem).1
    rw [List.length_flatten, hlengths, List.sum_replicate_nat]
  · obtain ⟨hs, hmem, hhandle⟩ := List.mem_flatten.1 hhandle
    exact (h hs hmem).2 handle hhandle

/-- Whether an output hands so many files with the given content on. -/
def Hands (content : ByteArray) (size count : Nat) (s : Routine.Scene) (output : TaskOutput) :
    Prop :=
  ∃ handles, output = { data := .files handles } ∧ AllFiled content size count s handles

/-- `write` puts its text into a file. -/
theorem writeTask_eq (htext : b.text? "text" = some text) (context : TaskContext) (data : Flow) :
    writeCommand.task context b data =
      (Routine.write (outputName (b.text? "name")) text.toUTF8).bind fun handle =>
        .done { data := .files [handle] } := by
  have hbound : boundText b "text" = .done text := by simp [boundText, htext]
  simp only [writeCommand, hbound]
  rfl

/-- It writes one file. -/
theorem keeps_writeTask (htext : b.text? "text" = some text)
    (hname : b.text? "name" = some defaultFileName) (context : TaskContext) (data : Flow)
    (s : Routine.Scene) :
    Keeps (storing fs₀ base d m (Path.nameSize defaultFileName) total)
      (Finished (Hands text.toUTF8 (Path.nameSize defaultFileName) 1))
      (fun _ _ => ¬HasRoom (Path.nameSize defaultFileName) total)
      (writeCommand.task context b data) 1 s := by
  have hsafe : IsSafe defaultFileName := by
    have hkept : sanitize defaultFileName = defaultFileName := by decide +kernel
    rw [← hkept]
    exact isSafe_sanitize defaultFileName
  have hwritten : outputName (b.text? "name") = defaultFileName := by rw [hname]; decide
  rw [writeTask_eq htext, hwritten]
  refine (keeps_write_safe hsafe rfl text.toUTF8 s).bind_finished (l := 0)
    fun t handle hgrows hhandle u hu => ⟨rfl, [handle], rfl, rfl, fun h hh => ?_⟩
  obtain rfl := List.mem_singleton.1 hh
  exact hhandle u hu

/-- `duplicate` writes so many copies of each file. -/
theorem keeps_duplicateTask {count : Nat} (hcount : b.whole? "count" = some (count : Int))
    (hlow : 1 ≤ count) (hhigh : count ≤ maxDuplicates) (schedule : List Nat)
    (context : TaskContext) (h : AllFiled content size n s handles) :
    Keeps (storing fs₀ base d m (size + 2) total)
      (Finished (Hands content (size + 2) (n * count))) (fun _ _ => ¬HasRoom (size + 2) total)
      ((duplicateCommand schedule).task context b (.files handles)) (n * count) s := by
  have hrange := requireRange_natCast "count" hlow hhigh
  have hten : count < 10 := Nat.lt_of_le_of_lt hhigh (by decide)
  have hall : AllKeep (storing fs₀ base d m (size + 2) total)
      (fun _ _ => ¬HasRoom (size + 2) total) s
      (handles.map fun _ => Finished (AllFiled content (size + 2) count))
      (handles.map (copyFile count)) (handles.length • count) :=
    AllKeep.of_forall fun handle hhandle => keeps_copyFile (h.2 handle hhandle) hten
  rw [h.1, smul_eq_mul] at hall
  rw [duplicateTask_eq, hcount, Option.getD_some, hrange]
  refine (hall.keeps_interleave schedule).bind (l := 0) fun t copies w hgrows hcopies u hu => ?_
  obtain ⟨rfl, hlength, hfiled⟩ := (hcopies u hu).forall_mem
  exact ⟨rfl, copies.flatten, rfl, .flatten (hlength.trans h.1) hfiled⟩

/-- `cat` shows the text as often as there are files. -/
theorem keeps_catTask {size' : Nat} (context : TaskContext) (b : Binding)
    (h : AllFiled text.toUTF8 size n s handles) (fails : Routine.Scene → Failure → Prop) :
    Keeps (storing fs₀ base d m size' total)
      (Finished fun _ output => output = .text (copiesOf text n)) fails
      (catCommand.task context b (.files handles)) 0 s := by
  have hall : AllKeep (storing fs₀ base d m size' total) fails s
      (handles.map fun _ => Finished fun _ read => read = text) (handles.map readText)
      (handles.length • 0) :=
    AllKeep.of_forall fun handle hhandle => keeps_readText (h.2 handle hhandle).toHolds fails
  have htexts := hall.keeps_each
  rw [← each_eq_each_id, nsmul_zero] at htexts
  refine htexts.bind (l := 0) fun t texts w hgrows hread u hu => ?_
  obtain ⟨rfl, hlength, hsame⟩ := (hread u hu).forall_mem
  have htext : texts = List.replicate n text :=
    List.eq_replicate_iff.2 ⟨hlength.trans h.1, hsame⟩
  rw [htext]
  exact ⟨rfl, rfl⟩

/-! ## Steps -/

variable {schedule counts : List Nat} {chain : List ChainStep} {x : Executor}

/-- Whether a chain copies the files that it is given so many times, step by step, and shows the
last ones. -/
inductive IsCopying (schedule : List Nat) : List Nat → List ChainStep → Prop
  | cat {b : Binding} : IsCopying schedule [] [{ command := catCommand, binding := b }]
  | duplicate {count : Nat} {counts : List Nat} {b : Binding} {chain : List ChainStep}
      (hcount : b.whole? "count" = some (count : Int)) (hlow : 1 ≤ count)
      (hhigh : count ≤ maxDuplicates) (hrest : IsCopying schedule counts chain) :
      IsCopying schedule (count :: counts)
        ({ command := duplicateCommand schedule, binding := b } :: chain)

/-- Whether a chain writes a text into a file, copies the file step by step, and shows the copies.
-/
inductive IsFileChain (schedule : List Nat) (text : String) (counts : List Nat) :
    List ChainStep → Prop
  | intro {b : Binding} {chain : List ChainStep} (htext : b.text? "text" = some text)
      (hname : b.text? "name" = some defaultFileName) (hrest : IsCopying schedule counts chain) :
      IsFileChain schedule text counts ({ command := writeCommand, binding := b } :: chain)

namespace IsCopying

theorem length_eq (h : IsCopying schedule counts chain) : chain.length = counts.length + 1 := by
  induction h with
  | cat => rfl
  | duplicate _ _ _ _ ih => simp [ih]

/-- It fits behind any command that returns files. -/
theorem isChain (h : IsCopying schedule counts chain) {first : Definition}
    (hfirst : first.output = .files) :
    (first :: chain.map ChainStep.definition).IsChain Definition.Feeds := by
  induction h generalizing first with
  | cat =>
    rw [List.map_cons, List.isChain_cons_cons]
    exact ⟨hfirst, .singleton _⟩
  | duplicate _ _ _ _ ih =>
    rw [List.map_cons, List.isChain_cons_cons]
    exact ⟨hfirst, ih rfl⟩

theorem deferReply (h : IsCopying schedule counts chain) :
    ∀ c ∈ chain, c.definition.deferReply = false := by
  induction h with
  | cat => simp [ChainStep.definition, catCommand]
  | duplicate _ _ _ _ ih => exact List.forall_mem_cons.2 ⟨rfl, ih⟩

end IsCopying

namespace IsFileChain

/-- It begins with a command that takes no files. -/
theorem startsWithAttachments_eq (h : IsFileChain schedule text counts chain) (m : Message) :
    Bot.startsWithAttachments chain m = false := by
  cases h with
  | intro htext hname hrest => simp [Bot.startsWithAttachments, ChainStep.definition, writeCommand]

theorem deferReply (h : IsFileChain schedule text counts chain) :
    (chain.any fun c => c.definition.deferReply) = false := by
  cases h with
  | intro htext hname hrest =>
    rw [List.any_eq_false]
    refine List.forall_mem_cons.2 ⟨by simp [ChainStep.definition, writeCommand], fun c hc => ?_⟩
    simp [hrest.deferReply c hc]

/-- It passes the check if it is not too long. -/
theorem check_eq_ok (h : IsFileChain schedule text counts chain)
    (hlimit : counts.length + 2 ≤ x.chainLimit) : x.check chain none = .ok () := by
  have hcheck : Chain.check (chain.map ChainStep.definition) none x.chainLimit = .ok () := by
    cases h with
    | intro htext hname hrest =>
      refine Chain.check_eq_ok_iff.2 ⟨?_, ?_, hrest.isChain rfl⟩
      · rw [List.length_map, List.length_cons, hrest.length_eq]
        exact hlimit
      · intro first hfirst hrequires
        obtain rfl := Option.some.inj hfirst
        exact absurd hrequires (by simp [ChainStep.definition, writeCommand])
  simp [Executor.check, hcheck]

end IsFileChain

/-- A command on files without a default key starts with the binding that it has. -/
theorem Executor.ready_of_files {c : ChainStep} (hkey : c.definition.defaultKey? = none)
    (hinput : c.definition.input = .files) (index : Nat) (handles : List FileHandle) :
    ready c index (.files handles) = .ok c.binding := by
  simp [ready, pipedBinding, Flow.value?, requireDefault, Definition.defaultArgument?, hkey,
    requireInput, Flow.kind, hinput]

/-- `write` starts as soon as it has its text. -/
theorem Executor.ready_writeCommand (htext : b.text? "text" = some text) (index : Nat) :
    ready { command := writeCommand, binding := b } index .nothing = .ok b := by
  obtain ⟨v, hv, -⟩ := Option.bind_eq_some_iff.1 htext
  have hkey : writeCommand.definition.defaultArgument? = some textArgument := by decide
  have hdefault : requireDefault writeCommand.definition b = .ok () := by
    simp [requireDefault, hkey, textArgument, hv]
  have hinput : requireInput writeCommand.definition .nothing = .ok () := rfl
  simp only [ready, pipedBinding, Flow.value?, ChainStep.definition, hdefault, hinput, ok_bind]
  rfl

/-! ## Chains -/

/-- What a chain comes to that stores files of its own and shows a text, given whether there is room
for them: it completes and shows the text with all files in the store, or a task of it fails. -/
structure Execution.Concludes (fs₀ : FileSystem) (base : List Path) (d : String) (result : String)
    (total : Nat) (room : Prop) (e : Execution) : Prop where
  completed : room → e.ending = .completed (.text result) ∧
    (∀ shown, e.steps.foldl Reply.mergeStep shown = result) ∧ Shelved fs₀ base d total e.scene
  failed : ¬room → (∃ name failure, e.ending = .failed (.task name failure)) ∧
    Stocked fs₀ base d e.scene

variable {result : String} {room : Prop} {e : Execution}

namespace Execution.Concludes

theorem after (h : e.Concludes fs₀ base d result total room) (run : TaskRun)
    (summary : StepSummary) : (e.after run summary).Concludes fs₀ base d result total room where
  completed hroom :=
    ⟨(h.completed hroom).1, fun _ => (h.completed hroom).2.1 _, (h.completed hroom).2.2⟩
  failed hfull := h.failed hfull

/-- Either way, all that the store lists was written by the chain. -/
theorem stocked (h : e.Concludes fs₀ base d result total room) : Stocked fs₀ base d e.scene := by
  by_cases hroom : room
  · exact (h.completed hroom).2.2.stocked
  · exact (h.failed hroom).2

end Execution.Concludes

namespace Executor

/-- Whether nothing is cancelled and no task waits for ever for an answer. -/
structure IsCalm (x : Executor) : Prop where
  uncancelled : x.cancelAt? = none
  answered : ∀ index, x.stalls index = none

theorem IsCalm.runTask_eq (h : x.IsCalm) (index : Nat) (c : ChainStep) (b : Binding) (data : Flow)
    (s : Routine.Scene) :
    x.runTask index c b data s =
      (c.command.task (x.contextOf c index) b data).run (x.boundsAt s.clock) s := by
  unfold runTask
  rw [h.answered]
  rfl

/-- A step that stores files hands them on if there is room for them, and ends the chain if there is
none. -/
theorem runFrom_of_keeps {c : ChainStep} {index count k : Nat} {data : Flow}
    {rest : List ChainStep} (hcalm : x.IsCalm) (hready : ready c index data = .ok b)
    (houtput : c.definition.output = .files)
    (hkeeps : ∀ context, Keeps (storing fs₀ base d m size n) (Finished (Hands content size count))
      (fun _ _ => ¬HasRoom size n) (c.command.task context b data) k s)
    (hholds : Storing fs₀ base d m size n k s) (hm : m < n) (hroom : room → HasRoom size n)
    (hrest : HasRoom size n → ∀ handles t, AllFiled content size count t handles →
      Shelved fs₀ base d n t →
        (x.runFrom (index + 1) (.files handles) rest t).Concludes fs₀ base d result total room) :
    (x.runFrom index data (c :: rest) s).Concludes fs₀ base d result total room := by
  have hnow := x.not_isCancelled hcalm.uncancelled s.clock
  have hends : Ends (storing fs₀ base d m size n) (Finished (Hands content size count))
      (fun _ _ => ¬HasRoom size n) s (x.runTask index c b data s) := by
    rw [hcalm.runTask_eq]
    exact (hkeeps _).run hholds _
  generalize hrun : x.runTask index c b data s = result at hends
  cases hends with
  | returned hgrows hdone hreturns =>
    obtain ⟨rfl, handles, rfl, hfiled⟩ := hreturns
    have hfits := Storing.hasRoom hdone hm
    rw [runFrom_of_returned hnow hready hrun houtput.symm]
    exact (hrest hfits handles _ hfiled (Storing.shelved hdone hfits)).after _ _
  | failed hgrows hleft hfull =>
    rw [runFrom_of_failed hnow hready hrun]
    exact ⟨fun hyes => absurd (hroom hyes) hfull, fun _ => ⟨⟨_, _, rfl⟩, hleft.stocked⟩⟩

/-- `cat` shows the text of all files and leaves them where they are. -/
theorem runFrom_cat (hcalm : x.IsCalm) (b : Binding)
    (hfiled : AllFiled text.toUTF8 size n s handles) (hshelved : Shelved fs₀ base d total s)
    (hroom : HasRoom size total) (index : Nat) :
    (x.runFrom index (.files handles) [{ command := catCommand, binding := b }] s).Concludes fs₀
      base d (copiesOf text n) total (HasRoom size total) := by
  have hready : ready { command := catCommand, binding := b } index (.files handles) = .ok b :=
    ready_of_files rfl rfl index handles
  have hends : Ends (storing fs₀ base d total size total)
      (Finished fun _ output => output = .text (copiesOf text n)) (fun _ _ => False) s
      (x.runTask index { command := catCommand, binding := b } b (.files handles) s) := by
    rw [hcalm.runTask_eq]
    exact (keeps_catTask _ b hfiled fun _ _ => False).run (hshelved.storing size 0) _
  generalize hrun : x.runTask index { command := catCommand, binding := b } b (.files handles) s =
    ended at hends
  cases hends with
  | @returned output _ t hgrows hdone hreturns =>
    obtain ⟨rfl, rfl⟩ := hreturns
    rw [runFrom_of_returned (x.not_isCancelled hcalm.uncancelled s.clock) hready hrun rfl]
    exact ⟨fun _ => ⟨rfl, fun _ => rfl, Storing.shelved hdone hroom⟩, fun hno => absurd hroom hno⟩
  | failed _ _ hfails => exact hfails.elim

/-- Copying steps conclude with the text of all copies, by induction on the steps: each one makes
`count` files of every file of the step before. -/
theorem runFrom_copying (hcalm : x.IsCalm) (h : IsCopying schedule counts chain)
    (hn : 0 < n) (hfiled : AllFiled text.toUTF8 size n s handles)
    (hshelved : Shelved fs₀ base d (m + n) s) (hroom : HasRoom size (m + n)) (index : Nat) :
    (x.runFrom index (.files handles) chain s).Concludes fs₀ base d
      (copiesOf text (n * counts.prod)) (m + n * filesMade counts)
      (HasRoom (size + 2 * counts.length) (m + n * filesMade counts)) := by
  induction h generalizing m n size s handles index with
  | @cat b =>
    simp only [List.prod_nil, filesMade_nil, Nat.mul_one, List.length_nil, Nat.mul_zero,
      Nat.add_zero]
    exact runFrom_cat hcalm b hfiled hshelved hroom index
  | @duplicate count counts b chain hcount hlow hhigh hrest ih =>
    have hnext : 0 < n * count := Nat.mul_pos hn hlow
    have htotal : m + n * filesMade (count :: counts) =
        (m + n) + n * count * filesMade counts := by
      rw [filesMade_cons, Nat.mul_add, Nat.mul_one, Nat.mul_assoc, Nat.add_assoc]
    have hsize : size + 2 * (count :: counts).length = size + 2 + 2 * counts.length := by
      rw [List.length_cons]
      omega
    rw [htotal, hsize, List.prod_cons, ← Nat.mul_assoc]
    refine runFrom_of_keeps hcalm (ready_of_files rfl rfl index handles) rfl
      (fun context => keeps_duplicateTask hcount hlow hhigh schedule context hfiled)
      (hshelved.storing (size + 2) (n * count)) (by omega) (fun hall => ?_)
      fun hfits copies t hcopies hstored => ih hnext hcopies hstored hfits (index + 1)
    exact hall.mono (by omega) (Nat.add_le_add_left (Nat.le_mul_of_pos_right _ (filesMade_pos _)) _)

/-- What a chain on files comes to. -/
theorem execute_concludes (hcalm : x.IsCalm)
    (h : IsFileChain schedule text counts chain) (hcheck : x.check chain none = .ok ())
    (hempty : Shelved fs₀ base d 0 s) :
    (x.execute chain .nothing s).Concludes fs₀ base d (copiesOf text counts.prod)
      (filesMade counts)
      (HasRoom (Path.nameSize defaultFileName + 2 * counts.length) (filesMade counts)) := by
  rw [execute_of_check hcheck]
  cases h with
  | @intro b chain htext hname hrest =>
    have hroom : HasRoom (Path.nameSize defaultFileName) 1 := by decide +kernel
    refine runFrom_of_keeps hcalm (ready_writeCommand htext 0) rfl
      (fun context => keeps_writeTask htext hname context .nothing s) (hempty.storing _ 1)
      Nat.one_pos (fun _ => hroom) fun hfits handles t hfiled hstored => ?_
    have hlater := runFrom_copying hcalm hrest Nat.one_pos hfiled hstored hfits 1
    simpa using hlater

end Executor

end ChatChain
