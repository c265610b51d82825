import ChatChain.Proofs.Fallible
import ChatChain.Reply

/-!
# What a reply holds

A reply is made whole or not at all: it shows all of the merged text and attaches all files of the
last step, and what the platform does not accept is refused.  Only the word that stands for no text
is not measured against the platform's limits.

There are four groups.

* One file.  `Attaches` says what a reply gives about a file, and `FileFault` what is wrong with one
  that it cannot attach.
* All files and the text.  `outboundFiles_eq_ok_iff`, `outboundFiles_eq_error_iff` and
  `outboundText_eq` read the two parts of a reply.
* The whole reply.  `Complete` and `Refused` say which reply there is and why there is none;
  `assembled_replies_are_complete` is the main result, and `done_breaks_the_limit` shows the word
  that exceeds a limit.
* What follows for the messages that a chain answers: the sizes of the files, the text of a reply
  without files, and that no command is to blame when there is no reply.
-/

namespace ChatChain.Reply

open Fallible

variable {limits : Limits} {fs : FileSystem}

/-! ## One file -/

/-- What a reply gives about a file: its name and path, and the size that it has on the file system,
which the platform accepts. -/
structure Attaches (limits : Limits) (fs : FileSystem) (handle : FileHandle) (file : OutboundFile) :
    Prop where
  name : file.name = handle.name
  path : file.path = handle.path
  size : fs.size handle.path = .ok file.size
  accepted : file.size ≤ limits.maxFileSize

/-- What keeps a reply from attaching a file. -/
inductive FileFault (limits : Limits) (fs : FileSystem) (handle : FileHandle) : ChainError → Prop
  | unreadable {e : FileError} (hsize : fs.size handle.path = .error e) :
      FileFault limits fs handle (.storage ((Failure.internal e.message).within "failed to stat"))
  | tooLarge {size : Nat} (hsize : fs.size handle.path = .ok size)
      (hlarge : limits.maxFileSize < size) :
      FileFault limits fs handle (.fileTooLarge handle.name size limits.maxFileSize)

variable {handle : FileHandle}

theorem outboundFile_eq_ok_iff {file : OutboundFile} :
    outboundFile limits fs handle = .ok file ↔ Attaches limits fs handle file := by
  unfold outboundFile
  constructor
  · intro h
    cases hsize : fs.size handle.path with
    | error e => simp [hsize] at h
    | ok size =>
      simp only [hsize] at h
      split at h
      · exact absurd h (by simp)
      · next hfits =>
        obtain rfl := Except.ok.inj h
        exact ⟨rfl, rfl, hsize, Nat.le_of_not_lt hfits⟩
  · rintro ⟨hname, hpath, hsize, haccepted⟩
    obtain ⟨name, path, size⟩ := file
    obtain rfl : name = handle.name := hname
    obtain rfl : path = handle.path := hpath
    simp only [hsize, if_neg (Nat.not_lt_of_le haccepted)]

theorem outboundFile_eq_error_iff {e : ChainError} :
    outboundFile limits fs handle = .error e ↔ FileFault limits fs handle e := by
  unfold outboundFile
  constructor
  · intro h
    cases hsize : fs.size handle.path with
    | error cause =>
      simp only [hsize, Except.error.injEq] at h
      exact h ▸ .unreadable hsize
    | ok size =>
      simp only [hsize] at h
      split at h
      · next hlarge =>
        obtain rfl := Except.error.inj h
        exact .tooLarge hsize hlarge
      · exact absurd h (by simp)
  · rintro (hsize | ⟨hsize, hlarge⟩)
    · simp only [hsize]
    · simp only [hsize, if_pos hlarge]

/-- A file that cannot be read cannot be attached.  A directory cannot be read either, but it has a
size. -/
theorem exists_fileFault_of_read {e : FileError} (hread : fs.read handle.path = .error e)
    (hfile : e ≠ .isADirectory) : ∃ e', FileFault limits fs handle e' := by
  suffices hsize : fs.size handle.path = .error e from ⟨_, .unreadable hsize⟩
  unfold FileSystem.read at hread
  unfold FileSystem.size
  cases hnode : fs.locate [] handle.path >>= fs.nodeAt with
  | error e' =>
    rcases bind_eq_error_iff.1 hnode with hlocate | ⟨l, hlocate, hat⟩
    · simp only [hlocate, error_bind, Except.error.injEq] at hread
      rw [hread]
      rfl
    · simp only [hlocate, ok_bind, FileSystem.readAt, hat, error_bind, Except.error.injEq] at hread
      rw [hread]
      rfl
  | ok node =>
    obtain ⟨l, hlocate, hat⟩ := bind_eq_ok_iff.1 hnode
    simp only [hlocate, ok_bind, FileSystem.readAt, hat] at hread
    cases node with
    | file content => exact absurd hread (by simp)
    | directory => exact absurd (Except.error.inj hread).symm hfile

/-! ## All files and the text -/

/-- The files of a reply are those it was given, in order, if there are not too many. -/
theorem outboundFiles_eq_ok_iff {handles : List FileHandle} {files : List OutboundFile} :
    outboundFiles limits fs handles = .ok files ↔
      handles.length ≤ limits.maxFiles ∧ List.Forall₂ (Attaches limits fs) handles files := by
  unfold outboundFiles
  split
  · next hmany => simp [Nat.not_le_of_lt hmany]
  · next hfew =>
    simp only [mapM_eq_ok_iff, outboundFile_eq_ok_iff, Nat.le_of_not_lt hfew, true_and]

/-- There are no files for a reply when there are too many of them, or else for what is wrong with
the first that is faulty. -/
theorem outboundFiles_eq_error_iff {handles : List FileHandle} {e : ChainError} :
    outboundFiles limits fs handles = .error e ↔
      limits.maxFiles < handles.length ∧ e = .tooManyFiles handles.length limits.maxFiles ∨
        handles.length ≤ limits.maxFiles ∧ FirstFault (FileFault limits fs) handles e := by
  unfold outboundFiles
  split
  · next hmany => simp [hmany, Nat.not_le_of_lt hmany, eq_comm]
  · next hfew =>
    simp only [mapM_eq_error_iff, outboundFile_eq_error_iff, hfew, Nat.le_of_not_lt hfew, true_and,
      false_and, false_or]

/-- There are files for a reply when there are not too many and none is faulty. -/
theorem exists_outboundFiles_iff {handles : List FileHandle} :
    (∃ files, outboundFiles limits fs handles = .ok files) ↔
      handles.length ≤ limits.maxFiles ∧
        ∀ handle ∈ handles, ∀ e, ¬FileFault limits fs handle e := by
  constructor
  · rintro ⟨files, hfiles⟩
    have hfew := (outboundFiles_eq_ok_iff.1 hfiles).1
    refine ⟨hfew, fun handle hhandle e hfault => ?_⟩
    obtain ⟨e', hfirst⟩ := exists_firstFault hhandle hfault
    have herror := outboundFiles_eq_error_iff.2 (Or.inr ⟨hfew, hfirst⟩)
    exact absurd (hfiles.symm.trans herror) (by simp)
  · rintro ⟨hfew, hsound⟩
    cases hfiles : outboundFiles limits fs handles with
    | ok files => exact ⟨files, rfl⟩
    | error e =>
      rcases outboundFiles_eq_error_iff.1 hfiles with ⟨hmany, -⟩ | ⟨-, hfirst⟩
      · exact absurd hfew (Nat.not_le_of_lt hmany)
      · obtain ⟨handle, hhandle, e', hfault⟩ := exists_firstFault_iff.1 ⟨e, hfirst⟩
        exact absurd hfault (hsound handle hhandle e')

/-- What a reply without files shows for a text. -/
def shown (text : String) : String :=
  if Text.isBlankText text then emptyText else text

variable {steps : List StepSummary}

/-- The text of a reply is the merged text, which is measured before a word may take its place. -/
theorem outboundText_eq (hasFiles : Bool) :
    outboundText limits steps hasFiles =
      if limits.maxText < (merge steps).length then
        .error (.messageTooLong (merge steps).length limits.maxText)
      else .ok (if hasFiles then merge steps else shown (merge steps)) := by
  unfold outboundText shown
  simp only
  cases hasFiles <;> cases Text.isBlankText (merge steps) <;> simp

/-! ## The whole reply -/

variable {data : Flow} {replyTo? : Option String} {ephemeral : Bool}

/-- Whether a reply holds all that the chain has for it. -/
structure Complete (limits : Limits) (fs : FileSystem) (steps : List StepSummary) (data : Flow)
    (replyTo? : Option String) (ephemeral : Bool) (p : Payload) : Prop where
  text : (merge steps).length ≤ limits.maxText
  content : p.content = if data.handles = [] then shown (merge steps) else merge steps
  count : p.files.length ≤ limits.maxFiles
  files : List.Forall₂ (Attaches limits fs) data.handles p.files
  suppressEmbeds : p.suppressEmbeds = true ↔ ∃ step ∈ steps, step.suppressEmbeds = true
  replyTo? : p.replyTo? = replyTo?
  ephemeral : p.ephemeral = ephemeral

/-- Why there is no reply: the files come before the text, and their number before the files. -/
inductive Refused (limits : Limits) (fs : FileSystem) (steps : List StepSummary) (data : Flow) :
    ChainError → Prop
  | tooManyFiles (hmany : limits.maxFiles < data.handles.length) :
      Refused limits fs steps data (.tooManyFiles data.handles.length limits.maxFiles)
  | file {e : ChainError} (hfew : data.handles.length ≤ limits.maxFiles)
      (hfirst : FirstFault (FileFault limits fs) data.handles e) : Refused limits fs steps data e
  | messageTooLong (hfew : data.handles.length ≤ limits.maxFiles)
      (hsound : ∀ handle ∈ data.handles, ∀ e, ¬FileFault limits fs handle e)
      (hlong : limits.maxText < (merge steps).length) :
      Refused limits fs steps data (.messageTooLong (merge steps).length limits.maxText)

/-- Of two lists that are related member by member, either tells whether there are members. -/
theorem ite_isEmpty_of_forall₂ {α β γ : Type} {R : α → β → Prop} {xs : List α} {ys : List β}
    (h : List.Forall₂ R xs ys) (a b : γ) :
    (if (!ys.isEmpty) = true then a else b) = if xs = [] then b else a := by
  cases h <;> simp

/-- The replies that are made are the complete ones. -/
theorem assemble_eq_ok_iff {p : Payload} :
    assemble limits fs steps data replyTo? ephemeral = .ok p ↔
      Complete limits fs steps data replyTo? ephemeral p := by
  simp only [assemble, bind_eq_ok_iff, pure_eq_ok_iff, outboundFiles_eq_ok_iff, outboundText_eq]
  constructor
  · rintro ⟨files, ⟨hfew, hfiles⟩, content, htext, rfl⟩
    split at htext
    · exact absurd htext (by simp)
    · next hshort =>
      obtain rfl := Except.ok.inj htext
      exact {
        text := Nat.le_of_not_lt hshort
        content := by rw [ite_isEmpty_of_forall₂ hfiles]
        count := hfiles.length_eq ▸ hfew
        files := hfiles
        suppressEmbeds := List.any_eq_true
        replyTo? := rfl
        ephemeral := rfl }
  · rintro ⟨hshort, hcontent, hcount, hfiles, hembeds, hreplyTo, hephemeral⟩
    obtain ⟨content, files, suppressEmbeds, _, _⟩ := p
    obtain rfl : _ = replyTo? := hreplyTo
    obtain rfl : _ = ephemeral := hephemeral
    have hany : steps.any StepSummary.suppressEmbeds = suppressEmbeds :=
      Bool.eq_iff_iff.2 (List.any_eq_true.trans hembeds.symm)
    refine ⟨files, ⟨hfiles.length_eq ▸ hcount, hfiles⟩, content, ?_, by rw [hany]⟩
    obtain rfl : content = _ := hcontent
    rw [if_neg (Nat.not_lt_of_le hshort), ite_isEmpty_of_forall₂ hfiles]

/-- The errors in place of a reply are the reasons to refuse it. -/
theorem assemble_eq_error_iff {e : ChainError} :
    assemble limits fs steps data replyTo? ephemeral = .error e ↔
      Refused limits fs steps data e := by
  simp only [assemble, bind_eq_error_iff, pure_ne_error, and_false, exists_false, or_false,
    outboundFiles_eq_error_iff, outboundText_eq]
  constructor
  · rintro ((⟨hmany, rfl⟩ | ⟨hfew, hfirst⟩) | ⟨files, hfiles, htext⟩)
    · exact .tooManyFiles hmany
    · exact .file hfew hfirst
    · split at htext
      · next hlong =>
        obtain rfl := Except.error.inj htext
        obtain ⟨hfew, hsound⟩ := exists_outboundFiles_iff.1 ⟨files, hfiles⟩
        exact .messageTooLong hfew hsound hlong
      · exact absurd htext (by simp)
  · rintro (hmany | ⟨hfew, hfirst⟩ | ⟨hfew, hsound, hlong⟩)
    · exact Or.inl (Or.inl ⟨hmany, rfl⟩)
    · exact Or.inl (Or.inr ⟨hfew, hfirst⟩)
    · obtain ⟨files, hfiles⟩ := exists_outboundFiles_iff.2 ⟨hfew, hsound⟩
      exact Or.inr ⟨files, hfiles, if_pos hlong⟩

/-- The text of a reply respects the limit, unless a word that is too long for the platform stands
for no text. -/
theorem Complete.length_content_le_iff {p : Payload}
    (h : Complete limits fs steps data replyTo? ephemeral p) :
    p.content.length ≤ limits.maxText ↔
      ¬(data.handles = [] ∧ Text.isBlankText (merge steps) = true ∧
        limits.maxText < emptyText.length) := by
  rw [h.content]
  have hshort := h.text
  unfold shown
  split
  · next hnone =>
    split
    · next hblank => simp [hnone, hblank]
    · next hfull => simp [hshort, hfull]
  · next hsome => simp [hshort, hsome]

/-- There is no reply exactly when the text, the number of files or a file gives cause for it. -/
theorem exists_assemble_eq_error_iff :
    (∃ e, assemble limits fs steps data replyTo? ephemeral = .error e) ↔
      limits.maxText < (merge steps).length ∨ limits.maxFiles < data.handles.length ∨
        ∃ handle ∈ data.handles, ∃ e, FileFault limits fs handle e := by
  simp only [assemble_eq_error_iff]
  constructor
  · rintro ⟨e, hmany | ⟨hfew, hfirst⟩ | ⟨hfew, hsound, hlong⟩⟩
    · exact Or.inr (Or.inl hmany)
    · exact Or.inr (Or.inr (exists_firstFault_iff.1 ⟨e, hfirst⟩))
    · exact Or.inl hlong
  · intro hcause
    -- With several causes the first check that fails names the error.
    by_cases hmany : limits.maxFiles < data.handles.length
    · exact ⟨_, .tooManyFiles hmany⟩
    · have hfew := Nat.le_of_not_lt hmany
      by_cases hfaulty : ∃ handle ∈ data.handles, ∃ e, FileFault limits fs handle e
      · obtain ⟨e, hfirst⟩ := exists_firstFault_iff.2 hfaulty
        exact ⟨e, .file hfew hfirst⟩
      · have hlong := hcause.resolve_right (by simp [hmany, hfaulty])
        exact ⟨_, .messageTooLong hfew (fun handle hhandle e hfault =>
          hfaulty ⟨handle, hhandle, e, hfault⟩) hlong⟩

/-- A reply is made whole or not at all.  A reply that there is shows the whole merged text and
attaches every file of the last step, in order and within the limits.  There is none when the text,
the number of files or the size of a file exceeds its limit, or a file cannot be read.  The text
that is shown exceeds its limit only where the word for no text does. -/
theorem assembled_replies_are_complete (limits : Limits) (fs : FileSystem)
    (steps : List StepSummary) (data : Flow) (replyTo? : Option String) (ephemeral : Bool) :
    (∀ p, assemble limits fs steps data replyTo? ephemeral = .ok p ↔
      Complete limits fs steps data replyTo? ephemeral p) ∧
    (∀ p, assemble limits fs steps data replyTo? ephemeral = .ok p →
      (p.content.length ≤ limits.maxText ↔
        ¬(data.handles = [] ∧ Text.isBlankText (merge steps) = true ∧
          limits.maxText < emptyText.length))) ∧
    ((∃ e, assemble limits fs steps data replyTo? ephemeral = .error e) ↔
      limits.maxText < (merge steps).length ∨ limits.maxFiles < data.handles.length ∨
        ∃ handle ∈ data.handles, ∃ e, FileFault limits fs handle e) ∧
    (∀ handle ∈ data.handles, ∀ e, fs.read handle.path = .error e → e ≠ .isADirectory →
      ∃ e', assemble limits fs steps data replyTo? ephemeral = .error e') ∧
    ∀ e, assemble limits fs steps data replyTo? ephemeral = .error e ↔
      Refused limits fs steps data e := by
  refine ⟨fun _ => assemble_eq_ok_iff, fun p hp => ?_, exists_assemble_eq_error_iff,
    fun handle hhandle e hread hfile => ?_, fun _ => assemble_eq_error_iff⟩
  · exact (assemble_eq_ok_iff.1 hp).length_content_le_iff
  · exact exists_assemble_eq_error_iff.2
      (Or.inr (Or.inr ⟨handle, hhandle, exists_fileFault_of_read hread hfile⟩))

namespace Greeting

/-- A file system with a file of two bytes. -/
def files : FileSystem := ⟨[(["hi.txt"], .file ⟨#[104, 105]⟩)]⟩

def written : List StepSummary := [{ command := "write", text? := some "hi" }]

def attached : Flow := .files [{ path := ["hi.txt"], name := "hi.txt" }]

/-- A text and a file make a complete reply, and there is none when the file is gone. -/
theorem greeting_is_whole_or_refused :
    (∃ p, assemble {} files written attached none false = .ok p ∧
      Complete {} files written attached none false p ∧ p.content.length ≤ 2000) ∧
    ∃ e, assemble {} {} written attached none false = .error e := by
  have hmade : assemble {} files written attached none false =
      .ok { content := "hi", files := [{ name := "hi.txt", path := ["hi.txt"], size := 2 }] } := by
    decide
  have hgone : FileSystem.read {} ["hi.txt"] = .error .notFound := by decide
  obtain ⟨hcomplete, hshort, -⟩ :=
    assembled_replies_are_complete {} files written attached none false
  obtain ⟨-, -, -, hunreadable, -⟩ :=
    assembled_replies_are_complete {} {} written attached none false
  exact ⟨⟨_, hmade, (hcomplete _).1 hmade, (hshort _ hmade).2 (by decide)⟩,
    hunreadable _ List.mem_cons_self _ hgone (by decide)⟩

end Greeting

/-- A platform that accepts four characters is sent five. -/
theorem done_breaks_the_limit :
    ∃ p, assemble { maxText := 4 } {} [{ command := "c" }] .nothing none false = .ok p ∧
      4 < p.content.length :=
  ⟨{ content := emptyText }, rfl, by decide⟩

/-! ## What follows for a message -/

/-- The files of a reply are there, with the sizes that it gives. -/
theorem size_of_assemble {payload : Payload}
    (h : assemble limits fs steps data replyTo? ephemeral = .ok payload) :
    ∀ file ∈ payload.files, fs.size file.path = .ok file.size := by
  intro file hfile
  obtain ⟨handle, -, hattaches⟩ := exists_of_forall₂ (assemble_eq_ok_iff.1 h).files file hfile
  exact hattaches.path ▸ hattaches.size

/-- A reply without files shows the merged text. -/
theorem assemble_eq_shown (hhandles : data.handles = [])
    (hshort : ¬limits.maxText < (merge steps).length) :
    assemble limits fs steps data replyTo? ephemeral =
      .ok { content := shown (merge steps)
            suppressEmbeds := steps.any StepSummary.suppressEmbeds
            replyTo?
            ephemeral } :=
  assemble_eq_ok_iff.2
    { text := Nat.le_of_not_lt hshort
      content := by rw [if_pos hhandles]
      count := Nat.zero_le _
      files := hhandles ▸ .nil
      suppressEmbeds := List.any_eq_true
      replyTo? := rfl
      ephemeral := rfl }

/-- There is no reply when the merged text is too long. -/
theorem assemble_eq_messageTooLong (hhandles : data.handles = [])
    (hlong : limits.maxText < (merge steps).length) :
    assemble limits fs steps data replyTo? ephemeral =
      .error (.messageTooLong (merge steps).length limits.maxText) :=
  assemble_eq_error_iff.2 (.messageTooLong (by simp [hhandles]) (by simp [hhandles]) hlong)

/-- No command is to blame when there is no reply. -/
theorem assemble_ne_command (c : CommandError) :
    assemble limits fs steps data replyTo? ephemeral ≠ .error (.command c) := by
  intro h
  cases assemble_eq_error_iff.1 h with
  | file hfew hfirst =>
    obtain ⟨before, handle, after, -, -, hfault⟩ := hfirst
    cases hfault

end ChatChain.Reply
