import ChatChain.Console.Delivery
import ChatChain.Proofs.Handling
import ChatChain.Proofs.Places

/-!
# Copies in the output directory

A console with an output directory copies the files of a reply there, each under the safe form of
its name.  Two files whose safe names are the same get the same path, and the later copy takes the
place of the earlier one.

There are four groups.

* Written paths.  `Path.ofText_join` says what the path of a name in a written directory is made of.
* One copy.  `Desk.Leads` says where a written directory is.  `Desk.read_of_write` says what can be
  read in the directory after a file was written there.
* All copies.  `Copied` is what the copies of some files leave behind, and `copied_of_fileLines` the
  induction over the files.
* The result.  `copies_hold_the_last_of_their_name` says what that means for a call on a console.
  `Twins` has two files of which one is gone after a call that succeeds.
-/

namespace ChatChain

/-! ## Written paths -/

namespace Path

theorem cutAtSlashes_ne_nil (cs : List Char) : cutAtSlashes cs ≠ [] := by
  cases cs with
  | nil => simp [cutAtSlashes]
  | cons c cs =>
    unfold cutAtSlashes
    split
    · simp
    · split <;> simp

theorem cutAtSlashes_append (cs ds : List Char) :
    cutAtSlashes (cs ++ '/' :: ds) = cutAtSlashes cs ++ cutAtSlashes ds := by
  induction cs with
  | nil =>
    obtain ⟨first, rest, hcut⟩ := List.exists_cons_of_ne_nil (cutAtSlashes_ne_nil ds)
    simp [cutAtSlashes, hcut]
  | cons c cs ih =>
    obtain ⟨first, rest, hcut⟩ := List.exists_cons_of_ne_nil (cutAtSlashes_ne_nil cs)
    rw [List.cons_append, cutAtSlashes, cutAtSlashes, ih, hcut]
    by_cases hc : c = '/' <;> simp [hc]

/-- The names that lead to a written directory, in front of a name in it. -/
theorem ofText_join (directory : String) {name : String} (h : IsName name) :
    ∃ names, ofText (Desk.join directory name) = names ++ [name] ∧
      names.filter (· != "") = (ofText directory).filter (· != "") := by
  have hname : ofText name = [name] := by
    simp [ofText, cutAtSlashes_of_not_mem h.unslashed]
  unfold Desk.join
  split
  · next hlast =>
    obtain rfl : directory = "" := by simpa using List.getLast?_eq_none_iff.1 hlast
    exact ⟨[], by simpa using hname, rfl⟩
  · next hlast =>
    obtain ⟨cs, hcs⟩ := List.getLast?_eq_some_iff.1 hlast
    refine ⟨(cutAtSlashes cs).map String.ofList, ?_, ?_⟩
    · rw [ofText, String.toList_append, hcs, List.append_assoc, List.singleton_append,
        cutAtSlashes_append, List.map_append, ← ofText, hname]
    · rw [ofText, hcs, cutAtSlashes_append]
      simp [cutAtSlashes]
  · refine ⟨ofText directory, ?_, rfl⟩
    have hslash : (directory ++ "/" ++ name).toList = directory.toList ++ '/' :: name.toList := by
      simp
    rw [ofText, hslash, cutAtSlashes_append, List.map_append, ← ofText, ← ofText, hname]

theorem isAbsolute_join (directory : String) {name : String} (h : IsName name) :
    isAbsolute (Desk.join directory name) = isAbsolute directory := by
  by_cases hempty : directory = ""
  · subst hempty
    have hjoin : Desk.join "" name = name := by simp [Desk.join]
    rw [hjoin, h.not_isAbsolute]
    rfl
  · obtain ⟨c, cs, hcs⟩ : ∃ c cs, directory.toList = c :: cs :=
      List.exists_cons_of_ne_nil (by simpa using hempty)
    have hhead : (Desk.join directory name).toList.head? = directory.toList.head? := by
      unfold Desk.join
      split <;> simp [hcs]
    rw [isAbsolute, hhead, isAbsolute]

end Path

open Fallible FileName FileSystem ChatChain.Path

/-! ## One copy -/

namespace Desk

variable {d d' : Desk} {directory name other : String} {here : Path} {content : ByteArray}

/-- Whether a written directory is the directory `here`. -/
def Leads (d : Desk) (directory : String) (here : Path) : Prop :=
  ((ofText directory).filter (· != "")).foldlM d.files.enter (d.origin directory) = .ok here

/-- Where a name in a written directory leads. -/
theorem locate_join (d : Desk) (directory : String) (hname : IsName name) :
    d.locate (join directory name) = (do
      Path.check (ofText (join directory name))
      let here ← ((ofText directory).filter (· != "")).foldlM d.files.enter (d.origin directory)
      if Path.fits name then .ok (.named (here ++ [name]) false) else .error .nameTooLong) := by
  obtain ⟨names, hnames, hfilter⟩ := ofText_join directory hname
  have horigin : d.origin (join directory name) = d.origin directory := by
    rw [origin, isAbsolute_join directory hname, origin]
  have hlast : ((names ++ [name]).getLast? == some "") = false := by simp [hname.ne_empty]
  have hall : (names ++ [name]).filter (· != "") =
      (ofText directory).filter (· != "") ++ [name] := by
    simp [hname.ne_empty, hfilter]
  unfold Desk.locate FileSystem.locate
  rw [horigin, hnames, hlast, hall, follow_concat hname]

/-- Whether a desk has all directories of another, at the same paths. -/
structure Keeps (d d' : Desk) : Prop where
  directories : KeepsDirectories d.files d'.files
  workingDirectory : d'.workingDirectory = d.workingDirectory

namespace Keeps

theorem refl (d : Desk) : Keeps d d := ⟨.refl d.files, rfl⟩

theorem trans {d'' : Desk} (h : Keeps d d') (h' : Keeps d' d'') : Keeps d d'' :=
  ⟨h.directories.trans h'.directories, h'.workingDirectory.trans h.workingDirectory⟩

theorem origin (h : Keeps d d') (path : String) : d'.origin path = d.origin path := by
  unfold Desk.origin
  rw [h.workingDirectory]

/-- A written directory stays where it was. -/
theorem leads (h : Keeps d d') (hleads : d.Leads directory here) : d'.Leads directory here := by
  unfold Leads
  rw [h.origin]
  exact h.directories.enterAll hleads

end Keeps

/-- Where a name in a directory leads that is there. -/
theorem Leads.locate (h : d.Leads directory here) (hname : IsName name) :
    d.locate (join directory name) = (do
      Path.check (ofText (join directory name))
      if Path.fits name then .ok (.named (here ++ [name]) false) else .error .nameTooLong) := by
  rw [locate_join d directory hname, show List.foldlM _ _ _ = Except.ok here from h]
  rfl

/-- What it takes to write a file in a directory. -/
theorem write_join (hname : IsName name) (h : d.write (join directory name) content = .ok d') :
    ∃ here, d.Leads directory here ∧
      d.locate (join directory name) = .ok (.named (here ++ [name]) false) ∧
      d.files.isDirectory (here ++ [name]) = false ∧
      d' = { d with files := d.files.set (here ++ [name]) (.file content) } := by
  simp only [Desk.write, bind_eq_ok_iff, pure_eq_ok_iff, writeAt_eq_ok_iff] at h
  obtain ⟨l, hlocate, _, ⟨p, rfl, hdirectory, rfl⟩, rfl⟩ := h
  have hwhere := locate_join d directory hname
  rw [hlocate] at hwhere
  obtain ⟨_, -, hrest⟩ := bind_eq_ok_iff.1 hwhere.symm
  obtain ⟨here, hleads, hnamed⟩ := bind_eq_ok_iff.1 hrest
  split at hnamed
  · obtain ⟨rfl, -⟩ := Location.named.inj (Except.ok.inj hnamed)
    exact ⟨here, hleads, hlocate, hdirectory, rfl⟩
  · exact absurd hnamed (by simp)

/-- Writing a file in a directory loses none and prints nothing. -/
theorem keeps_of_write (hname : IsName name) (h : d.write (join directory name) content = .ok d') :
    Keeps d d' ∧ d'.printed = d.printed := by
  obtain ⟨here, -, -, hdirectory, rfl⟩ := write_join hname h
  exact ⟨⟨keepsDirectories_set hdirectory _, rfl⟩, rfl⟩

/-- After a file was written in a directory, its name has its content there, and every other name
has what it had. -/
theorem read_of_write (hname : IsName name) (hother : IsName other)
    (h : d.write (join directory name) content = .ok d') :
    d'.read (join directory other) =
      if other = name then .ok content else d.read (join directory other) := by
  obtain ⟨hkeeps, -⟩ := keeps_of_write hname h
  obtain ⟨here, hleads, hlocate, hdirectory, rfl⟩ := write_join hname h
  have hset := node?_set d.files (ne_nil_of_not_isDirectory hdirectory) (.file content)
  have hthere := (hkeeps.leads hleads).locate hother
  rw [← hleads.locate hother] at hthere
  unfold Desk.read
  rw [hthere]
  split
  · next heq =>
    subst heq
    rw [hlocate, ok_bind, readAt_eq_ok_iff]
    simp [nodeAt, hset]
  · next hne =>
    rw [hleads.locate hother]
    cases Path.check (ofText (join directory other)) with
    | error e => rfl
    | ok _ =>
      cases Path.fits other with
      | false => rfl
      | true => simp [readAt, nodeAt, hset, hne]

end Desk

/-! ## All copies -/

namespace Console

variable {temporary : FileSystem} {directory : String} {file : OutboundFile}
  {files rest : List OutboundFile} {d d' : Desk} {lines : String}

/-- The path of the copy of a file. -/
def copyPath (directory : String) (file : OutboundFile) : String :=
  Desk.join directory (FileName.sanitize file.name)

/-- The lines for files that are copied. -/
def copyLines (directory : String) (files : List OutboundFile) : String :=
  String.join (files.map fun file => fileLine file (some (copyPath directory file)))

/-- The last of some files with a safe name. -/
def lastNamed (files : List OutboundFile) (name : String) : Option OutboundFile :=
  (files.filter fun file => FileName.sanitize file.name = name).getLast?

theorem lastNamed_cons (file : OutboundFile) (rest : List OutboundFile) (name : String) :
    lastNamed (file :: rest) name =
      (lastNamed rest name).or
        (if FileName.sanitize file.name = name then some file else none) := by
  unfold lastNamed
  by_cases hname : FileName.sanitize file.name = name
  · rw [List.filter_cons_of_pos (by simpa using hname), List.getLast?_cons, if_pos hname]
    cases (rest.filter fun file => FileName.sanitize file.name = name).getLast? <;> rfl
  · rw [List.filter_cons_of_neg (by simpa using hname), if_neg hname, Option.or_none]

theorem sanitize_of_lastNamed {name : String} (h : lastNamed files name = some file) :
    file ∈ files ∧ FileName.sanitize file.name = name := by
  simpa using List.mem_filter.1 (List.mem_of_getLast? h)

theorem exists_lastNamed (h : file ∈ files) :
    ∃ last, lastNamed files (FileName.sanitize file.name) = some last := by
  unfold lastNamed
  rw [← Option.isSome_iff_exists, List.getLast?_isSome]
  exact List.ne_nil_of_mem (List.mem_filter.2 ⟨h, by simp⟩)

/-- The first of some files is copied before the others. -/
theorem fileLines_cons
    (h : fileLines temporary (some directory) (file :: rest) d = (.ok lines, d')) :
    ∃ content between others, temporary.read file.path = .ok content ∧
      d.write (copyPath directory file) content = .ok between ∧
      fileLines temporary (some directory) rest between = (.ok others, d') ∧
      lines = fileLine file (some (copyPath directory file)) ++ others := by
  rw [fileLines] at h
  split at h
  · exact absurd h (by simp)
  · next _ _ hcopy =>
    simp only [copyOut, bind_eq_ok_iff, pure_eq_ok_iff, Prod.mk.injEq] at hcopy
    obtain ⟨content, hread, between, hwrite, rfl, rfl⟩ := hcopy
    obtain ⟨hlines, rfl⟩ := Prod.mk.inj h
    cases hrest : fileLines temporary (some directory) rest between with
    | mk answer desk =>
      rw [hrest] at hlines
      cases answer with
      | error e => exact absurd hlines (by simp [Except.map])
      | ok others =>
        exact ⟨content, between, others, hread, hwrite, hrest, (Except.ok.inj hlines).symm⟩

/-- What copies of some files leave behind. -/
structure Copied (temporary : FileSystem) (directory : String) (files : List OutboundFile)
    (d d' : Desk) : Prop where
  keeps : d.Keeps d'
  printed : d'.printed = d.printed
  /-- All files could be read. -/
  readable : ∀ file ∈ files, ∃ content, temporary.read file.path = .ok content
  /-- Every copy is directly in the directory. -/
  inside : ∀ file ∈ files, ∃ here, d'.Leads directory here ∧
    d'.locate (copyPath directory file) = .ok (.named (here ++ [FileName.sanitize file.name]) false)
  /-- A name in the directory has the content of the last file with that name, or what it had. -/
  reads : ∀ name, IsName name → d'.read (Desk.join directory name) =
    match lastNamed files name with
    | some last => temporary.read last.path
    | none => d.read (Desk.join directory name)

theorem isName_sanitize (raw : String) : IsName (FileName.sanitize raw) :=
  .of_isSafe (FileName.isSafe_sanitize raw)

/-- What one copy and the copies after it leave behind. -/
theorem Copied.cons {content : ByteArray} {between : Desk}
    (hread : temporary.read file.path = .ok content)
    (hwrite : d.write (copyPath directory file) content = .ok between)
    (h : Copied temporary directory rest between d') :
    Copied temporary directory (file :: rest) d d' := by
  have hname := isName_sanitize file.name
  obtain ⟨hkeeps, hprinted⟩ := Desk.keeps_of_write hname hwrite
  refine ⟨hkeeps.trans h.keeps, h.printed.trans hprinted, ?_, ?_, fun name hother => ?_⟩
  · exact List.forall_mem_cons.2 ⟨⟨content, hread⟩, h.readable⟩
  · refine List.forall_mem_cons.2 ⟨?_, h.inside⟩
    obtain ⟨here, hleads, hlocate, -⟩ := Desk.write_join hname hwrite
    have hstays := (hkeeps.trans h.keeps).leads hleads
    refine ⟨here, hstays, ?_⟩
    rw [← hlocate]
    exact (hstays.locate hname).trans (hleads.locate hname).symm
  · rw [h.reads name hother, lastNamed_cons]
    cases lastNamed rest name with
    | some last => rfl
    | none =>
      have hhere : between.read (Desk.join directory name) = _ :=
        Desk.read_of_write hname hother hwrite
      by_cases hsame : FileName.sanitize file.name = name
      · simpa [hsame, hread] using hhere
      · simpa [hsame, Ne.symm hsame] using hhere

theorem copied_of_fileLines (h : fileLines temporary (some directory) files d = (.ok lines, d')) :
    Copied temporary directory files d d' ∧ lines = copyLines directory files := by
  induction files generalizing d lines with
  | nil =>
    obtain ⟨hlines, rfl⟩ := Prod.mk.inj h
    obtain rfl := Except.ok.inj hlines
    exact ⟨⟨.refl d, rfl, by simp, by simp, fun _ _ => rfl⟩, rfl⟩
  | cons file rest ih =>
    obtain ⟨content, between, others, hread, hwrite, hrest, rfl⟩ := fileLines_cons h
    obtain ⟨hcopied, rfl⟩ := ih hrest
    exact ⟨hcopied.cons hread hwrite, by simp [copyLines]⟩

/-! ## The result -/

/-- Whether the path of a file's copy has the content of the file. -/
def Kept (temporary : FileSystem) (directory : String) (d : Desk) (file : OutboundFile) : Prop :=
  ∃ content, temporary.read file.path = .ok content ∧
    d.read (copyPath directory file) = .ok content

namespace Copied

variable (h : Copied temporary directory files d d')

include h

/-- The path of a copy has the content of the last file with the same safe name. -/
theorem read_copyPath (hfile : file ∈ files) :
    ∃ last ∈ files, lastNamed files (FileName.sanitize file.name) = some last ∧
      d'.read (copyPath directory file) = temporary.read last.path ∧
      Kept temporary directory d' last := by
  obtain ⟨last, hlast⟩ := exists_lastNamed hfile
  obtain ⟨hmem, hsame⟩ := sanitize_of_lastNamed hlast
  have hread : d'.read (copyPath directory file) = temporary.read last.path := by
    unfold copyPath
    rw [h.reads _ (isName_sanitize file.name), hlast]
  obtain ⟨content, hcontent⟩ := h.readable last hmem
  refine ⟨last, hmem, hlast, hread, content, hcontent, ?_⟩
  rw [copyPath, hsame]
  exact hread.trans hcontent

/-- All files are kept when files with the same safe name have the same content. -/
theorem all_kept_iff :
    (∀ file ∈ files, Kept temporary directory d' file) ↔
      ∀ file ∈ files, ∀ other ∈ files,
        FileName.sanitize file.name = FileName.sanitize other.name →
          temporary.read file.path = temporary.read other.path := by
  constructor
  · intro hkept file hfile other hother hsame
    obtain ⟨content, hcontent, hread⟩ := hkept file hfile
    obtain ⟨content', hcontent', hread'⟩ := hkept other hother
    have hpath : copyPath directory file = copyPath directory other := by
      unfold copyPath
      rw [hsame]
    rw [hpath] at hread
    rw [hcontent, hcontent', ← hread, ← hread']
  · intro hequal file hfile
    obtain ⟨last, hmem, hlast, hread, -⟩ := h.read_copyPath hfile
    obtain ⟨content, hcontent⟩ := h.readable file hfile
    refine ⟨content, hcontent, ?_⟩
    rw [hread, hequal last hmem file hfile (sanitize_of_lastNamed hlast).2, hcontent]

end Copied

/-- How a call that hands a reply over succeeds. -/
theorem react_eq_of_succeeds {call : Call} {payload : Payload}
    (hpayload : call.payload? = some payload)
    (hsucceeds : (react (some directory) call temporary d).result = .ok ()) :
    ∃ header between, Copied temporary directory payload.files d between ∧
      react (some directory) call temporary d =
        { desk := between.print
            (header ++ "\n" ++ payload.content ++ copyLines directory payload.files ++ "\n") } := by
  obtain ⟨header, hreact⟩ : ∃ header,
      react (some directory) call temporary d =
        deliver temporary (some directory) header payload d := by
    cases call with
    | createMessage channel _ =>
      obtain rfl := Option.some.inj hpayload
      exact ⟨_, rfl⟩
    | reply message _ =>
      obtain rfl := Option.some.inj hpayload
      exact ⟨_, rfl⟩
    | startTyping | stopTyping | deferReply | download =>
      exact absurd hpayload (by simp [Call.payload?])
  rw [hreact] at hsucceeds ⊢
  unfold deliver at hsucceeds ⊢
  cases hlines : fileLines temporary (some directory) payload.files d with
  | mk answer between =>
    cases answer with
    | error e => exact absurd hsucceeds (by simp [hlines])
    | ok lines =>
      obtain ⟨hcopied, rfl⟩ := copied_of_fileLines hlines
      exact ⟨header, between, hcopied, rfl⟩

/-- A call that succeeds prints a path for every file, and each path is directly in the output
directory.  There is the content of the last file with the same safe name, so that all files are
kept exactly if those with the same safe name have the same content. -/
theorem copies_hold_the_last_of_their_name {call : Call} {payload : Payload}
    (hpayload : call.payload? = some payload)
    (hsucceeds : (react (some directory) call temporary d).result = .ok ()) :
    ∃ header d', react (some directory) call temporary d = { desk := d' } ∧
      d'.printed = d.printed ++
        (header ++ "\n" ++ payload.content ++ copyLines directory payload.files ++ "\n") ∧
      (∀ file ∈ payload.files, ∃ here, d'.Leads directory here ∧
        d'.locate (copyPath directory file) =
          .ok (.named (here ++ [FileName.sanitize file.name]) false)) ∧
      (∀ file ∈ payload.files, ∃ last ∈ payload.files,
        lastNamed payload.files (FileName.sanitize file.name) = some last ∧
          d'.read (copyPath directory file) = temporary.read last.path ∧
          Kept temporary directory d' last) ∧
      ((∀ file ∈ payload.files, Kept temporary directory d' file) ↔
        ∀ file ∈ payload.files, ∀ other ∈ payload.files,
          FileName.sanitize file.name = FileName.sanitize other.name →
            temporary.read file.path = temporary.read other.path) := by
  obtain ⟨header, between, hcopied, hreact⟩ := react_eq_of_succeeds hpayload hsucceeds
  refine ⟨header, _, hreact, ?_, hcopied.inside, fun file hfile => hcopied.read_copyPath hfile,
    hcopied.all_kept_iff⟩
  show between.printed ++ _ = _
  rw [hcopied.printed]

end Console

/-! ### Files of one name -/

namespace Twins

open Console

/-- The first of two files of one name. -/
def first : OutboundFile := { name := "x.txt", path := ["1-x.txt"], size := 3 }

def second : OutboundFile := { name := "x.txt", path := ["2-x.txt"], size := 3 }

def other : OutboundFile := { name := "y.txt", path := ["2-x.txt"], size := 3 }

/-- What the files hold. -/
def temporary : FileSystem :=
  (FileSystem.set {} ["1-x.txt"] (.file "one".toUTF8)).set ["2-x.txt"] (.file "two".toUTF8)

/-- A desk with an output directory. -/
def desk : Desk := { files := FileSystem.set {} ["out"] .directory }

/-- A new message with some files. -/
def message (files : List OutboundFile) : Call := .createMessage "c" { content := "", files }

/-- What the console does on the message. -/
def outcome (files : List OutboundFile) : Reaction Desk :=
  react (some "out") (message files) temporary desk

/-- Of two files of one name, the first is gone although the call succeeds. -/
theorem first_copy_is_lost :
    (outcome [first, second]).result = .ok () ∧
      ¬Kept temporary "out" (outcome [first, second]).desk first := by
  have hread : temporary.read first.path = .ok "one".toUTF8 := by decide +kernel
  have hcopy : (outcome [first, second]).desk.read (copyPath "out" first) =
      .ok "two".toUTF8 := by decide +kernel
  refine ⟨by decide +kernel, ?_⟩
  rintro ⟨content, hcontent, hthere⟩
  have hsame : "one".toUTF8 = "two".toUTF8 := by
    rw [← Except.ok.inj (hread.symm.trans hcontent), hcopy] at hthere
    exact (Except.ok.inj hthere).symm
  exact absurd hsame (by decide +kernel)

/-- Files of different names are both kept. -/
theorem different_names_are_kept :
    (outcome [first, other]).result = .ok () ∧
      ∀ file ∈ [first, other], Kept temporary "out" (outcome [first, other]).desk file := by
  have hsucceeds : (outcome [first, other]).result = .ok () := by decide +kernel
  have hpayload : (message [first, other]).payload? =
      some { content := "", files := [first, other] } := rfl
  obtain ⟨-, d', hreact, -, -, -, hkept⟩ :=
    copies_hold_the_last_of_their_name hpayload hsucceeds
  refine ⟨hsucceeds, ?_⟩
  rw [outcome, hreact]
  exact hkept.2 (by decide +kernel)

end Twins

end ChatChain
