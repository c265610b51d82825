import ChatChain.Proofs.Printing
import ChatChain.Proofs.Rejection
import ChatChain.Proofs.Reply
import ChatChain.Proofs.Reports
import Mathlib.Algebra.GroupWithZero.Nat

/-!
# How long the replies for errors are

The reply of a finished chain is checked against the limits of the platform.  The reply for an error
is not: it repeats names, texts and numbers, and it is as long as these make it.

There are three groups.

* One error.  `ChainError.pieces` tells the words of a reply from what it repeats, and
  `length_reply` says how the two add up.
* The replies on record.  `Delivered.payloads` says where each payload comes from, and
  `error_replies_are_unchecked` puts that together for a whole message.
* Names that are too long.  `unknown_names_break_the_limit` says that every bot sends replies that
  exceed its limit.
-/

namespace ChatChain

open Number

/-! ## One error -/

/-- A piece of a reply: words of its own, or something that it repeats. -/
inductive Piece where
  | own (words : String)
  | quote (text : String)

namespace Piece

def text : Piece → String
  | own words => words
  | quote text => text

/-- The number of characters that are a reply's own. -/
def ownLength (pieces : List Piece) : Nat :=
  (pieces.map fun
    | own words => words.length
    | quote _ => 0).sum

/-- The number of characters that a reply repeats. -/
def quotedLength (pieces : List Piece) : Nat :=
  (pieces.map fun
    | own _ => 0
    | quote text => text.length).sum

theorem length_join (pieces : List Piece) :
    (String.join (pieces.map text)).length = ownLength pieces + quotedLength pieces := by
  induction pieces with
  | nil => rfl
  | cons piece pieces ih =>
    rw [List.map_cons, String.join_cons, String.length_append, ih]
    cases piece with
    | own words =>
      simp only [text, ownLength, quotedLength, List.map_cons, List.sum_cons]
      omega
    | quote text =>
      simp only [Piece.text, ownLength, quotedLength, List.map_cons, List.sum_cons]
      omega

end Piece

open Piece

/-- The pieces of the reply for a command error. -/
def CommandError.pieces (mark : Char) : CommandError → List Piece
  | commandNotFound name commandMark =>
    [own "Command `", own (toString commandMark), quote name, own "` not found. Use `",
      own (toString commandMark), own "help` to list commands."]
  | wrongEnvironment name =>
    [own "`", own (toString mark), quote name, own "` can only be used in a server."]
  | missingArgument name key =>
    [own "Missing argument `", quote key, own "` for `", own (toString mark), quote name, own "`."]
  | invalidArgument name key value expected =>
    [own "Invalid value `", quote value, own "` for argument `", quote key, own "` of `",
      own (toString mark), quote name, own "`: ", own "expected ", own expected.word, own "."]
  | incompatibleChain source output target input =>
    [own "Cannot chain `", own (toString mark), quote source, own "` into `", own (toString mark),
      quote target, own "`: ", own "`", own (toString mark), quote source, own "` outputs ",
      own output.word, own " but `", own (toString mark), quote target, own "` expects ",
      own input.word, own "."]
  | missingInput name previous =>
    [own "`", own (toString mark), quote name, own "` needs input, but `", own (toString mark),
      quote previous, own "` produces nothing."]
  | inputRequired name =>
    [own "`", own (toString mark), quote name,
      own "` needs input. Attach a file or chain it after another command."]
  | chainTooLong length limit =>
    [own "Too many chained commands (", quote (writeNat length), own ", max ",
      quote (writeNat limit), own ")."]
  | duplicateCommand _ | invalidDefinition .. => [own ChainError.genericReply]

namespace ChainError

/-- The pieces of the reply for a failure while a command ran. -/
def runPieces (mark : Char) (name : String) : List Piece :=
  [own "Something went wrong while running `", own (toString mark), quote name, own "`."]

/-- The pieces of the reply for an error. -/
def pieces (mark : Char) : ChainError → List Piece
  | command e => e.pieces mark
  | task name failure =>
    match failure.userMessage? with
    | some message => [quote message]
    | none => runPieces mark name
  | stepTimeout name _ =>
    [own "`", own (toString mark), quote name, own "` took too long and was stopped."]
  | cancelled => [own "The command was cancelled."]
  | outputMismatch name .. => runPieces mark name
  | messageTooLong count limit =>
    [own "The response is too long to send (", quote (writeNat count), own " characters, max ",
      quote (writeNat limit), own ")."]
  | tooManyFiles count limit =>
    [own "The response has too many files to send (", quote (writeNat count), own ", max ",
      quote (writeNat limit), own ")."]
  | fileTooLarge name size limit =>
    [own "`", quote name, own "` is too large to send (", quote (writeSize size), own ", max ",
      quote (writeSize limit), own ")."]
  | platform _ | store _ | storage _ => [own genericReply]

theorem toString_text (text : String) : toString text = text := rfl

theorem commandReply_eq_join (mark : Char) (e : CommandError) :
    commandReply mark e = String.join ((e.pieces mark).map Piece.text) := by
  unfold commandReply CommandError.pieces
  cases e <;>
    simp only [List.map_cons, List.map_nil, Piece.text, toString_text, String.join_cons,
      String.join_nil, String.append_empty, String.append_assoc]

theorem runReply_eq_join (mark : Char) (name : String) :
    runReply mark name = String.join ((runPieces mark name).map Piece.text) := by
  unfold runReply runPieces
  simp only [List.map_cons, List.map_nil, Piece.text, toString_text, String.join_cons,
    String.join_nil, String.append_empty, String.append_assoc]

/-- The reply for an error is made of its pieces. -/
theorem reply_eq_join (mark : Char) (e : ChainError) :
    e.reply mark = String.join ((e.pieces mark).map Piece.text) := by
  cases e with
  | command e => exact commandReply_eq_join mark e
  | task name failure =>
    unfold reply pieces
    simp only
    cases failure.userMessage? with
    | some message =>
      simp only [Option.getD_some, List.map_cons, List.map_nil, Piece.text, String.join_cons,
        String.join_nil, String.append_empty]
    | none => exact runReply_eq_join mark name
  | outputMismatch name actual declared => exact runReply_eq_join mark name
  | _ =>
    unfold reply pieces
    simp only [List.map_cons, List.map_nil, Piece.text, toString_text, String.join_cons,
      String.join_nil, String.append_empty, String.append_assoc]

/-- The reply for an error is as long as its own words and what it repeats. -/
theorem length_reply (mark : Char) (e : ChainError) :
    (e.reply mark).length = ownLength (e.pieces mark) + quotedLength (e.pieces mark) := by
  rw [reply_eq_join, length_join]

theorem length_toString_char (c : Char) : (toString c).length = 1 :=
  String.length_singleton

/-- A reply for a command error has few words of its own. -/
theorem ownLength_commandPieces_le (mark : Char) (e : CommandError) :
    ownLength (e.pieces mark) ≤ 71 := by
  unfold CommandError.pieces ownLength
  cases e with
  -- What the kinds are called counts as well.
  | invalidArgument name key value expected =>
    simp only [List.map_cons, List.map_nil, List.sum_cons, List.sum_nil, length_toString_char]
    cases expected <;> decide
  | incompatibleChain source output target input =>
    simp only [List.map_cons, List.map_nil, List.sum_cons, List.sum_nil, length_toString_char]
    cases output <;> cases input <;> decide
  | _ =>
    simp only [List.map_cons, List.map_nil, List.sum_cons, List.sum_nil, length_toString_char]
    decide

theorem ownLength_runPieces_le (mark : Char) (name : String) :
    ownLength (runPieces mark name) ≤ 71 := by
  unfold runPieces ownLength
  simp only [List.map_cons, List.map_nil, List.sum_cons, List.sum_nil, length_toString_char]
  decide

/-- A reply for an error has few words of its own. -/
theorem ownLength_pieces_le (mark : Char) (e : ChainError) : ownLength (e.pieces mark) ≤ 71 := by
  cases e with
  | command e => exact ownLength_commandPieces_le mark e
  | task name failure =>
    unfold pieces
    simp only
    cases failure.userMessage? with
    | some message => exact Nat.zero_le _
    | none => exact ownLength_runPieces_le mark name
  | outputMismatch name actual declared => exact ownLength_runPieces_le mark name
  | _ =>
    unfold pieces ownLength
    simp only [List.map_cons, List.map_nil, List.sum_cons, List.sum_nil, length_toString_char]
    decide

end ChainError

/-! ## The replies on record -/

open Fallible Reply

/-- The text of an assembled reply respects the limit, but for the word that stands for no text. -/
theorem Reply.length_content_le {limits : Limits} {fs : FileSystem} {steps : List StepSummary}
    {data : Flow} {replyTo? : Option String} {ephemeral : Bool} {payload : Payload}
    (h : assemble limits fs steps data replyTo? ephemeral = .ok payload) :
    payload.content.length ≤ max limits.maxText emptyText.length := by
  have hcomplete := assemble_eq_ok_iff.1 h
  have hshort := hcomplete.text
  rw [hcomplete.content]
  unfold shown
  split
  · split
    · exact Nat.le_max_right _ _
    · exact Nat.le_trans hshort (Nat.le_max_left _ _)
  · exact Nat.le_trans hshort (Nat.le_max_left _ _)

variable {σ : Type} {b : Bot σ} {m : Message} {chainId : String} {w w' : World σ} {r r' : Report}

namespace Bot

/-- Whether a payload is the reply for the error that the report notes. -/
def ShowsFailure (b : Bot σ) (m : Message) (r : Report) (e : ChainError) (p : Payload) : Prop :=
  r.failure? = some (b.failureOf e) ∧ ∃ deferred, p = b.errorPayload m e deferred

/-- Every payload that is handed over is the reply of the chain, or that for an error. -/
theorem Delivered.payloads {deferred : Bool} {payload : Except ChainError Payload}
    {replies : List CallRecord} (h : Delivered b m r deferred payload replies r') :
    ∀ p ∈ payloadsOf (replies.map Event.call), payload = .ok p ∨ ∃ e, b.ShowsFailure m r' e p := by
  intro p hp
  cases h with
  | complaint hcall =>
    obtain rfl : p = _ := by simpa [payloadsOf, hcall] using hp
    exact Or.inr ⟨_, rfl, deferred, rfl⟩
  | sent hcall hsent =>
    obtain rfl : p = _ := by simpa [payloadsOf, hcall] using hp
    exact Or.inl rfl
  | refused hfirst hrefused hsecond =>
    simp only [payloadsOf, List.map_cons, List.map_nil, List.filterMap_cons, List.filterMap_nil,
      hfirst, hsecond, Call.payload?_delivery, List.mem_cons, List.not_mem_nil, or_false] at hp
    rcases hp with rfl | rfl
    · exact Or.inl rfl
    · exact Or.inr ⟨_, rfl, deferred, rfl⟩

theorem Early.payloads (h : Early b m w w' r) :
    ∃ new, w'.events = w.events ++ new ∧ ∀ p ∈ payloadsOf new, ∃ e, b.ShowsFailure m r e p := by
  cases h with
  | ignored hignores => exact ⟨[], by simp, by simp [payloadsOf]⟩
  | @rejected e record _ _ _ hattended hfresh hquiet hrecord hcall =>
    refine ⟨[.call record], by rw [hrecord.events, hquiet.events]; rfl, fun p hp => ?_⟩
    obtain rfl : p = _ := by simpa [payloadsOf, hcall] using hp
    exact ⟨e, rfl, false, rfl⟩

theorem Late.payloads (h : Late b chainId m w w' r) :
    ∃ new, w'.events = w.events ++ new ∧ ∀ p ∈ payloadsOf new,
      p.content.length ≤ max b.platform.limits.maxText emptyText.length ∨
        ∃ e, b.ShowsFailure m r e p := by
  cases h with
  | @intro chain _ _ r₀ r₁ w₁ w₂ w₃ deferred outcome summaries replies hattended hprepared hquiet
      hopen hworked hreplies hdelivered =>
    obtain @⟨before, after, w₀, _, _, _, final, runs, hbefore, hcalls, -, hran, hafter⟩ := hworked
    refine ⟨_, (hreplies.events.trans (congrArg (· ++ _)
      ((events_of_work hbefore hafter).trans (congrArg (· ++ _) hquiet.events)))).trans
        (List.append_assoc _ _ _), fun p hp => ?_⟩
    rw [payloadsOf_append, hcalls.payloadsOf_eq_nil, List.nil_append] at hp
    rcases hdelivered.payloads p hp with hpayload | hfailed
    · obtain ⟨data, -, hassemble⟩ := bind_eq_ok_iff.1 hpayload
      exact Or.inl (length_content_le hassemble)
    · exact Or.inr hfailed

end Bot

/-- Whatever is handed over for a message respects the limit for texts, unless it is the reply for
the error that the report notes.  That is not checked: beside a few words of its own, it is as long
as what it repeats. -/
theorem error_replies_are_unchecked (h : b.handle chainId m w = some (r, w')) :
    ∃ new, w'.events = w.events ++ new ∧ ∀ p ∈ payloadsOf new,
      p.content.length ≤ max b.platform.limits.maxText emptyText.length ∨
      ∃ e, b.ShowsFailure m r e p ∧
        p.content.length = ownLength (e.pieces b.grammar.commandMark) +
          quotedLength (e.pieces b.grammar.commandMark) ∧
        ownLength (e.pieces b.grammar.commandMark) ≤ 71 := by
  have hlength : ∀ e p, b.ShowsFailure m r e p →
      p.content.length = ownLength (e.pieces b.grammar.commandMark) +
        quotedLength (e.pieces b.grammar.commandMark) := by
    rintro e p ⟨-, deferred, rfl⟩
    exact e.length_reply b.grammar.commandMark
  rcases Bot.handle_cases h with hearly | hlate
  · obtain ⟨new, hevents, hpayloads⟩ := hearly.payloads
    refine ⟨new, hevents, fun p hp => Or.inr ?_⟩
    obtain ⟨e, he⟩ := hpayloads p hp
    exact ⟨e, he, hlength e p he, e.ownLength_pieces_le _⟩
  · obtain ⟨new, hevents, hpayloads⟩ := hlate.payloads
    refine ⟨new, hevents, fun p hp => (hpayloads p hp).imp_right ?_⟩
    rintro ⟨e, he⟩
    exact ⟨e, he, hlength e p he, e.ownLength_pieces_le _⟩

/-! ## Names that are too long -/

theorem length_reply_notFound (mark commandMark : Char) (name : String) :
    ((ChainError.command (.commandNotFound name commandMark)).reply mark).length =
      52 + name.length := by
  have hown : ownLength (CommandError.pieces mark (.commandNotFound name commandMark)) = 52 := by
    unfold CommandError.pieces ownLength
    simp only [List.map_cons, List.map_nil, List.sum_cons, List.sum_nil,
      ChainError.length_toString_char]
    decide
  have hquoted : quotedLength (CommandError.pieces mark (.commandNotFound name commandMark)) =
      name.length := by
    simp [CommandError.pieces, quotedLength]
  rw [ChainError.length_reply]
  exact congrArg₂ (· + ·) hown hquoted

/-- A name that means nothing and is almost as long as the limit breaks it. -/
theorem unknown_names_break_the_limit {i : Invocation} (hattended : ¬b.Ignores m)
    (hfree : b.store.isBanned m.author m.guild? = .ok false)
    (hparse : Invocation.parse b.grammar m.content = [i])
    (hnone : b.resolver.registered? i = none)
    (hfind : (b.resolver.turn 0).templateOf m i = .ok none)
    (hlong : b.platform.limits.maxText < 52 + i.name.length)
    (h : b.handle chainId m w = some (r, w')) :
    ∃ record p, w'.events = w.events ++ [.call record] ∧
      record.call = .createMessage m.channel p ∧
      b.platform.limits.maxText < p.content.length := by
  have hrejected : b.Rejection m (b.resolver.notFound i.name) := by
    refine .unresolved hfree ?_
    rw [hparse]
    exact firstFault_cons.2 (Or.inl (.unknown hnone hfind))
  obtain ⟨record, hevents, hcall⟩ := (Bot.onlyComplains_of_rejection hattended hrejected h).events
  refine ⟨record, _, hevents, hcall, Nat.lt_of_lt_of_eq hlong ?_⟩
  exact (length_reply_notFound b.grammar.commandMark b.grammar.commandMark i.name).symm

namespace Wordy

/-- A bot on a console that knows nothing. -/
def bot (limits : Limits) : Bot Desk :=
  { Console.plainBot with registry := {}, platform := Console.platform limits none none }

/-- A name with one letter more than `n`. -/
def name (n : Nat) : String :=
  String.ofList (List.replicate (n + 1) 'n')

/-- A message that asks for a name. -/
def message (n : Nat) : Message :=
  Console.plainMessage ("%" ++ name n)

theorem length_name (n : Nat) : (name n).length = n + 1 := by
  rw [name, String.length_ofList, List.length_replicate]

theorem isCommandName_name (n : Nat) : isCommandName (name n) = true := by
  unfold isCommandName isCommandNameChars name
  rw [String.toList_ofList, List.replicate_succ, isIdentifier, List.all_replicate]
  cases n with
  | zero => decide
  | succ n => simp only [Nat.add_one_ne_zero, if_false]; decide

/-- The message is read as one invocation of the name. -/
theorem parse_message (n : Nat) :
    Invocation.parse {} (message n).content = [{ name := name n }] := by
  have hnone : (∅ : Dict String).entries = [] := rfl
  have hprinted : (message n).content = Invocation.printAll {} [{ name := name n }] := by
    simp [message, Console.plainMessage, Invocation.printAll, Invocation.print, Invocation.parts,
      Invocation.headWord, Invocation.textPart, hnone]
  have hempty : Invocation.IsPlain {} "" := by decide
  have hformed : Invocation.WellFormed {} { name := name n } :=
    { name := isCommandName_name n, entity := by simp, positional := hempty,
      keys := by simp [hnone], values := by simp [hnone] }
  rw [hprinted]
  refine Invocation.parse_printAll_of_wellFormed (by decide) (by decide) (by decide) ?_
  exact fun i hi => List.mem_singleton.1 hi ▸ hformed

/-- The only call for a long name hands a reply over that is longer than the limit. -/
theorem handled {limits : Limits} {n : Nat} (hlong : limits.maxText < 53 + n) :
    ∃ r w' record p, (bot limits).handle "1" (message n) { desk := {} } = some (r, w') ∧
      w'.events = [.call record] ∧ record.call = .createMessage "here" p ∧
      limits.maxText < p.content.length := by
  have hparse : Invocation.parse (bot limits).grammar (message n).content = [{ name := name n }] :=
    parse_message n
  have hattended : ¬(bot limits).Ignores (message n) := by
    rintro (hempty | hbanned)
    · exact absurd (hparse.symm.trans hempty) (by simp)
    · exact absurd (Except.ok.inj hbanned)
        (show ¬({} : CommandStore).isBanned "someone" none = true by decide)
  have hrejected :
      (bot limits).Rejection (message n) ((bot limits).resolver.notFound (name n)) := by
    refine .unresolved rfl ?_
    rw [hparse]
    exact firstFault_cons.2 (Or.inl (.unknown rfl rfl))
  have hreturns : ((bot limits).handle "1" (message n) { desk := {} }).isSome = true := by
    rw [Bot.handle_isSome_of_rejection hattended hrejected]
    rfl
  obtain ⟨⟨r, w'⟩, hrun⟩ := Option.isSome_iff_exists.1 hreturns
  have hexceeds : (bot limits).platform.limits.maxText < 52 + (name n).length := by
    rw [length_name]
    show limits.maxText < _
    omega
  obtain ⟨record, p, hevents, hcall, hbroken⟩ :=
    unknown_names_break_the_limit hattended rfl hparse rfl rfl hexceeds hrun
  exact ⟨r, w', record, p, hrun, hevents, hcall, hbroken⟩

/-- A message that respects the usual limit leads to a reply that does not. -/
theorem long_name_breaks_the_limit :
    (message 1989).content.length < (bot {}).platform.limits.maxText ∧
      ∃ r w' record p, (bot {}).handle "1" (message 1989) { desk := {} } = some (r, w') ∧
        w'.events = [.call record] ∧ record.call = .createMessage "here" p ∧
        (bot {}).platform.limits.maxText < p.content.length := by
  refine ⟨?_, handled (by decide)⟩
  show ("%" ++ name 1989).length < 2000
  rw [String.length_append, length_name]
  decide

/-- The reply for a long name is as long as the name makes it. -/
theorem reply_is_as_long_as_the_name :
    ∃ r w' p e, (bot {}).handle "1" (message 1989) { desk := {} } = some (r, w') ∧
      p ∈ payloadsOf w'.events ∧ (bot {}).ShowsFailure (message 1989) r e p ∧
      p.content.length = ownLength (e.pieces '%') + quotedLength (e.pieces '%') ∧
      ownLength (e.pieces '%') ≤ 71 := by
  obtain ⟨r, w', record, p, hrun, hevents, hcall, hlong⟩ := @handled {} 1989 (by decide)
  obtain ⟨new, hnew, hpayloads⟩ := error_replies_are_unchecked hrun
  obtain rfl : w'.events = new := hnew
  have hp : p ∈ payloadsOf w'.events := by simp [payloadsOf, hevents, hcall, Call.payload?]
  rcases hpayloads p hp with hshort | ⟨e, hshows, hlength, hown⟩
  · exact absurd hlong (Nat.not_lt_of_le hshort)
  · exact ⟨r, w', p, e, hrun, hp, hshows, hlength, hown⟩

end Wordy

end ChatChain
