import ChatChain.Digest.Hex
import ChatChain.Number.Decimal
import ChatChain.Report

/-!
# Printing reports

A report is printed as a JSON object over several lines, each level of it indented by two spaces.
-/

namespace ChatChain

/-- What a report is made of when it is printed. -/
inductive Printed where
  | absent
  | number (n : Nat)
  | text (content : String)
  | list (items : List Printed)
  | record (fields : List (String × Printed))

namespace Printed

/-- The characters that stand for one character between quotes. -/
def escape (c : Char) : List Char :=
  match c with
  | '"' => ['\\', '"']
  | '\\' => ['\\', '\\']
  | '\n' => ['\\', 'n']
  | '\r' => ['\\', 'r']
  | '\t' => ['\\', 't']
  | '\x08' => ['\\', 'b']
  | '\x0c' => ['\\', 'f']
  | c =>
    if c.toNat < 32 then ['\\', 'u', '0', '0'] ++ Digest.byteChars (UInt8.ofNat c.toNat)
    else [c]

/-- A text between quotes. -/
def quote (s : String) : String :=
  String.ofList ('"' :: s.toList.flatMap escape ++ ['"'])

/-- The beginning of a line at a level. -/
def indent (level : Nat) : String :=
  String.ofList ('\n' :: List.replicate (2 * level) ' ')

/-- Puts members on lines of their own between two brackets. -/
def enclose (level : Nat) (opening closing : String) (members : List String) : String :=
  if members.isEmpty then opening ++ closing
  else
    opening ++ ",".intercalate (members.map (indent (level + 1) ++ ·)) ++ indent level ++ closing

mutual

/-- The text of a part of a report at a level. -/
def render (level : Nat) : Printed → String
  | absent => "null"
  | number n => Number.writeNat n
  | text content => quote content
  | list items => enclose level "[" "]" (renderItems (level + 1) items)
  | record fields => enclose level "\x7b" "\x7d" (renderFields (level + 1) fields)

/-- The texts of the items of a list. -/
def renderItems (level : Nat) : List Printed → List String
  | [] => []
  | item :: rest => render level item :: renderItems level rest

/-- The texts of the fields of a record. -/
def renderFields (level : Nat) : List (String × Printed) → List String
  | [] => []
  | (name, value) :: rest => (quote name ++ ": " ++ render level value) :: renderFields level rest

end

end Printed

namespace Report

/-- The parts of a report on a chain. -/
def printed (chainId : String) (r : Report) : Printed :=
  .record
    [("chain_id", .text chainId),
      ("state", .text r.state.word),
      ("commands", .list (r.commands.map .text)),
      ("steps_run", .number r.stepsRun),
      ("reply", .text r.reply.word),
      ("ignored", (r.ignored?.map fun i => Printed.text i.word).getD .absent),
      ("failure",
        (r.failure?.map fun f =>
          Printed.record [("reason_code", .text f.reasonCode), ("message", .text f.message)]).getD
          .absent),
      ("cleanup",
        .record
          [("created", .number r.cleanup.created),
            ("released", .number r.cleanup.released),
            ("failed", .number r.cleanup.failed)])]

/-- The text of a report on a chain. -/
def print (chainId : String) (r : Report) : String :=
  (r.printed chainId).render 0

end Report

end ChatChain
