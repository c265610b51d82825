import ChatChain.Definition
import ChatChain.Invocation

/-!
# Bindings

A binding gives the arguments of a definition their values: the text of an invocation where there
is some, and the declared defaults elsewhere.  In a chain the output of the previous command
fills the default key.

* `Binding.ofInvocation` binds an invocation.
* `Binding.pipe` puts the previous output in.
* `Binding.spell` writes a binding as command text again.
-/

namespace ChatChain

/-- The typed arguments of one invocation. -/
structure Binding where
  values : Dict Value := {}
  /-- The set of keys whose values the user typed. -/
  explicit : Dict Unit := {}
  /-- The positional text that no argument took. -/
  positional : String := ""
  deriving DecidableEq, Repr

namespace Binding

/-- The value at `key`. -/
def get? (b : Binding) (key : String) : Option Value :=
  b.values.get? key

/-- Whether the user typed the value at `key`. -/
def isExplicit (b : Binding) (key : String) : Bool :=
  b.explicit.contains key

/-- The text at `key`. -/
def text? (b : Binding) (key : String) : Option String :=
  (b.get? key).bind Value.asText?

/-- The whole number at `key`. -/
def whole? (b : Binding) (key : String) : Option Int :=
  (b.get? key).bind Value.asWhole?

/-- The number at `key`. -/
def double? (b : Binding) (key : String) : Option Number.Binary64 :=
  (b.get? key).bind Value.asDouble?

/-- The flag at `key`. -/
def flag? (b : Binding) (key : String) : Option Bool :=
  (b.get? key).bind Value.asFlag?

/-- The name of the choice at `key`. -/
def choice? (b : Binding) (key : String) : Option String :=
  ((b.get? key).bind Value.asChoice?).map Prod.snd

/-! ## Binding an invocation -/

/-- The text that the user typed for an argument: the named one if there is one, else for the
default key the positional text unless it is empty. -/
def suppliedText? (i : Invocation) (d : Definition) (a : Argument) : Option String :=
  match i.named.get? a.key with
  | some text => some text
  | none => if d.isDefaultKey a.key ∧ i.positional ≠ "" then some i.positional else none

/-- The value that the user typed for an argument.  Text that is no value of its kind is an error
for a required argument and is dropped for any other. -/
def suppliedValue? (i : Invocation) (d : Definition) (a : Argument) :
    Except CommandError (Option Value) :=
  match suppliedText? i d a with
  | none => .ok none
  | some text =>
    match Value.coerce? text a.kind a.choices with
    | some value => .ok (some value)
    | none =>
      if a.required then .error (.invalidArgument d.name a.key text a.kind) else .ok none

/-- Binds one argument on top of `b`.  In a piped step the default key may stay open. -/
def bindArgument (i : Invocation) (d : Definition) (piped : Bool) (b : Binding) (a : Argument) :
    Except CommandError Binding := do
  let supplied ← suppliedValue? i d a
  let explicit := if supplied.isSome then b.explicit.insert a.key () else b.explicit
  match supplied.or a.default? with
  | some value => return { b with values := b.values.insert a.key value, explicit }
  | none =>
    if a.required && !(d.isDefaultKey a.key && piped) then
      throw (.missingArgument d.name a.key)
    return b

/-- Whether some argument takes the positional text. -/
def takesPositional (i : Invocation) (d : Definition) : Bool :=
  d.arguments.any fun a =>
    d.isDefaultKey a.key && (i.named.get? a.key).isNone && i.positional != ""

/-- Binds an invocation to a definition, argument by argument in the order of declaration. -/
def ofInvocation (i : Invocation) (d : Definition) (piped : Bool) :
    Except CommandError Binding := do
  let bound ← d.arguments.foldlM (bindArgument i d piped) {}
  return { bound with positional := if takesPositional i d then "" else i.positional }

/-! ## The previous output -/

/-- Puts the previous command's output into the default key.  Text that the user typed for it
goes first, and a command without a default key takes nothing. -/
def pipe (b : Binding) (d : Definition) (piped : Value) : Except CommandError Binding :=
  match d.defaultArgument? with
  | none => .ok b
  | some a =>
    if b.isExplicit a.key then .ok b
    else
      match Value.coerce? piped.render a.kind a.choices with
      | some value => .ok { b with values := b.values.insert a.key value }
      | none => .error (.invalidArgument d.name a.key piped.render a.kind)

/-! ## Writing a binding -/

/-- The value of the default key as text. -/
def defaultText? (b : Binding) (d : Definition) : Option String :=
  (d.defaultKey?.bind b.get?).map Value.render

/-- The text that is written without a key: that of the default key, or what no argument took
when the default key is open. -/
def positionalText (b : Binding) (d : Definition) : String :=
  (b.defaultText? d).getD b.positional

/-- Whether an argument is written with its key.  The default key is, when its text is empty. -/
def isWrittenNamed (b : Binding) (d : Definition) (a : Argument) : Bool :=
  !d.isDefaultKey a.key || b.defaultText? d == some ""

/-- The words of one named argument, each behind a space. -/
def spellArgument (g : Grammar) (key text : String) : String :=
  " " ++ String.singleton g.argumentMark ++ key ++ (if text = "" then "" else " " ++ text)

/-- Writes a binding as command text: the name with its scope, the positional text, and then the
other arguments in the order of declaration. -/
def spell (g : Grammar) (d : Definition) (entity? : Option String) (b : Binding) : String :=
  let head := String.singleton g.commandMark ++ d.name ++
    (entity?.map fun id => String.singleton entitySeparator ++ id).getD ""
  let positional := b.positionalText d
  let named := d.arguments.filterMap fun a =>
    if b.isWrittenNamed d a then (b.get? a.key).map fun v => spellArgument g a.key v.render
    else none
  head ++ (if positional = "" then "" else " " ++ positional) ++ String.join named

end Binding

end ChatChain
