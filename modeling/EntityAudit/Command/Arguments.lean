import EntityAudit.Command.Topic

namespace EntityAudit

inductive Stop where
  | help (t : Topic)
  | version
  | usage (t : Topic)
  deriving DecidableEq, Repr

structure Arguments where
  topic : Topic := .program
  options : List (String × String) := []
  here : List String := []
  operands : List String := []

namespace Arguments

variable (a : Arguments)

def values (name : String) : List String := ((a.options.filter (·.1 = name)).map (·.2)).reverse

def value? (name : String) : Option String := (a.options.find? (·.1 = name)).map (·.2)

def has (name : String) : Bool := (a.value? name).isSome

def stop {α : Type} : Except Stop α := .error (.usage a.topic)

def give (o : Topic.Opt) (value : String) : Except Stop Arguments :=
  if o = Topic.helpOption then .error (.help a.topic)
  else if o = Topic.versionOption then .error .version
  else if a.here.contains o.long ∧ !o.repeats then a.stop
  else
    match o.kind, value with
    | .path _, "" => a.stop
    | _, _ => .ok { a with options := (o.long, value) :: a.options, here := o.long :: a.here }

def operand (value : String) : Except Stop Arguments :=
  let given : Arguments := { a with operands := a.operands ++ [value] }
  match a.topic.operands[a.operands.length]?, a.topic.operands.getLast? with
  | some o, _ => if o.choices.isEmpty ∨ o.choices.contains value then .ok given else a.stop
  | none, some o => if o.repeats then .ok given else a.stop
  | none, none => a.stop

inductive Pending where
  | done (a : Arguments)
  | awaiting (a : Arguments) (o : Topic.Opt)

def long (cs : List Char) : Except Stop Pending :=
  let name := cs.takeWhile (· ≠ '=')
  let attached := cs.dropWhile (· ≠ '=')
  match a.topic.long? (String.ofList name) with
  | none => a.stop
  | some o =>
    match o.takesValue, attached with
    | false, [] => (a.give o "").map .done
    | false, _ :: _ => a.stop
    | true, [] => .ok (.awaiting a o)
    | true, _ :: v => (a.give o (String.ofList v)).map .done

def shorts (a : Arguments) : List Char → Except Stop Pending
  | [] => .ok (.done a)
  | c :: r =>
    match a.topic.short? c with
    | none => a.stop
    | some o =>
      if o.takesValue then
        match r with
        | [] => .ok (.awaiting a o)
        | '=' :: v => (a.give o (String.ofList v)).map .done
        | v => (a.give o (String.ofList v)).map .done
      else (a.give o "").bind fun a => shorts a r

def isOption (arg : String) : Bool := 1 < arg.length && arg.startsWith "-"

def findTopic? (t : Topic) : List String → Option Topic
  | [] => some t
  | name :: names => (t.sub? name).bind (findTopic? · names)

def word (value : String) (rest : List String) : Except Stop Arguments :=
  match a.topic.sub? value with
  | some t => .ok { a with topic := t, here := [] }
  | none =>
    if value = "help" ∧ !a.topic.subtopics.isEmpty then
      match findTopic? a.topic rest with
      | some t => .error (.help t)
      | none => a.stop
    else a.operand value

mutual

def run (a : Arguments) : List String → Except Stop Arguments
  | [] => .ok a
  | arg :: rest =>
    if arg = "--" then rest.foldlM operand a
    else if isOption arg then
      match if arg.startsWith "--" then a.long (arg.toList.drop 2) else a.shorts (arg.toList.drop 1) with
      | .error e => .error e
      | .ok (.done a) => run a rest
      | .ok (.awaiting a o) => runValue a o rest
    else
      match a.word arg rest with
      | .error e => .error e
      | .ok a => run a rest

def runValue (a : Arguments) (o : Topic.Opt) : List String → Except Stop Arguments
  | [] => a.stop
  | arg :: rest =>
    if isOption arg then a.stop
    else
      match a.give o arg with
      | .error e => .error e
      | .ok a => run a rest

end

def isComplete : Bool :=
  a.topic.subtopics.isEmpty && (a.topic.ownOptions.filter (·.isRequired)).all (a.has ·.long) &&
    (a.topic.operands.filter (!·.repeats)).length ≤ a.operands.length

def read (args : List String) : Except Stop Arguments := do
  let a ← run {} args
  if a.isComplete then .ok a else a.stop

end Arguments

end EntityAudit
