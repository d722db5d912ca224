import RemoteConsole.Rpc.Peer

/-!
# Scripted peers

A script is a list of rules. The first rule that fits an envelope and has not been
used up gives the answer; an envelope that no rule fits is not answered.
-/

namespace RemoteConsole
namespace Scripted

/-- What a rule answers with. -/
inductive Answer where
  /-- A reply with a result, under the number of the request. -/
  | result (value : Json)
  /-- A reply with an error, under the number of the request. -/
  | failure (code : Int64) (message : String)
  /-- A text, whatever it is. -/
  | raw (text : String)
  | error (e : CallError)
  | crash (c : Crash)
  /-- A reply that tells what the request was. -/
  | echo
  deriving Repr

/-- A rule fits an envelope that agrees with it where it says something. -/
structure Rule where
  method : Option String := none
  params : Option (List String) := none
  /-- The credential the rule asks for; `some none` asks for none. -/
  token : Option (Option String) := none
  answer : Answer
  /-- How often the rule may still be used. -/
  times : Option Nat := none
  deriving Repr

namespace Rule

def fits (rule : Rule) (r : Request) : Bool :=
  rule.times != some 0
    && rule.method.all (· == r.method)
    && rule.params.all (· == r.params.words)
    && rule.token.all (· == r.params.token?)

/-- The rule after one more use. -/
def spend (rule : Rule) : Rule := { rule with times := rule.times.map (· - 1) }

end Rule

/-- What an answer comes to for a request. -/
def Answer.attempt (a : Answer) (r : Request) : Attempt String :=
  match a with
  | result v => .done (Response.success r.id v).wire
  | failure code message => .done (Response.failure r.id code message).wire
  | raw text => .done text
  | error e => .failed e
  | crash c => .crashed c
  | echo =>
    .done (Response.success r.id (.object
      [("method", .string r.method), ("params", .ofStrings r.params.words),
       ("token", match r.params.token? with | some t => .string t | none => .null)])).wire

/-- Answer an envelope. Gives the answer and the rules that are left. -/
def take (r : Request) : List Rule → Attempt String × List Rule
  | [] => (.failed (.transport "no rule"), [])
  | rule :: rest =>
    if rule.fits r then (rule.answer.attempt r, rule.spend :: rest)
    else
      let (a, rest) := take r rest
      (a, rule :: rest)

def peer (rules : List Rule) : Peer := fun sent r =>
  (take r (sent.foldl (fun rules q => (take q rules).2) rules)).1

end Scripted
end RemoteConsole
