import LineDebugger.Connection.Client

namespace LineDebugger
namespace Connection

open Wire

/-!
# A scripted virtual machine

A peer for rehearsals.  It answers commands by rules: the first rule that applies to a
command decides what is written.  A rule may be limited to a number of uses.  A command
that no rule applies to is rejected as not implemented.
-/

/-- How to answer a command. -/
structure Rule where
  set : UInt8
  code : UInt8
  /-- The data that the command must have, or any data. -/
  body : Option (List UInt8) := none
  /-- How often the rule may still be used, or without limit. -/
  uses : Option Nat := none
  errorCode : UInt16 := ErrorCode.none
  data : List UInt8 := []
  /-- Whether there is no reply at all. -/
  silent : Bool := false
  /-- Packets that follow the reply. -/
  packets : List (List UInt8) := []
  /-- Whether the connection is closed afterwards. -/
  closes : Bool := false
  deriving DecidableEq, Repr

namespace Rule

/-- Whether the rule applies to a command. -/
def applies (rule : Rule) (command : Command) : Bool :=
  rule.set == command.set && rule.code == command.code
    && rule.body.all (· == command.data) && rule.uses != some 0

/-- The rule after one use. -/
def used (rule : Rule) : Rule := { rule with uses := rule.uses.map (· - 1) }

/-- What the rule has the machine write. -/
def reaction (rule : Rule) (id : UInt32) : Reaction where
  bytes :=
    (if rule.silent then [] else ({ id, errorCode := rule.errorCode, data := rule.data } :
      Reply).bytes) ++ rule.packets.flatten
  closes := rule.closes

/-- The reaction of the first rule that applies, and the rules afterwards. -/
def firstReaction (packet : CommandPacket) : List Rule -> Reaction × List Rule
  | [] =>
      ({ bytes :=
          ({ id := packet.id, errorCode := ErrorCode.notImplemented, data := [] } :
            Reply).bytes }, [])
  | rule :: others =>
      if rule.applies packet.command then (rule.reaction packet.id, rule.used :: others)
      else
        let (reaction, others) := firstReaction packet others
        (reaction, rule :: others)

/-- The machine that follows a list of rules. -/
def machine : Peer (List Rule) where
  react := firstReaction

end Rule
end Connection
end LineDebugger
