import Upkeep.Remote.Command
import Upkeep.Target.Basic

/-!
A remote machine as a target. All that is known of the session is that commands can be run over it,
to their end or with something to be sent to them first.
-/

set_option autoImplicit false

namespace Upkeep.Remote

variable {σ α : Type}

/-- The input of a command that has been started. -/
structure Channel (σ : Type) where
  send : (block : Bytes) → Op σ Unit
  /-- Ends the input and waits for the command to end. -/
  finish : Op σ Reply

structure Session (σ : Type) where
  run : (line : String) → Op σ Reply
  start : (line : String) → Op σ (Channel σ)
  disconnect : Op σ Unit

namespace Session

def ask (session : Session σ) (c : Command) (answer : Reply → Except Fault α) : Op σ α := do
  let reply ← session.run c.line
  Op.look fun _ => answer reply

/-- What is read has been received as a whole by then; what is written is sent block by block. -/
def target (name : String) (session : Session σ) : Target σ where
  name := name
  openRead path := do
    let content ← session.ask (.read path) fun reply => reply.content path
    return pure content
  openWrite path := do
    let channel ← session.start (Command.write path).line
    return {
      write := channel.send
      finish := do
        let reply ← channel.finish
        Op.look fun _ => reply.written path }
  digest path := session.ask (.digest path) fun reply => reply.digest path
  search path pattern := session.ask (.search path pattern) fun reply => reply.found path pattern
  close := session.disconnect

end Session

end Upkeep.Remote
