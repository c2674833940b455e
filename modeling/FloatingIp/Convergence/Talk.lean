import FloatingIp.Convergence.Pass

/-!
# Calls as conversations

Each call of the reconciler is a conversation with the host, and the answer to the call is what
the conversation comes to.
-/

namespace FloatingIp.Convergence

open Host (IpTool ChangeOutcome)

/-- The answer to a change. -/
def Answer.ofChange : Except AddressFault ChangeOutcome → Answer
  | .ok outcome => .changed outcome
  | .error fault => .changeFailed fault

/-- The answer to the question whether the address is there. -/
def Answer.ofQuery : Except AddressFault Bool → Answer
  | .ok actual => .present actual
  | .error fault => .queryFailed fault

/-- The conversation of a call. -/
def Call.talk (tool : IpTool) : Call → IpTool.Talk Answer
  | .query => tool.query.map Answer.ofQuery
  | .probe => tool.probeDuplicate.map Answer.duplicate
  | .configure => tool.configure.map Answer.ofChange
  | .deconfigure => tool.deconfigure.map Answer.ofChange

end FloatingIp.Convergence
