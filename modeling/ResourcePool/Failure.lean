import ResourcePool.Job.Kind
import ResourcePool.Text.Quoted

/-! Causes for which an operation of a pool fails, and their texts. -/
namespace ResourcePool

/-- A log sink's refusal to record an event. -/
structure Refusal where
  text : String
deriving DecidableEq, Repr, Inhabited

namespace Refusal

def message (r : Refusal) : String := "logger rejected event: " ++ r.text

def describe (r : Refusal) : String := "LogError(" ++ Text.quoted r.text ++ ")"

end Refusal

inductive Failure where
  /-- The factory failed with a text of its own. -/
  | factory (text : String)
  /-- The factory failed because another pool did. -/
  | factoryOn (cause : Failure)
  | disabled (job : JobKind)
  | notConfigured (what : String)
  | logging (refusal : Refusal)
  | policy (text : String)
  | join (text : String)
deriving DecidableEq, Repr

namespace Failure

def message : Failure → String
  | factory text => "Resource factory failed: " ++ text
  | factoryOn cause => "Resource factory failed: " ++ cause.message
  | disabled job => "The " ++ job.render ++ " is disabled in the pool configuration"
  | notConfigured what => "No " ++ what ++ " configured for this pool"
  | logging refusal => "Logging failed: " ++ refusal.message
  | policy text => "Pool management policy failed: " ++ text
  | join text => "Background job did not shut down cleanly: " ++ text

def describe : Failure → String
  | factory text => "Factory(" ++ Text.quoted text ++ ")"
  | factoryOn cause => "Factory(" ++ cause.describe ++ ")"
  | disabled job => "JobDisabled(" ++ job.describe ++ ")"
  | notConfigured what => "NotConfigured(" ++ Text.quoted what ++ ")"
  | logging refusal => "Logging(" ++ refusal.describe ++ ")"
  | policy text => "Management(" ++ Text.quoted text ++ ")"
  | join text => "Join(" ++ Text.quoted text ++ ")"

/-- The underlying failure that is reported beside the message: a refusal has
its own text, all other causes are part of the message already. -/
def source : Failure → Option String
  | logging refusal => some refusal.message
  | _ => none

/-- How a panic inside a task reads to whoever waits for the task. -/
def ofPanic (text : String) : String := "task # panicked with message \"" ++ text ++ "\""

end Failure
end ResourcePool
