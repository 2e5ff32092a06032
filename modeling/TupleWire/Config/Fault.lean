/-
  What is wrong with a configuration.
-/

set_option autoImplicit false

namespace TupleWire

/-- Why a configuration cannot be used. -/
inductive ConfigFault where
  /-- the text is no configuration -/
  | unreadable
  | noGroups
  | emptyGroup (tag : String)
  | duplicateTag (tag : String)
  | unknownBalancerTag (tag : String)
  | noThreads
  | zeroTimeout
  | emptyWindow
  | invalidationThreshold
  | zeroDeathThreshold
  | noQueue
  | unknownBalancer (name : String)
  | noTag
  /-- worded by the caller -/
  | other (text : String)
  deriving DecidableEq, Repr

/-- The wording of a fault. -/
def ConfigFault.message : ConfigFault → String
  | unreadable => "unreadable configuration"
  | noGroups => "at least one instance group is required"
  | emptyGroup tag => s!"group '{tag}' has size 0"
  | duplicateTag tag => s!"duplicate group tag '{tag}'"
  | unknownBalancerTag tag => s!"balancer tag '{tag}' names no group"
  | noThreads => "io_threads must be positive"
  | zeroTimeout => "timeouts must be positive"
  | emptyWindow => "heartbeat window and interval must be positive"
  | invalidationThreshold => "invalidation threshold must be within 1..=window_size"
  | zeroDeathThreshold => "death threshold must be positive"
  | noQueue => "watcher queue capacity must be positive"
  | unknownBalancer name => s!"unknown balancer '{name}'"
  | noTag => "tag round robin needs a tag"
  | other text => text

end TupleWire
