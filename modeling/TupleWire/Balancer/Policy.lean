/-
  Choosing the connection that carries the next request.

  A policy looks at the live connections in the order of their slots and picks
  one that is ready, or none.  Each policy carries what it remembers from one
  choice to the next; a choice of none leaves that as it was.
-/
import TupleWire.Config.Basic
import TupleWire.Map.Dict

set_option autoImplicit false

namespace TupleWire

/-- A live connection as a policy sees it. -/
structure Candidate where
  /-- the tag of its group -/
  tag : String
  /-- its index in the group -/
  index : Nat
  isReady : Bool
  deriving DecidableEq, Repr

/-- What is remembered of a tag when connections are shared out by weight. -/
structure TagWeight where
  /-- how far the tag is behind its share -/
  current : Int := 0
  /-- where the choice inside the tag goes on -/
  cursor : Nat := 0
  deriving DecidableEq, Repr, Inhabited

/-- A way to choose, with what it remembers. -/
inductive Policy where
  /-- one after the other -/
  | roundRobin (cursor : Nat)
  /-- one after the other among those with a tag -/
  | tagRoundRobin (tag : String) (cursor : Nat)
  /-- every tag in proportion to its ready connections -/
  | distributing (weights : Dict String TagWeight)

namespace Policy

/-! ## One after the other -/

/-- The first ready candidate from a position on, going around, and the position after it. -/
def nextReady? (cursor : Nat) (cs : List Candidate) : Option (Candidate × Nat) :=
  (List.range cs.length).findSome? fun offset =>
    let position := (cursor + offset) % cs.length
    (cs[position]?.filter Candidate.isReady).map fun c => (c, position + 1)

/-! ## By weight -/

/-- The ready candidates by tag, the tags in the order in which they come first. -/
def readyByTag (cs : List Candidate) : List (String × List Candidate) :=
  let ready := cs.filter Candidate.isReady
  (ready.map Candidate.tag).eraseDups.map fun tag => (tag, ready.filter fun c => c.tag == tag)

/-- What is remembered of a tag. -/
def weightOf (weights : Dict String TagWeight) (tag : String) : TagWeight :=
  (weights.get? tag).getD {}

/-- Raises a tag by the number of its ready candidates. -/
def raise (weights : Dict String TagWeight) (share : String × List Candidate) :
    Dict String TagWeight :=
  let w := weightOf weights share.1
  weights.insert share.1 { w with current := w.current + share.2.length }

/-- The first of the shares that are furthest behind. -/
def furthestBehind? (weights : Dict String TagWeight) :
    List (String × List Candidate) → Option (String × List Candidate)
  | [] => none
  | share :: shares =>
      match furthestBehind? weights shares with
      | none => some share
      | some other =>
          if (weightOf weights share.1).current < (weightOf weights other.1).current then some other
          else some share

/-- Chooses by weight: every tag is raised by its share, the one furthest behind gives the
connection and is lowered by all the shares together. -/
def selectByWeight (weights : Dict String TagWeight) (cs : List Candidate) :
    Option Candidate × Dict String TagWeight :=
  let shares := readyByTag cs
  let raised := shares.foldl raise weights
  match furthestBehind? raised shares with
  | none => (none, weights)
  | some (tag, ready) =>
      let w := weightOf raised tag
      let total : Nat := shares.foldl (fun total share => total + share.2.length) 0
      let position := w.cursor % ready.length
      (ready[position]?, raised.insert tag ⟨w.current - total, position + 1⟩)

/-! ## Policies -/

/-- Chooses a ready candidate. -/
def select (p : Policy) (cs : List Candidate) : Option Candidate × Policy :=
  match p with
  | roundRobin cursor =>
      match nextReady? cursor cs with
      | some (c, next) => (some c, roundRobin next)
      | none => (none, p)
  | tagRoundRobin tag cursor =>
      match nextReady? cursor (cs.filter fun c => c.tag == tag) with
      | some (c, next) => (some c, tagRoundRobin tag next)
      | none => (none, p)
  | distributing weights =>
      let (choice, weights) := selectByWeight weights cs
      (choice, distributing weights)

/-- The name by which a configuration asks for a policy. -/
def name : Policy → String
  | roundRobin _ => "round_robin"
  | tagRoundRobin _ _ => "tag_round_robin"
  | distributing _ => "distributing"

/-- The names of the policies. -/
def names : List String := ["round_robin", "tag_round_robin", "distributing"]

/-- Whether there is a policy of a name. -/
def isKnown (name : String) : Bool := names.contains name

/-- The tag to which a configuration ties a policy: the one it names, else that of its first
group. -/
def tagFor? (config : ClientConfig) : Option String :=
  config.balancerTag <|> config.groups.head?.map Group.tag

/-- The policy that a configuration asks for, with nothing remembered. -/
def ofConfig (config : ClientConfig) : Except ConfigFault Policy :=
  match config.balancer with
  | "round_robin" => .ok (roundRobin 0)
  | "tag_round_robin" =>
      match tagFor? config with
      | some tag => .ok (tagRoundRobin tag 0)
      | none => .error .noTag
  | "distributing" => .ok (distributing Dict.empty)
  | name => .error (.unknownBalancer name)

end Policy

end TupleWire
