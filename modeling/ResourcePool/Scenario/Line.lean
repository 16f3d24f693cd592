import ResourcePool.Event.Record
import ResourcePool.Journal
import ResourcePool.Settings

/-! What an onlooker sees of a journal: events as the chosen log shows them, the last
words of a terminated process, and what scripted policies report of themselves. -/
namespace ResourcePool.Scenario

inductive Line where
  | event (time pool : Nat) (event : Event) (refused : Bool)
  | record (time : Nat) (record : Record)
  | policy (time : Nat) (what : String) (fields : List (String × Datum))
deriving DecidableEq, Repr

/-- Which log shows the events, and whether the policy tells of its start and end. -/
structure View where
  logging : Logging
  announces : Bool

def eventLine? (logging : Logging) (pool time : Nat) (event : Event) (refused : Bool) :
    Option Line :=
  match logging with
  | .structured => some (.record time (.ofEvent pool event))
  | .silent => none
  | .sink => some (.event time pool event refused)

def line? (view : View) (pool : Nat) (entry : Entry) : Option Line :=
  match entry.report with
  | .event event refused => eventLine? view.logging pool entry.time event refused
  | .terminating job error => some (.record entry.time (.terminating pool job error))
  | .policyStarted => if view.announces then some (.policy entry.time "on_start" []) else none
  | .policyStopped => if view.announces then some (.policy entry.time "on_stop" []) else none
  | .populationRead population =>
      some (.policy entry.time "state"
        [("size", .count population.size), ("available", .count population.available)])
  | .idRead id => some (.policy entry.time "id" [("pool", .count id)])
  | .resolving hostname resolver =>
      some (.policy entry.time "resolve"
        [("hostname", .text hostname), ("resolver", .count resolver)])
  | .factoryCalled _ | .factoryEnded .. => none

/-- The newest entries of a journal as lines, the oldest of them first. -/
def lines (view : View) (pool : Nat) (journal : Journal) (count : Nat) : List Line :=
  (journal.take count).reverse.filterMap (line? view pool)

end ResourcePool.Scenario
