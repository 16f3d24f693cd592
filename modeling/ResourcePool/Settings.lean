import ResourcePool.Alarm
import ResourcePool.Duration
import ResourcePool.Text.Quoted
import ResourcePool.Text.Record

/-! How a pool is set up. The tuning may change while the pool lives, all else
is fixed when it is made. -/
namespace ResourcePool

/-- Bounds of the idle population and the pauses between two cycles of a job. -/
structure Tuning where
  minSpare : Nat := 0
  maxSpare : Nat := 16
  keeperPause : Duration := .ofSeconds 1
  healthPause : Duration := .ofSeconds 1
  policyPause : Duration := .ofSeconds 10
deriving DecidableEq, Repr

/-- A policy that decides when the whole population is stale: either the addresses
of a host are watched, or the policy is the user's own. -/
inductive Policy where
  | addresses (hostname : String)
  | custom (label : String)
deriving DecidableEq, Repr

def Policy.label : Policy → String
  | addresses hostname => hostname
  | custom label => label

/-- Where events go: to a structured log, nowhere, or to a sink of the user's. -/
inductive Logging where
  | structured
  | silent
  | sink
deriving DecidableEq, Repr

structure Settings where
  tuning : Tuning := {}
  /-- Longest stretch a sleeping job takes to notice that it is to stop. -/
  sleepPart : Duration := .ofMillis 50
  /-- Whether a resource is checked before it is handed out. -/
  checkOnAccess : Bool := false
  keeperEnabled : Bool := true
  keeperFatal : Bool := false
  healthEnabled : Bool := true
  healthFatal : Bool := false
  policyFatal : Bool := true
  hasCheck : Bool := false
  logging : Logging := .structured
  policy : Option Policy := none
  /-- What the jobs sleep by: the runtime is free to have any limits. -/
  alarm : Alarm := .thirtyYears
deriving DecidableEq, Repr

namespace Settings

inductive Change where
  | minSpare (count : Nat)
  | maxSpare (count : Nat)
  | keeperPause (time : Duration)
  | healthPause (time : Duration)
  | policyPause (time : Duration)
  | sleepPart (time : Duration)
  | checkOnAccess (wanted : Bool)
  | keeper (enabled fatal : Bool)
  | health (enabled fatal : Bool)
  | check
  | logging (kind : Logging)
  | policy (policy : Policy) (fatal : Bool)
deriving DecidableEq, Repr

def change (s : Settings) : Change → Settings
  | .minSpare count => { s with tuning := { s.tuning with minSpare := count } }
  | .maxSpare count => { s with tuning := { s.tuning with maxSpare := count } }
  | .keeperPause time => { s with tuning := { s.tuning with keeperPause := time } }
  | .healthPause time => { s with tuning := { s.tuning with healthPause := time } }
  | .policyPause time => { s with tuning := { s.tuning with policyPause := time } }
  | .sleepPart time => { s with sleepPart := time }
  | .checkOnAccess wanted => { s with checkOnAccess := wanted }
  | .keeper enabled fatal => { s with keeperEnabled := enabled, keeperFatal := fatal }
  | .health enabled fatal => { s with healthEnabled := enabled, healthFatal := fatal }
  | .check => { s with hasCheck := true }
  | .logging kind => { s with logging := kind }
  | .policy policy fatal => { s with policy := some policy, policyFatal := fatal }

def changes (s : Settings) (cs : List Change) : Settings := cs.foldl change s

/-- Text of what a reader of a log needs; failure policies and the alarm are left out. -/
def describe (s : Settings) : String :=
  Text.record "PoolConfiguration" [
    ("min_spare", toString s.tuning.minSpare),
    ("max_spare", toString s.tuning.maxSpare),
    ("resource_count_keeper_sleep_time", s.tuning.keeperPause.render),
    ("health_care_job_sleep_time", s.tuning.healthPause.render),
    ("pool_management_sleep_time", s.tuning.policyPause.render),
    ("sleep_part", s.sleepPart.render),
    ("invalidate_resource_on_access", toString s.checkOnAccess),
    ("enable_resource_count_keeper", toString s.keeperEnabled),
    ("enable_health_care_job", toString s.healthEnabled),
    ("health_check", toString s.hasCheck),
    ("pool_management", Text.quotedOption (s.policy.map Policy.label))]

end Settings
end ResourcePool
