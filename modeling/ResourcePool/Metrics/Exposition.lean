import ResourcePool.Decimal.Shortest
import ResourcePool.Metrics.Basic
import ResourcePool.Table

/-! Metrics in the text exposition format: families in the order of their names,
each with its help, its kind and one sample. Every sample carries the pool's
name and the given tags as labels; a tag of that name takes its place. -/
namespace ResourcePool.Exposition

inductive Kind where
  | gauge
  | counter
deriving DecidableEq, Repr

def Kind.render : Kind → String
  | gauge => "gauge"
  | counter => "counter"

structure Family where
  name : String
  help : String
  kind : Kind
  value : Metrics → Nat

def count (counter : Counter) (m : Metrics) : Nat := (m.counters.get counter).toNat

def families : List Family := [
  ⟨"clears_total", "Pool invalidations", .counter, count .clears⟩,
  ⟨"created_total", "Resources created by the factory", .counter, count .created⟩,
  ⟨"discarded_total", "Leases discarded on return", .counter, count .discarded⟩,
  ⟨"disposed_total", "Surplus resources disposed", .counter, count .disposed⟩,
  ⟨"emergency_created_total", "Resources created on demand", .counter, count .emergencyCreated⟩,
  ⟨"evicted_total", "Resources evicted as unhealthy", .counter, count .evicted⟩,
  ⟨"factory_failures_total", "Failed factory invocations", .counter, count .factoryFailures⟩,
  ⟨"leased_total", "Leases handed out", .counter, count .leased⟩,
  ⟨"resources_available", "Resources ready to be leased", .gauge, Metrics.available⟩,
  ⟨"resources_size", "Leased plus available resources", .gauge, Metrics.size⟩,
  ⟨"resources_unhealthy", "Members failing the last health check", .gauge, count .unhealthy⟩,
  ⟨"returned_total", "Leases recycled", .counter, count .returned⟩]

def escapeChar : Char → List Char
  | '\\' => ['\\', '\\']
  | '\n' => ['\\', 'n']
  | '"' => ['\\', '"']
  | c => [c]

def escape (text : String) : String := String.ofList (text.toList.flatMap escapeChar)

def labelText (label : String × String) : String :=
  label.1 ++ "=\"" ++ escape label.2 ++ "\""

def labels (pool : String) (tags : List (String × String)) : Table String String :=
  tags.foldl (fun t (name, value) => t.set name value) ⟨[("pool", pool)]⟩

/-- Labels between braces, in the order of their texts. -/
def labelsText (pool : String) (tags : List (String × String)) : String :=
  let texts := (labels pool tags).rows.map labelText
  "\x7b" ++ ",".intercalate (texts.mergeSort (fun a b => decide (a ≤ b))) ++ "\x7d"

/-- Gauges are signed words, counters unsigned ones. -/
def valueText (family : Family) (m : Metrics) : String :=
  match family.kind with
  | .gauge => Decimal.shortestSigned (family.value m)
  | .counter => Decimal.shortestWhole (family.value m)

def fullName (family : Family) : String := "sharedpool_" ++ family.name

def familyLines (labels : String) (m : Metrics) (family : Family) : List String :=
  [ "# HELP " ++ fullName family ++ " " ++ family.help,
    "# TYPE " ++ fullName family ++ " " ++ family.kind.render,
    fullName family ++ labels ++ " " ++ valueText family m ]

def lines (m : Metrics) (pool : String) (tags : List (String × String)) : List String :=
  families.flatMap (familyLines (labelsText pool tags) m)

end ResourcePool.Exposition
