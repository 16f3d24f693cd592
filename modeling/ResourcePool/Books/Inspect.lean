import ResourcePool.Books.Acquire

/-! A full report of the population. All members are checked one after another,
leased ones included, and are referenced until the report is done. -/
namespace ResourcePool

structure Inspection where
  population : Population
  members : List Resource
  /-- Members without an answer so far; the first of them is being checked. -/
  pending : List Resource
  unhealthy : Nat
deriving DecidableEq, Repr

/-- How far an inspection got without waiting. -/
inductive Inspecting where
  | checking (inspection : Inspection)
  | done (census : Census)
  | panicked (text : String)
deriving DecidableEq, Repr

namespace Books

def inspectNext (b : Books) (i : Inspection) : Inspecting × Books :=
  match i.pending with
  | _ :: _ => (.checking i, b)
  | [] =>
      (.done ⟨i.population.size, i.population.available, i.unhealthy⟩,
        (b.letGoAll i.members).count .unhealthy i.unhealthy)

/-- Takes the members in some order. Without a health check nothing is checked, and nothing
is unhealthy. -/
def inspect (b : Books) (order : List Resource) : Inspecting × Books :=
  let members := b.store.membersIn order
  (b.takeAll members).inspectNext
    ⟨b.store.population, members, if b.settings.hasCheck then members else [], 0⟩

/-- Goes on after the check of a member. A check that panics gives the report up. -/
def inspectChecked (b : Books) (i : Inspection) : Verdict → Inspecting × Books
  | .sound => b.inspectNext { i with pending := i.pending.tail }
  | .broken | .failed _ =>
      b.inspectNext { i with pending := i.pending.tail, unhealthy := i.unhealthy + 1 }
  | .panicked text => (.panicked text, b.letGoAll i.members)

end Books
end ResourcePool
