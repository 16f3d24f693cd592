import ResourcePool.Upkeep.Job

/-! What a job is waiting for, and how it goes on. A signal that a job does not wait
for is ignored. -/
namespace ResourcePool

inductive Signal where
  /-- The first turn of a spawned job. -/
  | run
  /-- A slice of the job's pause is over. -/
  | wake
  /-- The next creation of a batch begins. -/
  | launch
  /-- A creation of a batch ended. -/
  | deliver (call : Resource) (supply : Supply)
  /-- The keeper comes to a creation that ended. -/
  | collect (call : Resource) (supply : Supply)
  /-- The check of a health cycle ended. -/
  | judge (verdict : Verdict)
  /-- A watching policy's resolver answered. -/
  | resolved (resolution : Policy.Resolution)
  /-- A user's policy went on with its tick. -/
  | tick (acts : List Policy.Act) (ending : Policy.Ending)

namespace Job

def respond (j : Job) (b : Books) : Signal → Option (Work Stage)
  | .run =>
      match j.stage with
      | .spawned => some j.run
      | _ => none
  | .wake =>
      match j.stage with
      | .sleeping nap wake => if wake ≤ b.clock then some (j.wake nap) else none
      | _ => none
  | .launch =>
      match j.stage with
      | .creating batch =>
          if 0 < batch.waiting then some (Stage.creating <$> modifyGet batch.launch) else none
      | _ => none
  | .deliver call supply =>
      match j.stage with
      | .creating batch =>
          if call ∈ batch.running then
            some (Stage.creating <$> modifyGet (batch.deliver call supply))
          else none
      | _ => none
  | .collect call supply =>
      match j.stage with
      | .creating batch =>
          if (call, supply) ∈ batch.ended then some (j.collect batch call supply) else none
      | _ => none
  | .judge verdict =>
      match j.stage with
      | .checking round => some (j.judge round verdict)
      | _ => none
  | .resolved resolution =>
      match j.stage, policyOf b with
      | .ticking, .addresses hostname =>
          if j.kind = .management then some (j.resolved hostname resolution) else none
      | _, _ => none
  | .tick acts ending =>
      match j.stage, policyOf b with
      | .ticking, .custom _ =>
          if j.kind = .management then some (j.tick acts ending) else none
      | _, _ => none

end Job
end ResourcePool
