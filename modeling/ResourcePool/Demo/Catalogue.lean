import ResourcePool.Demo.Basics
import ResourcePool.Demo.Features
import ResourcePool.Demo.Jobs

/-! The demonstrations under the names by which they are asked for. -/
namespace ResourcePool.Demo

def byName? : String → Option (List String)
  | "basic" => some Basics.lines
  | "async_usage" => some Jobs.lines
  | "advanced" => some Features.lines
  | _ => none

end ResourcePool.Demo
