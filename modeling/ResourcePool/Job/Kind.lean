/-! The background jobs a pool can run. -/
namespace ResourcePool

inductive JobKind where
  | keeper
  | health
  | management
deriving DecidableEq, Repr, Inhabited

namespace JobKind

def render : JobKind → String
  | keeper => "resource count keeper"
  | health => "health care job"
  | management => "pool management job"

def describe : JobKind → String
  | keeper => "ResourceCountKeeper"
  | health => "HealthCareJob"
  | management => "PoolManagement"

/-- The order in which all jobs are stopped. -/
def all : List JobKind := [keeper, health, management]

end JobKind
end ResourcePool
