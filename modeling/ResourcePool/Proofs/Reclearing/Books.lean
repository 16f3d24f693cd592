import ResourcePool.Books.Inspect
import ResourcePool.Proofs.Books.Acquire
import ResourcePool.Proofs.Reclearing.Renumbering

/-! Two runs of which the second clears the pool once more, directly after a clearing that both
have in common. From there on their books differ in the numbers of generations, in one more
clearing counted and in the report of it, and every operation keeps it that way. -/
namespace ResourcePool

def Event.isClearing : Event → Bool
  | .cleared .. => true
  | _ => false

/-- Where two runs part. -/
structure Fork where
  /-- Generation of the population that the clearing of both runs began. -/
  era : Nat
  /-- What both had reported by then. -/
  journal : Journal
  time : Nat
  job : Option JobId
  /-- Whether the sink of the second run refused to hear of its clearing. -/
  refused : Bool
  /-- Events that policies may offer of their own accord, the same in both runs. -/
  own : Event → Prop

/-- The books from which the second run clears once more. -/
def Books.fork (b : Books) (own : Event → Prop) : Fork where
  era := b.store.generation
  journal := b.journal
  time := b.clock
  job := b.actor
  refused := (b.sink b.journal (.cleared (b.store.generation + 1) 0)).isSome
  own := own

/-- Counters with one clearing more. -/
def Counters.reclear (counters : Counters) : Counters :=
  { counters with clears := counters.clears + 1 }

theorem Counters.record_reclear (counters : Counters) (counter : Counter) (amount : Nat) :
    counters.reclear.record counter amount = (counters.record counter amount).reclear := by
  cases counter with
  | clears =>
      have turned : counters.clears + 1 + .ofNat amount =
          counters.clears + .ofNat amount + 1 := by
        rw [UInt64.add_assoc, UInt64.add_comm 1, UInt64.add_assoc]
      exact congrArg (fun shown => { counters with clears := shown }) turned
  | _ => rfl

/-- The books of the second run that go with those of the first. -/
def Books.reclear (era : Nat) (journal : Journal) (sink : Sink) (b : Books) : Books :=
  { b with
    store := b.store.renumber era
    counters := b.counters.reclear
    journal
    sink }

namespace Fork

/-- The report that only the second run has: its clearing drops nothing. -/
def extra (f : Fork) : Entry := ⟨f.time, f.job, .event (.cleared (f.era + 1) 0) f.refused⟩

/-- Events that go together: a clearing begins a generation that is one higher. -/
inductive AlikeEvents (f : Fork) : Event → Event → Prop
  | same {event : Event} : event.isClearing = false → f.AlikeEvents event event
  | clearing {generation : Nat} (dropped : Nat) : f.era < generation →
      f.AlikeEvents (.cleared generation dropped) (.cleared (generation + 1) dropped)
  | own {event : Event} : f.own event → f.AlikeEvents event event

inductive AlikeReports (f : Fork) : Report → Report → Prop
  | event {event event' : Event} (refused : Bool) : f.AlikeEvents event event' →
      f.AlikeReports (.event event refused) (.event event' refused)
  | factoryCalled (call : Resource) : f.AlikeReports (.factoryCalled call) (.factoryCalled call)
  | factoryEnded (call : Resource) (supply : Supply) :
      f.AlikeReports (.factoryEnded call supply) (.factoryEnded call supply)
  | policyStarted : f.AlikeReports .policyStarted .policyStarted
  | policyStopped : f.AlikeReports .policyStopped .policyStopped
  | populationRead (population : Population) :
      f.AlikeReports (.populationRead population) (.populationRead population)
  | idRead (pool : Nat) : f.AlikeReports (.idRead pool) (.idRead pool)
  | resolving (hostname : String) (resolver : Nat) :
      f.AlikeReports (.resolving hostname resolver) (.resolving hostname resolver)
  | terminating (kind : JobKind) (error : String) :
      f.AlikeReports (.terminating kind error) (.terminating kind error)

/-- The journals after the fork, entry by entry. -/
inductive AlikeJournals (f : Fork) : Journal → Journal → Prop
  | parted : f.AlikeJournals f.journal (f.extra :: f.journal)
  | entry {journal journal' : Journal} {report report' : Report} (time : Nat)
      (job : Option JobId) : f.AlikeJournals journal journal' → f.AlikeReports report report' →
      f.AlikeJournals (⟨time, job, report⟩ :: journal) (⟨time, job, report'⟩ :: journal')

/-- Sinks that answer the second run as the first. -/
def AlikeSinks (f : Fork) (sink sink' : Sink) : Prop :=
  ∀ journal journal' event event', f.AlikeJournals journal journal' →
    f.AlikeEvents event event' → sink' journal' event' = sink journal event

inductive Alike (f : Fork) : Books → Books → Prop
  | mk {b : Books} {journal : Journal} {sink : Sink} : f.era ≤ b.store.generation →
      f.AlikeJournals b.journal journal → f.AlikeSinks b.sink sink →
      f.Alike b (b.reclear f.era journal sink)

/-- What an operation answers in the second run, with the books that it leaves. -/
structure Likewise {α : Type} (f : Fork) (renumber : α → α) (out out' : α × Books) : Prop where
  answer : out'.1 = renumber out.1
  books : f.Alike out.2 out'.2

variable {f : Fork} {b b' : Books}

namespace Alike

theorem settings (alike : f.Alike b b') : b'.settings = b.settings := by
  cases alike
  rfl

theorem tuning (alike : f.Alike b b') : b'.tuning = b.tuning := by
  cases alike
  rfl

theorem clock (alike : f.Alike b b') : b'.clock = b.clock := by
  cases alike
  rfl

theorem poolId (alike : f.Alike b b') : b'.id = b.id := by
  cases alike
  rfl

theorem terminated (alike : f.Alike b b') : b'.terminated = b.terminated := by
  cases alike
  rfl

theorem baseline (alike : f.Alike b b') : b'.baseline = b.baseline := by
  cases alike
  rfl

theorem store (alike : f.Alike b b') : b'.store = b.store.renumber f.era := by
  cases alike
  rfl

theorem counters (alike : f.Alike b b') : b'.counters = b.counters.reclear := by
  cases alike
  rfl

theorem references (alike : f.Alike b b') : b'.references = b.references := by
  cases alike
  rfl

theorem journals (alike : f.Alike b b') : f.AlikeJournals b.journal b'.journal := by
  cases alike
  assumption

theorem reached (alike : f.Alike b b') : f.era ≤ b.store.generation := by
  cases alike
  assumption

theorem checksOnAccess (alike : f.Alike b b') : b'.checksOnAccess = b.checksOnAccess := by
  simp only [Books.checksOnAccess, alike.settings]

theorem heard {event event' : Event} (alike : f.Alike b b')
    (events : f.AlikeEvents event event') :
    b'.sink b'.journal event' = b.sink b.journal event := by
  cases alike with
  | mk _ journals sinks => exact sinks _ _ _ _ journals events

theorem note {report report' : Report} (alike : f.Alike b b')
    (reports : f.AlikeReports report report') : f.Alike (b.note report) (b'.note report') := by
  cases alike with
  | mk reached journals sinks => exact .mk reached (.entry _ _ journals reports) sinks

theorem offer {event event' : Event} (alike : f.Alike b b')
    (events : f.AlikeEvents event event') :
    f.Likewise id (b.offer event) (b'.offer event') := by
  have heard := alike.heard events
  refine ⟨heard, ?_⟩
  simp only [Books.offer, heard]
  exact alike.note (.event _ events)

theorem tell {event event' : Event} (alike : f.Alike b b')
    (events : f.AlikeEvents event event') : f.Alike (b.tell event) (b'.tell event') :=
  (alike.offer events).books

theorem count (alike : f.Alike b b') (counter : Counter) (amount : Nat) :
    f.Alike (b.count counter amount) (b'.count counter amount) := by
  cases alike with
  | @mk journal sink reached journals sinks =>
      have counted : (b.reclear f.era journal sink).count counter amount =
          (b.count counter amount).reclear f.era journal sink := by
        simp only [Books.count, Books.reclear, Counters.record_reclear]
      rw [counted]
      exact .mk reached journals sinks

theorem take (alike : f.Alike b b') (resource : Resource) :
    f.Alike (b.take resource) (b'.take resource) := by
  cases alike with
  | mk reached journals sinks => exact .mk reached journals sinks

theorem letGo (alike : f.Alike b b') (resource : Resource) :
    f.Alike (b.letGo resource) (b'.letGo resource) := by
  cases alike with
  | mk reached journals sinks => exact .mk reached journals sinks

theorem rebased (alike : f.Alike b b') (baseline : List Address) :
    f.Alike { b with baseline } { b' with baseline } := by
  cases alike with
  | mk reached journals sinks => exact .mk reached journals sinks

theorem retune (alike : f.Alike b b') (tuning : Tuning) :
    f.Alike { b with tuning } { b' with tuning } := by
  cases alike with
  | mk reached journals sinks => exact .mk reached journals sinks

theorem setClock (alike : f.Alike b b') (clock : Nat) :
    f.Alike { b with clock } { b' with clock } := by
  cases alike with
  | mk reached journals sinks => exact .mk reached journals sinks

theorem setSink {sink sink' : Sink} (alike : f.Alike b b') (sinks : f.AlikeSinks sink sink') :
    f.Alike { b with sink } { b' with sink := sink' } := by
  cases alike with
  | mk reached journals _ => exact .mk reached journals sinks

theorem terminate (alike : f.Alike b b') :
    f.Alike { b with terminated := true } { b' with terminated := true } := by
  cases alike with
  | mk reached journals sinks => exact .mk reached journals sinks

theorem actAs (alike : f.Alike b b') (actor : Option JobId) :
    f.Alike { b with actor } { b' with actor } := by
  cases alike with
  | mk reached journals sinks => exact .mk reached journals sinks

theorem takeAll (alike : f.Alike b b') (resources : List Resource) :
    f.Alike (b.takeAll resources) (b'.takeAll resources) := by
  induction resources generalizing b b' with
  | nil => exact alike
  | cons resource rest ih => exact ih (alike.take resource)

theorem letGoAll (alike : f.Alike b b') (resources : List Resource) :
    f.Alike (b.letGoAll resources) (b'.letGoAll resources) := by
  induction resources generalizing b b' with
  | nil => exact alike
  | cons resource rest ih => exact ih (alike.letGo resource)

theorem stored {store : Store Resource} (alike : f.Alike b b')
    (reached : f.era ≤ store.generation) :
    f.Alike { b with store } { b' with store := store.renumber f.era } := by
  cases alike with
  | mk _ journals sinks => exact .mk reached journals sinks

/-- A clearing of both begins a generation that is one higher in the second run. -/
theorem clear (alike : f.Alike b b') : f.Alike b.clear b'.clear := by
  have reached := alike.reached
  have later : f.era ≤ b.store.clear.2.generation := Nat.le_succ_of_le reached
  have events : f.AlikeEvents (.cleared b.store.clear.2.generation b.store.clear.1.length)
      (.cleared (b.store.clear.2.renumber f.era).generation b.store.clear.1.length) := by
    rw [show (b.store.clear.2.renumber f.era).generation = b.store.clear.2.generation + 1 from
      renumber_of_le later]
    exact .clearing _ (Nat.lt_succ_of_le reached)
  have cleared := ((alike.stored later).count .clears 1).tell events
  unfold Books.clear
  rw [alike.store, Store.clear_renumber reached, Store.members_renumber]
  exact cleared.letGoAll b.store.members

theorem release (alike : f.Alike b b') (lease : Lease) :
    f.Alike (b.release lease) (b'.release (lease.renumber f.era)) := by
  obtain ⟨resource, slot, generation⟩ := lease
  have told : f.AlikeEvents (.returnDiscarded slot) (.returnDiscarded slot) := .same rfl
  have dropped {store : Store Resource} (reached : f.era ≤ store.generation) :=
    (((alike.stored reached).count .discarded 1).tell told).letGo resource
  unfold Books.release
  simp only [Lease.renumber, alike.store]
  cases slot with
  | none => exact dropped alike.reached
  | some slot =>
      have kept := b.store.generation_release slot generation
      simp only [Store.release_renumber]
      rcases released : b.store.release slot generation with ⟨outcome, store⟩
      rw [released] at kept
      have reached : f.era ≤ store.generation := kept ▸ alike.reached
      cases outcome with
      | recycled => exact ((alike.stored reached).count .returned 1).letGo resource
      | discarded => exact dropped reached

theorem remove (alike : f.Alike b b') (slot : SlotId) :
    f.Likewise id (b.remove slot) (b'.remove slot) := by
  have generation := b.store.generation_remove slot
  unfold Books.remove
  rw [alike.store, Store.remove_renumber]
  rcases removed : b.store.remove slot with ⟨_ | resource, store⟩ <;> rw [removed] at generation
  · exact ⟨rfl, alike⟩
  · exact ⟨rfl, (alike.stored (generation ▸ alike.reached)).letGo resource⟩

theorem forget (alike : f.Alike b b') (lease : Lease) :
    f.Alike (b.forget lease) (b'.forget (lease.renumber f.era)) := by
  have slot : (lease.renumber f.era).slot = lease.slot := rfl
  unfold Books.forget
  rw [slot]
  cases lease.slot with
  | none => exact alike
  | some slot => exact (alike.remove slot).books

theorem claim (alike : f.Alike b b') :
    f.Likewise (Option.map (Lease.renumber f.era)) b.claim b'.claim := by
  have generation := b.store.generation_claim
  unfold Books.claim
  rw [alike.store, Store.claim_renumber]
  rcases claimed : b.store.claim with ⟨_ | claim, store⟩ <;> rw [claimed] at generation
  · exact ⟨rfl, alike.stored (generation ▸ alike.reached)⟩
  · exact ⟨rfl, (alike.stored (generation ▸ alike.reached)).take claim.resource⟩

theorem callFactory (alike : f.Alike b b') : f.Likewise id b.callFactory b'.callFactory := by
  cases alike with
  | mk reached journals sinks =>
      exact ⟨rfl, .mk reached (.entry _ _ journals (.factoryCalled _)) sinks⟩

theorem endCall (alike : f.Alike b b') (call : Resource) (supply : Supply) :
    f.Alike (b.endCall call supply) (b'.endCall call supply) := by
  have noted := alike.note (.factoryEnded call supply)
  cases supply with
  | made => exact noted.take call
  | failed | panicked => exact noted

/-! ## Acquisitions -/

theorem createEmergency (alike : f.Alike b b') :
    f.Likewise (Acquisition.renumber f.era) b.createEmergency b'.createEmergency := by
  have begins : f.AlikeEvents .emergencyCreation .emergencyCreation := .same rfl
  have told := alike.tell begins
  obtain ⟨answer, books⟩ := told.callFactory
  refine ⟨?_, books⟩
  have store := told.store
  simp only [Books.createEmergency, answer, store]
  rfl

theorem acquire (alike : f.Alike b b') :
    f.Likewise (Acquisition.renumber f.era) b.acquire b'.acquire := by
  obtain ⟨answer, books⟩ := alike.claim
  unfold Books.acquire
  rcases claimed : b.claim with ⟨taken, left⟩
  rcases claimed' : b'.claim with ⟨taken', left'⟩
  rw [claimed, claimed'] at answer books
  subst answer
  cases taken with
  | none => exact books.createEmergency
  | some lease =>
      simp only [Option.map_some, books.checksOnAccess]
      split
      · exact ⟨rfl, books⟩
      · exact ⟨rfl, books.count .leased 1⟩

theorem tryAcquire (alike : f.Alike b b') :
    f.Likewise (Option.map (Lease.renumber f.era)) b.tryAcquire b'.tryAcquire := by
  obtain ⟨answer, books⟩ := alike.claim
  unfold Books.tryAcquire
  rcases claimed : b.claim with ⟨taken, left⟩
  rcases claimed' : b'.claim with ⟨taken', left'⟩
  rw [claimed, claimed'] at answer books
  subst answer
  cases taken with
  | none => exact ⟨rfl, books⟩
  | some lease => exact ⟨rfl, books.count .leased 1⟩

theorem erase (alike : f.Alike b b') (lease : Lease) :
    f.Alike (b.erase lease) (b'.erase (lease.renumber f.era)) := by
  have erased {c c' : Books} (told : f.Alike c c') :
      f.Alike (((c.count .evicted 1).forget lease).letGo lease.resource)
        (((c'.count .evicted 1).forget (lease.renumber f.era)).letGo lease.resource) :=
    ((told.count .evicted 1).forget lease).letGo lease.resource
  have slot : (lease.renumber f.era).slot = lease.slot := rfl
  unfold Books.erase
  rw [slot]
  cases lease.slot with
  | none => exact erased alike
  | some slot => exact erased (alike.tell (.same rfl))

theorem acquireChecked (alike : f.Alike b b') (lease : Lease) (verdict : Verdict) :
    f.Likewise (Acquisition.renumber f.era) (b.acquireChecked lease verdict)
      (b'.acquireChecked (lease.renumber f.era) verdict) := by
  cases verdict with
  | sound => exact ⟨rfl, alike.count .leased 1⟩
  | broken | failed => exact (alike.erase lease).acquire
  | panicked text => exact ⟨rfl, alike.release lease⟩

theorem countEmergency (alike : f.Alike b b') : f.Alike b.countEmergency b'.countEmergency :=
  ((alike.count .created 1).count .emergencyCreated 1).count .leased 1

theorem admitEmergency (alike : f.Alike b b') (resource : Resource) (generation : Nat) :
    f.Likewise (Lease.renumber f.era) (b.admitEmergency resource generation)
      (b'.admitEmergency resource (ResourcePool.renumber f.era generation)) := by
  have counted := alike.countEmergency
  have kept := b.store.generation_admitLeased resource generation
  rw [Books.admitEmergency_eq, Books.admitEmergency_eq, alike.store, Store.admitLeased_renumber]
  rcases admitted : b.store.admitLeased resource generation with ⟨_ | slot, store⟩ <;>
    rw [admitted] at kept
  · exact ⟨rfl, counted.tell (.same rfl)⟩
  · have entered := counted.stored (kept ▸ alike.reached : f.era ≤ store.generation)
    exact ⟨rfl, (entered.take resource).tell (.same rfl)⟩

theorem acquireSupplied (alike : f.Alike b b') (generation : Nat) (call : Resource)
    (supply : Supply) :
    f.Likewise (Acquisition.renumber f.era) (b.acquireSupplied generation call supply)
      (b'.acquireSupplied (ResourcePool.renumber f.era generation) call supply) := by
  have ended := alike.endCall call supply
  cases supply with
  | made =>
      obtain ⟨answer, books⟩ := ended.admitEmergency call generation
      exact ⟨congrArg Acquisition.leased answer, books⟩
  | failed text => exact ⟨rfl, ended.count .factoryFailures 1⟩
  | panicked text => exact ⟨rfl, ended⟩

theorem abandon (alike : f.Alike b b') (acquisition : Acquisition) :
    f.Alike (b.abandon acquisition) (b'.abandon (acquisition.renumber f.era)) := by
  cases acquisition with
  | checking lease => exact alike.release lease
  | _ => exact alike

/-! ## Inspections -/

theorem inspectNext (alike : f.Alike b b') (i : Inspection) :
    f.Likewise id (b.inspectNext i) (b'.inspectNext i) := by
  unfold Books.inspectNext
  split
  · exact ⟨rfl, alike⟩
  · exact ⟨rfl, (alike.letGoAll i.members).count .unhealthy i.unhealthy⟩

theorem inspect (alike : f.Alike b b') (order : List Resource) :
    f.Likewise id (b.inspect order) (b'.inspect order) := by
  unfold Books.inspect Store.membersIn
  rw [alike.settings, alike.store, Store.members_renumber, Store.population_renumber]
  exact (alike.takeAll (b.store.membersIn order)).inspectNext _

theorem inspectChecked (alike : f.Alike b b') (i : Inspection) (verdict : Verdict) :
    f.Likewise id (b.inspectChecked i verdict) (b'.inspectChecked i verdict) := by
  cases verdict with
  | sound | broken | failed => exact alike.inspectNext _
  | panicked text => exact ⟨rfl, alike.letGoAll i.members⟩

end Alike

/-- Where nothing is left a clearing drops nothing, and only begins another generation. -/
theorem clear_idle (slots : b.store.slots = {}) (queue : b.store.available = []) :
    b.clear = b.reclear b.store.generation
      (⟨b.clock, b.actor, .event (.cleared (b.store.generation + 1) 0)
        (b.sink b.journal (.cleared (b.store.generation + 1) 0)).isSome⟩ :: b.journal) b.sink := by
  have members : b.store.members = [] := by
    simp only [Store.members, slots]
    rfl
  have cleared : b.store.clear = ([], b.store.renumber b.store.generation) := by
    simp only [Store.clear, Store.renumber, slots, queue, renumber_of_le (Nat.le_refl _)]
    rfl
  have generation : (b.store.renumber b.store.generation).generation = b.store.generation + 1 :=
    renumber_of_le (Nat.le_refl _)
  unfold Books.clear
  rw [members, cleared]
  simp only [generation]
  rfl

/-- Directly after a clearing the runs part alike. -/
theorem alike_clear {own : Event → Prop} (slots : b.store.slots = {})
    (queue : b.store.available = []) (sinks : (b.fork own).AlikeSinks b.sink b.sink) :
    (b.fork own).Alike b b.clear := by
  rw [clear_idle slots queue]
  exact .mk (Nat.le_refl _) .parted sinks

/-- The second run may have a sink of its own from there on. -/
theorem alike_clear_setSink {own : Event → Prop} {sink : Sink} (slots : b.store.slots = {})
    (queue : b.store.available = []) (sinks : (b.fork own).AlikeSinks b.sink sink) :
    (b.fork own).Alike b { b.clear with sink } := by
  rw [clear_idle slots queue]
  exact .mk (Nat.le_refl _) .parted sinks

theorem alike_clear_clear {own : Event → Prop} (b : Books)
    (sinks : (b.clear.fork own).AlikeSinks b.clear.sink b.clear.sink) :
    (b.clear.fork own).Alike b.clear b.clear.clear := by
  have store : b.clear.store = b.store.clear.2 := b.store_clear
  exact alike_clear (congrArg Store.slots store) (congrArg Store.available store) sinks

end Fork
end ResourcePool
