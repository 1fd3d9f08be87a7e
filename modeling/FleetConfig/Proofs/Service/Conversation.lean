import FleetConfig.Proofs.Service.Batch

/-!
# Conversations with a service

A service answers one request after the other.  Several nodes may be classified
side by side, and then the workers decide what the service is like afterwards; so
answering is a relation.  Whatever is said, the service stays within what can be
reached.
-/

namespace FleetConfig

/-- Count what came of a batch: its results or its failure. -/
def Totals.addBatch
    (totals : Totals) :
    Except Failure (List ResolvedConfiguration) → Totals
  | .ok results =>
      totals.addResults results
  | .error failure =>
      totals.addFailure failure

/-- A request with what came of it. -/
structure Exchange where
  request : Request
  outcome : Except RequestFailure Answer

namespace Service

/--
A request to a service may have an outcome and leave the service in some state.  To
do everything in turn is always one of the ways to answer; for several nodes and
several workers there are others.
-/
inductive Answers
    (service : Service) :
    Request → Except RequestFailure Answer → Service → Prop where
  | inTurn
      (request : Request) :
      Answers service request (service.respond request).1
        (service.respond request).2
  | sideBySide
      {nodes : List Node}
      {groupSet : GroupSet}
      (severalWorkers : 1 < service.settings.workers)
      (severalNodes : 1 < nodes.length)
      {hierarchy : Hierarchy}
      {engine : Engine}
      (validated :
        service.engine.run (Engine.validate groupSet) =
          (.ok hierarchy, engine))
      {pool : Pool ResolvedConfiguration}
      (steps :
        Relation.ReflTransGen (Pool.Step service.settings.workers.toNat)
          (Pool.ofNodes service.settings groupSet hierarchy nodes engine)
          pool)
      {outcome : Except Failure (List ResolvedConfiguration)}
      (complete : Pool.collected? pool.works = some outcome) :
      Answers service (.work (.classifyMany nodes) (.valid groupSet))
        ((outcome.map .configurations).mapError .failed)
        { service with
          engine := pool.engine,
          totals := service.totals.addBatch outcome }

/-- A service answers requests one after the other and ends up as another. -/
inductive Converses : Service → List Exchange → Service → Prop where
  | nil
      (service : Service) :
      Converses service [] service
  | cons
      {service after last : Service}
      {exchange : Exchange}
      {rest : List Exchange}
      (answers : service.Answers exchange.request exchange.outcome after)
      (goesOn : after.Converses rest last) :
      Converses service (exchange :: rest) last

/-- To respond to requests one after the other is to converse. -/
theorem converses_respondAll
    (service : Service)
    (requests : List Request) :
    service.Converses
      (List.zipWith Exchange.mk requests (service.respondAll requests).1)
      (service.respondAll requests).2 := by
  induction requests generalizing service with
  | nil =>
      exact .nil service
  | cons request rest inductionHypothesis =>
      exact .cons (.inTurn request) (inductionHypothesis _)

/--
This is what comes of a request, however it is answered.  It is answered, and workers
that classify side by side come to the end of their work.
-/
structure ComesTo
    (service : Service)
    (request : Request)
    (outcome : Except RequestFailure Answer) :
    Prop where
  answered :
    ∃ after, service.Answers request outcome after
  only :
    ∀ {other after}, service.Answers request other after → other = outcome
  ends :
    ∀ {nodes groupSet},
      request = .work (.classifyMany nodes) (.valid groupSet) →
      ∃ results,
        service.engine.ClassifiesMany service.settings nodes groupSet results ∧
          (results.map .configurations).mapError .failed = outcome

variable {settings : Settings}
  {groupSets : List GroupSet}
  {service after last : Service}

/-- What comes of classifying many nodes is what comes of it in turn. -/
theorem classifiesMany_in_turn
    (sound : service.engine.patterns.Sound)
    (nodes : List Node)
    (groupSet : GroupSet) :
    service.engine.ClassifiesMany service.settings nodes groupSet
      (service.engine.run
        (Engine.classifyMany service.settings nodes groupSet)).1 :=
  (Engine.classifiesMany_iff sound _ _ _).mpr
    (Engine.Consults.classifyMany _ _ _ _ sound).1

/-- Workers side by side collect the results that there are in turn. -/
theorem eq_of_sideBySide
    (sound : service.engine.patterns.Sound)
    {nodes : List Node}
    {groupSet : GroupSet}
    {hierarchy : Hierarchy}
    {engine : Engine}
    (validated :
      service.engine.run (Engine.validate groupSet) = (.ok hierarchy, engine))
    {pool : Pool ResolvedConfiguration}
    (steps :
      Relation.ReflTransGen (Pool.Step service.settings.workers.toNat)
        (Pool.ofNodes service.settings groupSet hierarchy nodes engine) pool)
    {outcome : Except Failure (List ResolvedConfiguration)}
    (complete : Pool.collected? pool.works = some outcome) :
    outcome =
      (service.engine.run
        (Engine.classifyMany service.settings nodes groupSet)).1 := by
  obtain ⟨given, stillSound, _⟩ :=
    Engine.Consults.validate groupSet service.engine sound
  rw [validated] at given stillSound
  have computes :=
    ((Pool.computes_ofNodes service.settings groupSet hierarchy nodes
      stillSound).steps steps).1
  have collected := Pool.eq_of_collected? computes.yields complete
  rw [List.mapM_map] at collected
  rw [collected, (Engine.Consults.classifyMany _ _ _ _ sound).1]
  cases asked : (service.engine.hierarchies.request groupSet).1 with
  | error error =>
      rw [asked] at given
      cases given
  | ok found =>
      rw [asked] at given
      cases given
      rfl

/-- However a request is answered, there comes of it what comes of it in turn. -/
theorem comesTo_respond
    (sound : service.engine.patterns.Sound)
    (request : Request) :
    service.ComesTo request (service.respond request).1 := by
  constructor
  case answered =>
    exact ⟨_, .inTurn request⟩
  case only =>
    intro other after answers
    cases answers with
    | inTurn =>
        rfl
    | sideBySide _ _ validated steps complete =>
        rw [eq_of_sideBySide sound validated steps complete]
        rfl
  case ends =>
    rintro nodes groupSet rfl
    exact ⟨_, classifiesMany_in_turn sound nodes groupSet, rfl⟩

/-- However a request is answered, the service can be reached afterwards. -/
theorem Reachable.answers
    (reachable : Reachable settings groupSets service)
    {request : Request}
    (presented : request.groupSets ⊆ groupSets)
    {outcome : Except RequestFailure Answer}
    (answers : service.Answers request outcome after) :
    Reachable settings groupSets after := by
  cases answers with
  | inTurn =>
      exact reachable.responded request presented
  | sideBySide _ _ validated steps _ =>
      obtain rfl := reachable.serves.sameSettings
      exact reachable.sideBySide _ (presented (List.mem_singleton_self _))
        validated steps _

/-- The group sets that are presented in exchanges. -/
def presentedIn (exchanges : List Exchange) : List GroupSet :=
  exchanges.flatMap (·.request.groupSets)

/-- Wherever a conversation leads, it leads to a service that can be reached. -/
theorem Reachable.converses
    (reachable : Reachable settings groupSets service)
    {exchanges : List Exchange}
    (presented : presentedIn exchanges ⊆ groupSets)
    (converses : service.Converses exchanges last) :
    Reachable settings groupSets last := by
  induction converses with
  | nil service =>
      exact reachable
  | cons answers _ inductionHypothesis =>
      obtain ⟨now, later⟩ := List.append_subset.mp presented
      exact inductionHypothesis (reachable.answers now answers) later

end Service

end FleetConfig
