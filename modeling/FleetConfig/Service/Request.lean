import FleetConfig.Schema
import FleetConfig.Service.Basic

/-!
# Requests to a service

A service is used by one request after the other.  A task is done for a group
set that is presented with it, unless the group set is unreadable; the other
requests only change what the service keeps.
-/

namespace FleetConfig

/-- What can be done for a group set. -/
inductive Task where
  | classify (node : Node)
  | classifyMany (nodes : List Node)
  | validate
  | nodesInGroup (id : String) (nodes : List Node)

/-- What is asked of a service. -/
inductive Request where
  | work (task : Task) (presented : Checked GroupSet)
  | clearCaches
  | start
  | shutDown

/-- What a request gives. -/
inductive Answer where
  | configuration (resolved : ResolvedConfiguration)
  | configurations (resolved : List ResolvedConfiguration)
  | hierarchy (hierarchy : Hierarchy)
  | certnames (names : List String)
  | done

/-- Why a request fails. -/
inductive RequestFailure where
  | unreadable (complaints : List Complaint)
  | failed (failure : Failure)

namespace Service

/-- Do a task for a group set. -/
def work
    (service : Service)
    (task : Task)
    (groupSet : GroupSet) :
    Except Failure Answer × Service :=
  match task with
  | .classify node =>
      let (outcome, after) := service.classify node groupSet
      (outcome.map .configuration, after)
  | .classifyMany nodes =>
      let (outcome, after) := service.classifyMany nodes groupSet
      (outcome.map .configurations, after)
  | .validate =>
      let (outcome, after) := service.validate groupSet
      (outcome.map .hierarchy, after)
  | .nodesInGroup id nodes =>
      let (outcome, after) := service.nodesInGroup id nodes groupSet
      (outcome.map .certnames, after)

/-- Respond to a request. -/
def respond (service : Service) : Request → Except RequestFailure Answer × Service
  | .work task (.valid groupSet) =>
      let (outcome, after) := service.work task groupSet
      (outcome.mapError .failed, after)
  | .work _ (.invalid complaints) =>
      (.error (.unreadable complaints), service)
  | .clearCaches =>
      (.ok .done, service.clearCaches)
  | .start =>
      (.ok .done, service.start)
  | .shutDown =>
      (.ok .done, service.shutDown)

/-- Respond to requests one after the other. -/
def respondAll
    (service : Service) :
    List Request → List (Except RequestFailure Answer) × Service
  | [] =>
      ([], service)
  | request :: rest =>
      let (answer, after) := service.respond request
      let (answers, last) := after.respondAll rest
      (answer :: answers, last)

end Service

end FleetConfig
