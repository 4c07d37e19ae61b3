import LogTagger.Cache.Basic
import LogTagger.Error
import LogTagger.Metrics

/-!
# Reconciling the cache with the live containers

The cache is brought in line with a set of endpoints in three kinds of steps. `begin` lists the
containers that have an endpoint and no document, `record` takes the answer for the first of them
that is left, and `commit`, once none is left, enters the documents, evicts those of containers that
are not in the set and replaces the agents. Until `commit` the cache is untouched, so a
reconciliation that is abandoned leaves no trace in it. A failed fetch does not keep the others from
being entered; the first failure is the outcome.

`DocumentCache.reconcile` is the whole of it, for fetches with effects in any monad.
-/

namespace LogTagger

/-- What a reconciliation did. -/
structure ReconcileStats where
  /-- The number of documents entered. -/
  fetched : Nat
  /-- The number of documents evicted. -/
  evicted : Nat
  /-- The number of documents cached in the end. -/
  cached : Nat
  deriving DecidableEq

/-- A reconciliation under way. -/
structure Reconciliation where
  /-- The endpoints with which the cache is brought in line. -/
  target : EndpointSet
  /-- The containers still to be fetched, by ascending id, with the address of each. -/
  missing : List (String × String)
  /-- The documents fetched so far, by ascending id. -/
  fetched : List (String × Json) := []
  /-- The first failure. -/
  failure : Option SourceError := none

namespace Reconciliation

/-- The containers of a set without a document in the cache, by ascending id, with their preferred
addresses. -/
def missingFrom (cache : DocumentCache) (target : EndpointSet) : List (String × String) :=
  (target.endpoints.entries.filter (fun e => !cache.contains e.1)).map (fun e => (e.1, e.2.first))

/-- The reconciliation of a cache with a set at its beginning. -/
def begin (cache : DocumentCache) (target : EndpointSet) : Reconciliation :=
  { target, missing := missingFrom cache target }

/-- Takes the answer for the first container that is left. -/
def record (r : Reconciliation) (answer : Except FetchError Json) : Reconciliation :=
  match r.missing with
  | [] => r
  | (id, url) :: rest =>
    match answer with
    | .ok document => { r with missing := rest, fetched := r.fetched ++ [(id, document)] }
    | .error cause => { r with missing := rest, failure := r.failure.or (some (.fetch id url cause.message)) }

/-- Enters a document unless there is one already; counts those entered. -/
def enter (found : SortedMap Json × Nat) (e : String × Json) : SortedMap Json × Nat :=
  if found.1.contains e.1 then found else (found.1.insert e.1 e.2, found.2 + 1)

/-- Enters the fetched documents, evicts those of containers outside the set, and replaces the
agents. -/
def commit (r : Reconciliation) (cache : DocumentCache) : DocumentCache × ReconcileStats :=
  let (entered, fetched) := r.fetched.foldl enter (cache.documents, 0)
  let kept := entered.filter (fun id _ => r.target.contains id)
  ({ documents := kept, agents := r.target.agents },
    { fetched, evicted := entered.size - kept.size, cached := kept.size })

/-- The outcome: the first failure, or else what was done. -/
def outcome (r : Reconciliation) (stats : ReconcileStats) : Except SourceError ReconcileStats :=
  match r.failure with
  | some cause => .error cause
  | none => .ok stats

end Reconciliation

namespace Metrics

/-- Counts a fetch. -/
def countFetch (m : Metrics) (answer : Except FetchError Json) : Metrics := m.add (.fetches answer.isOk) 1

/-- Counts the evictions of a reconciliation and shows the number of cached documents. -/
def countCommit (m : Metrics) (stats : ReconcileStats) : Metrics :=
  (m.add .evictions stats.evicted).set .cachedContainers stats.cached

end Metrics

/-- Fetches the containers that are left, in order. -/
def Reconciliation.fetchAll {m : Type → Type} [Monad m] (fetch : String → m (Except FetchError Json)) :
    List (String × String) → Reconciliation → Metrics → m (Reconciliation × Metrics)
  | [], r, metrics => pure (r, metrics)
  | (_, url) :: rest, r, metrics => do
    let answer ← fetch url
    fetchAll fetch rest (r.record answer) (metrics.countFetch answer)

/-- Brings the cache in line with a set of endpoints. -/
def DocumentCache.reconcile {m : Type → Type} [Monad m] (fetch : String → m (Except FetchError Json))
    (cache : DocumentCache) (metrics : Metrics) (target : EndpointSet) :
    m ((DocumentCache × Metrics) × Except SourceError ReconcileStats) := do
  let start := Reconciliation.begin cache target
  let (r, metrics) ← Reconciliation.fetchAll fetch start.missing start metrics
  let (cache, stats) := r.commit cache
  return ((cache, metrics.countCommit stats), r.outcome stats)

end LogTagger
