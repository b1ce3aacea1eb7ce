/-
**The five pools.**

A dispatch cycle leases one wrapper of each kind: the header fields, the target and the whole of the
request, and the header fields and the whole of the response. All five go back when the cycle ends,
however it ends.

* `inUse_new`: new pools have lent nothing.
-/

import Switchboard.Settings.Basic
import Switchboard.Wrapper.Response

namespace Switchboard

namespace Wrapper

/-- One pool for each kind of wrapper. -/
structure Pools where
  request : Pool Request
  response : Pool Response
  requestFields : Pool Fields
  responseFields : Pool Fields
  url : Pool Url

/-- The counters of the five pools. -/
structure PoolsStats where
  request : PoolStats
  response : PoolStats
  requestFields : PoolStats
  responseFields : PoolStats
  url : PoolStats
deriving DecidableEq, Repr

/-- The number of wrappers that are lent, over all kinds. -/
def PoolsStats.inUse (stats : PoolsStats) : Nat :=
  stats.request.inUse + stats.response.inUse + stats.requestFields.inUse
    + stats.responseFields.inUse + stats.url.inUse

/-- The wrappers of a cycle: those of header and target are inside the other two. -/
structure Lease where
  request : Instance Request
  response : Instance Response

/-- What leasing gives: the wrappers, the pools without them, and the kinds that were built. -/
structure Leased where
  lease : Lease
  pools : Pools
  built : List String

namespace Pools

/-- Pools with some wrappers built ahead. -/
def new (settings : PoolSettings) : Pools :=
  let pool (α : Type) [Recycle α] (kind : String) : Pool α :=
    Pool.prewarm { kind, maxIdle := settings.maxIdle } settings.prewarm
  { request := pool Request "request"
    response := pool Response "response"
    requestFields := pool Fields "request_header"
    responseFields := pool Fields "response_header"
    url := pool Url "url" }

/-- The counters. -/
def stats (pools : Pools) : PoolsStats :=
  { request := pools.request.stats
    response := pools.response.stats
    requestFields := pools.requestFields.stats
    responseFields := pools.responseFields.stats
    url := pools.url.stats }

/-- Lease one wrapper of each kind and bind it to its part of an exchange. -/
def lease (pools : Pools) (exchange : Http.Exchange) : Leased :=
  let requestFields := pools.requestFields.acquire
  let url := pools.url.acquire
  let request := pools.request.acquire
  let responseFields := pools.responseFields.acquire
  let response := pools.response.acquire
  let boundFields := { requestFields.item with value := ⟨exchange.request.header⟩ }
  let boundUrl := { url.item with value := url.item.value.reset exchange.request.uri }
  let boundHeader := { responseFields.item with value := ⟨exchange.response.header⟩ }
  { lease :=
      { request :=
          { request.item with
            value := request.item.value.bind exchange.request boundFields boundUrl }
        response :=
          { response.item with
            value := response.item.value.bind exchange.response boundHeader } }
    pools :=
      { request := request.pool
        response := response.pool
        requestFields := requestFields.pool
        responseFields := responseFields.pool
        url := url.pool }
    built :=
      [("request_header", requestFields.built), ("url", url.built), ("request", request.built),
        ("response_header", responseFields.built), ("response", response.built)].filterMap
        fun (kind, built) => if built then some kind else none }

/-- Take back a wrapper that may be missing. -/
def takeBack? [Recycle α] (pool : Pool α) (item : Option (Instance α)) : Pool α :=
  item.elim pool pool.takeBack

/-- Take back the wrappers of a cycle, those inside the other two first. -/
def release (pools : Pools) (lease : Lease) : Pools :=
  { request := pools.request.takeBack lease.request
    response := pools.response.takeBack lease.response
    requestFields := takeBack? pools.requestFields lease.request.value.fields
    responseFields := takeBack? pools.responseFields lease.response.value.fields
    url := takeBack? pools.url lease.request.value.url }

/-- Building ahead lends nothing. -/
theorem inUse_prewarm [Recycle α] (pool : Pool α) (count : Nat) :
    (pool.prewarm count).inUse = pool.inUse := by
  unfold Pool.prewarm
  generalize min count pool.maxIdle - pool.free.length = times
  induction times with
  | zero => rfl
  | succ times hypothesis => simpa [Nat.repeat, Pool.addIdle] using hypothesis

/-- New pools have lent nothing. -/
theorem inUse_new (settings : PoolSettings) : (new settings).stats.inUse = 0 := by
  simp [new, stats, PoolsStats.inUse, Pool.stats, inUse_prewarm]

end Pools

end Wrapper

end Switchboard
