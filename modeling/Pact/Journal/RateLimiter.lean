import Pact.Library.TokenBucket
import Pact.Library.Trace

namespace Pact.Journal

open Pact.Library

inductive IpAddr
  | V4 (a b c d : UInt8)
  | V6 (a b c d e f g h : UInt16)
  deriving DecidableEq

-- Instants are in seconds on the monotonic clock. They and the tokens are exact numbers here.
structure Bucket where
  tokens : ℚ
  maxTokens : ℚ
  refillRate : ℚ
  lastRefill : ℚ
  deriving DecidableEq

namespace Bucket

def new (maxPerMinute now : ℚ) : Bucket := ⟨maxPerMinute, maxPerMinute, maxPerMinute / 60, now⟩

-- Time that has passed since an instant is zero for an instant in the future.
def elapsed (now : ℚ) (bucket : Bucket) : ℚ := max (now - bucket.lastRefill) 0

def refilled (now : ℚ) (bucket : Bucket) : ℚ :=
  refill bucket.maxTokens bucket.refillRate (bucket.elapsed now) bucket.tokens

def tryAcquire (now : ℚ) (bucket : Bucket) : Bucket × Bool :=
  let tokens := bucket.refilled now
  if 1 ≤ tokens then ({ bucket with tokens := tokens - 1, lastRefill := now }, true)
  else ({ bucket with tokens := tokens, lastRefill := now }, false)

end Bucket

structure RateLimiter where
  global : Bucket
  perIp : IpAddr → Option Bucket
  perIpMax : ℚ

namespace RateLimiter

def new (globalPerMinute : Nat) (now : ℚ) : RateLimiter where
  global := .new globalPerMinute now
  perIp := fun _ => none
  perIpMax := max (globalPerMinute / 10) 5

def tryAcquire (now : ℚ) (limiter : RateLimiter) : RateLimiter × Bool :=
  let (global, granted) := limiter.global.tryAcquire now
  ({ limiter with global := global }, granted)

-- The instants that one call reads are taken as one. The global token is spent before the own
-- bucket of the address is looked at.
def tryAcquireForIp (now : ℚ) (ip : IpAddr) (limiter : RateLimiter) : RateLimiter × Bool :=
  let (global, passed) := limiter.global.tryAcquire now
  if passed then
    let (bucket, granted) :=
      ((limiter.perIp ip).getD (.new limiter.perIpMax now)).tryAcquire now
    ({ limiter with global := global, perIp := Function.update limiter.perIp ip (some bucket) },
      granted)
  else ({ limiter with global := global }, false)

def cleanupStale (now : ℚ) (limiter : RateLimiter) : RateLimiter :=
  { limiter with
    perIp := fun ip =>
      (limiter.perIp ip).filter fun bucket => (bucket.elapsed now).floor < 300 }

end RateLimiter

inductive LimiterCall
  | TryAcquire
  | TryAcquireForIp (ip : IpAddr)
  | CleanupStale
  deriving DecidableEq

structure LimiterStep where
  now : ℚ
  call : LimiterCall
  deriving DecidableEq

def RateLimiter.serve (step : LimiterStep) (limiter : RateLimiter) : RateLimiter × Option Bool :=
  match step.call with
  | .TryAcquire =>
    let (after, granted) := limiter.tryAcquire step.now
    (after, some granted)
  | .TryAcquireForIp ip =>
    let (after, granted) := limiter.tryAcquireForIp step.now ip
    (after, some granted)
  | .CleanupStale => (limiter.cleanupStale step.now, none)

structure TimedLimiter where
  limiter : RateLimiter
  clock : ℚ

def TimedLimiter.new (globalPerMinute : Nat) (now : ℚ) : TimedLimiter :=
  ⟨.new globalPerMinute now, now⟩

-- The clock does not go back.
def limiterNext (state : TimedLimiter) (step : LimiterStep) : Option TimedLimiter :=
  if state.clock ≤ step.now then some ⟨(state.limiter.serve step).1, step.now⟩ else none

def reply (step : LimiterStep) (answer : Option Bool) : List (LimiterStep × Bool) :=
  (answer.map fun granted => (step, granted)).toList

def limiterReply (state : TimedLimiter) (step : LimiterStep) : List (LimiterStep × Bool) :=
  reply step (state.limiter.serve step).2

def answers (state : TimedLimiter) (steps : List LimiterStep) : List (LimiterStep × Bool) :=
  trace limiterNext limiterReply state steps

-- A bucket on its own, and the times of the requests it accepts.
structure TimedBucket where
  bucket : Bucket
  clock : ℚ
  deriving DecidableEq

def bucketNext (state : TimedBucket) (now : ℚ) : Option TimedBucket :=
  if state.clock ≤ now then some ⟨(state.bucket.tryAcquire now).1, now⟩ else none

def bucketGrant (state : TimedBucket) (now : ℚ) : List ℚ :=
  if (state.bucket.tryAcquire now).2 then [now] else []

end Pact.Journal
