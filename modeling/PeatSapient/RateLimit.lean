import PeatSapient.Lib.HashMap
import PeatSapient.Numeric

/-! rate_limit.rs. The bucket of a node is made at its first check, full, and the
clock is read once for both. -/

namespace PeatSapient

open HashMap

variable {F : Type} [FloatOps F]

structure RateLimitConfig (F : Type) where
  maxPerSecond : F
  burstSize : Nat

structure TokenBucket (F : Type) where
  tokens : F
  capacity : F
  refillRate : F
  lastCheck : Nat

def TokenBucket.new (config : RateLimitConfig F) (now : Nat) : TokenBucket F where
  tokens := FloatOps.ofNat config.burstSize
  capacity := FloatOps.ofNat config.burstSize
  refillRate := config.maxPerSecond
  lastCheck := now

def TokenBucket.tryConsume (bucket : TokenBucket F) (now : Nat) : Bool × TokenBucket F :=
  let elapsed := asSecsF64 (now - bucket.lastCheck)
  let tokens := FloatOps.min (bucket.tokens + elapsed * bucket.refillRate) bucket.capacity
  if FloatOps.le 1.0 tokens then
    (true, { bucket with tokens := tokens - 1.0, lastCheck := now })
  else (false, { bucket with tokens := tokens, lastCheck := now })

structure DetectionLimiter (F : Type) where
  buckets : Table String (TokenBucket F)
  config : RateLimitConfig F
  enabled : Bool

namespace DetectionLimiter

def new (config : RateLimitConfig F) : DetectionLimiter F where
  buckets := ∅
  config := config
  enabled := FloatOps.lt 0.0 config.maxPerSecond && decide (0 < config.burstSize)

def check (limiter : DetectionLimiter F) (now : Nat) (nodeId : String) :
    Bool × DetectionLimiter F :=
  if limiter.enabled then
    let bucket := (limiter.buckets.lookup nodeId).getD (TokenBucket.new limiter.config now)
    let result := bucket.tryConsume now
    (result.1, { limiter with buckets := limiter.buckets.insert nodeId result.2 })
  else (true, limiter)

end DetectionLimiter

end PeatSapient
