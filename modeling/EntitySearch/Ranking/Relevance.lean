import EntitySearch.Entity.Descriptor
/-!
# Relevance adjustment

A hit of a content-like type is boosted by its interaction counters, each of which multiplies the
score by one plus a weighted logarithm. A hashtag's score is its trend: the number of its uses
divided by its age, to which a smoothing time is added. An age is never negative.
-/

namespace EntitySearch

open Number (ArithmeticError)

/-- The weights of the two interaction counters. -/
structure BoostWeights (α : Type) where
  likes : α
  loops : α

/-- The usual weights: a tenth for likes, half of that for loops. -/
def BoostWeights.usual {α : Type} [Scalar α] : BoostWeights α :=
  ⟨Scalar.decimal 1 1, Scalar.decimal 5 2⟩

section Boost

variable {α : Type} [LogScalar α]

/-- The factor of one counter: one if it is unknown or not positive. -/
def engagementFactor (count : Option Int) (weight : α) : α :=
  match count with
  | none => Scalar.ofNat 1
  | some n =>
    if n ≤ 0 then Scalar.ofNat 1
    else Scalar.ofNat 1 + LogScalar.logSucc n.toNat * weight

/-- A score boosted by interaction counters. -/
def boostEngagement (weights : BoostWeights α) (score : α) (signals : Signals) : α :=
  score * engagementFactor signals.likes weights.likes
    * engagementFactor signals.loops weights.loops

/-- A score boosted by what is known of an entity. It is the raw score if nothing is. -/
def BoostWeights.boost (weights : BoostWeights α) (score : α) : Option Signals → α
  | none => score
  | some signals => boostEngagement weights score signals

end Boost

/-- The smoothing time of the trend in seconds: one day. -/
def trendSmoothing : Int := 86400

/-- The trend of a tag at a moment: its uses divided by its smoothed age. -/
def trendingScore {α : Type} [Scalar α] (usageCount firstSeen now : Int)
    (smoothing : Int := trendSmoothing) : Except ArithmeticError α :=
  if usageCount ≤ 0 then pure (Scalar.ofNat 0)
  else Scalar.ratio usageCount (max (now - firstSeen) 0 + smoothing)

/-- The counters of a tag after one more use. A tag without uses starts anew. -/
def TagUsage.record (usage : Option TagUsage) (tag : Text) (now : Int) : TagUsage :=
  match usage with
  | none => ⟨tag, 1, now, now⟩
  | some u =>
    if u.usageCount ≤ 0 then ⟨tag, 1, now, now⟩
    else ⟨tag, u.usageCount + 1, u.firstSeen, max u.lastSeen now⟩

end EntitySearch
