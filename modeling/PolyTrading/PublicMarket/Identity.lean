import PolyTrading.Journal.Event

/-!
# `public-market-data`: identities of hourly markets

The immutable identity of one hourly market (`domain.rs`), as discovery hands it on.
-/

namespace PolyTrading.PublicMarket

open Foundation
open Journal (Bytes)

inductive Asset where
  | bitcoin
  | ethereum
  deriving DecidableEq

/-- `asset as u8`. -/
def Asset.index : Asset → Nat
  | bitcoin => 0
  | ethereum => 1

theorem Asset.index_injective : Function.Injective Asset.index := by
  intro a b h
  cases a <;> cases b <;> first | rfl | cases h

instance : Ord Asset := ordOfRank Asset.index
instance : Std.TransOrd Asset := transOrd_ofRank Asset.index
instance : Std.LawfulEqOrd Asset := lawfulEqOrd_ofRank Asset.index_injective

structure HourlySeries where
  id : String
  slug : String
  asset : Asset

def btcHourly : HourlySeries := ⟨"10114", "btc-up-or-down-hourly", .bitcoin⟩
def ethHourly : HourlySeries := ⟨"10117", "eth-up-or-down-hourly", .ethereum⟩

structure MarketIdentity where
  asset : Asset
  eventId : String
  marketId : String
  conditionId : String
  questionId : String
  eventSlug : String
  marketSlug : String
  seriesId : String
  seriesSlug : String
  title : String
  startTimeMs : Int
  endTimeMs : Int
  resolutionSource : String
  description : String
  upTokenId : String
  downTokenId : String
  rulesFingerprint : Bytes
  deriving DecidableEq

end PolyTrading.PublicMarket
