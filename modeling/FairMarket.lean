import FairMarket.Vault.Backing
import FairMarket.Attestation.Replay
import FairMarket.Attestation.Quorum
import FairMarket.Contracts.SlashedPot
import FairMarket.Contracts.ShieldedIdentityRegistry
import FairMarket.Contracts.IdentityBindings
import FairMarket.Market.Ringfence
import FairMarket.Market.Lifecycle
import FairMarket.Market.Custody
import FairMarket.Market.Payout
import FairMarket.Market.Authority
import FairMarket.Market.BidBook
import FairMarket.Market.Coverage
import FairMarket.Market.Anchor
import FairMarket.Market.Resubmission
import FairMarket.Market.Fallback
import FairMarket.Market.Timeout
import FairMarket.Market.Sharing
import FairMarket.Market.Claims
import FairMarket.Market.Rotation
import FairMarket.Market.Ownership
import FairMarket.Market.Rejection
import FairMarket.Market.Cancellation
import FairMarket.Market.Exit
import FairMarket.Market.Format
import FairMarket.Keeper.AuctionMonitor
import FairMarket.Keeper.BatchDispatch
import FairMarket.Keeper.FinalizeLock
import FairMarket.Keeper.Retirement
import FairMarket.Keeper.HonestCycle
import FairMarket.Keeper.SharedFile
import FairMarket.Keeper.Synchronization
import FairMarket.Keeper.DueAuctions
import FairMarket.Keeper.StateFile
import FairMarket.Keeper.ResolutionQueue
import FairMarket.Keeper.HighestBid
import FairMarket.Keeper.DispatchQueue
import FairMarket.Keeper.RedisWire
import FairMarket.Market.EventLedger
import FairMarket.Attestation.SlashCounts
import FairMarket.Frontend.BidHandle
import FairMarket.Frontend.CreateAuction
import FairMarket.Frontend.LockedEscrow
import FairMarket.Frontend.SellerActions
import FairMarket.Frontend.SettlementActions
