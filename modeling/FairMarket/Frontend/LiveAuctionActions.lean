import FairMarket.Frontend.Wallet
import FairMarket.Frontend.BidHandle
import FairMarket.Market.StandingBid
import FairMarket.Keeper.Acceptance
import FairMarket.Keeper.BidCollector

/-! The page on which a wallet locks escrow and bids. An amount that is typed there is the amount
that the keeper weighs. -/

namespace FairMarket

open CofheCiphertextEncoding
open Keeper (EncryptedBidRecord)

variable {σ : Type}

namespace Frontend

/-- A `throw` of a message, caught and thrown again as the text that is shown. -/
def shown (error : ProviderError) : ProviderError := { message := some (normalizeErrorMessage (fun _ => none) error) }

section Escrow

variable (env : External σ)

/-- The escrow as it is shown, in wei. -/
def readEscrowBalanceWithWallet (turn : CallTurn σ) (auctionId : AuctionId) (account : Address) :
    WalletProgram σ String := .rethrowing shown do
  let escrowWei ← callContract env turn fun w => .ok ((w.market.auctions auctionId).escrowBalances account)
  return toString escrowWei

end Escrow

/-- What the calls of a bid meet: the chain of the wallet, the handle that the encryption service
gives, and the order in which the two reads at the end are answered. -/
structure PlaceBidTurns (σ : Type) where
  chainId : Except ProviderError String
  ctHash : Except ProviderError ℤ
  placeBid : SendTurn σ
  getEncryptedBid : CallTurn σ
  escrowBalances : CallTurn σ
  escrowFirst : Bool

section Bid

variable (env : External σ)

def readEncryptedBidWithWallet (turn : CallTurn σ) (auctionId : AuctionId) (account : Address) :
    WalletProgram σ String := do
  let encryptedBid ← callContract env turn fun w => w.getEncryptedBid auctionId account
  return hexString encryptedBid

/-- The stored handle and the escrow, asked for at once. -/
def readBack (turns : PlaceBidTurns σ) (auctionId : AuctionId) (account : Address) :
    WalletProgram σ (String × String) :=
  if turns.escrowFirst then do
    let walletEscrow ← readEscrowBalanceWithWallet env turns.escrowBalances auctionId account
    let storedBid ← readEncryptedBidWithWallet env turns.getEncryptedBid auctionId account
    return (storedBid, walletEscrow)
  else do
    let storedBid ← readEncryptedBidWithWallet env turns.getEncryptedBid auctionId account
    let walletEscrow ← readEscrowBalanceWithWallet env turns.escrowBalances auctionId account
    return (storedBid, walletEscrow)

end Bid

section Returned

variable {env : External σ} {w last : World σ}

end Returned

end Frontend

namespace World

variable {env : External σ} {w : World σ} {auctionId : AuctionId} {bidder reader : Address}
  {bids : List EncryptedBidRecord}

end World

end FairMarket
