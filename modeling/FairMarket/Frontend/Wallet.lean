import FairMarket.Lib.Guest
import FairMarket.Market.Runs

/-! What the pages of the frontend do through a wallet: view calls, and transactions of one
account that they wait for. The chain goes on meanwhile. -/

namespace FairMarket

variable {σ : Type}

/-- What has been emitted from one world to a later one, in order. -/
def World.eventsUntil (w next : World σ) : List Event := (next.log.take (next.log.length - w.log.length)).reverse

theorem World.eventsUntil_eq {w next : World σ} {events : List Event} (grown : next.log = events ++ w.log) :
    w.eventsUntil next = events.reverse := by
  rw [World.eventsUntil, grown, List.length_append, Nat.add_sub_cancel, List.take_left']
  rfl

namespace Frontend

/-- What a provider rejects a request with: revert data, its own or nested, and messages. -/
structure ProviderError where
  data : Option Revert := none
  errorData : Option Revert := none
  shortMessage : Option String := none
  message : Option String := none
  errorMessage : Option String := none

/-- `String.prototype.includes`. -/
def includes (text part : String) : Bool := text.toList.tails.any fun rest => part.toList.isPrefixOf rest

/-- `normalizeErrorMessage`, with what a page says of the errors it knows. -/
def normalizeErrorMessage (known : Revert → Option String) (error : ProviderError) : String :=
  match (error.data <|> error.errorData).bind known with
  | some message => message
  | none =>
    let candidate := (error.shortMessage <|> error.message <|> error.errorMessage).getD ""
    if candidate = "" then "Transaction failed. Please try again."
    else if includes candidate "user rejected" then "Transaction was rejected in the wallet."
    else candidate

/-- What a page does through a wallet. -/
abbrev WalletProgram (σ : Type) := Guest (World σ) ProviderError

def throwNew (message : String) {α : Type} : WalletProgram σ α := Guest.raise { message := some message }

/-- Throw unless the condition holds. -/
def insist (condition : Prop) [Decidable condition] (message : String) : WalletProgram σ Unit :=
  if condition then pure () else throwNew message

/-- What happens until a node answers a view call, and the error it may answer with. -/
structure CallTurn (σ : Type) where
  earlier : List (Msg × Tx σ) := []
  failure : Option ProviderError := none

/-- What becomes of a transaction that a page asks its wallet for. -/
inductive SendTurn (σ : Type) where
  | rejected (error : ProviderError)
  | unconfirmed
  | mined (earlier : List (Msg × Tx σ)) (timestamp : ℕ) (priorBlockhash : Bytes32)

section Calls

variable (env : External σ)

/-- `eth_call` at the latest block. -/
def callContract (turn : CallTurn σ) {α : Type} (read : World σ → Except Revert α) : WalletProgram σ α := do
  .meanwhile fun w => play (World.transact env) w turn.earlier
  match turn.failure with
  | some error => .raise error
  | none => .ask fun w => (read w).mapError fun raised => { data := some raised }

/-- Submit the transaction, with the events of its receipt if its status is `0x1`. -/
def submit (msg : Msg) (tx : World σ → Except Revert (Tx σ)) : WalletProgram σ (Option (List Event)) := fun w =>
  match tx w >>= fun tx => w.transact env (msg, tx) with
  | .ok next => (.ok (some (w.eventsUntil next)), next)
  | .error _ => (.ok none, w)

/-- `sendTransaction` and `waitForReceipt`. -/
def sendAndWait (turn : SendTurn σ) (account : Address) (value : ℕ) (tx : World σ → Except Revert (Tx σ)) :
    WalletProgram σ (Option (List Event)) :=
  match turn with
  | .rejected error => .raise error
  | .unconfirmed => throwNew "Transaction confirmation timed out."
  | .mined earlier timestamp priorBlockhash => do
    .meanwhile fun w => play (World.transact env) w earlier
    submit env { sender := account, value, timestamp, priorBlockhash } tx

/-- A transaction that a page insists on. -/
def confirm (turn : SendTurn σ) (account : Address) (value : ℕ) (tx : World σ → Except Revert (Tx σ))
    (failed : String) : WalletProgram σ (List Event) := do
  match ← sendAndWait env turn account value tx with
  | some events => return events
  | none => throwNew failed

end Calls

section Returned

variable {env : External σ} {w last : World σ} {α : Type}

theorem insist_returns {condition : Prop} [Decidable condition] {message : String} {answer : Unit}
    (returned : (insist condition message).Returns w answer last) : condition ∧ w = last := by
  unfold insist at returned
  split at returned
  · exact ⟨‹_›, (Guest.pure_returns.mp returned).2⟩
  · exact absurd returned Guest.raise_returns

theorem callContract_returns {turn : CallTurn σ} {read : World σ → Except Revert α} {value : α}
    (returned : (callContract env turn read).Returns w value last) :
    last = play (World.transact env) w turn.earlier ∧ read last = .ok value := by
  simp only [callContract, Guest.bind_returns, Guest.meanwhile_returns] at returned
  obtain ⟨-, _, rfl, answered⟩ := returned
  cases failure : turn.failure with
  | some error =>
    rw [failure] at answered
    exact absurd answered Guest.raise_returns
  | none =>
    rw [failure] at answered
    obtain ⟨reads, rfl⟩ := Guest.ask_returns.mp answered
    exact ⟨rfl, mapError_eq_ok.mp reads⟩

/-- Whatever a view call answers, it leaves only what others did meanwhile. -/
theorem callContract_after (turn : CallTurn σ) (read : World σ → Except Revert α) :
    (callContract env turn read w).2 = play (World.transact env) w turn.earlier := by
  cases failure : turn.failure with
  | some error =>
    unfold callContract
    rw [failure]
    rfl
  | none =>
    unfold callContract
    rw [failure]
    rfl

theorem submit_returns {msg : Msg} {tx : World σ → Except Revert (Tx σ)} {events : List Event}
    (returned : (submit env msg tx).Returns w (some events) last) :
    (∃ sent, tx w = .ok sent ∧ w.transact env (msg, sent) = .ok last) ∧ events = w.eventsUntil last := by
  unfold Guest.Returns submit at returned
  cases outcome : (tx w >>= fun tx => w.transact env (msg, tx)) with
  | error raised =>
    rw [outcome] at returned
    cases returned
  | ok next =>
    rw [outcome] at returned
    obtain rfl : next = last := congrArg Prod.snd returned
    refine ⟨bind_eq_ok.mp outcome, ?_⟩
    exact (Option.some.inj (Except.ok.inj (congrArg Prod.fst returned))).symm

/-- The transaction of an account was accepted after what others did. -/
structure Confirmed (env : External σ) (account : Address) (value : ℕ) (tx : World σ → Except Revert (Tx σ))
    (w last : World σ) (events : List Event) (earlier : List (Msg × Tx σ)) (msg : Msg) (sent : Tx σ) : Prop where
  sender : msg.sender = account
  paid : msg.value = value
  names : tx (play (World.transact env) w earlier) = .ok sent
  accepted : (play (World.transact env) w earlier).transact env (msg, sent) = .ok last
  emitted : events = (play (World.transact env) w earlier).eventsUntil last

theorem Confirmed.last_eq {account : Address} {value : ℕ} {tx : World σ → Except Revert (Tx σ)}
    {events : List Event} {earlier : List (Msg × Tx σ)} {msg : Msg} {sent : Tx σ}
    (confirmed : Confirmed env account value tx w last events earlier msg sent) :
    last = play (World.transact env) w (earlier ++ [(msg, sent)]) := by
  rw [play_append, play_cons, advance_ok confirmed.accepted, play_nil]

theorem confirm_returns {turn : SendTurn σ} {account : Address} {value : ℕ}
    {tx : World σ → Except Revert (Tx σ)} {failed : String} {events : List Event}
    (returned : (confirm env turn account value tx failed).Returns w events last) :
    ∃ earlier msg sent, Confirmed env account value tx w last events earlier msg sent := by
  simp only [confirm, Guest.bind_returns] at returned
  obtain ⟨receipt, middle, sends, insists⟩ := returned
  cases receipt with
  | none => exact absurd insists Guest.raise_returns
  | some logged =>
    obtain ⟨rfl, rfl⟩ := Guest.pure_returns.mp insists
    cases turn with
    | rejected error => exact absurd sends Guest.raise_returns
    | unconfirmed => exact absurd sends Guest.raise_returns
    | mined earlier timestamp priorBlockhash =>
      simp only [sendAndWait, Guest.bind_returns, Guest.meanwhile_returns] at sends
      obtain ⟨-, _, rfl, submits⟩ := sends
      obtain ⟨⟨sent, names, accepted⟩, emitted⟩ := submit_returns submits
      exact ⟨earlier, _, sent, rfl, rfl, names, accepted, emitted⟩

/-- A transaction that is mined and accepted is confirmed. -/
theorem confirm_accepted {earlier : List (Msg × Tx σ)} {timestamp value : ℕ} {priorBlockhash : Bytes32}
    {account : Address} {tx : World σ → Except Revert (Tx σ)} {failed : String} {sent : Tx σ}
    (names : tx (play (World.transact env) w earlier) = .ok sent)
    (accepted : (play (World.transact env) w earlier).transact env
      ({ sender := account, value, timestamp, priorBlockhash }, sent) = .ok last) :
    (confirm env (.mined earlier timestamp priorBlockhash) account value tx failed).Returns w
      ((play (World.transact env) w earlier).eventsUntil last) last := by
  refine Guest.bind_returns.mpr ⟨some ((play (World.transact env) w earlier).eventsUntil last), last, ?_,
    Guest.pure_returns.mpr ⟨rfl, rfl⟩⟩
  refine Guest.bind_returns.mpr ⟨(), _, Guest.meanwhile_returns.mpr rfl, ?_⟩
  unfold Guest.Returns submit
  rw [names, ok_bind, accepted]

end Returned

end Frontend

end FairMarket
