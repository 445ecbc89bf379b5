import StrategyHost.Binary64.Written
import StrategyHost.Delay
import StrategyHost.Journal.Level
import StrategyHost.Market.Tick
import StrategyHost.Strategy.Stage
import StrategyHost.Text.Quoted
import StrategyHost.Trade.Order
import StrategyHost.Trade.Response

/-!
# Log entries

Everything that is logged, as data. An entry has a component that it comes from,
a level, and a wording.
-/

namespace StrategyHost.Journal

open StrategyHost.Market (Tick)
open StrategyHost.Strategy (Stage)
open StrategyHost.Trade (Order Response)

/-- The parts of the program that write to the log. -/
inductive Component where
  | backoff
  | config
  | contract
  | affinity
  | sender
  | publisher
  | bus
  | context
  | runtime
  | strategy
  | runner
  | watch
  deriving DecidableEq, Repr

/-- The name by which log filters and log files know a component. -/
def Component.target : Component -> String
  | backoff => "qt_core::backoff"
  | config => "qt_core::config"
  | contract => "qt_core::contract"
  | affinity => "qt_core::cpu_affinity"
  | sender => "qt_td::sender"
  | publisher => "qt_td::publisher"
  | bus => "qt_bus::local"
  | context => "qt_strategy::context"
  | runtime => "qt_strategy::runtime"
  | strategy => "qt_strategy::strategy"
  | runner => "qt_runner"
  | watch => "qt_runner::watch"

/-- Something that is worth a line in the log. -/
inductive Entry where
  | contractsLoaded (count : Nat) (path : String)
  | identifierTruncated (strategyId : String)
  | retrying (activity : String) (failure : Failure) (delay : Delay)
  | coreUnavailable (core cores : Nat)
  | coreBound (core : Nat)
  | sending (order : Order)
  | orderSkipped (ticker : String) (failure : Failure)
  | queueFull (userOrderId : UInt32) (ticker : String)
  | cancelRefused (orderId : UInt64)
  | published (userOrderId : UInt32) (ticker : String)
  | notPublished (userOrderId : UInt32) (ticker : String) (failure : Failure)
  | publisherDone (delivered lost : Nat)
  | noSubscribers (channel : String)
  | channelAdded (channel : String)
  | lagged (count : Nat)
  | subscriptionRequested (channel : String)
  | stageChanged (before after : Stage)
  | subscribing (channels : List String)
  | subscriptionClosed
  | receiveFailed (failure : Failure)
  | responseSkipped (channel : String) (failure : Failure)
  | tickSkipped (channel : String) (failure : Failure)
  | runFinished (ticks responses faults : Nat)
  | exiting (stage : Stage)
  | tickIgnored (tick : Tick)
  | tickerUnlisted (ticker : String)
  | tickShown (label : String) (tick : Tick)
  | rejectionShown (response : Response)
  | tradeShown (response : Response)
  | watchFinished (ticks : Nat)
  | starting (path strategyId url : String)

namespace Entry

/-- The component that an entry comes from. -/
def component : Entry -> Component
  | retrying .. => .backoff
  | identifierTruncated .. => .config
  | contractsLoaded .. => .contract
  | coreUnavailable .. | coreBound .. => .affinity
  | sending .. | orderSkipped .. | queueFull .. | cancelRefused .. => .sender
  | published .. | notPublished .. | publisherDone .. => .publisher
  | noSubscribers .. | channelAdded .. | lagged .. => .bus
  | subscriptionRequested .. => .context
  | stageChanged .. | subscribing .. | subscriptionClosed | receiveFailed .. | responseSkipped ..
  | tickSkipped .. | runFinished .. | exiting .. => .runtime
  | tickIgnored .. => .strategy
  | tickerUnlisted .. | tickShown .. | rejectionShown .. | tradeShown .. | watchFinished .. => .watch
  | starting .. => .runner

/-- The level of an entry. -/
def level : Entry -> Level
  | notPublished .. | receiveFailed .. => .error
  | identifierTruncated .. | retrying .. | coreUnavailable .. | orderSkipped .. | queueFull ..
  | cancelRefused .. | lagged .. | responseSkipped .. | tickSkipped .. | tickerUnlisted ..
  | rejectionShown .. => .warn
  | contractsLoaded .. | coreBound .. | sending .. | publisherDone .. | subscribing ..
  | subscriptionClosed | runFinished .. | exiting .. | tickShown .. | tradeShown ..
  | watchFinished .. | starting .. => .info
  | published .. | noSubscribers .. | channelAdded .. | subscriptionRequested .. | stageChanged ..
  | tickIgnored .. => .debug

open StrategyHost.Text (decimal signedDecimal)

/-- The wording of an order that is being sent. -/
def orderText (order : Order) : String :=
  "ticker=" ++ order.ticker ++ " " ++ order.direction.text ++ " " ++ order.offset.text ++ " "
    ++ order.orderType.text ++ " volume=" ++ decimal order.volume.toNat ++ " price="
    ++ order.price.logText ++ " user_order_id=" ++ decimal order.userOrderId.toNat

/-- The wording of a tick that is shown under a label. -/
def tickText (label : String) (tick : Tick) : String :=
  label ++ " last=" ++ tick.lastPrice.logText ++ " vol=" ++ decimal tick.volume.toNat
    ++ " bid=" ++ tick.bidPrice.logText ++ "x" ++ decimal tick.bidVolume.toNat
    ++ " ask=" ++ tick.askPrice.logText ++ "x" ++ decimal tick.askVolume.toNat

/-- The wording of a response that is not a rejection. -/
def tradeText (response : Response) : String :=
  "order " ++ decimal response.userOrderId.toNat ++ " (id " ++ decimal response.orderId.toNat
    ++ ") traded " ++ decimal response.tradedVolume.toNat ++ "/"
    ++ decimal response.originalVolume.toNat ++ " @ " ++ response.thisTradedPrice.logText
    ++ " completed=" ++ (if response.completed then "true" else "false")

/-- The wording of an entry. -/
def message : Entry -> String
  | contractsLoaded count path => "loaded " ++ decimal count ++ " contract(s) from " ++ path
  | identifierTruncated strategyId =>
    "strategy_id '" ++ strategyId
      ++ "' is longer than 16 bytes and will be truncated on the wire"
  | retrying activity failure delay =>
    activity ++ " failed: " ++ failure.message ++ ", retrying in " ++ delay.text
  | coreUnavailable core cores =>
    "CPU core " ++ decimal core ++ " not available (system has " ++ decimal cores ++ " cores)"
  | coreBound core => "bound strategy thread to CPU core " ++ decimal core
  | sending order => "send_order " ++ orderText order
  | orderSkipped ticker failure => "order for '" ++ ticker ++ "' skipped: " ++ failure.message
  | queueFull userOrderId ticker =>
    "outbound queue full, order " ++ decimal userOrderId.toNat ++ " for '" ++ ticker
      ++ "' rejected"
  | cancelRefused orderId =>
    "cancel_order(" ++ decimal orderId.toNat ++ ") rejected: no cancel command on the wire"
  | published userOrderId ticker =>
    "order " ++ decimal userOrderId.toNat ++ " for '" ++ ticker ++ "' published"
  | notPublished userOrderId ticker failure =>
    "order " ++ decimal userOrderId.toNat ++ " for '" ++ ticker ++ "' NOT published: "
      ++ failure.message
  | publisherDone delivered lost =>
    "command publisher exiting: published=" ++ decimal delivered ++ ", failed=" ++ decimal lost
  | noSubscribers channel => "no local subscribers for '" ++ channel ++ "'"
  | channelAdded channel => "local subscribe '" ++ channel ++ "'"
  | lagged count => "local subscriber lagged, " ++ decimal count ++ " message(s) dropped"
  | subscriptionRequested channel => "subscription requested: '" ++ channel ++ "'"
  | stageChanged before after => "runtime " ++ before.text ++ " → " ++ after.text
  | subscribing channels => "subscribing " ++ Text.quotedList channels
  | subscriptionClosed => "subscription closed"
  | receiveFailed failure => "receive failed: " ++ failure.message
  | responseSkipped channel failure =>
    "skipping order response on '" ++ channel ++ "': " ++ failure.message
  | tickSkipped channel failure => "skipping tick on '" ++ channel ++ "': " ++ failure.message
  | runFinished ticks responses faults =>
    "run finished: ticks=" ++ decimal ticks ++ ", order_responses=" ++ decimal responses
      ++ ", decode_errors=" ++ decimal faults
  | exiting stage => "strategy exiting from " ++ stage.text
  | tickIgnored tick =>
    "on_tick ticker_index=" ++ decimal tick.tickerIndex.toNat ++ " last_price="
      ++ tick.lastPrice.logText
  | tickerUnlisted ticker => "'" ++ ticker ++ "' is not in the contract table"
  | tickShown label tick => tickText label tick
  | rejectionShown response =>
    "order " ++ decimal response.userOrderId.toNat ++ " rejected, error_code="
      ++ signedDecimal response.errorCode.toInt
  | tradeShown response => tradeText response
  | watchFinished ticks => "watch finished after " ++ decimal ticks ++ " tick(s)"
  | starting path strategyId url =>
    "qt-runner starting: config=" ++ path ++ ", strategy_id='" ++ strategyId ++ "', bus=" ++ url

end Entry

end StrategyHost.Journal
