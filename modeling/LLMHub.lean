import LLMHub.Settlement.BalanceTransfer
import LLMHub.Settlement.Books
import LLMHub.Billing.Overdraft
import LLMHub.TopUp.ExactlyOnce
import LLMHub.UserSession.SingleWinner
import LLMHub.Supply.ProbeLease
import LLMHub.Routing.PublicRoutable
import LLMHub.Routing.PriceCeiling
import LLMHub.Routing.AbilityShares
import LLMHub.Routing.TierDistribution
import LLMHub.Routing.FallbackReach
import LLMHub.RelayConvert.UsageRoundTrip
import LLMHub.RelayConvert.RequestRoundTrip
import LLMHub.RelayConvert.GeminiToChat
import LLMHub.RelayConvert.ClaudeToChat
import LLMHub.RelayConvert.TerminalStream
import LLMHub.SystemTask.LeaseFailure
import LLMHub.UserSession.RevokedCache
import LLMHub.RelayConvert.ClaudeMessages
import LLMHub.RelayConvert.ClaudeDelivery
import LLMHub.Settlement.EarningList
import LLMHub.TopUp.ManualCompletion
import LLMHub.TaskPolling.Unfinished
import LLMHub.Settlement.PayoutDefault
import LLMHub.Settlement.PaidOnce
import LLMHub.Subscription.PurchaseLimit
import LLMHub.PerfMetrics.RedisWindow
import LLMHub.PerfMetrics.Percentile
import LLMHub.Routing.HealthRanking
import LLMHub.Channel.KeyPolling
import LLMHub.Channel.StatusUpdate
import LLMHub.Routing.Affinity
import LLMHub.RelayConvert.ClaudeToChatRequest
import LLMHub.ParamOverride.PruneObjects
import LLMHub.ParamOverride.WildcardDelete
import LLMHub.ParamOverride.NegativeIndex
